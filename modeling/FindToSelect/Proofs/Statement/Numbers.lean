import FindToSelect.Proofs.Arguments.Image
import FindToSelect.Proofs.Number.Positional
import FindToSelect.Proofs.Number.Rounding
import Mathlib.Algebra.Order.Field.Power
import Mathlib.Data.Rat.Cast.Order
import Mathlib.Tactic.Linarith
import Mathlib.Tactic.Positivity

/-!
# Numbers on their way from a text to a statement

A literal may denote any double, an infinity, or no number at all; what comes through to a statement
is a number with a plain decimal (`Arguments.numbers_read_and_written`). Two halves make this up.

*Reading.* `Value.numbers` are the numbers anywhere in a value. Each is the number of a token of the
text (`Number.IsLiteral`): an integer of 64 bits, or a finite double. A text with any other floating
literal, wherever it stands, is refused (`Arguments.isFinite_of_parse`).

*Writing.* That the text is a plain decimal is `Number.isPlain_sql`. It is never `-0`
(`Number.sql_ne_negativeZero`): only zeros have no digit but zeros, and both zeros are whole. And it
is exact where it can be: `Double.value` is the rational number that a double is, and a double that
is an integer up to `2 ^ 53` is written as that integer (`Number.sql_of_value`).
-/

namespace FindToSelect

/-! ### The numbers of a value -/

namespace Value

mutual

/-- **The numbers anywhere in a value**, from left to right. -/
def numbers : Value → List Number
  | number n => [n]
  | array vs => elementNumbers vs
  | object ms => memberNumbers ms
  | null | boolean _ | string _ => []

/-- The numbers in the elements of an array. -/
def elementNumbers : List Value → List Number
  | [] => []
  | v :: vs => numbers v ++ elementNumbers vs

/-- The numbers in the members of an object. -/
def memberNumbers : List (String × Value) → List Number
  | [] => []
  | (_, v) :: ms => numbers v ++ memberNumbers ms

end

/-- The numbers of elements are those of each. -/
theorem mem_elementNumbers {n : Number} {vs : List Value} :
    n ∈ elementNumbers vs ↔ ∃ v ∈ vs, n ∈ v.numbers := by
  induction vs with
  | nil => simp [elementNumbers]
  | cons v vs ih => rw [elementNumbers, List.mem_append, ih, List.exists_mem_cons_iff]

theorem mem_memberNumbers {n : Number} {ms : List (String × Value)} :
    n ∈ memberNumbers ms ↔ ∃ m ∈ ms, n ∈ m.2.numbers := by
  induction ms with
  | nil => simp [memberNumbers]
  | cons m ms ih => rw [memberNumbers, List.mem_append, ih, List.exists_mem_cons_iff]

end Value

/-! ### Reading -/

/-- **The number of a literal**: an integer of 64 bits, or a finite double. -/
inductive Number.IsLiteral : TokenKind → Number → Prop
  | integer {i : Int} : -2 ^ 63 ≤ i → i ≤ 2 ^ 63 - 1 → IsLiteral (.integer i) (.integer i)
  | float (x : Double) : IsLiteral (.float (.finite x)) (.float x)

/-- Whether a token is no floating literal, or one that denotes a number. -/
def TokenKind.IsFinite (k : TokenKind) : Prop :=
  ∀ l, k = .float l → ∃ x, l = .finite x

namespace Arguments

/-- A scalar with a number is that number. -/
theorem IsScalar.eq_of_mem_numbers {k : TokenKind} {v : Value} (h : IsScalar k v) {n : Number}
    (hn : n ∈ v.numbers) : v = .number n := by
  cases h with
  | integer i => rw [List.mem_singleton.1 hn]
  | float x => rw [List.mem_singleton.1 hn]
  | string | true | false | null => exact absurd hn List.not_mem_nil

/-- **A number of a value is one of its tokens.** -/
theorem IsValue.exists_of_mem_numbers {k : Nat} {ts : List Token} {v : Value} (h : IsValue k ts v)
    {n : Number} (hn : n ∈ v.numbers) : ∃ t ∈ ts, IsScalar t.kind (.number n) := by
  have hscalar : ∀ {ts : List Token} {v : Value}, (∃ t, ts = [t] ∧ IsScalar t.kind v) →
      n ∈ v.numbers → ∃ t ∈ ts, IsScalar t.kind (.number n) := by
    rintro ts v ⟨t, rfl, hs⟩ hn
    exact ⟨t, List.mem_singleton_self t, hs.eq_of_mem_numbers hn ▸ hs⟩
  induction k generalizing ts v with
  | zero => exact hscalar h hn
  | succ k ih =>
    rcases h with h | h
    · exact hscalar h hn
    · -- a number of a container is one of an item, whose tokens stand between the marks
      cases h with
      | @array opening closing us vs _ hs _ =>
        rw [Value.numbers, Value.mem_elementNumbers] at hn
        obtain ⟨v, hv, hn⟩ := hn
        obtain ⟨ws, hw, hsub⟩ := hs.exists_of_mem hv
        obtain ⟨t, ht, hkind⟩ := ih hw hn
        exact ⟨t, List.mem_cons_of_mem _ (List.mem_append_left _ (hsub t ht)), hkind⟩
      | @object opening closing us es _ hs _ =>
        rw [Value.numbers, Value.mem_memberNumbers] at hn
        obtain ⟨m, hm, hn⟩ := hn
        obtain ⟨ws, hw, hsub⟩ := hs.exists_of_mem (Document.mem_of_mem_ofEntries hm)
        cases hw with
        | @intro key colon name ws v _ _ hv =>
          obtain ⟨t, ht, hkind⟩ := ih hv hn
          have hmem := hsub t (List.mem_cons_of_mem _ (List.mem_cons_of_mem _ ht))
          exact ⟨t, List.mem_cons_of_mem _ (List.mem_append_left _ hmem), hkind⟩

/-- **Every number that is read is that of a literal.** -/
theorem exists_literal_of_parse {cs : List Char} {vs : List Value} (h : parse cs = .ok vs)
    {v : Value} (hv : v ∈ vs) {n : Number} (hn : n ∈ v.numbers) :
    ∃ t ∈ Token.lex cs, n.IsLiteral t.kind := by
  obtain ⟨us, hus, hsub⟩ := (isArguments_of_read h).exists_of_mem hv
  obtain ⟨t, ht, hs⟩ := hus.exists_of_mem_numbers hn
  refine ⟨t, hsub t ht, ?_⟩
  -- the range of an integer is that of the integers of a text
  have hfits : ∀ i, t.kind = .integer i → fitsWord i = true :=
    fun i hi => Token.fitsWord_of_mem_lex (hsub t ht) hi
  generalize t.kind = kind at hs hfits
  cases hs with
  | integer i =>
    obtain ⟨hlow, hhigh⟩ := fitsWord_iff.1 (hfits i rfl)
    exact .integer (by omega) (by omega)
  | float x => exact .float x

/-- **A text that is read has finite literals only**, wherever they stand. -/
theorem isFinite_of_parse {cs : List Char} {vs : List Value} (h : parse cs = .ok vs) :
    ∀ t ∈ Token.lex cs, t.kind.IsFinite := by
  refine (isArguments_of_read h).forall_mem ?_ fun hv => hv.forall_kind ?_ ?_ ?_
  -- neither commas nor scalars, keys and marks are floating literals, finite ones apart
  · intro t hcomma l hl
    rw [hcomma] at hl
    cases hl
  · intro k v hs l hl
    cases hs with
    | float x => exact ⟨x, (TokenKind.float.inj hl).symm⟩
    | string | integer | true | false | null => cases hl
  · intro k name hk l hl
    cases hk <;> cases hl
  · simp [TokenKind.IsFinite]

end Arguments

/-! ### Writing -/

/-- **The rational number that a double is.** -/
def Double.value (x : Double) : ℚ :=
  (if x.negative then -1 else 1) * (x.mantissa * 2 ^ ((x.scale : ℤ) - 1074))

namespace Double

theorem cast_pow_two (k : ℕ) : ((Nat.pow 2 k : ℕ) : ℚ) = 2 ^ k :=
  Nat.cast_pow 2 k

/-- One has `2 ^ 1074` units, with the exponent as an integer. -/
theorem exists_unitsInOne_eq : ∃ k : ℕ, (k : ℤ) = 1074 ∧ unitsInOne = Nat.pow 2 k :=
  ⟨1074, rfl, by decide +kernel⟩

/-- A double that is an integer has that many units of one. -/
theorem units_of_value {x : Double} {n : Int} (h : x.value = n) :
    x.units = n.natAbs * unitsInOne := by
  have hmagnitude : (0 : ℚ) ≤ x.mantissa * 2 ^ ((x.scale : ℤ) - 1074) := by positivity
  -- the magnitude of the value is that of the integer, whatever the sign
  have habs : (n.natAbs : ℚ) = x.mantissa * 2 ^ ((x.scale : ℤ) - 1074) := by
    rw [Nat.cast_natAbs, Int.cast_abs, ← h, value, abs_mul, abs_of_nonneg hmagnitude]
    split <;> simp
  -- in units of `2 ^ (-1074)` the scale is a power of two
  have hpow : (2 : ℚ) ^ ((x.scale : ℤ) - 1074) * unitsInOne = (Nat.pow 2 x.scale : ℕ) := by
    obtain ⟨k, hk, hone⟩ := exists_unitsInOne_eq
    rw [hone, cast_pow_two, cast_pow_two, ← hk, ← zpow_natCast 2 k, ← zpow_add₀ two_ne_zero,
      sub_add_cancel, zpow_natCast]
  have hunits : (x.units : ℚ) = (n.natAbs * unitsInOne : ℕ) := by
    rw [units, Nat.cast_mul, Nat.cast_mul, habs, mul_assoc, hpow]
  exact_mod_cast hunits

/-- **The sign and the whole part of a double that is an integer** make up that integer. -/
theorem signed_of_value {x : Double} {n : Int} (h : x.value = n) :
    signed x.negative n.natAbs = n := by
  have hmagnitude : (0 : ℚ) ≤ x.mantissa * 2 ^ ((x.scale : ℤ) - 1074) := by positivity
  rw [value] at h
  unfold signed
  -- the sign of the double is that of the integer, and a zero may have either
  split
  · next hn =>
    have hle : (n : ℚ) ≤ 0 := by
      rw [← h, if_pos hn]
      linarith
    have : n ≤ 0 := by exact_mod_cast hle
    omega
  · next hn =>
    have hle : (0 : ℚ) ≤ n := by
      rw [← h, if_neg hn]
      linarith
    have : 0 ≤ n := by exact_mod_cast hle
    omega

/-- Only a zero has a shortest decimal without digits. -/
theorem eq_zero_of_shortest {tie : Tie} {x : Double} (h : (x.shortest tie).digits = 0) :
    x = zero x.negative := by
  have hback := FloatLiteral.ofDecimal_shortest tie x
  -- the shortest decimal is read back as the double, and without digits it is read as a zero
  rw [FloatLiteral.ofDecimal, if_pos h] at hback
  exact (FloatLiteral.finite.inj hback).symm

end Double

namespace Number

/-- **A double that is an integer up to `2 ^ 53`** is written as the integer. -/
theorem sql_of_value {x : Double} {n : Int} (h : x.value = n) (hn : n.natAbs ≤ 2 ^ 53) :
    (float x).sql = integerDigits n := by
  have hone : 0 < Double.unitsInOne := by decide +kernel
  have hunits := Double.units_of_value h
  have hwhole : x.whole = n.natAbs := by
    rw [Double.whole, hunits, Nat.mul_div_cancel _ hone]
  -- the units are a multiple of those of one
  have hexact : x.isWhole = true := by
    rw [Double.isWhole, hunits, Nat.mul_mod_left]
    rfl
  rw [sql, hexact, hwhole, if_pos (by simpa using hn), Double.signed_of_value h]

/-! ### No negative zero -/

/-- **A text is not `-0`** if behind its sign stands neither a sign nor, where there is one, a zero
alone. -/
theorem sign_append_ne {negative : Bool} {cs : List Char} (hsign : cs.head? ≠ some '-')
    (hzero : negative = true → cs ≠ ['0']) : FloatLayout.sign negative ++ cs ≠ ['-', '0'] := by
  cases negative with
  | false =>
    rintro rfl
    exact hsign rfl
  | true => exact fun h => hzero rfl (List.cons.inj h).2

/-- An integer is not written as `-0`. -/
theorem integerDigits_ne (n : Int) : integerDigits n ≠ ['-', '0'] := by
  refine sign_append_ne (fun hhead => ?_) fun hn => toDigits_ne_zero ?_
  · have hdigit := (isDigits_toDigits n.natAbs).2 '-' (List.mem_of_mem_head? hhead)
    exact absurd hdigit (by decide)
  -- behind a minus sign stands an integer below zero, so its digits are not a zero
  · have hneg : n < 0 := of_decide_eq_true hn
    omega

/-- Digits with a point start with their first digit, or with a zero and the point. -/
theorem plainDigits_start (c : Char) (ds : List Char) (exponent : Int) :
    ∃ rest, plainDigits false (c :: ds) exponent = c :: rest ∨
      plainDigits false (c :: ds) exponent = '0' :: '.' :: rest := by
  unfold plainDigits
  -- zeros behind the digits, a point among them, or a point before them
  split
  · exact ⟨_, .inl rfl⟩
  · simp only
    split
    · next hlt =>
      obtain ⟨k, hk⟩ : ∃ k, (c :: ds).length - (-exponent).toNat = k + 1 :=
        ⟨(c :: ds).length - (-exponent).toNat - 1, by omega⟩
      rw [hk]
      exact ⟨_, .inl rfl⟩
    · exact ⟨_, .inr rfl⟩

/-- **Digits that do not start with a zero** are not written as `-0`. -/
theorem sign_append_plainDigits_ne (negative : Bool) {ds : List Char} (h : IsDigits ds)
    (hhead : ds.head? ≠ some '0') (exponent : Int) :
    FloatLayout.sign negative ++ plainDigits false ds exponent ≠ ['-', '0'] := by
  obtain ⟨c, ds, rfl⟩ := List.exists_cons_of_ne_nil h.1
  have hdigit : c ≠ '-' := by
    rintro rfl
    exact absurd (h.2 '-' List.mem_cons_self) (by decide)
  have hzero : c ≠ '0' := fun hc => hhead (congrArg some hc)
  obtain ⟨rest, hrest | hrest⟩ := plainDigits_start c ds exponent
  · rw [hrest]
    exact sign_append_ne (by simpa using hdigit) fun _ hone => hzero (List.cons.inj hone).1
  · rw [hrest]
    exact sign_append_ne (by simp) fun _ => by simp

/-- **The negative zero is written without its sign**, and no other number is written as a zero. -/
theorem sql_ne_negativeZero (n : Number) : n.sql ≠ ['-', '0'] := by
  cases n with
  | integer n => exact integerDigits_ne n
  | float x =>
    rw [sql]
    split
    · exact integerDigits_ne _
    · next hlarge =>
      rw [FloatLayout.write, FloatLayout.magnitude]
      split
      · next hd =>
        -- a zero is whole, and small
        rw [Double.eq_zero_of_shortest hd] at hlarge
        exact absurd (by simp [Double.isWhole, Double.whole]) hlarge
      · next hd =>
        -- any other double has digits, and the first of them is no zero
        simp only [sqlFloat, if_true]
        exact sign_append_plainDigits_ne _ (isDigits_stripZeros hd) (head?_stripZeros_ne hd) _

end Number

/-! ### From a text to a statement -/

/-- **Numbers come through as plain decimals.** In a text that is read every floating literal is
finite, and every number anywhere in the arguments is that of a literal: an integer of 64 bits or a
finite double. A number is written as a plain decimal, never as a negative zero. An integer, and
a double that is an integer up to `2 ^ 53`, is written as its canonical decimal, so that both are
written alike. -/
theorem Arguments.numbers_read_and_written :
    (∀ cs vs, parse cs = .ok vs →
      (∀ t ∈ Token.lex cs, t.kind.IsFinite) ∧
        ∀ v ∈ vs, ∀ n ∈ v.numbers, ∃ t ∈ Token.lex cs, n.IsLiteral t.kind) ∧
      (∀ n : Number, IsPlain n.sql ∧ n.sql ≠ ['-', '0']) ∧
      (∀ i : Int, IsCanonical i (Number.integer i).sql) ∧
      ∀ (x : Double) (i : Int), x.value = i → i.natAbs ≤ 2 ^ 53 →
        IsCanonical i (Number.float x).sql ∧ (Number.float x).sql = (Number.integer i).sql := by
  refine ⟨fun cs vs h => ⟨isFinite_of_parse h, fun v hv n hn => exists_literal_of_parse h hv hn⟩,
    fun n => ⟨n.isPlain_sql, n.sql_ne_negativeZero⟩, isCanonical_integerDigits, ?_⟩
  intro x i hx hi
  have hsql : (Number.float x).sql = integerDigits i := Number.sql_of_value hx hi
  exact ⟨hsql ▸ isCanonical_integerDigits i, hsql⟩

/-- A negative zero inside an array, which is written as the integer zero, and a numeral that is too
large for an integer and is read as a double. -/
theorem Arguments.numbers_read_and_written_zero :
    let cs := "[-0.0], 9223372036854775808".toList
    let large : Double := ⟨false, 2 ^ 52, 1085, by decide, by decide, by decide⟩
    parse cs = .ok [.array [.number (.float (.zero true))], .number (.float large)] ∧
      (∃ t ∈ Token.lex cs, Number.IsLiteral t.kind (.float (.zero true))) ∧
      (∃ t ∈ Token.lex cs, Number.IsLiteral t.kind (.float large)) ∧
      (Double.zero true).value = (0 : Int) ∧ IsCanonical 0 (Number.float (.zero true)).sql ∧
      (Number.float (.zero true)).sql = ['0'] ∧
      IsPlain (Number.float large).sql := by
  intro cs large
  have hlex : Token.lex cs =
      [⟨.openBracket, ⟨0, 1⟩⟩, ⟨.float (.finite (.zero true)), ⟨1, 5⟩⟩, ⟨.closeBracket, ⟨5, 6⟩⟩,
        ⟨.comma, ⟨6, 7⟩⟩, ⟨.float (.finite large), ⟨8, 27⟩⟩] := by
    decide +kernel
  -- the second argument, behind the comma
  have hlast : (read [⟨.float (.finite large), ⟨8, 27⟩⟩]).result =
      .ok [.number (.float large)] := by
    rw [read_cons]
    rfl
  have hparse : parse cs =
      .ok [.array [.number (.float (.zero true))], .number (.float large)] := by
    rw [parse, hlex, read_cons]
    exact congrArg (Except.map _) hlast
  have hvalue : (Double.zero true).value = (0 : Int) := by simp [Double.value, Double.zero]
  obtain ⟨hread, hwritten, -, hexact⟩ := numbers_read_and_written
  have hliteral := (hread cs _ hparse).2
  refine ⟨hparse, hliteral _ List.mem_cons_self _ List.mem_cons_self, ?_, hvalue,
    (hexact _ 0 hvalue (by decide)).1, (hexact _ 0 hvalue (by decide)).2, (hwritten _).1⟩
  exact hliteral _ (List.mem_cons_of_mem _ List.mem_cons_self) _ List.mem_cons_self

end FindToSelect
