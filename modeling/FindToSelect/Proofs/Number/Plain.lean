import FindToSelect.Statement
import Mathlib.Data.List.TakeWhile

/-!
# Numbers in statements are plain decimals

A number is written in a statement with an optional sign, at least one digit, and perhaps a point
and at least one more digit; a zero stands first only if it is the whole part
(`Number.isPlain_sql`). There is never an exponent, since `sqlFloat` places the point at every
magnitude.

What there is to check are the places where digits could run out: `stripZeros` leaves a digit of
every number but zero (`isDigits_stripZeros`), and `plainDigits` puts a digit on either side of the
point (`isPlain_plainDigits`). The first of the digits is no zero, as it is that of a number
(`toDigits_of_head?_zero`), and stripping leaves it in its place.
-/

namespace FindToSelect

/-- **Decimal digits**, at least one. -/
def IsDigits (ds : List Char) : Prop :=
  ds ≠ [] ∧ ∀ c ∈ ds, c.isDigit = true

/-- **A minus sign or none.** -/
def IsSign (sign : List Char) : Prop :=
  sign = [] ∨ sign = ['-']

/-- **Plain decimals**: perhaps a sign, digits, and perhaps a point and more digits. -/
inductive IsDecimal : List Char → Prop
  | whole {sign ds : List Char} : IsSign sign → IsDigits ds → IsDecimal (sign ++ ds)
  | fraction {sign ds es : List Char} :
      IsSign sign → IsDigits ds → IsDigits es → IsDecimal (sign ++ (ds ++ '.' :: es))

/-- **The digits of a whole part**: a zero alone, or digits of which the first is no zero. -/
def IsWholePart (ds : List Char) : Prop :=
  IsDigits ds ∧ (ds.head? = some '0' → ds = ['0'])

/-- **Decimals without idle zeros at the start**, `-?(0|[1-9][0-9]*)(\.[0-9]+)?`. -/
inductive IsPlain : List Char → Prop
  | whole {sign ds : List Char} : IsSign sign → IsWholePart ds → IsPlain (sign ++ ds)
  | fraction {sign ds es : List Char} :
      IsSign sign → IsWholePart ds → IsDigits es → IsPlain (sign ++ (ds ++ '.' :: es))

theorem IsPlain.isDecimal {cs : List Char} (h : IsPlain cs) : IsDecimal cs := by
  cases h with
  | whole hs hd => exact .whole hs hd.1
  | fraction hs hd he => exact .fraction hs hd.1 he

/-- Of the numbers only the negative ones are written with a sign. -/
theorem isSign_sign (negative : Bool) : IsSign (FloatLayout.sign negative) := by
  cases negative with
  | false => exact Or.inl rfl
  | true => exact Or.inr rfl

theorem isDigits_toDigits (n : Nat) : IsDigits (Nat.toDigits 10 n) :=
  ⟨Nat.toDigits_ne_nil, fun _ h => Nat.isDigit_of_mem_toDigits (by decide) (by decide) h⟩

theorem IsDigits.append {ds es : List Char} (hd : IsDigits ds) (he : ∀ c ∈ es, c.isDigit = true) :
    IsDigits (ds ++ es) := by
  refine ⟨by simp [hd.1], fun c hc => ?_⟩
  rcases List.mem_append.1 hc with h | h
  · exact hd.2 c h
  · exact he c h

theorem isDigit_of_mem_replicate {n : Nat} {c : Char} (h : c ∈ List.replicate n '0') :
    c.isDigit = true := by
  rw [List.eq_of_mem_replicate h]
  decide

/-- **Stripping zeros leaves a digit** of a number that is not zero. -/
theorem isDigits_stripZeros {n : Nat} (h : n ≠ 0) : IsDigits (stripZeros (Nat.toDigits 10 n)) := by
  unfold stripZeros
  refine ⟨fun hnil => h ?_, fun c hc => ?_⟩
  · -- digits that are all zero are those of zero
    rw [List.reverse_eq_nil_iff, List.dropWhile_eq_nil_iff] at hnil
    have hzero : ∀ c ∈ Nat.toDigits 10 n, c = '0' := by
      intro c hc
      simpa using hnil c (List.mem_reverse.2 hc)
    rw [← Nat.ofDigitChars_ten_toDigits (n := n), List.eq_replicate_of_mem hzero,
      Nat.ofDigitChars_replicate_zero, Nat.mul_zero]
  · rw [List.mem_reverse] at hc
    exact (isDigits_toDigits n).2 c (List.mem_reverse.1 ((List.dropWhile_sublist _).subset hc))

/-- Only the digits of zero start with a zero. -/
theorem toDigits_of_head?_zero {n : Nat} (h : (Nat.toDigits 10 n).head? = some '0') :
    Nat.toDigits 10 n = ['0'] := by
  induction n using Nat.strongRecOn with
  | ind n ih =>
    by_cases hn : n < 10
    · rw [Nat.toDigits_of_lt_base hn] at h ⊢
      rw [List.head?_cons, Option.some.injEq] at h
      rw [h]
    · -- the first digit is that of the tenth part, which is not zero
      have hten : 10 ≤ n := Nat.le_of_not_lt hn
      rw [Nat.toDigits_of_base_le (by decide) hten, List.head?_append,
        List.head?_eq_some_head Nat.toDigits_ne_nil, Option.some_or,
        ← List.head?_eq_some_head] at h
      have hzero := ih (n / 10) (by omega) h
      have hvalue : n / 10 = 0 := by
        rw [← Nat.ofDigitChars_ten_toDigits (n := n / 10), hzero]
        rfl
      omega

theorem isWholePart_toDigits (n : Nat) : IsWholePart (Nat.toDigits 10 n) :=
  ⟨isDigits_toDigits n, toDigits_of_head?_zero⟩

theorem toDigits_ne_zero {n : Nat} (h : n ≠ 0) : Nat.toDigits 10 n ≠ ['0'] := by
  intro hzero
  rw [← Nat.ofDigitChars_ten_toDigits (n := n), hzero] at h
  exact h rfl

/-- **The first digit stays** when zeros are stripped from the end, and it is no zero. -/
theorem head?_stripZeros_ne {n : Nat} (h : n ≠ 0) :
    (stripZeros (Nat.toDigits 10 n)).head? ≠ some '0' := by
  -- what is left is a start of the digits, and not empty
  have hprefix : stripZeros (Nat.toDigits 10 n) <+: Nat.toDigits 10 n := by
    rw [stripZeros, ← List.reverse_suffix, List.reverse_reverse]
    exact List.dropWhile_suffix _
  obtain ⟨zeros, hzeros⟩ := hprefix
  intro hhead
  refine toDigits_ne_zero h (toDigits_of_head?_zero ?_)
  rw [← hzeros, List.head?_append, hhead, Option.some_or]

/-- **A point among digits has a digit on either side**, and no idle zero before it. -/
theorem isPlain_plainDigits (negative : Bool) {ds : List Char} (h : IsDigits ds)
    (hhead : ds.head? ≠ some '0') (exponent : Int) :
    IsPlain (FloatLayout.sign negative ++ plainDigits false ds exponent) := by
  -- digits that start like `ds` do not start with a zero
  have hwhole : ∀ {es : List Char}, IsDigits es → es.head? = ds.head? → IsWholePart es :=
    fun he heq => ⟨he, fun h0 => absurd (heq.symm.trans h0) hhead⟩
  unfold plainDigits
  split
  · -- zeros are filled in behind the digits
    rw [wholeFraction, if_neg (by decide), List.append_nil]
    refine .whole (isSign_sign negative) (hwhole (h.append fun c => isDigit_of_mem_replicate) ?_)
    rw [List.head?_append, List.head?_eq_some_head h.1, Option.some_or]
  · next hneg =>
    simp only
    split
    · next hlt =>
      -- the point falls inside the digits
      have htake : IsDigits (ds.take (ds.length - (-exponent).toNat)) := by
        refine ⟨fun hnil => ?_, fun c hc => h.2 c (List.mem_of_mem_take hc)⟩
        have hlen := congrArg List.length hnil
        simp only [List.length_take, List.length_nil] at hlen
        omega
      have hdrop : IsDigits (ds.drop (ds.length - (-exponent).toNat)) := by
        refine ⟨fun hnil => ?_, fun c hc => h.2 c (List.mem_of_mem_drop hc)⟩
        have hlen := congrArg List.length hnil
        simp only [List.length_drop, List.length_nil] at hlen
        omega
      refine .fraction (isSign_sign negative) (hwhole htake ?_) hdrop
      rw [List.head?_take, if_neg (by omega)]
    · -- the point falls before them
      have hzero : IsWholePart ['0'] := ⟨⟨by simp, by simp⟩, fun _ => rfl⟩
      refine .fraction (isSign_sign negative) hzero ⟨by simp [h.1], fun c hc => ?_⟩
      rcases List.mem_append.1 hc with hc | hc
      · exact isDigit_of_mem_replicate hc
      · exact h.2 c hc

/-- **Integers are written plain**, with no point. -/
theorem isPlain_integerDigits (n : Int) : IsPlain (integerDigits n) :=
  .whole (isSign_sign _) (isWholePart_toDigits _)

/-- **Numbers in statements are plain decimals.** -/
theorem Number.isPlain_sql (n : Number) : IsPlain n.sql := by
  cases n with
  | integer n => exact isPlain_integerDigits n
  | float x =>
    rw [Number.sql]
    split
    · exact isPlain_integerDigits _
    · rw [FloatLayout.write, FloatLayout.magnitude]
      split
      · exact .whole (isSign_sign _) (isWholePart_toDigits 0)
      · next hd =>
        simp only [sqlFloat, if_true]
        exact isPlain_plainDigits _ (isDigits_stripZeros hd) (head?_stripZeros_ne hd) _

/-- Numbers in statements are decimals, which is all that reading a statement asks for. -/
theorem Number.isDecimal_sql (n : Number) : IsDecimal n.sql :=
  n.isPlain_sql.isDecimal

end FindToSelect
