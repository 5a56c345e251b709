import FindToSelect.Proofs.Number.Plain
import FindToSelect.Proofs.Number.Rounding
import FindToSelect.Proofs.Token.Written

/-!
# Numbers are read back from their texts

The text of a number is one token, and the token is the number (`Token.whole_integerDigits`,
`Token.whole_jsonFloat`).

Between a number and its text stands a numeral. `Numeral.text` writes one with the sign of its
exponent, and the longest numeral of that text is the numeral itself (`Numeral.shape_text`). So what
is left of a format is to say which numeral it writes. For an integer that is plain. A double is
written as its shortest decimal with the point at some place, or with an exponent; in each case the
numeral denotes a decimal of the same value (`exists_numeral_plainDigits`,
`exists_numeral_scientificDigits`), and that decimal rounds to the double, as
`FloatLiteral.ofDecimal_mul_pow` and `FloatLiteral.ofDecimal_shortest` say.
-/

namespace FindToSelect

namespace Numeral

/-! ### The text of a numeral -/

/-- The text of a fraction, with its point. -/
def fractionText : Option (List Char) → List Char
  | none => []
  | some ds => '.' :: ds

/-- The text of an exponent, with its mark and its sign. -/
def exponentText : Option Int → List Char
  | none => []
  | some e => 'e' :: exponentDigits true e

/-- **The text of a numeral.** -/
def text (n : Numeral) : List Char :=
  n.whole ++ (fractionText n.fraction ++ exponentText n.exponent)

/-- **A numeral of digits**, with at least one before the point. -/
structure HasDigits (n : Numeral) : Prop where
  whole : IsDigits n.whole
  fraction : ∀ ds ∈ n.fraction, ∀ c ∈ ds, c.isDigit = true

/-- Digits go as far as what follows them does not start with one. -/
theorem digits_append_of_head {ds ys : List Char} (hd : ∀ c ∈ ds, c.isDigit = true)
    (hy : ∀ c ∈ ys.head?, c.isDigit = false) : digits (ds ++ ys) = ds :=
  (takeWhile_append_of_head hy ds).trans (List.takeWhile_eq_self_iff.2 hd)

theorem digits_of_forall {ds : List Char} (hd : ∀ c ∈ ds, c.isDigit = true) : digits ds = ds :=
  List.takeWhile_eq_self_iff.2 hd

theorem head?_exponentText {e : Option Int} : ∀ c ∈ (exponentText e).head?, c = 'e' := by
  cases e <;> simp [exponentText]

/-- What stands behind the whole part starts with the point or with the mark of the exponent. -/
theorem head?_fractionText_append {f : Option (List Char)} {e : Option Int} :
    ∀ c ∈ (fractionText f ++ exponentText e).head?, c = '.' ∨ c = 'e' := by
  cases f with
  | none => exact fun c hc => Or.inr (head?_exponentText c hc)
  | some ds => simp [fractionText]

theorem value_toDigits (n : Nat) : value (Nat.toDigits 10 n) = n :=
  Nat.ofDigitChars_ten_toDigits

/-- **An exponent is read back from its text.** -/
theorem exponentOf_exponentText (e : Int) :
    exponentOf (exponentText (some e)) = .power e (exponentText (some e)).length := by
  have hds := isDigits_toDigits e.natAbs
  have hdigits : digits (Nat.toDigits 10 e.natAbs) = Nat.toDigits 10 e.natAbs :=
    digits_of_forall hds.2
  have hlen : (Nat.toDigits 10 e.natAbs).length ≠ 0 := fun h => hds.1 (List.length_eq_zero_iff.1 h)
  -- the digits are those of the magnitude, and the sign stands before them
  by_cases he : e < 0
  · have hsigned : signed true e.natAbs = e := by
      simp only [signed, if_true]
      omega
    simp [exponentOf, exponentText, exponentDigits, he, hdigits, hlen, value_toDigits, hsigned]
  · have hsigned : signed false e.natAbs = e := by
      simp only [signed, Bool.false_eq_true, if_false]
      omega
    simp [exponentOf, exponentText, exponentDigits, he, hdigits, hlen, value_toDigits, hsigned]

/-- **A fraction is read back from its text**, an exponent behind it or not. -/
theorem fraction?_fractionText {f : Option (List Char)}
    (h : ∀ ds ∈ f, ∀ c ∈ ds, c.isDigit = true) (e : Option Int) :
    fraction? (fractionText f ++ exponentText e) = f := by
  cases f with
  | none => cases e <;> simp [fraction?, fractionText, exponentText]
  | some ds =>
    have hdigits : digits (ds ++ exponentText e) = ds := by
      refine digits_append_of_head (h ds rfl) fun c hc => ?_
      rw [head?_exponentText c hc]
      decide
    simp [fraction?, fractionText, hdigits]

/-- The exponent stands behind the text of the fraction; here there is none. -/
theorem shape_of_absent {cs whole : List Char} (hne : whole ≠ []) (hwhole : digits cs = whole)
    {fraction : Option (List Char)} (hfraction : fraction? (cs.drop whole.length) = fraction)
    (h : exponentOf (cs.drop (whole ++ fractionText fraction).length) = .absent) :
    shape cs = (some ⟨whole, fraction, none⟩, (whole ++ fractionText fraction).length) := by
  cases fraction <;> simp_all [shape, fractionText]

/-- The exponent stands behind the text of the fraction. -/
theorem shape_of_power {cs whole : List Char} (hne : whole ≠ []) (hwhole : digits cs = whole)
    {fraction : Option (List Char)} (hfraction : fraction? (cs.drop whole.length) = fraction)
    {e : Int} {n : Nat}
    (h : exponentOf (cs.drop (whole ++ fractionText fraction).length) = .power e n) :
    shape cs =
      (some ⟨whole, fraction, some e⟩, (whole ++ fractionText fraction).length + n) := by
  cases fraction <;> simp_all [shape, fractionText]

/-- **The longest numeral of the text of a numeral is the numeral.** -/
theorem shape_text {n : Numeral} (h : n.HasDigits) :
    shape n.text = (some n, n.text.length) := by
  obtain ⟨whole, fraction, exponent⟩ := n
  have hwhole : digits (text ⟨whole, fraction, exponent⟩) = whole := by
    refine digits_append_of_head h.whole.2 fun c hc => ?_
    rcases head?_fractionText_append c hc with rfl | rfl <;> decide
  have hfraction : fraction? ((text ⟨whole, fraction, exponent⟩).drop whole.length) = fraction := by
    rw [text, List.drop_left, fraction?_fractionText h.fraction]
  -- behind the digits and the fraction there is the text of the exponent
  have hdrop : (text ⟨whole, fraction, exponent⟩).drop (whole ++ fractionText fraction).length =
      exponentText exponent := by
    rw [text, ← List.append_assoc, List.drop_left]
  cases exponent with
  | none =>
    rw [shape_of_absent h.whole.1 hwhole hfraction (by rw [hdrop]; rfl)]
    simp [text, exponentText]
  | some e =>
    rw [shape_of_power h.whole.1 hwhole hfraction (by rw [hdrop, exponentOf_exponentText])]
    simp [text, Nat.add_assoc]

/-- The text of a numeral is not marked as hexadecimal. -/
theorem isHexMarked_text {n : Numeral} (h : n.HasDigits) : isHexMarked n.text = false := by
  obtain ⟨c, more, hwhole⟩ := List.exists_cons_of_ne_nil h.whole.1
  -- the second character, if there is one, is a digit, the point or the mark of the exponent
  have hsecond : ∀ d ∈ (more ++ (fractionText n.fraction ++ exponentText n.exponent)).head?,
      d ≠ 'x' ∧ d ≠ 'X' := by
    intro d hd
    cases more with
    | nil => rcases head?_fractionText_append d hd with rfl | rfl <;> decide
    | cons e more =>
      obtain rfl : e = d := Option.some.inj hd
      have hdigit := h.whole.2 e (by rw [hwhole]; simp)
      constructor <;> rintro rfl <;> exact absurd hdigit (by decide)
  rw [text, hwhole, List.cons_append]
  generalize more ++ (fractionText n.fraction ++ exponentText n.exponent) = rest at hsecond
  cases rest with
  | nil => rfl
  | cons d rest =>
    obtain ⟨hx, hX⟩ := hsecond d rfl
    simp [isHexMarked, hx, hX]

/-- **The text of a numeral is read as its token**, to the end. -/
theorem scan_text {n : Numeral} (h : n.HasDigits) (negative : Bool) :
    scan negative n.text = ⟨n.kind negative, n.text.length⟩ := by
  rw [scan, isHexMarked_text h, if_neg (by decide), scanDecimal, shape_text h]

end Numeral

/-! ### The token of a numeral -/

/-- No digit is a blank: the blanks lie below the digits or above them. -/
theorem not_isBlank_of_isDigit {c : Char} (h : c.isDigit = true) : Text.isBlank c = false := by
  obtain ⟨hlow, hhigh⟩ : 48 ≤ c.toNat ∧ c.toNat ≤ 57 := Char.isDigit_iff_toNat.1 h
  refine Bool.eq_false_iff.2 fun hb => ?_
  obtain ⟨r, hr, hle⟩ := CharSet.mem_iff_exists.1 hb
  have hruns : ∀ r ∈ Text.blank.runs, r.2 < 48 ∨ 57 < r.1 := by decide
  have := hruns r hr
  omega

theorem ofPunctuation?_of_isDigit {c : Char} (h : c.isDigit = true) :
    TokenKind.ofPunctuation? c = none := by
  unfold TokenKind.ofPunctuation?
  iterate 6 rw [if_neg (by rintro rfl; exact absurd h (by decide))]

/-- **The texts of a sign**, and whether it negates. There may be none. -/
def signTexts : List (List Char × Bool) :=
  [([], false), (['+'], false), (['-'], true)]

/-- **A numeral with a sign is one token** if the numeral alone is read to its end. -/
theorem Token.whole_of_scan {sign more : List Char} {negative : Bool} {c : Char} {kind : TokenKind}
    (hsign : (sign, negative) ∈ signTexts) (hc : c.isDigit = true)
    (hscan : Numeral.scan negative (c :: more) = ⟨kind, (c :: more).length⟩) :
    Whole kind (sign ++ c :: more) := by
  -- a digit is none of the characters that start another token
  have hne : ∀ d : Char, d.isDigit = false → c ≠ d := by
    rintro d hd rfl
    rw [hc] at hd
    cases hd
  simp only [signTexts, List.mem_cons, Prod.mk.injEq, List.not_mem_nil, or_false] at hsign
  -- a digit starts the numeral itself, and a sign is a token with the numeral
  rcases hsign with ⟨rfl, rfl⟩ | ⟨rfl, rfl⟩ | ⟨rfl, rfl⟩
  · refine ⟨c, more, rfl, not_isBlank_of_isDigit hc, hne '/' (by decide), ?_⟩
    simp [scan, ofPunctuation?_of_isDigit hc, hne '"' (by decide), hne '\'' (by decide),
      hne '-' (by decide), hne '+' (by decide), hc, hscan]
  · refine ⟨'+', c :: more, rfl, by decide, by decide, ?_⟩
    simp [scan, TokenKind.ofPunctuation?, scanSigned, hc, hscan]
  · refine ⟨'-', c :: more, rfl, by decide, by decide, ?_⟩
    simp [scan, TokenKind.ofPunctuation?, scanSigned, hc, hscan]

/-- **The text of a numeral with its sign is one token.** -/
theorem Token.whole_numeral {n : Numeral} (h : n.HasDigits) {sign : List Char} {negative : Bool}
    (hsign : (sign, negative) ∈ signTexts) : Whole (n.kind negative) (sign ++ n.text) := by
  have hscan := Numeral.scan_text h negative
  obtain ⟨c, more, hwhole⟩ := List.exists_cons_of_ne_nil h.whole.1
  have hc : c.isDigit = true := h.whole.2 c (by rw [hwhole]; simp)
  rw [Numeral.text, hwhole, List.cons_append] at hscan ⊢
  exact whole_of_scan hsign hc hscan

theorem sign_mem_signTexts (negative : Bool) :
    (FloatLayout.sign negative, negative) ∈ signTexts := by
  cases negative <;> decide

/-- **The text of an integer is one token**, if the integer fits in a word. -/
theorem Token.whole_integerDigits {n : Int} (h : fitsWord n = true) :
    Whole (.integer n) (integerDigits n) := by
  have hdigits : Numeral.HasDigits ⟨Nat.toDigits 10 n.natAbs, none, none⟩ :=
    ⟨isDigits_toDigits _, by simp⟩
  have hwhole := whole_numeral hdigits (sign_mem_signTexts (n < 0))
  have hsigned : signed (n < 0) n.natAbs = n := by
    unfold signed
    split
    · next hn =>
      have hneg : n < 0 := of_decide_eq_true hn
      omega
    · next hn =>
      have hneg : ¬ n < 0 := fun h => hn (decide_eq_true h)
      omega
  -- without a point and an exponent the numeral is an integer
  have hkind : Numeral.kind (n < 0) ⟨Nat.toDigits 10 n.natAbs, none, none⟩ = .integer n := by
    simp [Numeral.kind, Numeral.value_toDigits, hsigned, h]
  have htext : Numeral.text ⟨Nat.toDigits 10 n.natAbs, none, none⟩ = Nat.toDigits 10 n.natAbs :=
    List.append_nil _
  rwa [hkind, htext] at hwhole

/-! ### The numerals of doubles -/

namespace Numeral

/-- Zeros before digits mean nothing. -/
theorem value_replicate_append (k : Nat) (ds : List Char) :
    value (List.replicate k '0' ++ ds) = value ds := by
  rw [value, Nat.ofDigitChars_append, Nat.ofDigitChars_replicate_zero, Nat.mul_zero]
  rfl

/-- Each zero behind digits counts for a power of ten. -/
theorem value_append_replicate (ds : List Char) (k : Nat) :
    value (ds ++ List.replicate k '0') = value ds * Nat.pow 10 k := by
  rw [value, Nat.ofDigitChars_append, Nat.ofDigitChars_replicate_zero, Nat.mul_comm]
  rfl

/-- **A numeral for a decimal**: it is no integer, for it has a point or an exponent, and it rounds
as the decimal does. -/
structure Denotes (n : Numeral) (d : Decimal) : Prop where
  hasDigits : n.HasDigits
  isFloat : (n.fraction.isNone && n.exponent.isNone) = false
  rounds : ∀ negative,
    FloatLiteral.ofDecimal negative n.decimal = FloatLiteral.ofDecimal negative d

/-- **Digits with the point in its place are a numeral.** -/
theorem exists_numeral_plainDigits {ds : List Char} (h : IsDigits ds) (exponent : Int) :
    ∃ n : Numeral, n.Denotes ⟨value ds, exponent⟩ ∧ n.text = plainDigits true ds exponent := by
  unfold plainDigits
  split
  · next he =>
    -- one more zero stands behind the point
    refine ⟨⟨ds ++ List.replicate exponent.toNat '0', some ['0'], none⟩, ⟨?_, rfl, ?_⟩, ?_⟩
    · exact ⟨h.append fun c => isDigit_of_mem_replicate, by simp⟩
    · intro negative
      have hzeros : ds ++ List.replicate exponent.toNat '0' ++ ['0'] =
          ds ++ List.replicate (exponent.toNat + 1) '0' := by
        rw [List.append_assoc, List.replicate_succ']
      have hexp : (0 - (1 : Nat) + (exponent.toNat + 1 : Nat) : Int) = exponent := by omega
      simp only [decimal, Option.getD_some, Option.getD_none, hzeros, value_append_replicate,
        FloatLiteral.ofDecimal_mul_pow, List.length_singleton, hexp]
    · simp [text, fractionText, exponentText, wholeFraction]
  simp only
  split
  · next he hlt =>
    -- the point falls inside the digits
    obtain ⟨k, hk⟩ : ∃ k, ds.length - (-exponent).toNat = k := ⟨_, rfl⟩
    have hplaces : (0 - ((ds.drop k).length : Int)) = exponent := by
      rw [List.length_drop]
      omega
    rw [hk]
    refine ⟨⟨ds.take k, some (ds.drop k), none⟩, ⟨⟨⟨fun hnil => ?_, ?_⟩, ?_⟩, rfl, ?_⟩, ?_⟩
    · rcases List.take_eq_nil_iff.1 hnil with hnil | hnil
      · omega
      · exact h.1 hnil
    · exact fun c hc => h.2 c (List.mem_of_mem_take hc)
    · rintro es ⟨⟩ c hc
      exact h.2 c (List.mem_of_mem_drop hc)
    · intro negative
      simp only [decimal, Option.getD_some, Option.getD_none, List.take_append_drop, hplaces]
    · simp [text, fractionText, exponentText]
  · next he hle =>
    -- the point falls before them
    obtain ⟨k, hk⟩ : ∃ k, (-exponent).toNat - ds.length = k := ⟨_, rfl⟩
    have hplaces : (0 - ((List.replicate k '0' ++ ds).length : Int)) = exponent := by
      rw [List.length_append, List.length_replicate]
      omega
    rw [hk]
    refine ⟨⟨['0'], some (List.replicate k '0' ++ ds), none⟩,
      ⟨⟨⟨by simp, by simp⟩, ?_⟩, rfl, fun negative => ?_⟩, ?_⟩
    · rintro es ⟨⟩ c hc
      rcases List.mem_append.1 hc with hc | hc
      · exact isDigit_of_mem_replicate hc
      · exact h.2 c hc
    · have hvalue := value_replicate_append (k + 1) ds
      rw [List.replicate_succ, List.cons_append] at hvalue
      simp only [decimal, Option.getD_some, Option.getD_none, List.singleton_append, hvalue,
        hplaces]
    · simp [text, fractionText, exponentText]

/-- **Digits with an exponent are a numeral.** -/
theorem exists_numeral_scientificDigits {ds : List Char} (h : IsDigits ds) (exponent : Int) :
    ∃ n : Numeral, n.Denotes ⟨value ds, exponent⟩ ∧
      n.text = scientificDigits true ds (exponent + ds.length - 1) := by
  obtain ⟨c, more, rfl⟩ := List.exists_cons_of_ne_nil h.1
  have hc : IsDigits [c] := ⟨by simp, by simpa using h.2 c (by simp)⟩
  -- a single digit has no point behind it
  cases more with
  | nil =>
    refine ⟨⟨[c], none, some (exponent + 1 - 1)⟩, ⟨⟨hc, by simp⟩, rfl, fun negative => ?_⟩, rfl⟩
    simp [decimal]
  | cons d more =>
    refine ⟨⟨[c], some (d :: more), some (exponent + (c :: d :: more).length - 1)⟩,
      ⟨⟨hc, ?_⟩, rfl, fun negative => ?_⟩, ?_⟩
    · rintro es ⟨⟩ e he
      exact h.2 e (List.mem_cons_of_mem c he)
    · have hexp : exponent + (c :: d :: more).length - 1 - (d :: more).length = exponent := by
        simp only [List.length_cons]
        omega
      simp only [decimal, Option.getD_some, List.singleton_append, hexp]
    · simp [text, fractionText, exponentText, scientificDigits]

/-- What is stripped from digits is zeros. -/
theorem eq_stripZeros_append (ds : List Char) :
    ds = stripZeros ds ++ List.replicate (ds.length - (stripZeros ds).length) '0' := by
  have hsplit : stripZeros ds ++ (ds.reverse.takeWhile (· == '0')).reverse = ds := by
    rw [stripZeros, ← List.reverse_append, List.takeWhile_append_dropWhile, List.reverse_reverse]
  have hzero : ∀ c ∈ (ds.reverse.takeWhile (· == '0')).reverse, c = '0' := by
    intro c hc
    simpa using List.mem_takeWhile_imp (List.mem_reverse.1 hc)
  -- what is stripped has the length that is missing
  have hlen := congrArg List.length hsplit
  rw [List.length_append] at hlen
  have hcount : (ds.reverse.takeWhile (· == '0')).reverse.length =
      ds.length - (stripZeros ds).length := by omega
  rw [← hcount, ← List.eq_replicate_of_mem hzero, hsplit]

/-- **The text of a decimal is that of a numeral** which rounds as the decimal does. -/
theorem exists_numeral_magnitude (d : Decimal) :
    ∃ n : Numeral, n.Denotes d ∧ n.text = jsonFloat.magnitude d := by
  obtain ⟨m, e⟩ := d
  unfold FloatLayout.magnitude
  split
  · next h0 =>
    -- zero is zero at every exponent
    refine ⟨⟨['0'], some ['0'], none⟩, ⟨⟨⟨by simp, by simp⟩, by simp⟩, rfl, fun _ => ?_⟩, rfl⟩
    dsimp only at h0
    have hvalue : (decimal ⟨['0'], some ['0'], none⟩).digits = 0 := by decide
    simp only [FloatLiteral.ofDecimal, hvalue, h0, if_true]
  · next h0 =>
    dsimp only at h0 ⊢
    have hds := isDigits_stripZeros h0
    have hall := eq_stripZeros_append (Nat.toDigits 10 m)
    generalize stripZeros (Nat.toDigits 10 m) = ds at hds hall
    generalize (Nat.toDigits 10 m).length - ds.length = k at hall
    -- the zeros that are stripped go into the exponent
    have hm : m = value ds * Nat.pow 10 k := by
      rw [← value_append_replicate, ← hall, value_toDigits]
    have hround : ∀ negative, FloatLiteral.ofDecimal negative ⟨value ds, e + k⟩ =
        FloatLiteral.ofDecimal negative ⟨m, e⟩ := fun negative => by
      rw [hm, FloatLiteral.ofDecimal_mul_pow]
    obtain ⟨n, hn, htext⟩ : ∃ n : Numeral, n.Denotes ⟨value ds, e + k⟩ ∧ n.text =
        if jsonFloat.plain (e + k + ds.length - 1) then plainDigits jsonFloat.fraction ds (e + k)
        else scientificDigits jsonFloat.plus ds (e + k + ds.length - 1) := by
      split
      · exact exists_numeral_plainDigits hds (e + k)
      · exact exists_numeral_scientificDigits hds (e + k)
    exact ⟨n, ⟨hn.hasDigits, hn.isFloat, fun b => (hn.rounds b).trans (hround b)⟩, htext⟩

end Numeral

/-- **The text of a double is one token.** -/
theorem Token.whole_jsonFloat (x : Double) : Whole (.float (.finite x)) (jsonFloat.write x) := by
  obtain ⟨n, hn, htext⟩ := Numeral.exists_numeral_magnitude (x.shortest jsonFloat.tie)
  -- the numeral is no integer, and it rounds to the double as its shortest decimal does
  have hkind : n.kind x.negative = .float (.finite x) := by
    rw [Numeral.kind, hn.isFloat, Bool.false_and, if_neg (by decide), hn.rounds,
      FloatLiteral.ofDecimal_shortest]
  have hwhole := whole_numeral hn.hasDigits (sign_mem_signTexts x.negative)
  rwa [hkind, htext] at hwhole

end FindToSelect
