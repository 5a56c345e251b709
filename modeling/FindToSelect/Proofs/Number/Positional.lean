import FindToSelect.Proofs.Number.Plain
import FindToSelect.Proofs.Token.Extent
import Mathlib.Data.Bool.AllAny
import Mathlib.Data.List.Induction
import Mathlib.Data.Nat.Digits.Defs

/-!
# Positional notation

What digits denote is fixed here apart from the ways in which numerals are read and written:
`digitValue` is the value of a digit by its place in an alphabet, and `positional base ds` the sum
of the values, each times a power of the base. Against it are shown

* `Numeral.value_eq_positional`, `Text.hexValue_eq_positional` — reading: both kinds of numerals
  denote what their digits denote, zeros at the start included;
* `isCanonical_integerDigits` — writing: the text of an integer is its canonical decimal
  (`IsCanonical`), that is digits without a zero at the start, after a sign if it is negative.
-/

namespace FindToSelect

/-! ### Digits and what they denote -/

/-- The digits of the bases up to sixteen in the order of their values, in both cases. -/
def digitAlphabets : List Char × List Char :=
  ("0123456789abcdef".toList, "0123456789ABCDEF".toList)

/-- **The value of a digit**: its place in one of the alphabets, or sixteen if it is in none. -/
def digitValue (c : Char) : Nat :=
  min (digitAlphabets.1.idxOf c) (digitAlphabets.2.idxOf c)

/-- **The number that digits denote** in a base, the most significant one first. -/
def positional (base : Nat) (ds : List Char) : Nat :=
  Nat.ofDigits base (ds.reverse.map digitValue)

/-- One more digit at the end makes every other one worth a power more. -/
theorem positional_append_singleton (base : Nat) (ds : List Char) (c : Char) :
    positional base (ds ++ [c]) = base * positional base ds + digitValue c := by
  unfold positional
  rw [List.reverse_append, List.reverse_singleton, List.singleton_append, List.map_cons,
    Nat.ofDigits_cons]
  omega

/-- **Reading digits from left to right** gives the number that they denote. -/
theorem foldl_eq_positional {base : Nat} {digit : Char → Nat} {ds : List Char}
    (h : ∀ c ∈ ds, digit c = digitValue c) :
    ds.foldl (fun n c => base * n + digit c) 0 = positional base ds := by
  -- the accumulator has seen the digits from the front, so the induction is on the last one
  induction ds using List.reverseRecOn with
  | nil => rfl
  | append_singleton ds c ih =>
    have hlast : digit c = digitValue c := h c (by simp)
    rw [List.foldl_append, List.foldl_cons, List.foldl_nil, hlast, positional_append_singleton,
      ih fun d hd => h d (List.mem_append_left _ hd)]

/-- **The digits that are read**, by their values: hexadecimal ones are below sixteen, decimal ones
below ten. -/
theorem digit_spec (c : Char) :
    Text.hexDigit? c = (if digitValue c < 16 then some (digitValue c) else none) ∧
      (c.isDigit = true ↔ digitValue c < 10) ∧
      (c.isDigit = true → c.toNat - '0'.toNat = digitValue c) := by
  -- in ASCII every character is looked at
  by_cases h : c.toNat < 128
  · refine of_ascii c h ?_
    decide +kernel
  · -- neither the ranges of the reader nor the alphabets go past ASCII
    have hletters : ∀ d ∈ digitAlphabets.1 ++ digitAlphabets.2, d.toNat < 128 :=
      List.all_iff_forall_prop.1 (by decide)
    have hmem : c ∉ digitAlphabets.1 ++ digitAlphabets.2 := fun hc => h (hletters c hc)
    rw [List.mem_append, not_or] at hmem
    have hvalue : digitValue c = 16 := by
      rw [digitValue, List.idxOf_eq_length hmem.1, List.idxOf_eq_length hmem.2]
      rfl
    have hrange : ∀ lo hi : Char, hi.toNat < 128 → ¬ (lo ≤ c ∧ c ≤ hi) := by
      rintro lo hi hlt ⟨-, hle⟩
      exact h (Nat.lt_of_le_of_lt hle hlt)
    have hdigit : ¬ c.isDigit = true := by
      intro hc
      exact hrange '0' '9' (by decide) (Char.isDigit_iff_toNat.1 hc)
    rw [hvalue, Text.hexDigit?, if_neg (hrange _ _ (by decide)), if_neg (hrange _ _ (by decide)),
      if_neg (hrange _ _ (by decide))]
    exact ⟨rfl, ⟨fun hc => absurd hc hdigit, by simp⟩, fun hc => absurd hc hdigit⟩

/-- **A hexadecimal digit, and its value.** -/
def IsHexDigit (c : Char) (n : Nat) : Prop :=
  digitValue c = n ∧ n < 16

instance (c : Char) (n : Nat) : Decidable (IsHexDigit c n) :=
  inferInstanceAs (Decidable (_ ∧ _))

theorem isHexDigit_iff_hexDigit? {c : Char} {n : Nat} :
    IsHexDigit c n ↔ Text.hexDigit? c = some n := by
  rw [IsHexDigit, (digit_spec c).1]
  split
  · next hc =>
    rw [Option.some.injEq]
    exact ⟨And.left, fun h => ⟨h, h ▸ hc⟩⟩
  · next hc =>
    -- a value of sixteen belongs to no digit
    refine ⟨?_, nofun⟩
    rintro ⟨rfl, hlt⟩
    exact absurd hlt hc

theorem isDigit_iff_digitValue {c : Char} : c.isDigit = true ↔ digitValue c < 10 :=
  (digit_spec c).2.1

theorem Text.isHexDigit_iff_digitValue {c : Char} : isHexDigit c = true ↔ digitValue c < 16 := by
  rw [isHexDigit, (digit_spec c).1]
  split <;> simp_all

/-! ### Reading -/

/-- **Decimal digits are read as what they denote.** -/
theorem Numeral.value_eq_positional {ds : List Char} (h : ∀ c ∈ ds, digitValue c < 10) :
    value ds = positional 10 ds := by
  apply foldl_eq_positional
  intro c hc
  exact (digit_spec c).2.2 (isDigit_iff_digitValue.2 (h c hc))

/-- **Hexadecimal digits are read as what they denote.** -/
theorem Text.hexValue_eq_positional {ds : List Char} (h : ∀ c ∈ ds, digitValue c < 16) :
    hexValue ds = positional 16 ds := by
  apply foldl_eq_positional
  intro c hc
  rw [(digit_spec c).1, if_pos (h c hc), Option.getD_some]

/-! ### Writing -/

/-- **The canonical decimal of an integer**: digits that denote it, without a zero at the start
unless there is no other digit, after a minus sign if it is negative. -/
def IsCanonical (n : Int) (cs : List Char) : Prop :=
  ∃ ds, cs = (if n < 0 then ['-'] else []) ++ ds ∧ ds ≠ [] ∧ (∀ c ∈ ds, digitValue c < 10) ∧
    positional 10 ds = n.natAbs ∧ (ds.head? = some '0' → ds = ['0'])

/-- **An integer is written as its canonical decimal.** -/
theorem isCanonical_integerDigits (n : Int) : IsCanonical n (integerDigits n) := by
  obtain ⟨hne, hdigits⟩ := isDigits_toDigits n.natAbs
  have hvalues : ∀ c ∈ Nat.toDigits 10 n.natAbs, digitValue c < 10 := by
    intro c hc
    exact isDigit_iff_digitValue.1 (hdigits c hc)
  -- the digits of the magnitude, behind a sign
  refine ⟨Nat.toDigits 10 n.natAbs, ?_, hne, hvalues, ?_, toDigits_of_head?_zero⟩
  · rw [integerDigits]
    by_cases hn : n < 0 <;> simp [FloatLayout.sign, hn]
  · rw [← Numeral.value_eq_positional hvalues]
    exact Nat.ofDigitChars_ten_toDigits

end FindToSelect
