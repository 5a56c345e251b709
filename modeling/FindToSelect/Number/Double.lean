/-!
# Double-precision numbers

A literal with a point, with an exponent or with too many digits denotes the double-precision number
nearest to what is written. This file holds these numbers exactly, as natural numbers, so that
reading and writing them is arithmetic and nothing else:

* `Double` — a finite double: a sign and `mantissa · 2 ^ scale` units, the unit being `2 ^ (-1074)`.
  The proof fields make the representation unique, so equality of doubles is equality of the record
  (the two zeros differ);
* `FloatLiteral` — what a literal may denote: a finite double, an infinity, or not a number;
* `FloatLiteral.ofRatio` — **rounding**: the double nearest to a ratio of natural numbers, halves
  going to the even mantissa and an overflow to the infinity;
* `FloatLiteral.ofDecimal` — the same for `digits · 10 ^ exponent`, with exponents out of reach
  settled first, so that `1e999999999` costs no more than `1e9`.
-/

namespace FindToSelect

/-- **A finite double**: the number `± mantissa · 2 ^ scale` in units of `2 ^ (-1074)`. The mantissa
has at most 53 bits, and exactly 53 unless the scale is the least one. -/
structure Double where
  negative : Bool
  mantissa : Nat
  scale : Nat
  mantissa_lt : mantissa < 0x20000000000000
  scale_le : scale ≤ 2045
  normal : 0 < scale → 0x10000000000000 ≤ mantissa
deriving DecidableEq

/-- **What a floating literal denotes.** -/
inductive FloatLiteral where
  | finite (x : Double)
  | infinite (negative : Bool)
  | nan
deriving DecidableEq

/-- **A decimal number** `digits · 10 ^ exponent`. -/
structure Decimal where
  digits : Nat
  exponent : Int
deriving DecidableEq

namespace Double

/-- The zero of either sign. -/
def zero (negative : Bool) : Double :=
  ⟨negative, 0, 0, by decide, by decide, by decide⟩

/-- The magnitude in units of `2 ^ (-1074)`. -/
def units (x : Double) : Nat :=
  x.mantissa * Nat.pow 2 x.scale

/-- The number of units in one. -/
def unitsInOne : Nat :=
  Nat.pow 2 1074

/-- Whether the number is a whole number. -/
def isWhole (x : Double) : Bool :=
  x.units % unitsInOne == 0

/-- The whole part of the magnitude. -/
def whole (x : Double) : Nat :=
  x.units / unitsInOne

@[simp] theorem units_zero (b : Bool) : (zero b).units = 0 := by
  simp [zero, units]

end Double

/-! ### Rounding to the nearest -/

/-- **The natural number nearest to `n / d`**, a half going to the even neighbour. -/
def roundHalfEven (n d : Nat) : Nat :=
  if 2 * (n % d) < d then n / d
  else if d < 2 * (n % d) then n / d + 1
  else n / d + n / d % 2

theorem div_le_roundHalfEven (n d : Nat) : n / d ≤ roundHalfEven n d := by
  unfold roundHalfEven
  split
  · omega
  · split <;> omega

/-- The scale at which `u` units, or a little more, have a mantissa of at most 53 bits. -/
def scaleFor (u : Nat) : Nat :=
  u.log2 - 52

theorem le_div_scaleFor {u : Nat} (h : 0 < scaleFor u) :
    0x10000000000000 ≤ u / Nat.pow 2 (scaleFor u) := by
  have hu : u ≠ 0 := by
    rintro rfl
    simp [scaleFor] at h
  refine (Nat.le_div_iff_mul_le (Nat.two_pow_pos _)).2 ?_
  calc 0x10000000000000 * Nat.pow 2 (scaleFor u)
      = 2 ^ (52 + scaleFor u) := (Nat.pow_add 2 52 (scaleFor u)).symm
    _ ≤ 2 ^ u.log2 := Nat.pow_le_pow_right (by decide) (by unfold scaleFor at h ⊢; omega)
    _ ≤ u := Nat.log2_self_le hu

namespace FloatLiteral

/-- **A rounded mantissa put in its place.** A mantissa that has grown to `2 ^ 53` moves to the next
scale; past the last scale the literal is infinite. -/
def ofMantissa (negative : Bool) (m s : Nat) (h : 0 < s → 0x10000000000000 ≤ m) : FloatLiteral :=
  if hm : m < 0x20000000000000 then
    if hs : s ≤ 2045 then .finite ⟨negative, m, s, hm, hs, h⟩ else .infinite negative
  else
    if hs : s + 1 ≤ 2045 then
      .finite ⟨negative, 0x10000000000000, s + 1, by decide, hs, fun _ => Nat.le_refl _⟩
    else .infinite negative

/-- **The literal nearest to `± num / den`**, a half going to the even mantissa. -/
def ofRatio (negative : Bool) (num den : Nat) : FloatLiteral :=
  let n := num * Double.unitsInOne
  let s := scaleFor (n / den)
  ofMantissa negative (roundHalfEven n (den * Nat.pow 2 s)) s fun h =>
    Nat.le_trans (Nat.div_div_eq_div_mul n den (Nat.pow 2 s) ▸ le_div_scaleFor h)
      (div_le_roundHalfEven _ _)

/-- **The literal nearest to a decimal number.** A positive number of at least `10 ^ 311` is
infinite and one below `10 ^ (-330)` is zero, so only exponents in reach are raised to a power;
`digits.log2 + 1` bounds the number of digits from above. -/
def ofDecimal (negative : Bool) (d : Decimal) : FloatLiteral :=
  if d.digits = 0 then .finite (.zero negative)
  else if 310 < d.exponent then .infinite negative
  else if d.exponent + (d.digits.log2 + 1) < -330 then .finite (.zero negative)
  else ofRatio negative (d.digits * Nat.pow 10 d.exponent.toNat) (Nat.pow 10 (-d.exponent).toNat)

end FloatLiteral

end FindToSelect
