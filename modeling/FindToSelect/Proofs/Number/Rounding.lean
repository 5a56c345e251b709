import FindToSelect.Number.Shortest
import Mathlib.Tactic.Ring

/-!
# Doubles are read back from their decimals

The text of a double is that of its shortest decimal, and reading rounds a decimal to a double. This
file proves that the two undo each other: the shortest decimal of a double rounds to that double
(`FloatLiteral.ofDecimal_shortest`).

A text does not give back the decimal that it was written for, only one of the same value: zeros at
the end of the digits are dropped or filled in, and the exponent moves with them. So the other fact
that reading needs is that rounding does not see this (`FloatLiteral.ofDecimal_mul_pow`).

Both come from one description. `FloatLiteral.ofRatio` rounds a ratio and depends on nothing but its
value (`ofRatio_congr`); and `FloatLiteral.ofDecimal` is `ofRatio` also where it takes a shortcut,
at numbers too large for a double and at numbers too small for one (`ofDecimal_eq_ofRatio`).
-/

namespace FindToSelect

/-- A common factor of a ratio does not matter to its rounding. -/
theorem roundHalfEven_mul_right {k : Nat} (hk : 0 < k) (n d : Nat) :
    roundHalfEven (n * k) (d * k) = roundHalfEven n d := by
  have hlt : ∀ a b, a * k < b * k ↔ a < b := fun a b => Nat.mul_lt_mul_right hk
  simp only [roundHalfEven, Nat.mul_mod_mul_right, Nat.mul_div_mul_right _ _ hk, ← Nat.mul_assoc,
    hlt]

/-- A multiple of the divisor is not rounded. -/
theorem roundHalfEven_mul_left {d : Nat} (hd : 0 < d) (n : Nat) : roundHalfEven (n * d) d = n := by
  rw [roundHalfEven, Nat.mul_mod_left, Nat.mul_div_cancel n hd, if_pos (by omega)]

/-- Less than a half is rounded down to nothing. -/
theorem roundHalfEven_of_lt_half {n d : Nat} (h : 2 * n < d) : roundHalfEven n d = 0 := by
  have hn : n < d := by omega
  rw [roundHalfEven, Nat.mod_eq_of_lt hn, if_pos h, Nat.div_eq_of_lt hn]

namespace FloatLiteral

/-! ### Rounding depends on the value of a ratio -/

theorem ofMantissa_congr {negative : Bool} {m m' s s' : Nat} (hm : m = m') (hs : s = s')
    (h : 0 < s → 0x10000000000000 ≤ m) (h' : 0 < s' → 0x10000000000000 ≤ m') :
    ofMantissa negative m s h = ofMantissa negative m' s' h' := by
  subst hm hs
  rfl

/-- A common factor of a ratio does not matter to the double. -/
theorem ofRatio_mul_right {k : Nat} (hk : 0 < k) (negative : Bool) (num den : Nat) :
    ofRatio negative (num * k) (den * k) = ofRatio negative num den := by
  have hnum : num * k * Double.unitsInOne = num * Double.unitsInOne * k := by ring
  -- the scale is chosen by the whole units, and these are the same
  have hs : scaleFor (num * k * Double.unitsInOne / (den * k)) =
      scaleFor (num * Double.unitsInOne / den) := by
    rw [hnum, Nat.mul_div_mul_right _ _ hk]
  refine ofMantissa_congr ?_ hs _ _
  rw [hs, hnum, Nat.mul_right_comm den k, roundHalfEven_mul_right hk]

/-- **Rounding depends on the value of a ratio** and on nothing else. -/
theorem ofRatio_congr {num den num' den' : Nat} (hd : 0 < den) (hd' : 0 < den')
    (h : num * den' = num' * den) (negative : Bool) :
    ofRatio negative num den = ofRatio negative num' den' := by
  rw [← ofRatio_mul_right hd' negative num den, h, Nat.mul_comm den den',
    ofRatio_mul_right hd negative num' den']

/-! ### The shortcuts -/

/-- A scale that is too large gives an infinity. -/
theorem ofMantissa_of_scale_gt {negative : Bool} {m s : Nat} (hs : 2045 < s)
    (h : 0 < s → 0x10000000000000 ≤ m) : ofMantissa negative m s h = .infinite negative := by
  have h1 : ¬ s ≤ 2045 := by omega
  have h2 : ¬ s + 1 ≤ 2045 := by omega
  simp [ofMantissa, h1, h2]

/-- A product has at least as many bits as its factors, less one. -/
theorem log2_add_log2_le {a b : Nat} (ha : a ≠ 0) (hb : b ≠ 0) :
    a.log2 + b.log2 ≤ (a * b).log2 := by
  refine (Nat.le_log2 (Nat.mul_ne_zero ha hb)).2 ?_
  calc 2 ^ (a.log2 + b.log2) = 2 ^ a.log2 * 2 ^ b.log2 := Nat.pow_add 2 _ _
    _ ≤ a * b := Nat.mul_le_mul (Nat.log2_self_le ha) (Nat.log2_self_le hb)

/-- **A number of more than 1024 bits is infinite.** -/
theorem ofRatio_of_le_log2 {num : Nat} (h : 1024 ≤ num.log2) (negative : Bool) :
    ofRatio negative num 1 = .infinite negative := by
  refine ofMantissa_of_scale_gt ?_ _
  have hnum : num ≠ 0 := by
    rintro rfl
    simp at h
  have hone : Double.unitsInOne ≠ 0 ∧ Double.unitsInOne.log2 = 1074 := by decide +kernel
  -- in units the number has 1074 bits more, which the scale must take
  have hlog := log2_add_log2_le hnum hone.1
  rw [Nat.div_one, scaleFor]
  omega

/-- **A ratio of less than half a unit is zero.** -/
theorem ofRatio_of_lt {num den : Nat} (h : 2 * (num * Double.unitsInOne) < den)
    (negative : Bool) : ofRatio negative num den = .finite (.zero negative) := by
  -- there is no whole unit, so the scale is the least
  have hs : scaleFor (num * Double.unitsInOne / den) = 0 := by
    rw [Nat.div_eq_of_lt (by omega)]
    rfl
  have hm : roundHalfEven (num * Double.unitsInOne)
      (den * Nat.pow 2 (scaleFor (num * Double.unitsInOne / den))) = 0 := by
    rw [hs]
    exact roundHalfEven_of_lt_half (h.trans_eq (Nat.mul_one den).symm)
  exact ofMantissa_congr hm hs _ (by simp)

theorem pow_ten_pos (k : Nat) : 0 < Nat.pow 10 k :=
  Nat.pow_pos (by decide)

theorem pow_ten_mono {a b : Nat} (h : a ≤ b) : Nat.pow 10 a ≤ Nat.pow 10 b :=
  Nat.pow_le_pow_right (by decide) h

theorem pow_ten_succ_add (k n : Nat) : Nat.pow 10 (k + 1 + n) = Nat.pow 10 (k + n) * 10 := by
  rw [Nat.add_right_comm]
  rfl

/-- From `10 ^ 311` on there are more than 1024 bits. -/
theorem le_log2_pow_ten (k : Nat) : 1024 ≤ (Nat.pow 10 (k + 311)).log2 := by
  induction k with
  | zero => decide +kernel
  | succ k ih =>
    have hlog := log2_add_log2_le (Nat.ne_of_gt (pow_ten_pos (k + 311))) (b := 10) (by decide)
    rw [pow_ten_succ_add]
    omega

/-- Half a unit is more than `10 ^ (-330)`. -/
theorem pow_ten_mul_lt (k : Nat) :
    Nat.pow 10 k * (2 * Double.unitsInOne) < Nat.pow 10 (k + 330) := by
  induction k with
  | zero => decide +kernel
  | succ k ih =>
    calc Nat.pow 10 (k + 1) * (2 * Double.unitsInOne)
        = Nat.pow 10 k * (2 * Double.unitsInOne) * 10 := Nat.mul_right_comm _ 10 _
      _ < Nat.pow 10 (k + 330) * 10 := Nat.mul_lt_mul_of_pos_right ih (by decide)
      _ = Nat.pow 10 (k + 1 + 330) := (pow_ten_succ_add k 330).symm

/-- **The shortcuts give what rounding gives.** -/
theorem ofDecimal_eq_ofRatio (negative : Bool) (d : Decimal) :
    ofDecimal negative d =
      ofRatio negative (d.digits * Nat.pow 10 d.exponent.toNat)
        (Nat.pow 10 (-d.exponent).toNat) := by
  unfold ofDecimal
  -- one case for each shortcut: no digits, too large, too small
  split
  · next h0 =>
    rw [h0, Nat.zero_mul]
    exact (ofRatio_of_lt (by rw [Nat.zero_mul]; exact pow_ten_pos _) negative).symm
  split
  · next h0 he =>
    -- the number is whole and at least `10 ^ 311`
    have hden : (-d.exponent).toNat = 0 := by omega
    rw [hden]
    refine (ofRatio_of_le_log2 ?_ negative).symm
    obtain ⟨k, hk⟩ : ∃ k, d.exponent.toNat = k + 311 := ⟨d.exponent.toNat - 311, by omega⟩
    have hten := le_log2_pow_ten k
    have hlog := log2_add_log2_le h0 (Nat.ne_of_gt (pow_ten_pos (k + 311)))
    rw [hk]
    omega
  split
  · next h0 he hlow =>
    -- the digits are fewer than `digits.log2 + 1`, and the exponent is below them by `330`
    have hnum : d.exponent.toNat = 0 := by omega
    rw [hnum]
    refine (ofRatio_of_lt ?_ negative).symm
    have hdigits : d.digits * Nat.pow 10 0 ≤ Nat.pow 10 (d.digits.log2 + 1) := by
      calc d.digits * Nat.pow 10 0 = d.digits := Nat.mul_one _
        _ ≤ 2 ^ (d.digits.log2 + 1) := Nat.le_of_lt Nat.lt_log2_self
        _ ≤ Nat.pow 10 (d.digits.log2 + 1) := Nat.pow_le_pow_left (by decide) _
    calc 2 * (d.digits * Nat.pow 10 0 * Double.unitsInOne)
        = d.digits * Nat.pow 10 0 * (2 * Double.unitsInOne) := by ring
      _ ≤ Nat.pow 10 (d.digits.log2 + 1) * (2 * Double.unitsInOne) :=
        Nat.mul_le_mul_right _ hdigits
      _ < Nat.pow 10 (d.digits.log2 + 1 + 330) := pow_ten_mul_lt _
      _ ≤ Nat.pow 10 (-d.exponent).toNat := pow_ten_mono (by omega)
  · rfl

/-! ### Decimals of the same value -/

/-- **Rounding does not see zeros at the end of the digits.** -/
theorem ofDecimal_mul_pow (negative : Bool) (m k : Nat) (e : Int) :
    ofDecimal negative ⟨m * Nat.pow 10 k, e⟩ = ofDecimal negative ⟨m, e + k⟩ := by
  rw [ofDecimal_eq_ofRatio, ofDecimal_eq_ofRatio]
  refine ofRatio_congr (pow_ten_pos _) (pow_ten_pos _) ?_ negative
  -- the zeros count either with the digits or with the exponent, so the powers of ten agree
  have hexp : k + e.toNat + (-(e + k)).toNat = (e + k).toNat + (-e).toNat := by omega
  calc m * Nat.pow 10 k * Nat.pow 10 e.toNat * Nat.pow 10 (-(e + k)).toNat
      = m * 10 ^ (k + e.toNat + (-(e + k)).toNat) := by
        rw [Nat.pow_add, Nat.pow_add, ← Nat.mul_assoc, ← Nat.mul_assoc]
        rfl
    _ = m * Nat.pow 10 (e + k).toNat * Nat.pow 10 (-e).toNat := by
        rw [hexp, Nat.pow_add, ← Nat.mul_assoc]
        rfl

/-! ### The decimals of a double -/

/-- The scale of a double is the one at which its units have their mantissa. -/
theorem scaleFor_units (x : Double) : scaleFor x.units = x.scale := by
  have hlt : x.units < 2 ^ (53 + x.scale) := by
    rw [Nat.pow_add]
    exact Nat.mul_lt_mul_of_pos_right x.mantissa_lt (Nat.two_pow_pos _)
  -- the units of a double have at most 53 bits above its scale
  have hle : x.units.log2 < 53 + x.scale := by
    by_cases h0 : x.units = 0
    · rw [h0, Nat.log2_zero]
      omega
    · exact (Nat.log2_lt h0).2 hlt
  unfold scaleFor
  by_cases hs : x.scale = 0
  · omega
  · -- a scale above the least comes with a mantissa of 53 bits
    have hm : 2 ^ 52 ≤ x.mantissa := x.normal (Nat.pos_of_ne_zero hs)
    have hge : 52 + x.scale ≤ x.units.log2 := by
      refine (Nat.le_log2 (Nat.ne_of_gt ?_)).2 ?_
      · exact Nat.mul_pos (Nat.lt_of_lt_of_le (by decide) hm) (Nat.two_pow_pos _)
      · rw [Nat.pow_add]
        exact Nat.mul_le_mul_right _ hm
    omega

/-- **A double is the rounding of its units.** -/
theorem ofRatio_units (x : Double) :
    ofRatio x.negative x.units Double.unitsInOne = .finite x := by
  have hone : 0 < Double.unitsInOne := by decide +kernel
  have hs : scaleFor (x.units * Double.unitsInOne / Double.unitsInOne) = x.scale := by
    rw [Nat.mul_div_cancel _ hone, scaleFor_units]
  -- the units are a multiple of the power of two, so nothing is rounded off
  have hm : roundHalfEven (x.units * Double.unitsInOne)
      (Double.unitsInOne * Nat.pow 2 (scaleFor (x.units * Double.unitsInOne / Double.unitsInOne)))
        = x.mantissa := by
    rw [hs, Nat.mul_comm Double.unitsInOne, roundHalfEven_mul_right hone]
    exact roundHalfEven_mul_left (Nat.two_pow_pos _) x.mantissa
  refine (ofMantissa_congr hm hs _ x.normal).trans ?_
  rw [ofMantissa, dif_pos x.mantissa_lt, dif_pos x.scale_le]

/-- **The exact decimal of a double rounds to it.** -/
theorem ofDecimal_exact (x : Double) : ofDecimal x.negative x.exact = .finite x := by
  have hone : 0 < Double.unitsInOne := by decide +kernel
  -- one unit has 1074 decimal places, with the digits of `5 ^ 1074`
  have hten : Nat.pow 5 1074 * Nat.pow 10 (-1074 : Int).toNat * Double.unitsInOne =
      Nat.pow 10 (- -1074 : Int).toNat := by decide +kernel
  rw [ofDecimal_eq_ofRatio, ← ofRatio_units, Double.exact]
  refine ofRatio_congr (pow_ten_pos _) hone ?_ _
  dsimp only
  rw [Nat.mul_assoc x.units, Nat.mul_assoc x.units, hten]

/-- What the search for a shortest decimal finds rounds to the double. -/
theorem ofDecimal_of_ofDigitCount {tie : Tie} {x : Double} {whole drop : Nat} {d : Decimal}
    (h : x.ofDigitCount tie whole drop = some d) : ofDecimal x.negative d = .finite x := by
  -- a candidate is taken only if it reads back
  suffices hback : x.readsBack d = true by simpa [Double.readsBack] using hback
  simp only [Double.ofDigitCount] at h
  split at h
  · cases h
  · next hb _ => cases h; exact hb
  · next _ ha => cases h; exact ha
  · next hb ha =>
    -- both candidates do, whichever is taken
    split at h
    · cases h; exact hb
    · split at h
      · cases h; exact ha
      · cases tie with
        | away => cases h; exact ha
        | toEven =>
          simp only at h
          split at h
          · cases h; exact hb
          · cases h; exact ha

/-- **The shortest decimal of a double rounds to it.** -/
theorem ofDecimal_shortest (tie : Tie) (x : Double) :
    ofDecimal x.negative (x.shortest tie) = .finite x := by
  simp only [Double.shortest]
  -- if no number of digits will do, the exact decimal is taken
  cases hfound : (List.range Double.mostDigits).findSome? fun n =>
      x.ofDigitCount tie x.exact.digits (digitCount x.exact.digits - (n + 1)) with
  | none => exact ofDecimal_exact x
  | some d =>
    obtain ⟨n, -, hd⟩ := List.exists_of_findSome?_eq_some hfound
    exact ofDecimal_of_ofDigitCount hd

end FloatLiteral

end FindToSelect
