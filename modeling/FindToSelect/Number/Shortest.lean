import FindToSelect.Number.Double

/-!
# The shortest decimal that reads back

A double is written with the fewest digits from which reading gives the same double again, and of
two such decimals with the one nearer to it.

A finite double is a whole number of units of `10 ^ (-1074)`, since `2 ^ (-1074)` is `5 ^ 1074` of
them. So the exact decimal `Double.exact` is at hand, and the decimals with `n` digits around it are
its first `n` digits and their successor. `Double.ofDigitCount` chooses between the two and asks
`FloatLiteral.ofDecimal` itself whether a candidate reads back; `Double.shortest` tries one digit,
then two, and so on. Should none of up to 17 digits do, the exact decimal stands.

How an exact tie between the two candidates is broken is a matter of the format, hence the parameter
`Tie`.
-/

namespace FindToSelect

/-- **Which of two equally near decimals is taken**: the larger magnitude, or the one with an even
last digit. -/
inductive Tie where
  | away
  | toEven
deriving DecidableEq

/-- The number of decimal digits of `n`, one for zero. -/
def digitCount (n : Nat) : Nat :=
  (Nat.toDigits 10 n).length

namespace Double

/-- **The exact decimal value** of the magnitude. -/
def exact (x : Double) : Decimal :=
  ⟨x.units * Nat.pow 5 1074, -1074⟩

/-- Whether the decimal `d`, read with the sign of `x`, gives `x`. -/
def readsBack (x : Double) (d : Decimal) : Bool :=
  FloatLiteral.ofDecimal x.negative d == .finite x

/-- **The decimal of `n` digits chosen for `x`**, if one of the two around `x` reads back. The
digits of `x` are `whole`; the last `drop` of them are cut off. Of two candidates that read back the
nearer is taken, and `tie` decides when neither is nearer. -/
def ofDigitCount (tie : Tie) (x : Double) (whole drop : Nat) : Option Decimal :=
  let step := Nat.pow 10 drop
  let low := whole / step
  let exponent : Int := drop - 1074
  let below : Decimal := ⟨low, exponent⟩
  let above : Decimal := ⟨low + 1, exponent⟩
  match x.readsBack below, x.readsBack above with
  | false, false => none
  | true, false => some below
  | false, true => some above
  | true, true =>
    let cut := 2 * (whole % step)
    if cut < step then some below
    else if step < cut then some above
    else match tie with
      | .away => some above
      | .toEven => if low % 2 = 0 then some below else some above

/-- The most digits that the search tries. -/
def mostDigits : Nat := 17

/-- **The decimal with the fewest digits that reads back as `x`**, up to zeros at its end. -/
def shortest (tie : Tie) (x : Double) : Decimal :=
  let whole := x.exact.digits
  let length := digitCount whole
  let found? := (List.range mostDigits).findSome? fun n =>
    x.ofDigitCount tie whole (length - (n + 1))
  found?.getD x.exact

end Double

end FindToSelect
