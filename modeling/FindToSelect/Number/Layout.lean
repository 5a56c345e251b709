import FindToSelect.Number.Shortest

/-!
# How a double is laid out as text

The digits of a double come from `Double.shortest`. What is left to a format is how they are laid
out, and that is the record `FloatLayout`: which numbers are written without an exponent, whether a
whole number keeps a fraction `.0`, whether a positive exponent has its sign, and how a tie between
two shortest decimals is broken. The formats themselves (messages, JSON text, SQL text) are values
of this record in the modules that write them.

* `plainDigits` places the point among the digits, filling in zeros on either side;
* `scientificDigits` writes one digit before the point and an exponent after an `e`;
* `FloatLayout.write` is the text of a finite double, `FloatLayout.writeLiteral` that of any
  literal.
-/

namespace FindToSelect

/-- **The layout of doubles in one text format.** -/
structure FloatLayout where
  /-- How a tie between two shortest decimals is broken. -/
  tie : Tie
  /-- The decimal exponents of the first digit at which no exponent is written. -/
  plain : Int → Bool
  /-- Whether a whole number without an exponent is written with the fraction `.0`. -/
  fraction : Bool
  /-- Whether an exponent that is not negative is written with its sign. -/
  plus : Bool

/-- The digits without the zeros at their end. -/
def stripZeros (ds : List Char) : List Char :=
  (ds.reverse.dropWhile (· == '0')).reverse

/-- The fraction of a whole number, if the layout wants one. -/
def wholeFraction (fraction : Bool) : List Char :=
  if fraction then ['.', '0'] else []

/-- **Digits with the point in its place**: the text of `ds · 10 ^ exponent` without an exponent. -/
def plainDigits (fraction : Bool) (ds : List Char) (exponent : Int) : List Char :=
  if 0 ≤ exponent then
    ds ++ List.replicate exponent.toNat '0' ++ wholeFraction fraction
  else
    let places := (-exponent).toNat
    if places < ds.length then
      ds.take (ds.length - places) ++ '.' :: ds.drop (ds.length - places)
    else
      '0' :: '.' :: (List.replicate (places - ds.length) '0' ++ ds)

/-- The digits of an exponent with its sign. -/
def exponentDigits (plus : Bool) (exponent : Int) : List Char :=
  if exponent < 0 then '-' :: Nat.toDigits 10 exponent.natAbs
  else (if plus then ['+'] else []) ++ Nat.toDigits 10 exponent.natAbs

/-- **One digit, a point, the other digits and the exponent** `lead` of the first digit. -/
def scientificDigits (plus : Bool) (ds : List Char) (lead : Int) : List Char :=
  ds.take 1 ++ (if ds.length ≤ 1 then [] else '.' :: ds.drop 1) ++ 'e' :: exponentDigits plus lead

namespace FloatLayout

/-- The text of a decimal number. -/
def magnitude (l : FloatLayout) (d : Decimal) : List Char :=
  if d.digits = 0 then '0' :: wholeFraction l.fraction
  else
    let all := Nat.toDigits 10 d.digits
    let ds := stripZeros all
    let exponent := d.exponent + (all.length - ds.length : Nat)
    let lead := exponent + ds.length - 1
    if l.plain lead then plainDigits l.fraction ds exponent else scientificDigits l.plus ds lead

/-- The sign of a negative number. -/
def sign (negative : Bool) : List Char :=
  if negative then ['-'] else []

/-- **The text of a finite double.** -/
def write (l : FloatLayout) (x : Double) : List Char :=
  sign x.negative ++ l.magnitude (x.shortest l.tie)

/-- The text of any floating literal. -/
def writeLiteral (l : FloatLayout) : FloatLiteral → List Char
  | .finite x => l.write x
  | .infinite negative => sign negative ++ ['i', 'n', 'f']
  | .nan => ['N', 'a', 'N']

end FloatLayout

end FindToSelect
