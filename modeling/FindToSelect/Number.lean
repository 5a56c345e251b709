import FindToSelect.Number.Layout

/-!
# Numbers of the query language

A number is an integer or a finite double, and it stays what it was written as: `1` and `1.0` are
different numbers, though both mean one. Infinities and not-a-number are literals (`FloatLiteral`)
but no numbers.
-/

namespace FindToSelect

/-- **A number**: an integer, or a finite double. -/
inductive Number where
  | integer (n : Int)
  | float (x : Double)
deriving DecidableEq

/-- A natural number with a sign. -/
def signed (negative : Bool) (n : Nat) : Int :=
  if negative then -n else n

/-- The decimal digits of an integer, after a sign if it is negative. -/
def integerDigits (n : Int) : List Char :=
  FloatLayout.sign (n < 0) ++ Nat.toDigits 10 n.natAbs

namespace Number

/-- Whether the number means one. -/
def isOne : Number → Bool
  | .integer n => n == 1
  | .float x => !x.negative && x.units == Double.unitsInOne

/-- **The text of a number** in a format that lays out doubles by `l`. -/
def write (l : FloatLayout) : Number → List Char
  | .integer n => integerDigits n
  | .float x => l.write x

end Number

end FindToSelect
