/-!
# Hexadecimal digits

Hexadecimal digits occur in numerals (`0xFF`) and in the escapes of string literals (`\x41`,
`\u00e9`).

* `hexDigit?` is the value of a digit of either case;
* `hexValue` is the number that a run of digits denotes;
* `hex?` reads exactly as many digits as an escape wants.
-/

namespace FindToSelect.Text

/-- The value of a hexadecimal digit, if `c` is one. -/
def hexDigit? (c : Char) : Option Nat :=
  if '0' ≤ c ∧ c ≤ '9' then some (c.toNat - '0'.toNat)
  else if 'a' ≤ c ∧ c ≤ 'f' then some (c.toNat - 'a'.toNat + 10)
  else if 'A' ≤ c ∧ c ≤ 'F' then some (c.toNat - 'A'.toNat + 10)
  else none

/-- Whether `c` is a hexadecimal digit. -/
def isHexDigit (c : Char) : Bool :=
  (hexDigit? c).isSome

/-- **The number that hexadecimal digits denote**, most significant digit first. -/
def hexValue (ds : List Char) : Nat :=
  ds.foldl (fun n c => 16 * n + (hexDigit? c).getD 0) 0

/-- **Exactly `n` hexadecimal digits** at the start of the text, as a number. -/
def hex? (n : Nat) (cs : List Char) : Option Nat :=
  let ds := cs.take n
  if ds.length = n ∧ ds.all isHexDigit then some (hexValue ds) else none

end FindToSelect.Text
