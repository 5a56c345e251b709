import FindToSelect.Text.Hex
import FindToSelect.Token.StringLiteral

/-!
# Numerals

A decimal numeral has digits, perhaps a point among or beside them, and perhaps an exponent; a
hexadecimal one has digits behind `0x`. A sign has been read before and comes in as an argument.

* `Numeral` is the shape of a decimal numeral, `Numeral.decimal` the number it denotes;
* `Numeral.shape` finds the longest decimal numeral at the start of a text;
* `Numeral.scan` is the token. A numeral without point and exponent is an integer if it fits in 64
  bits; every other decimal numeral is the nearest double. A hexadecimal numeral is an integer, and
  `illegal` if its digits do not fit in 63 bits;
* `Double.ofText?` reads a text that is one decimal numeral as a finite double.
-/

namespace FindToSelect

/-- **The shape of a decimal numeral**: the digits before the point, those behind it if there is a
point, and the exponent if there is one. -/
structure Numeral where
  whole : List Char
  fraction : Option (List Char)
  exponent : Option Int
deriving DecidableEq

/-- Whether `n` is an integer of 64 bits. -/
def fitsWord (n : Int) : Bool :=
  -0x8000000000000000 ≤ n && n < 0x8000000000000000

namespace Numeral

/-- The decimal digits at the start of a text. -/
def digits (cs : List Char) : List Char :=
  cs.takeWhile Char.isDigit

/-- The natural number that decimal digits denote. -/
def value (ds : List Char) : Nat :=
  Nat.ofDigitChars 10 ds 0

/-- **The number that a numeral denotes**, without its sign. -/
def decimal (n : Numeral) : Decimal :=
  let places := n.fraction.getD []
  ⟨value (n.whole ++ places), n.exponent.getD 0 - places.length⟩

/-- The digits behind a point, if the text starts with a point. -/
def fraction? : List Char → Option (List Char)
  | [] => none
  | c :: cs => if c = '.' then some (digits cs) else none

/-- What a text holds in the place of an exponent. -/
inductive Exponent where
  /-- No exponent. -/
  | absent
  /-- An exponent mark, with its sign if there is one, and no digits behind it. -/
  | broken (taken : Nat)
  /-- An exponent. -/
  | power (n : Int) (taken : Nat)
deriving DecidableEq

/-- **The exponent at the start of a text.** -/
def exponentOf : List Char → Exponent
  | [] => .absent
  | c :: cs =>
    if c = 'e' ∨ c = 'E' then
      let sign := if cs.head? = some '+' ∨ cs.head? = some '-' then 1 else 0
      let ds := digits (cs.drop sign)
      if ds.length = 0 then .broken (sign + 1)
      else .power (signed (cs.head? = some '-') (value ds)) (ds.length + sign + 1)
    else .absent

/-- **The longest decimal numeral at the start of a text**, or `none` if its digits or those of its
exponent are missing, and the number of characters taken. -/
def shape (cs : List Char) : Option Numeral × Nat :=
  let whole := digits cs
  let fraction := fraction? (cs.drop whole.length)
  let taken := whole.length + (match fraction with | none => 0 | some ds => ds.length + 1)
  if whole.length + (fraction.getD []).length = 0 then (none, taken)
  else
    match exponentOf (cs.drop taken) with
    | .absent => (some ⟨whole, fraction, none⟩, taken)
    | .broken n => (none, taken + n)
    | .power e n => (some ⟨whole, fraction, some e⟩, taken + n)

/-- **The token kind of a decimal numeral with a sign.** -/
def kind (negative : Bool) (n : Numeral) : TokenKind :=
  let i := signed negative (value n.whole)
  if n.fraction.isNone && n.exponent.isNone && fitsWord i then .integer i
  else .float (.ofDecimal negative n.decimal)

/-- The token of a hexadecimal numeral, read from behind `0x`. -/
def scanHex (negative : Bool) (cs : List Char) : Scanned :=
  let ds := cs.takeWhile Text.isHexDigit
  let n := Text.hexValue ds
  if ds.length = 0 then ⟨.illegal, 0⟩
  else if n < 0x8000000000000000 then ⟨.integer (signed negative n), ds.length⟩
  else ⟨.illegal, ds.length⟩

/-- The token of a decimal numeral. -/
def scanDecimal (negative : Bool) (cs : List Char) : Scanned :=
  match shape cs with
  | (some n, taken) => ⟨n.kind negative, taken⟩
  | (none, taken) => ⟨.illegal, taken⟩

/-- Whether a text starts with the mark of a hexadecimal numeral. -/
def isHexMarked : List Char → Bool
  | c :: d :: _ => c == '0' && (d == 'x' || d == 'X')
  | _ => false

/-- **The token of a numeral**, read from behind its sign. -/
def scan (negative : Bool) (cs : List Char) : Scanned :=
  if isHexMarked cs then
    let hex := scanHex negative (cs.drop 2)
    ⟨hex.kind, hex.taken + 2⟩
  else scanDecimal negative cs

end Numeral

/-- **The finite double that a decimal numeral with an optional sign denotes**, if the text is one.
-/
def Double.ofText? (s : String) : Option Double :=
  let cs := s.toList
  let isSigned := cs.head? = some '-' ∨ cs.head? = some '+'
  let unsigned := if isSigned then cs.drop 1 else cs
  match Numeral.shape unsigned with
  | (some n, taken) =>
    if taken = unsigned.length then
      match FloatLiteral.ofDecimal (cs.head? = some '-') n.decimal with
      | .finite x => some x
      | _ => none
    else none
  | (none, _) => none

end FindToSelect
