/-!
# The items of a string literal

The body of a string literal is a sequence of items. Most stand for one character. An escape of four
hexadecimal digits stands for a code unit of UTF-16, and two of them side by side may make one
character; so the items are kept apart from what they mean, and the meaning is read off the whole
sequence:

* `Item.decode` is the forgiving reading: a surrogate without its partner stands for U+FFFD;
* `Item.decode?` is the strict reading: such a surrogate has no meaning, and neither has the
  literal.

A line continuation is an item that stands for nothing. It also keeps the code units on its two
sides apart.
-/

namespace FindToSelect.Text

/-- **One item of a string literal.** -/
inductive Item where
  /-- The character `c`, written as itself or by an escape of its own. -/
  | char (c : Char)
  /-- The UTF-16 code unit `u`, written by its four digits. -/
  | unit (u : Nat)
  /-- A line continuation, which stands for nothing. -/
  | gap
deriving DecidableEq

/-- Whether `u` is the first code unit of a pair. -/
def isHighSurrogate (u : Nat) : Bool :=
  0xD800 ≤ u && u < 0xDC00

/-- Whether `u` is the second code unit of a pair. -/
def isLowSurrogate (u : Nat) : Bool :=
  0xDC00 ≤ u && u < 0xE000

/-- The character that a pair of surrogates stands for. -/
def pairedChar (high low : Nat) : Char :=
  Char.ofNat (0x10000 + (high - 0xD800) * 0x400 + (low - 0xDC00))

/-- The character that a code unit stands for on its own, if it is no surrogate. -/
def unitChar? (u : Nat) : Option Char :=
  if isHighSurrogate u || isLowSurrogate u then none else some (Char.ofNat u)

/-- The character that takes the place of a surrogate without its partner. -/
def replacementChar : Char := '\uFFFD'

/-- The character for a code unit on its own, surrogates replaced. -/
def unitChar (u : Nat) : Char :=
  (unitChar? u).getD replacementChar

namespace Item

/-- **The text that items stand for**, every unpaired surrogate replaced. -/
def decode : List Item → List Char
  | [] => []
  | .char c :: rest => c :: decode rest
  | .gap :: rest => decode rest
  | .unit u :: .unit v :: rest =>
    if isHighSurrogate u && isLowSurrogate v then pairedChar u v :: decode rest
    else unitChar u :: decode (.unit v :: rest)
  | .unit u :: rest => unitChar u :: decode rest

/-- **The text that items stand for**, if every surrogate has its partner. -/
def decode? : List Item → Option (List Char)
  | [] => some []
  | .char c :: rest => (decode? rest).map (c :: ·)
  | .gap :: rest => decode? rest
  | .unit u :: .unit v :: rest =>
    if isHighSurrogate u && isLowSurrogate v then (decode? rest).map (pairedChar u v :: ·)
    else do
      let c ← unitChar? u
      (decode? (.unit v :: rest)).map (c :: ·)
  | .unit u :: rest => do
    let c ← unitChar? u
    (decode? rest).map (c :: ·)

end Item

end FindToSelect.Text
