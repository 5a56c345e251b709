import FindToSelect.Text.Hex
import FindToSelect.Text.Item
import FindToSelect.Token

/-!
# String literals

A string literal stands between two single or two double quotes. Its body is a sequence of items
(`Text.Item`): raw characters other than the closing quote, the backslash and the line feed, and
escapes that a backslash opens.

* `StringLiteral.escape` reads what follows a backslash: a named control character, a line
  continuation, two or four hexadecimal digits, or any other character, which stands for itself;
* `StringLiteral.body` reads items up to the closing quote;
* `StringLiteral.scan` is the token: the text that the items stand for, or `illegal` when the
  literal is broken off by a line feed, by the end of the text or by an escape without its digits.

Every function also says how many characters it took, up to where reading stopped.
-/

namespace FindToSelect

/-- **A token kind and the number of characters taken for it.** -/
structure Scanned where
  kind : TokenKind
  taken : Nat
deriving DecidableEq

namespace StringLiteral

/-- The character that a backslash before `c` stands for, where `c` is a single letter or stands for
itself. -/
def escapedChar (c : Char) : Char :=
  if c = 'n' then '\n'
  else if c = 't' then '\t'
  else if c = 'r' then '\r'
  else if c = 'b' then '\x08'
  else if c = 'f' then '\x0c'
  else if c = 'v' then '\x0b'
  else if c = '0' then '\x00'
  else c

/-- **What follows a backslash**: the item, or `none` for an escape without its digits, and the
number of characters taken. -/
def escape : List Char → Option Text.Item × Nat
  | [] => (none, 0)
  | c :: cs =>
    if c = 'x' then
      match Text.hex? 2 cs with
      | some n => (some (.char (Char.ofNat n)), 3)
      | none => (none, 1)
    else if c = 'u' then
      match Text.hex? 4 cs with
      | some u => (some (.unit u), 5)
      | none => (none, 1)
    else if c = '\r' then (some .gap, if cs.head? = some '\n' then 2 else 1)
    else if c = '\n' ∨ c = '\u2028' ∨ c = '\u2029' then (some .gap, 1)
    else (some (.char (escapedChar c)), 1)

/-- **The items up to the closing `quote`**, or `none` if the literal is broken, and the number of
characters taken with the closing quote. -/
def body (quote : Char) : List Char → Option (List Text.Item) × Nat
  | [] => (none, 0)
  | c :: cs =>
    if c = quote then (some [], 1)
    else if c = '\n' then (none, 1)
    else if c = '\\' then
      match escape cs with
      | (none, n) => (none, n + 1)
      | (some item, n) =>
        let rest := body quote (cs.drop n)
        (rest.1.map (item :: ·), rest.2 + n + 1)
    else
      let rest := body quote cs
      (rest.1.map (.char c :: ·), rest.2 + 1)
termination_by cs => cs.length
decreasing_by
  · simp only [List.length_cons, List.length_drop]
    omega
  · simp

/-- **The token of a string literal**, read from behind its opening `quote`. -/
def scan (quote : Char) (cs : List Char) : Scanned :=
  match body quote cs with
  | (some items, n) => ⟨.string (String.ofList (Text.Item.decode items)), n⟩
  | (none, n) => ⟨.illegal, n⟩

end StringLiteral

end FindToSelect
