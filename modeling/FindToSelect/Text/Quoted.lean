import FindToSelect.Text.Extending
import FindToSelect.Text.Unprintable

/-!
# Quoted text in messages

A message that shows a word or a string of the query puts it in double quotes, so that the reader
sees where it ends and what it holds: quotes and backslashes are escaped, and every character that
would not show by itself is spelled by its code point.
-/

namespace FindToSelect.Text

/-- A character spelled by its code point in lower-case hexadecimal, between braces. -/
def codePointEscape (c : Char) : List Char :=
  ['\\', 'u', '{'] ++ Nat.toDigits 16 c.toNat ++ ['}']

/-- **One character of a quoted text.** -/
def quotedChar (c : Char) : List Char :=
  if c = '\x00' then ['\\', '0']
  else if c = '\t' then ['\\', 't']
  else if c = '\r' then ['\\', 'r']
  else if c = '\n' then ['\\', 'n']
  else if c = '\\' ∨ c = '"' then ['\\', c]
  else if isExtending c || isUnprintable c then codePointEscape c
  else [c]

/-- **A text in double quotes**, as messages show it. -/
def quoted (s : String) : String :=
  String.ofList ('"' :: s.toList.flatMap quotedChar ++ ['"'])

end FindToSelect.Text
