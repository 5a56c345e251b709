import FindToSelect.Text.CharSet

/-!
# Blanks

The Unicode property *White_Space*, and the texts without blanks at their ends. Blanks stand between
tokens and around an invocation and never mean anything.

* `isBlank` is the property;
* `trimStart`, `trimEnd` and `trim` remove the blanks at the start, at the end and at both.
-/

namespace FindToSelect.Text

/-- **The Unicode property White_Space.** -/
def blank : CharSet where
  runs := [
    (0x9, 0xD), (0x20, 0x20), (0x85, 0x85), (0xA0, 0xA0), (0x1680, 0x1680), (0x2000, 0x200A),
    (0x2028, 0x2029), (0x202F, 0x202F), (0x205F, 0x205F), (0x3000, 0x3000)]

/-- Whether `c` is a blank. -/
def isBlank (c : Char) : Bool :=
  blank.mem c

/-- The text from its first character that is no blank. -/
def trimStart (cs : List Char) : List Char :=
  cs.dropWhile isBlank

/-- The text up to its last character that is no blank. -/
def trimEnd (cs : List Char) : List Char :=
  (cs.reverse.dropWhile isBlank).reverse

/-- The text without the blanks at either end. -/
def trim (cs : List Char) : List Char :=
  trimEnd (trimStart cs)

end FindToSelect.Text
