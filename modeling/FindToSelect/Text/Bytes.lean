/-!
# Texts measured in bytes

Places in a text are counted in bytes of UTF-8. `byteLength` is the length of a text, and
`dropBytes?` cuts a number of bytes off its start, if that leaves whole characters.
-/

namespace FindToSelect

/-- The length of a text in bytes of UTF-8. -/
def byteLength : List Char → Nat
  | [] => 0
  | c :: cs => c.utf8Size + byteLength cs

/-- **The text behind its first `n` bytes**, unless these end inside a character. -/
def dropBytes? (n : Nat) : List Char → Option (List Char)
  | [] => if n = 0 then some [] else none
  | c :: cs =>
    if n = 0 then some (c :: cs)
    else if c.utf8Size ≤ n then dropBytes? (n - c.utf8Size) cs
    else none

end FindToSelect
