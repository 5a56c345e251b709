import FindToSelect.Text.Blank

/-!
# Blanks and comments

Between tokens there may be trivia: blanks, comments from `//` to the end of the line, and comments
from `/*` to `*/`. A comment that is not finished runs to the end of the text.

All functions here measure, in characters, and leave the cutting to their callers, so what they skip
and what they leave are `take` and `drop` of one number:

* `Trivia.comment?` measures the comment that a slash opens;
* `Trivia.length` measures all trivia at the start of a text.
-/

namespace FindToSelect.Trivia

/-- The length of a line up to and with its line feed, or of all the text if there is none. -/
def lineLength : List Char → Nat
  | [] => 0
  | c :: cs => if c = '\n' then 1 else lineLength cs + 1

/-- The length of the text up to and with the first `*/`, or of all the text if there is none. -/
def blockLength : List Char → Nat
  | [] => 0
  | [_] => 1
  | c :: d :: cs => if c = '*' ∧ d = '/' then 2 else blockLength (d :: cs) + 1

/-- **The length of a comment behind its first slash**, if the text behind that slash makes it one.
-/
def comment? : List Char → Option Nat
  | [] => none
  | c :: cs =>
    if c = '/' then some (lineLength cs + 1)
    else if c = '*' then some (blockLength cs + 1)
    else none

/-- **The length of the trivia at the start of a text.** -/
def length : List Char → Nat
  | [] => 0
  | c :: cs =>
    if Text.isBlank c then length cs + 1
    else if c = '/' then
      match comment? cs with
      | some n => length (cs.drop n) + n + 1
      | none => 0
    else 0
termination_by cs => cs.length
decreasing_by
  · simp
  · simp only [List.length_cons, List.length_drop]
    omega

end FindToSelect.Trivia
