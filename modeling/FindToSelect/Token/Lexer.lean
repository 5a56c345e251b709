import FindToSelect.Text.Alphabetic
import FindToSelect.Text.Bytes
import FindToSelect.Text.Numeric
import FindToSelect.Token.Numeral
import FindToSelect.Token.StringLiteral
import FindToSelect.Token.Trivia

/-!
# Reading tokens

A text is read from left to right: trivia is skipped, one token is taken, and so on to the end. What
a token is, is decided by its first character:

* `TokenKind.ofPunctuation?` — the six marks `{ } [ ] : ,`;
* a quote opens a string literal, a digit or a point a numeral;
* a sign must stand before a numeral or before one of the words `Infinity` and `NaN`;
* a letter, `_` or `$` starts a word, which is a keyword, one of the two words for numbers that are
  not finite, or an identifier.

Everything else is `illegal`, one character at a time. `Token.scan` takes one token, `Token.lex` all
of them. Reading never fails and never stops before the end.
-/

namespace FindToSelect

/-- **The marks of the language.** -/
def TokenKind.ofPunctuation? (c : Char) : Option TokenKind :=
  if c = '{' then some .openBrace
  else if c = '}' then some .closeBrace
  else if c = '[' then some .openBracket
  else if c = ']' then some .closeBracket
  else if c = ':' then some .colon
  else if c = ',' then some .comma
  else none

namespace Word

/-- Whether a word may start with `c`. -/
def isStart (c : Char) : Bool :=
  Text.isAlphabetic c || c == '_' || c == '$'

/-- Whether a word may go on with `c`. -/
def isPart (c : Char) : Bool :=
  Text.isAlphabetic c || Text.isNumeric c || c == '_' || c == '$'

theorem isStart_iff {c : Char} :
    isStart c = true ↔ Text.isAlphabetic c = true ∨ c = '_' ∨ c = '$' := by
  simp [isStart, or_assoc]

theorem isPart_iff {c : Char} : isPart c = true ↔
    Text.isAlphabetic c = true ∨ Text.isNumeric c = true ∨ c = '_' ∨ c = '$' := by
  simp [isPart, or_assoc]

/-- **What a word without a sign means.** -/
def kind (word : List Char) : TokenKind :=
  if word = ['t', 'r', 'u', 'e'] then .true
  else if word = ['f', 'a', 'l', 's', 'e'] then .false
  else if word = ['n', 'u', 'l', 'l'] then .null
  else if word = ['I', 'n', 'f', 'i', 'n', 'i', 't', 'y'] then .float (.infinite false)
  else if word = ['N', 'a', 'N'] then .float .nan
  else .identifier (String.ofList word)

/-- **What a word behind a sign means.** -/
def signedKind (negative : Bool) (word : List Char) : TokenKind :=
  if word = ['I', 'n', 'f', 'i', 'n', 'i', 't', 'y'] then .float (.infinite negative)
  else if word = ['N', 'a', 'N'] then .float .nan
  else .illegal

/-- The token of a word that starts with `c`; the characters taken are those behind `c`. -/
def scan (c : Char) (cs : List Char) : Scanned :=
  let more := cs.takeWhile isPart
  ⟨kind (c :: more), more.length⟩

/-- The token of a word behind a sign. -/
def scanSigned (negative : Bool) (cs : List Char) : Scanned :=
  let word := cs.takeWhile isPart
  ⟨signedKind negative word, word.length⟩

end Word

namespace Token

/-- The token that a sign opens; the characters taken are those behind the sign. -/
def scanSigned (negative : Bool) (cs : List Char) : Scanned :=
  match cs.head? with
  | none => ⟨.illegal, 0⟩
  | some c =>
    if c.isDigit || c == '.' then Numeral.scan negative cs
    else if Word.isStart c then Word.scanSigned negative cs
    else ⟨.illegal, 0⟩

/-- **One token that starts with `c`**; the characters taken are those behind `c`. -/
def scan (c : Char) (cs : List Char) : Scanned :=
  match TokenKind.ofPunctuation? c with
  | some kind => ⟨kind, 0⟩
  | none =>
    if c = '"' ∨ c = '\'' then StringLiteral.scan c cs
    else if c = '-' ∨ c = '+' then scanSigned (c = '-') cs
    else if c.isDigit || c == '.' then
      let numeral := Numeral.scan false (c :: cs)
      ⟨numeral.kind, numeral.taken - 1⟩
    else if Word.isStart c then Word.scan c cs
    else ⟨.illegal, 0⟩

/-- **The tokens of a text that starts at the byte `offset`.** -/
def lexFrom (offset : Nat) (cs : List Char) : List Token :=
  let skipped := Trivia.length cs
  match _h : cs.drop skipped with
  | [] => []
  | c :: rest =>
    let scanned := scan c rest
    let start := offset + byteLength (cs.take skipped)
    let stop := start + byteLength (c :: rest.take scanned.taken)
    ⟨scanned.kind, ⟨start, stop⟩⟩ :: lexFrom stop (rest.drop scanned.taken)
termination_by cs.length
decreasing_by
  have hl := congrArg List.length _h
  simp only [List.length_drop, List.length_cons] at hl ⊢
  omega

/-- Behind the last token there is only trivia. -/
theorem lexFrom_of_drop_eq_nil {offset : Nat} {cs : List Char}
    (h : cs.drop (Trivia.length cs) = []) : lexFrom offset cs = [] := by
  rw [lexFrom]
  split
  · rfl
  · next h' => simp [h] at h'

/-- Behind the trivia at the start there is one token, and then the others. -/
theorem lexFrom_of_drop_eq_cons {offset : Nat} {cs rest : List Char} {c : Char}
    (h : cs.drop (Trivia.length cs) = c :: rest) :
    lexFrom offset cs =
      let start := offset + byteLength (cs.take (Trivia.length cs))
      let stop := start + byteLength (c :: rest.take (scan c rest).taken)
      ⟨(scan c rest).kind, ⟨start, stop⟩⟩ :: lexFrom stop (rest.drop (scan c rest).taken) := by
  rw [lexFrom]
  split
  · next h' => simp [h] at h'
  · next c' rest' h' =>
    obtain ⟨rfl, rfl⟩ := List.cons.inj (h.symm.trans h')
    rfl

/-- **The tokens of a text.** -/
def lex (cs : List Char) : List Token :=
  lexFrom 0 cs

end Token

end FindToSelect
