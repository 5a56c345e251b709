import FindToSelect.Token.Numeral

/-!
# The lexemes of strict JSON

The settings file is strict JSON: no comments, no trailing commas, double quotes only. Its text is
read as a list of lexemes.

A number counts only for its form, so its lexeme carries nothing. A string keeps its items undecoded
(`Text.Item`): whether its surrogates pair up matters only where the string is used.

* `Json.numberLength?` and `Json.stringBody?` measure a number and the rest of a string;
* `Json.lex?` is the whole text, or `none` if some of it is no lexeme.
-/

namespace FindToSelect.Json

/-- **A lexeme of strict JSON.** -/
inductive Lexeme where
  | openBrace
  | closeBrace
  | openBracket
  | closeBracket
  | colon
  | comma
  | null
  | boolean (b : Bool)
  | number
  | string (items : List Text.Item)
deriving DecidableEq

/-- The four blanks of JSON. -/
def isBlank (c : Char) : Bool :=
  c == ' ' || c == '\n' || c == '\t' || c == '\r'

/-! ### Numbers -/

/-- The length of the whole part of a number: a zero, or digits that start with another one. -/
def wholeLength? (cs : List Char) : Option Nat :=
  match cs.head? with
  | none => none
  | some c =>
    if c = '0' then some 1
    else if c.isDigit then some (Numeral.digits cs).length
    else none

/-- The length of a fraction: none, or a point with digits behind it. -/
def fractionLength? (cs : List Char) : Option Nat :=
  match Numeral.fraction? cs with
  | none => some 0
  | some ds => if ds.length = 0 then none else some (ds.length + 1)

/-- The length of an exponent: none, or an exponent mark with digits behind it. -/
def exponentLength? (cs : List Char) : Option Nat :=
  match Numeral.exponentOf cs with
  | .absent => some 0
  | .broken _ => none
  | .power _ n => some n

/-- **The length of a number without its sign.** -/
def numberLength? (cs : List Char) : Option Nat := do
  let whole ← wholeLength? cs
  let fraction ← fractionLength? (cs.drop whole)
  let exponent ← exponentLength? (cs.drop (whole + fraction))
  return whole + fraction + exponent

/-! ### Strings -/

/-- The item that a backslash opens, and its length behind the backslash. -/
def escape? : List Char → Option (Text.Item × Nat)
  | [] => none
  | c :: cs =>
    if c = '"' ∨ c = '\\' ∨ c = '/' then some (.char c, 1)
    else if c = 'b' then some (.char '\x08', 1)
    else if c = 'f' then some (.char '\x0c', 1)
    else if c = 'n' then some (.char '\n', 1)
    else if c = 'r' then some (.char '\r', 1)
    else if c = 't' then some (.char '\t', 1)
    else if c = 'u' then (Text.hex? 4 cs).map fun u => (.unit u, 5)
    else none

/-- **The items up to the closing quote**, and their length with that quote. -/
def stringBody? : List Char → Option (List Text.Item × Nat)
  | [] => none
  | c :: cs =>
    if c = '"' then some ([], 1)
    else if c = '\\' then
      match escape? cs with
      | none => none
      | some (item, n) => (stringBody? (cs.drop n)).map fun r => (item :: r.1, r.2 + n + 1)
    else if c.toNat < 0x20 then none
    else (stringBody? cs).map fun r => (.char c :: r.1, r.2 + 1)
termination_by cs => cs.length
decreasing_by
  · simp only [List.length_cons, List.length_drop]
    omega
  · simp

/-! ### Lexemes -/

/-- The lexeme `l`, if the text starts with the rest `word` of its keyword. -/
def keyword? (l : Lexeme) (word : List Char) (cs : List Char) : Option (Lexeme × Nat) :=
  if cs.take word.length = word then some (l, word.length) else none

/-- **One lexeme that starts with `c`**, and its length behind `c`. -/
def scan? (c : Char) (cs : List Char) : Option (Lexeme × Nat) :=
  if c = '{' then some (.openBrace, 0)
  else if c = '}' then some (.closeBrace, 0)
  else if c = '[' then some (.openBracket, 0)
  else if c = ']' then some (.closeBracket, 0)
  else if c = ':' then some (.colon, 0)
  else if c = ',' then some (.comma, 0)
  else if c = 'n' then keyword? .null ['u', 'l', 'l'] cs
  else if c = 't' then keyword? (.boolean true) ['r', 'u', 'e'] cs
  else if c = 'f' then keyword? (.boolean false) ['a', 'l', 's', 'e'] cs
  else if c = '"' then (stringBody? cs).map fun r => (.string r.1, r.2)
  else if c = '-' then (numberLength? cs).map fun n => (.number, n)
  else (numberLength? (c :: cs)).map fun n => (.number, n - 1)

/-- **The lexemes of a text**, if all of it but the blanks is lexemes. -/
def lex? : List Char → Option (List Lexeme)
  | [] => some []
  | c :: cs =>
    if isBlank c then lex? cs
    else
      match scan? c cs with
      | none => none
      | some (l, n) => (lex? (cs.drop n)).map (l :: ·)
termination_by cs => cs.length
decreasing_by
  · simp
  · simp only [List.length_cons, List.length_drop]
    omega

end FindToSelect.Json
