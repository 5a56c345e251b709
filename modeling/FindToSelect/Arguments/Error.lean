import FindToSelect.Token

/-!
# Why an argument text is refused

Each constructor of `ParseError` is one cause. The wording is in `ParseError.message`, the place in
`ParseError.span?`; an error at the end of the text has no place.
-/

namespace FindToSelect

/-- The deepest nesting of objects and arrays that is read. -/
def maxNesting : Nat := 128

/-- **Why an argument text is refused.** -/
inductive ParseError where
  /-- The text ends where a value must start. -/
  | valueAtEnd
  /-- The text ends where a key or a closing brace must stand. -/
  | keyAtEnd
  /-- The text ends where the mark `wanted` must stand. -/
  | markAtEnd (wanted : TokenKind)
  /-- Another token stands where the mark `wanted` must stand. -/
  | markMissing (wanted : TokenKind) (found : Token)
  /-- No value starts with the token `found`. -/
  | notValue (found : Token)
  /-- The token `found` is no key. -/
  | notKey (found : Token)
  /-- The number is infinite or not a number. -/
  | nonFinite (x : FloatLiteral) (span : Span)
  /-- One more object or array would nest too deep. -/
  | tooDeep (span : Span)
deriving DecidableEq

namespace ParseError

/-- **The wording of an error**, without its place. -/
def message : ParseError → String
  | valueAtEnd => "Unexpected end of input"
  | keyAtEnd => "Expected object key, but reached end of input"
  | markAtEnd wanted => "Expected " ++ wanted.describe ++ ", but reached end of input"
  | markMissing wanted found => "Expected " ++ wanted.describe ++ ", found " ++ found.kind.describe
  | notValue found => "Expected a value, found " ++ found.kind.describe
  | notKey found => "Expected object key, found " ++ found.kind.describe
  | nonFinite x _ => "Non-finite number " ++ x.describe ++ " is not supported"
  | tooDeep _ => "Nesting deeper than " ++ Nat.repr maxNesting ++ " levels"

/-- **The place of an error**: the token at which reading stopped, if it did not stop at the end. -/
def span? : ParseError → Option Span
  | valueAtEnd | keyAtEnd | markAtEnd _ => none
  | markMissing _ found | notValue found | notKey found => some found.span
  | nonFinite _ span | tooDeep span => some span

/-- The wording of an error with its place. -/
def describe (e : ParseError) : String :=
  match e.span? with
  | some span => e.message ++ " at " ++ span.describe
  | none => e.message

end ParseError

end FindToSelect
