import FindToSelect.Number
import FindToSelect.Text.Quoted

/-!
# Tokens

The argument text of a call is read as a list of tokens. A token has a kind, which carries what the
token means, and the span of text that it covers, counted in bytes of UTF-8.

Text that is no token of the language is not an error here: it gives a token of the kind `illegal`,
and it is the reader of arguments that refuses it, at its place and by name. `TokenKind.describe` is
that name.
-/

namespace FindToSelect

/-- **A span of text**, in bytes from its start: `start` belongs to it, `stop` does not. -/
structure Span where
  start : Nat
  stop : Nat
deriving DecidableEq

/-- The text of a span in messages. -/
def Span.describe (s : Span) : String :=
  Nat.repr s.start ++ ".." ++ Nat.repr s.stop

/-- **What a token is.** -/
inductive TokenKind where
  | «true»
  | «false»
  | null
  | identifier (name : String)
  | string (s : String)
  | integer (n : Int)
  | float (x : FloatLiteral)
  | openBrace
  | closeBrace
  | openBracket
  | closeBracket
  | colon
  | comma
  | illegal
deriving DecidableEq

/-- **A token**: a kind and the span it was read from. -/
structure Token where
  kind : TokenKind
  span : Span
deriving DecidableEq

/-- **Doubles in messages**: without an exponent from `10 ^ (-4)` up to `10 ^ 16`, with a fraction
always, no plus sign, and a tie going up. -/
def messageFloat : FloatLayout where
  tie := .away
  plain e := -4 ≤ e && e < 16
  fraction := true
  plus := false

/-- The text of a floating literal in messages. -/
def FloatLiteral.describe (x : FloatLiteral) : String :=
  String.ofList (messageFloat.writeLiteral x)

/-- **How messages name a token.** -/
def TokenKind.describe : TokenKind → String
  | .true => "True"
  | .false => "False"
  | .null => "Null"
  | .identifier name => "Identifier(" ++ Text.quoted name ++ ")"
  | .string s => "String(" ++ Text.quoted s ++ ")"
  | .integer n => "Integer(" ++ String.ofList (integerDigits n) ++ ")"
  | .float x => "Float(" ++ x.describe ++ ")"
  | .openBrace => "LBrace"
  | .closeBrace => "RBrace"
  | .openBracket => "LBracket"
  | .closeBracket => "RBracket"
  | .colon => "Colon"
  | .comma => "Comma"
  | .illegal => "Illegal"

end FindToSelect
