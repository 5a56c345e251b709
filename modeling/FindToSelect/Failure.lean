import FindToSelect.Arguments.Error
import FindToSelect.Value

/-!
# Why a query is refused

Each constructor of `Failure` is one cause for which no statement is written, and each of
`Malformation` one way in which a query has the wrong form. The wording is in `Failure.message` and
`Malformation.message`.
-/

namespace FindToSelect

/-- **The two arguments of a call** that mean something. -/
inductive Role where
  | filter
  | projection
deriving DecidableEq

/-- How messages name an argument. -/
def Role.describe : Role → String
  | .filter => "filter"
  | .projection => "projection"

/-- **How a query has the wrong form.** -/
inductive Malformation where
  /-- There is no period in the query. -/
  | notInvocation
  /-- The text before the first period is not `db`. -/
  | wrongStart (found : String)
  /-- There is no second period. -/
  | noMethodCall
  /-- There is no parenthesis behind the method. -/
  | noParentheses
  /-- An argument is neither a document nor null. -/
  | notDocument (role : Role) (found : Value)
  /-- The groups nest too deep. -/
  | groupsTooDeep
  /-- The operand of the group `token` is no array. -/
  | groupNotArray (token : String)
  /-- The operand of the group `token` is an empty array. -/
  | groupEmpty (token : String)
  /-- An element of the group `token` is no document. -/
  | elementNotDocument (token : String)
  /-- An element of the group `token` is an empty document. -/
  | elementEmpty (token : String)

/-- The deepest nesting of groups that is translated. -/
def maxGroupNesting : Nat := 64

/-- **The wording of a malformation.** -/
def Malformation.message : Malformation → String
  | notInvocation => "expected `db.<collection>.find(...)`"
  | wrongStart found => "invocation must start with `db.`, found `" ++ found ++ "`"
  | noMethodCall => "missing method call"
  | noParentheses => "missing method-call parentheses"
  | notDocument role found => role.describe ++ " must be a document, found " ++ found.json
  | groupsTooDeep =>
    "logical operators nested deeper than " ++ Nat.repr maxGroupNesting ++ " levels"
  | groupNotArray token => token ++ " requires an array"
  | groupEmpty token => token ++ " requires a non-empty array"
  | elementNotDocument token => token ++ " elements must be documents"
  | elementEmpty token => token ++ " contains an empty document"

/-- **Why a query is refused.** -/
inductive Failure where
  /-- The query is no text. -/
  | notText
  /-- The query is blank. -/
  | emptyQuery
  /-- The query has the wrong form. -/
  | malformed (m : Malformation)
  /-- The name of the collection is empty. -/
  | noCollection
  /-- The method is not `find`. -/
  | unsupportedMethod (name : String)
  /-- The argument list is not closed. -/
  | unbalanced
  /-- The argument text cannot be read. -/
  | badArguments (e : ParseError)
  /-- An operator is not known, not at its place, or has the wrong operand. -/
  | unsupportedOperator (token : String)

/-- **The wording of a failure.** -/
def Failure.message : Failure → String
  | notText => "Input must be a string"
  | emptyQuery => "Empty query"
  | malformed m => "Wrong format: " ++ m.message
  | noCollection => "Missing collection name"
  | unsupportedMethod name => "Wrong or not supported MongoDB method (" ++ name ++ ")"
  | unbalanced => "Method is not parenthesized"
  | badArguments e => "Invalid arguments: " ++ e.describe
  | unsupportedOperator token => "Unsupported operator: " ++ token

end FindToSelect
