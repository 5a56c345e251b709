import FindToSelect.Filter.Operator
import FindToSelect.Value

/-!
# Predicates

What a filter says about a row is a tree: comparisons of a field with an operand at the leaves, and
groups of predicates under a connective. An operand is a scalar literal or a list of them; null,
arrays and documents are no literals.
-/

namespace FindToSelect

/-- **A scalar literal** of a statement. -/
inductive Literal where
  | string (s : String)
  | number (n : Number)
  | boolean (b : Bool)
deriving DecidableEq

/-- The literal that a value is, if it is a scalar other than null. -/
def Literal.ofValue? : Value → Option Literal
  | .string s => some (.string s)
  | .number n => some (.number n)
  | .boolean b => some (.boolean b)
  | _ => none

/-- **The right-hand side of a comparison.** -/
inductive Operand where
  | scalar (l : Literal)
  | list (ls : List Literal)
deriving DecidableEq

/-- **The operand that a value is for a comparison**: a list of scalars for `oneOf`, a scalar for
the others. -/
def Operand.ofValue? (c : Comparison) (v : Value) : Option Operand :=
  match c, v with
  | .oneOf, .array elements => (elements.mapM Literal.ofValue?).map .list
  | .oneOf, _ => none
  | _, v => (Literal.ofValue? v).map .scalar

/-- **A predicate on rows.** -/
inductive Predicate where
  | compare (field : String) (c : Comparison) (operand : Operand)
  | group (c : Connective) (children : List Predicate)

end FindToSelect
