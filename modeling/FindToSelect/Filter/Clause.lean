import FindToSelect.Value

/-!
# Clauses of a document

A filter or a projection is first taken apart into clauses, in source order and without any check:

* a member of a filter whose key starts with `$` is a group, and its value the operand;
* a field whose value is a non-empty document with only such keys has one clause for each of them;
* every other field is compared for equality with its value, as if written with `$eq`.

In a projection every member is a clause of the third kind. `Clause.ofFilter` and
`Clause.ofProjection` are the two readings.
-/

namespace FindToSelect

/-- **A clause**: a field, an operator token and an operand, or a group token and its operand. -/
inductive Clause where
  | field (name token : String) (operand : Value)
  | group (token : String) (operand : Value)

/-- The token of a comparison that is not written. -/
def implicitToken : String := "$eq"

/-- Whether a key is an operator token by its form. -/
def isToken (key : String) : Bool :=
  key.toList.head? == some '$'

/-- **The operator document** that a value is, if it is a non-empty document whose keys are all
tokens. -/
def Value.operators? : Value → Option Document
  | .object members =>
    if members ≠ [] ∧ (Document.keys members).all isToken then some members else none
  | _ => none

namespace Clause

/-- The field of a clause, if it has one. -/
def field? : Clause → Option String
  | field name _ _ => some name
  | group _ _ => none

/-- The operator token of a clause. -/
def token : Clause → String
  | field _ token _ => token
  | group token _ => token

/-- The operand of a clause. -/
def operand : Clause → Value
  | field _ _ operand => operand
  | group _ operand => operand

/-- The clauses of one member of a filter. -/
def ofMember (key : String) (v : Value) : List Clause :=
  if isToken key then [group key v]
  else
    match v.operators? with
    | some operators => operators.map fun o => field key o.1 o.2
    | none => [field key implicitToken v]

/-- **The clauses of a filter**, in source order. -/
def ofFilter (d : Document) : List Clause :=
  d.flatMap fun m => ofMember m.1 m.2

/-- **The clauses of a projection**, one for each member. -/
def ofProjection (d : Document) : List Clause :=
  d.map fun m => field m.1 implicitToken m.2

/-- Whether a clause includes its field in the projection. -/
def isInclusion (c : Clause) : Bool :=
  match c.operand with
  | .number n => n.isOne
  | _ => false

/-- **The fields that the clauses of a projection include**: those whose operand is the number one,
in order. -/
def includedFields (cs : List Clause) : List String :=
  (cs.filter isInclusion).filterMap field?

end Clause

end FindToSelect
