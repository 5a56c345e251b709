import FindToSelect.Failure
import FindToSelect.Filter.Clause
import FindToSelect.Filter.Predicate

/-!
# From clauses to predicates

A clause with a field becomes a comparison. A group becomes a group of predicates, one for each
document of its array; a document with several clauses becomes a group of its own under `AND`.

The first fault in source order decides the failure. Of a group, the token is checked first, then
the nesting, then the shape of the array, then its elements from left to right.

`Clause.build` counts down how many groups may still nest, which is also what its recursion goes by.
-/

namespace FindToSelect

/-- **The comparison that a field clause means.** -/
def buildComparison (name token : String) (operand : Value) : Except Failure Predicate :=
  match Operator.ofToken? token with
  | some (.comparison c) =>
    match Operand.ofValue? c operand with
    | some o => .ok (.compare name c o)
    | none => .error (.unsupportedOperator token)
  | _ => .error (.unsupportedOperator token)

/-- The elements of the array that the group `token` needs. -/
def groupElements (token : String) : Value → Except Failure (List Value)
  | .array [] => .error (.malformed (.groupEmpty token))
  | .array elements => .ok elements
  | _ => .error (.malformed (.groupNotArray token))

/-- The document that an element of the group `token` must be. -/
def elementDocument (token : String) : Value → Except Failure Document
  | .object members => .ok members
  | _ => .error (.malformed (.elementNotDocument token))

/-- **One predicate for one element** of the group `token`: several are put under `AND`. -/
def conjunction (token : String) : List Predicate → Except Failure Predicate
  | [] => .error (.malformed (.elementEmpty token))
  | [p] => .ok p
  | ps => .ok (.group .all ps)

/-- **The predicate that a clause means**, with at most `nesting` groups inside each other. -/
def Clause.build (nesting : Nat) : Clause → Except Failure Predicate
  | .field name token operand => buildComparison name token operand
  | .group token operand =>
    match Operator.ofToken? token with
    | some (.connective c) =>
      match nesting with
      | 0 => .error (.malformed .groupsTooDeep)
      | nesting + 1 => do
        let elements ← groupElements token operand
        let children ← elements.mapM fun element => do
          let d ← elementDocument token element
          let ps ← (Clause.ofFilter d).mapM (Clause.build nesting)
          conjunction token ps
        return .group c children
    | _ => .error (.unsupportedOperator token)
termination_by structural nesting

/-- **The predicates that clauses mean**, one for each, in order. -/
def buildFilter (cs : List Clause) : Except Failure (List Predicate) :=
  cs.mapM (Clause.build maxGroupNesting)

end FindToSelect
