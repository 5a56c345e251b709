import FindToSelect.Arguments.Reader
import FindToSelect.Filter.Build
import FindToSelect.Invocation
import FindToSelect.Statement

/-!
# Translating queries

A translation takes an invocation apart, reads its arguments, builds the predicates of the filter
and the columns of the projection, and writes the statement. The first failure on this way is the
result.

* `Query.parse` goes up to the query, `translate` up to the statement, and `translateValue` takes
  any value and wants a string;
* `report` and `reportValue` are the forgiving forms: a failure gives the empty statement, and what
  happened is in a log.
-/

namespace FindToSelect

/-- **The document that an argument is.** An argument that is missing or null is the empty document.
-/
def Value.asDocument (role : Role) : Option Value → Except Failure Document
  | none => .ok []
  | some .null => .ok []
  | some (.object members) => .ok members
  | some v => .error (.malformed (.notDocument role v))

/-- **The query of a collection with the given arguments.** The first is the filter, the second the
projection, and others mean nothing. -/
def Query.ofArguments (collection : String) (arguments : List Value) : Except Failure Query := do
  let filter ← Value.asDocument .filter arguments[0]?
  let projection ← Value.asDocument .projection arguments[1]?
  let conditions ← buildFilter (Clause.ofFilter filter)
  return ⟨collection, Clause.includedFields (Clause.ofProjection projection), conditions⟩

/-- **The query that an invocation makes.** -/
def Query.ofInvocation (i : Invocation) : Except Failure Query := do
  let arguments ← (Arguments.parse i.arguments.toList).mapError .badArguments
  Query.ofArguments i.collection arguments

/-- **Reads a query.** -/
def Query.parse (query : String) : Except Failure Query := do
  let i ← Invocation.split query
  Query.ofInvocation i

/-- **Translates a query into a statement.** -/
def translate (naming : Naming) (query : String) : Except Failure String :=
  (Query.parse query).map (Query.statement naming)

/-- **Translates a value**, which must be a string. -/
def translateValue (naming : Naming) : Value → Except Failure String
  | .string query => translate naming query
  | _ => .error .notText

/-! ### Reports -/

/-- How serious a log record is. -/
inductive Level where
  | warning
  | error
deriving DecidableEq

/-- **One record of a log.** -/
structure LogRecord where
  level : Level
  text : String
deriving DecidableEq

/-- **A statement, empty after a failure, and the log of its translation.** -/
structure Report where
  statement : String
  log : List LogRecord
deriving DecidableEq

/-- The wording of a failure with its mark, as logs and the console show it. -/
def Failure.line (e : Failure) : String :=
  "Error: " ++ e.message

/-- The warnings about an invocation. -/
def Invocation.warnings (i : Invocation) : List LogRecord :=
  match i.ignored with
  | some text => [⟨.warning, "Ignoring text after the argument list: " ++ text⟩]
  | none => []

/-- The warnings about a query, if it can be taken apart. -/
def splitWarnings (query : String) : List LogRecord :=
  match Invocation.split query with
  | .ok i => i.warnings
  | .error _ => []

/-- The report of a result, behind the records of `log`. -/
def Report.ofResult (log : List LogRecord) : Except Failure String → Report
  | .ok statement => ⟨statement, log⟩
  | .error e => ⟨"", log ++ [⟨.error, e.line⟩]⟩

/-- **Translates a query and reports.** -/
def report (naming : Naming) (query : String) : Report :=
  .ofResult (splitWarnings query) (translate naming query)

/-- **Translates a value and reports.** -/
def reportValue (naming : Naming) : Value → Report
  | .string query => report naming query
  | v => .ofResult [] (translateValue naming v)

end FindToSelect
