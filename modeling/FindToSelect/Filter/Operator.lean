/-!
# Operators

A filter speaks of operators by tokens such as `$gte`. Seven of them compare a field with an
operand, and two connect whole documents. `Operator.table` is the whole vocabulary,
`Operator.ofToken?` the look-up in it, and `sql` is how each is written in a statement.
-/

namespace FindToSelect

/-- **The operators that compare a field with an operand.** -/
inductive Comparison where
  | equal
  | notEqual
  | greater
  | less
  | greaterEqual
  | lessEqual
  | oneOf
deriving DecidableEq

/-- How a comparison is written in a statement. -/
def Comparison.sql : Comparison → String
  | equal => "="
  | notEqual => "!="
  | greater => ">"
  | less => "<"
  | greaterEqual => ">="
  | lessEqual => "<="
  | oneOf => "IN"

/-- **The operators that connect documents.** -/
inductive Connective where
  | all
  | any
deriving DecidableEq

/-- How a connective is written in a statement. -/
def Connective.sql : Connective → String
  | all => "AND"
  | any => "OR"

/-- **An operator of the filter language.** -/
inductive Operator where
  | comparison (c : Comparison)
  | connective (c : Connective)
deriving DecidableEq

namespace Operator

/-- How an operator is written in a statement. -/
def sql : Operator → String
  | comparison c => c.sql
  | connective c => c.sql

/-- **The tokens of the filter language.** -/
def table : List (String × Operator) :=
  [("$or", .connective .any),
   ("$and", .connective .all),
   ("$lt", .comparison .less),
   ("$lte", .comparison .lessEqual),
   ("$gt", .comparison .greater),
   ("$gte", .comparison .greaterEqual),
   ("$ne", .comparison .notEqual),
   ("$in", .comparison .oneOf),
   ("$eq", .comparison .equal)]

/-- **The operator that a token names.** -/
def ofToken? (token : String) : Option Operator :=
  table.lookup token

end Operator

end FindToSelect
