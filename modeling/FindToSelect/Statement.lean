import FindToSelect.Filter.Predicate
import FindToSelect.Text.Joined

/-!
# Queries and statements

A query says what a call asks for: a collection, the fields to show (none meaning all) and
predicates that must all hold. Its statement is one line of SQL.

* `Query` is the query, `Query.statement` its text and `whereText` the text of its predicates;
* every group of predicates stands in parentheses, so the text needs no precedence;
* strings stand between single quotes as they are, and names stand without quotes;
* a number is a plain decimal. A double that is a whole number up to `2 ^ 53` is written like the
  integer.

A `Naming` says how fields are called in a statement: as in the query, or with `_id` called `id`.
-/

namespace FindToSelect

/-- **A query**: the collection, the fields to show and the predicates that must all hold. -/
structure Query where
  collection : String
  columns : List String
  conditions : List Predicate

/-- **How fields are called in a statement.** -/
structure Naming where
  /-- Whether the field `_id` is called `id`. -/
  renameId : Bool
deriving DecidableEq

/-- **The column for a field.** -/
def Naming.column (naming : Naming) (field : String) : String :=
  if naming.renameId && field == "_id" then "id" else field

theorem Naming.column_false (field : String) : Naming.column ⟨false⟩ field = field := rfl

/-! ### Literals and operands -/

/-- **Doubles in statements**: never an exponent, no fraction that is not needed, and a tie going
up. -/
def sqlFloat : FloatLayout where
  tie := .away
  plain _ := true
  fraction := false
  plus := false

/-- **The text of a number.** Whole doubles up to `2 ^ 53` are written as integers, and the negative
zero among them as zero. -/
def Number.sql : Number → List Char
  | .integer n => integerDigits n
  | .float x =>
    if x.isWhole && x.whole ≤ 0x20000000000000 then integerDigits (signed x.negative x.whole)
    else sqlFloat.write x

/-- The text of a literal. A string is quoted as it is. -/
def Literal.sql : Literal → List Char
  | .string s => '\'' :: s.toList ++ ['\'']
  | .number n => n.sql
  | .boolean true => ['t', 'r', 'u', 'e']
  | .boolean false => ['f', 'a', 'l', 's', 'e']

/-- The text of an operand: a literal, or a list of literals in parentheses. -/
def Operand.sql : Operand → List Char
  | .scalar l => l.sql
  | .list ls => '(' :: Text.joined [',', ' '] (ls.map Literal.sql) ++ [')']

/-! ### Predicates -/

/-- A connective between blanks. -/
def Connective.spaced (c : Connective) : List Char :=
  ' ' :: c.sql.toList ++ [' ']

namespace Predicate

mutual

/-- **The text of a predicate.** -/
def sql (naming : Naming) : Predicate → List Char
  | compare field c operand =>
    (naming.column field).toList ++ ' ' :: c.sql.toList ++ ' ' :: operand.sql
  | group c children => '(' :: Text.joined c.spaced (sqlEach naming children) ++ [')']

/-- The texts of several predicates. -/
def sqlEach (naming : Naming) : List Predicate → List (List Char)
  | [] => []
  | p :: rest => sql naming p :: sqlEach naming rest

end

end Predicate

/-- **The text of predicates that must all hold.** -/
def whereText (naming : Naming) (ps : List Predicate) : List Char :=
  Text.joined Connective.all.spaced (Predicate.sqlEach naming ps)

/-! ### Statements -/

namespace Query

/-- The columns of a statement, `*` for all of them. -/
def columnText (naming : Naming) (q : Query) : List Char :=
  match q.columns with
  | [] => ['*']
  | columns => Text.joined [',', ' '] (columns.map fun field => (naming.column field).toList)

/-- The condition of a statement, if the query has one. -/
def conditionText (naming : Naming) (q : Query) : List Char :=
  match q.conditions with
  | [] => []
  | ps => " WHERE ".toList ++ whereText naming ps

/-- The characters of a statement. -/
def text (naming : Naming) (q : Query) : List Char :=
  "SELECT ".toList ++ q.columnText naming ++ " FROM ".toList ++ q.collection.toList ++
    q.conditionText naming ++ [';']

/-- **The statement of a query.** -/
def statement (naming : Naming) (q : Query) : String :=
  String.ofList (q.text naming)

end Query

end FindToSelect
