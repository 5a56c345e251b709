import FindToSelect.Translation

/-!
# Renaming is a substitution of fields

A `Naming` acts while a statement is written, at two places: at the columns and at the fields of
comparisons. It could as well act before, on the query. Writing with a naming is writing, as in the
query, the query in which the naming was substituted for the fields (`Query.text_mapFields`):

`q.text naming = (q.mapFields naming.column).text ⟨false⟩`.

The substitution `Query.mapFields` reaches the columns and the fields of comparisons at every depth
of every group, and nothing else: the collection and the operands stay. So renaming cannot leak into
a string or into the name of the collection, and it changes nothing where there is no `_id`
(`Query.idRenamed_of_notMem`).
-/

namespace FindToSelect

/-! ### Substitution for fields -/

namespace Predicate

mutual

/-- **A predicate with `σ` substituted for its fields.** -/
def mapFields (σ : String → String) : Predicate → Predicate
  | compare field c operand => compare (σ field) c operand
  | group c children => group c (mapFieldsEach σ children)

/-- Several predicates with `σ` substituted for their fields. -/
def mapFieldsEach (σ : String → String) : List Predicate → List Predicate
  | [] => []
  | p :: rest => mapFields σ p :: mapFieldsEach σ rest

end

mutual

/-- **The fields that a predicate compares**, from left to right. -/
def fields : Predicate → List String
  | compare field _ _ => [field]
  | group _ children => fieldsEach children

/-- The fields that several predicates compare. -/
def fieldsEach : List Predicate → List String
  | [] => []
  | p :: rest => fields p ++ fieldsEach rest

end

mutual

/-- A substitution that fixes the fields of a predicate fixes the predicate. -/
theorem mapFields_of_forall_eq {σ : String → String} :
    ∀ {p : Predicate}, (∀ f ∈ p.fields, σ f = f) → p.mapFields σ = p
  | .compare field _ _, h => by rw [mapFields, h field (List.mem_singleton_self field)]
  | .group _ children, h => by rw [mapFields, mapFieldsEach_of_forall_eq h]

theorem mapFieldsEach_of_forall_eq {σ : String → String} :
    ∀ {ps : List Predicate}, (∀ f ∈ fieldsEach ps, σ f = f) → mapFieldsEach σ ps = ps
  | [], _ => rfl
  | p :: rest, h => by
    rw [fieldsEach, List.forall_mem_append] at h
    rw [mapFieldsEach, mapFields_of_forall_eq h.1, mapFieldsEach_of_forall_eq h.2]

end

mutual

/-- **A predicate is written with a naming** as it is written, in its own words, after the
substitution. -/
theorem sql_mapFields (naming : Naming) :
    ∀ p : Predicate, p.sql naming = (p.mapFields naming.column).sql ⟨false⟩
  | .compare field c operand => by rw [mapFields, sql, sql, Naming.column_false]
  | .group c children => by rw [mapFields, sql, sql, sqlEach_mapFieldsEach naming children]

theorem sqlEach_mapFieldsEach (naming : Naming) :
    ∀ ps : List Predicate,
      sqlEach naming ps = sqlEach ⟨false⟩ (mapFieldsEach naming.column ps)
  | [] => rfl
  | p :: rest => by
    rw [mapFieldsEach, sqlEach, sqlEach, sql_mapFields naming p, sqlEach_mapFieldsEach naming rest]

end

end Predicate

/-- **Conditions are written with a naming** as they are written after the substitution. -/
theorem whereText_mapFieldsEach (naming : Naming) (ps : List Predicate) :
    whereText naming ps = whereText ⟨false⟩ (Predicate.mapFieldsEach naming.column ps) := by
  rw [whereText, whereText, Predicate.sqlEach_mapFieldsEach]

namespace Query

/-- **A query with `σ` substituted for its fields.** -/
def mapFields (σ : String → String) (q : Query) : Query :=
  ⟨q.collection, q.columns.map σ, Predicate.mapFieldsEach σ q.conditions⟩

/-- **The fields of a query**: those it shows and those it compares. -/
def fields (q : Query) : List String :=
  q.columns ++ Predicate.fieldsEach q.conditions

@[simp] theorem mapFields_collection (σ : String → String) (q : Query) :
    (q.mapFields σ).collection = q.collection := rfl

/-- The columns are the fields that are shown, each renamed. -/
theorem columnText_mapFields (naming : Naming) (q : Query) :
    q.columnText naming = (q.mapFields naming.column).columnText ⟨false⟩ := by
  unfold columnText mapFields
  -- no columns stand for all of them, before and after
  cases q.columns with
  | nil => rfl
  | cons field columns =>
    simp only [List.map_cons, List.map_map, Naming.column_false]
    rfl

/-- The `WHERE` part is there before the substitution exactly if it is there after it. -/
theorem conditionText_mapFields (naming : Naming) (q : Query) :
    q.conditionText naming = (q.mapFields naming.column).conditionText ⟨false⟩ := by
  unfold conditionText mapFields
  -- the substitution neither adds nor drops a condition
  cases q.conditions with
  | nil => rfl
  | cons p ps =>
    simp only [Predicate.mapFieldsEach]
    rw [whereText_mapFieldsEach, Predicate.mapFieldsEach]

/-- **A query is written with a naming** as it is written, in its own words, after the substitution.
-/
theorem text_mapFields (naming : Naming) (q : Query) :
    q.text naming = (q.mapFields naming.column).text ⟨false⟩ := by
  unfold text
  -- the collection is written in its own words anyhow
  rw [columnText_mapFields, conditionText_mapFields, mapFields_collection]

theorem mapFields_of_forall_eq {σ : String → String} {q : Query} (h : ∀ f ∈ q.fields, σ f = f) :
    q.mapFields σ = q := by
  rw [fields, List.forall_mem_append] at h
  have hcolumns : q.columns.map σ = q.columns := by
    rw [List.map_congr_left h.1, List.map_id']
  rw [mapFields, hcolumns, Predicate.mapFieldsEach_of_forall_eq h.2]

end Query

/-! ### The renaming of `_id` -/

/-- **The field `_id` becomes `id`**, and every other field stays. -/
def renamedField (field : String) : String :=
  if field = "_id" then "id" else field

/-- Where `_id` is renamed, a column is called as the substitution says. -/
theorem Naming.column_true : Naming.column ⟨true⟩ = renamedField := by
  funext field
  simp only [Naming.column, renamedField, Bool.true_and, beq_iff_eq]

theorem renamedField_of_ne {field : String} (h : field ≠ "_id") : renamedField field = field := by
  rw [renamedField, if_neg h]

namespace Query

/-- **A query with `_id` renamed** wherever it is a field. -/
def idRenamed (q : Query) : Query :=
  q.mapFields renamedField

theorem idRenamed_of_notMem {q : Query} (h : "_id" ∉ q.fields) : q.idRenamed = q :=
  mapFields_of_forall_eq fun _ hf => renamedField_of_ne fun he => h (he ▸ hf)

/-- **A statement with renaming** is the statement of the substitution, without renaming. -/
theorem statement_true (q : Query) : q.statement ⟨true⟩ = q.idRenamed.statement ⟨false⟩ := by
  rw [statement, text_mapFields, Naming.column_true]
  rfl

/-- **Renaming is exactly a substitution of fields**, in statements and in conditions. Hence a query
text is translated with and without renaming with the same failure, or to the statements of a query
and of its substitution; and these are the same statement if `_id` is no field of the query. -/
theorem renaming_is_substitution :
    (∀ q : Query, q.statement ⟨true⟩ = q.idRenamed.statement ⟨false⟩) ∧
      (∀ ps : List Predicate,
        whereText ⟨true⟩ ps = whereText ⟨false⟩ (Predicate.mapFieldsEach renamedField ps)) ∧
      ∀ query : String,
        (∃ e, Query.parse query = .error e ∧ translate ⟨true⟩ query = .error e ∧
          translate ⟨false⟩ query = .error e) ∨
        ∃ q, Query.parse query = .ok q ∧ translate ⟨false⟩ query = .ok (q.statement ⟨false⟩) ∧
          translate ⟨true⟩ query = .ok (q.idRenamed.statement ⟨false⟩) ∧
          ("_id" ∉ q.fields → translate ⟨true⟩ query = translate ⟨false⟩ query) := by
  refine ⟨statement_true, fun ps => ?_, fun query => ?_⟩
  · rw [whereText_mapFieldsEach, Naming.column_true]
  · unfold translate
    -- parsing knows no naming, so it fails for both or gives both the same query
    cases Query.parse query with
    | error e => exact Or.inl ⟨e, rfl, rfl, rfl⟩
    | ok q =>
      refine Or.inr ⟨q, rfl, rfl, congrArg Except.ok (statement_true q), fun h => ?_⟩
      -- without the field the substitution does nothing
      have hsame : q.statement ⟨true⟩ = q.statement ⟨false⟩ := by
        rw [statement_true, idRenamed_of_notMem h]
      exact congrArg Except.ok hsame

/-- A collection and a string that are called `_id` keep their names beside fields at two depths
that do not, and a query text in which `_id` is only a part of the field. -/
theorem renaming_is_substitution_nested :
    let q : Query := ⟨"_id", ["_id", "user_id"],
      [.group .any [.compare "_id" .equal (.scalar (.string "_id")),
        .group .all [.compare "_id" .oneOf (.list [])]]]⟩
    q.statement ⟨true⟩ = q.idRenamed.statement ⟨false⟩ ∧
      q.idRenamed.statement ⟨false⟩ =
        "SELECT id, user_id FROM _id WHERE (id = '_id' OR (id IN ()));" ∧
      translate ⟨true⟩ "db._id.find({user_id: 1})" =
        translate ⟨false⟩ "db._id.find({user_id: 1})" := by
  intro q
  refine ⟨renaming_is_substitution.1 q, by decide +kernel, ?_⟩
  have hfields : (Query.parse "db._id.find({user_id: 1})").toOption.map Query.fields =
      some ["user_id"] := by decide +kernel
  -- the query text is accepted, but nothing is needed to know of the query beside its fields
  rcases renaming_is_substitution.2.2 "db._id.find({user_id: 1})" with
    ⟨e, -, htrue, hfalse⟩ | ⟨q, hq, -, -, hsame⟩
  · rw [htrue, hfalse]
  · rw [hq] at hfields
    have hq : q.fields = ["user_id"] := Option.some.inj hfields
    exact hsame (by rw [hq]; decide)

end Query

end FindToSelect
