import FindToSelect.Proofs.Filter.Meaning
import FindToSelect.Proofs.Statement.Grammar

/-!
# The reading of a statement is its query

A statement is read by the grammar in exactly one way, and the reading is the query that it was
written for (`Query.statement_read_uniquely`). The query must be *plain*: its names are words, its
strings have no quote in them, and its groups have a child. Which operands stand with which
operators does not matter, and strings may hold anything else that looks like SQL.

`Query.reading` says what the reading is. It is a function of the query, so what is left is:

* `Query.isSelect_text` — the statement has this reading; by recursion on predicates, the text of
  each being a condition of the grammar. That it has no other is `Sql.IsSelect.unique`;
* `Query.reading_eq_iff` — what the reading forgets of a query is the connective of groups with one
  child and the kind of numbers that are written alike, and nothing else;
* `Query.holds_reading` — the reading holds exactly when the query does. `AND` binds tighter than
  `OR` in the reading, and yet every group keeps its meaning, since it stands in parentheses.
-/

namespace FindToSelect

/-! ### The reading of a query -/

/-- The constant that a literal is written as. -/
def Literal.reading : Literal → Sql.Constant
  | string s => .string s.toList
  | number n => .number n.sql
  | boolean b => .boolean b

/-- The right-hand side that an operand is written as. -/
def Operand.reading : Operand → Sql.Term
  | scalar l => .constant l.reading
  | list ls => .list (ls.map Literal.reading)

/-- **A connective between conditions**, as a disjunction of conjunctions. -/
def Connective.arrange : Connective → List Sql.Condition → List (List Sql.Condition)
  | all, cs => [cs]
  | any, cs => cs.map fun c => [c]

namespace Predicate

mutual

/-- **The reading of a predicate.** -/
def reading : Predicate → Sql.Condition
  | compare field c operand => .compare field.toList c operand.reading
  | group c children => .paren (c.arrange (readingEach children))

/-- The readings of several predicates. -/
def readingEach : List Predicate → List Sql.Condition
  | [] => []
  | p :: rest => reading p :: readingEach rest

end

end Predicate

/-- **The reading of a query**: the query itself, with its predicates joined by `AND`. -/
def Query.reading (q : Query) : Sql.Select where
  columns := q.columns.map String.toList
  table := q.collection.toList
  alternatives :=
    match q.conditions with
    | [] => none
    | ps => some [Predicate.readingEach ps]

/-! ### Queries that can be read back -/

/-- A literal has no quote in it. -/
def Literal.Plain : Literal → Prop
  | string s => '\'' ∉ s.toList
  | _ => True

/-- An operand has no quote in its strings. -/
def Operand.Plain : Operand → Prop
  | scalar l => l.Plain
  | list ls => ∀ l ∈ ls, l.Plain

namespace Predicate

mutual

/-- **Predicates that can be read back**: fields are words, strings have no quote in them, and
groups have a child. -/
def Plain : Predicate → Prop
  | compare field _ operand => Sql.IsWord field.toList ∧ operand.Plain
  | group _ children => children ≠ [] ∧ PlainEach children

/-- Several predicates that can be read back. -/
def PlainEach : List Predicate → Prop
  | [] => True
  | p :: rest => Plain p ∧ PlainEach rest

end

end Predicate

/-- **Queries that can be read back.** -/
structure Query.Plain (q : Query) : Prop where
  collection : Sql.IsWord q.collection.toList
  columns : ∀ field ∈ q.columns, Sql.IsWord field.toList
  conditions : Predicate.PlainEach q.conditions

/-! ### The text of a query has its reading -/

/-- **A literal is written as its constant.** -/
theorem Literal.isConstant_sql {l : Literal} (h : l.Plain) : Sql.IsConstant l.sql l.reading := by
  match l with
  | .string s => exact .string h
  | .number n => exact .number n.isDecimal_sql
  | .boolean true => exact .true
  | .boolean false => exact .false

/-- Texts with readings, joined, are a list with the readings. -/
theorem Sql.joined_of_forall₂ {α : Type} {Item : List Char → α → Prop} {separator : List Char}
    {texts : List (List Char)} {as : List α} (h : List.Forall₂ Item texts as) (hne : texts ≠ []) :
    Sql.Joined separator Item (Text.joined separator texts) as := by
  induction h with
  | nil => exact absurd rfl hne
  | @cons text a texts as ha has ih =>
    -- `Text.joined` puts a separator before every text but the first
    cases has with
    | nil => exact .one ha
    | cons hb hbs =>
      rw [Text.joined_cons_cons, List.append_assoc]
      exact .cons ha (ih (by simp))

/-- **An operand is written as its right-hand side.** -/
theorem Operand.isTerm_sql {o : Operand} (h : o.Plain) : Sql.IsTerm o.sql o.reading := by
  match o with
  | .scalar l => exact .constant (l.isConstant_sql h)
  -- an empty list is a rule of its own, since a joined list has an item
  | .list [] => exact .nil
  | .list (l :: ls) =>
    refine .list (Sql.joined_of_forall₂ ?_ (by simp))
    rw [List.forall₂_map_left_iff, List.forall₂_map_right_iff, List.forall₂_same]
    exact fun l hl => l.isConstant_sql (h l hl)

/-- **An operator is written as the grammar reads it.** -/
theorem Comparison.isOperator_sql (c : Comparison) : Sql.IsOperator c.sql.toList c := by
  cases c
  exacts [.equal, .notEqual, .greater, .less, .greaterEqual, .lessEqual, .oneOf]

/-- Predicates that must all hold are joined by the word of a conjunction. -/
theorem Connective.spaced_all : all.spaced = Sql.andWord := rfl

theorem Connective.spaced_any : any.spaced = Sql.orWord := rfl

namespace Predicate

/-- **Conditions joined by a connective** are a disjunction, of one conjunction or of single
conditions. -/
theorem isDisjunction_arrange {texts : List (List Char)} {cs : List Sql.Condition}
    (c : Connective) (h : List.Forall₂ Sql.IsCondition texts cs) (hne : texts ≠ []) :
    Sql.IsDisjunction (Text.joined c.spaced texts) (c.arrange cs) := by
  cases c with
  | all =>
    rw [Connective.spaced_all]
    exact .one (Sql.joined_of_forall₂ h hne)
  | any =>
    rw [Connective.spaced_any]
    refine Sql.joined_of_forall₂ ?_ hne
    rw [Connective.arrange, List.forall₂_map_right_iff]
    exact h.imp fun _ _ => .one

mutual

/-- **A predicate is written as its reading.** -/
theorem isCondition_sql : ∀ {p : Predicate}, p.Plain → Sql.IsCondition (p.sql ⟨false⟩) p.reading
  | .compare field c operand, ⟨hf, ho⟩ => by
    rw [sql, Naming.column_false, List.append_assoc, List.cons_append]
    exact .compare hf c.isOperator_sql (operand.isTerm_sql ho)
  | .group c children, ⟨hne, hch⟩ => by
    -- a group without children would be written `()`, which the grammar does not have
    have hne' : sqlEach ⟨false⟩ children ≠ [] := by
      cases children with
      | nil => exact absurd rfl hne
      | cons p ps => simp [sqlEach]
    exact .paren (isDisjunction_arrange c (forall₂_isCondition_sqlEach hch) hne')

theorem forall₂_isCondition_sqlEach : ∀ {ps : List Predicate}, PlainEach ps →
    List.Forall₂ Sql.IsCondition (sqlEach ⟨false⟩ ps) (readingEach ps)
  | [], _ => .nil
  | _ :: _, ⟨hp, hps⟩ => .cons (isCondition_sql hp) (forall₂_isCondition_sqlEach hps)

end

end Predicate

/-- **The columns of a query are written as columns.** -/
theorem Query.isColumns_columnText {q : Query}
    (h : ∀ field ∈ q.columns, Sql.IsWord field.toList) :
    Sql.IsColumns (q.columnText ⟨false⟩) (q.columns.map String.toList) := by
  unfold columnText
  split
  · -- no columns are written as a star, and a star is read as no columns
    next hq =>
    rw [hq]
    exact .all
  · next hq =>
    refine .names (Sql.joined_of_forall₂ ?_ (by simpa using hq))
    rw [List.forall₂_map_left_iff, List.forall₂_map_right_iff, List.forall₂_same]
    exact fun field hf => ⟨h field hf, rfl⟩

/-- **The conditions of a query are written as the end of a statement.** -/
theorem Query.isTail_conditionText {q : Query} (h : Predicate.PlainEach q.conditions) :
    Sql.IsTail (q.conditionText ⟨false⟩ ++ [';']) q.reading.alternatives := by
  unfold conditionText reading
  generalize q.conditions = ps at h
  -- no conditions leave the semicolon only, and one or more are joined behind `WHERE`
  cases ps with
  | nil => exact .nil
  | cons p ps =>
    rw [List.append_assoc]
    exact .condition (.one (Sql.joined_of_forall₂ (Predicate.forall₂_isCondition_sqlEach h)
      (by simp [Predicate.sqlEach])))

/-- **A statement has the reading of its query.** -/
theorem Query.isSelect_text {q : Query} (h : q.Plain) :
    Sql.IsSelect (q.text ⟨false⟩) q.reading := by
  have hcolumns := isColumns_columnText h.columns
  have htail := isTail_conditionText h.conditions
  have hselect := Sql.IsSelect.intro hcolumns h.collection htail
  -- the two texts differ in how the parts are bracketed
  unfold text
  simp only [List.append_assoc]
  exact hselect

/-! ### What the reading forgets -/

/-- Literals with one text: the same, or two numbers with the same text. -/
def Literal.Alike : Literal → Literal → Prop
  | number m, number n => m.sql = n.sql
  | l, l' => l = l'

/-- Operands with one text. -/
def Operand.Alike : Operand → Operand → Prop
  | scalar l, scalar l' => l.Alike l'
  | list ls, list ls' => List.Forall₂ Literal.Alike ls ls'
  | _, _ => False

namespace Predicate

mutual

/-- **Predicates that differ in nothing** but the connectives of groups with one child and numbers
with the same text. -/
def Alike : Predicate → Predicate → Prop
  | compare field c operand, compare field' c' operand' =>
    field = field' ∧ c = c' ∧ operand.Alike operand'
  | group c children, group c' children' =>
    (c = c' ∨ children.length = 1) ∧ AlikeEach children children'
  | _, _ => False

/-- Lists of alike predicates. -/
def AlikeEach : List Predicate → List Predicate → Prop
  | [], [] => True
  | p :: ps, q :: qs => Alike p q ∧ AlikeEach ps qs
  | _, _ => False

end

end Predicate

/-- **Queries that differ in nothing** but the connectives of groups with one child and numbers with
the same text. -/
def Query.Alike (q q' : Query) : Prop :=
  q.collection = q'.collection ∧ q.columns = q'.columns ∧
    Predicate.AlikeEach q.conditions q'.conditions

/-- Of a number the reading keeps the text, of other literals everything. -/
theorem Literal.reading_eq_iff {l l' : Literal} : l.reading = l'.reading ↔ l.Alike l' := by
  cases l <;> cases l' <;> simp [reading, Alike, String.toList_inj]

theorem Literal.map_reading_eq_iff {ls ls' : List Literal} :
    ls.map reading = ls'.map reading ↔ List.Forall₂ Alike ls ls' := by
  rw [← List.forall₂_eq_eq_eq, List.forall₂_map_left_iff, List.forall₂_map_right_iff]
  simp only [reading_eq_iff]

/-- **The reading of an operand forgets only the kinds of numbers.** -/
theorem Operand.reading_eq_iff {o o' : Operand} : o.reading = o'.reading ↔ o.Alike o' := by
  cases o <;> cases o' <;>
    simp [reading, Alike, Literal.reading_eq_iff, Literal.map_reading_eq_iff]

/-- **Arranging forgets the connective** of one condition, and nothing else. -/
theorem Connective.arrange_eq_iff {c d : Connective} {cs ds : List Sql.Condition} :
    c.arrange cs = d.arrange ds ↔ (c = d ∨ cs.length = 1) ∧ cs = ds := by
  -- one conjunction is a disjunction of single conditions if there is one condition
  have hsingle : ∀ {cs ds : List Sql.Condition},
      [cs] = ds.map (fun c => [c]) ↔ cs.length = 1 ∧ cs = ds := by
    intro cs ds
    constructor
    · intro h
      match ds with
      | [] => simp at h
      | [d] => simp_all
      | d :: e :: ds => simp at h
    · rintro ⟨hl, rfl⟩
      obtain ⟨c, rfl⟩ := List.length_eq_one_iff.1 hl
      rfl
  -- a conjunction of one condition tells which condition it is
  have hmap : Function.Injective fun c : Sql.Condition => [c] := fun _ _ h => by simpa using h
  -- different connectives agree on one condition, equal ones only on equal lists
  cases c <;> cases d <;> simp only [arrange]
  · simp
  · simp [hsingle]
  · rw [eq_comm, hsingle]
    constructor
    · rintro ⟨hl, rfl⟩
      exact ⟨Or.inr hl, rfl⟩
    · rintro ⟨hl, rfl⟩
      exact ⟨hl.resolve_left (by simp), rfl⟩
  · rw [(List.map_injective_iff.2 hmap).eq_iff]
    simp

namespace Predicate

/-- Each predicate has a reading, so a group with one child has a reading with one condition. -/
theorem length_readingEach (ps : List Predicate) : (readingEach ps).length = ps.length := by
  induction ps with
  | nil => rfl
  | cons p ps ih => rw [readingEach, List.length_cons, List.length_cons, ih]

mutual

/-- **Predicates have one reading exactly when they are alike.** -/
theorem reading_eq_iff : ∀ {p q : Predicate}, p.reading = q.reading ↔ p.Alike q
  | .compare _ _ _, .compare _ _ _ => by
    simp [reading, Alike, String.toList_inj, Operand.reading_eq_iff]
  | .compare _ _ _, .group _ _ => by simp [reading, Alike]
  | .group _ _, .compare _ _ _ => by simp [reading, Alike]
  | .group c ps, .group d qs => by
    -- the connective is forgotten for one condition, that is for one child
    rw [reading, reading, Alike, Sql.Condition.paren.injEq, Connective.arrange_eq_iff,
      length_readingEach, readingEach_eq_iff]

theorem readingEach_eq_iff : ∀ {ps qs : List Predicate},
    readingEach ps = readingEach qs ↔ AlikeEach ps qs
  | [], [] => by simp [readingEach, AlikeEach]
  | [], _ :: _ => by simp [readingEach, AlikeEach]
  | _ :: _, [] => by simp [readingEach, AlikeEach]
  | p :: ps, q :: qs => by
    rw [readingEach, readingEach, AlikeEach, List.cons.injEq, reading_eq_iff, readingEach_eq_iff]

end

end Predicate

/-- **Queries have one reading exactly when they are alike.** -/
theorem Query.reading_eq_iff {q q' : Query} : q.reading = q'.reading ↔ q.Alike q' := by
  -- names are kept as they are
  have hcolumns : q.columns.map String.toList = q'.columns.map String.toList ↔
      q.columns = q'.columns :=
    (List.map_injective_iff.2 fun _ _ => String.toList_inj.1).eq_iff
  -- no conditions have a reading of their own, which no list of predicates has
  have hconditions : q.reading.alternatives = q'.reading.alternatives ↔
      Predicate.AlikeEach q.conditions q'.conditions := by
    rw [← Predicate.readingEach_eq_iff]
    unfold reading
    cases q.conditions <;> cases q'.conditions <;> simp [Predicate.readingEach]
  rw [Alike, ← hconditions, ← hcolumns, ← String.toList_inj]
  constructor
  · intro h
    rw [h]
    exact ⟨congrArg Sql.Select.table h, congrArg Sql.Select.columns h, rfl⟩
  · rintro ⟨ht, hc, ha⟩
    exact Sql.Select.ext hc ht ha

/-! ### What a statement means -/

/-- **Truth values for comparisons**, as they are read. -/
abbrev Sql.Truth := List Char → Comparison → Sql.Term → Bool

namespace Sql

mutual

/-- **Whether a condition holds.** -/
def Condition.holds (σ : Truth) : Condition → Bool
  | .compare field c operand => σ field c operand
  | .paren alternatives => someHolds σ alternatives

/-- Whether one of several conjunctions holds. -/
def someHolds (σ : Truth) : List (List Condition) → Bool
  | [] => false
  | cs :: rest => everyHolds σ cs || someHolds σ rest

/-- Whether all of several conditions hold. -/
def everyHolds (σ : Truth) : List Condition → Bool
  | [] => true
  | c :: rest => Condition.holds σ c && everyHolds σ rest

end

/-- **Whether a row is selected.** -/
def Select.holds (σ : Truth) (s : Select) : Bool :=
  match s.alternatives with
  | none => true
  | some alternatives => someHolds σ alternatives

/-- The truth values of comparisons as they are written. -/
def Truth.onOperands (σ : Truth) : String → Comparison → Operand → Bool :=
  fun field c operand => σ field.toList c operand.reading

end Sql

/-- **Whether a query selects a row**: all its predicates hold. -/
def Query.holds (τ : String → Comparison → Operand → Bool) (q : Query) : Bool :=
  q.conditions.all (Predicate.holds τ)

theorem Sql.everyHolds_eq_all (σ : Sql.Truth) (cs : List Sql.Condition) :
    Sql.everyHolds σ cs = cs.all (Sql.Condition.holds σ) := by
  induction cs with
  | nil => rfl
  | cons c cs ih => rw [Sql.everyHolds, List.all_cons, ih]

/-- **An arranged list holds by its connective**, although `AND` binds tighter in it. -/
theorem Sql.someHolds_arrange (σ : Sql.Truth) (c : Connective) (cs : List Sql.Condition) :
    Sql.someHolds σ (c.arrange cs) = c.holds (cs.map (Sql.Condition.holds σ)) := by
  cases c with
  | all =>
    rw [Connective.arrange, Sql.someHolds, Sql.someHolds, Bool.or_false, Sql.everyHolds_eq_all,
      Connective.holds, List.all_map]
    rfl
  | any =>
    -- each conjunction is of one condition
    rw [Connective.arrange, Connective.holds, List.any_map]
    induction cs with
    | nil => rfl
    | cons c cs ih =>
      rw [List.map_cons, Sql.someHolds, ih, Sql.everyHolds_eq_all, List.any_cons, List.all_cons,
        List.all_nil, Bool.and_true]
      rfl

namespace Predicate

mutual

/-- **A predicate means what its reading means.** -/
theorem holds_reading (σ : Sql.Truth) : ∀ p : Predicate, p.reading.holds σ = p.holds σ.onOperands
  | .compare _ _ _ => rfl
  | .group c ps => by
    rw [reading, Sql.Condition.holds, Sql.someHolds_arrange, map_holds_readingEach, holds]

theorem map_holds_readingEach (σ : Sql.Truth) : ∀ ps : List Predicate,
    (readingEach ps).map (Sql.Condition.holds σ) = holdsEach σ.onOperands ps
  | [] => rfl
  | p :: ps => by
    rw [readingEach, List.map_cons, holds_reading, map_holds_readingEach, holdsEach]

end

end Predicate

/-- **A query means what its reading means.** -/
theorem Query.holds_reading (σ : Sql.Truth) (q : Query) :
    q.reading.holds σ = q.holds σ.onOperands := by
  unfold Sql.Select.holds reading holds
  cases q.conditions with
  | nil => rfl
  | cons p ps =>
    -- the predicates of a query mean what a group of them under `AND` means
    rw [← Predicate.holds_group_all, Predicate.holds, ← Predicate.map_holds_readingEach,
      ← Sql.someHolds_arrange]
    rfl

/-- **A statement has one reading, which is its query** up to the connectives of groups with one
child and numbers with the same text. So statements with the same text select the same rows. -/
theorem Query.statement_read_uniquely {q : Query} (h : q.Plain) :
    (∀ s, Sql.IsSelect (q.statement ⟨false⟩).toList s ↔ s = q.reading) ∧
      (∀ q', q.reading = q'.reading ↔ q.Alike q') ∧
      (∀ σ, q.reading.holds σ = q.holds σ.onOperands) ∧
      ∀ q' : Query, q'.Plain → q.statement ⟨false⟩ = q'.statement ⟨false⟩ →
        q.Alike q' ∧ ∀ σ : Sql.Truth, q.holds σ.onOperands = q'.holds σ.onOperands := by
  -- the text of a statement is one reading, and there is no second
  have hreads : ∀ {q : Query}, q.Plain →
      Sql.IsSelect (q.statement ⟨false⟩).toList q.reading := by
    intro q hq
    rw [statement, String.toList_ofList]
    exact isSelect_text hq
  refine ⟨fun s => ⟨fun hs => hs.unique (hreads h), fun hs => hs ▸ hreads h⟩,
    fun _ => reading_eq_iff, fun σ => holds_reading σ q, fun q' h' he => ?_⟩
  -- one text, so one reading
  have hsame : q.reading = q'.reading := (hreads h).unique (he ▸ hreads h')
  refine ⟨reading_eq_iff.1 hsame, fun σ => ?_⟩
  rw [← holds_reading, ← holds_reading, hsame]

/-- A string that looks like the end of a statement, an empty list, and a group with one child. The
other query differs in the connective of that group and in the kind of the number. -/
theorem Query.statement_read_uniquely_one_child :
    let one : Double := ⟨false, 0x10000000000000, 1022, by decide, by decide, by decide⟩
    let children : List Predicate :=
      [.compare "a" .equal (.scalar (.string "x) OR (y;")), .compare "$b" .oneOf (.list [])]
    let q : Query := ⟨"user", ["AND", "id"],
      [.group .any children, .group .any [.compare "n" .less (.scalar (.number (.integer 1)))]]⟩
    let q' : Query := ⟨"user", ["AND", "id"],
      [.group .any children, .group .all [.compare "n" .less (.scalar (.number (.float one)))]]⟩
    q.statement ⟨false⟩ =
        "SELECT AND, id FROM user WHERE (a = 'x) OR (y;' OR $b IN ()) AND (n < 1);" ∧
      (∀ s, Sql.IsSelect (q.statement ⟨false⟩).toList s ↔ s = q.reading) ∧ q.Alike q' := by
  intro one children q q'
  -- both queries have this group, which is plain
  have hchildren : (Predicate.group .any children).Plain := by
    refine ⟨by simp [children], ⟨by decide +kernel, ?_⟩, ⟨by decide +kernel, ?_⟩, trivial⟩
    · exact (by decide : '\'' ∉ "x) OR (y;".toList)
    · exact fun l hl => absurd hl (by simp)
  have hq : q.Plain := ⟨by decide +kernel, by decide +kernel, hchildren,
    ⟨by simp, ⟨by decide +kernel, trivial⟩, trivial⟩, trivial⟩
  have hq' : q'.Plain := ⟨by decide +kernel, by decide +kernel, hchildren,
    ⟨by simp, ⟨by decide +kernel, trivial⟩, trivial⟩, trivial⟩
  have h := Query.statement_read_uniquely hq
  exact ⟨by decide +kernel, h.1, (h.2.2.2 q' hq' (by decide +kernel)).1⟩

end FindToSelect
