import FindToSelect.Proofs.Filter.Meaning

/-!
# The leaves of built predicates

Building loses no condition of a filter, says none twice and leaves them in order: the comparisons
at the leaves of the predicates, from left to right, are the atomic conditions of the filter in
source order (`leavesEach_of_buildFilter`).

The two sides are defined apart. `filterConditions` walks through the document: members in order, an
operator document operator by operator, and the documents of a group one behind the other.
`Predicate.leaves` walks through the tree. A condition has a token and a value, a leaf an operator
and literals, and `Condition.Becomes` says which leaf is which condition.

As for the meaning of a filter, clauses stand between the two: taking a filter apart keeps its
conditions (`flatMap_conditions_ofFilter`), and so does building a clause
(`Clause.becomes_of_build`). A document that becomes a group of its own has the same leaves as one
that does not.
-/

namespace FindToSelect

/-! ### Leaves -/

/-- **A comparison at a leaf of a predicate.** -/
structure Leaf where
  field : String
  comparison : Comparison
  operand : Operand
deriving DecidableEq

namespace Predicate

mutual

/-- **The leaves of a predicate**, from left to right. -/
def leaves : Predicate → List Leaf
  | compare field c operand => [⟨field, c, operand⟩]
  | group _ children => leavesEach children

/-- The leaves of several predicates. -/
def leavesEach : List Predicate → List Leaf
  | [] => []
  | p :: rest => leaves p ++ leavesEach rest

end

end Predicate

/-! ### Conditions -/

/-- **An atomic condition of a filter**: a field, the token of an operator, and the value on its
right. -/
structure Condition where
  field : String
  token : String
  operand : Value

mutual

/-- **The conditions of a member of a filter.** -/
def memberConditions (key : String) : Value → List Condition
  | .array elements =>
    if key = Connective.all.token ∨ key = Connective.any.token then elementsConditions elements
    else [⟨key, Comparison.equal.token, .array elements⟩]
  | .object members =>
    if members ≠ [] ∧ members.all (fun m => startsWithDollar m.1) then
      members.map fun m => ⟨key, m.1, m.2⟩
    else [⟨key, Comparison.equal.token, .object members⟩]
  | v => [⟨key, Comparison.equal.token, v⟩]

/-- The conditions of the documents in an array. -/
def elementsConditions : List Value → List Condition
  | [] => []
  | .object members :: rest => filterConditions members ++ elementsConditions rest
  | _ :: rest => elementsConditions rest

/-- **The conditions of a filter**, in source order. -/
def filterConditions : List (String × Value) → List Condition
  | [] => []
  | (key, v) :: rest => memberConditions key v ++ filterConditions rest

end

/-- **A condition becomes a leaf**: the field is the same, the operator is the one that the token
names, and the operand is the value literal by literal. -/
structure Condition.Becomes (a : Condition) (l : Leaf) : Prop where
  field : l.field = a.field
  comparison : a.token = l.comparison.token
  operand : l.operand.toValue = a.operand

/-! ### Clauses keep the conditions -/

/-- **The conditions of a clause.** -/
def Clause.conditions : Clause → List Condition
  | field name token operand => [⟨name, token, operand⟩]
  | group token operand => memberConditions token operand

/-- **The token of a connective** stands before the conditions of its elements. -/
theorem memberConditions_token (c : Connective) (elements : List Value) :
    memberConditions c.token (.array elements) = elementsConditions elements := by
  cases c with
  | all => rw [memberConditions, if_pos (Or.inl rfl)]
  | any => rw [memberConditions, if_pos (Or.inr rfl)]

/-- **The clauses of a member have its conditions**, in order. -/
theorem flatMap_conditions_ofMember (key : String) (v : Value) :
    (Clause.ofMember key v).flatMap Clause.conditions = memberConditions key v := by
  unfold Clause.ofMember
  -- a group clause has the conditions of the member, and a field clause is one condition
  split
  · rw [List.flatMap_singleton, Clause.conditions]
  · next hkey =>
    cases v with
    | object members =>
      rw [memberConditions, Value.operators?]
      simp only [Document.keys, List.all_map, Function.comp_def, startsWithDollar_eq]
      by_cases hm : members ≠ [] ∧ members.all (fun m => isToken m.1)
      · rw [if_pos hm, if_pos hm]
        -- one clause for each operator, and one condition for each clause
        show (members.map _).flatMap Clause.conditions = _
        rw [List.flatMap_map]
        exact List.flatMap_pure_eq_map _ _
      · rw [if_neg hm, if_neg hm]
        rfl
    | array elements =>
      -- the key is a field, and the tokens of connectives are not
      have hfield : ¬ (key = Connective.all.token ∨ key = Connective.any.token) := by
        rintro (rfl | rfl) <;> exact hkey (by decide)
      rw [memberConditions, if_neg hfield]
      rfl
    | null | boolean _ | number _ | string _ => rfl

/-- **Taking a filter apart keeps its conditions**, in order. -/
theorem flatMap_conditions_ofFilter (d : Document) :
    (Clause.ofFilter d).flatMap Clause.conditions = filterConditions d := by
  induction d with
  | nil => rfl
  | cons m d ih =>
    obtain ⟨key, v⟩ := m
    rw [filterConditions, ← flatMap_conditions_ofMember, ← ih]
    exact List.flatMap_append

/-! ### Building keeps the conditions -/

/-- The conditions of clauses become the leaves of their predicates if those of each clause do. -/
theorem becomes_leavesEach {cs : List Clause} {ps : List Predicate}
    (h : List.Forall₂ (fun c p => List.Forall₂ Condition.Becomes c.conditions p.leaves) cs ps) :
    List.Forall₂ Condition.Becomes (cs.flatMap Clause.conditions) (Predicate.leavesEach ps) := by
  induction h with
  | nil => exact .nil
  | cons hp _ ih =>
    rw [List.flatMap_cons, Predicate.leavesEach]
    exact List.rel_append hp ih

/-- **The conditions of an element become the leaves** of the predicate made from it, whether it
stands by itself or is a group. -/
theorem becomes_of_madeFrom {element : Value} {p : Predicate}
    (h : MadeFrom (fun c p => List.Forall₂ Condition.Becomes c.conditions p.leaves) element p) :
    ∃ d, element = .object d ∧ List.Forall₂ Condition.Becomes (filterConditions d) p.leaves := by
  obtain ⟨d, ps, rfl, hps, hp⟩ := h
  refine ⟨d, rfl, ?_⟩
  -- a group of several has their leaves, and a single predicate has its own
  have hleaves : Predicate.leavesEach ps = p.leaves := by
    rcases hp with rfl | ⟨-, rfl⟩
    · exact List.append_nil _
    · rfl
  rw [← flatMap_conditions_ofFilter, ← hleaves]
  exact becomes_leavesEach hps

/-- **The conditions of a clause become the leaves of its predicate.** -/
theorem Clause.becomes_of_build {nesting : Nat} {c : Clause} {p : Predicate}
    (h : Clause.build nesting c = .ok p) :
    List.Forall₂ Condition.Becomes c.conditions p.leaves := by
  refine Clause.build_induction
    (motive := fun _ c p => List.Forall₂ Condition.Becomes c.conditions p.leaves) ?_ ?_ h
  · intro _ name token v c o hc ho
    obtain rfl : c.token = token := Operator.token_of_ofToken? hc
    -- one condition, and one leaf of the same field, operator and value
    exact .cons ⟨rfl, rfl, Operand.toValue_of_ofValue? ho⟩ .nil
  · intro nesting token c elements children hc hne hch
    clear hne
    obtain rfl : c.token = token := Operator.token_of_ofToken? hc
    rw [Clause.conditions, memberConditions_token, Predicate.leaves]
    -- element by element, each of which is a document
    induction hch with
    | nil => exact .nil
    | cons hmade _ ih =>
      obtain ⟨d, rfl, hd⟩ := becomes_of_madeFrom hmade
      rw [elementsConditions, Predicate.leavesEach]
      exact List.rel_append hd ih

/-- **The leaves of the predicates of a filter are its conditions**, each once and in source order.
-/
theorem leavesEach_of_buildFilter {d : Document} {ps : List Predicate}
    (h : buildFilter (Clause.ofFilter d) = .ok ps) :
    List.Forall₂ Condition.Becomes (filterConditions d) (Predicate.leavesEach ps) := by
  rw [← flatMap_conditions_ofFilter]
  apply becomes_leavesEach
  exact (mapM_eq_ok_iff.1 h).imp fun _ _ => Clause.becomes_of_build

/-- A filter that says one condition twice, at different depths. The first document of its `$or`
becomes a group of its own, and the second holds a group and nothing else. -/
theorem leavesEach_of_buildFilter_repeated :
    let one : Value := .number (.integer 1)
    let first : Document := [("b", .object [("$in", .array [one, .boolean true])]), ("a", one)]
    let second : Document := [("$and", .array [.object [("a", .object [("$gte", one)])]])]
    let d : Document :=
      [("a", .object [("$gte", one), ("$lt", .string "m")]),
        ("$or", .array [.object first, .object second])]
    let l : Literal := .number (.integer 1)
    let ps : List Predicate :=
      [.compare "a" .greaterEqual (.scalar l), .compare "a" .less (.scalar (.string "m")),
        .group .any
          [.group .all
            [.compare "b" .oneOf (.list [l, .boolean true]), .compare "a" .equal (.scalar l)],
          .group .all [.compare "a" .greaterEqual (.scalar l)]]]
    buildFilter (Clause.ofFilter d) = .ok ps ∧
      filterConditions d =
        [⟨"a", "$gte", one⟩, ⟨"a", "$lt", .string "m"⟩, ⟨"b", "$in", .array [one, .boolean true]⟩,
          ⟨"a", "$eq", one⟩, ⟨"a", "$gte", one⟩] ∧
      Predicate.leavesEach ps =
        [⟨"a", .greaterEqual, .scalar l⟩, ⟨"a", .less, .scalar (.string "m")⟩,
          ⟨"b", .oneOf, .list [l, .boolean true]⟩, ⟨"a", .equal, .scalar l⟩,
          ⟨"a", .greaterEqual, .scalar l⟩] ∧
      List.Forall₂ Condition.Becomes (filterConditions d) (Predicate.leavesEach ps) := by
  intro one first second d l ps
  have hd : Clause.ofFilter d = [.field "a" "$gte" one, .field "a" "$lt" (.string "m"),
      .group "$or" (.array [.object first, .object second])] := by
    simp [d, Clause.ofFilter, Clause.ofMember, Value.operators?, Document.keys, isToken]
  have hfirst : Clause.ofFilter first =
      [.field "b" "$in" (.array [one, .boolean true]), .field "a" "$eq" one] := by
    simp [first, one, Clause.ofFilter, Clause.ofMember, Value.operators?, Document.keys, isToken,
      implicitToken]
  have hsecond : Clause.ofFilter second =
      [.group "$and" (.array [.object [("a", .object [("$gte", one)])]])] := by
    simp [second, Clause.ofFilter, Clause.ofMember, isToken]
  have hinner : Clause.ofFilter [("a", .object [("$gte", one)])] = [.field "a" "$gte" one] := by
    simp [Clause.ofFilter, Clause.ofMember, Value.operators?, Document.keys, isToken]
  have hbuilt : buildFilter (Clause.ofFilter d) = .ok ps := by
    rw [buildFilter, hd, mapM_eq_ok_iff]
    refine .cons (Clause.build_field_eq_ok (by decide) rfl)
      (.cons (Clause.build_field_eq_ok (by decide) rfl)
        (.cons (Clause.build_group_eq_ok_iff.2 ?_) .nil))
    refine ⟨.any, 63, _, _, by decide, rfl, rfl, by simp, .cons ?_ (.cons ?_ .nil), rfl⟩
    · refine ⟨first, _, rfl, ?_, Or.inr ⟨?_, rfl⟩⟩
      · rw [hfirst]
        exact .cons (Clause.build_field_eq_ok (by decide) rfl)
          (.cons (Clause.build_field_eq_ok (by decide) rfl) .nil)
      · simp
    · refine ⟨second, _, rfl, ?_, Or.inl rfl⟩
      rw [hsecond]
      refine .cons (Clause.build_group_eq_ok_iff.2 ?_) .nil
      refine ⟨.all, 62, _, _, by decide, rfl, rfl, by simp, .cons ?_ .nil, rfl⟩
      refine ⟨_, _, rfl, ?_, Or.inl rfl⟩
      rw [hinner]
      exact .cons (Clause.build_field_eq_ok (by decide) rfl) .nil
  have hconditions : filterConditions d =
      [⟨"a", "$gte", one⟩, ⟨"a", "$lt", .string "m"⟩, ⟨"b", "$in", .array [one, .boolean true]⟩,
        ⟨"a", "$eq", one⟩, ⟨"a", "$gte", one⟩] := by
    simp [d, one, first, second, filterConditions, memberConditions, elementsConditions,
      startsWithDollar, Comparison.token, Connective.token]
  exact ⟨hbuilt, hconditions, rfl, leavesEach_of_buildFilter hbuilt⟩

end FindToSelect
