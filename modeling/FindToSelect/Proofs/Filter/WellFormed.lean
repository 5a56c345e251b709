import FindToSelect.Proofs.Filter.Meaning

/-!
# Built predicates are well formed

Predicates that are built from clauses, whether these were read from a filter or not, are fit to be
written in a statement (`buildFilter_wellFormed`):

* `Clause.Yields` — each clause gives one predicate, of the same field or with as many children as
  it has elements;
* `Predicate.WellFormed` — every group in it has a child, and every comparison has the kind of
  operand that its operator takes;
* `Predicate.depth` — the groups that stand inside each other in it are at most twice as many as the
  limit on groups says. The limit counts the groups that are written in a filter. A document with
  several clauses inside a group becomes one more group, which is not counted, so `n` groups give a
  predicate of depth up to `2 * n` (`Predicate.depth_le_of_build`). The filter `pairedGroups n`,
  with two clauses in every document, gives one of exactly this depth.

Each fact goes by `Clause.build_induction`. An element of a group needs one step more, since it may
be a predicate by itself or a group of several.
-/

namespace FindToSelect

/-! ### Well-formed predicates -/

/-- Whether an operand is a list. -/
def Operand.isList : Operand → Bool
  | scalar _ => false
  | list _ => true

namespace Predicate

/-- **A well-formed predicate**: the operand of every comparison is a list exactly if the operator
takes one, and every group has a child. -/
inductive WellFormed : Predicate → Prop
  | compare {field : String} {c : Comparison} {operand : Operand} :
      (operand.isList = true ↔ c = .oneOf) → WellFormed (.compare field c operand)
  | group {c : Connective} {children : List Predicate} :
      children ≠ [] → (∀ p ∈ children, WellFormed p) → WellFormed (.group c children)

mutual

/-- **The depth of a predicate**: how many groups stand inside each other in it. -/
def depth : Predicate → Nat
  | compare _ _ _ => 0
  | group _ children => depthEach children + 1

/-- The greatest depth of several predicates. -/
def depthEach : List Predicate → Nat
  | [] => 0
  | p :: rest => max (depth p) (depthEach rest)

end

theorem depthEach_le_iff {n : Nat} {ps : List Predicate} :
    depthEach ps ≤ n ↔ ∀ p ∈ ps, p.depth ≤ n := by
  induction ps with
  | nil => simp [depthEach]
  | cons p ps ih => rw [depthEach, Nat.max_le, ih, List.forall_mem_cons]

end Predicate

/-- **The predicate that goes with a clause**: a comparison of its field with its operand, or a
group with one child for each element, by the operator that the token names. -/
inductive Clause.Yields : Clause → Predicate → Prop
  | compare {name token : String} {v : Value} {c : Comparison} {operand : Operand} :
      token = c.token → operand.toValue = v →
        Yields (.field name token v) (.compare name c operand)
  | group {token : String} {elements : List Value} {c : Connective} {children : List Predicate} :
      token = c.token → children.length = elements.length →
        Yields (.group token (.array elements)) (.group c children)

/-! ### What is built is well formed -/

/-- **A value becomes a list exactly for the operator that takes one.** -/
theorem Operand.isList_of_ofValue? {c : Comparison} {v : Value} {o : Operand}
    (h : ofValue? c v = some o) : o.isList = true ↔ c = .oneOf := by
  cases c with
  | oneOf =>
    -- an array of literals becomes a list, and nothing else becomes an operand
    cases v with
    | array elements =>
      obtain ⟨ls, -, rfl⟩ := Option.map_eq_some_iff.1 h
      exact ⟨fun _ => rfl, fun _ => rfl⟩
    | null | boolean _ | number _ | string _ | object _ => cases h
  | equal | notEqual | greater | less | greaterEqual | lessEqual =>
    obtain ⟨l, -, rfl⟩ := Option.map_eq_some_iff.1 h
    simp [isList]

/-- Each item on the right of a relation has one on the left. -/
theorem exists_of_forall₂ {α β : Type} {R : α → β → Prop} {as : List α} {bs : List β}
    (h : List.Forall₂ R as bs) : ∀ b ∈ bs, ∃ a, R a b := by
  induction h with
  | nil => simp
  | cons hab _ ih => exact List.forall_mem_cons.2 ⟨⟨_, hab⟩, ih⟩

/-- **What is made from an element** is one of the predicates of its clauses or a group of them. -/
theorem MadeFrom.exists_predicates {R : Clause → Predicate → Prop} {element : Value}
    {p : Predicate} (h : MadeFrom R element p) :
    ∃ ps, ps ≠ [] ∧ (∀ q ∈ ps, ∃ c, R c q) ∧ (p ∈ ps ∨ p = .group .all ps) := by
  obtain ⟨d, ps, -, hps, hp⟩ := h
  have hall := exists_of_forall₂ hps
  rcases hp with rfl | ⟨hlen, rfl⟩
  · exact ⟨[p], by simp, hall, Or.inl List.mem_cons_self⟩
  · refine ⟨ps, ?_, hall, Or.inr rfl⟩
    rintro rfl
    exact absurd hlen (by simp)

namespace Predicate

/-- **A built predicate is well formed.** -/
theorem wellFormed_of_build {nesting : Nat} {c : Clause} {p : Predicate}
    (h : Clause.build nesting c = .ok p) : p.WellFormed := by
  refine Clause.build_induction (motive := fun _ _ p => p.WellFormed) ?_ ?_ h
  · intro _ _ _ _ _ _ _ ho
    exact .compare (Operand.isList_of_ofValue? ho)
  · intro _ _ _ elements children _ hne hch
    apply WellFormed.group
    · -- as many children as elements, so at least one
      rintro rfl
      exact hne (List.forall₂_nil_right_iff.1 hch)
    · intro p hp
      obtain ⟨element, hmade⟩ := exists_of_forall₂ hch p hp
      -- a child is one of the predicates of its element's clauses, or a group of them
      obtain ⟨ps, hps, hclauses, hp⟩ := hmade.exists_predicates
      have hwell : ∀ q ∈ ps, q.WellFormed := by
        intro q hq
        obtain ⟨c, hq⟩ := hclauses q hq
        exact hq
      rcases hp with hp | rfl
      · exact hwell p hp
      · exact .group hps hwell

/-- **A built predicate is at most twice as deep** as the groups that might nest: each of them may
hold a document that becomes a group of its own. -/
theorem depth_le_of_build {nesting : Nat} {c : Clause} {p : Predicate}
    (h : Clause.build nesting c = .ok p) : p.depth ≤ 2 * nesting := by
  refine Clause.build_induction (motive := fun nesting _ p => p.depth ≤ 2 * nesting) ?_ ?_ h
  · intro nesting _ _ _ _ _ _ _
    exact Nat.zero_le _
  · intro nesting _ _ _ children _ _ hch
    -- one level of a child may be a group that is written nowhere
    have hchildren : depthEach children ≤ 2 * nesting + 1 := by
      rw [depthEach_le_iff]
      intro p hp
      obtain ⟨element, hmade⟩ := exists_of_forall₂ hch p hp
      obtain ⟨ps, -, hclauses, hp⟩ := hmade.exists_predicates
      have hdepth : ∀ q ∈ ps, q.depth ≤ 2 * nesting := by
        intro q hq
        obtain ⟨c, hq⟩ := hclauses q hq
        exact hq
      -- a group of several is one deeper than they are
      rcases hp with hp | rfl
      · exact Nat.le_succ_of_le (hdepth p hp)
      · rw [depth]
        exact Nat.succ_le_succ (depthEach_le_iff.2 hdepth)
    calc (group _ children).depth = depthEach children + 1 := rfl
      _ ≤ 2 * nesting + 1 + 1 := Nat.succ_le_succ hchildren
      _ = 2 * (nesting + 1) := by omega

end Predicate

/-- **A clause yields the predicate that is built from it.** -/
theorem Clause.yields_of_build {nesting : Nat} {c : Clause} {p : Predicate}
    (h : Clause.build nesting c = .ok p) : c.Yields p := by
  refine Clause.build_induction (motive := fun _ c p => c.Yields p) ?_ ?_ h
  · intro _ _ _ _ _ _ hc ho
    exact .compare (Operator.token_of_ofToken? hc).symm (Operand.toValue_of_ofValue? ho)
  · intro _ _ _ _ _ hc _ hch
    exact .group (Operator.token_of_ofToken? hc).symm hch.length_eq.symm

/-- **What is built is well formed.** Whatever the clauses, they give one predicate each, in order;
all of these are well formed, and at most 128 groups stand inside each other in any of them. -/
theorem buildFilter_wellFormed {cs : List Clause} {ps : List Predicate}
    (h : buildFilter cs = .ok ps) :
    List.Forall₂ Clause.Yields cs ps ∧ ∀ p ∈ ps, p.WellFormed ∧ p.depth ≤ 128 := by
  have hbuilt := mapM_eq_ok_iff.1 h
  constructor
  · exact hbuilt.imp fun _ _ => Clause.yields_of_build
  · intro p hp
    obtain ⟨c, hc⟩ := exists_of_forall₂ hbuilt p hp
    exact ⟨Predicate.wellFormed_of_build hc, Predicate.depth_le_of_build hc⟩

/-! ### As deep as can be -/

/-- A member that says that a field is one. -/
def isOneMember (field : String) : String × Value :=
  (field, .number (.integer 1))

/-- **The filter with `n` groups, and two members in every document.** -/
def pairedGroups : Nat → Document
  | 0 => [isOneMember "a", isOneMember "b"]
  | n + 1 => [isOneMember "a", ("$and", .array [.object (pairedGroups n)])]

/-- A comparison of a field with one. -/
def isOnePredicate (field : String) : Predicate :=
  .compare field .equal (.scalar (.number (.integer 1)))

/-- **The predicates of `pairedGroups n`**: in each group there is one more. -/
def pairedPredicates : Nat → List Predicate
  | 0 => [isOnePredicate "a", isOnePredicate "b"]
  | n + 1 => [isOnePredicate "a", .group .all [.group .all (pairedPredicates n)]]

/-- Every document of `pairedGroups n` has two predicates, so inside a group it is one of its own.
-/
theorem length_pairedPredicates (n : Nat) : (pairedPredicates n).length = 2 := by
  cases n <;> rfl

/-- **Each group costs two levels** in `pairedGroups n`. -/
theorem depthEach_pairedPredicates (n : Nat) :
    Predicate.depthEach (pairedPredicates n) = 2 * n := by
  induction n with
  | zero => rfl
  | succ n ih =>
    simp only [pairedPredicates, isOnePredicate, Predicate.depthEach, Predicate.depth, ih]
    omega

/-- **The groups of `pairedGroups n` are built**, if so many may nest. -/
theorem build_pairedGroups (n : Nat) :
    List.Forall₂ (fun c p => Clause.build n c = .ok p) (Clause.ofFilter (pairedGroups n))
      (pairedPredicates n) := by
  have hfield : ∀ (m : Nat) (name : String),
      Clause.build m (.field name "$eq" (.number (.integer 1))) = .ok (isOnePredicate name) := by
    intro m name
    exact Clause.build_field_eq_ok (by decide) rfl
  induction n with
  | zero =>
    have hclauses : Clause.ofFilter (pairedGroups 0) =
        [.field "a" "$eq" (.number (.integer 1)), .field "b" "$eq" (.number (.integer 1))] := rfl
    rw [hclauses]
    exact .cons (hfield 0 "a") (.cons (hfield 0 "b") .nil)
  | succ n ih =>
    have hclauses : Clause.ofFilter (pairedGroups (n + 1)) =
        [.field "a" "$eq" (.number (.integer 1)),
          .group "$and" (.array [.object (pairedGroups n)])] := by
      simp [pairedGroups, isOneMember, Clause.ofFilter, Clause.ofMember, Value.operators?, isToken,
        implicitToken]
    -- two members make the element a group of its own
    have helement : BuiltElement n (.object (pairedGroups n)) (.group .all (pairedPredicates n)) :=
      ⟨pairedGroups n, pairedPredicates n, rfl, ih,
        Or.inr ⟨Nat.le_of_eq (length_pairedPredicates n).symm, rfl⟩⟩
    rw [hclauses]
    refine .cons (hfield (n + 1) "a") (.cons (Clause.build_group_eq_ok_iff.2 ?_) .nil)
    exact ⟨.all, n, _, _, by decide, rfl, rfl, by simp, .cons helement .nil, rfl⟩

/-- As many groups as may nest, with two members in every document: the second predicate is as deep
as a predicate can be. -/
theorem buildFilter_wellFormed_deepest :
    buildFilter (Clause.ofFilter (pairedGroups 64)) = .ok (pairedPredicates 64) ∧
      List.Forall₂ Clause.Yields (Clause.ofFilter (pairedGroups 64)) (pairedPredicates 64) ∧
      (∀ p ∈ pairedPredicates 64, p.WellFormed ∧ p.depth ≤ 128) ∧
      ∃ p ∈ pairedPredicates 64, p.depth = 128 := by
  have hbuilt : buildFilter (Clause.ofFilter (pairedGroups 64)) = .ok (pairedPredicates 64) :=
    mapM_eq_ok_iff.2 (build_pairedGroups 64)
  obtain ⟨hyields, hwell⟩ := buildFilter_wellFormed hbuilt
  -- the group is the deep one of the two predicates
  refine ⟨hbuilt, hyields, hwell, .group .all [.group .all (pairedPredicates 63)], ?_, ?_⟩
  · exact List.mem_cons_of_mem _ List.mem_cons_self
  · rw [Predicate.depth, Predicate.depthEach, Predicate.depth, depthEach_pairedPredicates]
    rfl

end FindToSelect
