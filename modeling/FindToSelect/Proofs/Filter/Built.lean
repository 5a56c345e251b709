import FindToSelect.Filter.Build
import Mathlib.Data.List.Forall2

/-!
# What a built predicate comes from

`Clause.build` fails in many ways and succeeds in two: on a clause with a field, as a comparison,
and on a clause with a group token, as a group. This file says what each success amounts to, so that
a statement about built predicates goes by cases on it and never opens `Clause.build`.

* `mapM_eq_ok_iff` — building several things succeeds exactly when each of them does, in order;
* `buildComparison_eq_ok_iff` and `Clause.build_group_eq_ok_iff` — the two successes;
* `MadeFrom` — what an element of the array of a group becomes, if it is known what its clauses
  become;
* `Clause.build_induction` — what holds of comparisons, and of a group if it holds inside its
  elements, holds of every built predicate.
-/

namespace FindToSelect

/-- A computation that goes on succeeds if it starts with a success and goes on with one. -/
theorem bind_eq_ok_iff {ε α β : Type} {x : Except ε α} {f : α → Except ε β} {b : β} :
    x >>= f = .ok b ↔ ∃ a, x = .ok a ∧ f a = .ok b := by
  cases x with
  | error e =>
    constructor
    · intro h
      cases h
    · rintro ⟨a, h, -⟩
      cases h
  | ok a =>
    constructor
    · exact fun h => ⟨a, rfl, h⟩
    · rintro ⟨a', h, hf⟩
      rw [Except.ok.inj h]
      exact hf

/-- **A traversal succeeds** exactly when it does at every item, and gives their results in order.
-/
theorem mapM_eq_ok_iff {ε α β : Type} {f : α → Except ε β} {xs : List α} {ys : List β} :
    xs.mapM f = .ok ys ↔ List.Forall₂ (fun x y => f x = .ok y) xs ys := by
  induction xs generalizing ys with
  | nil =>
    rw [List.mapM_nil, List.forall₂_nil_left_iff]
    exact ⟨fun h => (Except.ok.inj h).symm, fun h => h ▸ rfl⟩
  | cons x xs ih =>
    rw [List.mapM_cons, List.forall₂_cons_left_iff, bind_eq_ok_iff]
    constructor
    · -- the head succeeds, then the tail, and the result is put together
      rintro ⟨y, hy, h⟩
      obtain ⟨ys', hys, h⟩ := bind_eq_ok_iff.1 h
      exact ⟨y, ys', hy, ih.1 hys, (Except.ok.inj h).symm⟩
    · rintro ⟨y, ys', hy, hys, rfl⟩
      exact ⟨y, hy, bind_eq_ok_iff.2 ⟨ys', ih.2 hys, rfl⟩⟩

/-- **A comparison is built** when the token names one and the value is an operand for it. -/
theorem buildComparison_eq_ok_iff {name token : String} {v : Value} {p : Predicate} :
    buildComparison name token v = .ok p ↔
      ∃ c o, Operator.ofToken? token = some (.comparison c) ∧ Operand.ofValue? c v = some o ∧
        p = .compare name c o := by
  unfold buildComparison
  constructor
  · intro h
    split at h
    · next c hc =>
      split at h
      · next o ho => exact ⟨c, o, hc, ho, (Except.ok.inj h).symm⟩
      · cases h
    · cases h
  · rintro ⟨c, o, hc, ho, rfl⟩
    rw [hc]
    simp only [ho]

/-- How many groups may nest does not matter to a field. -/
theorem Clause.build_field (nesting : Nat) (name token : String) (v : Value) :
    Clause.build nesting (.field name token v) = buildComparison name token v := by
  cases nesting <;> rfl

/-- A field is built as the comparison of its operator with its operand. -/
theorem Clause.build_field_eq_ok {nesting : Nat} {name token : String} {v : Value} {c : Comparison}
    {o : Operand} (hc : Operator.ofToken? token = some (.comparison c))
    (ho : Operand.ofValue? c v = some o) :
    Clause.build nesting (.field name token v) = .ok (.compare name c o) := by
  rw [Clause.build_field]
  exact buildComparison_eq_ok_iff.2 ⟨c, o, hc, ho, rfl⟩

/-- **A predicate made from an element** of a group: the element is a document, its clauses go with
predicates by `R`, and several of these are put under `AND`. -/
def MadeFrom (R : Clause → Predicate → Prop) (element : Value) (p : Predicate) : Prop :=
  ∃ d ps, element = .object d ∧ List.Forall₂ R (Clause.ofFilter d) ps ∧
    (ps = [p] ∨ 2 ≤ ps.length ∧ p = .group .all ps)

/-- What is made by one relation is made by any that follows from it. -/
theorem MadeFrom.imp {R S : Clause → Predicate → Prop} (hRS : ∀ c p, R c p → S c p)
    {element : Value} {p : Predicate} (h : MadeFrom R element p) : MadeFrom S element p := by
  obtain ⟨d, ps, hd, hps, hp⟩ := h
  exact ⟨d, ps, hd, hps.imp fun c q => hRS c q, hp⟩

/-- **An element becomes a predicate**: it is made from the predicates that its clauses are built
as. -/
def BuiltElement (nesting : Nat) : Value → Predicate → Prop :=
  MadeFrom fun c q => Clause.build nesting c = .ok q

/-- One predicate stands by itself, and several are put under `AND`. -/
theorem conjunction_eq_ok_iff {token : String} {ps : List Predicate} {p : Predicate} :
    conjunction token ps = .ok p ↔ ps = [p] ∨ 2 ≤ ps.length ∧ p = .group .all ps := by
  -- the cases of the definition: none, one, several
  match ps with
  | [] => simp [conjunction]
  | [q] => simp [conjunction]
  | q :: q' :: qs => simp [conjunction, eq_comm]

theorem elementDocument_eq_ok_iff {token : String} {v : Value} {d : Document} :
    elementDocument token v = .ok d ↔ v = .object d := by
  cases v <;> simp [elementDocument]

/-- Only arrays that are not empty are operands of groups. -/
theorem groupElements_eq_ok_iff {token : String} {v : Value} {elements : List Value} :
    groupElements token v = .ok elements ↔ v = .array elements ∧ elements ≠ [] := by
  match v with
  | .array [] => simp +contextual [groupElements]
  | .array (e :: es) => simp +contextual [groupElements, eq_comm]
  | .null | .boolean _ | .number _ | .string _ | .object _ => simp [groupElements]

/-- **A group is built** when the token names a connective, a group may still nest, and the operand
is an array with elements that become predicates. -/
theorem Clause.build_group_eq_ok_iff {nesting : Nat} {token : String} {v : Value}
    {p : Predicate} :
    Clause.build nesting (.group token v) = .ok p ↔
      ∃ c n elements children, Operator.ofToken? token = some (.connective c) ∧
        nesting = n + 1 ∧ v = .array elements ∧ elements ≠ [] ∧
        List.Forall₂ (BuiltElement n) elements children ∧ p = .group c children := by
  -- the body of the loop over the elements
  have helement : ∀ {n : Nat} {element : Value} {q : Predicate},
      (do
        let d ← elementDocument token element
        let ps ← (Clause.ofFilter d).mapM (Clause.build n)
        conjunction token ps) = Except.ok q ↔ BuiltElement n element q := by
    intro n element q
    simp only [bind_eq_ok_iff, elementDocument_eq_ok_iff, mapM_eq_ok_iff, conjunction_eq_ok_iff]
    exact ⟨fun ⟨d, he, ps, hps, hq⟩ => ⟨d, ps, he, hps, hq⟩,
      fun ⟨d, ps, he, hps, hq⟩ => ⟨d, he, ps, hps, hq⟩⟩
  rw [Clause.build]
  constructor
  · intro h
    split at h
    · next c hc =>
      cases nesting with
      -- no group may nest any more
      | zero => cases h
      | succ n =>
        obtain ⟨elements, he, hrest⟩ := bind_eq_ok_iff.1 h
        obtain ⟨children, hch, hp⟩ := bind_eq_ok_iff.1 hrest
        obtain ⟨hv, hne⟩ := groupElements_eq_ok_iff.1 he
        refine ⟨c, n, elements, children, hc, rfl, hv, hne, ?_, (Except.ok.inj hp).symm⟩
        exact (mapM_eq_ok_iff.1 hch).imp fun _ _ => helement.1
    · cases h
  · -- and back, bind by bind
    rintro ⟨c, n, elements, children, hc, rfl, rfl, hne, hch, rfl⟩
    rw [hc]
    refine bind_eq_ok_iff.2 ⟨elements, groupElements_eq_ok_iff.2 ⟨rfl, hne⟩, ?_⟩
    exact bind_eq_ok_iff.2 ⟨children, mapM_eq_ok_iff.2 (hch.imp fun _ _ => helement.2), rfl⟩

/-! ### Induction on built predicates -/

/-- **Induction on a built predicate**, along the groups that may still nest: a comparison, or a
group whose elements are made from predicates for which the statement holds. -/
theorem Clause.build_induction {motive : Nat → Clause → Predicate → Prop}
    (compare : ∀ {nesting : Nat} {name token : String} {v : Value} {c : Comparison} {o : Operand},
      Operator.ofToken? token = some (.comparison c) → Operand.ofValue? c v = some o →
        motive nesting (.field name token v) (.compare name c o))
    (group : ∀ {nesting : Nat} {token : String} {c : Connective} {elements : List Value}
      {children : List Predicate}, Operator.ofToken? token = some (.connective c) →
        elements ≠ [] → List.Forall₂ (MadeFrom (motive nesting)) elements children →
          motive (nesting + 1) (.group token (.array elements)) (.group c children))
    {nesting : Nat} {c : Clause} {p : Predicate} (h : Clause.build nesting c = .ok p) :
    motive nesting c p := by
  induction nesting using Nat.strongRecOn generalizing c p with
  | ind nesting ih =>
    cases c with
    | field name token v =>
      rw [Clause.build_field] at h
      obtain ⟨c, o, hc, ho, rfl⟩ := buildComparison_eq_ok_iff.1 h
      exact compare hc ho
    | group token v =>
      obtain ⟨c, n, elements, children, hc, rfl, rfl, hne, hch, rfl⟩ :=
        Clause.build_group_eq_ok_iff.1 h
      apply group hc hne
      apply hch.imp
      -- inside an element one group less may nest, so the hypothesis applies to its clauses
      intro element p hmade
      exact hmade.imp fun c q hq => ih n (Nat.lt_succ_self n) hq

end FindToSelect
