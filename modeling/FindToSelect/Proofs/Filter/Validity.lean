import FindToSelect.Proofs.Filter.Meaning

/-!
# Valid filters, and the first fault of the others

Building fails on a filter for many reasons, at any depth. This file says for which filters it does
not, and which of several faults it reports.

* `Document.Valid groups d` — the filter `d` is valid inside `groups` groups. It is given by rules
  on documents that know nothing of clauses and of building;
* `filterFaults groups d` — **all** faults of the filter `d` inside `groups` groups, in the order of
  a walk that goes down before it goes on: members in order, and of a group the token, then the
  nesting, then the shape of the array, then its elements in order. The walk does not stop at a
  fault, so a fault may have others inside and behind it.

Building succeeds on the valid filters, and on any other filter its failure is the first fault
(`buildFilter_fails_at_first_fault`).

`failure?` forgets what a computation gives and keeps how it fails. In these terms a traversal fails
like the first of its parts that fails (`failure?_mapM`), which is what makes the faults of a list
the faults of its items in order. With it the failure of a clause is its first fault by induction on
how many groups may nest (`failure?_build`).
-/

namespace FindToSelect

/-! ### Valid filters -/

/-- **The values that are literals**: strings, numbers and booleans. -/
def Value.isScalar : Value → Bool
  | .string _ | .number _ | .boolean _ => true
  | _ => false

/-- The tokens of comparisons with one literal. -/
def scalarTokens : List String :=
  ["$eq", "$ne", "$gt", "$lt", "$gte", "$lte"]

/-- **Whether `v` is an operand for the token of a comparison**: an array of literals for `$in`, and
a literal for the six others. -/
def isOperandFor (token : String) (v : Value) : Bool :=
  if token = "$in" then
    match v with
    | .array elements => elements.all Value.isScalar
    | _ => false
  else scalarTokens.contains token && v.isScalar

/-- **A valid member of a filter** that stands inside `groups` groups. -/
inductive ValidMember : Nat → String → Value → Prop
  /-- A group may still nest, and has elements, which are documents with valid members. -/
  | group {groups : Nat} {key : String} {elements : List Value} :
      key = "$and" ∨ key = "$or" → groups + 1 ≤ 64 → elements ≠ [] →
      (∀ e ∈ elements, ∃ d, e = .object d ∧ d ≠ []) →
      (∀ d, .object d ∈ elements → ∀ m ∈ d, ValidMember (groups + 1) m.1 m.2) →
        ValidMember groups key (.array elements)
  /-- A field has operators, each with its operand. -/
  | operators {groups : Nat} {key : String} {members : List (String × Value)} :
      startsWithDollar key = false → members ≠ [] → (∀ m ∈ members, startsWithDollar m.1 = true) →
      (∀ m ∈ members, isOperandFor m.1 m.2 = true) → ValidMember groups key (.object members)
  /-- A field equals a literal. -/
  | equal {groups : Nat} {key : String} {v : Value} :
      startsWithDollar key = false → v.isScalar = true → ValidMember groups key v

/-- **A valid filter** inside `groups` groups. -/
def Document.Valid (groups : Nat) (d : Document) : Prop :=
  ∀ m ∈ d, ValidMember groups m.1 m.2

theorem Document.valid_cons_iff {groups : Nat} {key : String} {v : Value} {d : Document} :
    Document.Valid groups ((key, v) :: d) ↔ ValidMember groups key v ∧ d.Valid groups :=
  List.forall_mem_cons

/-! ### The faults of a filter -/

/-- The fault of a comparison, if it has one. -/
def conditionFaults (token : String) (v : Value) : List Failure :=
  if isOperandFor token v then [] else [.unsupportedOperator token]

/-- The faults of a field that has the value `v`. -/
def fieldFaults : Value → List Failure
  | .object members =>
    if members ≠ [] ∧ members.all (fun m => startsWithDollar m.1) then
      members.flatMap fun m => conditionFaults m.1 m.2
    else [.unsupportedOperator "$eq"]
  | v => conditionFaults "$eq" v

/-- The faults of a group inside `groups` others, apart from its operand: a wrong token, and nesting
too deep. -/
def groupFaults (groups : Nat) (token : String) : List Failure :=
  (if token = "$and" ∨ token = "$or" then [] else [.unsupportedOperator token]) ++
    if groups + 1 ≤ 64 then [] else [.malformed .groupsTooDeep]

mutual

/-- The faults of the operand of a group, whose elements stand inside `groups` groups. -/
def operandFaults (groups : Nat) (token : String) : Value → List Failure
  | .array elements =>
    if elements = [] then [.malformed (.groupEmpty token)]
    else elementsFaults groups token elements
  | _ => [.malformed (.groupNotArray token)]

/-- The faults of the elements of a group. -/
def elementsFaults (groups : Nat) (token : String) : List Value → List Failure
  | [] => []
  | .object members :: rest =>
    (if members = [] then [.malformed (.elementEmpty token)] else filterFaults groups members) ++
      elementsFaults groups token rest
  | _ :: rest => .malformed (.elementNotDocument token) :: elementsFaults groups token rest

/-- **All faults of a filter** inside `groups` groups, in the order of the walk. -/
def filterFaults (groups : Nat) : List (String × Value) → List Failure
  | [] => []
  | (key, v) :: rest =>
    (if startsWithDollar key then groupFaults groups key ++ operandFaults (groups + 1) key v
      else fieldFaults v) ++ filterFaults groups rest

end

/-! ### A filter is valid if it has no fault -/

theorem conditionFaults_eq_nil_iff {token : String} {v : Value} :
    conditionFaults token v = [] ↔ isOperandFor token v = true := by
  unfold conditionFaults
  split <;> simp_all

/-- The operands of an equality are the literals. -/
theorem isOperandFor_eq (v : Value) : isOperandFor "$eq" v = v.isScalar := by
  simp [isOperandFor, scalarTokens]

theorem groupFaults_eq_nil_iff {groups : Nat} {token : String} :
    groupFaults groups token = [] ↔
      (token = "$and" ∨ token = "$or") ∧ groups + 1 ≤ 64 := by
  unfold groupFaults
  rw [List.append_eq_nil_iff]
  split <;> split <;> simp_all

/-- The tokens of groups start with `$`, so no group is a field. -/
theorem startsWithDollar_of_isGroup {key : String} (h : key = "$and" ∨ key = "$or") :
    startsWithDollar key = true := by
  rcases h with rfl | rfl <;> decide

/-- **A field is valid** if it has no fault. -/
theorem fieldFaults_eq_nil_iff {key : String} (hkey : startsWithDollar key = false)
    {groups : Nat} {v : Value} : fieldFaults v = [] ↔ ValidMember groups key v := by
  have hequal : conditionFaults "$eq" v = [] ↔ v.isScalar = true := by
    rw [conditionFaults_eq_nil_iff, isOperandFor_eq]
  -- only a document can be more than an equality, and an array might be taken for that of a group
  cases v with
  | object members =>
    rw [fieldFaults]
    split
    · next hm =>
      rw [List.all_eq_true] at hm
      simp only [List.flatMap_eq_nil_iff, conditionFaults_eq_nil_iff]
      constructor
      · exact fun h => .operators hkey hm.1 hm.2 h
      · rintro (_ | ⟨-, -, -, h⟩ | ⟨-, h⟩)
        · exact h
        · cases h
    · next hm =>
      -- no document of operators, and no literal either
      refine ⟨fun h => absurd h (by simp), ?_⟩
      rintro (_ | ⟨-, hne, htokens, -⟩ | ⟨-, h⟩)
      · exact absurd ⟨hne, List.all_eq_true.2 htokens⟩ hm
      · cases h
  | array elements =>
    refine ⟨fun h => absurd (hequal.1 h) (by simp [Value.isScalar]), ?_⟩
    rintro (⟨hgroup, -, -, -, -⟩ | _ | ⟨-, h⟩)
    · rw [startsWithDollar_of_isGroup hgroup] at hkey
      cases hkey
    · cases h
  | null | boolean _ | number _ | string _ =>
    refine hequal.trans ⟨.equal hkey, ?_⟩
    rintro (_ | _ | ⟨-, h⟩)
    exact h

mutual

/-- **The operand of a group has no fault** if it is an array of documents that have none. -/
theorem operandFaults_eq_nil_iff {groups : Nat} {token : String} : ∀ {v : Value},
    operandFaults groups token v = [] ↔ ∃ elements, v = .array elements ∧ elements ≠ [] ∧
      ∀ e ∈ elements, ∃ d, e = .object d ∧ d ≠ [] ∧ Document.Valid groups d
  | .array elements => by
    rw [operandFaults]
    split
    · simp_all
    · next hne =>
      -- the array has elements, so its faults are theirs
      rw [elementsFaults_eq_nil_iff]
      constructor
      · exact fun h => ⟨elements, rfl, hne, h⟩
      · rintro ⟨elements', he, -, h⟩
        cases he
        exact h
  | .null | .boolean _ | .number _ | .string _ | .object _ => by simp [operandFaults]

/-- **The elements of a group have no fault** if all are documents without one. -/
theorem elementsFaults_eq_nil_iff {groups : Nat} {token : String} : ∀ {elements : List Value},
    elementsFaults groups token elements = [] ↔
      ∀ e ∈ elements, ∃ d, e = .object d ∧ d ≠ [] ∧ Document.Valid groups d
  | [] => by simp [elementsFaults]
  | .object members :: rest => by
    -- the first element has no fault of its own, and the others have none
    rw [elementsFaults, List.append_eq_nil_iff, List.forall_mem_cons, elementsFaults_eq_nil_iff]
    refine and_congr_left fun _ => ?_
    split
    · simp_all
    · next hne =>
      rw [filterFaults_eq_nil_iff]
      constructor
      · exact fun h => ⟨members, rfl, hne, h⟩
      · rintro ⟨d, hd, -, h⟩
        cases hd
        exact h
  | .null :: _ | .boolean _ :: _ | .number _ :: _ | .string _ :: _ | .array _ :: _ => by
    simp [elementsFaults]

/-- **A filter is valid** if it has no fault. -/
theorem filterFaults_eq_nil_iff {groups : Nat} : ∀ {d : List (String × Value)},
    filterFaults groups d = [] ↔ Document.Valid groups d
  | [] => by simp [filterFaults, Document.Valid]
  | (key, v) :: rest => by
    rw [filterFaults, List.append_eq_nil_iff, filterFaults_eq_nil_iff, Document.valid_cons_iff]
    refine and_congr_left fun _ => ?_
    -- the first character of the key says whether the member is a field or a group
    cases hkey : startsWithDollar key with
    | false =>
      rw [if_neg (by simp)]
      exact fieldFaults_eq_nil_iff hkey
    | true =>
      rw [if_pos rfl, List.append_eq_nil_iff, groupFaults_eq_nil_iff, operandFaults_eq_nil_iff]
      constructor
      · rintro ⟨⟨hgroup, hn⟩, elements, rfl, hne, h⟩
        refine .group hgroup hn hne (fun e he => ?_) (fun d hd => ?_)
        · obtain ⟨d, hd, hne, -⟩ := h e he
          exact ⟨d, hd, hne⟩
        · obtain ⟨d', hd', -, hv⟩ := h _ hd
          cases hd'
          exact hv
      · -- a key that is a token is no field
        rintro (⟨hgroup, hn, hne, hdocument, hvalid⟩ | ⟨hfield, -, -, -⟩ | ⟨hfield, -⟩)
        · refine ⟨⟨hgroup, hn⟩, _, rfl, hne, fun e he => ?_⟩
          obtain ⟨d, rfl, hd⟩ := hdocument e he
          exact ⟨d, rfl, hd, hvalid d he⟩
        · rw [hkey] at hfield
          cases hfield
        · rw [hkey] at hfield
          cases hfield

end

/-! ### Failures -/

/-- **How a computation fails**, if it does. -/
def failure? {ε α : Type} : Except ε α → Option ε
  | .error e => some e
  | .ok _ => none

theorem failure?_eq_some_iff {ε α : Type} {x : Except ε α} {e : ε} :
    failure? x = some e ↔ x = .error e := by
  cases x <;> simp [failure?]

theorem failure?_eq_none_iff {ε α : Type} {x : Except ε α} :
    failure? x = none ↔ ∃ a, x = .ok a := by
  cases x <;> simp [failure?]

/-- A computation that goes on fails as it starts, or as it goes on. -/
theorem failure?_bind {ε α β : Type} {x : Except ε α} {f : α → Except ε β} {o : Option ε}
    (h : ∀ a, x = .ok a → failure? (f a) = o) : failure? (x >>= f) = (failure? x).or o := by
  cases x with
  | error e => rfl
  | ok a => exact h a rfl

/-- **A traversal fails at the first fault** of its items. -/
theorem failure?_mapM {ε α β : Type} {f : α → Except ε β} {faults : α → List ε} {xs : List α}
    (h : ∀ x ∈ xs, failure? (f x) = (faults x).head?) :
    failure? (xs.mapM f) = (xs.flatMap faults).head? := by
  induction xs with
  | nil => rfl
  | cons x xs ih =>
    rw [List.forall_mem_cons] at h
    -- the first item fails first, and only without a fault there is the traversal of the others
    -- reached
    rw [List.mapM_cons, List.flatMap_cons, List.head?_append, ← h.1, ← ih h.2]
    refine failure?_bind fun y _ => ?_
    -- putting the results together does not fail
    rw [failure?_bind (o := none) fun ys _ => rfl, Option.or_none]

/-! ### Comparisons and groups -/

theorem Operator.ofToken?_token (o : Operator) : ofToken? o.token = some o := by
  rcases o with c | c <;> cases c <;> rfl

theorem Literal.isSome_ofValue? (v : Value) : (ofValue? v).isSome = v.isScalar := by
  cases v <;> rfl

/-- Values become literals together if each of them does. -/
theorem Literal.isSome_mapM_ofValue? (vs : List Value) :
    (vs.mapM ofValue?).isSome = vs.all Value.isScalar := by
  induction vs with
  | nil => rfl
  | cons v vs ih =>
    rw [List.mapM_cons, List.all_cons, ← ih, ← isSome_ofValue?]
    cases ofValue? v with
    | none => rfl
    | some l => cases vs.mapM ofValue? <;> rfl

/-- **A value becomes an operand** exactly if it is one for the token of the comparison. -/
theorem isOperandFor_token (c : Comparison) (v : Value) :
    isOperandFor c.token v = (Operand.ofValue? c v).isSome := by
  cases c with
  | oneOf =>
    cases v with
    | array elements => exact (Option.isSome_map.trans (Literal.isSome_mapM_ofValue? elements)).symm
    | null | boolean _ | number _ | string _ | object _ => rfl
  | equal | notEqual | greater | less | greaterEqual | lessEqual =>
    simp [isOperandFor, Comparison.token, scalarTokens, Operand.ofValue?, Literal.isSome_ofValue?]

/-- **Only the token of a comparison has operands.** -/
theorem exists_token_of_isOperandFor {token : String} {v : Value}
    (h : isOperandFor token v = true) : ∃ c : Comparison, c.token = token := by
  unfold isOperandFor at h
  split at h
  · next hin => exact ⟨.oneOf, hin.symm⟩
  · rw [Bool.and_eq_true, List.contains_iff_mem] at h
    -- the six tokens of comparisons with one literal, each of which names one
    have hall : ∀ t ∈ scalarTokens, ∃ c : Comparison, c.token = t := by
      intro t ht
      simp only [scalarTokens, List.mem_cons, List.not_mem_nil, or_false] at ht
      rcases ht with rfl | rfl | rfl | rfl | rfl | rfl
      exacts [⟨.equal, rfl⟩, ⟨.notEqual, rfl⟩, ⟨.greater, rfl⟩, ⟨.less, rfl⟩,
        ⟨.greaterEqual, rfl⟩, ⟨.lessEqual, rfl⟩]
    exact hall token h.1

/-- **A comparison fails at its fault**, if it has one. -/
theorem failure?_buildComparison (name token : String) (v : Value) :
    failure? (buildComparison name token v) = (conditionFaults token v).head? := by
  unfold buildComparison
  split
  · next c hc =>
    obtain rfl : c.token = token := Operator.token_of_ofToken? hc
    -- the token names a comparison, and it is left to ask for an operand
    rw [conditionFaults, isOperandFor_token]
    cases Operand.ofValue? c v <;> rfl
  · next hnone =>
    -- the token names no comparison, so no value is an operand for it
    have hfault : isOperandFor token v = false := by
      refine Bool.eq_false_iff.2 fun h => ?_
      obtain ⟨c, rfl⟩ := exists_token_of_isOperandFor h
      exact hnone c (Operator.ofToken?_token (.comparison c))
    rw [conditionFaults, hfault]
    rfl

/-- The tokens of groups are those that name a connective. -/
theorem isGroup_iff_ofToken? {token : String} :
    token = "$and" ∨ token = "$or" ↔ ∃ c, Operator.ofToken? token = some (.connective c) := by
  constructor
  · rintro (rfl | rfl)
    · exact ⟨.all, rfl⟩
    · exact ⟨.any, rfl⟩
  · rintro ⟨c, hc⟩
    have htoken : c.token = token := Operator.token_of_ofToken? hc
    cases c with
    | all => exact Or.inl htoken.symm
    | any => exact Or.inr htoken.symm

/-! ### Building fails at the first fault -/

/-- The faults of a clause inside `groups` groups. -/
def Clause.faults (groups : Nat) : Clause → List Failure
  | field _ token operand => conditionFaults token operand
  | group token operand => groupFaults groups token ++ operandFaults (groups + 1) token operand

/-- **The faults of a filter are those of its clauses**, in order. -/
theorem flatMap_faults_ofFilter (groups : Nat) (d : Document) :
    (Clause.ofFilter d).flatMap (Clause.faults groups) = filterFaults groups d := by
  have hmember : ∀ (key : String) (v : Value),
      (Clause.ofMember key v).flatMap (Clause.faults groups) =
        if startsWithDollar key then groupFaults groups key ++ operandFaults (groups + 1) key v
        else fieldFaults v := by
    intro key v
    rw [startsWithDollar_eq]
    unfold Clause.ofMember
    split
    · rw [List.flatMap_singleton, Clause.faults]
    · cases v with
      | object members =>
        rw [fieldFaults, Value.operators?]
        simp only [Document.keys, List.all_map, Function.comp_def, startsWithDollar_eq]
        by_cases hm : members ≠ [] ∧ members.all (fun m => isToken m.1)
        · rw [if_pos hm, if_pos hm]
          exact List.flatMap_map ..
        · rw [if_neg hm, if_neg hm]
          exact List.append_nil _
      | null | boolean _ | number _ | string _ | array _ => exact List.append_nil _
  induction d with
  | nil => rfl
  | cons m d ih =>
    rw [filterFaults, ← hmember, ← ih]
    exact List.flatMap_append

/-- The faults of one element of a group. -/
def elementFaults (groups : Nat) (token : String) : Value → List Failure
  | .object members =>
    if members = [] then [.malformed (.elementEmpty token)] else filterFaults groups members
  | _ => [.malformed (.elementNotDocument token)]

/-- The faults of elements are those of each, in order. -/
theorem elementsFaults_eq_flatMap (groups : Nat) (token : String) (elements : List Value) :
    elementsFaults groups token elements = elements.flatMap (elementFaults groups token) := by
  induction elements with
  | nil => rfl
  | cons e elements ih =>
    rw [List.flatMap_cons, ← ih]
    cases e <;> rfl

/-- Predicates that are not none are joined without a failure. -/
theorem conjunction_ne_error {token : String} {ps : List Predicate} (h : ps ≠ []) :
    failure? (conjunction token ps) = none := by
  match ps, h with
  | [_], _ => rfl
  | _ :: _ :: _, _ => rfl

/-- **A document with members has clauses.** -/
theorem Clause.ofFilter_ne_nil {d : Document} (h : d ≠ []) : Clause.ofFilter d ≠ [] := by
  obtain ⟨m, hm⟩ := List.exists_mem_of_ne_nil d h
  have hmember : Clause.ofMember m.1 m.2 ≠ [] := by
    unfold ofMember Value.operators?
    split
    · simp
    · -- a document of operators is not empty
      split
      · next operators ho =>
        split at ho
        · split at ho
          · next hne =>
            cases ho
            simpa using hne.1
          · cases ho
        · cases ho
      · simp
  intro hnil
  exact hmember (List.flatMap_eq_nil_iff.1 hnil m hm)

/-- **An element of a group fails at its first fault** if the clauses of its document do. -/
theorem failure?_element {n groups : Nat}
    (ih : ∀ c, failure? (Clause.build n c) = (Clause.faults groups c).head?) (token : String)
    (element : Value) :
    failure? (do
      let d ← elementDocument token element
      let ps ← (Clause.ofFilter d).mapM (Clause.build n)
      conjunction token ps) = (elementFaults groups token element).head? := by
  cases element with
  | object d =>
    have hmapM : failure? ((Clause.ofFilter d).mapM (Clause.build n)) =
        (filterFaults groups d).head? := by
      rw [← flatMap_faults_ofFilter]
      exact failure?_mapM fun c _ => ih c
    -- the element is a document, so building starts with its clauses
    change failure? ((Clause.ofFilter d).mapM (Clause.build n) >>= conjunction token) = _
    rw [elementFaults]
    split
    · next hd =>
      subst hd
      rfl
    · next hd =>
      -- the predicates of a document with members are not none, and so make one predicate
      rw [failure?_bind (o := none), Option.or_none, hmapM]
      intro ps hps
      refine conjunction_ne_error fun hnil => Clause.ofFilter_ne_nil hd ?_
      rw [mapM_eq_ok_iff, hnil, List.forall₂_nil_right_iff] at hps
      exact hps
  | null | boolean _ | number _ | string _ | array _ => rfl

/-- A group that may nest is built from its elements. -/
theorem Clause.build_group_succ {token : String} {c : Connective}
    (hc : Operator.ofToken? token = some (.connective c)) (n : Nat) (v : Value) :
    Clause.build (n + 1) (.group token v) = (do
      let elements ← groupElements token v
      let children ← elements.mapM fun element => do
        let d ← elementDocument token element
        let ps ← (Clause.ofFilter d).mapM (Clause.build n)
        conjunction token ps
      return .group c children) := by
  rw [Clause.build, hc]

/-- **The operand of a group fails at its first fault** if clauses inside it do. -/
theorem failure?_operand {n groups : Nat}
    (ih : ∀ c, failure? (Clause.build n c) = (Clause.faults groups c).head?) {token : String}
    {c : Connective} (hc : Operator.ofToken? token = some (.connective c)) (v : Value) :
    failure? (Clause.build (n + 1) (.group token v)) = (operandFaults groups token v).head? := by
  rw [Clause.build_group_succ hc]
  cases v with
  | array elements =>
    rw [operandFaults]
    split
    · next he =>
      subst he
      rfl
    · next he =>
      -- the array has elements, so building goes on to them
      have hok : groupElements token (.array elements) = .ok elements :=
        groupElements_eq_ok_iff.2 ⟨rfl, he⟩
      rw [hok, elementsFaults_eq_flatMap, ← failure?_mapM fun e _ => failure?_element ih token e]
      -- putting the children together does not fail
      change failure? (List.mapM _ elements >>= _) = _
      rw [failure?_bind (o := none) fun children _ => rfl, Option.or_none]
  | null | boolean _ | number _ | string _ | object _ => rfl

/-- A group fails at its token if that names no connective. -/
theorem failure?_build_of_not_isGroup {token : String} (h : ¬ (token = "$and" ∨ token = "$or"))
    (n groups : Nat) (v : Value) :
    failure? (Clause.build n (.group token v)) =
      (Clause.faults groups (.group token v)).head? := by
  rw [Clause.build, Clause.faults, groupFaults, if_neg h]
  split
  · next c hc => exact absurd (isGroup_iff_ofToken?.2 ⟨c, hc⟩) h
  · rfl

/-- **A clause fails at its first fault.** Where `n` more groups may nest, it stands inside all the
others. -/
theorem failure?_build {n : Nat} (hn : n ≤ 64) (c : Clause) :
    failure? (Clause.build n c) = (c.faults (64 - n)).head? := by
  -- by how many groups may still nest; the clauses inside a group have one less
  induction n generalizing c with
  | zero =>
    cases c with
    | field name token v => exact failure?_buildComparison name token v
    | group token v =>
      by_cases hgroup : token = "$and" ∨ token = "$or"
      · -- no group may nest, and the token has no fault before that
        obtain ⟨c, hc⟩ := isGroup_iff_ofToken?.1 hgroup
        rw [Clause.build, hc, Clause.faults, groupFaults, if_pos hgroup]
        rfl
      · exact failure?_build_of_not_isGroup hgroup _ _ v
  | succ n ih =>
    cases c with
    | field name token v => exact failure?_buildComparison name token v
    | group token v =>
      by_cases hgroup : token = "$and" ∨ token = "$or"
      · -- token and nesting have no fault, so the first one is in the operand
        obtain ⟨c, hc⟩ := isGroup_iff_ofToken?.1 hgroup
        have hroom : 64 - (n + 1) + 1 = 64 - n := by omega
        have hnone : groupFaults (64 - (n + 1)) token = [] :=
          groupFaults_eq_nil_iff.2 ⟨hgroup, by omega⟩
        rw [Clause.faults, hnone, List.nil_append, hroom]
        exact failure?_operand (ih (Nat.le_of_succ_le hn)) hc v
      · exact failure?_build_of_not_isGroup hgroup _ _ v

/-- **Building a filter fails at its first fault.** -/
theorem failure?_buildFilter (d : Document) :
    failure? (buildFilter (Clause.ofFilter d)) = (filterFaults 0 d).head? := by
  rw [buildFilter, ← flatMap_faults_ofFilter]
  -- no group is open yet, so all that the limit allows may still nest
  exact failure?_mapM fun c _ => failure?_build (Nat.le_refl maxGroupNesting) c

/-- **Building accepts exactly the valid filters**, and of any other filter it reports the first
fault. -/
theorem buildFilter_fails_at_first_fault (d : Document) :
    ((∃ ps, buildFilter (Clause.ofFilter d) = .ok ps) ↔ d.Valid 0) ∧
      ∀ e, buildFilter (Clause.ofFilter d) = .error e ↔ (filterFaults 0 d).head? = some e := by
  constructor
  · rw [← failure?_eq_none_iff, failure?_buildFilter, List.head?_eq_none_iff,
      filterFaults_eq_nil_iff]
  · intro e
    rw [← failure?_eq_some_iff, failure?_buildFilter]

/-- A filter with faults at three places: the walk goes into the group before it goes on, and there
past a document without fault. -/
example : filterFaults 0
    [("$or", .array [.object [("a", .string "x")], .object [("b", .null)], .null]),
      ("c", .object [("$gt", .array [])]), ("$nor", .null)] =
    [.unsupportedOperator "$eq", .malformed (.elementNotDocument "$or"),
      .unsupportedOperator "$gt", .unsupportedOperator "$nor",
      .malformed (.groupNotArray "$nor")] := by
  rfl

end FindToSelect
