import FindToSelect.Proofs.Filter.Validity
import FindToSelect.Proofs.Translation.JsonCall

/-!
# The two limits on nesting

Two stages count how deep a query nests. Reading arguments refuses more than 128 containers inside
each other (`maxNesting`), and building refuses more than 64 groups inside each other
(`maxGroupNesting`). They count different things, and this file says how the two counts are related:

* `Value.levels` — the containers inside each other in a value, which is what reading bounds
  (`Value.levels_le_of_proper`);
* `groupNesting` — the groups inside each other in a filter, which is what building bounds.

A group takes two levels, its array and the documents in the array. So the filter inside `g` groups
has two levels less for each of them, and with 128 levels in all it has none left where the
limit on groups would be passed (`groupsTooDeep_notMem_filterFaults`). A filter that is built has a
document with members inside its innermost group, hence more than twice as many levels as groups
(`two_mul_memberNesting_le`).

Reading therefore refuses every query that building would refuse for its nesting:
`Query.nesting_refused_by_reader`.
-/

namespace FindToSelect

/-! ### Levels of containers -/

namespace Value

mutual

/-- **The levels of a value**: how many containers stand inside each other. -/
def levels : Value → Nat
  | array elements => elementLevels elements + 1
  | object members => memberLevels members + 1
  | _ => 0

/-- The most levels that an element has. -/
def elementLevels : List Value → Nat
  | [] => 0
  | v :: rest => max (levels v) (elementLevels rest)

/-- The most levels that the value of a member has. -/
def memberLevels : List (String × Value) → Nat
  | [] => 0
  | (_, v) :: rest => max (levels v) (memberLevels rest)

end

/-- A bound on the levels of elements bounds those of each. -/
theorem elementLevels_le_iff {n : Nat} {vs : List Value} :
    elementLevels vs ≤ n ↔ ∀ v ∈ vs, v.levels ≤ n := by
  induction vs with
  | nil => simp [elementLevels]
  | cons v vs ih => rw [elementLevels, Nat.max_le, ih, List.forall_mem_cons]

theorem memberLevels_le_iff {n : Nat} {d : Document} :
    memberLevels d ≤ n ↔ ∀ m ∈ d, m.2.levels ≤ n := by
  induction d with
  | nil => simp [memberLevels]
  | cons m d ih => rw [memberLevels, Nat.max_le, ih, List.forall_mem_cons]

/-- **A value that can be read within `n` levels has at most so many.** -/
theorem levels_le_of_proper {n : Nat} {v : Value} (h : v.Proper n) : v.levels ≤ n := by
  induction h with
  | null | boolean _ | integer _ | float _ | string _ => exact Nat.zero_le _
  | array _ ih => exact Nat.succ_le_succ (elementLevels_le_iff.2 ih)
  | object _ _ ih => exact Nat.succ_le_succ (memberLevels_le_iff.2 ih)

end Value

/-! ### Groups inside each other -/

mutual

/-- How many groups stand inside each other in a member, the member included if it is a group. -/
def memberNesting (key : String) : Value → Nat
  | .array elements => if startsWithDollar key then elementsNesting elements + 1 else 0
  | _ => if startsWithDollar key then 1 else 0

/-- How many groups stand inside each other in one of the elements of a group. -/
def elementsNesting : List Value → Nat
  | [] => 0
  | .object members :: rest => max (groupNesting members) (elementsNesting rest)
  | _ :: rest => elementsNesting rest

/-- **How many groups stand inside each other in a filter.** -/
def groupNesting : List (String × Value) → Nat
  | [] => 0
  | (key, v) :: rest => max (memberNesting key v) (groupNesting rest)

end

/-- Twice the groups of a filter are at most its levels if that holds of each member. -/
theorem two_mul_groupNesting_le {d : Document}
    (h : ∀ m ∈ d, 2 * memberNesting m.1 m.2 ≤ m.2.levels) :
    2 * groupNesting d ≤ Value.memberLevels d := by
  induction d with
  | nil => exact Nat.le_refl 0
  | cons m d ih =>
    rw [List.forall_mem_cons] at h
    have hd := ih h.2
    -- both sides are the greater of the first member and the others
    rw [groupNesting, Value.memberLevels]
    omega

/-- Documents that are elements have one level more than twice their groups. -/
theorem two_mul_elementsNesting_lt {elements : List Value} (hne : elements ≠ [])
    (h : ∀ e ∈ elements, ∃ d, e = .object d ∧ 2 * groupNesting d ≤ Value.memberLevels d) :
    2 * elementsNesting elements < Value.elementLevels elements := by
  induction elements with
  | nil => exact absurd rfl hne
  | cons e rest ih =>
    rw [List.forall_mem_cons] at h
    obtain ⟨⟨d, rfl, hd⟩, hrest⟩ := h
    -- the document itself is the level that is more than twice its groups
    rw [elementsNesting, Value.elementLevels, Value.levels]
    -- without other elements there is no induction hypothesis, and none is needed
    by_cases hr : rest = []
    · subst hr
      rw [elementsNesting, Value.elementLevels]
      omega
    · have hlt := ih hr hrest
      omega

/-- No group stands in a field. -/
theorem memberNesting_of_field {key : String} (h : startsWithDollar key = false) (v : Value) :
    memberNesting key v = 0 := by
  unfold memberNesting
  rw [h]
  split <;> rfl

/-- **A valid member has two levels for each of its groups.** The second is that of the documents
in the array, and there is one, since a valid group is not empty. -/
theorem two_mul_memberNesting_le {groups : Nat} {key : String} {v : Value}
    (h : ValidMember groups key v) : 2 * memberNesting key v ≤ v.levels := by
  induction h with
  | @group groups key elements hkey _ hne hdocuments _ ih =>
    -- the documents inside have two levels for each of their groups, by the induction hypothesis
    have helements : 2 * elementsNesting elements < Value.elementLevels elements := by
      refine two_mul_elementsNesting_lt hne fun e he => ?_
      obtain ⟨d, rfl, -⟩ := hdocuments e he
      exact ⟨d, rfl, two_mul_groupNesting_le (ih d he)⟩
    -- and the group has two levels more, its array and its documents
    rw [memberNesting, if_pos (startsWithDollar_of_isGroup hkey), Value.levels]
    omega
  | operators hkey _ _ _ | equal hkey _ =>
    rw [memberNesting_of_field hkey]
    exact Nat.zero_le _

/-- **A filter that is built has more levels than twice its groups.** -/
theorem two_mul_groupNesting_lt_levels {d : Document} (h : d.Valid 0) :
    2 * groupNesting d < (Value.object d).levels := by
  rw [Value.levels]
  exact Nat.lt_succ_of_le (two_mul_groupNesting_le fun m hm => two_mul_memberNesting_le (h m hm))

/-! ### Nesting is no fault of a filter that can be read -/

theorem groupsTooDeep_notMem_conditionFaults (token : String) (v : Value) :
    Failure.malformed .groupsTooDeep ∉ conditionFaults token v := by
  unfold conditionFaults
  split <;> simp

/-- A field does not nest groups, whatever document it has. -/
theorem groupsTooDeep_notMem_fieldFaults (v : Value) :
    Failure.malformed .groupsTooDeep ∉ fieldFaults v := by
  cases v with
  | object members =>
    rw [fieldFaults]
    split
    · rw [List.mem_flatMap]
      rintro ⟨m, -, hm⟩
      exact groupsTooDeep_notMem_conditionFaults m.1 m.2 hm
    · simp
  | null | boolean _ | number _ | string _ | array _ =>
    exact groupsTooDeep_notMem_conditionFaults _ _

/-- A group below the limit has no fault of nesting of its own. -/
theorem groupsTooDeep_notMem_groupFaults {groups : Nat} (h : groups + 1 ≤ 64) (token : String) :
    Failure.malformed .groupsTooDeep ∉ groupFaults groups token := by
  rw [groupFaults, if_pos h, List.append_nil]
  split <;> simp

mutual

/-- The operand of a group has the level of its array besides those of the elements. -/
theorem groupsTooDeep_notMem_operandFaults {groups : Nat} {token : String} : ∀ {v : Value},
    v.levels + 2 * groups ≤ 129 →
      Failure.malformed .groupsTooDeep ∉ operandFaults groups token v
  | .array elements, h => by
    rw [Value.levels] at h
    rw [operandFaults]
    split
    · simp
    · exact groupsTooDeep_notMem_elementsFaults (by omega)
  | .null, _ | .boolean _, _ | .number _, _ | .string _, _ | .object _, _ => by
    simp [operandFaults]

/-- The elements have the level of their documents besides those of the members. -/
theorem groupsTooDeep_notMem_elementsFaults {groups : Nat} {token : String} :
    ∀ {elements : List Value}, Value.elementLevels elements + 2 * groups ≤ 128 →
      Failure.malformed .groupsTooDeep ∉ elementsFaults groups token elements
  | [], _ => by simp [elementsFaults]
  | .object members :: rest, h => by
    rw [Value.elementLevels, Value.levels] at h
    rw [elementsFaults, List.mem_append, not_or]
    -- the document costs one level, and the array has cost the other
    refine ⟨?_, groupsTooDeep_notMem_elementsFaults (by omega)⟩
    split
    · simp
    · exact groupsTooDeep_notMem_filterFaults (by omega)
  | .null :: rest, h | .boolean _ :: rest, h | .number _ :: rest, h | .string _ :: rest, h
  | .array _ :: rest, h => by
    rw [Value.elementLevels] at h
    simp only [elementsFaults, List.mem_cons, not_or]
    exact ⟨by simp, groupsTooDeep_notMem_elementsFaults (by omega)⟩

/-- **The walk through a filter never passes the limit on groups** if the filter has at most 128
levels, its own included and two counted for each group that it stands in: 64 groups would be all of
them. -/
theorem groupsTooDeep_notMem_filterFaults {groups : Nat} : ∀ {d : List (String × Value)},
    Value.memberLevels d + 2 * groups < 128 →
      Failure.malformed .groupsTooDeep ∉ filterFaults groups d
  | [], _ => by simp [filterFaults]
  | (key, v) :: rest, h => by
    rw [Value.memberLevels] at h
    -- the level of the document itself is left, so one more group may nest
    have hroom : groups + 1 ≤ 64 := by omega
    rw [filterFaults, List.mem_append, not_or]
    refine ⟨?_, groupsTooDeep_notMem_filterFaults (by omega)⟩
    -- the operand of a group is walked through inside one group more
    split
    · rw [List.mem_append, not_or]
      exact ⟨groupsTooDeep_notMem_groupFaults hroom key,
        groupsTooDeep_notMem_operandFaults (by omega)⟩
    · exact groupsTooDeep_notMem_fieldFaults v

end

/-! ### Building -/

/-- A filter that is built is valid. -/
theorem valid_of_buildFilter {d : Document} {ps : List Predicate}
    (h : buildFilter (Clause.ofFilter d) = .ok ps) : d.Valid 0 := by
  have hnone := failure?_buildFilter d
  rw [h] at hnone
  exact filterFaults_eq_nil_iff.1 (List.head?_eq_none_iff.1 hnone.symm)

/-- **Building does not fail for its nesting** on a filter that can be read. -/
theorem buildFilter_ne_groupsTooDeep {d : Document}
    (h : Failure.malformed .groupsTooDeep ∉ filterFaults 0 d) :
    buildFilter (Clause.ofFilter d) ≠ .error (.malformed .groupsTooDeep) := by
  intro he
  rw [← failure?_eq_some_iff, failure?_buildFilter] at he
  exact h (List.mem_of_mem_head? he)

/-- The filter with `n` groups, each the only member of the one before. -/
def nestedGroups : Nat → Document
  | 0 => [("a", .number (.integer 1))]
  | n + 1 => [("$and", .array [.object (nestedGroups n)])]

/-- **`nestedGroups n` has `n` groups inside each other.** -/
theorem groupNesting_nestedGroups (n : Nat) : groupNesting (nestedGroups n) = n := by
  induction n with
  | zero => rfl
  | succ n ih =>
    have hkey : startsWithDollar "$and" = true := by decide
    simp [nestedGroups, groupNesting, memberNesting, elementsNesting, hkey, ih]

theorem nestedGroups_ne_nil (n : Nat) : nestedGroups n ≠ [] := by
  cases n <;> simp [nestedGroups]

/-- **The walk goes into the outermost group**, and there is nothing behind it. -/
theorem filterFaults_nestedGroups_succ (groups n : Nat) :
    filterFaults groups (nestedGroups (n + 1)) =
      groupFaults groups "$and" ++ filterFaults (groups + 1) (nestedGroups n) := by
  have hkey : startsWithDollar "$and" = true := by decide
  simp [nestedGroups, filterFaults, operandFaults, elementsFaults, hkey, nestedGroups_ne_nil]

/-- **Too many groups are refused** once the walk has gone down to the limit. -/
theorem head?_filterFaults_nestedGroups {groups n : Nat} (hg : groups ≤ 64)
    (h : 64 < groups + n) :
    (filterFaults groups (nestedGroups n)).head? = some (.malformed .groupsTooDeep) := by
  induction n generalizing groups with
  | zero => omega
  | succ n ih =>
    rw [filterFaults_nestedGroups_succ]
    by_cases hroom : groups + 1 ≤ 64
    · -- this group may nest, so the fault is further inside
      have hnone : groupFaults groups "$and" = [] :=
        groupFaults_eq_nil_iff.2 ⟨Or.inl rfl, hroom⟩
      rw [hnone, List.nil_append]
      exact ih hroom (by omega)
    -- this group is one too many, and it is the first fault of the walk
    · rw [groupFaults, if_pos (Or.inl rfl), if_neg hroom]
      rfl

/-- **As many groups as the limit says are built.** -/
theorem filterFaults_nestedGroups {groups n : Nat} (h : groups + n ≤ 64) :
    filterFaults groups (nestedGroups n) = [] := by
  induction n generalizing groups with
  | zero => rfl
  | succ n ih =>
    have hnone : groupFaults groups "$and" = [] :=
      groupFaults_eq_nil_iff.2 ⟨Or.inl rfl, by omega⟩
    rw [filterFaults_nestedGroups_succ, hnone, List.nil_append]
    exact ih (by omega)

/-- As many groups as the limit allows are built. -/
theorem exists_buildFilter_nestedGroups {n : Nat} (h : n ≤ 64) :
    ∃ ps, buildFilter (Clause.ofFilter (nestedGroups n)) = .ok ps := by
  rw [← failure?_eq_none_iff, failure?_buildFilter, filterFaults_nestedGroups (by omega)]
  rfl

/-- **`nestedGroups n` can be read within `2 * n + 1` levels.** -/
theorem proper_nestedGroups {n m : Nat} (h : 2 * n + 1 ≤ m) :
    (Value.object (nestedGroups n)).Proper m := by
  induction n generalizing m with
  | zero =>
    obtain ⟨m, rfl⟩ := Nat.exists_eq_add_of_le' h
    exact .object (by decide) (List.forall_mem_singleton.2 (.integer (by decide)))
  | succ n ih =>
    obtain ⟨m, rfl⟩ := Nat.exists_eq_add_of_le' (Nat.le_trans (by omega : 2 ≤ 2 * (n + 1) + 1) h)
    -- one level for the document, and one for the array in it
    refine .object (by simp [nestedGroups, Document.keys]) (List.forall_mem_singleton.2 ?_)
    exact .array (List.forall_mem_singleton.2 (ih (by omega)))

/-! ### The wording of the failure -/

/-- A text that starts in its own words is not the text `u`. -/
theorem append_ne_of_start {s u : String} (h : ¬ s.toList <+: u.toList) (t : String) :
    s ++ t ≠ u := by
  rintro rfl
  rw [String.toList_append] at h
  exact h (List.prefix_append _ _)

theorem append_ne_of_end {t u : String} (h : ¬ t.toList <:+ u.toList) (s : String) :
    s ++ t ≠ u := by
  rintro rfl
  rw [String.toList_append] at h
  exact h (List.suffix_append _ _)

/-- **No other malformation is worded as nesting too deep.** -/
theorem Malformation.eq_groupsTooDeep_of_message {m : Malformation}
    (h : m.message = "logical operators nested deeper than 64 levels") : m = .groupsTooDeep := by
  cases m with
  | groupsTooDeep => rfl
  | notInvocation | noMethodCall | noParentheses => exact absurd h (by decide +kernel)
  -- wordings that start with words of their own, and wordings that end with them
  | wrongStart found =>
    change _ ++ found ++ _ = _ at h
    rw [String.append_assoc] at h
    exact absurd h (append_ne_of_start (by decide +kernel) _)
  | notDocument role found =>
    change role.describe ++ _ ++ _ = _ at h
    rw [String.append_assoc] at h
    cases role <;> exact absurd h (append_ne_of_start (by decide +kernel) _)
  | groupNotArray token | groupEmpty token | elementNotDocument token | elementEmpty token =>
    exact absurd h (append_ne_of_end (by decide +kernel) token)

/-- **No other failure is worded as nesting too deep.** -/
theorem Failure.eq_groupsTooDeep_of_message {e : Failure}
    (h : e.message = "Wrong format: logical operators nested deeper than 64 levels") :
    e = .malformed .groupsTooDeep := by
  cases e with
  | malformed m =>
    -- the wording of a malformation stands behind the words that all of them start with
    have hparts : "Wrong format: logical operators nested deeper than 64 levels" =
        "Wrong format: " ++ "logical operators nested deeper than 64 levels" := by decide +kernel
    change "Wrong format: " ++ m.message = _ at h
    rw [hparts, String.append_right_inj] at h
    rw [Malformation.eq_groupsTooDeep_of_message h]
  | notText | emptyQuery | noCollection | unbalanced => exact absurd h (by decide +kernel)
  | unsupportedMethod name =>
    change _ ++ name ++ _ = _ at h
    rw [String.append_assoc] at h
    exact absurd h (append_ne_of_start (by decide +kernel) _)
  | badArguments _ | unsupportedOperator _ =>
    exact absurd h (append_ne_of_start (by decide +kernel) _)

/-! ### Queries -/

/-- A computation that goes on fails as it starts, or as it goes on. -/
theorem bind_eq_error_iff {ε α β : Type} {x : Except ε α} {f : α → Except ε β} {e : ε} :
    x >>= f = .error e ↔ x = .error e ∨ ∃ a, x = .ok a ∧ f a = .error e := by
  cases x with
  | error e' =>
    constructor
    · exact fun h => Or.inl (congrArg Except.error (Except.error.inj h))
    · rintro (h | ⟨a, h, -⟩)
      · exact congrArg Except.error (Except.error.inj h)
      · cases h
  | ok a =>
    constructor
    · exact fun h => Or.inr ⟨a, rfl, h⟩
    · rintro (h | ⟨a', h, hf⟩)
      · cases h
      · rw [Except.ok.inj h]
        exact hf

/-- Taking a query apart fails for other reasons. -/
theorem Invocation.split_ne_groupsTooDeep (query : String) :
    split query ≠ .error (.malformed .groupsTooDeep) := by
  unfold split ofText ofCall
  repeat' split
  all_goals simp

/-- Finding a document among the arguments fails for other reasons. -/
theorem Value.asDocument_ne_groupsTooDeep (role : Role) (v : Option Value) :
    asDocument role v ≠ .error (.malformed .groupsTooDeep) := by
  unfold asDocument
  split <;> simp

/-- A document that is found is empty or was an argument. -/
theorem Value.asDocument_eq_ok {role : Role} {v : Option Value} {d : Document}
    (h : asDocument role v = .ok d) : d = [] ∨ v = some (.object d) := by
  unfold asDocument at h
  split at h
  · exact Or.inl (Except.ok.inj h).symm
  · exact Or.inl (Except.ok.inj h).symm
  · next members => exact Or.inr (by rw [Except.ok.inj h])
  · cases h

theorem mapError_eq_ok_iff {ε ε' α : Type} {f : ε → ε'} {x : Except ε α} {a : α} :
    x.mapError f = .ok a ↔ x = .ok a := by
  cases x <;> simp [Except.mapError]

/-- A failure to read the arguments is of another kind. -/
theorem mapError_badArguments_ne_groupsTooDeep {α : Type} (x : Except ParseError α) :
    x.mapError Failure.badArguments ≠ .error (.malformed .groupsTooDeep) := by
  cases x <;> simp [Except.mapError]

namespace Query

/-- **A query fails for its nesting** only if building fails so, on a document that was read. -/
theorem exists_of_parse_eq_groupsTooDeep {query : String}
    (h : parse query = .error (.malformed .groupsTooDeep)) :
    ∃ text vs d, Arguments.parse text = .ok vs ∧ .object d ∈ vs ∧
      buildFilter (Clause.ofFilter d) = .error (.malformed .groupsTooDeep) := by
  -- it is no failure of taking the query apart, of reading it, or of finding the two documents
  obtain ⟨i, -, h⟩ := (bind_eq_error_iff.1 h).resolve_left (Invocation.split_ne_groupsTooDeep query)
  obtain ⟨vs, hread, h⟩ :=
    (bind_eq_error_iff.1 h).resolve_left (mapError_badArguments_ne_groupsTooDeep _)
  obtain ⟨d, hd, h⟩ :=
    (bind_eq_error_iff.1 h).resolve_left (Value.asDocument_ne_groupsTooDeep _ _)
  obtain ⟨_, -, h⟩ :=
    (bind_eq_error_iff.1 h).resolve_left (Value.asDocument_ne_groupsTooDeep _ _)
  rcases bind_eq_error_iff.1 h with hbuild | ⟨_, -, h⟩
  · rcases Value.asDocument_eq_ok hd with rfl | hfirst
    · cases hbuild
    · exact ⟨_, vs, d, mapError_eq_ok_iff.1 hread, List.mem_of_getElem? hfirst, hbuild⟩
  · cases h

/-- **A query that is accepted** has a filter, and its conditions are built from that. -/
theorem exists_of_parse_eq_ok {query : String} {q : Query} (h : parse query = .ok q) :
    ∃ i vs d, Invocation.split query = .ok i ∧ Arguments.parse i.arguments.toList = .ok vs ∧
      Value.asDocument .filter vs[0]? = .ok d ∧
      buildFilter (Clause.ofFilter d) = .ok q.conditions := by
  obtain ⟨i, hsplit, h⟩ := bind_eq_ok_iff.1 h
  obtain ⟨vs, hread, h⟩ := bind_eq_ok_iff.1 h
  obtain ⟨d, hd, h⟩ := bind_eq_ok_iff.1 h
  obtain ⟨_, -, h⟩ := bind_eq_ok_iff.1 h
  obtain ⟨ps, hbuild, h⟩ := bind_eq_ok_iff.1 h
  rw [← Except.ok.inj h]
  exact ⟨i, vs, d, hsplit, mapError_eq_ok_iff.1 hread, hd, hbuild⟩

/-- **Reading refuses what nests too deep before building could.** No query fails for the nesting of
its groups, and on no document that is read does the walk of building come to that fault, though it
does on others. Building accepts as many groups as its limit says only in a document that has too
many levels to be read, so the filter of an accepted query has fewer. -/
theorem nesting_refused_by_reader :
    (∀ query e, parse query = .error e →
      e.message ≠ "Wrong format: logical operators nested deeper than 64 levels") ∧
    (∀ text vs d, Arguments.parse text = .ok vs → .object d ∈ vs →
      .malformed .groupsTooDeep ∉ filterFaults 0 d ∧
        buildFilter (Clause.ofFilter d) ≠ .error (.malformed .groupsTooDeep)) ∧
    (∃ d, buildFilter (Clause.ofFilter d) = .error (.malformed .groupsTooDeep)) ∧
    (∀ d ps, buildFilter (Clause.ofFilter d) = .ok ps → 64 ≤ groupNesting d →
      128 < (Value.object d).levels) ∧
    (∀ query q, parse query = .ok q →
      ∃ i vs d, Invocation.split query = .ok i ∧ Arguments.parse i.arguments.toList = .ok vs ∧
        Value.asDocument .filter vs[0]? = .ok d ∧
        buildFilter (Clause.ofFilter d) = .ok q.conditions ∧
        groupNesting d < 64) := by
  -- what is read has at most 128 levels, by the limit of the reader
  have hlevels : ∀ {text vs d}, Arguments.parse text = .ok vs → .object d ∈ vs →
      (Value.object d).levels ≤ 128 := by
    intro text vs d hread hd
    exact Value.levels_le_of_proper (Value.proper_of_parse hread _ hd)
  have hnotMem : ∀ {text vs d}, Arguments.parse text = .ok vs → .object d ∈ vs →
      .malformed .groupsTooDeep ∉ filterFaults 0 d := by
    intro text vs d hread hd
    have hle := hlevels hread hd
    rw [Value.levels] at hle
    exact groupsTooDeep_notMem_filterFaults (by omega)
  -- and what is built has more levels than twice its groups
  have hbuilt : ∀ {d ps}, buildFilter (Clause.ofFilter d) = .ok ps →
      2 * groupNesting d < (Value.object d).levels :=
    fun h => two_mul_groupNesting_lt_levels (valid_of_buildFilter h)
  refine ⟨?_, ?_, ?_, ?_, ?_⟩
  · rintro query e he hmessage
    rw [Failure.eq_groupsTooDeep_of_message hmessage] at he
    obtain ⟨text, vs, d, hread, hd, hbuild⟩ := exists_of_parse_eq_groupsTooDeep he
    exact buildFilter_ne_groupsTooDeep (hnotMem hread hd) hbuild
  · intro text vs d hread hd
    exact ⟨hnotMem hread hd, buildFilter_ne_groupsTooDeep (hnotMem hread hd)⟩
  -- one group more than the limit is refused by building, if nothing was read
  · refine ⟨nestedGroups 65, ?_⟩
    rw [← failure?_eq_some_iff, failure?_buildFilter]
    exact head?_filterFaults_nestedGroups (by decide) (by decide)
  · intro d ps hps hgroups
    have hlt := hbuilt hps
    omega
  · intro query q hq
    obtain ⟨i, vs, d, hsplit, hread, hd, hbuild⟩ := exists_of_parse_eq_ok hq
    refine ⟨i, vs, d, hsplit, hread, hd, hbuild, ?_⟩
    -- without a filter there is no group at all
    rcases Value.asDocument_eq_ok hd with rfl | hfirst
    · decide
    · have hlt := hbuilt hbuild
      have hle := hlevels hread (List.mem_of_getElem? hfirst)
      omega

/-- The two limits at their boundary: a query with 63 groups inside each other is accepted, and 64
groups are built from a document that cannot be read. -/
theorem nesting_refused_by_reader_boundary :
    (∃ text vs, Arguments.parse text = .ok vs ∧ .object (nestedGroups 63) ∈ vs ∧
      .malformed .groupsTooDeep ∉ filterFaults 0 (nestedGroups 63)) ∧
    (∃ q d, parse ("db." ++ "user" ++ ".find(" ++ (Value.object (nestedGroups 63)).json ++ ")") =
        .ok q ∧ buildFilter (Clause.ofFilter d) = .ok q.conditions ∧
      groupNesting d < 64) ∧
    (∃ ps, buildFilter (Clause.ofFilter (nestedGroups 64)) = .ok ps ∧
      128 < (Value.object (nestedGroups 64)).levels) ∧
    parse "db.user.aggregate([])" = .error (.unsupportedMethod "aggregate") ∧
    (Failure.unsupportedMethod "aggregate").message ≠
      "Wrong format: logical operators nested deeper than 64 levels" := by
  obtain ⟨hmessage, hread, -, hbuilt, haccepted⟩ := nesting_refused_by_reader
  have hproper : ∀ v ∈ [Value.object (nestedGroups 63)], v.Proper 128 :=
    List.forall_mem_singleton.2 (proper_nestedGroups (by decide))
  have hreads := Arguments.reads_texts .nil hproper
  have hparse := Arguments.parse_of_reads hreads
  refine ⟨⟨_, _, hparse, List.mem_singleton.2 rfl, (hread _ _ _ hparse (by simp)).1⟩, ?_, ?_, ?_⟩
  · obtain ⟨ps, hps⟩ := exists_buildFilter_nestedGroups (n := 63) (by decide)
    -- the text of the call is that of the one argument between its parentheses
    have htext : (Value.object (nestedGroups 63)).json.toList =
        Text.joined [','] ([.object (nestedGroups 63)].map Value.text) := String.toList_ofList
    rw [← htext] at hreads
    have hquery : parse ("db." ++ "user" ++ ".find(" ++ (Value.object (nestedGroups 63)).json ++
        ")") = .ok ⟨"user", [], ps⟩ := by
      rw [parse_call (by decide) (by decide) hreads]
      exact bind_eq_ok_iff.2 ⟨nestedGroups 63, rfl, bind_eq_ok_iff.2 ⟨[], rfl,
        bind_eq_ok_iff.2 ⟨ps, hps, rfl⟩⟩⟩
    obtain ⟨i, vs, d, -, -, -, hbuild, hlt⟩ := haccepted _ _ hquery
    exact ⟨_, d, hquery, hbuild, hlt⟩
  · obtain ⟨ps, hps⟩ := exists_buildFilter_nestedGroups (Nat.le_refl 64)
    exact ⟨ps, hps, hbuilt _ ps hps (groupNesting_nestedGroups _).ge⟩
  · have hfails : parse "db.user.aggregate([])" = .error (.unsupportedMethod "aggregate") := rfl
    exact ⟨hfails, hmessage _ _ hfails⟩

end Query

end FindToSelect
