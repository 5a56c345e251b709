import FindToSelect.Proofs.Filter.Built

/-!
# The meaning of filters and predicates

Building keeps the meaning. When every atomic condition has a truth value, a filter is true or
false, and so are the predicates that are built from it, and the two agree
(`all_holds_eq_filterHolds`).

The two sides are defined apart. `filterHolds` goes by recursion on the document and knows nothing
of clauses: a filter is the conjunction of its members, `$and` and `$or` connect the documents of an
array, a document of operators is the conjunction of its conditions, and any other member is an
equality. `Predicate.holds` goes by recursion on the predicate.

Clauses stand between them, so the proof has two halves:

* `all_holds_ofFilter` — taking a filter apart into clauses keeps its meaning;
* `holds_of_build` — so does building a clause, by induction on what is built
  (`Clause.build_induction`). The element of a group is a filter again, of which the first half and
  the induction hypothesis speak; whether it became one predicate or a group of its own makes no
  difference (`holds_of_madeFrom`).
-/

namespace FindToSelect

/-! ### Predicates -/

/-- **What a connective makes of truth values.** -/
def Connective.holds : Connective → List Bool → Bool
  | all, bs => bs.all id
  | any, bs => bs.any id

namespace Predicate

mutual

/-- **Whether a predicate holds** when comparisons have the truth values `τ`. -/
def holds (τ : String → Comparison → Operand → Bool) : Predicate → Bool
  | compare field c operand => τ field c operand
  | group c children => c.holds (holdsEach τ children)

/-- The truth values of several predicates. -/
def holdsEach (τ : String → Comparison → Operand → Bool) : List Predicate → List Bool
  | [] => []
  | p :: rest => holds τ p :: holdsEach τ rest

end

variable (τ : String → Comparison → Operand → Bool)

theorem holdsEach_eq_map (ps : List Predicate) : holdsEach τ ps = ps.map (holds τ) := by
  induction ps with
  | nil => rfl
  | cons p ps ih => rw [holdsEach, List.map_cons, ih]

theorem holds_group_all (ps : List Predicate) :
    (group .all ps).holds τ = ps.all (holds τ) := by
  rw [holds, holdsEach_eq_map, Connective.holds, List.all_map]
  rfl

end Predicate

/-! ### Operands -/

/-- The value that a literal is. -/
def Literal.toValue : Literal → Value
  | string s => .string s
  | number n => .number n
  | boolean b => .boolean b

/-- **The value that an operand is.** -/
def Operand.toValue : Operand → Value
  | scalar l => l.toValue
  | list ls => .array (ls.map Literal.toValue)

/-- A literal is the value it was made from. -/
theorem Literal.toValue_of_ofValue? {v : Value} {l : Literal} (h : ofValue? v = some l) :
    l.toValue = v := by
  cases v <;> simp only [ofValue?, Option.some.injEq, reduceCtorEq] at h <;> subst h <;> rfl

/-- Literals are the values they were made from, in order. -/
theorem Literal.map_toValue_of_mapM {vs : List Value} {ls : List Literal}
    (h : vs.mapM ofValue? = some ls) : ls.map toValue = vs := by
  induction vs generalizing ls with
  | nil =>
    rw [List.mapM_nil] at h
    cases h
    rfl
  | cons v vs ih =>
    rw [List.mapM_cons] at h
    -- the first value is a literal, and so are the others
    obtain ⟨l, hl, h⟩ := Option.bind_eq_some_iff.1 h
    obtain ⟨ls', hls, h⟩ := Option.bind_eq_some_iff.1 h
    cases h
    rw [List.map_cons, toValue_of_ofValue? hl, ih hls]

/-- **An operand is the value it was made from.** -/
theorem Operand.toValue_of_ofValue? {c : Comparison} {v : Value} {o : Operand}
    (h : ofValue? c v = some o) : o.toValue = v := by
  unfold ofValue? at h
  -- an array under `$in`, any other value under it, and a value under another operator
  split at h
  · obtain ⟨ls, hls, rfl⟩ := Option.map_eq_some_iff.1 h
    rw [toValue, Literal.map_toValue_of_mapM hls]
  · cases h
  · obtain ⟨l, hl, rfl⟩ := Option.map_eq_some_iff.1 h
    exact Literal.toValue_of_ofValue? hl

/-! ### Filters -/

/-- The token of a comparison. -/
def Comparison.token : Comparison → String
  | equal => "$eq"
  | notEqual => "$ne"
  | greater => "$gt"
  | less => "$lt"
  | greaterEqual => "$gte"
  | lessEqual => "$lte"
  | oneOf => "$in"

/-- The token of a connective. -/
def Connective.token : Connective → String
  | all => "$and"
  | any => "$or"

/-- **Whether a key starts with `$`.** -/
def startsWithDollar (key : String) : Bool :=
  ['$'].isPrefixOf key.toList

/-- **Truth values for the atomic conditions**: a field, a comparison and the value on its right. -/
abbrev Truth := String → Comparison → Value → Bool

/-- **Whether the condition with a token holds** for a field. -/
def conditionHolds (τ : Truth) (field token : String) (operand : Value) : Bool :=
  [.equal, .notEqual, .greater, .less, .greaterEqual, .lessEqual, .oneOf].any fun c =>
    token == c.token && τ field c operand

mutual

/-- **Whether a member of a filter holds.** -/
def memberHolds (τ : Truth) (key : String) : Value → Bool
  | .array elements =>
    if key = Connective.all.token then Connective.all.holds (elementsHold τ elements)
    else if key = Connective.any.token then Connective.any.holds (elementsHold τ elements)
    else τ key .equal (.array elements)
  | .object members =>
    if members ≠ [] ∧ members.all (fun m => startsWithDollar m.1) then
      members.all fun m => conditionHolds τ key m.1 m.2
    else τ key .equal (.object members)
  | v => τ key .equal v

/-- The truth values of the documents in an array. -/
def elementsHold (τ : Truth) : List Value → List Bool
  | [] => []
  | .object members :: rest => filterHolds τ members :: elementsHold τ rest
  | _ :: rest => false :: elementsHold τ rest

/-- **Whether a filter holds**: all its members do. -/
def filterHolds (τ : Truth) : List (String × Value) → Bool
  | [] => true
  | (key, v) :: rest => memberHolds τ key v && filterHolds τ rest

end

/-! ### Tokens and the operators they name -/

/-- The keys that are taken for tokens are those that start with `$`. -/
theorem startsWithDollar_eq (key : String) : startsWithDollar key = isToken key := by
  unfold startsWithDollar isToken
  cases key.toList with
  | nil => rfl
  | cons c cs => simp [List.isPrefixOf, eq_comm]

/-- The token of an operator. -/
def Operator.token : Operator → String
  | comparison c => c.token
  | connective c => c.token

/-- **The table gives an operator for its own token only.** -/
theorem Operator.token_of_ofToken? {token : String} {o : Operator}
    (h : ofToken? token = some o) : o.token = token := by
  -- an entry of the table has its operator's token
  have htable : ∀ entry ∈ table, entry.2.token = entry.1 := by decide
  obtain ⟨before, after, ht, -⟩ := List.lookup_eq_some_iff.1 h
  exact htable (token, o) (by rw [ht]; simp)

/-- **The token of a comparison** asks for that comparison and no other. -/
theorem conditionHolds_token (τ : Truth) (field : String) (c : Comparison) (v : Value) :
    conditionHolds τ field c.token v = τ field c v := by
  cases c <;> simp [conditionHolds, Comparison.token]

/-- **The token of a connective** joins what the elements mean. -/
theorem memberHolds_token (τ : Truth) (c : Connective) (elements : List Value) :
    memberHolds τ c.token (.array elements) = c.holds (elementsHold τ elements) := by
  cases c <;> simp [memberHolds, Connective.token]

/-! ### Clauses keep the meaning -/

/-- **Whether a clause holds.** -/
def Clause.holds (τ : Truth) : Clause → Bool
  | field name token operand => conditionHolds τ name token operand
  | group token operand => memberHolds τ token operand

/-- **The clauses of a member mean what the member means.** -/
theorem all_holds_ofMember (τ : Truth) (key : String) (v : Value) :
    (Clause.ofMember key v).all (Clause.holds τ) = memberHolds τ key v := by
  -- the token that is not written is that of `equal`
  have hequal : [Clause.field key implicitToken v].all (Clause.holds τ) = τ key .equal v := by
    rw [List.all_cons, List.all_nil, Bool.and_true]
    exact conditionHolds_token τ key .equal v
  unfold Clause.ofMember
  split
  · -- a group clause means what the member means
    rw [List.all_cons, List.all_nil, Bool.and_true, Clause.holds]
  · next hkey =>
    -- the key is a field, so an array is no operand of a connective
    cases v with
    | object members =>
      rw [memberHolds, Value.operators?]
      simp only [Document.keys, List.all_map, Function.comp_def, startsWithDollar_eq]
      -- the keys of the document are all tokens, or it is a value like any other
      split
      · next hm =>
        split at hm
        · cases hm
          rw [List.all_map, if_pos ‹_›]
          rfl
        · cases hm
      · next hm =>
        split at hm
        · cases hm
        · rw [if_neg ‹_›, hequal]
    | array elements =>
      -- the tokens of connectives are no fields
      have hall : key ≠ Connective.all.token := by
        rintro rfl
        exact hkey (by decide)
      have hany : key ≠ Connective.any.token := by
        rintro rfl
        exact hkey (by decide)
      rw [memberHolds, if_neg hall, if_neg hany]
      exact hequal
    | null | boolean _ | number _ | string _ =>
      rw [memberHolds]
      · exact hequal
      all_goals simp

/-- **Taking a filter apart keeps its meaning.** -/
theorem all_holds_ofFilter (τ : Truth) (d : Document) :
    (Clause.ofFilter d).all (Clause.holds τ) = filterHolds τ d := by
  induction d with
  | nil => rfl
  | cons m d ih =>
    obtain ⟨key, v⟩ := m
    rw [show Clause.ofFilter ((key, v) :: d) = Clause.ofMember key v ++ Clause.ofFilter d from rfl,
      List.all_append, all_holds_ofMember, ih, filterHolds]

/-! ### Building keeps the meaning -/

/-- The truth values of comparisons with operands that are values. -/
def Truth.onOperands (τ : Truth) : String → Comparison → Operand → Bool :=
  fun field c operand => τ field c operand.toValue

/-- The conjunction of built clauses is that of the clauses if each keeps its meaning. -/
theorem all_holds_of_forall₂ {τ : Truth} {cs : List Clause} {ps : List Predicate}
    (h : List.Forall₂ (fun c p => p.holds τ.onOperands = c.holds τ) cs ps) :
    ps.all (Predicate.holds τ.onOperands) = cs.all (Clause.holds τ) := by
  induction h with
  | nil => rfl
  | cons hp _ ih => rw [List.all_cons, List.all_cons, hp, ih]

/-- **An element keeps its meaning** if the clauses of its document do. -/
theorem holds_of_madeFrom {τ : Truth} {element : Value} {p : Predicate}
    (h : MadeFrom (fun c q => q.holds τ.onOperands = c.holds τ) element p) :
    ∃ d, element = .object d ∧ p.holds τ.onOperands = filterHolds τ d := by
  obtain ⟨d, ps, rfl, hps, hp⟩ := h
  refine ⟨d, rfl, ?_⟩
  -- the predicates of the element hold together if its document does
  have hall : ps.all (Predicate.holds τ.onOperands) = filterHolds τ d := by
    rw [← all_holds_ofFilter]
    exact all_holds_of_forall₂ hps
  -- one predicate stands by itself, several are a group under `AND`
  rcases hp with rfl | ⟨-, rfl⟩
  · rw [← hall, List.all_cons, List.all_nil, Bool.and_true]
  · rw [Predicate.holds_group_all, hall]

/-- **A built clause keeps its meaning.** -/
theorem holds_of_build {τ : Truth} {nesting : Nat} {c : Clause} {p : Predicate}
    (h : Clause.build nesting c = .ok p) : p.holds τ.onOperands = c.holds τ := by
  refine Clause.build_induction
    (motive := fun _ c p => p.holds τ.onOperands = c.holds τ) ?_ ?_ h
  · intro _ name token v c o hc ho
    obtain rfl : c.token = token := Operator.token_of_ofToken? hc
    -- the operand is the value that was written, so both sides ask for the same truth value
    rw [Clause.holds, conditionHolds_token, Predicate.holds, Truth.onOperands,
      Operand.toValue_of_ofValue? ho]
  · intro _ token c elements children hc hne hch
    clear hne
    obtain rfl : c.token = token := Operator.token_of_ofToken? hc
    rw [Clause.holds, memberHolds_token, Predicate.holds]
    congr 1
    -- the truth values of the children are those of the documents
    induction hch with
    | nil => rfl
    | cons hp _ ih =>
      obtain ⟨d, rfl, hd⟩ := holds_of_madeFrom hp
      rw [Predicate.holdsEach, elementsHold, hd, ih]

/-- **Building keeps the meaning of a filter**, whatever the truth values of the atomic conditions
are. -/
theorem all_holds_eq_filterHolds {d : Document} {ps : List Predicate}
    (h : buildFilter (Clause.ofFilter d) = .ok ps) (τ : Truth) :
    ps.all (Predicate.holds τ.onOperands) = filterHolds τ d := by
  rw [← all_holds_ofFilter]
  exact all_holds_of_forall₂ ((mapM_eq_ok_iff.1 h).imp fun _ _ => holds_of_build)

/-- The filter `{$or: [{a: {$gt: 1, $lt: 5}, b: "x"}, {c: {$in: [2]}}]}`: the first element becomes
a group of its own, the second does not. -/
theorem all_holds_eq_filterHolds_or_of_several :
    let one : Number := .integer 1
    let two : Number := .integer 2
    let five : Number := .integer 5
    let first : Document :=
      [("a", .object [("$gt", .number one), ("$lt", .number five)]), ("b", .string "x")]
    let second : Document := [("c", .object [("$in", .array [.number two])])]
    let d : Document := [("$or", .array [.object first, .object second])]
    let ps : List Predicate :=
      [.group .any
        [.group .all
          [.compare "a" .greater (.scalar (.number one)),
            .compare "a" .less (.scalar (.number five)),
            .compare "b" .equal (.scalar (.string "x"))],
        .compare "c" .oneOf (.list [.number two])]]
    buildFilter (Clause.ofFilter d) = .ok ps ∧
      ∀ τ : Truth, ps.all (Predicate.holds τ.onOperands) = filterHolds τ d := by
  intro one two five first second d ps
  have hd : Clause.ofFilter d = [.group "$or" (.array [.object first, .object second])] := by
    simp [d, Clause.ofFilter, Clause.ofMember, isToken]
  have hfirst : Clause.ofFilter first = [.field "a" "$gt" (.number one),
      .field "a" "$lt" (.number five), .field "b" "$eq" (.string "x")] := by
    simp [first, Clause.ofFilter, Clause.ofMember, Value.operators?, Document.keys, isToken,
      implicitToken]
  have hsecond : Clause.ofFilter second = [.field "c" "$in" (.array [.number two])] := by
    simp [second, Clause.ofFilter, Clause.ofMember, Value.operators?, Document.keys, isToken]
  -- the two elements are documents of three clauses and of one
  have h : buildFilter (Clause.ofFilter d) = .ok ps := by
    rw [buildFilter, hd, mapM_eq_ok_iff]
    refine .cons (Clause.build_group_eq_ok_iff.2 ?_) .nil
    refine ⟨.any, 63, _, _, by decide, rfl, rfl, by simp, .cons ?_ (.cons ?_ .nil), rfl⟩
    · refine ⟨first, _, rfl, ?_, Or.inr ⟨?_, rfl⟩⟩
      · rw [hfirst]
        exact .cons (Clause.build_field_eq_ok (by decide) rfl)
          (.cons (Clause.build_field_eq_ok (by decide) rfl)
            (.cons (Clause.build_field_eq_ok (by decide) rfl) .nil))
      · simp
    · refine ⟨second, _, rfl, ?_, Or.inl rfl⟩
      rw [hsecond]
      exact .cons (Clause.build_field_eq_ok (by decide) rfl) .nil
  exact ⟨h, all_holds_eq_filterHolds h⟩

end FindToSelect
