import FindToSelect.Proofs.Arguments.Acceptance

/-!
# Where an error stands

A list of tokens that is refused is refused as early as it can be. The tokens before the one that an
error names can be completed to an accepted list, and with that token no list can; an error without
a place says that the tokens themselves can be completed
(`Arguments.read_fails_at_earliest_token`).

Both halves are read off the machine, which looks at each token once:

* `Leads` — some tokens lead from one state to another, whatever follows them. A run that fails has
  come so to a state in which the tokens end or the next token is refused (`run_error_cases`), and
  the refusal looks at nothing behind that token;
* `exists_completion` — from every state a value can be completed. Nothing has to be opened for it,
  so the limit on nesting does not stand in the way: a value that is wanted is completed by `null`,
  and the containers are closed from the inside outwards.
-/

namespace FindToSelect.Arguments

/-- **A list of tokens that is accepted.** -/
def Accepted (ts : List Token) : Prop :=
  ∃ vs, (read ts).result = .ok vs

/-- **A list of tokens that further tokens complete** to an accepted one. -/
def Completable (ts : List Token) : Prop :=
  ∃ us, Accepted (ts ++ us)

/-! ### Where a run fails -/

/-- **The tokens `ts` lead from one state and stack to another**, whatever follows them. -/
def Leads (state : State) (stack : List Frame) (ts : List Token) (state' : State)
    (stack' : List Frame) : Prop :=
  ∀ us, run state stack (ts ++ us) = run state' stack' us

/-- A step that goes on is put in front of what the tokens behind it lead to. -/
theorem Leads.cons {state state' state'' : State} {stack stack' stack'' : List Frame} {t : Token}
    {ts : List Token} (h : step state stack t = .next state' stack')
    (hts : Leads state' stack' ts state'' stack'') :
    Leads state stack (t :: ts) state'' stack'' := by
  intro us
  rw [List.cons_append, run_of_next h]
  exact hts us

/-- **What a step refuses with**, taking the token or leaving it. -/
def Step.error? : Step → Option ParseError
  | .next _ _ | .done _ => none
  | .refuse e | .leave e => some e

/-- **A run fails at the end of the tokens or at one of them.** -/
theorem run_error_cases {state : State} {stack : List Frame} {ts : List Token} {e : ParseError}
    (h : (run state stack ts).result = .error e) :
    (∃ state' stack', Leads state stack ts state' stack' ∧ e = state'.atEnd) ∨
      ∃ before t behind state' stack', ts = before ++ t :: behind ∧
        Leads state stack before state' stack' ∧ (step state' stack' t).error? = some e := by
  induction ts generalizing state stack with
  | nil =>
    rw [run] at h
    exact Or.inl ⟨state, stack, fun _ => rfl, (Except.error.inj h).symm⟩
  | cons t ts ih =>
    -- a step that refuses the token does so in the state in which it finds the machine
    have hhere : ∀ e', (step state stack t).error? = some e' → e' = e →
        ∃ before t' behind state' stack', t :: ts = before ++ t' :: behind ∧
          Leads state stack before state' stack' ∧ (step state' stack' t').error? = some e := by
      rintro e' hs rfl
      exact ⟨[], t, ts, state, stack, rfl, fun _ => rfl, hs⟩
    rw [run] at h
    split at h
    · next state' stack' hs =>
      -- the token leads on, and the run behind it fails at its end or at a later token
      rcases ih h with ⟨state'', stack'', hl, he⟩ |
        ⟨before, u, behind, state'', stack'', rfl, hl, he⟩
      · exact Or.inl ⟨state'', stack'', hl.cons hs, he⟩
      · exact Or.inr ⟨t :: before, u, behind, state'', stack'', rfl, hl.cons hs, he⟩
    -- a run that is done has a value, not an error
    · exact absurd h (by simp)
    · next e' hs => exact Or.inr (hhere e' (by rw [hs]; rfl) (Except.error.inj h))
    · next e' hs => exact Or.inr (hhere e' (by rw [hs]; rfl) (Except.error.inj h))

/-- A token that is refused is refused whatever follows it. -/
theorem run_of_error {state : State} {stack : List Frame} {t : Token} {e : ParseError}
    (h : (step state stack t).error? = some e) (us : List Token) :
    (run state stack (t :: us)).result = .error e := by
  rw [run]
  cases hs : step state stack t with
  | next _ _ => rw [hs] at h; cases h
  | done _ => rw [hs] at h; cases h
  | refuse e' => rw [hs] at h; exact congrArg _ (Option.some.inj h)
  | leave e' => rw [hs] at h; exact congrArg _ (Option.some.inj h)

/-! ### The places of errors -/

/-- Delivering a value refuses nothing: it goes on in the container around it, or the run is done.
-/
theorem error?_deliver (v : Value) (stack : List Frame) : (Step.deliver v stack).error? = none := by
  cases stack with
  | nil => rfl
  | cons frame stack => cases frame <;> rfl

/-- **A token that begins no value is named by the error**, also one that opens a container too
deep. -/
theorem span?_of_begin {t : Token} {stack : List Frame} {e : ParseError}
    (h : (Step.begin t stack).error? = some e) : e.span? = some t.span := by
  -- a container that opens is refused only where it is too deep
  have henter : ∀ state, (Step.enter state t.span stack).error? = some e →
      e.span? = some t.span := by
    intro state he
    unfold Step.enter at he
    split at he
    · cases he
    · exact Option.some.inj he ▸ rfl
  -- a scalar is delivered, and delivering refuses nothing
  have hdeliver : ∀ {k : TokenKind} {v : Value}, t.kind = k → IsScalar k v →
      e.span? = some t.span := by
    rintro k v rfl hs
    rw [begin_of_isScalar hs, error?_deliver] at h
    cases h
  cases hk : t.kind with
  | openBrace | openBracket =>
    simp only [Step.begin, hk] at h
    exact henter _ h
  | string s => exact hdeliver hk (.string s)
  | integer n => exact hdeliver hk (.integer n)
  | float x =>
    cases x with
    | finite x => exact hdeliver hk (.float x)
    | infinite negative =>
      simp only [Step.begin, hk] at h
      exact Option.some.inj h ▸ rfl
    | nan =>
      simp only [Step.begin, hk] at h
      exact Option.some.inj h ▸ rfl
  | true => exact hdeliver hk .true
  | false => exact hdeliver hk .false
  | null => exact hdeliver hk .null
  | identifier _ | closeBrace | closeBracket | colon | comma | illegal =>
    simp only [Step.begin, hk] at h
    exact Option.some.inj h ▸ rfl

/-- **The error of a step names its token.** -/
theorem span?_of_step {state : State} {stack : List Frame} {t : Token} {e : ParseError}
    (h : (step state stack t).error? = some e) : e.span? = some t.span := by
  -- a token that stands where a mark is wanted, or that is no key, is named by the error itself
  have hnamed : ∀ {e' : ParseError}, e'.span? = some t.span → some e' = some e →
      e.span? = some t.span := by
    rintro e' hspan he
    rwa [← Option.some.inj he]
  have hdeliver : ∀ {v : Value}, (Step.deliver v stack).error? = some e →
      e.span? = some t.span := by
    intro v he
    rw [error?_deliver] at he
    cases he
  cases state with
  | value => exact span?_of_begin h
  | element elements =>
    simp only [step] at h
    split at h
    · exact hdeliver h
    · exact span?_of_begin h
  | afterElement elements =>
    simp only [step] at h
    split at h
    · cases h
    · exact hdeliver h
    · exact hnamed rfl h
  | key members =>
    simp only [step] at h
    split at h
    · exact hdeliver h
    · split at h
      · cases h
      · exact hnamed rfl h
  | colon members name =>
    simp only [step] at h
    split at h
    · cases h
    · exact hnamed rfl h
  | afterMember members =>
    simp only [step] at h
    split at h
    · cases h
    · exact hdeliver h
    · exact hnamed rfl h

/-- An error at the end of the tokens has no token to name. -/
theorem span?_atEnd (state : State) : state.atEnd.span? = none := by
  cases state <;> rfl

/-! ### Completing a value -/

/-- A token for completions, which stands nowhere. -/
def unplaced (kind : TokenKind) : Token :=
  ⟨kind, ⟨0, 0⟩⟩

/-- **Open containers can be closed** behind a complete value. -/
theorem exists_closing (v : Value) (stack : List Frame) :
    ∃ us w, ∀ rest, resume v stack (us ++ rest) = ⟨.ok w, rest⟩ := by
  induction stack generalizing v with
  | nil => exact ⟨[], v, fun rest => rfl⟩
  | cons frame stack ih =>
    cases frame with
    | array elements =>
      -- the bracket adds the value to the array, and the outer containers close around that
      obtain ⟨us, w, hw⟩ := ih (.array (elements ++ [v]))
      refine ⟨unplaced .closeBracket :: us, w, fun rest => ?_⟩
      rw [resume, List.cons_append, ← hw rest]
      exact run_of_deliver rfl _
    | object members key =>
      obtain ⟨us, w, hw⟩ := ih (.object (members.put key v))
      refine ⟨unplaced .closeBrace :: us, w, fun rest => ?_⟩
      rw [resume, List.cons_append, ← hw rest]
      exact run_of_deliver rfl _

/-- **From every state a value can be completed.** -/
theorem exists_completion (state : State) (stack : List Frame) :
    ∃ us v, ∀ rest, run state stack (us ++ rest) = ⟨.ok v, rest⟩ := by
  -- one token that delivers a value, and then the containers around it
  have hdeliver : ∀ {state : State} {stack stack' : List Frame} {t : Token} {v : Value},
      step state stack t = .deliver v stack' →
        ∃ us w, ∀ rest, run state stack (us ++ rest) = ⟨.ok w, rest⟩ := by
    intro state stack stack' t v hs
    obtain ⟨us, w, hw⟩ := exists_closing v stack'
    refine ⟨t :: us, w, fun rest => ?_⟩
    rw [List.cons_append, run_of_deliver hs, hw]
  have hvalue : ∀ stack, ∃ us w, ∀ rest, run .value stack (us ++ rest) = ⟨.ok w, rest⟩ :=
    fun stack => hdeliver (t := unplaced .null) (v := .null) rfl
  cases state with
  | value => exact hvalue stack
  | element elements => exact hdeliver (t := unplaced .closeBracket) rfl
  | afterElement elements => exact hdeliver (t := unplaced .closeBracket) rfl
  | key members => exact hdeliver (t := unplaced .closeBrace) rfl
  -- the name still wants its colon and a value, which only then goes into the object
  | colon members name =>
    obtain ⟨us, w, hw⟩ := hvalue (.object members name :: stack)
    refine ⟨unplaced .colon :: us, w, fun rest => ?_⟩
    rw [List.cons_append, run_of_next (t := unplaced .colon) rfl, hw]
  | afterMember members => exact hdeliver (t := unplaced .closeBrace) rfl

/-! ### Argument lists -/

/-- A value is a list of arguments by itself. -/
theorem accepted_of_isValue {ts : List Token} {v : Value} (h : IsValue maxNesting ts v) :
    Accepted ts :=
  ⟨[v], read_of_isArguments (.last h)⟩

theorem accepted_of_readValue {ts : List Token} {v : Value} (h : readValue ts = ⟨.ok v, []⟩) :
    Accepted ts := by
  obtain ⟨us, rfl, hv⟩ := isValue_of_readValue h
  rw [List.append_nil]
  exact accepted_of_isValue hv

/-- The first argument is read before anything else, so its error is that of the whole list. -/
theorem not_accepted_of_readValue {t : Token} {ts : List Token} {e : ParseError}
    (h : (readValue (t :: ts)).result = .error e) : ¬ Accepted (t :: ts) := by
  rintro ⟨vs, hvs⟩
  rw [read_cons] at hvs
  -- an error of the first argument is passed on whatever it leaves
  cases hr : readValue (t :: ts) with
  | mk result rest =>
    rw [hr] at h hvs
    subst h
    cases hvs

/-- **An argument and its comma leave open what follows** exactly as if nothing stood before it. -/
theorem read_append_comma {us : List Token} {v : Value} (hv : IsValue maxNesting us v)
    {comma : Token} (hc : comma.kind = .comma) (rest : List Token) :
    (read (us ++ comma :: rest)).result = (read rest).result.map (v :: ·) := by
  obtain ⟨t, ts, rfl, -⟩ := hv.exists_cons
  have hr := readValue_of_isValue hv (comma :: rest)
  rw [List.cons_append] at hr ⊢
  rw [read_cons, hr]
  simp only [hc, if_true]

/-- An argument and its comma in front change nothing about being accepted. -/
theorem accepted_append_comma_iff {us : List Token} {v : Value} (hv : IsValue maxNesting us v)
    {comma : Token} (hc : comma.kind = .comma) (rest : List Token) :
    Accepted (us ++ comma :: rest) ↔ Accepted rest := by
  unfold Accepted
  rw [read_append_comma hv hc]
  cases (read rest).result with
  | error e => simp [Except.map]
  | ok vs => simp [Except.map]

theorem completable_append_comma_iff {us : List Token} {v : Value}
    (hv : IsValue maxNesting us v) {comma : Token} (hc : comma.kind = .comma)
    (rest : List Token) : Completable (us ++ comma :: rest) ↔ Completable rest := by
  unfold Completable
  simp only [List.append_assoc, List.cons_append, accepted_append_comma_iff hv hc]

/-- A token that should have been the comma behind an argument is hopeless. -/
theorem not_completable_of_ne_comma {us : List Token} {v : Value} (hv : IsValue maxNesting us v)
    {c : Token} (hc : c.kind ≠ .comma) : ¬ Completable (us ++ [c]) := by
  rintro ⟨more, vs, hvs⟩
  obtain ⟨t, ts, rfl, -⟩ := hv.exists_cons
  -- whatever more there is, the argument ends in front of `c`, which is then no comma
  have hr := readValue_of_isValue hv (c :: more)
  rw [List.append_assoc, List.singleton_append] at hvs
  rw [List.cons_append] at hr hvs
  rw [read_cons, hr] at hvs
  simp only [hc, if_false] at hvs
  cases hvs

/-- **An error stands in its place**: at the end of tokens that can be completed, or at the first
token with which they cannot. -/
def Placed (ts : List Token) (e : ParseError) : Prop :=
  (e.span? = none ∧ Completable ts) ∨
    ∃ before t behind, ts = before ++ t :: behind ∧ e.span? = some t.span ∧
      Completable before ∧ ¬ Completable (before ++ [t])

/-- **The place of an error moves along** with an argument and its comma put in front. -/
theorem Placed.append_comma {us rest : List Token} {v : Value} {e : ParseError}
    (hv : IsValue maxNesting us v) {comma : Token} (hc : comma.kind = .comma)
    (h : Placed rest e) : Placed (us ++ comma :: rest) e := by
  rcases h with ⟨hspan, hcomplete⟩ | ⟨before, t, behind, rfl, hspan, hbefore, hwith⟩
  · exact Or.inl ⟨hspan, (completable_append_comma_iff hv hc rest).2 hcomplete⟩
  · refine Or.inr ⟨us ++ comma :: before, t, behind, by simp, hspan, ?_, ?_⟩
    · exact (completable_append_comma_iff hv hc before).2 hbefore
    · rw [List.append_assoc, List.cons_append, completable_append_comma_iff hv hc]
      exact hwith

/-- **The error of an argument stands in its place.** -/
theorem placed_of_readValue {ts : List Token} {e : ParseError}
    (h : (readValue ts).result = .error e) : Placed ts e := by
  -- a value that is open is completed to one argument
  have hcomplete : ∀ {before : List Token} {state : State} {stack : List Frame},
      Leads .value [] before state stack → Completable before := by
    intro before state stack hl
    obtain ⟨us, v, hv⟩ := exists_completion state stack
    have hread : readValue (before ++ us) = ⟨.ok v, []⟩ := by
      rw [readValue, hl us, ← hv [], List.append_nil]
    exact ⟨us, accepted_of_readValue hread⟩
  rcases run_error_cases h with ⟨state, stack, hl, rfl⟩ |
    ⟨before, t, behind, state, stack, rfl, hl, he⟩
  · exact Or.inl ⟨span?_atEnd state, hcomplete hl⟩
  · refine Or.inr ⟨before, t, behind, rfl, span?_of_step he, hcomplete hl, ?_⟩
    -- the refusal looks at nothing behind its token, so no tokens behind it help
    rintro ⟨us, haccepted⟩
    have hfail : (readValue (before ++ [t] ++ us)).result = .error e := by
      rw [List.append_assoc, List.singleton_append, readValue, hl]
      exact run_of_error he us
    -- an argument list is read by its first token, and here there is one
    obtain ⟨u, us', hcons⟩ : ∃ u us', before ++ [t] ++ us = u :: us' := by
      cases before with
      | nil => exact ⟨t, us, rfl⟩
      | cons u before => exact ⟨u, before ++ [t] ++ us, by simp⟩
    rw [hcons] at hfail haccepted
    exact not_accepted_of_readValue hfail haccepted

/-- **Every error of an argument list stands in its place.** -/
theorem placed_of_read {ts : List Token} {e : ParseError} (h : (read ts).result = .error e) :
    Placed ts e := by
  -- each argument takes a token, so what is left is shorter
  induction hl : ts.length using Nat.strongRecOn generalizing ts with
  | ind l ih =>
    cases ts with
    | nil => rw [read_nil] at h; cases h
    | cons t ts =>
      rw [read_cons] at h
      match hr : readValue (t :: ts) with
      | ⟨.error e', rest⟩ =>
        rw [hr] at h
        obtain rfl : e' = e := Except.error.inj h
        exact placed_of_readValue (by rw [hr])
      | ⟨.ok v, []⟩ => rw [hr] at h; cases h
      | ⟨.ok v, c :: rest⟩ =>
        rw [hr] at h
        obtain ⟨us, hus, hv⟩ := isValue_of_readValue hr
        rw [hus]
        simp only at h
        split at h
        · -- behind a comma stands a shorter list of arguments, and the error is one of its
          next hc =>
          have hlt : rest.length < l := by
            rw [← hl, hus, List.length_append, List.length_cons]
            omega
          have hrest : (read rest).result = .error e := by
            cases hw : (read rest).result with
            | error e' => rw [hw] at h; exact congrArg _ (Except.error.inj h)
            | ok ws => rw [hw] at h; cases h
          exact (ih _ hlt hrest rfl).append_comma hv hc
        · -- the arguments up to here are a list of their own
          next hc =>
          obtain rfl : ParseError.markMissing .comma c = e := Except.error.inj h
          have hself : Completable us := by
            refine ⟨[], ?_⟩
            rw [List.append_nil]
            exact accepted_of_isValue hv
          exact Or.inr ⟨us, c, rest, rfl, rfl, hself, not_completable_of_ne_comma hv hc⟩

/-- **Errors are reported at the earliest token.** The place of an error is that of a token with
which no list of tokens is accepted, while the tokens before it can be completed; an error without
a place says that the tokens are not accepted and can be completed. -/
theorem read_fails_at_earliest_token {ts : List Token} {e : ParseError}
    (h : (read ts).result = .error e) :
    (∀ span, e.span? = some span → ∃ i t, ts[i]? = some t ∧ t.span = span ∧
      Completable (ts.take i) ∧ ¬ Completable (ts.take (i + 1))) ∧
    (e.span? = none → ¬ Accepted ts ∧ Completable ts) := by
  rcases placed_of_read h with ⟨hnone, hcomplete⟩ | ⟨before, t, behind, rfl, hsome, hbefore, hwith⟩
  -- no place: the tokens ran out
  · refine ⟨fun span hspan => ?_, fun _ => ⟨?_, hcomplete⟩⟩
    · rw [hnone] at hspan
      cases hspan
    · rintro ⟨vs, hvs⟩
      rw [h] at hvs
      cases hvs
  -- a place: the index of the token is the number of tokens before it
  · refine ⟨fun span hspan => ⟨before.length, t, ?_, ?_, ?_, ?_⟩, fun hnone => ?_⟩
    · simp
    · exact Option.some.inj (hsome.symm.trans hspan)
    · rw [List.take_left]
      exact hbefore
    · rw [List.take_length_add_append]
      exact hwith
    · rw [hsome] at hnone
      cases hnone

/-- Of 130 opening brackets the first that is too deep is the 129th, and the error is there. An
object that is opened and not closed has an error without a place. -/
theorem read_fails_at_earliest_token_brackets :
    let ts : List Token := (List.range 130).map fun i => ⟨.openBracket, ⟨i, i + 1⟩⟩
    (read ts).result = .error (.tooDeep ⟨128, 129⟩) ∧
      Completable (ts.take 128) ∧ ¬ Completable (ts.take 129) ∧
      Completable [⟨.openBrace, ⟨0, 1⟩⟩] := by
  intro ts
  have hdeep : (read ts).result = .error (.tooDeep ⟨128, 129⟩) := by
    rw [show ts = ⟨.openBracket, ⟨0, 1⟩⟩ :: ts.tail from rfl, read_cons]
    rfl
  have hopen : (read [⟨.openBrace, ⟨0, 1⟩⟩]).result = .error .keyAtEnd := by
    rw [read_cons]
    rfl
  obtain ⟨i, t, hi, ht, hbefore, hwith⟩ := (read_fails_at_earliest_token hdeep).1 _ rfl
  -- the bracket at index `i` stands at byte `i`, which tells the index from the span
  obtain rfl : i = 128 := by
    simp only [ts, List.getElem?_map, Option.map_eq_some_iff] at hi
    obtain ⟨j, hj, rfl⟩ := hi
    obtain ⟨_, rfl⟩ := List.getElem?_eq_some_iff.1 hj
    simpa using congrArg Span.start ht
  exact ⟨hdeep, hbefore, hwith, ((read_fails_at_earliest_token hopen).2 rfl).2⟩

end FindToSelect.Arguments
