import FindToSelect.Proofs.Arguments.Grammar

/-!
# Reading accepts exactly the grammar

`Arguments.read` gives the values `vs` for a token list if and only if the list derives from the
grammar and `vs` is what the derivation denotes (`Arguments.read_accepts_exactly_grammar`).

The reader is a machine with a stack, and the grammar is recursive, so the two directions are proved
in different ways.

*From the grammar to the machine*, by recursion on the derivation: on the tokens of a value the
machine comes to where the value is delivered, `resume`, with whatever follows left
(`run_of_isValue`). The lists in containers need what was read before, which the state holds.

*From the machine to the grammar*, by an invariant of its steps. `Seen state stack seen` says what
the tokens taken so far are, from the outermost container inwards: for each container its opening
mark and the items before the current one, each with its comma (`Opened`). One step keeps it or
completes the value (`step_sound`), hence so does a run (`isValue_of_run`).
-/

namespace FindToSelect.Arguments

/-! ### From the grammar to the machine -/

/-- **What the machine does behind a complete value** inside the containers of a stack. -/
def resume (v : Value) : List Frame → List Token → Outcome Value
  | [], ts => ⟨.ok v, ts⟩
  | .array elements :: stack, ts => run (.afterElement (elements ++ [v])) stack ts
  | .object members key :: stack, ts => run (.afterMember (members.put key v)) stack ts

/-- A run goes on behind a value that a step delivers. -/
theorem run_of_deliver {state : State} {stack stack' : List Frame} {t : Token} {v : Value}
    (h : step state stack t = .deliver v stack') (ts : List Token) :
    run state stack (t :: ts) = resume v stack' ts := by
  rw [run, h]
  cases stack' with
  | nil => rfl
  | cons frame stack' => cases frame <;> rfl

theorem run_of_next {state state' : State} {stack stack' : List Frame} {t : Token}
    (h : step state stack t = .next state' stack') (ts : List Token) :
    run state stack (t :: ts) = run state' stack' ts := by
  rw [run, h]

/-- **A scalar is delivered** as soon as it is read. -/
theorem begin_of_isScalar {t : Token} {v : Value} (h : IsScalar t.kind v) (stack : List Frame) :
    Step.begin t stack = .deliver v stack := by
  unfold Step.begin
  generalize t.kind = k at h
  cases h <;> rfl

/-- The machine takes the keys of the grammar, with what they spell. -/
theorem key?_eq_some_iff {k : TokenKind} {name : String} : k.key? = some name ↔ IsKey k name := by
  constructor
  · intro h
    cases k <;> simp only [TokenKind.key?, Option.some.injEq, reduceCtorEq] at h <;>
      subst h <;> constructor
  · intro h
    cases h <;> rfl

/-- Where an element may stand, all but a closing bracket begins one. -/
theorem step_element_of_ne {t : Token} (h : t.kind ≠ .closeBracket) (elements : List Value)
    (stack : List Frame) :
    step (.element elements) stack t = .begin t (.array elements :: stack) := by
  simp only [step]

theorem step_key_of_isKey {t : Token} {name : String} (h : IsKey t.kind name)
    (members : Document) (stack : List Frame) :
    step (.key members) stack t = .next (.colon members name) stack := by
  simp only [step]
  generalize t.kind = k at h
  cases h <;> rfl

/-- The first token of an element is read as that of a value inside the array. -/
theorem run_element {n : Nat} {us : List Token} {v : Value} (h : IsValue n us v)
    (elements : List Value) (stack : List Frame) (rest : List Token) :
    run (.element elements) stack (us ++ rest) =
      run .value (.array elements :: stack) (us ++ rest) := by
  obtain ⟨t, us, rfl, ht⟩ := h.exists_cons
  have hs : step (.element elements) stack t = step .value (.array elements :: stack) t :=
    step_element_of_ne ht elements stack
  rw [List.cons_append, run, run, hs]

/-- The machine reads values of at most `n` levels wherever that many are left. -/
def ReadsValues (n : Nat) : Prop :=
  ∀ {ts : List Token} {v : Value}, IsValue n ts v → ∀ (stack : List Frame) (rest : List Token),
    stack.length + n ≤ maxNesting → run .value stack (ts ++ rest) = resume v stack rest

/-- **The elements of an array**, up to its closing bracket. -/
theorem run_elements {n : Nat} (ih : ReadsValues n) {ts : List Token} {vs : List Value}
    (h : Separated (IsValue n) ts vs) {closing : Token} (hc : closing.kind = .closeBracket)
    (elements : List Value) (stack : List Frame) (rest : List Token)
    (hn : stack.length + (n + 1) ≤ maxNesting) :
    run (.element elements) stack (ts ++ closing :: rest) =
      resume (.array (elements ++ vs)) stack rest := by
  have hlen : (Frame.array elements :: stack).length + n ≤ maxNesting := by
    rw [List.length_cons]
    omega
  induction h generalizing elements with
  | nil =>
    -- the bracket closes the array in place of an element
    rw [List.nil_append, List.append_nil]
    exact run_of_deliver (by simp only [step, hc]) rest
  | @last ts v hv =>
    -- the bracket closes it in place of a comma
    rw [run_element hv, ih hv _ _ hlen, resume]
    exact run_of_deliver (by simp only [step, hc]) rest
  | @cons ts us v vs comma hv hcomma _ ihs =>
    rw [List.append_assoc, run_element hv, ih hv _ _ hlen, resume, List.cons_append,
      run_of_next (show _ = Step.next (.element (elements ++ [v])) stack by
        simp only [step, hcomma]),
      ihs (elements ++ [v]) hlen, List.append_assoc, List.singleton_append]

/-- **The members of an object**, up to its closing brace. -/
theorem run_members {n : Nat} (ih : ReadsValues n) {ts : List Token} {es : List (String × Value)}
    (h : Separated (IsMember (IsValue n)) ts es) {closing : Token}
    (hc : closing.kind = .closeBrace) (members : Document) (stack : List Frame)
    (rest : List Token) (hn : stack.length + (n + 1) ≤ maxNesting) :
    run (.key members) stack (ts ++ closing :: rest) =
      resume (.object (members.putAll es)) stack rest := by
  -- one member, up to what follows it
  have hmember : ∀ {us : List Token} {e : String × Value}, IsMember (IsValue n) us e →
      ∀ (members : Document) (rest : List Token), run (.key members) stack (us ++ rest) =
        run (.afterMember (members.put e.1 e.2)) stack rest := by
    intro us e he members rest
    cases he with
    | @intro key colon name ts v hk hcolon hv =>
      have hlen : (Frame.object members name :: stack).length + n ≤ maxNesting := by
        rw [List.length_cons]
        omega
      rw [List.cons_append, List.cons_append, run_of_next (step_key_of_isKey hk members stack),
        run_of_next (show _ = Step.next .value (.object members name :: stack) by
          simp only [step, hcolon]), ih hv _ _ hlen, resume]
  induction h generalizing members with
  | nil =>
    rw [List.nil_append, Document.putAll_nil_right]
    exact run_of_deliver (by simp only [step, hc]) rest
  | @last ts e he =>
    rw [hmember he, Document.putAll_cons, Document.putAll_nil_right]
    exact run_of_deliver (by simp only [step, hc]) rest
  | @cons ts us e es comma he hcomma _ ihs =>
    rw [List.append_assoc, hmember he, List.cons_append,
      run_of_next (show _ = Step.next (.key (members.put e.1 e.2)) stack by
        simp only [step, hcomma]), ihs, Document.putAll_cons]

/-- **The machine reads every value of the grammar**, and stops behind it. -/
theorem run_of_isValue (n : Nat) : ReadsValues n := by
  -- a scalar is one token
  have hscalar : ∀ {ts : List Token} {v : Value}, (∃ t, ts = [t] ∧ IsScalar t.kind v) →
      ∀ (stack : List Frame) (rest : List Token),
        run .value stack (ts ++ rest) = resume v stack rest := by
    rintro ts v ⟨t, rfl, hs⟩ stack rest
    have hstep : step .value stack t = .deliver v stack := begin_of_isScalar hs stack
    exact run_of_deliver hstep rest
  induction n with
  | zero => exact fun h stack rest _ => hscalar h stack rest
  | succ n ih =>
    -- a container opens, since there is a level left for it, and its items have one level less
    intro ts v h stack rest hn
    have hroom : stack.length < maxNesting := by omega
    rcases h with h | h
    · exact hscalar h stack rest
    · cases h with
      | @array opening closing ts vs ho hs hc =>
        have hopen : step .value stack opening = .next (.element []) stack := by
          simp only [step, Step.begin, ho, Step.enter, hroom, if_true]
        rw [List.cons_append, run_of_next hopen, List.append_assoc, List.singleton_append,
          run_elements ih hs hc [] stack rest hn, List.nil_append]
      | @object opening closing ts es ho hs hc =>
        have hopen : step .value stack opening = .next (.key []) stack := by
          simp only [step, Step.begin, ho, Step.enter, hroom, if_true]
        rw [List.cons_append, run_of_next hopen, List.append_assoc, List.singleton_append,
          run_members ih hs hc [] stack rest hn, Document.putAll_nil]

/-! ### From the machine to the grammar -/

/-- **Items, each with its comma**: what has been read of a list before its current item. -/
inductive Opened {α : Type} (Item : List Token → α → Prop) : List Token → List α → Prop
  | nil : Opened Item [] []
  | snoc {ts us : List Token} {as : List α} {a : α} {comma : Token} :
      Opened Item ts as → Item us a → comma.kind = .comma →
        Opened Item (ts ++ (us ++ [comma])) (as ++ [a])

/-- What has been read of a list goes on with any list. -/
theorem Opened.separated {α : Type} {Item : List Token → α → Prop} {ts us : List Token}
    {as bs : List α} (h : Opened Item ts as) (hs : Separated Item us bs) :
    Separated Item (ts ++ us) (as ++ bs) := by
  induction h generalizing us bs with
  | nil => exact hs
  | snoc _ ha hc ih =>
    rw [List.append_assoc, List.append_assoc, List.append_assoc]
    exact ih (.cons ha hc hs)

/-- The levels left for the items of a container that opens inside those of a stack. -/
def roomIn (stack : List Frame) : Nat :=
  maxNesting - (stack.length + 1)

/-- **An open container**: the tokens before it, its opening mark, and the items before the current
one. -/
def Open {α : Type} (mark : TokenKind) (Item : List Token → α → Prop)
    (Before : List Token → Prop) (items : List α) (seen : List Token) : Prop :=
  ∃ before opening ts, Before before ∧ opening.kind = mark ∧ Opened Item ts items ∧
    seen = before ++ opening :: ts

/-- **What has been read when a value is wanted** inside the containers of a stack. -/
def Inside : List Frame → List Token → Prop
  | [], seen => seen = []
  | .array elements :: stack, seen =>
    stack.length < maxNesting ∧
      Open .openBracket (IsValue (roomIn stack)) (Inside stack) elements seen
  | .object members name :: stack, seen =>
    stack.length < maxNesting ∧ ∃ es ts key colon,
      Open .openBrace (IsMember (IsValue (roomIn stack))) (Inside stack) es ts ∧
        members = Document.putAll [] es ∧ IsKey key.kind name ∧ colon.kind = .colon ∧
        seen = ts ++ [key, colon]

/-- What has been read of an object before its current member. -/
def InObject (members : Document) (stack : List Frame) (seen : List Token) : Prop :=
  stack.length < maxNesting ∧ ∃ es,
    Open .openBrace (IsMember (IsValue (roomIn stack))) (Inside stack) es seen ∧
      members = Document.putAll [] es

/-- **The invariant of the machine**: what the tokens taken so far are. -/
def Seen : State → List Frame → List Token → Prop
  | .value, stack, seen => Inside stack seen
  | .element elements, stack, seen => Inside (.array elements :: stack) seen
  | .afterElement elements, stack, seen =>
    ∃ vs v ts us, Inside (.array vs :: stack) ts ∧ IsValue (roomIn stack) us v ∧
      elements = vs ++ [v] ∧ seen = ts ++ us
  | .key members, stack, seen => InObject members stack seen
  | .colon members name, stack, seen =>
    ∃ ts key, InObject members stack ts ∧ IsKey key.kind name ∧ seen = ts ++ [key]
  | .afterMember members, stack, seen =>
    ∃ ms ts us e, InObject ms stack ts ∧ IsMember (IsValue (roomIn stack)) us e ∧
      members = ms.put e.1 e.2 ∧ seen = ts ++ us

/-- **What a step may do** when the tokens up to and with its own are `seen`: go on and keep the
invariant, or complete a value of the grammar. A refusal promises nothing. -/
def Step.Sound (seen : List Token) : Step → Prop
  | .next state stack => Seen state stack seen
  | .done v => IsValue maxNesting seen v
  | .refuse _ | .leave _ => True

/-- **Delivering a value keeps the invariant.** -/
theorem deliver_sound {stack : List Frame} {before us : List Token} {v : Value}
    (hb : Inside stack before) (hv : IsValue (maxNesting - stack.length) us v) :
    (Step.deliver v stack).Sound (before ++ us) := by
  match stack, hb with
  | [], hb =>
    -- no container is open, so the value is all that was read
    subst hb
    exact hv
  | .array elements :: stack, hb => exact ⟨elements, v, before, us, hb, hv, rfl, rfl⟩
  | .object members name :: stack, ⟨hroom, es, ts, key, colon, ho, hm, hk, hc, hs⟩ =>
    -- the key, the colon and the value make a member
    subst hs
    refine ⟨members, ts, key :: colon :: us, (name, v), ⟨hroom, es, ho, hm⟩, ?_, rfl, ?_⟩
    · exact .intro hk hc hv
    · rw [List.append_assoc]
      rfl

/-- The levels left inside a stack are one more than those left in a container that opens there. -/
theorem roomIn_succ {stack : List Frame} (h : stack.length < maxNesting) :
    maxNesting - stack.length = roomIn stack + 1 := by
  unfold roomIn
  omega

/-- Only where there is room for one more container does the invariant have to hold inside it. -/
theorem enter_sound {state : State} {stack : List Frame} {seen : List Token} (span : Span)
    (h : stack.length < maxNesting → Seen state stack seen) :
    (Step.enter state span stack).Sound seen := by
  unfold Step.enter
  split
  · next hroom => exact h hroom
  · trivial

/-- **The first token of a value keeps the invariant.** -/
theorem begin_sound {stack : List Frame} {before : List Token} (hb : Inside stack before)
    (t : Token) : (Step.begin t stack).Sound (before ++ [t]) := by
  have hscalar : ∀ {v : Value}, IsScalar t.kind v → (Step.begin t stack).Sound (before ++ [t]) := by
    intro v hs
    rw [begin_of_isScalar hs]
    exact deliver_sound hb (.of_isScalar hs _)
  -- a container that opens has no items yet
  have hopen : ∀ {α : Type} {mark : TokenKind} {Item : List Token → α → Prop}, t.kind = mark →
      Open mark Item (Inside stack) [] (before ++ [t]) :=
    fun hm => ⟨before, t, [], hb, hm, .nil, rfl⟩
  cases hk : t.kind with
  | openBrace =>
    simp only [Step.begin, hk]
    exact enter_sound _ fun hroom => ⟨hroom, [], hopen hk, rfl⟩
  | openBracket =>
    simp only [Step.begin, hk]
    exact enter_sound _ fun hroom => ⟨hroom, hopen hk⟩
  | string s => exact hscalar (v := .string s) (by rw [hk]; exact .string s)
  | integer n => exact hscalar (v := .number (.integer n)) (by rw [hk]; exact .integer n)
  | float x =>
    cases x with
    | finite x => exact hscalar (v := .number (.float x)) (by rw [hk]; exact .float x)
    -- a number that is not finite is refused
    | infinite negative => simp only [Step.begin, hk, Step.Sound]
    | nan => simp only [Step.begin, hk, Step.Sound]
  | true => exact hscalar (v := .boolean true) (by rw [hk]; exact .true)
  | false => exact hscalar (v := .boolean false) (by rw [hk]; exact .false)
  | null => exact hscalar (v := .null) (by rw [hk]; exact .null)
  | identifier _ | closeBrace | closeBracket | colon | comma | illegal =>
    simp only [Step.begin, hk, Step.Sound]

/-- **A bracket closes an array** whose items have been read. -/
theorem close_array_sound {stack : List Frame} {ts us : List Token} {vs ws : List Value}
    (h : Inside (.array vs :: stack) ts) (hs : Separated (IsValue (roomIn stack)) us ws)
    {t : Token} (ht : t.kind = .closeBracket) :
    (Step.deliver (.array (vs ++ ws)) stack).Sound (ts ++ us ++ [t]) := by
  obtain ⟨hroom, before, opening, items, hb, ho, hi, rfl⟩ := h
  have hv : IsValue (maxNesting - stack.length) (opening :: (items ++ us ++ [t]))
      (.array (vs ++ ws)) := by
    rw [roomIn_succ hroom]
    exact Or.inr (.array ho (hi.separated hs) ht)
  simpa using deliver_sound hb hv

/-- **A brace closes an object** whose members have been read. -/
theorem close_object_sound {stack : List Frame} {ts us : List Token} {members : Document}
    {fs : List (String × Value)} (h : InObject members stack ts)
    (hs : Separated (IsMember (IsValue (roomIn stack))) us fs) {t : Token}
    (ht : t.kind = .closeBrace) :
    (Step.deliver (.object (members.putAll fs)) stack).Sound (ts ++ us ++ [t]) := by
  obtain ⟨hroom, es, ⟨before, opening, items, hb, ho, hi, rfl⟩, rfl⟩ := h
  -- the entries before and those of `us` make one document
  have hv : IsValue (maxNesting - stack.length) (opening :: (items ++ us ++ [t]))
      (.object ((Document.putAll [] es).putAll fs)) := by
    rw [roomIn_succ hroom, ← Document.putAll_append, Document.putAll_nil]
    exact Or.inr (.object ho (hi.separated hs) ht)
  simpa using deliver_sound hb hv

/-- A comma behind an item puts it among the items before the current one. -/
theorem Open.comma {α : Type} {mark : TokenKind} {Item : List Token → α → Prop}
    {Before : List Token → Prop} {as : List α} {a : α} {ts us : List Token}
    (h : Open mark Item Before as ts) (ha : Item us a) {t : Token} (ht : t.kind = .comma) :
    Open mark Item Before (as ++ [a]) (ts ++ us ++ [t]) := by
  obtain ⟨before, opening, items, hb, ho, hi, rfl⟩ := h
  exact ⟨before, opening, items ++ (us ++ [t]), hb, ho, hi.snoc ha ht, by simp⟩

/-- **One step keeps the invariant** or completes a value of the grammar. -/
theorem step_sound {state : State} {stack : List Frame} {seen : List Token}
    (h : Seen state stack seen) (t : Token) : (step state stack t).Sound (seen ++ [t]) := by
  cases state with
  | value => exact begin_sound h t
  | element elements =>
    -- a closing bracket here stands behind the opening one or behind a comma
    by_cases ht : t.kind = .closeBracket
    · have hs := close_array_sound h .nil ht
      simp only [step, ht]
      simpa using hs
    · rw [step_element_of_ne ht]
      exact begin_sound h t
  | afterElement elements =>
    -- a comma makes the element one of those before, a bracket makes it the last
    obtain ⟨vs, v, ts, us, hin, hv, rfl, rfl⟩ := h
    simp only [step]
    split
    · next ht => exact ⟨hin.1, hin.2.comma hv ht⟩
    · next ht => exact close_array_sound hin (.last hv) ht
    · trivial
  | key members =>
    by_cases ht : t.kind = .closeBrace
    · have hs := close_object_sound h .nil ht
      simp only [step, ht]
      simpa using hs
    · -- any other token must spell a key
      cases hk : t.kind.key? with
      | none =>
        have hstep : step (.key members) stack t = .refuse (.notKey t) := by
          simp only [step, hk]
        rw [hstep]
        trivial
      | some name =>
        have hkey : IsKey t.kind name := key?_eq_some_iff.1 hk
        rw [step_key_of_isKey hkey]
        exact ⟨seen, t, h, hkey, rfl⟩
  | colon members name =>
    obtain ⟨ts, key, hin, hkey, rfl⟩ := h
    obtain ⟨hroom, es, ho, hm⟩ := hin
    simp only [step]
    split
    · next ht => exact ⟨hroom, es, ts, key, t, ho, hm, hkey, ht, by simp⟩
    · trivial
  | afterMember members =>
    obtain ⟨ms, ts, us, e, hin, he, rfl, rfl⟩ := h
    simp only [step]
    split
    · -- the member becomes one of those before, and its entry the last that was set
      next ht =>
      obtain ⟨hroom, es, ho, rfl⟩ := hin
      refine ⟨hroom, es ++ [e], ho.comma he ht, ?_⟩
      rw [Document.putAll_append]
      rfl
    · next ht => exact close_object_sound hin (.last he) ht
    · trivial

/-- **A run that gives a value has read one of the grammar.** -/
theorem isValue_of_run {state : State} {stack : List Frame} {seen ts rest : List Token}
    {v : Value} (h : Seen state stack seen) (hr : run state stack ts = ⟨.ok v, rest⟩) :
    ∃ us, ts = us ++ rest ∧ IsValue maxNesting (seen ++ us) v := by
  induction ts generalizing state stack seen with
  | nil => exact absurd (congrArg Outcome.result hr) (by simp [run])
  | cons t ts ih =>
    have hs := step_sound h t
    rw [run] at hr
    split at hr
    · -- the step goes on, with `t` among what has been read
      next state' stack' he =>
      rw [he] at hs
      obtain ⟨us, rfl, hv⟩ := ih hs hr
      exact ⟨t :: us, rfl, by simpa using hv⟩
    -- the step completes the value, and what follows `t` is left
    · next w he =>
      rw [he] at hs
      simp only [Outcome.mk.injEq, Except.ok.injEq] at hr
      obtain ⟨rfl, rfl⟩ := hr
      exact ⟨[t], rfl, hs⟩
    · exact absurd (congrArg Outcome.result hr) (by simp)
    · exact absurd (congrArg Outcome.result hr) (by simp)

/-! ### Whole argument lists -/

/-- **A value of the grammar is read**, and what follows it is left. -/
theorem readValue_of_isValue {ts : List Token} {v : Value} (h : IsValue maxNesting ts v)
    (rest : List Token) : readValue (ts ++ rest) = ⟨.ok v, rest⟩ :=
  run_of_isValue maxNesting h [] rest (by simp)

/-- **What is read as a value is one of the grammar.** -/
theorem isValue_of_readValue {ts rest : List Token} {v : Value}
    (h : readValue ts = ⟨.ok v, rest⟩) : ∃ us, ts = us ++ rest ∧ IsValue maxNesting us v :=
  isValue_of_run (show Seen .value [] [] from rfl) h

/-- **Arguments of the grammar are read.** -/
theorem read_of_isArguments {ts : List Token} {vs : List Value} (h : IsArguments ts vs) :
    (read ts).result = .ok vs := by
  induction h with
  | nil => rw [read_nil]
  | @last ts v hv =>
    obtain ⟨t, us, rfl, -⟩ := hv.exists_cons
    have hr := readValue_of_isValue hv []
    rw [List.append_nil] at hr
    rw [read_cons, hr]
  | @cons ts us v vs comma hv hc _ ih =>
    -- the value is read up to its comma, and the rest is by the induction hypothesis
    obtain ⟨t, ts, rfl, -⟩ := hv.exists_cons
    have hr := readValue_of_isValue hv (comma :: us)
    rw [List.cons_append] at hr ⊢
    rw [read_cons, hr]
    simp only [hc, if_true, ih]
    rfl

/-- **What is read as arguments are arguments of the grammar.** -/
theorem isArguments_of_read {ts : List Token} {vs : List Value}
    (h : (read ts).result = .ok vs) : IsArguments ts vs := by
  -- each argument takes a token, so what is left is shorter
  induction hl : ts.length using Nat.strongRecOn generalizing ts vs with
  | ind l ih =>
    cases ts with
    | nil =>
      rw [read_nil] at h
      obtain rfl : [] = vs := Except.ok.inj h
      exact .nil
    | cons t ts =>
      rw [read_cons] at h
      match hr : readValue (t :: ts) with
      | ⟨.error e, rest⟩ => rw [hr] at h; exact absurd h (by simp)
      | ⟨.ok v, []⟩ =>
        rw [hr] at h
        obtain ⟨us, hus, hv⟩ := isValue_of_readValue hr
        obtain rfl : [v] = vs := Except.ok.inj h
        rw [hus, List.append_nil]
        exact .last hv
      | ⟨.ok v, c :: rest⟩ =>
        -- behind the value must be a comma, and behind the comma is a shorter list of arguments
        rw [hr] at h
        obtain ⟨us, hus, hv⟩ := isValue_of_readValue hr
        simp only at h
        split at h
        · next hc =>
          cases hw : (read rest).result with
          | error e => rw [hw] at h; exact absurd h (by simp [Except.map])
          | ok ws =>
            rw [hw] at h
            obtain rfl : v :: ws = vs := Except.ok.inj h
            have hlt : rest.length < l := by
              rw [← hl, hus, List.length_append, List.length_cons]
              omega
            rw [hus]
            exact .cons hv hc (ih _ hlt hw rfl)
        · exact absurd h (by simp)

/-- **Reading accepts exactly the grammar**, and gives what the derivation denotes. So a token list
denotes at most one list of arguments, and none if it holds an `illegal` token. -/
theorem read_accepts_exactly_grammar (ts : List Token) :
    (∀ vs, (read ts).result = .ok vs ↔ IsArguments ts vs) ∧
      (∀ vs ws, IsArguments ts vs → IsArguments ts ws → vs = ws) ∧
      ((∃ t ∈ ts, t.kind = .illegal) → ∀ vs, (read ts).result ≠ .ok vs) := by
  refine ⟨fun vs => ⟨isArguments_of_read, read_of_isArguments⟩, fun vs ws hv hw => ?_, ?_⟩
  · exact Except.ok.inj ((read_of_isArguments hv).symm.trans (read_of_isArguments hw))
  · rintro ⟨t, ht, hk⟩ vs h
    exact (isArguments_of_read h).forall_ne_illegal t ht hk

/-- The tokens of `{a: 1, a: [2,],}`: the second `a` takes the place of the first, and each of the
two containers ends in a comma. -/
theorem read_accepts_exactly_grammar_repeated_key :
    let ts : List Token :=
      [⟨.openBrace, ⟨0, 1⟩⟩, ⟨.identifier "a", ⟨1, 2⟩⟩, ⟨.colon, ⟨2, 3⟩⟩, ⟨.integer 1, ⟨4, 5⟩⟩,
        ⟨.comma, ⟨5, 6⟩⟩, ⟨.identifier "a", ⟨7, 8⟩⟩, ⟨.colon, ⟨8, 9⟩⟩, ⟨.openBracket, ⟨10, 11⟩⟩,
        ⟨.integer 2, ⟨11, 12⟩⟩, ⟨.comma, ⟨12, 13⟩⟩, ⟨.closeBracket, ⟨13, 14⟩⟩,
        ⟨.comma, ⟨14, 15⟩⟩, ⟨.closeBrace, ⟨15, 16⟩⟩]
    IsArguments ts [.object [("a", .array [.number (.integer 2)])]] ∧
      (∀ vs, IsArguments ts vs → vs = [.object [("a", .array [.number (.integer 2)])]]) ∧
      (∀ vs, (read (⟨.illegal, ⟨0, 1⟩⟩ :: ts)).result ≠ .ok vs) := by
  intro ts
  have hread : (read ts).result = .ok [.object [("a", .array [.number (.integer 2)])]] := by
    rw [read_cons]
    rfl
  have h := (read_accepts_exactly_grammar ts).1 _ |>.1 hread
  exact ⟨h, fun vs hv => (read_accepts_exactly_grammar ts).2.1 _ _ hv h,
    (read_accepts_exactly_grammar _).2.2 ⟨_, List.mem_cons_self, rfl⟩⟩

end FindToSelect.Arguments
