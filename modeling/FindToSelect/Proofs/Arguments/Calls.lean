import FindToSelect.Arguments.Cursor
import FindToSelect.Proofs.Arguments.Acceptance

/-!
# Calls leave nothing behind

A cursor that has been called any number of times, with successes and failures among the calls, is
as good as new: only its place tells it from a cursor over the tokens that are left
(`Cursor.calls_leave_only_place`).

The calls are recursive and count how deep they are; the machine of `Arguments.run` keeps a stack.
The two are tied by one relation, in which the counter is the height of the stack:

* `Reply.Agrees r next o` says that the machine's outcome `o` is that of the call with `next` behind
  it, and that the call leaves the counter as it found it, by whatever exit it ends;
* it goes through `Reply.bind`, one step at a time (`Reply.Agrees.bind`), so each of the functions
  that read has it if those that it calls have it (`elements_agrees`, `members_agrees`,
  `value_agrees`);
* hence a call outside of all containers is `readValue` or `read` on the tokens behind the cursor
  (`call_agrees`), and these see neither the tokens before nor the counter.
-/

namespace FindToSelect.Arguments

/-! ### Outcomes of calls -/

/-- The tokens from the cursor on. -/
def Cursor.ahead (c : Cursor) : List Token :=
  c.tokens.drop c.position

/-- **The outcome of a call.** -/
def Reply.outcome {α : Type} {c : Cursor} (r : Reply α c) : Outcome α :=
  ⟨r.result, r.cursor.ahead⟩

theorem Reply.outcome_stay {α : Type} (c : Cursor) (result : Except ParseError α) :
    (Reply.stay c result).outcome = ⟨result, c.ahead⟩ :=
  rfl

/-- **Goes on from an outcome** where it has a result. -/
def Outcome.bind {α β : Type} (o : Outcome α) (next : α → List Token → Outcome β) : Outcome β :=
  match o.result with
  | .ok a => next a o.rest
  | .error e => ⟨.error e, o.rest⟩

/-- The outcome of a value that was read. -/
def Outcome.ok {α : Type} (a : α) (rest : List Token) : Outcome α :=
  ⟨.ok a, rest⟩

theorem Outcome.bind_ok {α : Type} (o : Outcome α) : o.bind .ok = o := by
  obtain ⟨result, rest⟩ := o
  cases result <;> rfl

namespace Cursor

/-- A cursor that sees no token is at the end. -/
theorem ahead_of_peek?_none {c : Cursor} (h : c.peek? = none) : c.ahead = [] :=
  List.drop_eq_nil_of_le (List.getElem?_eq_none_iff.1 h)

/-- A cursor that sees a token has it before those that are left when it has gone on. -/
theorem ahead_of_peek? {c : Cursor} {t : Token} (h : c.peek? = some t) :
    c.ahead = t :: c.advance.ahead := by
  obtain ⟨hlt, ht⟩ := List.getElem?_eq_some_iff.1 h
  rw [ahead, List.drop_eq_getElem_cons hlt, ht]
  rfl

end Cursor

/-! ### Agreement with the machine -/

/-- **A call agrees with an outcome of the machine**: it leaves the counter as it found it, and the
machine does what the call does and then `next`. -/
structure Reply.Agrees {α β : Type} {c : Cursor} (r : Reply α c)
    (next : α → List Token → Outcome β) (o : Outcome β) : Prop where
  depth : r.cursor.depth = c.depth
  outcome : o = r.outcome.bind next

namespace Reply.Agrees

variable {α β γ : Type} {c d : Cursor}

/-- A call that goes on from a place behind agrees as the call from there does. -/
theorem behind {r : Reply α d} {next : α → List Token → Outcome β} {o : Outcome β}
    (h : r.Agrees next o) {hf : d.Follows c} (hd : d.depth = c.depth) :
    (r.behind hf).Agrees next o :=
  ⟨h.depth.trans hd, h.outcome⟩

/-- **Agreement goes on behind a call**, which may leave with an error. -/
theorem bind {r : Reply α c} {next : α → List Token → Outcome β} {o : Outcome β}
    (h : r.Agrees next o) {more : α → (d : Cursor) → d.Follows c → Reply γ d}
    {last : γ → List Token → Outcome β}
    (hmore : ∀ a d hf, d.depth = c.depth → (more a d hf).Agrees last (next a d.ahead)) :
    (r.bind more).Agrees last o := by
  obtain ⟨hdepth, rfl⟩ := h
  unfold Reply.bind
  split
  · -- the error is passed on, and so is the counter
    next e he =>
    refine ⟨hdepth, ?_⟩
    simp only [Reply.outcome, Outcome.bind, he]
  · next a ha =>
    have hnext : r.outcome.bind next = next a r.cursor.ahead := by
      simp only [Reply.outcome, Outcome.bind, ha]
    rw [hnext]
    exact (hmore a r.cursor r.follows hdepth).behind hdepth

/-- A call that agrees with an outcome has that outcome. -/
theorem outcome_eq {r : Reply α c} {o : Outcome α} (h : r.Agrees .ok o) : r.outcome = o := by
  rw [h.outcome, Outcome.bind_ok]

/-- What follows an outcome follows the call. -/
theorem followed {r : Reply α c} {o : Outcome α} (h : r.Agrees .ok o)
    (next : α → List Token → Outcome β) : r.Agrees next (o.bind next) :=
  ⟨h.depth, by rw [h.outcome_eq]⟩

end Reply.Agrees

namespace Cursor

variable {c : Cursor} {t : Token} {state state' : State} {stack stack' : List Frame}

/-- A token that delivers a value. -/
theorem agrees_of_deliver (h : c.peek? = some t) {v : Value}
    (hs : step state stack t = .deliver v stack') (hlt : c.position < c.tokens.length) :
    (Reply.take hlt (.ok v)).Agrees (resume · stack') (run state stack c.ahead) := by
  refine ⟨rfl, ?_⟩
  rw [ahead_of_peek? h, run_of_deliver hs]
  rfl

/-- A token that is refused. -/
theorem agrees_of_refuse (h : c.peek? = some t) {α : Type} {e : ParseError}
    {next : α → List Token → Outcome Value} (hs : step state stack t = .refuse e)
    (hlt : c.position < c.tokens.length) :
    (Reply.take hlt (.error e)).Agrees next (run state stack c.ahead) := by
  refine ⟨rfl, ?_⟩
  rw [ahead_of_peek? h, run, hs]
  rfl

theorem agrees_of_atEnd (h : c.peek? = none) {α : Type} {e : ParseError}
    {next : α → List Token → Outcome Value} (he : state.atEnd = e) :
    (Reply.stay c (.error e)).Agrees next (run state stack c.ahead) := by
  refine ⟨rfl, ?_⟩
  rw [Reply.outcome_stay, ahead_of_peek?_none h, run, he]
  rfl

/-- **A mark agrees with the machine** in a state that waits for it. -/
theorem expect_agrees {kind : TokenKind} {next : Unit → List Token → Outcome Value}
    (htake : ∀ t rest, t.kind = kind → run state stack (t :: rest) = next () rest)
    (hleave : ∀ t, c.peek? = some t → t.kind ≠ kind →
      step state stack t = .leave (.markMissing kind t))
    (hend : state.atEnd = .markAtEnd kind) :
    (c.expect kind).Agrees next (run state stack c.ahead) := by
  unfold expect
  split
  · next h => exact agrees_of_atEnd h hend
  · next t h =>
    split
    · next hk =>
      refine ⟨rfl, ?_⟩
      rw [ahead_of_peek? h, htake t _ hk]
      rfl
    · next hk =>
      refine ⟨rfl, ?_⟩
      rw [Reply.outcome_stay, ahead_of_peek? h, run, hleave t h hk]
      rfl

/-- **A container agrees with the machine if what is inside it does.** -/
theorem nested_agrees (h : c.peek? = some t) (hd : c.depth = stack.length)
    (hs : step .value stack t = .enter state t.span stack)
    {body : Unit → Reply Value c.advance.enter}
    (hbody : (body ()).Agrees (resume · stack) (run state stack c.advance.ahead)) :
    (c.nested h body).Agrees (resume · stack) (run .value stack c.ahead) := by
  unfold nested
  split
  · -- the counter is raised once and lowered once, whatever the body gives
    next hroom =>
    -- there is room by the counter, hence by the height of the stack
    have hnext : step .value stack t = .next state stack := by
      rw [hs, Step.enter, if_pos (by omega)]
    refine ⟨?_, ?_⟩
    · have hdepth := hbody.depth
      simp only [leave, hdepth, enter, advance]
      omega
    · rw [ahead_of_peek? h, run_of_next hnext]
      exact hbody.outcome
  · next hroom =>
    -- no room is left, and both refuse the same token
    refine agrees_of_refuse h ?_ _
    rw [hs, Step.enter, if_neg (by omega)]

end Cursor

/-- **A state behind an item**, which waits for a comma or for the mark of the kind `kind` that
closes the container `v`. -/
structure State.AfterItem (state state' : State) (kind : TokenKind) (v : Value) : Prop where
  comma : ∀ stack t, t.kind = .comma → step state stack t = .next state' stack
  close : ∀ stack t, t.kind = kind → step state stack t = .deliver v stack
  other : ∀ stack t, t.kind ≠ .comma → t.kind ≠ kind →
    step state stack t = .leave (.markMissing kind t)
  atEnd : state.atEnd = .markAtEnd kind

/-- Behind an element stands a comma or a closing bracket. -/
theorem State.afterItem_array (vs : List Value) :
    (State.afterElement vs).AfterItem (.element vs) .closeBracket (.array vs) where
  comma stack t ht := by simp only [step, ht]
  close stack t ht := by simp only [step, ht]
  other stack t _ _ := by simp only [step]
  atEnd := rfl

theorem State.afterItem_object (ms : Document) :
    (State.afterMember ms).AfterItem (.key ms) .closeBrace (.object ms) where
  comma stack t ht := by simp only [step, ht]
  close stack t ht := by simp only [step, ht]
  other stack t _ _ := by simp only [step]
  atEnd := rfl

namespace Cursor

variable {c : Cursor} {t : Token} {state state' : State} {stack : List Frame}

/-- **What follows an item agrees with the machine** if it does behind a comma. -/
theorem afterItem_agrees {kind : TokenKind} {v : Value} (h : state.AfterItem state' kind v)
    {others : c.sees .comma = true → Reply Value c.advance}
    (hothers : ∀ hcomma, (others hcomma).Agrees (resume · stack)
      (run state' stack c.advance.ahead)) :
    (c.afterItem kind v others).Agrees (resume · stack) (run state stack c.ahead) := by
  unfold afterItem
  split
  · next hcomma =>
    obtain ⟨t, ht, hk⟩ := exists_of_sees hcomma
    rw [ahead_of_peek? ht, run_of_next (h.comma stack t hk)]
    exact (hothers hcomma).behind rfl
  · -- no comma, so the mark must stand here
    next hcomma =>
    have hmark : (c.expect kind).Agrees (fun _ => resume v stack) (run state stack c.ahead) := by
      refine expect_agrees (fun t rest hk => run_of_deliver (h.close stack t hk) rest) ?_ h.atEnd
      intro t ht hk
      refine h.other stack t (fun hc => hcomma ?_) hk
      simp only [sees, ht, hc, decide_true]
    exact hmark.bind fun _ d _ hd => ⟨rfl, rfl⟩

/-- An element that is no closing bracket is read as a value inside the array. -/
theorem run_element_ahead (h : ¬ c.sees .closeBracket = true) (vs : List Value)
    (stack : List Frame) :
    run (.element vs) stack c.ahead = run .value (.array vs :: stack) c.ahead := by
  cases ht : c.peek? with
  | none => rw [ahead_of_peek?_none ht]; rfl
  | some t =>
    have hk : t.kind ≠ .closeBracket := by
      intro hk
      simp [sees, ht, hk] at h
    rw [ahead_of_peek? ht, run, run, step_element_of_ne hk]
    rfl

/-- The calls for one value agree with the machine where at most `n` tokens are left. -/
def ValuesAgree (n : Nat) : Prop :=
  ∀ (c : Cursor) (stack : List Frame), c.left ≤ n → c.depth = stack.length →
    c.value.Agrees (resume · stack) (run .value stack c.ahead)

/-- **The elements of an array agree with the machine.** -/
theorem elements_agrees {n : Nat} (ih : ValuesAgree n) (c : Cursor) (vs : List Value)
    (hn : c.left ≤ n) (hd : c.depth = stack.length + 1) :
    (c.elements vs).Agrees (resume · stack) (run (.element vs) stack c.ahead) := by
  -- each element takes a token, so behind its comma fewer are left
  induction hl : c.left using Nat.strongRecOn generalizing c vs with
  | ind l ihl =>
    rw [elements]
    split
    · next hclose =>
      obtain ⟨t, ht, hk⟩ := exists_of_sees hclose
      exact agrees_of_deliver ht (by simp only [step, hk]) _
    · next hclose =>
      -- the machine has the array on its stack while it reads the element
      rw [run_element_ahead hclose]
      refine (ih c (.array vs :: stack) hn hd).bind fun v d hf hdepth => ?_
      refine afterItem_agrees (State.afterItem_array (vs ++ [v])) fun hcomma => ?_
      have hlt : d.advance.left < c.left :=
        Nat.lt_of_lt_of_le (left_advance_lt (lt_of_sees hcomma)) hf.left_le
      exact ihl _ (hl ▸ hlt) d.advance _ (by omega) (hdepth.trans hd) rfl

/-- **The members of an object agree with the machine.** -/
theorem members_agrees {n : Nat} (ih : ValuesAgree n) (c : Cursor) (ms : Document)
    (hn : c.left ≤ n) (hd : c.depth = stack.length + 1) :
    (c.members ms).Agrees (resume · stack) (run (.key ms) stack c.ahead) := by
  -- as for elements: each member takes tokens, so behind its comma fewer are left
  induction hl : c.left using Nat.strongRecOn generalizing c ms with
  | ind l ihl =>
    rw [members]
    split
    · next h => exact agrees_of_atEnd h rfl
    · next t h =>
      simp only
      split
      · next hk => exact agrees_of_deliver h (by simp only [step, hk]) _
      · next hk =>
        have hlt := left_advance_lt (lt_of_peek? h)
        split
        · next hkey => exact agrees_of_refuse h (by simp only [step, hkey]) _
        · next key hkey =>
          -- a key, its colon, a value, and what follows the member
          rw [ahead_of_peek? h, run_of_next (step_key_of_isKey (key?_eq_some_iff.1 hkey) ms stack)]
          refine Reply.Agrees.behind ?_ rfl
          have hcolon : (c.advance.expect .colon).Agrees
              (fun _ => run .value (.object ms key :: stack))
              (run (.colon ms key) stack c.advance.ahead) := by
            refine expect_agrees (fun t rest ht => ?_) (fun t _ ht => ?_) rfl
            · exact run_of_next (by simp only [step, ht]) rest
            · simp only [step]
          refine hcolon.bind fun _ d hf hdepth => ?_
          have hfd := hf.left_le
          refine (ih d (.object ms key :: stack) (by omega) (hdepth.trans hd)).bind
            fun v e he hdepth' => ?_
          refine afterItem_agrees (State.afterItem_object (ms.put key v)) fun hcomma => ?_
          have hle := he.left_le
          have hlt' := left_advance_lt (lt_of_sees hcomma)
          exact ihl _ (by omega) e.advance _ (by omega) (hdepth'.trans (hdepth.trans hd)) rfl

/-- **The calls for one value agree with the machine.** -/
theorem value_agrees (n : Nat) : ValuesAgree n := by
  induction n using Nat.strongRecOn with
  | ind n ih =>
    intro c stack hn hd
    rw [value]
    split
    · next h => exact agrees_of_atEnd h rfl
    · next t h =>
      -- what is inside a container is one level deeper and has fewer tokens left
      have hleft : c.advance.enter.left < n :=
        Nat.lt_of_lt_of_le (left_advance_lt (lt_of_peek? h)) hn
      have hdeep : c.advance.enter.depth = stack.length + 1 := congrArg (· + 1) hd
      simp only
      split
      · next hk =>
        have hs : step .value stack t = .enter (.key []) t.span stack := by
          simp only [step, Step.begin, hk]
        exact nested_agrees h hd hs (members_agrees (ih _ hleft) _ [] (Nat.le_refl _) hdeep)
      · next hk =>
        have hs : step .value stack t = .enter (.element []) t.span stack := by
          simp only [step, Step.begin, hk]
        exact nested_agrees h hd hs (elements_agrees (ih _ hleft) _ [] (Nat.le_refl _) hdeep)
      -- scalars are delivered, and numbers that are not finite and all other tokens refused
      · next s hk => exact agrees_of_deliver h (by simp only [step, Step.begin, hk]) _
      · next n hk => exact agrees_of_deliver h (by simp only [step, Step.begin, hk]) _
      · next x hk => exact agrees_of_deliver h (by simp only [step, Step.begin, hk]) _
      · next x _ hk => exact agrees_of_refuse h (by simp only [step, Step.begin, hk]) _
      · next hk => exact agrees_of_deliver h (by simp only [step, Step.begin, hk]) _
      · next hk => exact agrees_of_deliver h (by simp only [step, Step.begin, hk]) _
      · next hk => exact agrees_of_deliver h (by simp only [step, Step.begin, hk]) _
      · exact agrees_of_refuse h (by simp only [step, Step.begin]) _

/-! ### Whole calls -/

/-- **Outside of all containers a call for one value is `readValue`** on the tokens from the cursor
on. -/
theorem value_agrees_readValue (c : Cursor) (h : c.depth = 0) :
    c.value.Agrees .ok (readValue c.ahead) :=
  value_agrees c.left c [] (Nat.le_refl _) h

end Cursor

/-- **What follows a value in an argument list.** -/
def readOthers (v : Value) : List Token → Outcome (List Value)
  | [] => .ok [v] []
  | t :: rest =>
    if t.kind = .comma then (read rest).bind fun vs => .ok (v :: vs)
    else ⟨.error (.markMissing .comma t), t :: rest⟩

/-- **Reading arguments** is reading a value, and then what follows it. -/
theorem read_eq_bind {ts : List Token} (h : ts ≠ []) :
    read ts = (readValue ts).bind readOthers := by
  obtain ⟨t, ts, rfl⟩ := List.exists_cons_of_ne_nil h
  rw [read_cons]
  obtain ⟨result, rest⟩ := readValue (t :: ts)
  cases result with
  | error e => rfl
  | ok v =>
    cases rest with
    | nil => rfl
    | cons c rest =>
      simp only [Outcome.bind, readOthers]
      split
      · cases (read rest).result <;> rfl
      · rfl

namespace Cursor

/-- **Outside of all containers a call for the arguments is `read`** on the tokens from the cursor
on. -/
theorem arguments_agrees_read (c : Cursor) (h : c.depth = 0) :
    c.arguments.Agrees .ok (read c.ahead) := by
  -- each argument takes a token, so behind its comma fewer are left
  induction hl : c.left using Nat.strongRecOn generalizing c with
  | ind l ih =>
    rw [arguments]
    split
    · next hnone =>
      refine ⟨rfl, ?_⟩
      rw [Reply.outcome_stay, ahead_of_peek?_none hnone, read_nil]
      rfl
    · next t ht =>
      have hne : c.ahead ≠ [] := by
        rw [ahead_of_peek? ht]
        exact List.cons_ne_nil _ _
      rw [read_eq_bind hne]
      refine ((c.value_agrees_readValue h).followed readOthers).bind fun v d hf hdepth => ?_
      -- behind the value is the end, a comma or a token that should have been a comma
      split
      · next hnone =>
        refine ⟨rfl, ?_⟩
        rw [Reply.outcome_stay, ahead_of_peek?_none hnone]
        rfl
      · next u hu =>
        rw [ahead_of_peek? hu, readOthers]
        split
        · next hcomma =>
          have hlt : d.advance.left < c.left :=
            Nat.lt_of_lt_of_le (left_advance_lt (lt_of_peek? hu)) hf.left_le
          have hothers := ih _ (hl ▸ hlt) d.advance (hdepth.trans h) rfl
          refine Reply.Agrees.behind ?_ rfl
          exact (hothers.followed _).bind fun vs e _ _ => ⟨rfl, rfl⟩
        · next hcomma =>
          refine ⟨rfl, ?_⟩
          rw [Reply.outcome_stay, ahead_of_peek? hu]
          rfl

end Cursor

/-- **What a call reads** in a list of tokens. -/
def Call.read : (k : Call) → List Token → Outcome k.Result
  | .value => readValue
  | .arguments => Arguments.read

namespace Cursor

/-- **A call sees only the tokens from the cursor on.** -/
theorem call_agrees (c : Cursor) (h : c.depth = 0) (k : Call) :
    (c.call k).Agrees .ok (k.read c.ahead) := by
  cases k with
  | value => exact c.value_agrees_readValue h
  | arguments => exact c.arguments_agrees_read h

/-- **A cursor outside of all containers** and within its tokens `ts`. -/
structure Idle (ts : List Token) (c : Cursor) : Prop where
  tokens : c.tokens = ts
  depth : c.depth = 0
  bound : c.position ≤ ts.length

variable {ts : List Token}

theorem idle_start (ts : List Token) : (start ts).Idle ts :=
  ⟨rfl, rfl, Nat.zero_le _⟩

/-- **A call leaves the cursor outside of all containers**, whether it succeeds or fails. -/
theorem Idle.call {c : Cursor} (h : c.Idle ts) (k : Call) : (c.call k).cursor.Idle ts := by
  obtain ⟨rfl, hdepth, hbound⟩ := h
  have hf := (c.call k).follows
  exact ⟨hf.tokens, (c.call_agrees hdepth k).depth.trans hdepth, hf.bound hbound⟩

/-- So does a sequence of calls. -/
theorem Idle.after {c : Cursor} (h : c.Idle ts) (ks : List Call) : (c.after ks).Idle ts := by
  induction ks generalizing c with
  | nil => exact h
  | cons k ks ih => exact ih (h.call k)

/-- The place of a cursor is told by the number of tokens from there on. -/
theorem Idle.position_add_length {c : Cursor} (h : c.Idle ts) :
    c.position + c.ahead.length = ts.length := by
  have hbound := h.bound
  rw [ahead, h.tokens, List.length_drop]
  omega

/-- **What a call gives**, by the tokens from the cursor on. -/
theorem Idle.call_result {c : Cursor} (h : c.Idle ts) (k : Call) :
    (c.call k).result = (k.read c.ahead).result :=
  congrArg Outcome.result (c.call_agrees h.depth k).outcome_eq

/-- **Where a call ends**, by the tokens from the cursor on. -/
theorem Idle.call_position {c : Cursor} (h : c.Idle ts) (k : Call) :
    (c.call k).cursor.position + (k.read c.ahead).rest.length = ts.length := by
  have hrest : (c.call k).cursor.ahead = (k.read c.ahead).rest :=
    congrArg Outcome.rest (c.call_agrees h.depth k).outcome_eq
  rw [← hrest]
  exact (h.call k).position_add_length

/-- **A value that was read is read again before any other tokens.** -/
theorem Idle.value_replaced {c : Cursor} (h : c.Idle ts) {v : Value} (hv : c.value.result = .ok v)
    (us : List Token) :
    let c' : Cursor := { c with tokens := ts.take c.value.cursor.position ++ us }
    c'.value.result = .ok v ∧ c'.value.cursor.position = c.value.cursor.position := by
  intro c'
  have hr : c.value.cursor.Idle ts := h.call .value
  have hread : readValue c.ahead = .ok v c.value.cursor.ahead := by
    rw [← (c.value_agrees_readValue h.depth).outcome_eq, Reply.outcome, hv]
    rfl
  obtain ⟨ws, hws, hvalue⟩ := isValue_of_readValue hread
  -- the tokens of the value are those between the two places
  have hlen : c.position + ws.length = c.value.cursor.position := by
    have hbefore := h.position_add_length
    have hbehind := hr.position_add_length
    rw [hws, List.length_append] at hbefore
    omega
  have htake : (ts.take c.value.cursor.position).length = c.value.cursor.position := by
    rw [List.length_take, Nat.min_eq_left hr.bound]
  have hle : c'.position ≤ (ts.take c.value.cursor.position).length := by
    rw [htake]
    exact c.value.follows.le
  have hahead : c'.ahead = ws ++ us := by
    have htokens : ts.drop c.position = ws ++ c.value.cursor.ahead := by
      rw [← hws, ahead, h.tokens]
    calc c'.ahead
        = (ts.take c.value.cursor.position).drop c.position ++ us :=
          List.drop_append_of_le_length hle
      _ = (ts.drop c.position).take ws.length ++ us := by
          rw [List.drop_take, ← hlen, Nat.add_sub_cancel_left]
      _ = ws ++ us := by rw [htokens, List.take_left]
  have hidle : c'.Idle (ts.take c.value.cursor.position ++ us) := by
    refine ⟨rfl, h.depth, ?_⟩
    rw [List.length_append]
    exact Nat.le_trans hle (Nat.le_add_right _ _)
  -- so they are read in the same way before `us`
  have hread' : readValue c'.ahead = .ok v us := by
    rw [hahead]
    exact readValue_of_isValue hvalue us
  constructor
  · exact (hidle.call_result .value).trans (congrArg Outcome.result hread')
  · have hplace := hidle.call_position .value
    rw [List.length_append, htake] at hplace
    have hrest : (Call.value.read c'.ahead).rest = us := congrArg Outcome.rest hread'
    rw [hrest] at hplace
    exact Nat.add_right_cancel hplace

/-- **Calls leave nothing behind but the place.** After any calls, the next one leaves no container
open and does not go back, and it gives what it gives on a new cursor over the tokens that are left,
which is what is read there, and takes as many. A value that is read depends on no token behind
it. -/
theorem calls_leave_only_place (ts : List Token) (ks : List Call) (k : Call) :
    let c := (start ts).after ks
    let r := c.call k
    let fresh := (start (ts.drop c.position)).call k
    r.cursor.depth = 0 ∧ r.cursor.tokens = ts ∧
      c.position ≤ r.cursor.position ∧ r.cursor.position ≤ ts.length ∧
      r.result = fresh.result ∧ r.cursor.position = c.position + fresh.cursor.position ∧
      r.outcome = k.read (ts.drop c.position) ∧
      ∀ v, c.value.result = .ok v → ∀ us,
        let c' : Cursor := { c with tokens := ts.take c.value.cursor.position ++ us }
        c'.value.result = .ok v ∧ c'.value.cursor.position = c.value.cursor.position := by
  intro c r fresh
  have hc : c.Idle ts := (idle_start ts).after ks
  have hr : r.cursor.Idle ts := hc.call k
  -- both cursors see the same tokens, and none of them is inside a container
  have hnew : (start (ts.drop c.position)).Idle (ts.drop c.position) := idle_start _
  have hahead : (start (ts.drop c.position)).ahead = c.ahead := by
    rw [ahead, ahead, hc.tokens]
    rfl
  refine ⟨hr.depth, hr.tokens, r.follows.le, hr.bound, ?_, ?_, ?_, fun v hv us =>
    hc.value_replaced hv us⟩
  · rw [hc.call_result, hnew.call_result, hahead]
  -- the call takes as many tokens from both, since it leaves as many
  · have hbound := hc.bound
    have hplace : r.cursor.position + (k.read c.ahead).rest.length = ts.length :=
      hc.call_position k
    have hplace' : fresh.cursor.position + (k.read c.ahead).rest.length =
        ts.length - c.position := by
      rw [← hahead, ← List.length_drop]
      exact hnew.call_position k
    omega
  · rw [(c.call_agrees hc.depth k).outcome_eq, ahead, hc.tokens]

/-- The first call fails inside as many arrays as may nest, and the second still reads an array,
whatever stands behind it. -/
theorem calls_leave_only_place_nested :
    let colon : Token := ⟨.colon, ⟨128, 129⟩⟩
    let ts : List Token := List.replicate 128 ⟨.openBracket, ⟨0, 1⟩⟩ ++
      [colon, ⟨.openBracket, ⟨129, 130⟩⟩, ⟨.closeBracket, ⟨130, 131⟩⟩]
    let c := (start ts).after [.value]
    (start ts).value.result = .error (.notValue colon) ∧ c.depth = 0 ∧ c.position = 129 ∧
      c.value.result = .ok (.array []) ∧ c.value.cursor.position = 131 ∧
      ({ c with tokens := ts.take 131 ++ [colon] } : Cursor).value.result = .ok (.array []) := by
  intro colon ts c
  have hfirst : (start ts).value.result = .error (.notValue colon) :=
    (idle_start ts).call_result .value
  have hposition : c.position = 129 := by
    have hplace : c.position + 2 = 131 := (idle_start ts).call_position .value
    omega
  obtain ⟨hdepth, -⟩ := calls_leave_only_place ts [] .value
  obtain ⟨-, -, -, -, hresult, hplace, -, hlocal⟩ := calls_leave_only_place ts [.value] .value
  -- the second call is that of a new cursor over the last two tokens
  have hnew : (start (ts.drop 129)).Idle (ts.drop 129) := idle_start _
  have hvalue : c.value.result = .ok (.array []) := by
    have hfresh : c.value.result = (start (ts.drop c.position)).value.result := hresult
    rw [hposition] at hfresh
    exact hfresh.trans (hnew.call_result .value)
  have hend : c.value.cursor.position = 131 := by
    have hfresh : c.value.cursor.position =
        c.position + (start (ts.drop c.position)).value.cursor.position := hplace
    have hlast : (start (ts.drop 129)).value.cursor.position + 0 = 2 := hnew.call_position .value
    rw [hposition] at hfresh
    omega
  have hother := (hlocal _ hvalue [colon]).1
  rw [hend] at hother
  exact ⟨hfirst, hdepth, hposition, hvalue, hend, hother⟩

end Cursor

end FindToSelect.Arguments
