import FindToSelect.Proofs.Arguments.Acceptance
import FindToSelect.Proofs.Token.Truncation

/-!
# Trivia between tokens means nothing

Blanks and closed comments may be put in before any token of a text without `illegal` tokens. The
text is then read as the same tokens, those behind the inserted trivia being moved by its length,
and its arguments are the same, or are refused for the same reason
(`Arguments.parse_inserted_trivia`).

* `Token.lex_inserted_trivia` — the tokens. The text is cut before the token (`Token.exists_cut`).
  What stands before the cut is read as the same tokens before the trivia, since trivia goes on no
  token (`Trivia.Finished.bounded_append`), and the rest is read as it was, from a later place
  (`Token.lexFrom_shift`);
* `read_worded_of_kinds` — the arguments. The machine looks at the kinds of its tokens, and keeps
  their places only for its errors; so what an outcome says apart from places (`Outcome.worded`)
  follows from the kinds.
-/

namespace FindToSelect

/-! ### Trivia goes on no token -/

/-- No blank is part of a word. -/
theorem Word.isPart_of_isBlank {c : Char} (h : Text.isBlank c = true) :
    isPart c = false ∧ c ≠ '.' := by
  -- there are few blanks, so each can be looked at
  have hall : ∀ r ∈ Text.blank.runs, ∀ k ≤ r.2 - r.1,
      isPart (Char.ofNat (r.1 + k)) = false ∧ Char.ofNat (r.1 + k) ≠ '.' := by
    decide +kernel
  obtain ⟨r, hr, hlo, hhi⟩ := CharSet.mem_iff_exists.1 h
  have hc := hall r hr (c.toNat - r.1) (by omega)
  rwa [Nat.add_sub_cancel' hlo, Char.ofNat_toNat] at hc

/-- **Trivia goes on no token.** -/
theorem Trivia.Finished.bounded_append {w : List Char} (h : Finished w) (hne : w ≠ [])
    (ys : List Char) : Token.Bounded (w ++ ys) := by
  have hslash : Word.isPart '/' = false ∧ '/' ≠ '.' := by decide +kernel
  -- only the first character counts: a blank or the slash of a comment
  intro d hd
  cases h with
  | nil => exact absurd rfl hne
  | blank hc _ =>
    obtain rfl := Option.some.inj hd
    exact Word.isPart_of_isBlank hc
  | line _ _ =>
    obtain rfl := Option.some.inj hd
    exact hslash
  | block _ _ =>
    obtain rfl := Option.some.inj hd
    exact hslash

/-! ### The tokens -/

namespace Token

/-- **A token moved** by a number of bytes. -/
def shift (n : Nat) (t : Token) : Token :=
  ⟨t.kind, ⟨t.span.start + n, t.span.stop + n⟩⟩

theorem shift_zero (t : Token) : t.shift 0 = t :=
  rfl

/-- **A text that starts later** has its tokens moved. -/
theorem lexFrom_shift (offset n : Nat) (cs : List Char) :
    lexFrom (offset + n) cs = (lexFrom offset cs).map (shift n) := by
  induction cs using textInduction generalizing offset with
  | trivia cs h =>
    rw [lexFrom_of_drop_eq_nil h, lexFrom_of_drop_eq_nil h]
    rfl
  | token w c rest hw h0 ih =>
    rw [lexFrom_finished_append hw, lexFrom_finished_append hw, lexFrom_cons h0, lexFrom_cons h0,
      List.map_cons, ← ih, Nat.add_right_comm offset n, Nat.add_right_comm _ n]
    rfl

/-- **Trivia put in before a token** moves this token and those behind it. -/
theorem lex_inserted_trivia {cs w : List Char} (hl : Legal cs) (hw : Trivia.Finished w)
    {before after : List Token} {t : Token} (h : lex cs = before ++ t :: after) :
    ∃ cs', insertBytes? t.span.start w cs = some cs' ∧
      lex cs' = before ++ (t :: after).map (shift (byteLength w)) := by
  -- the text is `xs` before the token, the token itself, and `zs` behind it
  obtain ⟨xs, piece, zs, rfl, hcut⟩ := exists_cut h
  refine ⟨xs ++ (w ++ (piece ++ zs)), ?_, ?_⟩
  · rw [hcut.span, Nat.zero_add]
    exact insertBytes?_append xs w (piece ++ zs)
  -- no trivia at all may be put in where a token goes on, so that case is on its own
  · by_cases hne : w = []
    · subst hne
      have hid : (t :: after).map (shift (byteLength [])) = t :: after :=
        List.map_id'' shift_zero _
      rw [List.nil_append, hid, h]
    · -- what stands before the token has no `illegal` tokens, so trivia cannot go on it
      have hlegal : Legal xs := by
        intro u hu
        rw [lex, hcut.lex_before] at hu
        refine hl u ?_
        rw [h]
        exact List.mem_append_left _ hu
      rw [lex, lexFrom_append hlegal hcut.finished (hw.bounded_append hne _),
        lexFrom_finished_append hw, lexFrom_shift, hcut.lex_before, hcut.lex_from]

end Token

/-! ### The arguments -/

namespace Arguments

/-- **Steps that differ at most in the places of their errors.** -/
inductive Step.Alike : Step → Step → Prop
  | refl (s : Step) : Alike s s
  | refuse {e e' : ParseError} : e.message = e'.message → Alike (.refuse e) (.refuse e')
  | leave {e e' : ParseError} : e.message = e'.message → Alike (.leave e) (.leave e')

/-- The depth decides whether a container opens; its place is kept only for the error. -/
theorem enter_alike (state : State) (s s' : Span) (stack : List Frame) :
    (Step.enter state s stack).Alike (.enter state s' stack) := by
  unfold Step.enter
  split
  · exact .refl _
  · exact .refuse rfl

/-- **The kind of a token decides what value it begins**, up to the place of an error. -/
theorem begin_alike (k : TokenKind) (s s' : Span) (stack : List Frame) :
    (Step.begin ⟨k, s⟩ stack).Alike (.begin ⟨k, s'⟩ stack) := by
  cases k with
  | openBrace => exact enter_alike _ s s' stack
  | openBracket => exact enter_alike _ s s' stack
  | float x =>
    cases x with
    | finite x => exact .refl _
    | infinite negative => exact .refuse rfl
    | nan => exact .refuse rfl
  | string | integer | true | false | null => exact .refl _
  | identifier | closeBrace | closeBracket | colon | comma | illegal => exact .refuse rfl

/-- **The kind of a token decides the step**, up to the place of an error. -/
theorem step_alike (state : State) (stack : List Frame) (k : TokenKind) (s s' : Span) :
    (step state stack ⟨k, s⟩).Alike (step state stack ⟨k, s'⟩) := by
  cases state with
  | value => exact begin_alike k s s' stack
  | element elements =>
    by_cases hk : k = .closeBracket
    · subst hk
      exact .refl _
    · rw [step_element_of_ne (t := ⟨k, s⟩) hk, step_element_of_ne (t := ⟨k, s'⟩) hk]
      exact begin_alike k s s' _
  -- a key is taken in whole here, so the kinds are gone through
  | key members =>
    cases k with
    | identifier | string | true | false | null | closeBrace => exact .refl _
    | integer | float | openBrace | openBracket | closeBracket | colon | comma | illegal =>
      exact .refuse rfl
  | afterElement elements =>
    simp only [step]
    split
    · exact .refl _
    · exact .refl _
    · exact .leave rfl
  | colon members name =>
    simp only [step]
    split
    · exact .refl _
    · exact .leave rfl
  | afterMember members =>
    simp only [step]
    split
    · exact .refl _
    · exact .refl _
    · exact .leave rfl

/-- **What an outcome says apart from places**: the values or the wording of the error, and the
kinds of the tokens that were not taken. -/
def Outcome.worded {α : Type} (o : Outcome α) : Except String α × List TokenKind :=
  (o.result.mapError ParseError.message, o.rest.map Token.kind)

/-- Two outcomes that say the same have the same value, or errors with one message. -/
theorem Outcome.worded_cases {α : Type} {o o' : Outcome α} (h : o.worded = o'.worded) :
    o.rest.map Token.kind = o'.rest.map Token.kind ∧
      ((∃ a, o.result = .ok a ∧ o'.result = .ok a) ∨
        ∃ e e', o.result = .error e ∧ o'.result = .error e' ∧ e.message = e'.message) := by
  obtain ⟨hresult, hrest⟩ := Prod.mk.inj h
  refine ⟨hrest, ?_⟩
  cases ho : o.result with
  | error e =>
    cases ho' : o'.result with
    | error e' =>
      rw [ho, ho'] at hresult
      exact Or.inr ⟨e, e', rfl, rfl, Except.error.inj hresult⟩
    | ok a' => rw [ho, ho'] at hresult; cases hresult
  | ok a =>
    cases ho' : o'.result with
    | error e' => rw [ho, ho'] at hresult; cases hresult
    | ok a' =>
      rw [ho, ho'] at hresult
      obtain rfl : a = a' := Except.ok.inj hresult
      exact Or.inl ⟨a, rfl, rfl⟩

/-- **The kinds of the tokens decide a run**, up to the places of errors. -/
theorem run_worded_of_kinds {ts us : List Token} (h : ts.map Token.kind = us.map Token.kind)
    (state : State) (stack : List Frame) :
    (run state stack ts).worded = (run state stack us).worded := by
  induction ts generalizing us state stack with
  | nil =>
    obtain rfl : us = [] := by simpa using h.symm
    rfl
  | cons t ts ih =>
    obtain ⟨u, us, rfl, hk, hts⟩ := List.map_eq_cons_iff.1 h.symm
    obtain ⟨k, s⟩ := t
    obtain ⟨k', s'⟩ := u
    obtain rfl : k = k' := hk.symm
    -- the first steps are the same but for the place of an error, and the rest is by induction
    have halike := step_alike state stack k s s'
    rw [run, run]
    generalize step state stack ⟨k, s⟩ = first at halike ⊢
    generalize step state stack ⟨k, s'⟩ = second at halike ⊢
    cases halike with
    | refl =>
      cases first with
      | next state' stack' => exact ih hts.symm state' stack'
      | done _ | refuse _ => simp only [Outcome.worded, hts]
      | leave _ => simp only [Outcome.worded, List.map_cons, hts]
    | refuse he => simp only [Outcome.worded, Except.mapError, he, hts]
    | leave he => simp only [Outcome.worded, Except.mapError, he, List.map_cons, hts]

theorem message_markMissing {wanted : TokenKind} {t u : Token} (h : t.kind = u.kind) :
    (ParseError.markMissing wanted t).message = (ParseError.markMissing wanted u).message :=
  congrArg (fun k => "Expected " ++ wanted.describe ++ ", found " ++ TokenKind.describe k) h

/-- **The kinds of the tokens decide what arguments are read**, up to the places of errors. -/
theorem read_worded_of_kinds {ts us : List Token} (h : ts.map Token.kind = us.map Token.kind) :
    (read ts).worded = (read us).worded := by
  -- each argument takes a token, so what is left is shorter
  induction hl : ts.length using Nat.strongRecOn generalizing ts us with
  | ind l ih =>
    cases ts with
    | nil =>
      obtain rfl : us = [] := by simpa using h.symm
      rfl
    | cons t ts =>
      obtain ⟨u, us, rfl, -, -⟩ := List.map_eq_cons_iff.1 h.symm
      have hvalue : (readValue (t :: ts)).worded = (readValue (u :: us)).worded :=
        run_worded_of_kinds h .value []
      -- what the value leaves is shorter than the list, which the induction goes by
      have hshorter : ∀ v, (readValue (t :: ts)).result = .ok v →
          (readValue (t :: ts)).rest.length < l := by
        intro v hv
        rw [← hl]
        exact length_rest_lt_of_run hv
      rw [read_cons, read_cons]
      generalize readValue (t :: ts) = o at hvalue hshorter ⊢
      generalize readValue (u :: us) = o' at hvalue ⊢
      obtain ⟨result, rest⟩ := o
      obtain ⟨result', rest'⟩ := o'
      obtain ⟨hrest, ⟨v, rfl, rfl⟩ | ⟨e, e', rfl, rfl, hm⟩⟩ := Outcome.worded_cases hvalue
      · cases rest with
        | nil =>
          obtain rfl : rest' = [] := by simpa using hrest.symm
          rfl
        | cons c rest =>
          -- behind the value both have a comma, or both have another token of one kind
          obtain ⟨c', rest', rfl, hc, hrest⟩ := List.map_eq_cons_iff.1 hrest.symm
          have hlt := hshorter v rfl
          simp only [List.length_cons] at hlt
          obtain ⟨hleft, hothers⟩ := Outcome.worded_cases (ih rest.length (by omega) hrest.symm rfl)
          -- with commas, the tokens behind them are of the same kinds again
          by_cases hcomma : c.kind = .comma
          · have hcomma' : c'.kind = .comma := hc.trans hcomma
            simp only [if_pos hcomma, if_pos hcomma', Outcome.worded, hleft]
            rcases hothers with ⟨vs, ho, ho'⟩ | ⟨e, e', ho, ho', hm⟩
            · rw [ho, ho']
            · rw [ho, ho']
              simp only [Except.map, Except.mapError, hm]
          · simp only [if_neg hcomma, Outcome.worded, Except.mapError, message_markMissing hc,
              List.map_cons, hc, hrest]
      · simp only [Outcome.worded, Except.mapError, hm, hrest]

/-- **Trivia between tokens means nothing.** Put in before any token of a text without `illegal`
tokens, blanks and closed comments leave the kinds of all tokens and the places of those before,
move the others by their length, and leave the arguments, or the wording of their error. -/
theorem parse_inserted_trivia {cs w : List Char} (hl : Token.Legal cs) (hw : Trivia.Finished w)
    {before after : List Token} {t : Token} (h : Token.lex cs = before ++ t :: after) :
    ∃ cs', insertBytes? t.span.start w cs = some cs' ∧
      Token.lex cs' = before ++ (t :: after).map (Token.shift (byteLength w)) ∧
      (parse cs').mapError ParseError.message = (parse cs).mapError ParseError.message := by
  obtain ⟨cs', hinsert, hlex⟩ := Token.lex_inserted_trivia hl hw h
  refine ⟨cs', hinsert, hlex, ?_⟩
  -- moving a token keeps its kind
  have hkinds : (Token.lex cs').map Token.kind = (Token.lex cs).map Token.kind := by
    rw [hlex, h, List.map_append, List.map_append, List.map_map]
    rfl
  exact congrArg Prod.fst (read_worded_of_kinds hkinds)

/-- In `[1'é',]` a number and a string touch. A comment with a quote in it and a blank between them
move the string and what follows it, and the comma between the two is still missed. -/
theorem parse_inserted_trivia_touching :
    Token.Legal "[1'é',]".toList ∧ Trivia.Finished "/*'*/ ".toList ∧
      insertBytes? 2 "/*'*/ ".toList "[1'é',]".toList = some "[1/*'*/ 'é',]".toList ∧
      Token.lex "[1/*'*/ 'é',]".toList =
        [⟨.openBracket, ⟨0, 1⟩⟩, ⟨.integer 1, ⟨1, 2⟩⟩, ⟨.string "é", ⟨8, 12⟩⟩,
          ⟨.comma, ⟨12, 13⟩⟩, ⟨.closeBracket, ⟨13, 14⟩⟩] ∧
      (parse "[1/*'*/ 'é',]".toList).mapError ParseError.message =
        (parse "[1'é',]".toList).mapError ParseError.message := by
  have hlegal : Token.Legal "[1'é',]".toList := by decide +kernel
  have hfinished : Trivia.Finished "/*'*/ ".toList :=
    @Trivia.Finished.block ['\''] _ (by decide) (.blank (by decide) .nil)
  have hlex : Token.lex "[1'é',]".toList =
      [⟨.openBracket, ⟨0, 1⟩⟩, ⟨.integer 1, ⟨1, 2⟩⟩] ++ ⟨.string "é", ⟨2, 6⟩⟩ ::
        [⟨.comma, ⟨6, 7⟩⟩, ⟨.closeBracket, ⟨7, 8⟩⟩] := by
    decide +kernel
  have hinsert : insertBytes? 2 "/*'*/ ".toList "[1'é',]".toList =
      some "[1/*'*/ 'é',]".toList := by
    decide +kernel
  obtain ⟨cs', hcs', hlex', hparse⟩ := parse_inserted_trivia hlegal hfinished hlex
  obtain rfl := Option.some.inj (hcs'.symm.trans hinsert)
  exact ⟨hlegal, hfinished, hinsert, hlex', hparse⟩

end Arguments

end FindToSelect
