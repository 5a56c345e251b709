import FindToSelect.Token.Lexer

/-!
# Trivia that is finished

`Trivia.length` measures whatever trivia a text starts with, an unfinished comment included, which
runs to the end of the text. What stands between two tokens is never unfinished. `Trivia.Finished`
is that kind of trivia, given by rules and not by a measure: blanks, comments closed by their line
feed, and comments closed by their first `*/`.

* `Trivia.Finished.length_append` — the measure goes exactly over finished trivia and on with what
  follows it;
* `Trivia.length_cases` — what the measure stops at: the trivia of a text is finished, or it is all
  of the text and ends in an unclosed comment;
* `Trivia.eq_append_of_drop_length` and `Trivia.finished_or_unclosed` — hence the trivia before a
  token is finished, and the trivia that fills a text is, unless its last comment is unclosed.

The measures of the two kinds of comments are pinned by `lineLength_cases` and `blockLength_cases`:
each either finds the end of its comment, and then the first one, or is the length of the text.
-/

namespace FindToSelect.Trivia

/-- **Finished trivia**: blanks and closed comments, in any order. -/
inductive Finished : List Char → Prop
  | nil : Finished []
  | blank {c : Char} {w : List Char} : Text.isBlank c = true → Finished w → Finished (c :: w)
  /-- The body of a line comment holds no line feed. -/
  | line {body w : List Char} : '\n' ∉ body → Finished w →
      Finished ('/' :: '/' :: (body ++ '\n' :: w))
  /-- The body of a block comment holds no `*/`. -/
  | block {body w : List Char} : ¬ ['*', '/'] <:+: body → Finished w →
      Finished ('/' :: '*' :: (body ++ '*' :: '/' :: w))

/-- **The text behind a slash that opens a comment and never closes it.** -/
inductive Unclosed : List Char → Prop
  | line {body : List Char} : '\n' ∉ body → Unclosed ('/' :: body)
  | block {body : List Char} : ¬ ['*', '/'] <:+: body → Unclosed ('*' :: body)

/-! ### Line comments -/

/-- **A line goes on over characters that are no line feed.** -/
theorem lineLength_append_of_not_mem {body : List Char} (h : '\n' ∉ body) (cs : List Char) :
    lineLength (body ++ cs) = body.length + lineLength cs := by
  induction body with
  | nil => simp
  | cons c body ih =>
    rw [List.mem_cons, not_or] at h
    have hc : c ≠ '\n' := fun e => h.1 e.symm
    simp only [List.cons_append, lineLength, hc, if_false, List.length_cons]
    rw [ih h.2]
    omega

/-- A line is measured up to its first line feed. -/
theorem lineLength_append_newline {body : List Char} (h : '\n' ∉ body) (cs : List Char) :
    lineLength (body ++ '\n' :: cs) = body.length + 1 := by
  rw [lineLength_append_of_not_mem h]
  simp [lineLength]

theorem lineLength_of_not_mem {cs : List Char} (h : '\n' ∉ cs) : lineLength cs = cs.length := by
  have hnil := lineLength_append_of_not_mem h []
  rwa [List.append_nil] at hnil

/-- **A line is closed by its first line feed**, or it is the rest of the text. -/
theorem lineLength_cases (cs : List Char) :
    (∃ body rest, cs = body ++ '\n' :: rest ∧ '\n' ∉ body ∧ lineLength cs = body.length + 1) ∨
      ('\n' ∉ cs ∧ lineLength cs = cs.length) := by
  by_cases h : '\n' ∈ cs
  · obtain ⟨body, rest, rfl, hb⟩ := List.eq_append_cons_of_mem h
    exact Or.inl ⟨body, rest, rfl, hb, lineLength_append_newline hb rest⟩
  · exact Or.inr ⟨h, lineLength_of_not_mem h⟩

/-! ### Block comments -/

theorem blockLength_cons_of_ne {c : Char} (h : c ≠ '*') (cs : List Char) :
    blockLength (c :: cs) = blockLength cs + 1 := by
  cases cs with
  | nil => rfl
  | cons d cs => simp [blockLength, h]

/-- A block is measured up to its first `*/`. -/
theorem blockLength_append_end {body : List Char} (h : ¬ ['*', '/'] <:+: body) (cs : List Char) :
    blockLength (body ++ '*' :: '/' :: cs) = body.length + 2 := by
  induction body with
  | nil => simp [blockLength]
  | cons c body ih =>
    have hb : ¬ ['*', '/'] <:+: body := fun hi => h (hi.trans (List.suffix_cons c body).isInfix)
    have ih := ih hb
    by_cases hc : c = '*'
    · subst hc
      -- the next character is no slash: in the body by `h`, and behind the body by the star there
      cases body with
      | nil => simp [blockLength]
      | cons d body =>
        have hd : d ≠ '/' := by
          rintro rfl
          exact h ⟨[], body, rfl⟩
        simp only [List.cons_append, List.length_cons] at ih ⊢
        simp only [blockLength, hd, and_false, if_false, ih]
    · rw [List.cons_append, blockLength_cons_of_ne hc, ih, List.length_cons]

/-- Without a `*/` it is the rest of the text. -/
theorem blockLength_of_not_infix {cs : List Char} (h : ¬ ['*', '/'] <:+: cs) :
    blockLength cs = cs.length := by
  induction cs with
  | nil => rfl
  | cons c cs ih =>
    have hr : ¬ ['*', '/'] <:+: cs := fun hi => h (hi.trans (List.suffix_cons c cs).isInfix)
    cases cs with
    | nil => rfl
    | cons d cs =>
      -- the end could only be these two characters
      have hcd : ¬ (c = '*' ∧ d = '/') := by
        rintro ⟨rfl, rfl⟩
        exact h ⟨[], cs, rfl⟩
      simp only [blockLength, hcd, if_false]
      rw [ih hr]
      rfl

/-- A text with a `*/` in it has a first one. -/
theorem exists_first_blockEnd {cs : List Char} (h : ['*', '/'] <:+: cs) :
    ∃ body rest, cs = body ++ '*' :: '/' :: rest ∧ ¬ ['*', '/'] <:+: body := by
  induction cs with
  | nil => exact absurd h (by simp)
  | cons c cs ih =>
    by_cases hp : ['*', '/'] <+: c :: cs
    -- the text starts with it, or it is first in the tail too
    · obtain ⟨rest, hrest⟩ := hp
      exact ⟨[], rest, hrest.symm, by simp⟩
    · have hi : ['*', '/'] <:+: cs := (List.infix_cons_iff.1 h).resolve_left hp
      obtain ⟨body, rest, rfl, hb⟩ := ih hi
      refine ⟨c :: body, rest, rfl, fun hc => ?_⟩
      -- it does not stand at the front, nor further inside
      rcases List.infix_cons_iff.1 hc with hc | hc
      · exact hp (hc.trans (List.prefix_append (c :: body) _))
      · exact hb hc

/-- **A block comment is closed by its first `*/`**, or it is the rest of the text. -/
theorem blockLength_cases (cs : List Char) :
    (∃ body rest, cs = body ++ '*' :: '/' :: rest ∧ ¬ ['*', '/'] <:+: body ∧
        blockLength cs = body.length + 2) ∨
      (¬ ['*', '/'] <:+: cs ∧ blockLength cs = cs.length) := by
  by_cases h : ['*', '/'] <:+: cs
  · obtain ⟨body, rest, rfl, hb⟩ := exists_first_blockEnd h
    exact Or.inl ⟨body, rest, rfl, hb, blockLength_append_end hb rest⟩
  · exact Or.inr ⟨h, blockLength_of_not_infix h⟩

/-! ### The measure of trivia -/

@[simp] theorem length_nil : length [] = 0 := by
  simp [length]

/-- A blank is trivia, and what follows is measured by itself. -/
theorem length_cons_of_blank {c : Char} (h : Text.isBlank c = true) (cs : List Char) :
    length (c :: cs) = length cs + 1 := by
  rw [length]
  simp [h]

theorem length_cons_of_not {c : Char} (hb : Text.isBlank c = false) (hs : c ≠ '/')
    (cs : List Char) : length (c :: cs) = 0 := by
  rw [length]
  simp [hb, hs]

theorem not_isBlank_slash : Text.isBlank '/' = false := by
  decide

theorem length_slash_of_comment {cs : List Char} {n : Nat} (h : comment? cs = some n) :
    length ('/' :: cs) = length (cs.drop n) + n + 1 := by
  rw [length]
  simp [not_isBlank_slash, h]

theorem length_slash_of_no_comment {cs : List Char} (h : comment? cs = none) :
    length ('/' :: cs) = 0 := by
  rw [length]
  simp [not_isBlank_slash, h]

/-- **The measure goes over finished trivia** and on with what follows. -/
theorem Finished.length_append {w : List Char} (h : Finished w) (cs : List Char) :
    length (w ++ cs) = w.length + length cs := by
  induction h with
  | nil => simp
  | @blank c w hc _ ih =>
    rw [List.cons_append, length_cons_of_blank hc, ih, List.length_cons]
    omega
  | @line body w hb _ ih =>
    -- the comment is measured up to its line feed, and `ih` speaks of what is left
    have hl : comment? ('/' :: (body ++ '\n' :: (w ++ cs))) = some (body.length + 2) := by
      simp [comment?, lineLength_append_newline hb]
    have hd : ('/' :: (body ++ '\n' :: (w ++ cs))).drop (body.length + 2) = w ++ cs := by
      rw [List.drop_succ_cons, List.drop_append]
      simp
    simp only [List.cons_append, List.append_assoc, List.length_cons, List.length_append]
    rw [length_slash_of_comment hl, hd, ih]
    omega
  | @block body w hb _ ih =>
    -- the same with the first `*/` for the line feed
    have hl : comment? ('*' :: (body ++ '*' :: '/' :: (w ++ cs))) = some (body.length + 3) := by
      simp [comment?, blockLength_append_end hb]
    have hd : ('*' :: (body ++ '*' :: '/' :: (w ++ cs))).drop (body.length + 3) = w ++ cs := by
      rw [List.drop_succ_cons, List.drop_append]
      simp
    simp only [List.cons_append, List.append_assoc, List.length_cons, List.length_append]
    rw [length_slash_of_comment hl, hd, ih]
    omega

/-! ### What the measure stops at -/

/-- **A comment is closed**, and then it may stand in finished trivia, **or it is the rest of the
text.** -/
theorem comment?_cases {cs : List Char} {n : Nat} (h : comment? cs = some n) :
    (∃ opened rest, cs = opened ++ rest ∧ n = opened.length ∧
        ∀ w, Finished w → Finished ('/' :: (opened ++ w))) ∨
      (Unclosed cs ∧ n = cs.length) := by
  cases cs with
  | nil => simp [comment?] at h
  | cons c cs =>
    -- a second slash opens a comment to the end of the line, and a star one to its `*/`
    by_cases hl : c = '/'
    · subst hl
      simp only [comment?, if_true, Option.some.injEq] at h
      rcases lineLength_cases cs with ⟨body, rest, rfl, hb, hn⟩ | ⟨hb, hn⟩
      · refine Or.inl ⟨'/' :: (body ++ ['\n']), rest, by simp, by simp [← h, hn], fun w hw => ?_⟩
        simpa using Finished.line hb hw
      · exact Or.inr ⟨.line hb, by rw [← h, hn, List.length_cons]⟩
    · by_cases hs : c = '*'
      · subst hs
        simp only [comment?, hl, if_false, if_true, Option.some.injEq] at h
        rcases blockLength_cases cs with ⟨body, rest, rfl, hb, hn⟩ | ⟨hb, hn⟩
        · refine Or.inl ⟨'*' :: (body ++ ['*', '/']), rest, by simp, by simp [← h, hn],
            fun w hw => ?_⟩
          simpa using Finished.block hb hw
        · exact Or.inr ⟨.block hb, by rw [← h, hn, List.length_cons]⟩
      · simp [comment?, hl, hs] at h

/-- **The trivia of a text is finished** and no more trivia starts behind it, **or it is all of the
text** and ends in an unclosed comment. -/
theorem length_cases (cs : List Char) :
    (∃ w rest, cs = w ++ rest ∧ Finished w ∧ length cs = w.length ∧ length rest = 0) ∨
      (length cs = cs.length ∧
        ∃ w opened, cs = w ++ '/' :: opened ∧ Finished w ∧ Unclosed opened) := by
  -- along the recursion of the measure: a blank, a comment, or what starts no trivia
  fun_induction length cs with
  | case1 => exact Or.inl ⟨[], [], rfl, .nil, rfl, length_nil⟩
  | case2 c cs hc ih =>
    rcases ih with ⟨w, rest, rfl, hw, hl, hr⟩ | ⟨hl, w, opened, rfl, hw, ho⟩
    · exact Or.inl ⟨c :: w, rest, rfl, .blank hc hw, by rw [hl, List.length_cons], hr⟩
    · exact Or.inr ⟨by rw [hl, List.length_cons], c :: w, opened, rfl, .blank hc hw, ho⟩
  | case3 cs n hn hb ih =>
    rcases comment?_cases hn with ⟨opened, rest, rfl, rfl, hclose⟩ | ⟨hu, rfl⟩
    · -- a closed comment goes to the front of whatever the rest starts with
      rw [List.drop_left] at ih ⊢
      rcases ih with ⟨w, rest, rfl, hw, hl, hr⟩ | ⟨hl, w, opened', rfl, hw, ho⟩
      · refine Or.inl ⟨'/' :: (opened ++ w), rest, by simp, hclose w hw, ?_, hr⟩
        simp only [hl, List.length_cons, List.length_append]
        omega
      · refine Or.inr ⟨?_, '/' :: (opened ++ w), opened', by simp, hclose w hw, ho⟩
        rw [hl]
        simp only [List.length_cons, List.length_append]
        omega
    · -- an unclosed comment is the rest of the text
      refine Or.inr ⟨?_, [], cs, rfl, .nil, hu⟩
      rw [List.drop_length, length_nil, List.length_cons]
      omega
  | case4 cs hn hb => exact Or.inl ⟨[], '/' :: cs, rfl, .nil, rfl, length_slash_of_no_comment hn⟩
  | case5 c cs hb hs =>
    exact Or.inl ⟨[], c :: cs, rfl, .nil, rfl, length_cons_of_not (by simpa using hb) hs cs⟩

/-- **The trivia before a token is finished**, and the token starts no trivia. -/
theorem eq_append_of_drop_length {cs rest : List Char} {c : Char}
    (h : cs.drop (length cs) = c :: rest) :
    ∃ w, cs = w ++ c :: rest ∧ Finished w ∧ length (c :: rest) = 0 := by
  rcases length_cases cs with ⟨w, rest', rfl, hw, hl, hr⟩ | ⟨hl, -⟩
  · rw [hl, List.drop_left] at h
    subst h
    exact ⟨w, rfl, hw, hr⟩
  · -- behind trivia that is all of the text there is no token
    rw [hl, List.drop_length] at h
    exact absurd h (by simp)

/-- **Trivia that fills a text is finished** or ends in an unclosed comment. -/
theorem finished_or_unclosed {cs : List Char} (h : cs.drop (length cs) = []) :
    Finished cs ∨ ∃ w opened, cs = w ++ '/' :: opened ∧ Finished w ∧ Unclosed opened := by
  rcases length_cases cs with ⟨w, rest, rfl, hw, hl, -⟩ | ⟨-, ho⟩
  · rw [hl, List.drop_left] at h
    subst h
    exact Or.inl (by simpa using hw)
  · exact Or.inr ho

end FindToSelect.Trivia
