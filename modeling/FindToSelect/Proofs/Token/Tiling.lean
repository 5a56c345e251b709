import FindToSelect.Proofs.Token.Truncation

/-!
# Tokens tile the text

The spans of the tokens of a text are pieces of it, in order and without overlap, that begin and end
between two characters; and what they leave out is trivia. `Token.Tiling` says so in full, and
`Token.lex_tiles` that it holds of every text. Reading ends on every text, since `Token.lex` is a
function; what is left to say is where its tokens lie.

The spans are numbers of bytes, so that they are places between characters has to be shown: the text
is cut at each token (`Token.exists_cut`), and the places are the lengths of the parts. The gap
before a token is what the text before it has behind its own last token (`Token.trailing`).
-/

namespace FindToSelect.Token

/-- The place behind the last of some tokens, or `offset` if there is none. -/
def endFrom (offset : Nat) : List Token → Nat
  | [] => offset
  | t :: ts => endFrom t.span.stop ts

/-- **The tokens `ts` tile the text `cs`.** -/
structure Tiling (cs : List Char) (ts : List Token) : Prop where
  /-- No token is empty, and none goes past the end of the text. -/
  within : ∀ t ∈ ts, t.span.start < t.span.stop ∧ t.span.stop ≤ byteLength cs
  /-- A token ends before the next one starts. -/
  ordered : ts.Pairwise fun t u => t.span.stop ≤ u.span.start
  /-- The slice of a token is whole characters and, on its own, is read as that token. Every part of
  it is a slice of the text as well. -/
  piece : ∀ t ∈ ts, ∃ piece, sliceBytes? t.span.start t.span.stop cs = some piece ∧
    lex piece = [⟨t.kind, ⟨0, byteLength piece⟩⟩] ∧
    ∀ xs ys zs, piece = xs ++ (ys ++ zs) →
      sliceBytes? (t.span.start + byteLength xs) (t.span.start + byteLength (xs ++ ys)) cs = some ys
  /-- Between two tokens, and before the first, there are blanks and closed comments. -/
  gap : ∀ before t after, ts = before ++ t :: after →
    ∃ w, sliceBytes? (endFrom 0 before) t.span.start cs = some w ∧ Trivia.Finished w
  /-- So there are behind the last token, and perhaps an unclosed comment at the end. -/
  rest : ∃ w, sliceBytes? (endFrom 0 ts) (byteLength cs) cs = some w ∧
    (Trivia.Finished w ∨
      ∃ v opened, w = v ++ '/' :: opened ∧ Trivia.Finished v ∧ Trivia.Unclosed opened)

/-- **The last token ends where the trivia behind it starts.** -/
theorem exists_eq_append_trailing (offset : Nat) (cs : List Char) :
    ∃ xs, cs = xs ++ trailing cs ∧
      endFrom offset (lexFrom offset cs) = offset + byteLength xs := by
  induction cs using textInduction generalizing offset with
  | trivia cs h =>
    refine ⟨[], ?_, ?_⟩
    · rw [trailing_of_drop_eq_nil h, List.nil_append]
    · rw [lexFrom_of_drop_eq_nil h]
      rfl
  | token w c rest hw h0 ih =>
    -- what is left behind the first token has the same last token
    obtain ⟨xs, hxs, hend⟩ := ih
      (offset + byteLength w + byteLength (c :: rest.take (scan c rest).taken))
    refine ⟨w ++ (c :: rest.take (scan c rest).taken ++ xs), ?_, ?_⟩
    · rw [trailing_append_cons hw h0, List.append_assoc, List.append_assoc, ← hxs,
        List.cons_append, List.take_append_drop]
    · rw [lexFrom_finished_append hw, lexFrom_cons h0, endFrom, hend, byteLength_append,
        byteLength_append, Nat.add_assoc, Nat.add_assoc]

theorem exists_cut_of_mem {offset : Nat} {cs : List Char} {t : Token}
    (h : t ∈ lexFrom offset cs) :
    ∃ before after xs piece zs, cs = xs ++ (piece ++ zs) ∧
      Cut offset before t after xs piece zs := by
  obtain ⟨before, after, hsplit⟩ := List.append_of_mem h
  exact ⟨before, after, exists_cut hsplit⟩

/-- No token starts before its text. -/
theorem le_start_of_mem_lexFrom {offset : Nat} {cs : List Char} {t : Token}
    (h : t ∈ lexFrom offset cs) : offset ≤ t.span.start := by
  obtain ⟨_, _, xs, _, _, -, hcut⟩ := exists_cut_of_mem h
  rw [hcut.span]
  exact Nat.le_add_right _ _

/-- **Tokens do not overlap**: each one ends before all later ones start. -/
theorem pairwise_lexFrom (offset : Nat) (cs : List Char) :
    (lexFrom offset cs).Pairwise fun t u => t.span.stop ≤ u.span.start := by
  induction cs using textInduction generalizing offset with
  | trivia cs h =>
    rw [lexFrom_of_drop_eq_nil h]
    exact .nil
  | token w c rest hw h0 ih =>
    rw [lexFrom_finished_append hw, lexFrom_cons h0]
    -- the later tokens are those of a text that starts where the first one ends
    exact .cons (fun u hu => le_start_of_mem_lexFrom hu) (ih _)

theorem byteLength_pos {cs : List Char} (h : cs ≠ []) : 0 < byteLength cs := by
  cases cs with
  | nil => exact absurd rfl h
  | cons c cs =>
    have hc := c.utf8Size_pos
    rw [byteLength]
    omega

/-- **The tokens of every text tile it.** -/
theorem lex_tiles (cs : List Char) : Tiling cs (lex cs) where
  within := by
    intro t ht
    obtain ⟨_, _, xs, piece, zs, rfl, hcut⟩ := exists_cut_of_mem ht
    -- the piece is not empty, and what stands before it and behind it is part of the text
    have hpos := byteLength_pos hcut.piece_ne
    rw [hcut.span]
    simp only [byteLength_append]
    omega
  ordered := pairwise_lexFrom 0 cs
  piece := by
    intro t ht
    obtain ⟨_, _, xs, piece, zs, rfl, hcut⟩ := exists_cut_of_mem ht
    refine ⟨piece, ?_, hcut.own, ?_⟩
    · rw [hcut.span, Nat.zero_add, Nat.zero_add]
      exact sliceBytes?_append xs piece zs
    · -- a part of the token is cut out of the text behind `xs` and the part before it
      rintro as bs ds rfl
      have hslice := sliceBytes?_append (xs ++ as) bs (ds ++ zs)
      rw [hcut.span, Nat.zero_add, ← byteLength_append, ← byteLength_append]
      simpa only [List.append_assoc] using hslice
  gap := by
    intro before t after hsplit
    -- the gap is what `xs`, the text before the token, has behind its last token
    obtain ⟨xs, piece, zs, rfl, hcut⟩ := exists_cut hsplit
    obtain ⟨ys, hys, hend⟩ := exists_eq_append_trailing 0 xs
    refine ⟨trailing xs, ?_, hcut.finished⟩
    rw [hcut.lex_before, Nat.zero_add] at hend
    have hslice := sliceBytes?_append ys (trailing xs) (piece ++ zs)
    rw [← hys, ← List.append_assoc, ← hys, ← hend] at hslice
    rw [hcut.span, Nat.zero_add]
    exact hslice
  rest := by
    -- behind the last token stands what is left when no token follows
    obtain ⟨ys, hys, hend⟩ := exists_eq_append_trailing 0 cs
    refine ⟨trailing cs, ?_, Trivia.finished_or_unclosed (drop_length_trailing cs)⟩
    have hslice := sliceBytes?_append ys (trailing cs) []
    rw [List.append_nil, ← hys, ← Nat.zero_add (byteLength ys), ← hend] at hslice
    exact hslice

end FindToSelect.Token
