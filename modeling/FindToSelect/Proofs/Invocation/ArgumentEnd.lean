import FindToSelect.Invocation
import FindToSelect.Proofs.Token.Locality

/-!
# Where an argument list ends

Two scans read the text of an argument list. The search for the closing parenthesis (`closing?`)
knows quoted text and comments and nothing else; reading tokens (`Token.lex`) knows the whole
language. They are written apart and must agree on what quoted text and comments are, or a query is
cut at the wrong parenthesis.

They agree because the search goes over whatever reading goes over, in the same steps:

* `Passes w` — the search goes over `w` as if it were not there. Finished trivia is passed
  (`Passes.of_finished`), and so are characters that the search does not know
  (`Passes.of_forall_not_mark`);
* `quotedLength_eq_of_body` — a closed string literal ends at the same quote for both, since what an
  escape takes behind its first character is never a quote or a backslash;
* `closing?_append_of_legal` — hence the search goes over all tokens of a text without `illegal`
  tokens, and comes to the trivia behind the last of them;
* `not_endsInComment_of_closing?` — if the search then finds a parenthesis right behind that trivia,
  the trivia is finished, because an unclosed comment swallows the parenthesis.

`Invocation.ofText_eq_ok_iff` says when an invocation is taken apart and into what;
`Invocation.split_agrees_with_lex` is the agreement, in both directions.
-/

namespace FindToSelect

/-! ### One step of the search -/

/-- The characters that the search for the closing parenthesis looks at. -/
def closingMarks : List Char := ['"', '\'', '/', '(', ')']

theorem map_add_map_add (o : Option Nat) (m n : Nat) :
    (o.map (· + m)).map (· + n) = o.map (· + (m + n)) := by
  cases o with
  | none => rfl
  | some k => simp [Nat.add_assoc]

/-- Quoted text is gone over in one step. -/
theorem closing?_quote {c : Char} (h : c = '"' ∨ c = '\'') (depth : Nat) (cs : List Char) :
    closing? depth (c :: cs) =
      (closing? depth (cs.drop (quotedLength c cs))).map (· + (quotedLength c cs + 1)) := by
  rw [closing?.eq_def]
  simp only [h, if_true, Nat.add_assoc]

/-- A slash is gone over together with the comment that it opens. -/
theorem closing?_slash (depth : Nat) (cs : List Char) :
    closing? depth ('/' :: cs) =
      (closing? depth (cs.drop (skippedLength cs))).map (· + (skippedLength cs + 1)) := by
  rw [closing?.eq_def]
  simp [Nat.add_assoc]

/-- A character that is no mark is gone over by itself. -/
theorem closing?_of_not_mark {c : Char} (h : c ∉ closingMarks) (depth : Nat) (cs : List Char) :
    closing? depth (c :: cs) = (closing? depth cs).map (· + 1) := by
  simp only [closingMarks, List.mem_cons, List.not_mem_nil, or_false, not_or] at h
  rw [closing?.eq_def]
  simp [h]

@[simp] theorem closing?_close (cs : List Char) : closing? 0 (')' :: cs) = some 0 := by
  rw [closing?.eq_def]
  simp

/-- **One step of the search**: it is at its end, or it goes on some characters further. -/
theorem closing?_cons_cases (depth : Nat) (c : Char) (cs : List Char) :
    (c = ')' ∧ closing? depth (c :: cs) = some 0) ∨
      ∃ depth' k, closing? depth (c :: cs) = (closing? depth' (cs.drop k)).map (· + (k + 1)) := by
  by_cases hq : c = '"' ∨ c = '\''
  · exact Or.inr ⟨depth, _, closing?_quote hq depth cs⟩
  by_cases hs : c = '/'
  · subst hs
    exact Or.inr ⟨depth, _, closing?_slash depth cs⟩
  by_cases ho : c = '('
  · refine Or.inr ⟨depth + 1, 0, ?_⟩
    rw [closing?.eq_def]
    simp [ho]
  by_cases hc : c = ')'
  · subst hc
    cases depth with
    | zero => exact Or.inl ⟨rfl, closing?_close cs⟩
    | succ depth =>
      refine Or.inr ⟨depth, 0, ?_⟩
      rw [closing?.eq_def]
      simp
  · have hm : c ∉ closingMarks := by
      rw [not_or] at hq
      simp [closingMarks, hq, hs, ho, hc]
    exact Or.inr ⟨depth, 0, by rw [closing?_of_not_mark hm, List.drop_zero]⟩

/-- What the search finds is a closing parenthesis. -/
theorem exists_of_closing? {depth n : Nat} {cs : List Char} (h : closing? depth cs = some n) :
    ∃ xs s, cs = xs ++ ')' :: s ∧ xs.length = n := by
  -- a step may go on several characters, so the induction is on the length
  induction hl : cs.length using Nat.strongRecOn generalizing depth n cs with
  | ind l ih =>
    cases cs with
    | nil =>
      rw [closing?.eq_def] at h
      cases h
    | cons c cs =>
      rcases closing?_cons_cases depth c cs with ⟨rfl, he⟩ | ⟨depth', k, he⟩
      · obtain rfl : 0 = n := Option.some.inj (he.symm.trans h)
        exact ⟨[], cs, rfl, rfl⟩
      · rw [he] at h
        obtain ⟨m, hm, rfl⟩ := Option.map_eq_some_iff.1 h
        have hlt : (cs.drop k).length < l := by
          rw [← hl, List.length_drop, List.length_cons]
          omega
        obtain ⟨xs, s, hxs, rfl⟩ := ih _ hlt hm rfl
        -- `k` characters could be skipped, since something is left
        have hk : k ≤ cs.length := by
          refine Nat.le_of_not_lt fun hlt => ?_
          rw [List.drop_eq_nil_of_le (Nat.le_of_lt hlt)] at hxs
          exact absurd hxs (by simp)
        refine ⟨c :: (cs.take k ++ xs), s, ?_, ?_⟩
        · rw [List.cons_append, List.append_assoc, ← hxs, List.take_append_drop]
        · rw [List.length_cons, List.length_append, List.length_take, Nat.min_eq_left hk]
          omega

/-! ### What the search goes over -/

/-- **The search for the closing parenthesis goes over `xs`** as if it were not there. -/
def Passes (xs : List Char) : Prop :=
  ∀ depth ys, closing? depth (xs ++ ys) = (closing? depth ys).map (· + xs.length)

namespace Passes

theorem nil : Passes [] := by
  intro depth ys
  simp

/-- What is passed can be put together. -/
theorem append {xs ys : List Char} (hx : Passes xs) (hy : Passes ys) : Passes (xs ++ ys) := by
  intro depth zs
  rw [List.append_assoc, hx, hy, map_add_map_add, List.length_append, Nat.add_comm]

/-- Characters without a mark are passed. -/
theorem of_forall_not_mark {xs : List Char} (h : ∀ c ∈ xs, c ∉ closingMarks) : Passes xs := by
  induction xs with
  | nil => exact nil
  | cons c xs ih =>
    intro depth ys
    rw [List.forall_mem_cons] at h
    rw [List.cons_append, closing?_of_not_mark h.1, ih h.2, map_add_map_add, List.length_cons]

/-- A comment is passed if the search measures it right. -/
theorem of_skippedLength {cs : List Char} (h : ∀ ys, skippedLength (cs ++ ys) = cs.length) :
    Passes ('/' :: cs) := by
  intro depth ys
  rw [List.cons_append, closing?_slash, h, List.drop_left, List.length_cons]

end Passes

/-- Counting the star before the text, both measures of a block comment agree. -/
theorem starredLength_eq (cs : List Char) :
    starredLength false cs = Trivia.blockLength cs ∧
      starredLength true cs + 1 = Trivia.blockLength ('*' :: cs) := by
  induction cs with
  | nil => exact ⟨rfl, rfl⟩
  | cons c cs ih =>
    -- only a star changes how the comment goes on
    have hfalse : starredLength false (c :: cs) = Trivia.blockLength (c :: cs) := by
      by_cases hc : c = '*'
      · subst hc
        simpa [starredLength] using ih.2
      · have hb : (c == '*') = false := beq_eq_false_iff_ne.2 hc
        rw [Trivia.blockLength_cons_of_ne hc, ← ih.1]
        simp [starredLength, hb]
    refine ⟨hfalse, ?_⟩
    -- behind a star a slash ends the comment, and any other character goes on as behind no star
    by_cases hs : c = '/'
    · simp [starredLength, Trivia.blockLength, hs]
    · simp only [Trivia.blockLength, hs, and_false, if_false, ← hfalse]
      simp [starredLength, hs]

/-- A line comment is measured as its trivia is. -/
theorem skippedLength_line (cs : List Char) :
    skippedLength ('/' :: cs) = Trivia.lineLength cs + 1 := by
  simp [skippedLength, Trivia.lineLength]

theorem skippedLength_block (cs : List Char) :
    skippedLength ('*' :: cs) = Trivia.blockLength cs + 1 := by
  simp [skippedLength, (starredLength_eq cs).1]

/-- **Finished trivia is passed.** -/
theorem Passes.of_finished {w : List Char} (h : Trivia.Finished w) : Passes w := by
  induction h with
  | nil => exact nil
  | @blank c w hc _ ih =>
    -- no mark is a blank
    have hm : c ∉ closingMarks := by
      intro hm
      have hall : closingMarks.all (fun d => !Text.isBlank d) = true := by decide
      have hblank := List.all_eq_true.1 hall c hm
      rw [hc] at hblank
      cases hblank
    have hp : Passes [c] := of_forall_not_mark (by simpa using hm)
    exact hp.append ih
  | @line body w hb _ ih =>
    -- the comment with its line feed, then the trivia behind it
    have hp : Passes ('/' :: ('/' :: (body ++ ['\n']))) := by
      refine of_skippedLength fun ys => ?_
      rw [List.cons_append, List.append_assoc, skippedLength_line, List.singleton_append,
        Trivia.lineLength_append_newline hb]
      simp
    simpa using hp.append ih
  | @block body w hb _ ih =>
    have hp : Passes ('/' :: ('*' :: (body ++ ['*', '/']))) := by
      refine of_skippedLength fun ys => ?_
      rw [List.cons_append, List.append_assoc, skippedLength_block, List.cons_append,
        List.singleton_append, Trivia.blockLength_append_end hb]
      simp
    simpa using hp.append ih

/-! ### String literals -/

theorem quotedLength_quote (quote : Char) (cs : List Char) :
    quotedLength quote (quote :: cs) = 1 := by
  rw [quotedLength.eq_def]
  simp

theorem quotedLength_cons {quote c : Char} (hq : c ≠ quote) (hb : c ≠ '\\') (cs : List Char) :
    quotedLength quote (c :: cs) = quotedLength quote cs + 1 := by
  rw [quotedLength.eq_def]
  simp [hq, hb]

/-- Characters other than the quote and the backslash are counted one by one. -/
theorem quotedLength_append {quote : Char} {more : List Char}
    (h : ∀ d ∈ more, d ≠ quote ∧ d ≠ '\\') (rest : List Char) :
    quotedLength quote (more ++ rest) = quotedLength quote rest + more.length := by
  induction more with
  | nil => simp
  | cons d more ih =>
    rw [List.forall_mem_cons] at h
    rw [List.cons_append, quotedLength_cons h.1.1 h.1.2, ih h.2, List.length_cons, Nat.add_assoc]

/-- A backslash is counted with the character behind it, whatever that is. -/
theorem quotedLength_backslash {quote : Char} (hq : quote ≠ '\\') (c : Char) (cs : List Char) :
    quotedLength quote ('\\' :: c :: cs) = quotedLength quote cs + 2 := by
  rw [quotedLength.eq_def]
  simp [hq.symm]

/-- **What an escape takes behind its first character** is hexadecimal digits or a line feed. -/
theorem StringLiteral.exists_of_escape {c : Char} {cs : List Char} {item : Text.Item} {n : Nat}
    (h : escape (c :: cs) = (some item, n)) :
    ∃ more rest, cs = more ++ rest ∧ n = more.length + 1 ∧
      ∀ d ∈ more, Text.isHexDigit d = true ∨ d = '\n' := by
  have hhex : ∀ k v, Text.hex? k cs = some v → k + 1 = n → ∃ more rest, cs = more ++ rest ∧
      n = more.length + 1 ∧ ∀ d ∈ more, Text.isHexDigit d = true ∨ d = '\n' := by
    intro k v hv hn
    simp only [Text.hex?] at hv
    split at hv
    · next hd =>
      refine ⟨cs.take k, cs.drop k, (List.take_append_drop k cs).symm, ?_, fun d hm => ?_⟩
      · rw [hd.1, hn]
      · exact Or.inl (List.all_eq_true.1 hd.2 d hm)
    · exact absurd hv (by simp)
  -- every other escape takes its first character and nothing else
  have hnone : 1 = n → ∃ more rest, cs = more ++ rest ∧ n = more.length + 1 ∧
      ∀ d ∈ more, Text.isHexDigit d = true ∨ d = '\n' :=
    fun hn => ⟨[], cs, rfl, hn.symm, by simp⟩
  simp only [escape] at h
  split at h
  · -- `x` takes two digits
    cases hv : Text.hex? 2 cs with
    | none => rw [hv] at h; exact absurd h (by simp)
    | some v => rw [hv] at h; exact hhex 2 v hv (Prod.mk.inj h).2
  split at h
  · -- `u` takes four
    cases hv : Text.hex? 4 cs with
    | none => rw [hv] at h; exact absurd h (by simp)
    | some v => rw [hv] at h; exact hhex 4 v hv (Prod.mk.inj h).2
  split at h
  · -- a carriage return takes the line feed behind it
    have hn := (Prod.mk.inj h).2
    split at hn
    · next hh =>
      obtain ⟨rest, rfl⟩ := List.head?_eq_some_iff.1 hh
      exact ⟨['\n'], rest, rfl, hn.symm, by simp⟩
    · exact hnone hn
  split at h
  · exact hnone (Prod.mk.inj h).2
  · exact hnone (Prod.mk.inj h).2

/-- **A closed string literal ends at the same quote for both scans.** -/
theorem quotedLength_eq_of_body {quote : Char} (hq : quote = '"' ∨ quote = '\'')
    {cs : List Char} {items : List Text.Item} (h : (StringLiteral.body quote cs).1 = some items) :
    quotedLength quote cs = (StringLiteral.body quote cs).2 := by
  have hqb : quote ≠ '\\' := by rcases hq with rfl | rfl <;> decide
  fun_induction StringLiteral.body quote cs generalizing items with
  -- the end of the text, a line feed and a broken escape close no literal
  | case1 => exact absurd h (by simp)
  | case2 cs => exact quotedLength_quote quote cs
  | case3 => exact absurd h (by simp)
  | case4 => exact absurd h (by simp)
  | case5 cs item n he rest hne =>
    -- an escape: the search takes two characters and goes on one by one
    rename_i ih
    obtain ⟨items', hi, -⟩ := Option.map_eq_some_iff.1 h
    cases cs with
    | nil => exact absurd he (by simp [StringLiteral.escape])
    | cons c cs =>
      obtain ⟨more, cs', rfl, rfl, hmore⟩ := StringLiteral.exists_of_escape he
      -- neither a hexadecimal digit nor a line feed is a quote or a backslash
      have hplain : ∀ d ∈ more, d ≠ quote ∧ d ≠ '\\' := by
        have hhex : Text.isHexDigit '"' = false ∧ Text.isHexDigit '\'' = false ∧
            Text.isHexDigit '\\' = false := by decide
        intro d hd
        constructor <;> rintro rfl
        · rcases hq with rfl | rfl <;> rcases hmore _ hd with hx | hx <;> simp_all
        · rcases hmore _ hd with hx | hx <;> simp_all
      have hrest : rest = StringLiteral.body quote cs' := by
        simp only [rest, List.drop_succ_cons, List.drop_left]
      rw [List.drop_succ_cons, List.drop_left] at ih
      rw [quotedLength_backslash hqb, quotedLength_append hplain, ih (hrest ▸ hi), ← hrest]
      omega
  | case6 c cs hc hn hb rest =>
    rename_i ih
    obtain ⟨items', hi, -⟩ := Option.map_eq_some_iff.1 h
    rw [quotedLength_cons hc hb, ih hi]

/-! ### Tokens -/

/-- No character of a numeral or a word is a mark. -/
theorem not_mem_closingMarks_of_isPart {d : Char} (h : Numeral.isPart d = true) :
    d ∉ closingMarks := by
  intro hm
  have hall : closingMarks.all (fun c => !Numeral.isPart c) = true := by decide +kernel
  have hpart := List.all_eq_true.1 hall d hm
  rw [h] at hpart
  cases hpart

/-- No token but a string literal starts with a mark. -/
theorem not_mem_closingMarks_of_scan {c : Char} {cs : List Char}
    (hq : ¬ (c = '"' ∨ c = '\'')) (hk : (Token.scan c cs).kind ≠ .illegal) :
    c ∉ closingMarks := by
  intro hm
  refine hk ?_
  have hparen : Word.isStart '(' = false ∧ Word.isStart ')' = false := by decide +kernel
  simp only [closingMarks, List.mem_cons, List.not_mem_nil, or_false] at hm
  rcases hm with rfl | rfl | rfl | rfl | rfl
  · exact absurd (Or.inl rfl) hq
  · exact absurd (Or.inr rfl) hq
  · exact Token.scan_slash cs
  · simp [Token.scan, TokenKind.ofPunctuation?, hparen.1]
  · simp [Token.scan, TokenKind.ofPunctuation?, hparen.2]

/-- **The search goes over a token.** -/
theorem closing?_token {c : Char} {rest : List Char} (hk : (Token.scan c rest).kind ≠ .illegal)
    (depth : Nat) (ys : List Char) :
    closing? depth (c :: (rest ++ ys)) =
      (closing? depth (rest.drop (Token.scan c rest).taken ++ ys)).map
        (· + ((Token.scan c rest).taken + 1)) := by
  by_cases hq : c = '"' ∨ c = '\''
  · -- a string literal, whose length both scans measure
    have hp : TokenKind.ofPunctuation? c = none := by rcases hq with rfl | rfl <;> rfl
    have hscan : Token.scan c rest = StringLiteral.scan c rest := by
      simp only [Token.scan, hp, if_pos hq]
    have hle := Token.scan_taken_le c rest
    rw [hscan] at hk hle ⊢
    rcases hb : StringLiteral.body c rest with ⟨_ | items, n⟩
    · exact absurd (by simp [StringLiteral.scan, hb]) hk
    -- the literal is closed, so what follows it does not change where it ends
    · have happ : StringLiteral.body c (rest ++ ys) = (some items, n) := by
        rw [StringLiteral.body_append (by rw [hb]), hb]
      have hlen : quotedLength c (rest ++ ys) = n := by
        rw [quotedLength_eq_of_body hq (by rw [happ]), happ]
      have htaken : (StringLiteral.scan c rest).taken = n := by simp [StringLiteral.scan, hb]
      rw [htaken] at hle ⊢
      rw [closing?_quote hq, hlen, List.drop_append_of_le_length hle]
  · -- any other token, none of whose characters is a mark
    have ht := Token.scan_takes hq rest
    have hp : Passes (c :: rest.take (Token.scan c rest).taken) := by
      refine Passes.of_forall_not_mark (List.forall_mem_cons.2 ⟨?_, fun d hd => ?_⟩)
      · exact not_mem_closingMarks_of_scan hq hk
      · exact not_mem_closingMarks_of_isPart (ht.2 d hd)
    have hpass := hp depth (rest.drop (Token.scan c rest).taken ++ ys)
    rw [List.cons_append, ← List.append_assoc, List.take_append_drop] at hpass
    rw [hpass, List.length_cons, List.length_take, Nat.min_eq_left ht.1]

/-- **The search goes over all tokens** of a text without `illegal` tokens, and on with the trivia
behind the last one. -/
theorem closing?_append_of_legal {xs : List Char} (h : Token.Legal xs) :
    ∃ before, xs = before ++ Token.trailing xs ∧ ∀ depth ys,
      closing? depth (xs ++ ys) =
        (closing? depth (Token.trailing xs ++ ys)).map (· + before.length) := by
  induction xs using Token.textInduction with
  | trivia xs ht =>
    -- no token to go over
    refine ⟨[], by rw [Token.trailing_of_drop_eq_nil ht]; rfl, fun depth ys => ?_⟩
    rw [Token.trailing_of_drop_eq_nil ht]
    simp
  | token w c rest hw h0 ih =>
    obtain ⟨hk, hl⟩ := (Token.legal_append_cons_iff hw h0).1 h
    obtain ⟨before, hb, hpass⟩ := ih hl
    have hle := Token.scan_taken_le c rest
    rw [Token.trailing_append_cons hw h0]
    refine ⟨w ++ c :: (rest.take (Token.scan c rest).taken ++ before), ?_, fun depth ys => ?_⟩
    · rw [List.append_assoc, List.cons_append, List.append_assoc, ← hb, List.take_append_drop]
    · -- over the trivia, over the token, and then by the induction hypothesis
      rw [List.append_assoc, List.cons_append, Passes.of_finished hw, closing?_token hk, hpass,
        map_add_map_add, map_add_map_add]
      have hlen : before.length + ((Token.scan c rest).taken + 1 + w.length) =
          (w ++ c :: (rest.take (Token.scan c rest).taken ++ before)).length := by
        simp only [List.length_append, List.length_cons, List.length_take, Nat.min_eq_left hle]
        omega
      rw [hlen]

/-! ### Unclosed comments -/

/-- **An unclosed comment swallows a parenthesis behind it.** -/
theorem length_lt_skippedLength {opened : List Char} (h : Trivia.Unclosed opened)
    (s : List Char) : opened.length < skippedLength (opened ++ ')' :: s) := by
  cases h with
  | @line body hb =>
    -- the body has no line feed, so the comment goes on at least over the parenthesis
    rw [List.cons_append, skippedLength_line, Trivia.lineLength_append_of_not_mem hb,
      List.length_cons]
    simp only [Trivia.lineLength]
    split <;> omega
  | @block body hb =>
    rw [List.cons_append, skippedLength_block, List.length_cons]
    rcases Trivia.blockLength_cases (body ++ ')' :: s) with ⟨body', rest, he, -, hl⟩ | ⟨-, hl⟩
    · -- a `*/` that ends within `body` would be in it
      rw [hl]
      refine Nat.succ_lt_succ (Nat.lt_of_not_le fun hle => hb ?_)
      have hs : body' ++ ['*', '/'] <+: body ++ ')' :: s := ⟨rest, by rw [he]; simp⟩
      have hp : body' ++ ['*', '/'] <+: body :=
        List.prefix_of_prefix_length_le hs (List.prefix_append _ _) (by simpa using hle)
      exact (List.suffix_append body' ['*', '/']).isInfix.trans hp.isInfix
    · rw [hl, List.length_append, List.length_cons]
      omega

/-- **A parenthesis that the search finds right behind a text ends no comment of it.** -/
theorem not_endsInComment_of_closing? {xs s : List Char} (hl : Token.Legal xs)
    (h : closing? 0 (xs ++ ')' :: s) = some xs.length) : ¬ Token.EndsInComment xs := by
  rintro ⟨w, opened, ht, hw, ho⟩
  -- the search comes to the unclosed comment, and what it finds lies behind the comment
  obtain ⟨before, hb, hpass⟩ := closing?_append_of_legal hl
  rw [hpass, ht, List.append_assoc, Passes.of_finished hw, List.cons_append, closing?_slash,
    map_add_map_add, map_add_map_add] at h
  obtain ⟨n, -, hn⟩ := Option.map_eq_some_iff.1 h
  have hlong := length_lt_skippedLength ho s
  have hlen : xs.length = before.length + (w.length + (opened.length + 1)) := by
    rw [hb, ht]
    simp
  omega

/-- **The closing parenthesis of a text that can be read** stands right behind it. -/
theorem closing?_append_close_of_finished {xs : List Char} (hl : Token.Legal xs)
    (hf : Trivia.Finished (Token.trailing xs)) (s : List Char) :
    closing? 0 (xs ++ ')' :: s) = some xs.length := by
  obtain ⟨before, hb, hpass⟩ := closing?_append_of_legal hl
  rw [hpass, Passes.of_finished hf, closing?_close, map_add_map_add]
  have hlen : (Token.trailing xs).length + before.length = xs.length := by
    rw [Nat.add_comm, ← List.length_append, ← hb]
  rw [hlen, Option.map_some, Nat.zero_add]

/-- The same by how the text ends. -/
theorem closing?_append_close {xs : List Char} (hl : Token.Legal xs)
    (he : ¬ Token.EndsInComment xs) (s : List Char) :
    closing? 0 (xs ++ ')' :: s) = some xs.length :=
  closing?_append_close_of_finished hl (Token.finished_trailing he) s

/-! ### Taking an invocation apart -/

/-- **A text is split at the first place** where the character stands. -/
theorem splitFirst?_eq_some_iff {c : Char} {cs before behind : List Char} :
    splitFirst? c cs = some (before, behind) ↔ cs = before ++ c :: behind ∧ c ∉ before := by
  induction cs generalizing before with
  | nil => simp [splitFirst?]
  | cons d cs ih =>
    -- the first character is the one, or it goes to the part before
    by_cases hd : d = c
    · subst hd
      simp only [splitFirst?, if_true, Option.some.injEq, Prod.mk.injEq]
      constructor
      · rintro ⟨rfl, rfl⟩
        exact ⟨rfl, by simp⟩
      · rintro ⟨he, hn⟩
        cases before with
        | nil => exact ⟨rfl, (List.cons.inj he).2⟩
        | cons b before => exact absurd (by rw [(List.cons.inj he).1]; simp) hn
    · simp only [splitFirst?, hd, if_false, Option.map_eq_some_iff, Prod.mk.injEq, Prod.exists]
      constructor
      · rintro ⟨before', behind', hs, rfl, rfl⟩
        obtain ⟨rfl, hn⟩ := ih.1 hs
        exact ⟨rfl, by simp [hn, Ne.symm hd]⟩
      · rintro ⟨he, hn⟩
        cases before with
        | nil => exact absurd (List.cons.inj he).1 hd
        | cons b before =>
          obtain ⟨rfl, rfl⟩ := List.cons.inj he
          exact ⟨before, behind, ih.2 ⟨rfl, fun hm => hn (List.mem_cons_of_mem _ hm)⟩, rfl, rfl⟩

namespace Invocation

/-- **When a call is taken apart, and into what.** -/
theorem ofCall_eq_ok_iff {collection call : List Char} {i : Invocation} :
    ofCall collection call = .ok i ↔
      ∃ rest n, call = findMethod.toList ++ '(' :: rest ∧ closing? 0 rest = some n ∧
        i = ⟨String.ofList collection, String.ofList (rest.take n),
          ignoredText (rest.drop (n + 1))⟩ := by
  have hfind : '(' ∉ findMethod.toList := by decide
  constructor
  · intro h
    -- from left to right: a parenthesis, the method, and the end of its arguments
    unfold ofCall at h
    split at h
    · exact absurd h (by simp)
    · next method rest hs =>
      obtain ⟨rfl, -⟩ := splitFirst?_eq_some_iff.1 hs
      split at h
      · exact absurd h (by simp)
      · next hm =>
        split at h
        · exact absurd h (by simp)
        · next n hn =>
          rw [Decidable.not_not.1 hm]
          exact ⟨rest, n, rfl, hn, (Except.ok.inj h).symm⟩
  · rintro ⟨rest, n, rfl, hn, rfl⟩
    have hs := splitFirst?_eq_some_iff.2 ⟨(rfl : findMethod.toList ++ '(' :: rest = _), hfind⟩
    simp [ofCall, hs, hn]

/-- **When a text is an invocation, and what it is taken apart into.** -/
theorem ofText_eq_ok_iff {text : List Char} {i : Invocation} :
    ofText text = .ok i ↔
      ∃ collection rest n,
        text = ['d', 'b'] ++ '.' :: (collection ++ '.' :: (findMethod.toList ++ '(' :: rest)) ∧
          collection ≠ [] ∧ '.' ∉ collection ∧ closing? 0 rest = some n ∧
          i = ⟨String.ofList collection, String.ofList (rest.take n),
            ignoredText (rest.drop (n + 1))⟩ := by
  constructor
  · intro h
    -- from left to right: the two periods, `db`, the collection, and the call behind it
    unfold ofText at h
    split at h
    · exact absurd h (by simp)
    split at h
    · exact absurd h (by simp)
    · next start rest hs =>
      obtain ⟨rfl, -⟩ := splitFirst?_eq_some_iff.1 hs
      split at h
      · exact absurd h (by simp)
      · next hstart =>
        split at h
        · exact absurd h (by simp)
        · next collection call hc =>
          obtain ⟨rfl, hdot⟩ := splitFirst?_eq_some_iff.1 hc
          split at h
          · exact absurd h (by simp)
          · next hne =>
            obtain ⟨rest, n, rfl, hn, rfl⟩ := ofCall_eq_ok_iff.1 h
            rw [Decidable.not_not.1 hstart]
            exact ⟨collection, rest, n, rfl, hne, hdot, hn, rfl⟩
  · rintro ⟨collection, rest, n, rfl, hne, hdot, hn, rfl⟩
    have hs := splitFirst?_eq_some_iff.2 ⟨(rfl : ['d', 'b'] ++ '.' ::
      (collection ++ '.' :: (findMethod.toList ++ '(' :: rest)) = _), by decide⟩
    have hc := splitFirst?_eq_some_iff.2
      ⟨(rfl : collection ++ '.' :: (findMethod.toList ++ '(' :: rest) = _), hdot⟩
    have hcall : ofCall collection (findMethod.toList ++ '(' :: rest) = .ok ⟨_, _, _⟩ :=
      ofCall_eq_ok_iff.2 ⟨rest, n, rfl, hn, rfl⟩
    unfold ofText
    rw [hs]
    simp [hc, hne, hcall]

end Invocation

/-- Blanks are cut off behind the last character that is none. -/
theorem Text.trimEnd_append_cons {c : Char} (h : isBlank c = false) (xs s : List Char) :
    trimEnd (xs ++ c :: s) = xs ++ c :: trimEnd s := by
  unfold trimEnd
  rw [List.reverse_append, List.reverse_cons, List.append_assoc, List.dropWhile_append]
  -- what is behind the character may be blank all over
  split
  · next he =>
    have hd : s.reverse.dropWhile isBlank = [] := by simpa using he
    rw [List.singleton_append, List.dropWhile_cons_of_neg (by rw [h]; simp), hd]
    simp
  · simp

namespace Invocation

theorem toList_call (collection arguments behind : String) :
    ("db." ++ collection ++ ".find(" ++ arguments ++ ")" ++ behind).toList =
      ['d', 'b'] ++ '.' :: (collection.toList ++ '.' :: (findMethod.toList ++
        '(' :: (arguments.toList ++ ')' :: behind.toList))) := by
  simp [findMethod]

/-- Trimming a call leaves all but the blanks at its end. -/
theorem trim_call (collection arguments behind : String) :
    Text.trim ("db." ++ collection ++ ".find(" ++ arguments ++ ")" ++ behind).toList =
      ['d', 'b'] ++ '.' :: (collection.toList ++ '.' :: (findMethod.toList ++
        '(' :: (arguments.toList ++ ')' :: Text.trimEnd behind.toList))) := by
  have hd : Text.isBlank 'd' = false := by decide
  have hclose : Text.isBlank ')' = false := by decide
  have hend := Text.trimEnd_append_cons hclose
    (['d', 'b'] ++ '.' :: (collection.toList ++ '.' :: (findMethod.toList ++
      '(' :: arguments.toList))) behind.toList
  rw [toList_call, Text.trim, Text.trimStart, List.cons_append,
    List.dropWhile_cons_of_neg (by rw [hd]; simp)]
  simpa using hend

/-- **Reading meets the closing parenthesis** as an `illegal` token of one byte. -/
theorem lex_append_close {xs : List Char} (hl : Token.Legal xs) (he : ¬ Token.EndsInComment xs)
    (s : List Char) :
    Token.lex (xs ++ ')' :: s) =
      Token.lex xs ++ ⟨.illegal, byteLength xs, byteLength xs + 1⟩ ::
        Token.lexFrom (byteLength xs + 1) s := by
  have hpart : Word.isPart ')' = false ∧ Word.isStart ')' = false := by decide +kernel
  -- a parenthesis goes on no token, and starts none either
  have hy : Token.Bounded (')' :: s) := by
    intro d hd
    obtain rfl : ')' = d := Option.some.inj hd
    exact ⟨hpart.1, by decide⟩
  have h0 : Trivia.length (')' :: s) = 0 :=
    Trivia.length_cons_of_not (by decide) (by decide) s
  have hscan : Token.scan ')' s = ⟨.illegal, 0⟩ := by
    simp [Token.scan, TokenKind.ofPunctuation?, hpart.2]
  rw [Token.lex, Token.lexFrom_append hl (Token.finished_trailing he) hy, Token.lexFrom_cons h0,
    hscan, Nat.zero_add]
  rfl

/-- **The two scans agree on where the argument list ends.** The search for the closing parenthesis
finds the end of every text that can be read; and where it finds one behind a text without `illegal`
tokens, reading on meets that parenthesis as the next token. -/
theorem split_agrees_with_lex :
    (∀ collection arguments behind : String, Token.Legal arguments.toList →
      ¬ Token.EndsInComment arguments.toList → collection ≠ "" → '.' ∉ collection.toList →
      ∃ i, split ("db." ++ collection ++ ".find(" ++ arguments ++ ")" ++ behind) = .ok i ∧
        i.collection = collection ∧ i.arguments = arguments) ∧
    (∀ (query : String) (i : Invocation), split query = .ok i → Token.Legal i.arguments.toList →
      ∃ behind more,
        Text.trim query.toList =
          ("db." ++ i.collection ++ ".find(" ++ i.arguments ++ ")").toList ++ behind ∧
        Token.lex (i.arguments.toList ++ ')' :: behind) =
          Token.lex i.arguments.toList ++
            ⟨.illegal, byteLength i.arguments.toList, byteLength i.arguments.toList + 1⟩ ::
              more) := by
  constructor
  · -- the search comes to the end of a text that can be read
    intro collection arguments behind hl he hne hdot
    have hn := closing?_append_close hl he (Text.trimEnd behind.toList)
    have hc : collection.toList ≠ [] := fun h => hne (String.toList_eq_nil_iff.1 h)
    refine ⟨_, ofText_eq_ok_iff.2 ⟨collection.toList, _, _, trim_call .., hc, hdot, hn, rfl⟩, ?_⟩
    simp
  · -- what the search finds is a parenthesis, and no comment of the text before it is unclosed
    intro query i h hl
    obtain ⟨collection, rest, n, htext, -, -, hn, rfl⟩ := ofText_eq_ok_iff.1 h
    obtain ⟨xs, s, rfl, rfl⟩ := exists_of_closing? hn
    simp only [List.take_left, String.toList_ofList] at hl ⊢
    have he := not_endsInComment_of_closing? hl hn
    refine ⟨s, _, ?_, lex_append_close hl he s⟩
    rw [htext]
    simp [findMethod]

/-- The agreement at a call with parentheses, an escaped quote and comment marks inside the argument
list, and with an unclosed quote behind it. -/
theorem split_agrees_with_lex_quotes_and_comments :
    ∃ i, split ("db." ++ "user" ++ ".find(" ++ "[0,')\\')'/*(*/]" ++ ")" ++ ").limit('") = .ok i ∧
      i.arguments = "[0,')\\')'/*(*/]" ∧
      ∃ behind more, Token.lex (i.arguments.toList ++ ')' :: behind) =
        Token.lex i.arguments.toList ++ ⟨.illegal, 15, 16⟩ :: more := by
  have hl : Token.Legal "[0,')\\')'/*(*/]".toList := by decide +kernel
  have he : ¬ Token.EndsInComment "[0,')\\')'/*(*/]".toList := by
    have ht : Token.trailing "[0,')\\')'/*(*/]".toList = [] := by decide +kernel
    rintro ⟨w, opened, h, -⟩
    rw [ht] at h
    exact absurd h (by simp)
  obtain ⟨i, hi, -, ha⟩ :=
    split_agrees_with_lex.1 "user" _ ").limit('" hl he (by decide) (by decide)
  obtain ⟨behind, more, -, hm⟩ := split_agrees_with_lex.2 _ i hi (by rw [ha]; exact hl)
  refine ⟨i, hi, ha, behind, more, ?_⟩
  rw [ha] at hm ⊢
  exact hm

end Invocation

end FindToSelect
