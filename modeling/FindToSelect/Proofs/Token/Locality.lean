import FindToSelect.Proofs.Text.Slices
import FindToSelect.Proofs.Token.Extent
import FindToSelect.Proofs.Token.FinishedTrivia

/-!
# What stands behind a token

Every scanner reads as far as it can, so what stands behind a token could change it. For a token
that is not `illegal` only two things can: a character that goes on a word, which also covers the
digits and the marks of a numeral, and a point. A text that starts with neither is `Bounded`, and
before a bounded text a scanner reads what it reads before nothing:

* `StringLiteral.body_append` — a closed literal ends at its quote, whatever follows;
* `Numeral.scan_append`, `Word.scan_append` — the longest numeral or word ends before a bounded
  text;
* `Token.scan_append` — hence so does every token that is not `illegal`;
* `Token.lexFrom_append` — a text without `illegal` tokens and with finished trivia at its end is
  read by itself, and reading goes on behind it.

The tokens of a text are found by recursion along the text; `Token.textInduction` is its principle:
a text is trivia, or trivia, one token and a text.
-/

namespace FindToSelect

/-- **A text that cannot go on a token**: it is empty, or its first character is no part of a word
and no point. -/
def Token.Bounded (ys : List Char) : Prop :=
  ∀ d ∈ ys.head?, Word.isPart d = false ∧ d ≠ '.'

/-- A run of characters of a class ends before a text that does not start with one of them. -/
theorem takeWhile_append_of_head {p : Char → Bool} {ys : List Char}
    (h : ∀ d ∈ ys.head?, p d = false) (xs : List Char) :
    (xs ++ ys).takeWhile p = xs.takeWhile p := by
  have hy : ys.takeWhile p = [] := by
    cases ys with
    | nil => rfl
    | cons d ys => rw [List.takeWhile_cons, h d (by simp)]; rfl
  rw [List.takeWhile_append, hy]
  split
  · next hl => rw [List.append_nil, (List.takeWhile_prefix p).eq_of_length hl]
  · rfl

namespace Token.Bounded

variable {ys : List Char}

/-- A text that goes on no token does not start with a part of a word. -/
theorem head_ne (h : Bounded ys) {c : Char} (hc : Word.isPart c = true) : ys.head? ≠ some c := by
  intro hh
  have hpart := (h c hh).1
  rw [hc] at hpart
  exact absurd hpart (by simp)

/-- Digits end before a bounded text. -/
theorem digits_append (h : Bounded ys) (xs : List Char) :
    Numeral.digits (xs ++ ys) = Numeral.digits xs := by
  refine takeWhile_append_of_head (fun d hd => Bool.eq_false_iff.2 fun hc => ?_) xs
  exact h.head_ne (Word.isPart_of_isDigit hc) hd

theorem takeWhile_isHexDigit_append (h : Bounded ys) (xs : List Char) :
    (xs ++ ys).takeWhile Text.isHexDigit = xs.takeWhile Text.isHexDigit := by
  refine takeWhile_append_of_head (fun d hd => Bool.eq_false_iff.2 fun hc => ?_) xs
  exact h.head_ne (Word.isPart_of_isHexDigit hc) hd

theorem takeWhile_isPart_append (h : Bounded ys) (xs : List Char) :
    (xs ++ ys).takeWhile Word.isPart = xs.takeWhile Word.isPart :=
  takeWhile_append_of_head (fun d hd => (h d hd).1) xs

end Token.Bounded

/-! ### String literals -/

namespace Text

theorem hex?_append {n v : Nat} {cs : List Char} (h : hex? n cs = some v) (ys : List Char) :
    hex? n (cs ++ ys) = some v := by
  rw [← h]
  simp only [hex?, List.take_append_of_le_length (le_length_of_hex? h)]

end Text

namespace StringLiteral

/-- An escape that leaves something behind it does not see what follows that. -/
theorem escape_append {cs : List Char} {item : Text.Item} {n : Nat}
    (h : escape cs = (some item, n)) (hn : n < cs.length) (ys : List Char) :
    escape (cs ++ ys) = (some item, n) := by
  cases cs with
  | nil => simp [escape] at h
  | cons c cs =>
    -- two kinds of escapes look further than at their first character: digits, and a carriage
    -- return
    simp only [escape, List.cons_append] at h ⊢
    by_cases hx : c = 'x'
    · simp only [hx, if_true] at h ⊢
      cases hv : Text.hex? 2 cs with
      | none => simp [hv] at h
      | some v => simpa [Text.hex?_append hv ys, hv] using h
    by_cases hu : c = 'u'
    · simp only [hu, if_true] at h ⊢
      cases hv : Text.hex? 4 cs with
      | none => simp [hv] at h
      | some v => simpa [Text.hex?_append hv ys, hv] using h
    simp only [hx, hu, if_false] at h ⊢
    by_cases hr : c = '\r'
    · -- a line feed behind the carriage return is in `cs`, as `cs` is not empty
      cases cs with
      | nil =>
        simp only [hr, if_true, Prod.mk.injEq, List.head?_nil] at h
        simp only [List.length_singleton, ← h.2] at hn
        exact absurd hn (by simp)
      | cons d cs => simpa [hr] using h
    · simpa only [hr, if_false] using h

/-- **A closed literal ends at its quote**, whatever follows. -/
theorem body_append {quote : Char} {cs : List Char} {items : List Text.Item}
    (h : (body quote cs).1 = some items) (ys : List Char) :
    body quote (cs ++ ys) = body quote cs := by
  -- along the recursion of the reader; a literal that is closed does not end with its text
  fun_induction body quote cs generalizing items with
  | case1 => exact absurd h (by simp)
  | case2 cs => rw [List.cons_append, body]; simp
  | case3 => exact absurd h (by simp)
  | case4 => exact absurd h (by simp)
  | case5 cs item n he rest hq hn =>
    rename_i ih
    obtain ⟨items', hi, -⟩ := Option.map_eq_some_iff.1 h
    -- the quote stands behind the escape, so the escape leaves something
    have hlt : n < cs.length := by
      refine Nat.lt_of_not_le fun hle => ?_
      simp only [rest, List.drop_eq_nil_of_le hle, body] at hi
      exact absurd hi (by simp)
    rw [List.cons_append, body]
    simp only [hq, hn, if_false, if_true, escape_append he hlt ys]
    rw [List.drop_append_of_le_length (Nat.le_of_lt hlt), ih hi]
  | case6 c cs hq hn hb rest =>
    rename_i ih
    obtain ⟨items', hi, -⟩ := Option.map_eq_some_iff.1 h
    rw [List.cons_append, body]
    simp only [hq, hn, hb, if_false, ih hi]
    rfl

end StringLiteral

/-! ### Numerals -/

namespace Numeral

open Token (Bounded)

variable {ys : List Char}

/-- A fraction ends before a bounded text, and none starts there. -/
theorem fraction?_append (h : Bounded ys) (xs : List Char) :
    fraction? (xs ++ ys) = fraction? xs := by
  cases xs with
  | nil =>
    cases ys with
    | nil => rfl
    | cons d ys => simp [fraction?, (h d (by simp)).2]
  | cons c xs => simp [fraction?, h.digits_append]

/-- An exponent ends before a bounded text, unless it is broken off: then digits might follow. -/
theorem exponentOf_append (h : Bounded ys) {xs : List Char}
    (hx : ∀ n, exponentOf xs ≠ .broken n) : exponentOf (xs ++ ys) = exponentOf xs := by
  cases xs with
  | nil =>
    cases ys with
    | nil => rfl
    | cons d ys =>
      have hd : ¬ (d = 'e' ∨ d = 'E') := by
        rintro (rfl | rfl)
        · exact h.head_ne (c := 'e') (by decide +kernel) rfl
        · exact h.head_ne (c := 'E') (by decide +kernel) rfl
      simp [exponentOf, hd]
  | cons c xs =>
    by_cases hc : c = 'e' ∨ c = 'E'
    · cases xs with
      | nil => exact absurd (by simp [exponentOf, hc, digits]) (hx 1)
      | cons d xs =>
        -- the digits stand behind the letter, or behind the sign
        have hdig : ∀ k ≤ 1, digits ((d :: (xs ++ ys)).drop k) = digits ((d :: xs).drop k) := by
          intro k hk
          have hl : k ≤ (d :: xs).length := Nat.le_trans hk (by simp)
          rw [← List.cons_append, List.drop_append_of_le_length hl, h.digits_append]
        by_cases hs : d = '+' ∨ d = '-'
        · simp only [exponentOf, List.cons_append, hc, if_true, List.head?_cons,
            Option.some.injEq, hs, hdig 1 (Nat.le_refl 1)]
        · simp only [exponentOf, List.cons_append, hc, if_true, List.head?_cons,
            Option.some.injEq, hs, if_false, hdig 0 (Nat.zero_le 1)]
    · simp [exponentOf, hc]

/-- **The longest decimal numeral ends before a bounded text.** -/
theorem shape_append (h : Bounded ys) {xs : List Char} {n : Numeral} {taken : Nat}
    (hx : shape xs = (some n, taken)) : shape (xs ++ ys) = (some n, taken) := by
  have hw := digits_takes xs
  have hf : fraction? ((xs ++ ys).drop (digits xs).length)
      = fraction? (xs.drop (digits xs).length) := by
    rw [List.drop_append_of_le_length hw.1, fraction?_append h]
  -- the exponent is looked for behind `k` characters of `xs`
  have he : ∀ k ≤ xs.length, (∀ m, exponentOf (xs.drop k) ≠ .broken m) →
      exponentOf ((xs ++ ys).drop k) = exponentOf (xs.drop k) := by
    intro k hk hb
    rw [List.drop_append_of_le_length hk, exponentOf_append h hb]
  rw [← hx]
  simp only [shape, h.digits_append, hf] at hx ⊢
  split
  · rfl
  · next h0 =>
    rw [if_neg h0] at hx
    rw [he]
    · cases hfr : fraction? (xs.drop (digits xs).length) with
      | none => exact hw.1
      | some ds => exact (hw.add (fraction_takes hfr)).1
    · intro m hm
      rw [hm] at hx
      exact absurd hx (by simp)

/-- The mark of hexadecimal digits is there or it is not, before a bounded text. -/
theorem isHexMarked_append (h : Bounded ys) {xs : List Char} (hx : xs ≠ []) :
    isHexMarked (xs ++ ys) = isHexMarked xs := by
  match xs, hx with
  | [c], _ =>
    cases ys with
    | nil => rfl
    | cons d ys =>
      -- a zero at the end could get its mark from what follows, but neither letter goes there
      have hd : d ≠ 'x' ∧ d ≠ 'X' := by
        constructor <;> rintro rfl
        · exact h.head_ne (c := 'x') (by decide +kernel) rfl
        · exact h.head_ne (c := 'X') (by decide +kernel) rfl
      simp [isHexMarked, hd.1, hd.2]
  | c :: d :: xs, _ => rfl

/-- **The token of a numeral ends before a bounded text.** -/
theorem scan_append (h : Bounded ys) {negative : Bool} {xs : List Char}
    (hx : (scan negative xs).kind ≠ .illegal) : scan negative (xs ++ ys) = scan negative xs := by
  -- without a character there is no numeral
  have hne : xs ≠ [] := by
    rintro rfl
    exact hx rfl
  unfold scan at hx ⊢
  rw [isHexMarked_append h hne]
  split
  · next hm =>
    -- the two characters of the mark are in `xs`
    have hl : 2 ≤ xs.length := by
      rcases xs with _ | ⟨c, _ | ⟨d, xs⟩⟩
      · cases hm
      · cases hm
      · simp
    simp only [scanHex, List.drop_append_of_le_length hl, h.takeWhile_isHexDigit_append]
  · next hm =>
    rw [if_neg hm] at hx
    unfold scanDecimal at hx ⊢
    rcases hs : shape xs with ⟨_ | n, taken⟩
    · rw [hs] at hx
      exact absurd rfl hx
    · rw [shape_append h hs]

end Numeral

/-! ### Words and tokens -/

namespace Word

/-- A word ends before a bounded text. -/
theorem scan_append {ys : List Char} (h : Token.Bounded ys) (c : Char) (xs : List Char) :
    scan c (xs ++ ys) = scan c xs := by
  simp only [scan, h.takeWhile_isPart_append]

/-- And so does a word behind a sign. -/
theorem scanSigned_append {ys : List Char} (h : Token.Bounded ys) (negative : Bool)
    (xs : List Char) : scanSigned negative (xs ++ ys) = scanSigned negative xs := by
  simp only [scanSigned, h.takeWhile_isPart_append]

end Word

namespace Token

/-- What stands behind a sign ends before a bounded text. -/
theorem scanSigned_append {ys : List Char} (h : Bounded ys) {negative : Bool} {xs : List Char}
    (hx : (scanSigned negative xs).kind ≠ .illegal) :
    scanSigned negative (xs ++ ys) = scanSigned negative xs := by
  cases xs with
  | nil => exact absurd rfl hx
  | cons c xs =>
    simp only [scanSigned, List.cons_append, List.head?_cons] at hx ⊢
    split
    · next hd =>
      rw [if_pos hd] at hx
      exact Numeral.scan_append h hx
    · rw [← List.cons_append, Word.scanSigned_append h]

/-- **A token that is not `illegal` ends before a bounded text.** -/
theorem scan_append {ys : List Char} (h : Bounded ys) {c : Char} {xs : List Char}
    (hx : (scan c xs).kind ≠ .illegal) : scan c (xs ++ ys) = scan c xs := by
  unfold scan at hx ⊢
  split
  · rfl
  · next hp =>
    simp only [hp] at hx
    -- the kinds of tokens in the order in which `scan` tries them
    by_cases hq : c = '"' ∨ c = '\''
    · simp only [if_pos hq] at hx ⊢
      unfold StringLiteral.scan at hx ⊢
      rcases hb : StringLiteral.body c xs with ⟨_ | items, n⟩
      · rw [hb] at hx
        exact absurd rfl hx
      · rw [StringLiteral.body_append (by rw [hb]), hb]
    simp only [if_neg hq] at hx ⊢
    by_cases hs : c = '-' ∨ c = '+'
    · simp only [if_pos hs] at hx ⊢
      exact scanSigned_append h hx
    simp only [if_neg hs] at hx ⊢
    by_cases hd : (c.isDigit || c == '.') = true
    · simp only [if_pos hd] at hx ⊢
      rw [← List.cons_append, Numeral.scan_append h hx]
    simp only [if_neg hd] at hx ⊢
    rw [Word.scan_append h]

end Token

/-! ### Texts token by token -/

namespace Token

/-- **Induction along the tokens of a text**: a text is trivia, or finished trivia, a token and a
text. -/
theorem textInduction {motive : List Char → Prop}
    (trivia : ∀ cs, cs.drop (Trivia.length cs) = [] → motive cs)
    (token : ∀ w c rest, Trivia.Finished w → Trivia.length (c :: rest) = 0 →
      motive (rest.drop (scan c rest).taken) → motive (w ++ c :: rest))
    (cs : List Char) : motive cs := by
  induction hn : cs.length using Nat.strongRecOn generalizing cs with
  | ind n ih =>
    cases h : cs.drop (Trivia.length cs) with
    | nil => exact trivia cs h
    | cons c rest =>
      -- behind the token the text is shorter
      obtain ⟨w, rfl, hw, h0⟩ := Trivia.eq_append_of_drop_length h
      refine token w c rest hw h0 (ih _ ?_ _ rfl)
      rw [← hn, List.length_append, List.length_cons, List.length_drop]
      omega

/-- Finished trivia moves the tokens behind it and does nothing else. -/
theorem lexFrom_finished_append {w : List Char} (hw : Trivia.Finished w) (offset : Nat)
    (cs : List Char) : lexFrom offset (w ++ cs) = lexFrom (offset + byteLength w) cs := by
  -- trivia is measured over `w` and on, so the first token is the one of `cs`
  have hd : (w ++ cs).drop (Trivia.length (w ++ cs)) = cs.drop (Trivia.length cs) := by
    rw [hw.length_append, List.drop_length_add_append]
  have ht : (w ++ cs).take (Trivia.length (w ++ cs)) = w ++ cs.take (Trivia.length cs) := by
    rw [hw.length_append, List.take_length_add_append]
  cases h : cs.drop (Trivia.length cs) with
  | nil => rw [lexFrom_of_drop_eq_nil h, lexFrom_of_drop_eq_nil (hd.trans h)]
  | cons c rest =>
    rw [lexFrom_of_drop_eq_cons h, lexFrom_of_drop_eq_cons (hd.trans h), ht, byteLength_append,
      Nat.add_assoc]

/-- Where no trivia starts, a token does. -/
theorem lexFrom_cons {c : Char} {rest : List Char} (h : Trivia.length (c :: rest) = 0)
    (offset : Nat) :
    lexFrom offset (c :: rest) =
      ⟨(scan c rest).kind,
        ⟨offset, offset + byteLength (c :: rest.take (scan c rest).taken)⟩⟩ ::
      lexFrom (offset + byteLength (c :: rest.take (scan c rest).taken))
        (rest.drop (scan c rest).taken) := by
  have hd : (c :: rest).drop (Trivia.length (c :: rest)) = c :: rest := by rw [h, List.drop_zero]
  rw [lexFrom_of_drop_eq_cons hd, h]
  rfl

/-- **A text without `illegal` tokens.** -/
def Legal (cs : List Char) : Prop :=
  ∀ t ∈ lex cs, t.kind ≠ .illegal

instance : DecidablePred Legal :=
  fun cs => inferInstanceAs (Decidable (∀ t ∈ lex cs, t.kind ≠ .illegal))

/-- **The text behind the last token**, which is trivia. -/
def trailing (cs : List Char) : List Char :=
  match _h : cs.drop (Trivia.length cs) with
  | [] => cs
  | c :: rest => trailing (rest.drop (scan c rest).taken)
termination_by cs.length
decreasing_by
  have hl := congrArg List.length _h
  simp only [List.length_drop, List.length_cons] at hl ⊢
  omega

/-- A text that is trivia trails itself. -/
theorem trailing_of_drop_eq_nil {cs : List Char} (h : cs.drop (Trivia.length cs) = []) :
    trailing cs = cs := by
  rw [trailing]
  split
  · rfl
  · next h' => rw [h] at h'; exact absurd h' (by simp)

/-- **Behind a token**, the trailing text is that of what is left. -/
theorem trailing_append_cons {w rest : List Char} {c : Char} (hw : Trivia.Finished w)
    (h : Trivia.length (c :: rest) = 0) :
    trailing (w ++ c :: rest) = trailing (rest.drop (scan c rest).taken) := by
  have hd : (w ++ c :: rest).drop (Trivia.length (w ++ c :: rest)) = c :: rest := by
    rw [hw.length_append, h, Nat.add_zero, List.drop_left]
  rw [trailing]
  split
  · next h' => rw [hd] at h'; exact absurd h' (by simp)
  · next h' =>
    obtain ⟨rfl, rfl⟩ := List.cons.inj (hd.symm.trans h')
    rfl

/-- **A text that ends in a comment without its end.** -/
def EndsInComment (cs : List Char) : Prop :=
  ∃ w opened, trailing cs = w ++ '/' :: opened ∧ Trivia.Finished w ∧ Trivia.Unclosed opened

/-- The text behind the last token is trivia to its end. -/
theorem drop_length_trailing (cs : List Char) :
    (trailing cs).drop (Trivia.length (trailing cs)) = [] := by
  induction cs using textInduction with
  | trivia cs h => rw [trailing_of_drop_eq_nil h, h]
  | token w c rest hw h0 ih => rw [trailing_append_cons hw h0, ih]

/-- **What trails a text is finished**, unless the text ends in a comment. -/
theorem finished_trailing {cs : List Char} (h : ¬ EndsInComment cs) :
    Trivia.Finished (trailing cs) :=
  (Trivia.finished_or_unclosed (drop_length_trailing cs)).resolve_right h

/-- Where a text starts changes the spans and not the kinds. -/
theorem map_kind_lexFrom (offset : Nat) (cs : List Char) :
    (lexFrom offset cs).map Token.kind = (lex cs).map Token.kind := by
  unfold lex
  suffices h : ∀ m n, (lexFrom m cs).map Token.kind = (lexFrom n cs).map Token.kind from h _ _
  induction cs using textInduction with
  | trivia cs h =>
    intro m n
    rw [lexFrom_of_drop_eq_nil h, lexFrom_of_drop_eq_nil h]
  | token w c rest hw h0 ih =>
    intro m n
    rw [lexFrom_finished_append hw, lexFrom_finished_append hw, lexFrom_cons h0, lexFrom_cons h0,
      List.map_cons, List.map_cons, ih]

/-- A text is legal if its first token is and what is left behind it. -/
theorem legal_append_cons_iff {w rest : List Char} {c : Char} (hw : Trivia.Finished w)
    (h : Trivia.length (c :: rest) = 0) :
    Legal (w ++ c :: rest) ↔
      (scan c rest).kind ≠ .illegal ∧ Legal (rest.drop (scan c rest).taken) := by
  -- being legal is a fact about kinds, and where the rest starts does not matter to these
  have hk : ∀ cs, Legal cs ↔ ∀ k ∈ (lex cs).map Token.kind, k ≠ .illegal := by
    intro cs
    simp [Legal]
  rw [hk, hk, lex, lexFrom_finished_append hw, lexFrom_cons h, List.map_cons, map_kind_lexFrom,
    List.forall_mem_cons]

/-- No token starts with a slash. -/
theorem scan_slash (cs : List Char) : (scan '/' cs).kind = .illegal := by
  have hp : TokenKind.ofPunctuation? '/' = none := rfl
  have hw : Word.isStart '/' = false := by decide +kernel
  simp [scan, hp, hw]

/-- The first character of a token starts no trivia, whatever follows the token. -/
theorem triviaLength_append_eq_zero {c : Char} {rest : List Char}
    (h : Trivia.length (c :: rest) = 0) (hk : (scan c rest).kind ≠ .illegal) (ys : List Char) :
    Trivia.length (c :: (rest ++ ys)) = 0 := by
  have hb : Text.isBlank c = false := by
    refine Bool.eq_false_iff.2 fun hb => ?_
    rw [Trivia.length_cons_of_blank hb] at h
    omega
  have hs : c ≠ '/' := by
    rintro rfl
    exact hk (scan_slash rest)
  exact Trivia.length_cons_of_not hb hs _

/-- **Reading goes on behind a text.** The tokens of a text with no `illegal` token and with
finished trivia at its end stay what they are before a bounded text. -/
theorem lexFrom_append {xs ys : List Char} (hl : Legal xs) (hf : Trivia.Finished (trailing xs))
    (hy : Bounded ys) (offset : Nat) :
    lexFrom offset (xs ++ ys) = lexFrom offset xs ++ lexFrom (offset + byteLength xs) ys := by
  induction xs using textInduction generalizing offset with
  | trivia xs h =>
    -- only trivia, which is finished by `hf`
    rw [trailing_of_drop_eq_nil h] at hf
    rw [lexFrom_finished_append hf, lexFrom_of_drop_eq_nil h, List.nil_append]
  | token w c rest hw h0 ih =>
    -- the first token is the same on both sides, and the rest is by the induction hypothesis
    rw [trailing_append_cons hw h0] at hf
    obtain ⟨hk, hl⟩ := (legal_append_cons_iff hw h0).1 hl
    have ht := scan_taken_le c rest
    rw [List.append_assoc, List.cons_append, lexFrom_finished_append hw,
      lexFrom_finished_append hw, lexFrom_cons h0,
      lexFrom_cons (triviaLength_append_eq_zero h0 hk ys), scan_append hy hk,
      List.take_append_of_le_length ht, List.drop_append_of_le_length ht, ih hl hf,
      List.cons_append]
    -- what is left is the place where `ys` starts
    have hb : byteLength (c :: rest) =
        byteLength (c :: rest.take (scan c rest).taken) +
          byteLength (rest.drop (scan c rest).taken) := by
      rw [← byteLength_append, List.cons_append, List.take_append_drop]
    rw [byteLength_append, hb]
    simp only [Nat.add_assoc]

end Token

end FindToSelect
