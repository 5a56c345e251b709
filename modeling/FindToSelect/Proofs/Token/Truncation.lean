import FindToSelect.Proofs.Token.Locality

/-!
# A token and its own text

Every scanner reads as far as it can and says how much it took. It may look at characters behind
those, but it would have stopped at the end of the text as well: cutting the text off anywhere
behind what was taken changes nothing. That holds of every token, the `illegal` ones included, and
is shown scanner by scanner in the form

  `(scan cs).taken ≤ n → scan (cs.take n) = scan cs`.

* `Numeral.scan_take`, `StringLiteral.body_take` — numerals and string literals;
* `Token.scan_take` — tokens;
* `Token.exists_cut` — hence a text can be cut before and behind each of its tokens: what stands
  before the token is read as the tokens before it, and the token alone is read as itself.
-/

namespace FindToSelect

/-- A run of characters of a class does not see what is cut off behind it. -/
theorem takeWhile_take {p : Char → Bool} {cs : List Char} {n : Nat}
    (h : (cs.takeWhile p).length ≤ n) : (cs.take n).takeWhile p = cs.takeWhile p := by
  induction cs generalizing n with
  | nil => rw [List.take_nil]
  | cons c cs ih =>
    cases hc : p c with
    | true =>
      rw [List.takeWhile_cons_of_pos hc, List.length_cons] at h
      obtain ⟨m, rfl⟩ : ∃ m, n = m + 1 := ⟨n - 1, by omega⟩
      rw [List.take_succ_cons, List.takeWhile_cons_of_pos hc, List.takeWhile_cons_of_pos hc,
        ih (Nat.le_of_succ_le_succ h)]
    | false =>
      have hneg : ¬ p c = true := by rw [hc]; simp
      cases n with
      | zero => rw [List.take_zero, List.takeWhile_nil, List.takeWhile_cons_of_neg hneg]
      | succ n =>
        rw [List.take_succ_cons, List.takeWhile_cons_of_neg hneg, List.takeWhile_cons_of_neg hneg]

/-! ### Numerals -/

namespace Numeral

theorem digits_take {cs : List Char} {n : Nat} (h : (digits cs).length ≤ n) :
    digits (cs.take n) = digits cs :=
  takeWhile_take h

/-- The characters that a fraction takes, with its point. -/
def fractionTaken : Option (List Char) → Nat
  | none => 0
  | some ds => ds.length + 1

/-- A fraction ends at its last digit, so it needs no more than its point and its digits. -/
theorem fraction?_take {cs : List Char} {n : Nat} (h : fractionTaken (fraction? cs) ≤ n) :
    fraction? (cs.take n) = fraction? cs := by
  cases cs with
  | nil => rw [List.take_nil]
  | cons c cs =>
    by_cases hc : c = '.'
    · simp only [fraction?, hc, if_true, fractionTaken] at h
      obtain ⟨m, rfl⟩ : ∃ m, n = m + 1 := ⟨n - 1, by omega⟩
      simp only [List.take_succ_cons, fraction?, digits_take (Nat.le_of_succ_le_succ h)]
    · cases n <;> simp [fraction?, hc]

/-- The characters that the sign of an exponent takes. -/
def signTaken (cs : List Char) : Nat :=
  if cs.head? = some '+' ∨ cs.head? = some '-' then 1 else 0

/-- **No sign appears or goes away** where the text is cut off behind the one that is there. -/
theorem head?_take_sign {cs : List Char} {n : Nat} (h : signTaken cs ≤ n) {d : Char}
    (hd : d = '+' ∨ d = '-') : (cs.take n).head? = some d ↔ cs.head? = some d := by
  cases n with
  | zero =>
    -- without a sign neither text starts with one
    have hne : cs.head? ≠ some d := by
      intro hs
      have hsigned : cs.head? = some '+' ∨ cs.head? = some '-' := by
        rcases hd with rfl | rfl
        · exact Or.inl hs
        · exact Or.inr hs
      rw [signTaken, if_pos hsigned] at h
      omega
    simp [hne]
  | succ n => cases cs <;> simp

/-- Behind the letter of an exponent stand its sign and its digits. -/
theorem exponentOf_cons {c : Char} (hc : c = 'e' ∨ c = 'E') (cs : List Char) :
    exponentOf (c :: cs) =
      if (digits (cs.drop (signTaken cs))).length = 0 then .broken (signTaken cs + 1)
      else .power (signed (cs.head? = some '-') (value (digits (cs.drop (signTaken cs)))))
        ((digits (cs.drop (signTaken cs))).length + signTaken cs + 1) := by
  rw [exponentOf, if_pos hc]
  rfl

/-- **An exponent does not see what is cut off behind it**, also one that is broken off. -/
theorem exponentOf_take {cs : List Char} {n : Nat} (h : (exponentOf cs).taken ≤ n) :
    exponentOf (cs.take n) = exponentOf cs := by
  cases cs with
  | nil => rw [List.take_nil]
  | cons c cs =>
    by_cases hc : c = 'e' ∨ c = 'E'
    -- broken off or not, the exponent takes at least its letter and its sign
    · have htaken : (digits (cs.drop (signTaken cs))).length + signTaken cs + 1 ≤ n := by
        rw [exponentOf_cons hc] at h
        split at h
        · next h0 =>
          simp only [Exponent.taken] at h
          omega
        · exact h
      obtain ⟨m, rfl⟩ : ∃ m, n = m + 1 := ⟨n - 1, by omega⟩
      have hsign : signTaken cs ≤ m := by omega
      have hplus := head?_take_sign hsign (Or.inl rfl)
      have hminus := head?_take_sign hsign (Or.inr rfl)
      have hlength : signTaken (cs.take m) = signTaken cs := by
        simp only [signTaken, hplus, hminus]
      -- behind the sign the digits are as before, and they decide whether it is broken off
      have hdigits : digits ((cs.take m).drop (signTaken cs)) =
          digits (cs.drop (signTaken cs)) := by
        rw [List.drop_take]
        exact digits_take (by omega)
      rw [List.take_succ_cons, exponentOf_cons hc, exponentOf_cons hc, hlength, hdigits]
      simp only [hminus]
    · cases n <;> simp [exponentOf, hc]

/-- The characters that the digits and the fraction of a numeral take. -/
def stemTaken (cs : List Char) : Nat :=
  (digits cs).length + fractionTaken (fraction? (cs.drop (digits cs).length))

/-- The number of digits of a numeral, those of its exponent apart. -/
def digitCount (cs : List Char) : Nat :=
  (digits cs).length + ((fraction? (cs.drop (digits cs).length)).getD []).length

/-- Behind the digits and the fraction of a numeral stands its exponent. -/
theorem shape_eq (cs : List Char) :
    shape cs =
      if digitCount cs = 0 then (none, stemTaken cs)
      else
        match exponentOf (cs.drop (stemTaken cs)) with
        | .absent =>
          (some ⟨digits cs, fraction? (cs.drop (digits cs).length), none⟩, stemTaken cs)
        | .broken n => (none, stemTaken cs + n)
        | .power e n =>
          (some ⟨digits cs, fraction? (cs.drop (digits cs).length), some e⟩, stemTaken cs + n) :=
  rfl

/-- A numeral takes its digits, its fraction and, if there is a digit, its exponent. -/
theorem shape_taken (cs : List Char) :
    (shape cs).2 = stemTaken cs +
      if digitCount cs = 0 then 0 else (exponentOf (cs.drop (stemTaken cs))).taken := by
  rw [shape_eq]
  split
  · rfl
  · cases exponentOf (cs.drop (stemTaken cs)) <;> rfl

/-- **A decimal numeral does not see what is cut off behind it.** -/
theorem shape_take {cs : List Char} {n : Nat} (h : (shape cs).2 ≤ n) :
    shape (cs.take n) = shape cs := by
  rw [shape_taken] at h
  have hstem : stemTaken cs ≤ n := by omega
  -- each of the three parts ends before the cut
  have hdigits : digits (cs.take n) = digits cs := by
    unfold stemTaken at hstem
    exact digits_take (by omega)
  have hfraction : fraction? ((cs.take n).drop (digits cs).length) =
      fraction? (cs.drop (digits cs).length) := by
    unfold stemTaken at hstem
    rw [List.drop_take]
    exact fraction?_take (by omega)
  have hstem' : stemTaken (cs.take n) = stemTaken cs := by
    simp only [stemTaken, hdigits, hfraction]
  have hcount : digitCount (cs.take n) = digitCount cs := by
    simp only [digitCount, hdigits, hfraction]
  rw [shape_eq, shape_eq, hstem', hcount, hdigits, hfraction]
  split
  · rfl
  · next h0 =>
    rw [if_neg h0] at h
    rw [List.drop_take, exponentOf_take (by omega)]

/-- Cutting a text off makes no mark of a hexadecimal numeral. -/
theorem isHexMarked_take {cs : List Char} (h : isHexMarked cs = false) (n : Nat) :
    isHexMarked (cs.take n) = false := by
  match cs, n with
  | [], n => rw [List.take_nil]; rfl
  | _ :: _, 0 => rfl
  -- the mark is two characters long, and here only one is left
  | [_], n + 1 => rw [List.take_succ_cons, List.take_nil]; rfl
  | _ :: _ :: _, 1 => rfl
  | _ :: _ :: _, n + 2 => exact h

/-- A hexadecimal numeral takes all hexadecimal digits there are, also where they are too many. -/
theorem scanHex_take (negative : Bool) {cs : List Char} {n : Nat}
    (h : (scanHex negative cs).taken ≤ n) :
    scanHex negative (cs.take n) = scanHex negative cs := by
  have hrun : (cs.takeWhile Text.isHexDigit).length ≤ n := by
    simp only [scanHex] at h
    split at h
    · omega
    · split at h <;> exact h
  simp only [scanHex, takeWhile_take hrun]

/-- What a decimal numeral takes does not depend on whether it is in range. -/
theorem scanDecimal_taken (negative : Bool) (cs : List Char) :
    (scanDecimal negative cs).taken = (shape cs).2 := by
  unfold scanDecimal
  split <;> next hs => rw [hs]

/-- **A numeral does not see what is cut off behind it.** -/
theorem scan_take (negative : Bool) {cs : List Char} {n : Nat}
    (h : (scan negative cs).taken ≤ n) : scan negative (cs.take n) = scan negative cs := by
  cases hm : isHexMarked cs with
  | true =>
    simp only [scan, hm, if_true] at h ⊢
    match cs, hm with
    | c :: d :: cs, hm =>
      -- the two characters of the mark are taken
      obtain ⟨m, rfl⟩ : ∃ m, n = m + 2 := ⟨n - 2, by omega⟩
      have hmark : isHexMarked ((c :: d :: cs).take (m + 2)) = true := hm
      have hhex : scanHex negative (cs.take m) = scanHex negative cs :=
        scanHex_take negative (Nat.le_of_add_le_add_right h)
      rw [if_pos hmark]
      simp only [List.take_succ_cons, List.drop_succ_cons, List.drop_zero, hhex]
  | false =>
    simp only [scan, hm, Bool.false_eq_true, if_false, isHexMarked_take hm] at h ⊢
    rw [scanDecimal_taken] at h
    simp only [scanDecimal, shape_take h]

/-- A numeral takes its first character. -/
theorem scan_taken_pos {c : Char} (hc : (c.isDigit || c == '.') = true) (negative : Bool)
    (cs : List Char) : 0 < (scan negative (c :: cs)).taken := by
  -- a digit or the point is part of the stem, which every numeral takes
  have hstem : 0 < stemTaken (c :: cs) := by
    unfold stemTaken
    cases hd : c.isDigit with
    | true =>
      simp only [digits, List.takeWhile_cons_of_pos hd, List.length_cons]
      omega
    | false =>
      obtain rfl : c = '.' := by simpa [hd] using hc
      simp [digits, fraction?, fractionTaken]
  unfold scan
  split
  · exact Nat.succ_pos _
  · rw [scanDecimal_taken, shape_taken]
    omega

end Numeral

/-! ### String literals -/

namespace Text

theorem hex?_take_of_le {k n : Nat} (h : k ≤ n) (cs : List Char) :
    hex? k (cs.take n) = hex? k cs := by
  simp only [hex?, List.take_take, Nat.min_eq_left h]

/-- Digits that are missing are missing in a shorter text. -/
theorem hex?_take_of_none {k : Nat} {cs : List Char} (h : hex? k cs = none) (n : Nat) :
    hex? k (cs.take n) = none := by
  -- cut off inside the digits there are too few of them, cut off behind they are the same
  rcases Nat.lt_or_ge n k with hk | hk
  · have hshort : ((cs.take n).take k).length ≠ k := by
      rw [List.length_take, List.length_take]
      omega
    rw [hex?, if_neg fun hd => hshort hd.1]
  · rw [hex?_take_of_le hk, h]

end Text

namespace StringLiteral

/-- An escape takes the character behind the backslash, whatever it is. -/
theorem escape_taken_pos (c : Char) (cs : List Char) : 0 < (escape (c :: cs)).2 := by
  simp only [escape]
  split
  · split <;> exact Nat.succ_pos _
  split
  · split <;> exact Nat.succ_pos _
  split
  · split <;> exact Nat.succ_pos _
  · split <;> exact Nat.succ_pos _

/-- **An escape does not see what is cut off behind it.** -/
theorem escape_take {cs : List Char} {n : Nat} (h : (escape cs).2 ≤ n) :
    escape (cs.take n) = escape cs := by
  cases cs with
  | nil => rw [List.take_nil]
  | cons c cs =>
    have hpos := escape_taken_pos c cs
    obtain ⟨m, rfl⟩ : ∃ m, n = m + 1 := ⟨n - 1, by omega⟩
    -- digits that are there are taken, and those that are missing stay missing
    have hhex : ∀ k, (∀ v, Text.hex? k cs = some v → k ≤ m) →
        Text.hex? k (cs.take m) = Text.hex? k cs := by
      intro k hk
      cases hv : Text.hex? k cs with
      | none => exact Text.hex?_take_of_none hv m
      | some v => rw [Text.hex?_take_of_le (hk v hv), hv]
    rw [List.take_succ_cons]
    simp only [escape] at h ⊢
    by_cases hx : c = 'x'
    · simp only [hx, if_true] at h ⊢
      rw [hhex 2 fun v hv => by rw [hv] at h; exact Nat.le_of_succ_le_succ h]
    by_cases hu : c = 'u'
    · simp only [hu, if_true] at h ⊢
      rw [hhex 4 fun v hv => by simp only [hv] at h; exact Nat.le_of_succ_le_succ h]
      rfl
    simp only [hx, hu, if_false] at h ⊢
    by_cases hr : c = '\r'
    · -- the line feed of a carriage return is taken, and no other one comes into its place
      simp only [hr, if_true] at h ⊢
      cases m with
      | zero =>
        have hne : cs.head? ≠ some '\n' := by
          intro hd
          rw [if_pos hd] at h
          omega
        simp [hne]
      | succ m => cases cs <;> simp
    · simp only [hr, if_false]

/-- **A string literal does not see what is cut off behind it**, closed or broken. -/
theorem body_take {quote : Char} {cs : List Char} {n : Nat} (h : (body quote cs).2 ≤ n) :
    body quote (cs.take n) = body quote cs := by
  fun_induction body quote cs generalizing n with
  | case1 => rw [List.take_nil, body]
  -- the quotation mark that closes the literal
  | case2 cs =>
    obtain ⟨m, rfl⟩ : ∃ m, n = m + 1 := ⟨n - 1, by omega⟩
    rw [List.take_succ_cons, body, if_pos rfl]
  -- a line end, which breaks it
  | case3 cs hq =>
    obtain ⟨m, rfl⟩ : ∃ m, n = m + 1 := ⟨n - 1, by omega⟩
    rw [List.take_succ_cons, body, if_neg hq, if_pos rfl]
  | case4 cs k he hq hn =>
    -- a broken escape
    obtain ⟨m, rfl⟩ : ∃ m, n = m + 1 := ⟨n - 1, by omega⟩
    have hescape : escape (cs.take m) = (none, k) := by
      rw [escape_take (by rw [he]; exact Nat.le_of_succ_le_succ h), he]
    rw [List.take_succ_cons, body, if_neg hq, if_neg hn, if_pos rfl, hescape]
  | case5 cs item k he rest hq hn =>
    -- an escape, and the literal goes on behind it
    rename_i ih
    obtain ⟨m, rfl⟩ : ∃ m, n = m + 1 := ⟨n - 1, by omega⟩
    have hescape : escape (cs.take m) = (some item, k) := by
      rw [escape_take (by rw [he]; omega), he]
    have hrest : body quote ((cs.take m).drop k) = rest := by
      rw [List.drop_take]
      exact ih (show rest.2 ≤ m - k by omega)
    rw [List.take_succ_cons, body, if_neg hq, if_neg hn, if_pos rfl, hescape]
    simp only [hrest]
  -- a character that means itself
  | case6 c cs hq hn hb rest =>
    rename_i ih
    obtain ⟨m, rfl⟩ : ∃ m, n = m + 1 := ⟨n - 1, by omega⟩
    rw [List.take_succ_cons, body, if_neg hq, if_neg hn, if_neg hb,
      ih (show rest.2 ≤ m by omega)]

theorem scan_take {quote : Char} {cs : List Char} {n : Nat} (h : (scan quote cs).taken ≤ n) :
    scan quote (cs.take n) = scan quote cs := by
  have hbody : (body quote cs).2 ≤ n := by
    unfold scan at h
    split at h <;> next he => rw [he]; exact h
  simp only [scan, body_take hbody]

end StringLiteral

/-! ### Words and tokens -/

/-- A character that starts a word may also stand within one. -/
theorem Word.isPart_of_isStart {c : Char} (h : isStart c = true) : isPart c = true := by
  simp only [isStart, isPart, Bool.or_eq_true] at h ⊢
  rcases h with (h | h) | h <;> simp [h]

namespace Token

/-- **A signed numeral or word does not see what is cut off behind it.** -/
theorem scanSigned_take (negative : Bool) {cs : List Char} {n : Nat}
    (h : (scanSigned negative cs).taken ≤ n) :
    scanSigned negative (cs.take n) = scanSigned negative cs := by
  cases cs with
  | nil => rw [List.take_nil]
  | cons c cs =>
    -- what is taken is not empty, so the first character is not cut off
    have hhead : 0 < n → ((c :: cs).take n).head? = some c := by
      intro hpos
      rw [List.head?_take, if_neg (Nat.ne_of_gt hpos), List.head?_cons]
    simp only [scanSigned, List.head?_cons] at h ⊢
    by_cases hd : (c.isDigit || c == '.') = true
    · rw [if_pos hd] at h ⊢
      have hpos := Numeral.scan_taken_pos hd negative cs
      simp only [hhead (Nat.lt_of_lt_of_le hpos h), hd, if_true, Numeral.scan_take negative h]
    rw [if_neg hd] at h ⊢
    by_cases hw : Word.isStart c = true
    · rw [if_pos hw] at h ⊢
      simp only [Word.scanSigned] at h ⊢
      have hpos : 0 < ((c :: cs).takeWhile Word.isPart).length := by
        rw [List.takeWhile_cons_of_pos (Word.isPart_of_isStart hw)]
        exact Nat.succ_pos _
      simp only [hhead (Nat.lt_of_lt_of_le hpos h), hd, Bool.false_eq_true, hw, if_true, if_false,
        takeWhile_take h]
    · cases n with
      | zero => simp [hw]
      | succ n => simp [hd, hw]

/-- **A token does not see what is cut off behind it.** -/
theorem scan_take {c : Char} {cs : List Char} {n : Nat} (h : (scan c cs).taken ≤ n) :
    scan c (cs.take n) = scan c cs := by
  unfold scan at h ⊢
  split
  -- a mark is one character, which is not cut off
  · rfl
  · next hp =>
    simp only [hp] at h
    -- the kinds of tokens in the order in which `scan` tries them
    by_cases hq : c = '"' ∨ c = '\''
    · simp only [if_pos hq] at h ⊢
      exact StringLiteral.scan_take h
    simp only [if_neg hq] at h ⊢
    by_cases hs : c = '-' ∨ c = '+'
    · simp only [if_pos hs] at h ⊢
      exact scanSigned_take _ h
    simp only [if_neg hs] at h ⊢
    by_cases hd : (c.isDigit || c == '.') = true
    · simp only [if_pos hd] at h ⊢
      have hnumeral : Numeral.scan false (c :: cs.take n) = Numeral.scan false (c :: cs) := by
        rw [← List.take_succ_cons]
        exact Numeral.scan_take false (by omega)
      rw [hnumeral]
    simp only [if_neg hd] at h ⊢
    by_cases hw : Word.isStart c = true
    · simp only [if_pos hw] at h ⊢
      simp only [Word.scan] at h ⊢
      rw [takeWhile_take h]
    · simp only [if_neg hw]

/-! ### Cutting a text at a token -/

/-- The first character of a token starts no trivia in a shorter text either. -/
theorem triviaLength_take_eq_zero {c : Char} {rest : List Char}
    (h : Trivia.length (c :: rest) = 0) (n : Nat) : Trivia.length (c :: rest.take n) = 0 := by
  have hb : Text.isBlank c = false := by
    refine Bool.eq_false_iff.2 fun hb => ?_
    rw [Trivia.length_cons_of_blank hb] at h
    omega
  by_cases hs : c = '/'
  · subst hs
    refine Trivia.length_slash_of_no_comment ?_
    have hnone : Trivia.comment? rest = none := by
      cases hc : Trivia.comment? rest with
      | none => rfl
      | some k =>
        rw [Trivia.length_slash_of_comment hc] at h
        omega
    -- the character behind the slash decides, and it is the same one or cut off
    match rest, n with
    | [], n => rw [List.take_nil]; rfl
    | _ :: _, 0 => rfl
    | d :: rest, n + 1 =>
      simp only [Trivia.comment?, List.take_succ_cons] at hnone ⊢
      split at hnone
      · cases hnone
      · next hl =>
        split at hnone
        · cases hnone
        · next hstar => rw [if_neg hl, if_neg hstar]
  · exact Trivia.length_cons_of_not hb hs _

/-- **A token on its own is read as itself.** -/
theorem lex_own {c : Char} {rest : List Char} (h : Trivia.length (c :: rest) = 0) :
    lex (c :: rest.take (scan c rest).taken) =
      [⟨(scan c rest).kind, ⟨0, byteLength (c :: rest.take (scan c rest).taken)⟩⟩] := by
  have hscan : scan c (rest.take (scan c rest).taken) = scan c rest := scan_take (Nat.le_refl _)
  have hlen : (rest.take (scan c rest).taken).length ≤ (scan c rest).taken :=
    List.length_take_le _ _
  rw [lex, lexFrom_cons (triviaLength_take_eq_zero h _), hscan, List.take_of_length_le hlen,
    List.drop_eq_nil_of_le hlen, lexFrom_of_drop_eq_nil List.drop_nil, Nat.zero_add]

/-- **A text cut before and behind one of its tokens**: what stands before the token is read as the
tokens before it and ends in finished trivia, the token on its own is read as itself, and what
stands behind it as the tokens behind it. -/
structure Cut (offset : Nat) (before : List Token) (t : Token) (after : List Token)
    (xs piece zs : List Char) : Prop where
  piece_ne : piece ≠ []
  span : t.span = ⟨offset + byteLength xs, offset + byteLength (xs ++ piece)⟩
  own : lex piece = [⟨t.kind, ⟨0, byteLength piece⟩⟩]
  lex_before : lexFrom offset xs = before
  finished : Trivia.Finished (trailing xs)
  lex_from : lexFrom (offset + byteLength xs) (piece ++ zs) = t :: after

theorem drop_length_of_finished {w : List Char} (hw : Trivia.Finished w) :
    w.drop (Trivia.length w) = [] := by
  have hlength := hw.length_append []
  rw [List.append_nil, Trivia.length_nil, Nat.add_zero] at hlength
  rw [hlength, List.drop_length]

/-- **A text cut off behind its first token** is read as that token, and then as what is left. -/
theorem lexFrom_take {w rest : List Char} {c : Char} (hw : Trivia.Finished w)
    (h0 : Trivia.length (c :: rest) = 0) (n : Nat) :
    let left := (rest.drop (scan c rest).taken).take n
    let cut := w ++ c :: rest.take ((scan c rest).taken + n)
    trailing cut = trailing left ∧
      ∀ offset, lexFrom offset cut =
        let start := offset + byteLength w
        let stop := start + byteLength (c :: rest.take (scan c rest).taken)
        ⟨(scan c rest).kind, ⟨start, stop⟩⟩ :: lexFrom stop left := by
  intro left cut
  have hscan : scan c (rest.take ((scan c rest).taken + n)) = scan c rest :=
    scan_take (Nat.le_add_right _ _)
  -- the token ends at the same character, and `n` characters are left behind it
  have htake : (rest.take ((scan c rest).taken + n)).take (scan c rest).taken =
      rest.take (scan c rest).taken := by
    rw [List.take_take, Nat.min_eq_left (by omega)]
  have hdrop : (rest.take ((scan c rest).taken + n)).drop (scan c rest).taken = left := by
    rw [List.drop_take, Nat.add_sub_cancel_left]
  have hstart := triviaLength_take_eq_zero h0 ((scan c rest).taken + n)
  constructor
  · rw [trailing_append_cons hw hstart, hscan, hdrop]
  · intro offset
    rw [lexFrom_finished_append hw, lexFrom_cons hstart, hscan, htake, hdrop]

/-- **A text can be cut at each of its tokens.** -/
theorem exists_cut {offset : Nat} {cs : List Char} {before after : List Token} {t : Token}
    (h : lexFrom offset cs = before ++ t :: after) :
    ∃ xs piece zs, cs = xs ++ (piece ++ zs) ∧ Cut offset before t after xs piece zs := by
  induction cs using textInduction generalizing offset before with
  | trivia cs hcs =>
    rw [lexFrom_of_drop_eq_nil hcs] at h
    exact absurd h.symm (by simp)
  | token w c rest hw h0 ih =>
    rw [lexFrom_finished_append hw] at h
    have hlex := h
    rw [lexFrom_cons h0] at h
    have hpiece : ∀ {zs : List Char}, rest.drop (scan c rest).taken = zs →
        rest = rest.take (scan c rest).taken ++ zs := by
      rintro zs rfl
      exact (List.take_append_drop _ _).symm
    cases before with
    | nil =>
      -- the token is the first one, and only trivia stands before it
      obtain ⟨ht, -⟩ := List.cons.inj h
      refine ⟨w, c :: rest.take (scan c rest).taken, rest.drop (scan c rest).taken, ?_, ?_⟩
      · rw [List.cons_append, ← hpiece rfl]
      · refine ⟨List.cons_ne_nil _ _, ?_, ?_, ?_, ?_, ?_⟩
        · rw [← ht, byteLength_append, Nat.add_assoc]
        · rw [← ht]
          exact lex_own h0
        · rw [lexFrom_of_drop_eq_nil (drop_length_of_finished hw)]
        · rw [trailing_of_drop_eq_nil (drop_length_of_finished hw)]
          exact hw
        · rw [List.cons_append, ← hpiece rfl]
          exact hlex
    | cons u before =>
      -- the first token stands before the cut, and the rest is cut by the induction hypothesis
      obtain ⟨hu, hafter⟩ := List.cons.inj h
      obtain ⟨xs, piece, zs, hxs, hcut⟩ := ih hafter
      have hleft : (rest.drop (scan c rest).taken).take xs.length = xs := by
        rw [hxs, List.take_left]
      have hcutText : rest.take ((scan c rest).taken + xs.length) =
          rest.take (scan c rest).taken ++ xs := by
        rw [List.take_add, hleft]
      obtain ⟨htrailing, hfirst⟩ := lexFrom_take hw h0 xs.length
      rw [hleft, hcutText] at htrailing
      simp only [hleft, hcutText] at hfirst
      -- the token and the trivia before it count towards what stands before the cut
      have hbytes : ∀ ys, offset + byteLength w +
          byteLength (c :: rest.take (scan c rest).taken) + byteLength ys =
            offset + byteLength (w ++ c :: (rest.take (scan c rest).taken ++ ys)) := by
        intro ys
        rw [byteLength_append, ← List.cons_append, byteLength_append]
        omega
      refine ⟨w ++ c :: (rest.take (scan c rest).taken ++ xs), piece, zs, ?_, ?_⟩
      · rw [List.append_assoc, List.cons_append, List.append_assoc, ← hpiece hxs]
      · refine ⟨hcut.piece_ne, ?_, hcut.own, ?_, ?_, ?_⟩
        · rw [hcut.span, hbytes, hbytes]
          simp
        · rw [hfirst, hcut.lex_before, hu]
        · rw [htrailing]
          exact hcut.finished
        · rw [← hbytes]
          exact hcut.lex_from

end Token

end FindToSelect
