import FindToSelect.Proofs.Invocation.ArgumentEnd
import FindToSelect.Proofs.Text.Slices

/-!
# The language of invocations

What an invocation is, said without a search. Every character of a text is read in a mode
(`Mode`): in code, in quoted text, or in a comment. A parenthesis counts if it is read in code. The
argument list of a call is the shortest text from its first parenthesis on in which the parentheses
that count balance (`IsArgumentText`).

The search for the closing parenthesis skips quoted text and comments as a whole and counts what is
open. Two facts tie it to the modes:

* `closing?_eq_code_closing?` — it finds what a search finds that goes character by character and
  changes its mode at each (`Mode.closing?`);
* `Mode.closing?_spec` — that search never closes more than was opened, and where it ends, as much
  is closed as was opened.

`Invocation.Outcome` lists what a text can be, `Invocation.outcome_ofText` says that every text is
one of these, and `Invocation.split_classifies` turns it around: which texts are taken apart, into
what, and which failure every other text has.
-/

namespace FindToSelect

/-! ### Modes -/

/-- **What the characters of a text are read as.** -/
inductive Mode where
  | code
  /-- Code behind a slash, which opens a comment with a slash or a star. -/
  | slash
  | quoted (quote : Char)
  /-- Quoted text behind a backslash. -/
  | escaped (quote : Char)
  | line
  | block
  /-- A block comment behind a star. -/
  | starred
deriving DecidableEq

namespace Mode

/-- The mode behind a character of code that does not make a slash before it a comment. -/
def ofCode (c : Char) : Mode :=
  if c = '"' ∨ c = '\'' then .quoted c
  else if c = '/' then .slash
  else .code

/-- **The mode behind a character.** -/
def next : Mode → Char → Mode
  | .code, c => ofCode c
  | .slash, c => if c = '/' then .line else if c = '*' then .block else ofCode c
  | .quoted quote, c =>
    if c = quote then .code else if c = '\\' then .escaped quote else .quoted quote
  | .escaped quote, _ => .quoted quote
  | .line, c => if c = '\n' then .code else .line
  | .block, c => if c = '*' then .starred else .block
  | .starred, c => if c = '/' then .code else if c = '*' then .starred else .block

/-- Whether a parenthesis counts. -/
def isCode : Mode → Bool
  | .code | .slash => true
  | _ => false

/-- Whether a character is a `mark` that counts: one or none. -/
def marks (m : Mode) (mark c : Char) : Nat :=
  if m.isCode = true ∧ c = mark then 1 else 0

/-- **The number of `mark`s of a text that count.** -/
def count (mark : Char) : Mode → List Char → Nat
  | _, [] => 0
  | m, c :: cs => m.marks mark c + (m.next c).count mark cs

/-! ### The search, character by character -/

/-- **What is open behind a character** if `depth` is before it; nothing if it closes what is not
open. -/
def depth? (m : Mode) (depth : Nat) (c : Char) : Option Nat :=
  if m.isCode = true ∧ c = '(' then some (depth + 1)
  else if m.isCode = true ∧ c = ')' then
    match depth with
    | 0 => none
    | depth + 1 => some depth
  else some depth

/-- **The number of characters before the closing parenthesis.** -/
def closing? : Mode → Nat → List Char → Option Nat
  | _, _, [] => none
  | m, depth, c :: cs =>
    match m.depth? depth c with
    | none => some 0
    | some depth' => ((m.next c).closing? depth' cs).map (· + 1)

/-- **One character changes what is open** by what it opens and what it closes. -/
theorem depth?_eq_some {m : Mode} {depth depth' : Nat} {c : Char}
    (h : m.depth? depth c = some depth') :
    depth' + m.marks ')' c = depth + m.marks '(' c := by
  unfold depth? at h
  unfold marks
  split at h
  · next hopen =>
    -- a parenthesis that opens does not close
    have hclose : ¬ (m.isCode = true ∧ c = ')') := by
      rintro ⟨-, rfl⟩
      exact absurd hopen.2 (by decide)
    cases h
    rw [if_pos hopen, if_neg hclose]
  · next hopen =>
    rw [if_neg hopen]
    split at h
    · next hclose =>
      rw [if_pos hclose]
      cases depth with
      | zero => cases h
      | succ depth =>
        cases h
        rfl
    · next hclose =>
      rw [if_neg hclose]
      cases h
      rfl

/-- The search stops at a parenthesis that closes what is not open. -/
theorem depth?_eq_none {m : Mode} {depth : Nat} {c : Char} (h : m.depth? depth c = none) :
    m.isCode = true ∧ c = ')' ∧ depth = 0 := by
  unfold depth? at h
  split at h
  · cases h
  split at h
  · next hclose =>
    cases depth with
    | zero => exact ⟨hclose.1, hclose.2, rfl⟩
    | succ depth => cases h
  · cases h

/-- Outside code nothing is opened or closed. -/
theorem depth?_of_not_isCode {m : Mode} (h : m.isCode = false) (depth : Nat) (c : Char) :
    m.depth? depth c = some depth := by
  simp [depth?, h]

theorem closing?_cons_of_not_isCode {m : Mode} (h : m.isCode = false) (depth : Nat) (c : Char)
    (cs : List Char) : m.closing? depth (c :: cs) = ((m.next c).closing? depth cs).map (· + 1) := by
  rw [closing?, depth?_of_not_isCode h]

/-- **The search goes over the rest of quoted text.** -/
theorem closing?_quoted (quote : Char) (depth : Nat) (cs : List Char) :
    (quoted quote).closing? depth cs =
      (code.closing? depth (cs.drop (quotedLength quote cs))).map (· + quotedLength quote cs) := by
  -- along the length of quoted text, which is what the search skips
  fun_induction quotedLength quote cs with
  | case1 => rfl
  | case2 cs =>
    rw [closing?_cons_of_not_isCode rfl, next, if_pos rfl]
    rfl
  | case3 hq =>
    -- a backslash at the end of the text
    rw [closing?_cons_of_not_isCode rfl, next, if_neg hq, if_pos rfl]
    rfl
  | case4 d rest hq ih =>
    -- a backslash takes the next character along, which is one more step here
    rw [closing?_cons_of_not_isCode rfl, next, if_neg hq, if_pos rfl,
      closing?_cons_of_not_isCode rfl, next, ih, map_add_map_add, map_add_map_add]
    rfl
  | case5 c cs hq hb ih =>
    rw [closing?_cons_of_not_isCode rfl, next, if_neg hq, if_neg hb, ih, map_add_map_add]
    rfl

/-- **The search goes over the rest of a line.** -/
theorem closing?_line (depth : Nat) (cs : List Char) :
    line.closing? depth cs =
      (code.closing? depth (cs.drop (Trivia.lineLength cs))).map (· + Trivia.lineLength cs) := by
  induction cs with
  | nil => rfl
  | cons c cs ih =>
    rw [closing?_cons_of_not_isCode rfl, next, Trivia.lineLength]
    split
    · rfl
    · rw [ih, map_add_map_add]
      rfl

/-- **The search goes over the rest of a block comment**, entered behind its start or behind a star
in it. -/
theorem closing?_block (depth : Nat) (cs : List Char) :
    block.closing? depth cs = (code.closing? depth (cs.drop (starredLength false cs))).map
        (· + starredLength false cs) ∧
      starred.closing? depth cs = (code.closing? depth (cs.drop (starredLength true cs))).map
        (· + starredLength true cs) := by
  induction cs with
  | nil => exact ⟨rfl, rfl⟩
  | cons c cs ih =>
    -- behind `c` the comment goes on, with or without a star before the text
    have hgo : ((if c = '*' then starred else block).closing? depth cs).map (· + 1) =
        (code.closing? depth (cs.drop (starredLength (c == '*') cs))).map
          (· + (starredLength (c == '*') cs + 1)) := by
      by_cases hc : c = '*'
      · rw [if_pos hc, ih.2, map_add_map_add, beq_iff_eq.2 hc]
      · rw [if_neg hc, ih.1, map_add_map_add, beq_eq_false_iff_ne.2 hc]
    constructor
    · have hlen : starredLength false (c :: cs) = starredLength (c == '*') cs + 1 := by
        simp [starredLength]
      rw [closing?_cons_of_not_isCode rfl, next, hgo, hlen, List.drop_succ_cons]
    · -- behind a star, a slash ends the comment
      rw [closing?_cons_of_not_isCode rfl, next]
      by_cases hs : c = '/'
      · subst hs
        rfl
      · have hlen : starredLength true (c :: cs) = starredLength (c == '*') cs + 1 := by
          simp [starredLength, hs]
        rw [if_neg hs, hgo, hlen, List.drop_succ_cons]

/-- **The search goes over the comment that a slash opens**, if it opens one. -/
theorem closing?_slash (depth : Nat) (cs : List Char) :
    slash.closing? depth cs =
      (code.closing? depth (cs.drop (skippedLength cs))).map (· + skippedLength cs) := by
  cases cs with
  | nil => rfl
  | cons c cs =>
    by_cases hs : c = '/'
    · subst hs
      have hgo : slash.closing? depth ('/' :: cs) = (line.closing? depth cs).map (· + 1) := rfl
      rw [hgo, closing?_line, map_add_map_add, skippedLength_line, List.drop_succ_cons]
    by_cases hstar : c = '*'
    · subst hstar
      have hgo : slash.closing? depth ('*' :: cs) = (block.closing? depth cs).map (· + 1) := rfl
      rw [hgo, (closing?_block depth cs).1, map_add_map_add]
      rfl
    · -- no comment, and the character is one of code
      have hlen : skippedLength (c :: cs) = 0 := by
        simp [skippedLength, hs, hstar]
      have hnext : slash.next c = code.next c := by
        simp [next, hs, hstar]
      rw [hlen, List.drop_zero, closing?, closing?, hnext]
      simp only [Nat.add_zero, Option.map_id']
      rfl

/-- In code, the search goes on behind any other character. -/
theorem closing?_cons_of_ne {c : Char} (ho : c ≠ '(') (hc : c ≠ ')') (depth : Nat)
    (cs : List Char) :
    code.closing? depth (c :: cs) = ((ofCode c).closing? depth cs).map (· + 1) := by
  have hdepth : code.depth? depth c = some depth := by
    simp only [depth?, ho, hc, and_false, if_false]
  rw [closing?, hdepth]
  rfl

end Mode

/-- **The search finds what a search by characters finds.** -/
theorem closing?_eq_code_closing? (depth : Nat) (cs : List Char) :
    closing? depth cs = Mode.code.closing? depth cs := by
  -- one case for each branch of the search: quoted text, a slash, and the two parentheses; what a
  -- branch skips is gone over by the lemma of its mode
  fun_induction closing? depth cs with
  | case1 => rfl
  | case2 depth c cs hq n ih =>
    have hparen : c ≠ '(' ∧ c ≠ ')' := by rcases hq with rfl | rfl <;> decide
    rw [ih, Mode.closing?_cons_of_ne hparen.1 hparen.2, Mode.ofCode, if_pos hq,
      Mode.closing?_quoted, map_add_map_add]
    rfl
  | case3 depth cs n hq ih =>
    rw [ih, Mode.closing?_cons_of_ne (by decide) (by decide)]
    change _ = (Mode.slash.closing? depth cs).map (· + 1)
    rw [Mode.closing?_slash, map_add_map_add]
    rfl
  | case4 depth cs hq hs ih =>
    rw [ih]
    rfl
  | case5 => rfl
  | case6 cs hq hs ho depth ih =>
    rw [ih]
    rfl
  | case7 depth c cs hq hs ho hc ih =>
    rw [ih, Mode.closing?_cons_of_ne ho hc, Mode.ofCode, if_neg hq, if_neg hs]

namespace Mode

/-! ### What the search finds -/

/-- **A text that closes at most `depth` more than it opens**, up to each of its characters. -/
def Within (m : Mode) (depth : Nat) (cs : List Char) : Prop :=
  ∀ ds, ds <+: cs → m.count ')' ds ≤ m.count '(' ds + depth

/-- One character, and what is open behind it. -/
theorem Within.cons {m : Mode} {depth depth' : Nat} {c : Char} {cs : List Char}
    (hstep : m.depth? depth c = some depth') (h : (m.next c).Within depth' cs) :
    m.Within depth (c :: cs) := by
  intro ds hds
  cases ds with
  | nil => exact Nat.zero_le _
  | cons d ds =>
    obtain ⟨rfl, htail⟩ := List.cons_prefix_cons.1 hds
    have hopen := depth?_eq_some hstep
    have hrest := h ds htail
    simp only [count]
    omega

/-- **What the search finds, and what it has read then.** Up to the end of the text, or up to the
parenthesis that it finds, nothing is closed that was not open; and at that parenthesis nothing is
open any more. -/
theorem closing?_spec (m : Mode) (depth : Nat) (cs : List Char) :
    (m.closing? depth cs = none ∧ m.Within depth cs) ∨
      ∃ xs s, cs = xs ++ ')' :: s ∧ m.closing? depth cs = some xs.length ∧ m.Within depth xs ∧
        m.count '(' (xs ++ [')']) + depth + 1 = m.count ')' (xs ++ [')']) := by
  -- the mode and what is open change at every character, so both are general
  induction cs generalizing m depth with
  | nil =>
    refine Or.inl ⟨rfl, fun ds hds => ?_⟩
    rw [List.prefix_nil.1 hds]
    exact Nat.zero_le _
  | cons c cs ih =>
    cases hstep : m.depth? depth c with
    | none =>
      -- the parenthesis that closes what was open before the text
      obtain ⟨hcode, rfl, rfl⟩ := depth?_eq_none hstep
      refine Or.inr ⟨[], cs, rfl, by rw [closing?, hstep]; rfl, fun ds hds => ?_, ?_⟩
      · rw [List.prefix_nil.1 hds]
        exact Nat.zero_le _
      · simp [count, marks, hcode]
    | some depth' =>
      -- any other character: what is open behind it carries the induction
      have hgo : m.closing? depth (c :: cs) = ((m.next c).closing? depth' cs).map (· + 1) := by
        rw [closing?, hstep]
      have hopen := depth?_eq_some hstep
      rcases ih (m.next c) depth' with ⟨hnone, hwithin⟩ | ⟨xs, s, rfl, hsome, hwithin, hcount⟩
      · exact Or.inl ⟨by rw [hgo, hnone]; rfl, hwithin.cons hstep⟩
      · refine Or.inr ⟨c :: xs, s, rfl, by rw [hgo, hsome]; rfl, hwithin.cons hstep, ?_⟩
        simp only [List.cons_append, count]
        omega

/-- A text that closes no more than is open starts with a character that does not either. -/
theorem Within.exists_depth? {m : Mode} {depth : Nat} {c : Char} {cs : List Char}
    (h : m.Within depth (c :: cs)) :
    ∃ depth', m.depth? depth c = some depth' ∧ (m.next c).Within depth' cs := by
  cases hstep : m.depth? depth c with
  | none =>
    -- a parenthesis that closes what is not open
    obtain ⟨hcode, rfl, rfl⟩ := depth?_eq_none hstep
    have hone := h [')'] (List.prefix_append [')'] cs)
    simp [count, marks, hcode] at hone
  | some depth' =>
    refine ⟨depth', rfl, fun ds hds => ?_⟩
    have hopen := depth?_eq_some hstep
    -- a front of the rest is, with the character, a front of the text
    have hall := h (c :: ds) (List.cons_prefix_cons.2 ⟨rfl, hds⟩)
    simp only [count] at hall
    omega

/-- **What the search has counted is what is open.** -/
theorem closing?_append {m : Mode} {depth : Nat} {xs : List Char} (h : m.Within depth xs)
    (ys : List Char) :
    m.closing? depth (xs ++ ys) =
      ((xs.foldl next m).closing? (depth + m.count '(' xs - m.count ')' xs) ys).map
        (· + xs.length) := by
  induction xs generalizing m depth with
  | nil => simp [count]
  | cons c xs ih =>
    obtain ⟨depth', hstep, hrest⟩ := h.exists_depth?
    have hopen := depth?_eq_some hstep
    have hcount : depth + m.count '(' (c :: xs) - m.count ')' (c :: xs) =
        depth' + (m.next c).count '(' xs - (m.next c).count ')' xs := by
      simp only [count]
      omega
    rw [List.cons_append, closing?, hstep, hcount]
    simp only [ih hrest, map_add_map_add, List.foldl_cons, List.length_cons]

end Mode

/-! ### Argument lists -/

/-- **A text in which the parentheses that count balance.** -/
def Balanced (cs : List Char) : Prop :=
  Mode.code.count '(' cs = Mode.code.count ')' cs

instance : DecidablePred Balanced :=
  fun cs => inferInstanceAs (Decidable (Mode.code.count '(' cs = Mode.code.count ')' cs))

/-- **An argument list with its parentheses**: it starts with one, and balances at its end and not
before. -/
structure IsArgumentText (cs : List Char) : Prop where
  opened : cs.head? = some '('
  balanced : Balanced cs
  first : ∀ ds, ds ≠ [] → ds <+: cs → Balanced ds → ds = cs

theorem IsArgumentText.ne_nil {cs : List Char} (h : IsArgumentText cs) : cs ≠ [] := by
  rintro rfl
  cases h.opened

/-- **A text starts with one argument list at most.** -/
theorem IsArgumentText.unique {as bs cs : List Char} (ha : IsArgumentText as)
    (hb : IsArgumentText bs) (has : as <+: cs) (hbs : bs <+: cs) : as = bs := by
  rcases List.prefix_or_prefix_of_prefix has hbs with h | h
  · exact hb.first as ha.ne_nil h ha.balanced
  · exact (ha.first bs hb.ne_nil h hb.balanced).symm

theorem count_open_cons (cs : List Char) :
    Mode.code.count '(' ('(' :: cs) = Mode.code.count '(' cs + 1 := by
  rw [Mode.count, Nat.add_comm]
  rfl

theorem count_close_cons (cs : List Char) :
    Mode.code.count ')' ('(' :: cs) = Mode.code.count ')' cs := by
  rw [Mode.count]
  exact Nat.zero_add _

/-- Behind an open parenthesis, nothing balances while nothing is closed that was not open. -/
theorem count_lt_of_within {xs : List Char} (h : Mode.code.Within 0 xs) {ds : List Char}
    (hne : ds ≠ []) (hds : ds <+: '(' :: xs) :
    Mode.code.count ')' ds < Mode.code.count '(' ds := by
  cases ds with
  | nil => exact absurd rfl hne
  | cons d ds =>
    obtain ⟨rfl, htail⟩ := List.cons_prefix_cons.1 hds
    rw [count_open_cons, count_close_cons]
    exact Nat.lt_succ_of_le (h ds htail)

/-- **The search finds the end of the argument list**, or there is none. -/
theorem closing?_cases (cs : List Char) :
    (closing? 0 cs = none ∧ Mode.code.Within 0 cs) ∨
      ∃ xs s, cs = xs ++ ')' :: s ∧ closing? 0 cs = some xs.length ∧ Mode.code.Within 0 xs ∧
        IsArgumentText ('(' :: (xs ++ [')'])) := by
  rw [closing?_eq_code_closing?]
  rcases Mode.closing?_spec .code 0 cs with hnone | ⟨xs, s, rfl, hsome, hwithin, hcount⟩
  · exact Or.inl hnone
  · refine Or.inr ⟨xs, s, rfl, hsome, hwithin, rfl, ?_, fun ds hne hds hbalanced => ?_⟩
    -- with the first parenthesis, as much is opened as is closed
    · rw [Balanced, count_open_cons, count_close_cons]
      exact hcount
    · -- a shorter text is one of the texts before the parenthesis that the search finds
      rw [← List.cons_append, List.prefix_concat_iff] at hds
      rcases hds with rfl | hds
      · rfl
      · exact absurd hbalanced (Nat.ne_of_gt (count_lt_of_within hwithin hne hds))

/-! ### Invocations -/

namespace Invocation

/-- **A call of a method of a collection**: `rest` starts with its first parenthesis. -/
structure IsCall (text collection method rest : List Char) : Prop where
  eq : text = ['d', 'b', '.'] ++ collection ++ ['.'] ++ method ++ rest
  collection_ne : collection ≠ []
  period : '.' ∉ collection
  parenthesis : '(' ∉ method
  opened : rest.head? = some '('

/-- A call on no collection is refused as one. -/
theorem ofText_noCollection {text : List Char} (h : ['d', 'b', '.', '.'] <+: text) :
    ofText text = .error .noCollection := by
  obtain ⟨rest, rfl⟩ := h
  rfl

/-- What is left of a call behind its collection. -/
theorem IsCall.ofText_eq {text collection method rest : List Char}
    (h : IsCall text collection method rest) :
    ofText text = ofCall collection (method ++ rest) := by
  -- the first period stands behind `db`, and the next behind the collection
  have hstart : splitFirst? '.' text = some (['d', 'b'], collection ++ '.' :: (method ++ rest)) :=
    splitFirst?_eq_some_iff.2 ⟨by rw [h.eq]; simp, by decide⟩
  have hcollection : splitFirst? '.' (collection ++ '.' :: (method ++ rest)) =
      some (collection, method ++ rest) :=
    splitFirst?_eq_some_iff.2 ⟨rfl, h.period⟩
  have hne : text ≠ [] := by
    rw [h.eq]
    simp
  rw [ofText, if_neg hne, hstart]
  simp [hcollection, h.collection_ne]

/-- **What becomes of a call.** -/
theorem IsCall.cases {text collection method rest : List Char}
    (h : IsCall text collection method rest) :
    (method ≠ findMethod.toList ∧
        ofText text = .error (.unsupportedMethod (String.ofList method))) ∨
      method = findMethod.toList ∧
        ((ofText text = .error .unbalanced ∧ ∀ ds, ds ≠ [] → ds <+: rest → ¬ Balanced ds) ∨
          ∃ xs behind, rest = '(' :: (xs ++ [')']) ++ behind ∧
            IsArgumentText ('(' :: (xs ++ [')'])) ∧
            ofText text =
              .ok ⟨String.ofList collection, String.ofList xs, ignoredText behind⟩) := by
  obtain ⟨inner, rfl⟩ := List.head?_eq_some_iff.1 h.opened
  -- the method ends at the first parenthesis, since it has none itself
  have hsplit : splitFirst? '(' (method ++ '(' :: inner) = some (method, inner) :=
    splitFirst?_eq_some_iff.2 ⟨rfl, h.parenthesis⟩
  rw [h.ofText_eq, ofCall, hsplit]
  by_cases hm : method = findMethod.toList
  · refine Or.inr ⟨hm, ?_⟩
    simp only [ne_eq, hm, not_true_eq_false, if_false]
    -- the method is `find`, so the end of the argument list is searched for
    rcases closing?_cases inner with ⟨hnone, hwithin⟩ | ⟨xs, s, rfl, hsome, -, hargument⟩
    · refine Or.inl ⟨by rw [hnone], fun ds hne hds => ?_⟩
      exact Nat.ne_of_gt (count_lt_of_within hwithin hne hds)
    · refine Or.inr ⟨xs, s, by simp, hargument, ?_⟩
      rw [hsome]
      simp
  · refine Or.inl ⟨hm, ?_⟩
    simp only [ne_eq, hm, not_false_eq_true, if_true]

/-- **Every text** is empty, has no collection, is a call, or has the wrong form. -/
theorem ofText_cases (text : List Char) :
    text = [] ∨ ['d', 'b', '.', '.'] <+: text ∨
      (∃ collection method rest, IsCall text collection method rest) ∨
        ∃ why, ofText text = .error (.malformed why) := by
  unfold ofText ofCall
  -- from left to right, as the text is taken apart
  split
  · next hempty => exact Or.inl hempty
  split
  · exact Or.inr (Or.inr (Or.inr ⟨_, rfl⟩))
  next start rest hstart =>
  split
  · exact Or.inr (Or.inr (Or.inr ⟨_, rfl⟩))
  next hdb =>
  split
  · exact Or.inr (Or.inr (Or.inr ⟨_, rfl⟩))
  next collection call hcollection =>
  obtain ⟨rfl, -⟩ := splitFirst?_eq_some_iff.1 hstart
  obtain ⟨rfl, hperiod⟩ := splitFirst?_eq_some_iff.1 hcollection
  rw [Decidable.not_not.1 hdb]
  split
  · next hnil =>
    subst hnil
    exact Or.inr (Or.inl (List.prefix_append _ call))
  next hne =>
  split
  · exact Or.inr (Or.inr (Or.inr ⟨_, rfl⟩))
  next method inner hmethod =>
  obtain ⟨rfl, hparenthesis⟩ := splitFirst?_eq_some_iff.1 hmethod
  exact Or.inr (Or.inr (Or.inl
    ⟨collection, method, '(' :: inner, by simp, hne, hperiod, hparenthesis, rfl⟩))

/-- A call is never refused for its form. -/
theorem IsCall.ne_malformed {text collection method rest : List Char}
    (h : IsCall text collection method rest) (why : Malformation) :
    ofText text ≠ .error (.malformed why) := by
  rcases h.cases with ⟨-, he⟩ | ⟨-, ⟨he, -⟩ | ⟨_, _, -, -, he⟩⟩ <;> rw [he] <;> nofun

/-- **What a text is taken apart into, or why it is refused.** -/
inductive Outcome (text : List Char) : Except Failure Invocation → Prop
  | empty : text = [] → Outcome text (.error .emptyQuery)
  | noCollection : ['d', 'b', '.', '.'] <+: text → Outcome text (.error .noCollection)
  | unsupported {collection method rest : List Char} : IsCall text collection method rest →
      method ≠ findMethod.toList → Outcome text (.error (.unsupportedMethod (String.ofList method)))
  | unbalanced {collection rest : List Char} : IsCall text collection findMethod.toList rest →
      (∀ ds, ds ≠ [] → ds <+: rest → ¬ Balanced ds) → Outcome text (.error .unbalanced)
  | taken {collection xs behind : List Char} :
      IsCall text collection findMethod.toList ('(' :: (xs ++ [')']) ++ behind) →
        IsArgumentText ('(' :: (xs ++ [')'])) →
          Outcome text (.ok ⟨String.ofList collection, String.ofList xs, ignoredText behind⟩)
  | malformed {why : Malformation} : text ≠ [] → ¬ ['d', 'b', '.', '.'] <+: text →
      (∀ collection method rest, ¬ IsCall text collection method rest) →
        Outcome text (.error (.malformed why))

/-- **Every text has its outcome.** -/
theorem outcome_ofText (text : List Char) : Outcome text (ofText text) := by
  rcases ofText_cases text with rfl | hdots | ⟨collection, method, rest, hcall⟩ | ⟨why, he⟩
  · exact .empty rfl
  · rw [ofText_noCollection hdots]
    exact .noCollection hdots
  · rcases hcall.cases with ⟨hm, he⟩ | ⟨rfl, ⟨he, hopen⟩ | ⟨xs, behind, rfl, hargument, he⟩⟩
    · rw [he]
      exact .unsupported hcall hm
    · rw [he]
      exact .unbalanced hcall hopen
    · rw [he]
      exact .taken hcall hargument
  · -- none of the others is malformed
    rw [he]
    refine .malformed ?_ (fun hdots => ?_) fun _ _ _ hcall => hcall.ne_malformed why he
    · rintro rfl
      cases he
    · rw [ofText_noCollection hdots] at he
      cases he

/-- The result for a text is one of its outcomes. -/
theorem outcome_of_eq {text : List Char} {result : Except Failure Invocation}
    (h : ofText text = result) : Outcome text result := by
  rw [← h]
  exact outcome_ofText text

theorem toList_argumentText (i : Invocation) :
    i.argumentText.toList = '(' :: (i.arguments.toList ++ [')']) := by
  simp [argumentText]

/-- **The texts that are taken apart.** -/
theorem ofText_eq_ok_iff_isCall {text collection arguments : List Char} :
    (∃ i, ofText text = .ok i ∧ i.collection.toList = collection ∧
        i.argumentText.toList = arguments) ↔
      ∃ rest, IsCall text collection findMethod.toList (arguments ++ rest) ∧
        IsArgumentText arguments := by
  constructor
  · rintro ⟨i, hi, rfl, rfl⟩
    cases outcome_of_eq hi with
    | taken hcall hargument =>
      rw [toList_argumentText, String.toList_ofList, String.toList_ofList]
      exact ⟨_, hcall, hargument⟩
  · rintro ⟨rest, hcall, hargument⟩
    have hstart : arguments <+: arguments ++ rest := List.prefix_append _ _
    rcases hcall.cases with ⟨hm, -⟩ | ⟨-, ⟨-, hopen⟩ | ⟨xs, behind, heq, hargument', he⟩⟩
    · exact absurd rfl hm
    · exact absurd hargument.balanced (hopen arguments hargument.ne_nil hstart)
    · -- the argument list that is found is the one that is there
      obtain rfl : arguments = '(' :: (xs ++ [')']) :=
        hargument.unique hargument' hstart ⟨behind, heq.symm⟩
      refine ⟨_, he, String.toList_ofList, ?_⟩
      rw [toList_argumentText, String.toList_ofList]

/-- **The calls of other methods.** -/
theorem ofText_eq_unsupportedMethod_iff {text : List Char} {method : String} :
    ofText text = .error (.unsupportedMethod method) ↔
      method ≠ findMethod ∧ ∃ collection rest, IsCall text collection method.toList rest := by
  constructor
  · intro h
    cases outcome_of_eq h with
    | @unsupported collection method rest hcall hm =>
      refine ⟨fun he => hm ?_, collection, rest, ?_⟩
      · rw [← he, String.toList_ofList]
      · rw [String.toList_ofList]
        exact hcall
  · rintro ⟨hm, collection, rest, hcall⟩
    rcases hcall.cases with ⟨-, he⟩ | ⟨he, -⟩
    · rw [he, String.ofList_toList]
    · exact absurd (String.toList_inj.1 he) hm

/-- **The calls whose argument list does not end.** -/
theorem ofText_eq_unbalanced_iff {text : List Char} :
    ofText text = .error .unbalanced ↔
      ∃ collection rest, IsCall text collection findMethod.toList rest ∧
        ∀ ds, ds ≠ [] → ds <+: rest → ¬ Balanced ds := by
  constructor
  · intro h
    cases outcome_of_eq h with
    | unbalanced hcall hopen => exact ⟨_, _, hcall, hopen⟩
  · rintro ⟨collection, rest, hcall, hopen⟩
    rcases hcall.cases with ⟨hm, -⟩ | ⟨-, ⟨he, -⟩ | ⟨xs, behind, rfl, hargument, -⟩⟩
    · exact absurd rfl hm
    · exact he
    · exact absurd hargument.balanced (hopen _ (List.cons_ne_nil _ _) (List.prefix_append _ _))

/-- **The texts of another form.** -/
theorem ofText_eq_malformed_iff {text : List Char} :
    (∃ why, ofText text = .error (.malformed why)) ↔
      text ≠ [] ∧ ¬ ['d', 'b', '.', '.'] <+: text ∧
        ∀ collection method rest, ¬ IsCall text collection method rest := by
  constructor
  · rintro ⟨why, h⟩
    cases outcome_of_eq h with
    | malformed hne hdots hcall => exact ⟨hne, hdots, hcall⟩
  · rintro ⟨hne, hdots, hcall⟩
    rcases ofText_cases text with hempty | hdots' | ⟨_, _, _, hcall'⟩ | hmalformed
    · exact absurd hempty hne
    · exact absurd hdots' hdots
    · exact absurd hcall' (hcall _ _ _)
    · exact hmalformed

end Invocation

/-! ### Text behind a query -/

/-- Only blanks are cut off at the end. -/
theorem Text.exists_eq_trimEnd_append (cs : List Char) : ∃ blanks, cs = trimEnd cs ++ blanks := by
  have hsuffix := List.dropWhile_suffix (l := cs.reverse) isBlank
  rw [← List.reverse_prefix, List.reverse_reverse] at hsuffix
  obtain ⟨blanks, h⟩ := hsuffix
  exact ⟨blanks, h.symm⟩

/-- Text behind another leaves that as it is, up to any character of it that is no blank. -/
theorem Text.exists_trim_append {cs xs ys : List Char} {c : Char} (hc : isBlank c = false)
    (h : trim cs = xs ++ c :: ys) (ds : List Char) :
    ∃ zs, trim (cs ++ ds) = xs ++ c :: zs := by
  obtain ⟨blanks, hblanks⟩ := exists_eq_trimEnd_append (trimStart cs)
  have hstart : trimStart cs = xs ++ c :: (ys ++ blanks) := by
    rw [hblanks]
    change trim cs ++ blanks = _
    rw [h]
    simp
  -- the start of the text is not blank all over, so more text behind it is not cut into
  have hnot : (trimStart cs).isEmpty = false := by
    rw [hstart]
    simp
  have happend : trimStart (cs ++ ds) = trimStart cs ++ ds := by
    rw [trimStart, List.dropWhile_append]
    exact if_neg (by rw [← trimStart, hnot]; simp)
  refine ⟨trimEnd (ys ++ blanks ++ ds), ?_⟩
  rw [trim, happend, hstart, List.append_assoc, List.cons_append, trimEnd_append_cons hc]

namespace Invocation

/-- **The counter of the search** before the end of the argument list: the first parenthesis is open
at every place, and at a place of code the counter is the number of the others. -/
theorem closing?_counter {xs : List Char}
    (hopen : ∀ ds, ds ≠ [] → ds <+: '(' :: xs → ¬ Balanced ds) :
    Mode.code.count ')' ('(' :: xs) < Mode.code.count '(' ('(' :: xs) ∧
      (xs.foldl Mode.next .code = .code → ∀ ys, closing? 0 (xs ++ ys) =
        (closing? (Mode.code.count '(' ('(' :: xs) - Mode.code.count ')' ('(' :: xs) - 1) ys).map
          (· + xs.length)) := by
  -- if the search found an end within `xs`, the text up to it would balance
  have hwithin : Mode.code.Within 0 xs := by
    rcases closing?_cases xs with ⟨-, hwithin⟩ | ⟨zs, s, rfl, -, -, hargument⟩
    · exact hwithin
    · exact absurd hargument.balanced (hopen _ (List.cons_ne_nil _ _) ⟨s, by simp⟩)
  refine ⟨count_lt_of_within hwithin (List.cons_ne_nil _ _) (List.prefix_refl _), ?_⟩
  intro hcode ys
  have happend := Mode.closing?_append hwithin ys
  rw [hcode, ← closing?_eq_code_closing?, ← closing?_eq_code_closing?] at happend
  rw [happend, count_open_cons, count_close_cons]
  congr 2
  omega

/-- **The slices by which an invocation is cut out of the call** behind its collection, all of them
between ends of characters. -/
structure IsCut (call : List Char) (i : Invocation) : Prop where
  method : sliceBytes? 0 (byteLength "find".toList) call = some "find".toList
  arguments : sliceBytes? (byteLength "find".toList)
    (byteLength ("find".toList ++ i.argumentText.toList)) call = some i.argumentText.toList
  behind : ∃ behind, sliceBytes? (byteLength ("find".toList ++ i.argumentText.toList))
    (byteLength call) call = some behind ∧ ignoredText behind = i.ignored
  inner : sliceBytes? 1 (byteLength i.argumentText.toList - 1) i.argumentText.toList =
    some i.arguments.toList

/-- **An invocation is cut out of its text** at ends of characters. -/
theorem isCut_of_ofText {text : List Char} {i : Invocation} (h : ofText text = .ok i) :
    ∃ call, text = ['d', 'b', '.'] ++ i.collection.toList ++ ['.'] ++ call ∧ IsCut call i := by
  cases outcome_of_eq h with
  | @taken collection xs behind hcall hargument =>
    have htext :
        (argumentText ⟨String.ofList collection, String.ofList xs, ignoredText behind⟩).toList =
          '(' :: (xs ++ [')']) := by
      rw [toList_argumentText, String.toList_ofList]
    refine ⟨findMethod.toList ++ ('(' :: (xs ++ [')']) ++ behind), ?_, ?_, ?_, ?_, ?_⟩
    · rw [hcall.eq, String.toList_ofList, List.append_assoc _ findMethod.toList]
    · exact sliceBytes?_append [] findMethod.toList _
    · rw [htext]
      exact sliceBytes?_append _ _ behind
    · have hslice :=
        sliceBytes?_append (findMethod.toList ++ '(' :: (xs ++ [')'])) behind []
      rw [List.append_nil, List.append_assoc] at hslice
      rw [htext]
      exact ⟨behind, hslice, rfl⟩
    · have hslice := sliceBytes?_append ['('] xs [')']
      -- the inner slice leaves out one parenthesis on each side, of one byte each
      have hstop : byteLength ('(' :: (xs ++ [')'])) - 1 = byteLength (['('] ++ xs) := by
        rw [← List.singleton_append, ← List.append_assoc, byteLength_append]
        rfl
      rw [htext, hstop, String.toList_ofList]
      exact hslice

/-- **Text behind an invocation changes nothing in it.** -/
theorem split_append {query : String} {i : Invocation} (h : split query = .ok i) (more : String) :
    ∃ i', split (query ++ more) = .ok i' ∧ i'.collection = i.collection ∧
      i'.arguments = i.arguments := by
  obtain ⟨rest, hcall, hargument⟩ := ofText_eq_ok_iff_isCall.1 ⟨i, h, rfl, rfl⟩
  -- the closing parenthesis is no blank, so trimming leaves all the text up to it
  have htext : Text.trim query.toList =
      (['d', 'b', '.'] ++ i.collection.toList ++ ['.'] ++ findMethod.toList ++
        '(' :: i.arguments.toList) ++ ')' :: rest := by
    rw [hcall.eq, toList_argumentText]
    simp
  obtain ⟨rest', htrim⟩ := Text.exists_trim_append (by decide) htext more.toList
  -- so with more text behind it, it is a call with the same argument list
  have hcall' : IsCall (Text.trim (query ++ more).toList) i.collection.toList findMethod.toList
      (i.argumentText.toList ++ rest') := by
    refine ⟨?_, hcall.collection_ne, hcall.period, hcall.parenthesis, ?_⟩
    · rw [String.toList_append, htrim, toList_argumentText]
      simp
    · rw [toList_argumentText]
      rfl
  obtain ⟨i', hi', hcollection, harguments⟩ :=
    ofText_eq_ok_iff_isCall.2 ⟨rest', hcall', hargument⟩
  refine ⟨i', hi', String.toList_inj.1 hcollection, ?_⟩
  rw [toList_argumentText, toList_argumentText] at harguments
  exact String.toList_inj.1 (List.append_cancel_right (List.cons.inj harguments).2)

/-- **The language of invocations, and what every other text is.** A text, its blanks cut off, is
taken apart exactly if it calls `find` on a collection with an argument list; every other text has
the failure that its form says. The counter of the search is positive at every place before the end
of the argument list, all slices lie between ends of characters, and text behind an invocation
changes nothing in it. -/
theorem split_classifies (query : String) :
    let text := Text.trim query.toList
    (∀ collection arguments,
      (∃ i, split query = .ok i ∧ i.collection.toList = collection ∧
          i.argumentText.toList = arguments) ↔
        ∃ rest, IsCall text collection "find".toList (arguments ++ rest) ∧
          IsArgumentText arguments) ∧
    (split query = .error .emptyQuery ↔ text = []) ∧
    (split query = .error .noCollection ↔ ['d', 'b', '.', '.'] <+: text) ∧
    (∀ method, split query = .error (.unsupportedMethod method) ↔
      method ≠ "find" ∧ ∃ collection rest, IsCall text collection method.toList rest) ∧
    (split query = .error .unbalanced ↔
      ∃ collection rest, IsCall text collection "find".toList rest ∧
        ∀ ds, ds ≠ [] → ds <+: rest → ¬ Balanced ds) ∧
    ((∃ why, split query = .error (.malformed why)) ↔
      text ≠ [] ∧ ¬ ['d', 'b', '.', '.'] <+: text ∧
        ∀ collection method rest, ¬ IsCall text collection method rest) ∧
    (∀ xs, (∀ ds, ds ≠ [] → ds <+: '(' :: xs → ¬ Balanced ds) →
      Mode.code.count ')' ('(' :: xs) < Mode.code.count '(' ('(' :: xs) ∧
        (xs.foldl Mode.next .code = .code → ∀ ys, closing? 0 (xs ++ ys) =
          (closing? (Mode.code.count '(' ('(' :: xs) - Mode.code.count ')' ('(' :: xs) - 1) ys).map
            (· + xs.length))) ∧
    (∀ collection method rest, IsCall text collection method rest →
      sliceBytes? 0 (byteLength method) (method ++ rest) = some method) ∧
    (∀ i, split query = .ok i →
      (∃ call, text = ['d', 'b', '.'] ++ i.collection.toList ++ ['.'] ++ call ∧ IsCut call i) ∧
      ∀ more : String, ∃ i', split (query ++ more) = .ok i' ∧ i'.collection = i.collection ∧
        i'.arguments = i.arguments) := by
  intro text
  refine ⟨fun _ _ => ofText_eq_ok_iff_isCall, ⟨fun h => ?_, fun h => ?_⟩,
    ⟨fun h => ?_, ofText_noCollection⟩, fun _ => ofText_eq_unsupportedMethod_iff,
    ofText_eq_unbalanced_iff, ofText_eq_malformed_iff, fun _ => closing?_counter,
    fun _ method rest _ => ?_, fun i h => ⟨isCut_of_ofText h, split_append h⟩⟩
  · cases outcome_of_eq h with
    | empty hempty => exact hempty
  · change ofText text = _
    rw [h]
    rfl
  · cases outcome_of_eq h with
    | noCollection hdots => exact hdots
  · exact sliceBytes?_append [] method rest

/-- An argument list with parentheses in quoted text and in a comment, and with an unclosed quote
behind it. -/
theorem split_classifies_quoted_parenthesis :
    ∃ i, split "db.u.find([')'/*)*/]).limit('" = .ok i ∧
      i.argumentText.toList = "([')'/*)*/])".toList ∧
      (∀ more, ∃ i', split ("db.u.find([')'/*)*/]).limit('" ++ more) = .ok i' ∧
        i'.arguments = i.arguments) ∧
      closing? 0 ("[')'".toList ++ "/*)*/]).limit('".toList) =
        (closing? 0 "/*)*/]).limit('".toList).map (· + 4) := by
  obtain ⟨hok, -, -, -, -, -, hcounter, -, hcut⟩ :=
    split_classifies "db.u.find([')'/*)*/]).limit('"
  -- the fronts of a text are finitely many, one for each length
  have htake : ∀ {ds cs : List Char}, ds <+: cs → ∃ n ≤ cs.length, ds = cs.take n :=
    fun h => ⟨_, h.length_le, List.prefix_iff_eq_take.1 h⟩
  have hfirst : ∀ ds, ds ≠ [] → ds <+: "([')'/*)*/])".toList → Balanced ds →
      ds = "([')'/*)*/])".toList := by
    intro ds hne hds
    obtain ⟨n, hn, rfl⟩ := htake hds
    revert n
    decide +kernel
  have hopen : ∀ ds, ds ≠ [] → ds <+: '(' :: "[')'".toList → ¬ Balanced ds := by
    intro ds hne hds
    obtain ⟨n, hn, rfl⟩ := htake hds
    revert n
    decide +kernel
  have hargument : IsArgumentText "([')'/*)*/])".toList :=
    ⟨by decide +kernel, by decide +kernel, hfirst⟩
  have hcall : IsCall (Text.trim "db.u.find([')'/*)*/]).limit('".toList) ['u']
      findMethod.toList ("([')'/*)*/])".toList ++ ".limit('".toList) :=
    ⟨by decide +kernel, by decide, by decide, by decide, by decide +kernel⟩
  obtain ⟨i, hi, -, harguments⟩ := (hok _ _).2 ⟨_, hcall, hargument⟩
  refine ⟨i, hi, harguments, fun more => ?_, (hcounter _ hopen).2 (by decide +kernel) _⟩
  obtain ⟨i', hi', -, hsame⟩ := (hcut i hi).2 more
  exact ⟨i', hi', hsame⟩

end Invocation

end FindToSelect
