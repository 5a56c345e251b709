import FindToSelect.Json.Tree
import FindToSelect.Proofs.Json.Spelling

/-!
# Reading accepts exactly the texts of trees

A JSON text is the lexemes of a tree in order, with blanks between them: `Tree.lexemes` writes a
tree as lexemes, and `IsText cs t` says that the text `cs` spells them. Reading finds the tree `t`
in a text if and only if it is a text of `t` (`read?_eq_some_iff`), at any depth of nesting.

`Spelling` has the part that is about characters. What is left is the machine on lexemes.

*From the tree to the machine*: on the lexemes of a tree the machine comes to where the tree is
delivered, with whatever follows left (`run?_lexemes`). The proof goes by induction on the tree
(`Tree.induction`).

*From the machine to the tree*, by an invariant of its steps. What the machine remembers are the
lexemes taken so far: each container on the stack has its opening mark and the items before the
current one, each with its comma (`Frame.taken`), and the state has the rest (`State.Taken`). One
step adds its lexeme to them or completes the lexemes of a tree (`taken_step?`), hence so does a run
(`taken_run?`).
-/

namespace FindToSelect.Json

open Text (Item)

/-! ### The lexemes of a tree -/

mutual

/-- **The lexemes of a tree.** -/
def Tree.lexemes : Tree → List Lexeme
  | .null => [.null]
  | .boolean b => [.boolean b]
  | .number => [.number]
  | .string items => [.string items]
  | .array elements =>
    .openBracket :: ([Lexeme.comma].intercalate (elementLexemes elements) ++ [.closeBracket])
  | .object members =>
    .openBrace :: ([Lexeme.comma].intercalate (memberLexemes members) ++ [.closeBrace])

/-- The lexemes of the elements of an array. -/
def elementLexemes : List Tree → List (List Lexeme)
  | [] => []
  | t :: rest => t.lexemes :: elementLexemes rest

/-- The lexemes of the members of an object, each a key, a colon and a value. -/
def memberLexemes : List (List Item × Tree) → List (List Lexeme)
  | [] => []
  | (key, t) :: rest => (.string key :: .colon :: t.lexemes) :: memberLexemes rest

end

/-- **A text of a tree**: its lexemes, with blanks between them. -/
def IsText (cs : List Char) (t : Tree) : Prop :=
  Spelled cs t.lexemes

/-- What holds of a tree if it holds of the trees in it, holds of all trees. -/
theorem Tree.induction {P : Tree → Prop} (null : P .null) (boolean : ∀ b, P (.boolean b))
    (number : P .number) (string : ∀ items, P (.string items))
    (array : ∀ ts, (∀ t ∈ ts, P t) → P (.array ts))
    (object : ∀ ms : Members, (∀ m ∈ ms, P m.2) → P (.object ms)) (t : Tree) : P t :=
  @Tree.rec P (fun ts => ∀ t ∈ ts, P t) (fun ms => ∀ m ∈ ms, P m.2) (fun m => P m.2) null boolean
    number string array object (fun _ h => absurd h List.not_mem_nil)
    (fun _ _ ht hts => List.forall_mem_cons.2 ⟨ht, hts⟩) (fun _ h => absurd h List.not_mem_nil)
    (fun _ _ hm hms => List.forall_mem_cons.2 ⟨hm, hms⟩) (fun _ _ ht => ht) t

theorem elementLexemes_eq_map (ts : List Tree) : elementLexemes ts = ts.map Tree.lexemes := by
  induction ts with
  | nil => rfl
  | cons t ts ih => rw [elementLexemes, ih, List.map_cons]

theorem memberLexemes_eq_map (ms : Members) :
    memberLexemes ms = ms.map fun m => .string m.1 :: .colon :: m.2.lexemes := by
  induction ms with
  | nil => rfl
  | cons m ms ih => rw [memberLexemes, ih, List.map_cons]

/-- A tree starts with a lexeme that does not close an array. -/
theorem Tree.exists_cons (t : Tree) :
    ∃ l ls, t.lexemes = l :: ls ∧ l ≠ .closeBracket := by
  cases t <;> exact ⟨_, _, rfl, by simp⟩

theorem Apart.cons {l : Lexeme} {ls : List Lexeme} (hl : l ≠ .number) (h : Apart ls) :
    Apart (l :: ls) :=
  List.isChain_cons.2 ⟨fun _ _ => .inl hl, h⟩

/-- Lexemes can stand behind others if the first of them is no number. -/
theorem Apart.append {ls ms : List Lexeme} (hl : Apart ls) (hm : Apart ms)
    (hhead : ms.head? ≠ some .number) : Apart (ls ++ ms) := by
  refine List.isChain_append.2 ⟨hl, hm, fun _ _ m hmem => .inr ?_⟩
  -- the lexeme in front of the second list would be a number
  rintro rfl
  exact hhead hmem

/-- **No two numbers are neighbours** among the lexemes of a tree. -/
theorem Tree.apart_lexemes (t : Tree) : Apart t.lexemes := by
  -- a comma stands between any two items
  have hseparated : ∀ {xs : List (List Lexeme)}, (∀ x ∈ xs, Apart x) →
      Apart ([Lexeme.comma].intercalate xs) := by
    intro xs h
    induction xs with
    | nil => exact .nil
    | cons x xs ih =>
      rw [List.forall_mem_cons] at h
      cases xs with
      | nil => simpa using h.1
      | cons y ys =>
        rw [List.intercalate_cons_cons, List.append_assoc, List.singleton_append]
        exact h.1.append ((ih h.2).cons (by simp)) (by simp)
  -- the marks around items are no numbers, and neither are the commas between them
  induction t using Tree.induction with
  | null | boolean _ | number | string _ => exact .singleton _
  | array ts ih =>
    rw [lexemes, elementLexemes_eq_map]
    exact ((hseparated (by simpa using ih)).append (.singleton _) (by simp)).cons (by simp)
  | object ms ih =>
    rw [lexemes, memberLexemes_eq_map]
    have hmember : ∀ m ∈ ms, Apart (.string m.1 :: .colon :: m.2.lexemes) :=
      fun m hm => ((ih m hm).cons (by simp)).cons (by simp)
    exact ((hseparated (List.forall_mem_map.2 hmember)).append (.singleton _) (by simp)).cons
      (by simp)

/-! ### From the tree to the machine -/

/-- **What the machine does behind a step.** -/
def Step.after (ls : List Lexeme) : Step → Option (Tree × List Lexeme)
  | .next state stack => run? state stack ls
  | .done t => some (t, ls)

/-- **A run is a step and the run behind it.** -/
theorem run?_cons (state : State) (stack : List Frame) (l : Lexeme) (ls : List Lexeme) :
    run? state stack (l :: ls) = (step? state stack l).bind (Step.after ls) := by
  rw [run?]
  cases step? state stack l with
  | none => rfl
  | some step => cases step <;> rfl

theorem run?_of_step? {state : State} {stack : List Frame} {l : Lexeme} {step : Step}
    (h : step? state stack l = some step) (ls : List Lexeme) :
    run? state stack (l :: ls) = step.after ls := by
  rw [run?_cons, h, Option.bind_some]

theorem run?_of_next {state state' : State} {stack stack' : List Frame} {l : Lexeme}
    (h : step? state stack l = some (.next state' stack')) (ls : List Lexeme) :
    run? state stack (l :: ls) = run? state' stack' ls :=
  run?_of_step? h ls

/-- The machine reads the lexemes of `t` wherever a value is wanted. -/
def Tree.Reads (t : Tree) : Prop :=
  ∀ stack ls, run? .value stack (t.lexemes ++ ls) = (Step.deliver t stack).after ls

/-- **The elements of an array**, up to its closing bracket. -/
theorem run?_elements {ts : List Tree} (h : ∀ t ∈ ts, t.Reads) (hne : ts ≠ []) (es : List Tree)
    (stack : List Frame) (ls : List Lexeme) :
    run? .value (.array es :: stack)
        ([Lexeme.comma].intercalate (ts.map Tree.lexemes) ++ .closeBracket :: ls) =
      (Step.deliver (.array (es ++ ts)) stack).after ls := by
  induction ts generalizing es with
  | nil => exact absurd rfl hne
  | cons t ts ih =>
    rw [List.forall_mem_cons] at h
    cases ts with
    | nil =>
      -- the bracket closes the array behind its last element
      rw [List.map_singleton, List.intercalate_singleton, h.1, Step.deliver, Step.after]
      exact run?_of_step? rfl ls
    | cons u us =>
      -- the comma lets the next element follow, with this one read
      have hrest := ih h.2 (List.cons_ne_nil u us) (es ++ [t])
      rw [List.append_assoc, List.singleton_append] at hrest
      rw [List.map_cons, List.map_cons, List.intercalate_cons_cons, List.append_assoc,
        List.append_assoc, h.1, Step.deliver, Step.after, List.singleton_append]
      exact (run?_of_next rfl _).trans hrest

/-- **The members of an object**, up to its closing brace. -/
theorem run?_members {ms : Members} (h : ∀ m ∈ ms, m.2.Reads) (hne : ms ≠ []) (before : Members)
    (stack : List Frame) (ls : List Lexeme) :
    run? (.key before) stack ([Lexeme.comma].intercalate
        (ms.map fun m => .string m.1 :: .colon :: m.2.lexemes) ++ .closeBrace :: ls) =
      (Step.deliver (.object (before ++ ms)) stack).after ls := by
  -- one member, up to what follows it
  have hmember : ∀ {m : List Item × Tree}, m.2.Reads → ∀ (before : Members) (ls : List Lexeme),
      run? (.key before) stack ((.string m.1 :: .colon :: m.2.lexemes) ++ ls) =
        run? (.afterMember (before ++ [m])) stack ls := by
    intro m hm before ls
    calc run? (.key before) stack (.string m.1 :: .colon :: (m.2.lexemes ++ ls))
      _ = run? (.colon before m.1) stack (.colon :: (m.2.lexemes ++ ls)) := run?_of_next rfl _
      _ = run? .value (.object before m.1 :: stack) (m.2.lexemes ++ ls) := run?_of_next rfl _
      _ = run? (.afterMember (before ++ [m])) stack ls := hm _ ls
  induction ms generalizing before with
  | nil => exact absurd rfl hne
  | cons m ms ih =>
    rw [List.forall_mem_cons] at h
    cases ms with
    | nil =>
      rw [List.map_singleton, List.intercalate_singleton, hmember h.1]
      exact run?_of_step? rfl ls
    | cons n ns =>
      -- and so does the comma behind a member
      have hrest := ih h.2 (List.cons_ne_nil n ns) (before ++ [m])
      rw [List.append_assoc, List.singleton_append] at hrest
      rw [List.map_cons, List.map_cons, List.intercalate_cons_cons, List.append_assoc,
        List.append_assoc, hmember h.1, List.singleton_append]
      exact (run?_of_next rfl _).trans hrest

/-- **The machine reads every tree**, and stops behind it. -/
theorem run?_lexemes (t : Tree) : t.Reads := by
  induction t using Tree.induction with
  | null | boolean _ | number | string _ => exact fun stack ls => run?_of_step? rfl ls
  | array ts ih =>
    intro stack ls
    rw [Tree.lexemes, elementLexemes_eq_map, List.cons_append, List.append_assoc,
      List.singleton_append]
    refine (run?_of_step? rfl _).trans ?_
    cases ts with
    | nil => exact run?_of_step? rfl ls
    | cons t ts =>
      -- the first element is read like one behind a comma, as it does not close the array
      refine Eq.trans ?_ (run?_elements ih (List.cons_ne_nil t ts) [] stack ls)
      obtain ⟨l, rest, ht, hl⟩ := t.exists_cons
      have hstep : step? .firstElement stack l = step? .value (.array [] :: stack) l := by
        cases l <;> first | rfl | exact absurd rfl hl
      have hcons : ∃ rest', [Lexeme.comma].intercalate ((t :: ts).map Tree.lexemes) =
          l :: rest' := by
        cases ts <;> simp [ht]
      obtain ⟨rest', hrest'⟩ := hcons
      rw [hrest', Step.after, List.cons_append, run?_cons, hstep, run?_cons]
  | object ms ih =>
    intro stack ls
    rw [Tree.lexemes, memberLexemes_eq_map, List.cons_append, List.append_assoc,
      List.singleton_append]
    refine (run?_of_step? rfl _).trans ?_
    cases ms with
    | nil => exact run?_of_step? rfl ls
    | cons m ms =>
      -- and so is the first key
      refine Eq.trans ?_ (run?_members ih (List.cons_ne_nil m ms) [] stack ls)
      have hcons : ∃ rest, [Lexeme.comma].intercalate ((m :: ms).map fun m =>
          .string m.1 :: .colon :: m.2.lexemes) = .string m.1 :: rest := by
        cases ms <;> simp
      obtain ⟨rest, hrest⟩ := hcons
      rw [hrest, Step.after, List.cons_append, run?_cons, run?_cons]
      rfl

/-! ### From the machine to the tree -/

/-- An opening mark with complete items behind it, each with its comma. -/
def itemsTaken (opening : Lexeme) (items : List (List Lexeme)) : List Lexeme :=
  opening :: items.flatMap (· ++ [.comma])

/-- **The lexemes that a container has taken** while it waits for a value. -/
def Frame.taken : Frame → List Lexeme
  | .array es => itemsTaken .openBracket (elementLexemes es)
  | .object ms key => itemsTaken .openBrace (memberLexemes ms) ++ [.string key, .colon]

/-- The lexemes that the containers on the stack have taken, the innermost last. -/
def stackTaken (stack : List Frame) : List Lexeme :=
  stack.reverse.flatMap Frame.taken

/-- **The lexemes that a state has taken** in the container it is about. -/
inductive State.Taken : State → List Lexeme → Prop
  | value : Taken .value []
  | firstElement : Taken .firstElement [.openBracket]
  | afterElement (es : List Tree) (t : Tree) : Taken (.afterElement (es ++ [t]))
      (itemsTaken .openBracket (elementLexemes es) ++ t.lexemes)
  | firstKey : Taken .firstKey [.openBrace]
  | key (ms : Members) : Taken (.key ms) (itemsTaken .openBrace (memberLexemes ms))
  | colon (ms : Members) (key : List Item) : Taken (.colon ms key)
      (itemsTaken .openBrace (memberLexemes ms) ++ [.string key])
  | afterMember (ms : Members) (m : List Item × Tree) : Taken (.afterMember (ms ++ [m]))
      (itemsTaken .openBrace (memberLexemes ms) ++ .string m.1 :: .colon :: m.2.lexemes)

/-- The machine has taken the lexemes `ls` when it makes this step. -/
def Step.Taken (ls : List Lexeme) : Step → Prop
  | .next state stack => ∃ own, state.Taken own ∧ ls = stackTaken stack ++ own
  | .done t => ls = t.lexemes

theorem stackTaken_cons (frame : Frame) (stack : List Frame) :
    stackTaken (frame :: stack) = stackTaken stack ++ frame.taken := by
  simp [stackTaken]

theorem itemsTaken_concat (opening : Lexeme) (items : List (List Lexeme)) (x : List Lexeme) :
    itemsTaken opening (items ++ [x]) = itemsTaken opening items ++ x ++ [.comma] := by
  simp [itemsTaken]

/-- Behind the last item there is no comma. -/
theorem itemsTaken_append (opening : Lexeme) (items : List (List Lexeme)) (x : List Lexeme) :
    itemsTaken opening items ++ x = opening :: [Lexeme.comma].intercalate (items ++ [x]) := by
  induction items generalizing opening with
  | nil => simp [itemsTaken]
  | cons y ys ih =>
    have hrest := List.tail_eq_of_cons_eq (ih opening)
    obtain ⟨z, zs, hz⟩ : ∃ z zs, ys ++ [x] = z :: zs := List.exists_cons_of_ne_nil (by simp)
    rw [List.cons_append, hz, List.intercalate_cons_cons, ← hz, ← hrest]
    simp [itemsTaken]

theorem elementLexemes_concat (es : List Tree) (t : Tree) :
    elementLexemes (es ++ [t]) = elementLexemes es ++ [t.lexemes] := by
  simp [elementLexemes_eq_map]

theorem memberLexemes_concat (ms : Members) (m : List Item × Tree) :
    memberLexemes (ms ++ [m]) = memberLexemes ms ++ [.string m.1 :: .colon :: m.2.lexemes] := by
  simp [memberLexemes_eq_map]

/-- **Delivering a tree** adds its lexemes: to the container that waits for it, or as the whole
text. -/
theorem taken_deliver (t : Tree) (stack : List Frame) :
    (Step.deliver t stack).Taken (stackTaken stack ++ t.lexemes) := by
  match stack with
  | [] => exact List.nil_append _
  | .array es :: stack =>
    refine ⟨_, .afterElement es t, ?_⟩
    rw [stackTaken_cons, Frame.taken, List.append_assoc]
  | .object ms key :: stack =>
    refine ⟨_, .afterMember ms (key, t), ?_⟩
    rw [stackTaken_cons, Frame.taken]
    simp only [List.append_assoc, List.cons_append, List.nil_append]

/-- **Beginning a value** adds its first lexeme. -/
theorem taken_begin? {l : Lexeme} {stack : List Frame} {step : Step}
    (h : Step.begin? l stack = some step) : step.Taken (stackTaken stack ++ [l]) := by
  cases l with
  | openBrace =>
    cases h
    exact ⟨_, .firstKey, rfl⟩
  | openBracket =>
    cases h
    exact ⟨_, .firstElement, rfl⟩
  -- a value of one lexeme is delivered at once
  | null | boolean _ | number | string _ =>
    cases h
    exact taken_deliver _ stack
  | closeBrace | closeBracket | colon | comma => cases h

/-- **One step adds its lexeme** to those taken so far. -/
theorem taken_step? {state : State} {stack : List Frame} {own : List Lexeme} {l : Lexeme}
    {step : Step} (hown : state.Taken own) (h : step? state stack l = some step) :
    step.Taken (stackTaken stack ++ (own ++ [l])) := by
  -- one case for each state, and in it one for each lexeme that the state takes
  cases hown with
  | value => exact taken_begin? h
  | firstElement =>
    simp only [step?] at h
    split at h
    · cases h
      exact taken_deliver (.array []) stack
    -- an element begins, so the array waits on the stack
    · have hbegin := taken_begin? h
      rwa [stackTaken_cons, List.append_assoc] at hbegin
  | afterElement es t =>
    simp only [step?] at h
    split at h
    · cases h
      refine ⟨_, .value, ?_⟩
      rw [stackTaken_cons, Frame.taken, elementLexemes_concat, itemsTaken_concat, List.append_nil]
    · cases h
      have hdone := taken_deliver (.array (es ++ [t])) stack
      rwa [Tree.lexemes, elementLexemes_concat, ← List.cons_append, ← itemsTaken_append] at hdone
    · cases h
  | firstKey =>
    simp only [step?] at h
    split at h
    · cases h
      exact taken_deliver (.object []) stack
    · cases h
      exact ⟨_, .colon [] _, rfl⟩
    · cases h
  | key ms =>
    simp only [step?] at h
    split at h
    · cases h
      exact ⟨_, .colon ms _, rfl⟩
    · cases h
  | colon ms key =>
    simp only [step?] at h
    split at h
    · cases h
      refine ⟨_, .value, ?_⟩
      rw [stackTaken_cons, Frame.taken, List.append_assoc, List.append_nil]
      rfl
    · cases h
  | afterMember ms m =>
    simp only [step?] at h
    split at h
    · cases h
      refine ⟨_, .key _, ?_⟩
      rw [memberLexemes_concat, itemsTaken_concat]
    · cases h
      have hdone := taken_deliver (.object (ms ++ [m])) stack
      rwa [Tree.lexemes, memberLexemes_concat, ← List.cons_append, ← itemsTaken_append] at hdone
    · cases h

/-- **A run takes the lexemes of the tree it finds**, and no others. -/
theorem taken_run? {state : State} {stack : List Frame} {own ls rest : List Lexeme} {t : Tree}
    (hown : state.Taken own) (h : run? state stack ls = some (t, rest)) :
    stackTaken stack ++ (own ++ ls) = t.lexemes ++ rest := by
  induction ls generalizing state stack own with
  | nil => cases h
  | cons l ls ih =>
    rw [run?_cons] at h
    obtain ⟨step, hstep, hafter⟩ := Option.bind_eq_some_iff.1 h
    -- the lexeme of the step is the first of those that were left
    have htaken := taken_step? hown hstep
    rw [← List.singleton_append, ← List.append_assoc own, ← List.append_assoc]
    cases step with
    | next state' stack' =>
      obtain ⟨own', hown', heq⟩ := htaken
      rw [heq, List.append_assoc, ih hown' hafter]
    | done t' =>
      cases hafter
      exact congrArg (· ++ _) htaken

/-! ### Reading -/

/-- The machine finds the tree whose lexemes it is given. -/
theorem ofLexemes?_eq_some_iff {ls : List Lexeme} {t : Tree} :
    ofLexemes? ls = some t ↔ ls = t.lexemes := by
  -- the machine must have taken all lexemes
  have hrun : ofLexemes? ls = some t ↔ run? .value [] ls = some (t, []) := by
    rw [ofLexemes?]
    split <;> simp_all
  rw [hrun]
  constructor
  · intro h
    simpa [stackTaken] using taken_run? .value h
  · rintro rfl
    simpa [Step.deliver, Step.after] using run?_lexemes t [] []

/-- **Reading finds the tree of every JSON text**, and finds a tree in nothing else. -/
theorem read?_eq_some_iff {cs : List Char} {t : Tree} : read? cs = some t ↔ IsText cs t := by
  rw [read?, Option.bind_eq_some_iff]
  constructor
  · rintro ⟨ls, hlex, htree⟩
    rw [ofLexemes?_eq_some_iff] at htree
    rw [IsText, ← htree]
    exact spelled_of_lex? hlex
  -- no two numbers are neighbours in a tree, so the text is read as the lexemes that it spells
  · intro h
    exact ⟨t.lexemes, lex?_of_spelled h t.apart_lexemes, ofLexemes?_eq_some_iff.2 rfl⟩

end FindToSelect.Json
