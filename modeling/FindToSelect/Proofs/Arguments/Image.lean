import FindToSelect.Proofs.Arguments.Acceptance
import FindToSelect.Proofs.Token.Locality

/-!
# What arguments can be

Not every value can be read. An integer of an argument text fits in a word, since a numeral out of
that range is read as a double; the keys of an object are distinct, since a repeated key is set
again; and containers nest at most 128 deep. `Value.Proper n` says this of a value with `n` levels
in place of the limit, and every argument that is read is proper (`Value.proper_of_parse`).

The three facts come from different places: the integers from the tokens
(`Token.fitsWord_of_mem_lex`), the keys from `Document.ofEntries`, and the levels from the grammar,
whose derivations the proof goes along (`Value.proper_of_isValue`).
-/

namespace FindToSelect

/-- **The values that arguments can be** when `n` levels of containers may nest: the integers have
64 bits and the keys of every object are distinct. -/
inductive Value.Proper : Nat → Value → Prop
  | null {n : Nat} : Proper n .null
  | boolean {n : Nat} (b : Bool) : Proper n (.boolean b)
  | integer {n : Nat} {i : Int} : -0x8000000000000000 ≤ i ∧ i < 0x8000000000000000 →
      Proper n (.number (.integer i))
  | float {n : Nat} (x : Double) : Proper n (.number (.float x))
  | string {n : Nat} (s : String) : Proper n (.string s)
  | array {n : Nat} {vs : List Value} : (∀ v ∈ vs, Proper n v) → Proper (n + 1) (.array vs)
  | object {n : Nat} {d : Document} :
      d.keys.Nodup → (∀ m ∈ d, Proper n m.2) → Proper (n + 1) (.object d)

/-! ### Integers fit in a word -/

/-- The integers that fit in a word are those of 64 bits. -/
theorem fitsWord_iff {i : Int} :
    fitsWord i = true ↔ -0x8000000000000000 ≤ i ∧ i < 0x8000000000000000 := by
  simp [fitsWord]

/-- **A numeral that is an integer fits in a word**, whichever base it has. -/
theorem Numeral.fitsWord_of_scan {negative : Bool} {cs : List Char} {i : Int}
    (h : (scan negative cs).kind = .integer i) : fitsWord i = true := by
  unfold scan at h
  split at h
  · -- hexadecimal digits are below `2 ^ 63`
    simp only [scanHex] at h
    split at h
    · cases h
    split at h
    · next hlt =>
      obtain rfl := TokenKind.integer.inj h
      refine fitsWord_iff.2 ?_
      unfold signed
      split <;> omega
    · cases h
  · -- a decimal numeral is checked
    unfold scanDecimal at h
    split at h
    · next n taken _ =>
      simp only [kind] at h
      split at h
      · next hfits =>
        obtain rfl := TokenKind.integer.inj h
        exact (Bool.and_eq_true_iff.1 hfits).2
      · cases h
    · cases h

/-- No word is an integer. -/
theorem Word.kind_ne_integer (word : List Char) (i : Int) : kind word ≠ .integer i := by
  unfold kind
  repeat' split
  all_goals simp

theorem Word.signedKind_ne_integer (negative : Bool) (word : List Char) (i : Int) :
    signedKind negative word ≠ .integer i := by
  unfold signedKind
  repeat' split
  all_goals simp

namespace Token

/-- An integer behind a sign fits in a word. -/
theorem fitsWord_of_scanSigned {negative : Bool} {cs : List Char} {i : Int}
    (h : (scanSigned negative cs).kind = .integer i) : fitsWord i = true := by
  unfold scanSigned at h
  split at h
  · cases h
  split at h
  · exact Numeral.fitsWord_of_scan h
  split at h
  · exact absurd h (Word.signedKind_ne_integer _ _ i)
  · cases h

/-- **A token that is an integer fits in a word.** -/
theorem fitsWord_of_scan {c : Char} {cs : List Char} {i : Int}
    (h : (scan c cs).kind = .integer i) : fitsWord i = true := by
  unfold scan at h
  split at h
  · next kind hk =>
    -- no mark is an integer
    dsimp only at h
    subst h
    unfold TokenKind.ofPunctuation? at hk
    repeat' split at hk
    all_goals cases hk
  split at h
  · unfold StringLiteral.scan at h
    split at h <;> cases h
  split at h
  · exact fitsWord_of_scanSigned h
  split at h
  · exact Numeral.fitsWord_of_scan h
  split at h
  · exact absurd h (Word.kind_ne_integer _ i)
  · cases h

/-- **The integers of a text fit in a word.** -/
theorem fitsWord_of_mem_lex {cs : List Char} {t : Token} (ht : t ∈ lex cs) {i : Int}
    (h : t.kind = .integer i) : fitsWord i = true := by
  suffices hall : ∀ offset, ∀ t ∈ lexFrom offset cs, t.kind = .integer i → fitsWord i = true from
    hall 0 t ht h
  clear ht h
  -- token by token, with the trivia before each
  induction cs using textInduction with
  | trivia cs hcs =>
    intro offset t ht
    rw [lexFrom_of_drop_eq_nil hcs] at ht
    exact absurd ht List.not_mem_nil
  | token w c rest hw h0 ih =>
    intro offset t ht h
    rw [lexFrom_finished_append hw, lexFrom_cons h0] at ht
    rcases List.mem_cons.1 ht with rfl | ht
    · exact fitsWord_of_scan h
    · exact ih _ t ht h

end Token

/-! ### Values of the grammar are proper -/

open Arguments

/-- Every item of a list was read from some of its tokens. -/
theorem Arguments.Separated.exists_of_mem {α : Type} {Item : List Token → α → Prop}
    {ts : List Token} {as : List α} (h : Separated Item ts as) {a : α} (ha : a ∈ as) :
    ∃ us, Item us a ∧ ∀ t ∈ us, t ∈ ts := by
  induction h with
  | nil => exact absurd ha List.not_mem_nil
  | @last ts b hb =>
    obtain rfl := List.mem_singleton.1 ha
    exact ⟨ts, hb, fun _ ht => ht⟩
  | @cons ts us b bs comma hb _ _ ih =>
    rcases List.mem_cons.1 ha with rfl | ha
    · exact ⟨ts, hb, fun t ht => List.mem_append_left _ ht⟩
    · obtain ⟨vs, hv, hsub⟩ := ih ha
      exact ⟨vs, hv, fun t ht => List.mem_append_right _ (List.mem_cons_of_mem _ (hsub t ht))⟩

/-- A scalar is proper if it fits in a word where it is an integer. -/
theorem Value.proper_of_isScalar {k : TokenKind} {v : Value} (h : IsScalar k v)
    (hfits : ∀ i, k = .integer i → fitsWord i = true) (n : Nat) : v.Proper n := by
  cases h with
  | string s => exact .string s
  | integer i => exact .integer (fitsWord_iff.1 (hfits i rfl))
  | float x => exact .float x
  | true => exact .boolean true
  | false => exact .boolean false
  | null => exact .null

/-- **A value of the grammar is proper** if the integers among its tokens fit in a word. -/
theorem Value.proper_of_isValue {n : Nat} {ts : List Token} {v : Value} (h : IsValue n ts v)
    (hfits : ∀ t ∈ ts, ∀ i, t.kind = .integer i → fitsWord i = true) : v.Proper n := by
  -- the items of a container have one level less, and their tokens stand between its marks
  induction n generalizing ts v with
  | zero =>
    obtain ⟨t, rfl, hs⟩ := h
    exact proper_of_isScalar hs (hfits t List.mem_cons_self) 0
  | succ n ih =>
    rcases h with ⟨t, rfl, hs⟩ | h
    · exact proper_of_isScalar hs (hfits t List.mem_cons_self) (n + 1)
    · cases h with
      | @array opening closing us vs _ hs _ =>
        refine .array fun v hv => ?_
        obtain ⟨ws, hw, hsub⟩ := hs.exists_of_mem hv
        refine ih hw fun t ht => hfits t ?_
        exact List.mem_cons_of_mem _ (List.mem_append_left _ (hsub t ht))
      | @object opening closing us es _ hs _ =>
        -- the document of entries has no key twice, and each of its members is one of them
        refine .object (Document.nodup_keys_ofEntries es) fun m hm => ?_
        obtain ⟨ws, hw, hsub⟩ := hs.exists_of_mem (Document.mem_of_mem_ofEntries hm)
        cases hw with
        | @intro key colon name ws v _ _ hv =>
          refine ih hv fun t ht => hfits t ?_
          have hmem := hsub t (List.mem_cons_of_mem _ (List.mem_cons_of_mem _ ht))
          exact List.mem_cons_of_mem _ (List.mem_append_left _ hmem)

/-- **Every argument that is read is proper.** -/
theorem Value.proper_of_parse {cs : List Char} {vs : List Value} (h : parse cs = .ok vs) :
    ∀ v ∈ vs, v.Proper 128 := by
  intro v hv
  obtain ⟨us, hus, hsub⟩ := (isArguments_of_read h).exists_of_mem hv
  exact proper_of_isValue hus fun t ht _ hi => Token.fitsWord_of_mem_lex (hsub t ht) hi

end FindToSelect
