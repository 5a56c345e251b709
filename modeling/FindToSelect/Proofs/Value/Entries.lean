import FindToSelect.Value
import Mathlib.Data.List.Basic

/-!
# Documents from entries

An object is written as a list of entries, and a key may occur in several of them. `Document.put`
says what one more entry does; `Document.ofEntries` says, without going through the entries one by
one, what they make together: each key once, in the order of first occurrences, with the value of
its last occurrence. Both give the same document (`Document.putAll_nil`).

The proof reads a document through two views, its keys and its look-up. `put` acts on each of them
by a simple law (`keys_put`, `lookup_put`), and a document with distinct keys is determined by both
(`filterMap_lookup_keys`).

What comes out has distinct keys and members from among the entries (`nodup_keys_ofEntries`,
`mem_of_mem_ofEntries`); entries that have distinct keys already are left as they are
(`ofEntries_of_nodup`).
-/

namespace FindToSelect.Document

/-- **The document that entries make**: every key once, where it first occurs, with the value that
it has last. -/
def ofEntries (es : List (String × Value)) : Document :=
  (keys es).eraseDups.filterMap fun key => (es.reverse.lookup key).map fun v => (key, v)

/-- Sets several members, one after the other. -/
def putAll (d : Document) (es : List (String × Value)) : Document :=
  es.foldl (fun d e => d.put e.1 e.2) d

@[simp] theorem putAll_nil_right (d : Document) : putAll d [] = d := rfl

@[simp] theorem putAll_cons (d : Document) (e : String × Value) (es : List (String × Value)) :
    putAll d (e :: es) = putAll (d.put e.1 e.2) es := rfl

theorem putAll_append (d : Document) (es fs : List (String × Value)) :
    putAll d (es ++ fs) = putAll (putAll d es) fs :=
  List.foldl_append

/-! ### The two views -/

theorem lookup_cons (k k' : String) (w : Value) (d : Document) :
    List.lookup k ((k', w) :: d) = if k = k' then some w else List.lookup k d := by
  by_cases h : k = k'
  · simp [h]
  · have hb : (k == k') = false := beq_eq_false_iff_ne.2 h
    simp [List.lookup_cons, hb, h]

/-- **Setting a member changes the look-up** at its key, and nowhere else. -/
theorem lookup_put (d : Document) (key k : String) (v : Value) :
    (d.put key v).lookup k = if k = key then some v else d.lookup k := by
  induction d with
  | nil => rw [put, lookup_cons]
  | cons m rest ih =>
    obtain ⟨k', w⟩ := m
    by_cases hk : k' = key
    · -- the member that is set
      subst hk
      rw [put, if_pos rfl, lookup_cons, lookup_cons]
      split <;> rfl
    · -- a member before it
      rw [put, if_neg hk, lookup_cons, lookup_cons, ih]
      by_cases h : k = k'
      · subst h
        rw [if_pos rfl, if_pos rfl, if_neg hk]
      · rw [if_neg h, if_neg h]

/-- **Of several entries with one key the last one counts**, and what was there before if there is
none. -/
theorem lookup_putAll (d : Document) (es : List (String × Value)) (k : String) :
    (putAll d es).lookup k = (es.reverse.lookup k).or (d.lookup k) := by
  induction es generalizing d with
  | nil => simp
  | cons e es ih =>
    obtain ⟨key, v⟩ := e
    -- the first entry counts where no later one does
    rw [putAll_cons, ih, lookup_put, List.reverse_cons, List.lookup_append, lookup_cons]
    split <;> cases es.reverse.lookup k <;> rfl

theorem eraseDups_of_nodup {ks : List String} (h : ks.Nodup) : ks.eraseDups = ks := by
  induction ks with
  | nil => rfl
  | cons k ks ih =>
    rw [List.nodup_cons] at h
    have hf : ks.filter (fun b => !b == k) = ks := by
      rw [List.filter_eq_self]
      intro b hb
      have hne : b ≠ k := fun e => h.1 (e ▸ hb)
      simpa using hne
    rw [List.eraseDups_cons, hf, ih h.2]

/-- **The keys are those there were and the new ones**, in the order in which they come. -/
theorem keys_putAll {d : Document} (h : d.keys.Nodup) (es : List (String × Value)) :
    (putAll d es).keys = (d.keys ++ keys es).eraseDups := by
  induction es generalizing d with
  | nil =>
    rw [putAll_nil_right, show keys [] = [] from rfl, List.append_nil, eraseDups_of_nodup h]
  | cons e es ih =>
    rw [putAll_cons, ih (nodup_keys_put h e.1 e.2), keys_put,
      show keys (e :: es) = e.1 :: keys es from rfl]
    split
    · next hk =>
      -- the key is there already, and duplicates of it are erased
      have hr : (e.1 :: keys es).removeAll d.keys = (keys es).removeAll d.keys := by
        simp [List.removeAll, hk]
      rw [List.eraseDups_append, List.eraseDups_append, hr]
    · -- a new key goes to the end, where the list of all keys has it too
      rw [List.append_assoc, List.singleton_append]

/-- **A document with distinct keys is its keys and its look-up.** -/
theorem filterMap_lookup_keys {d : Document} (h : d.keys.Nodup) :
    (d.keys.filterMap fun key => (d.lookup key).map fun v => (key, v)) = d := by
  induction d with
  | nil => rfl
  | cons m rest ih =>
    obtain ⟨k, w⟩ := m
    obtain ⟨hk, hr⟩ := List.nodup_cons.1 h
    -- looking up a key of the rest does not see the first member
    have hsame : ∀ key ∈ keys rest,
        (List.lookup key ((k, w) :: rest)).map (fun v => (key, v)) =
          (List.lookup key rest).map (fun v => (key, v)) := by
      intro key hkey
      have hne : key ≠ k := fun e => hk (e ▸ hkey)
      rw [lookup_cons, if_neg hne]
    rw [show keys ((k, w) :: rest) = k :: keys rest from rfl, List.filterMap_cons_some
      (by rw [lookup_cons, if_pos rfl]; rfl), List.filterMap_congr hsame, ih hr]

theorem nodup_keys_nil : (keys []).Nodup :=
  List.nodup_nil

/-- Distinct keys stay distinct, whatever entries are set. -/
theorem nodup_keys_putAll {d : Document} (h : d.keys.Nodup) (es : List (String × Value)) :
    (putAll d es).keys.Nodup := by
  induction es generalizing d with
  | nil => exact h
  | cons e es ih => exact ih (nodup_keys_put h e.1 e.2)

/-- **Setting entries one after the other** makes the document of the entries. -/
theorem putAll_nil (es : List (String × Value)) : putAll [] es = ofEntries es := by
  have hk : (putAll [] es).keys = (keys es).eraseDups :=
    keys_putAll nodup_keys_nil es
  have hn : (putAll [] es).keys.Nodup := nodup_keys_putAll nodup_keys_nil es
  have hl : ∀ k, (putAll [] es).lookup k = es.reverse.lookup k := by
    intro k
    rw [lookup_putAll]
    simp
  rw [← filterMap_lookup_keys hn, hk, ofEntries]
  simp only [hl]

/-! ### The members of a document from entries -/

/-- **The document of entries has distinct keys.** -/
theorem nodup_keys_ofEntries (es : List (String × Value)) : (ofEntries es).keys.Nodup := by
  rw [← putAll_nil]
  exact nodup_keys_putAll nodup_keys_nil es

/-- A member is the one that was set, or was there before. -/
theorem mem_of_mem_put {d : Document} {key : String} {v : Value} {m : String × Value}
    (h : m ∈ d.put key v) : m = (key, v) ∨ m ∈ d := by
  induction d with
  | nil => exact Or.inl (List.mem_singleton.1 h)
  | cons e rest ih =>
    obtain ⟨k, w⟩ := e
    rw [put] at h
    split at h
    · next hk =>
      subst hk
      exact (List.mem_cons.1 h).imp_right (List.mem_cons_of_mem _)
    · rcases List.mem_cons.1 h with rfl | h
      · exact Or.inr List.mem_cons_self
      · exact (ih h).imp_right (List.mem_cons_of_mem _)

/-- **Every member is one of the entries.** -/
theorem mem_of_mem_ofEntries {es : List (String × Value)} {m : String × Value}
    (h : m ∈ ofEntries es) : m ∈ es := by
  -- a member of what the entries are set in is one from before
  suffices hall : ∀ d : Document, m ∈ putAll d es → m ∈ es ∨ m ∈ d by
    rw [← putAll_nil] at h
    exact (hall [] h).resolve_right List.not_mem_nil
  clear h
  induction es with
  | nil => exact fun d h => Or.inr h
  | cons e es ih =>
    intro d h
    rcases ih _ h with h | h
    · exact Or.inl (List.mem_cons_of_mem e h)
    · rcases mem_of_mem_put h with rfl | h
      · exact Or.inl List.mem_cons_self
      · exact Or.inr h

/-- A new key goes to the end. -/
theorem put_of_notMem {d : Document} {key : String} (h : key ∉ d.keys) (v : Value) :
    d.put key v = d ++ [(key, v)] := by
  induction d with
  | nil => rfl
  | cons e rest ih =>
    obtain ⟨k, w⟩ := e
    obtain ⟨hk, hrest⟩ := not_or.1 (mt List.mem_cons.2 h)
    rw [put, if_neg (Ne.symm hk), ih hrest]
    rfl

/-- **Entries with distinct keys are the document** that they make. -/
theorem ofEntries_of_nodup {es : List (String × Value)} (h : (keys es).Nodup) :
    ofEntries es = es := by
  suffices hall : ∀ d : Document, (keys (d ++ es)).Nodup → putAll d es = d ++ es by
    rw [← putAll_nil]
    exact hall [] h
  clear h
  induction es with
  | nil => exact fun d _ => (List.append_nil d).symm
  | cons e es ih =>
    intro d h
    -- the key of the first entry is new, so the entry goes to the end
    have hnew : e.1 ∉ d.keys := by
      intro hmem
      rw [keys, List.map_append, List.map_cons] at h
      exact (List.nodup_append.1 h).2.2 e.1 hmem e.1 List.mem_cons_self rfl
    rw [putAll_cons, put_of_notMem hnew, ih (d ++ [e]) (by simpa using h), List.append_assoc,
      List.singleton_append]

end FindToSelect.Document
