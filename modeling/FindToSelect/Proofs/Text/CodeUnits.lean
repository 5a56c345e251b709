import FindToSelect.Text.Item

/-!
# Code units and items

What the items of a string literal stand for, given by rules and without a reader.

* `Text.Utf16 units cs` — the code units `units` are read as the text `cs`: a character has the one
  or two units that encode it, and a surrogate that is no half of a pair is read as U+FFFD;
* `Text.Item.Means items cs` — the items stand for the text `cs`. Every maximal run of code units is
  read as a whole, so units on the two sides of another item never pair.

The reader (`Text.Item.decode`) decodes units as it goes, with one unit of lookahead, and agrees
with the rules: `Text.Item.means_iff`.

Without unpaired surrogates and gaps the rules are simpler: `Text.Item.Spells items cs` goes
character by character, and the strict reader (`Text.Item.decode?`) accepts what is spelled so
(`Text.Item.decode?_of_spells`).
-/

namespace FindToSelect

namespace Text

/-! ### Code units -/

/-- The first code unit of a character outside the basic plane: the upper ten bits of its offset. -/
def highHalf (c : Char) : Nat :=
  0xD800 + (c.toNat - 0x10000) / 0x400

/-- The second code unit of a character outside the basic plane: the lower ten bits of its offset.
-/
def lowHalf (c : Char) : Nat :=
  0xDC00 + (c.toNat - 0x10000) % 0x400

/-- **Code units of UTF-16 read as text**, from left to right. -/
inductive Utf16 : List Nat → List Char → Prop
  | nil : Utf16 [] []
  /-- A character of the basic plane is its own code unit. -/
  | scalar {c : Char} {units : List Nat} {cs : List Char} :
      c.toNat < 0x10000 → Utf16 units cs → Utf16 (c.toNat :: units) (c :: cs)
  /-- Any other character has a pair. -/
  | pair {c : Char} {units : List Nat} {cs : List Char} :
      0x10000 ≤ c.toNat → Utf16 units cs → Utf16 (highHalf c :: lowHalf c :: units) (c :: cs)
  /-- The first half of a pair, without the second. -/
  | unpairedHigh {u : Nat} {units : List Nat} {cs : List Char} :
      0xD800 ≤ u → u < 0xDC00 → (∀ v ∈ units.head?, ¬ (0xDC00 ≤ v ∧ v < 0xE000)) →
        Utf16 units cs → Utf16 (u :: units) ('\uFFFD' :: cs)
  /-- The second half of a pair, without the first. -/
  | unpairedLow {u : Nat} {units : List Nat} {cs : List Char} :
      0xDC00 ≤ u → u < 0xE000 → Utf16 units cs → Utf16 (u :: units) ('\uFFFD' :: cs)

theorem isHighSurrogate_iff {u : Nat} :
    isHighSurrogate u = true ↔ 0xD800 ≤ u ∧ u < 0xDC00 := by
  simp [isHighSurrogate]

theorem isLowSurrogate_iff {u : Nat} : isLowSurrogate u = true ↔ 0xDC00 ≤ u ∧ u < 0xE000 := by
  simp [isLowSurrogate]

/-- The code point of a character is no surrogate. -/
theorem toNat_lt_or_le (c : Char) :
    c.toNat < 0xD800 ∨ 0xE000 ≤ c.toNat ∧ c.toNat < 0x110000 := by
  exact c.valid.imp id fun h => ⟨h.1, h.2⟩

theorem isHighSurrogate_toNat (c : Char) : isHighSurrogate c.toNat = false := by
  have hc := toNat_lt_or_le c
  rw [Bool.eq_false_iff, Ne, isHighSurrogate_iff]
  omega

/-- The code unit of a character is that character. -/
theorem unitChar?_toNat (c : Char) : unitChar? c.toNat = some c := by
  have hlow : isLowSurrogate c.toNat = false := by
    have hc := toNat_lt_or_le c
    rw [Bool.eq_false_iff, Ne, isLowSurrogate_iff]
    omega
  rw [unitChar?, isHighSurrogate_toNat, hlow]
  exact congrArg some (Char.ofNat_toNat c)

theorem unitChar_toNat (c : Char) : unitChar c.toNat = c := by
  rw [unitChar, unitChar?_toNat, Option.getD_some]

theorem toNat_ofNat {n : Nat} (h : n < 0xD800 ∨ 0xE000 ≤ n ∧ n < 0x110000) :
    (Char.ofNat n).toNat = n := by
  have hvalid : n.isValidChar := h
  rw [Char.ofNat, dif_pos hvalid]
  rfl

/-- The code point of a pair, from the two halves of its offset. -/
theorem toNat_pairedChar {u v : Nat} (hu : 0xD800 ≤ u ∧ u < 0xDC00)
    (hv : 0xDC00 ≤ v ∧ v < 0xE000) :
    (pairedChar u v).toNat = 0x10000 + (u - 0xD800) * 0x400 + (v - 0xDC00) := by
  rw [pairedChar, toNat_ofNat]
  omega

theorem highHalf_mem (c : Char) : 0xD800 ≤ highHalf c ∧ highHalf c < 0xDC00 := by
  have hc := toNat_lt_or_le c
  unfold highHalf
  omega

theorem lowHalf_mem (c : Char) : 0xDC00 ≤ lowHalf c ∧ lowHalf c < 0xE000 := by
  unfold lowHalf
  omega

/-- The two code units of a character stand for it. -/
theorem pairedChar_halves {c : Char} (hc : 0x10000 ≤ c.toNat) :
    pairedChar (highHalf c) (lowHalf c) = c := by
  have hn : 0x10000 + (highHalf c - 0xD800) * 0x400 + (lowHalf c - 0xDC00) = c.toNat := by
    unfold highHalf lowHalf
    omega
  rw [pairedChar, hn, Char.ofNat_toNat]

/-- **All code units can be read.** -/
theorem Utf16.exists_of_lt {units : List Nat} (h : ∀ u ∈ units, u < 0x10000) :
    ∃ cs, Utf16 units cs := by
  -- a pair takes two units, so the induction is on how many there are
  induction hn : units.length using Nat.strongRecOn generalizing units with
  | ind n ih =>
    cases units with
    | nil => exact ⟨[], .nil⟩
    | cons u units =>
      rw [List.forall_mem_cons] at h
      obtain ⟨cs, hcs⟩ := ih units.length (by rw [← hn, List.length_cons]; omega) h.2 rfl
      by_cases hhigh : 0xD800 ≤ u ∧ u < 0xDC00
      · by_cases hlow : ∃ v ∈ units.head?, 0xDC00 ≤ v ∧ v < 0xE000
        · -- a pair, and the units behind it
          obtain ⟨v, hv, hlow⟩ := hlow
          obtain ⟨units', rfl⟩ := List.head?_eq_some_iff.1 hv
          rw [List.forall_mem_cons] at h
          obtain ⟨cs', hcs'⟩ :=
            ih units'.length (by rw [← hn, List.length_cons, List.length_cons]; omega) h.2.2 rfl
          have hc := toNat_pairedChar hhigh hlow
          have hu : highHalf (pairedChar u v) = u := by
            rw [highHalf, hc]
            omega
          have hv : lowHalf (pairedChar u v) = v := by
            rw [lowHalf, hc]
            omega
          have hpair := Utf16.pair (c := pairedChar u v) (by rw [hc]; omega) hcs'
          rw [hu, hv] at hpair
          exact ⟨_, hpair⟩
        -- a first half without the second
        · exact ⟨_, .unpairedHigh hhigh.1 hhigh.2 (fun v hv hl => hlow ⟨v, hv, hl⟩) hcs⟩
      · by_cases hlow : 0xDC00 ≤ u ∧ u < 0xE000
        · exact ⟨_, .unpairedLow hlow.1 hlow.2 hcs⟩
        -- no surrogate, and so the code point of a character
        · have hc := toNat_ofNat (n := u) (by omega)
          have hscalar := Utf16.scalar (c := Char.ofNat u) (by rw [hc]; exact h.1) hcs
          rw [hc] at hscalar
          exact ⟨_, hscalar⟩

/-! ### Items -/

/-- Whether an item is a code unit. -/
def Item.isUnit : Item → Bool
  | .unit _ => true
  | _ => false

/-- **The text that items stand for**, with every maximal run of code units read as a whole. -/
inductive Item.Means : List Item → List Char → Prop
  | nil : Means [] []
  | char {c : Char} {items : List Item} {cs : List Char} :
      Means items cs → Means (.char c :: items) (c :: cs)
  | gap {items : List Item} {cs : List Char} : Means items cs → Means (.gap :: items) cs
  | units {units : List Nat} {items : List Item} {ds cs : List Char} :
      units ≠ [] → (∀ item ∈ items.head?, item.isUnit = false) → Utf16 units ds →
        Means items cs → Means (units.map .unit ++ items) (ds ++ cs)

namespace Item

theorem decode_map_char (cs : List Char) : decode (cs.map .char) = cs := by
  induction cs with
  | nil => rfl
  | cons c cs ih => rw [List.map_cons, decode, ih]

/-- A code unit that is not followed by the second half of its pair is read on its own. -/
theorem decode_unpaired {u : Nat} {items : List Item}
    (h : ∀ v, items.head? = some (.unit v) → isHighSurrogate u = true → isLowSurrogate v = false) :
    decode (.unit u :: items) = unitChar u :: decode items := by
  -- only a code unit behind it could make it half of a pair
  rcases items with _ | ⟨_ | v | _, items⟩
  · rfl
  · rfl
  · have hpair : (isHighSurrogate u && isLowSurrogate v) = false := by
      cases hu : isHighSurrogate u with
      | false => rfl
      | true => exact h v rfl hu
    rw [decode, hpair]
    rfl
  · rfl

/-- The code unit of a character is read as the character. -/
theorem decode_unit_toNat (c : Char) (items : List Item) :
    decode (.unit c.toNat :: items) = c :: decode items := by
  rw [decode_unpaired, unitChar_toNat]
  intro v _ hhigh
  rw [isHighSurrogate_toNat] at hhigh
  cases hhigh

/-- Two halves that stand together are decoded as the character of the pair. -/
theorem decode_pair {u v : Nat} (hu : isHighSurrogate u = true) (hv : isLowSurrogate v = true)
    (items : List Item) :
    decode (.unit u :: .unit v :: items) = pairedChar u v :: decode items := by
  rw [decode, hu, hv]
  rfl

/-- A surrogate by itself is decoded as U+FFFD. -/
theorem unitChar_of_surrogate {u : Nat} (h : 0xD800 ≤ u ∧ u < 0xE000) : unitChar u = '\uFFFD' := by
  have hsurrogate : (isHighSurrogate u || isLowSurrogate u) = true := by
    rw [Bool.or_eq_true, isHighSurrogate_iff, isLowSurrogate_iff]
    omega
  rw [unitChar, unitChar?, hsurrogate]
  rfl

/-- **The reader decodes a run of code units as UTF-16.** -/
theorem decode_map_unit_append {units : List Nat} {ds : List Char} (h : Utf16 units ds)
    {items : List Item} (hitems : ∀ item ∈ items.head?, item.isUnit = false) :
    decode (units.map .unit ++ items) = ds ++ decode items := by
  induction h with
  | nil => rfl
  | @scalar c units cs _ _ ih =>
    rw [List.map_cons, List.cons_append, decode_unit_toNat, ih, List.cons_append]
  | @pair c units cs hc _ ih =>
    rw [List.map_cons, List.map_cons, List.cons_append, List.cons_append,
      decode_pair (isHighSurrogate_iff.2 (highHalf_mem c)) (isLowSurrogate_iff.2 (lowHalf_mem c)),
      pairedChar_halves hc, ih, List.cons_append]
  | @unpairedHigh u units cs hle hlt hnext _ ih =>
    rw [List.map_cons, List.cons_append, decode_unpaired, unitChar_of_surrogate (by omega), ih,
      List.cons_append]
    intro v hv _
    refine Bool.eq_false_iff.2 fun hlow => ?_
    -- the next unit is one of the run, since none stands behind it
    cases units with
    | nil => exact absurd (hitems _ hv) (by simp [isUnit])
    | cons w units =>
      obtain rfl : w = v := by simpa using hv
      exact hnext w rfl (isLowSurrogate_iff.1 hlow)
  | @unpairedLow u units cs hle hlt _ ih =>
    rw [List.map_cons, List.cons_append, decode_unpaired, unitChar_of_surrogate (by omega), ih,
      List.cons_append]
    -- a second half is no first half, whatever follows
    intro v _ hhigh
    rw [isHighSurrogate_iff] at hhigh
    omega

/-- **What items stand for is what they are decoded as.** -/
theorem decode_of_means {items : List Item} {cs : List Char} (h : Means items cs) :
    decode items = cs := by
  induction h with
  | nil => rfl
  | char _ ih => rw [decode, ih]
  | gap _ ih => rw [decode, ih]
  | units _ hitems hunits _ ih => rw [decode_map_unit_append hunits hitems, ih]

/-- Items start with a run of code units, which may be empty. -/
theorem exists_units_append (items : List Item) :
    ∃ (units : List Nat) (rest : List Item), items = units.map .unit ++ rest ∧
      ∀ item ∈ rest.head?, item.isUnit = false := by
  induction items with
  | nil => exact ⟨[], [], rfl, by simp⟩
  | cons item items ih =>
    cases item with
    | unit u =>
      obtain ⟨units, rest, rfl, hrest⟩ := ih
      exact ⟨u :: units, rest, rfl, hrest⟩
    | char _ | gap =>
      refine ⟨[], _, rfl, fun item hitem => ?_⟩
      rw [← Option.some.inj hitem]
      rfl

/-- **All items stand for something**, if their code units have sixteen bits. -/
theorem exists_means {items : List Item} (h : ∀ u, .unit u ∈ items → u < 0x10000) :
    ∃ cs, Means items cs := by
  -- a run is taken as a whole, so the induction is on how many items are left
  induction hn : items.length using Nat.strongRecOn generalizing items with
  | ind n ih =>
    obtain ⟨units, rest, rfl, hrest⟩ := exists_units_append items
    have hbound : ∀ u, .unit u ∈ rest → u < 0x10000 :=
      fun u hu => h u (List.mem_append_right _ hu)
    cases units with
    | cons u units =>
      -- the run is read as a whole, and the items behind it are fewer
      have hlt : rest.length < n := by
        rw [← hn, List.length_append, List.length_map, List.length_cons]
        omega
      obtain ⟨cs, hcs⟩ := ih rest.length hlt hbound rfl
      have hrun : ∀ v ∈ u :: units, v < 0x10000 :=
        fun v hv => h v (List.mem_append_left _ (List.mem_map_of_mem hv))
      obtain ⟨ds, hds⟩ := Utf16.exists_of_lt hrun
      exact ⟨_, .units (List.cons_ne_nil u units) hrest hds hcs⟩
    | nil =>
      cases rest with
      | nil => exact ⟨[], .nil⟩
      | cons item rest =>
        -- no run at the front: the first item stands for itself or for nothing
        obtain ⟨cs, hcs⟩ := ih rest.length (by rw [← hn]; simp)
          (fun u hu => hbound u (List.mem_cons_of_mem _ hu)) rfl
        cases item with
        | char c => exact ⟨_, .char hcs⟩
        | gap => exact ⟨_, .gap hcs⟩
        | unit u => exact absurd (hrest _ rfl) (by simp [isUnit])

/-- **The reader gives what the items stand for.** -/
theorem means_iff {items : List Item} (h : ∀ u, .unit u ∈ items → u < 0x10000) {cs : List Char} :
    Means items cs ↔ decode items = cs := by
  constructor
  · exact decode_of_means
  -- the items stand for some text, and that is what they are decoded as
  · rintro rfl
    obtain ⟨cs, hcs⟩ := exists_means h
    rw [decode_of_means hcs]
    exact hcs

/-! ### Strict reading -/

/-- **Items that spell a text**: each character stands for itself, or is given by the one or two
code units that encode it. -/
inductive Spells : List Item → List Char → Prop
  | nil : Spells [] []
  | char {c : Char} {items : List Item} {cs : List Char} :
      Spells items cs → Spells (.char c :: items) (c :: cs)
  | unit {c : Char} {items : List Item} {cs : List Char} :
      c.toNat < 0x10000 → Spells items cs → Spells (.unit c.toNat :: items) (c :: cs)
  | pair {c : Char} {items : List Item} {cs : List Char} : 0x10000 ≤ c.toNat → Spells items cs →
      Spells (.unit (highHalf c) :: .unit (lowHalf c) :: items) (c :: cs)

theorem spells_map_char (cs : List Char) : Spells (cs.map .char) cs := by
  induction cs with
  | nil => exact .nil
  | cons c cs ih => exact .char ih

/-- The code unit of a character is read as the character, whatever follows. -/
theorem decode?_unit_toNat (c : Char) (items : List Item) :
    decode? (.unit c.toNat :: items) = (decode? items).map (c :: ·) := by
  rcases items with _ | ⟨_ | v | _, items⟩ <;>
    simp [decode?, isHighSurrogate_toNat, unitChar?_toNat]

/-- **The strict reader finds the text that is spelled.** -/
theorem decode?_of_spells {items : List Item} {cs : List Char} (h : Spells items cs) :
    decode? items = some cs := by
  induction h with
  | nil => rfl
  | char _ ih => rw [decode?, ih, Option.map_some]
  | unit _ _ ih => rw [decode?_unit_toNat, ih, Option.map_some]
  | @pair c items cs hc _ ih =>
    rw [decode?, isHighSurrogate_iff.2 (highHalf_mem c), isLowSurrogate_iff.2 (lowHalf_mem c),
      pairedChar_halves hc, ih]
    rfl

end Item

end Text

end FindToSelect
