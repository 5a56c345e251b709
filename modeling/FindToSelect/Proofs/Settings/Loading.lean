import FindToSelect.Proofs.Json.Acceptance
import FindToSelect.Settings

/-!
# Loading settings

What a settings file may look like, given by rules, and what loading makes of it.

* `Settings.HeldBy s ms` — an object with the members `ms` holds the settings `s`: it gives each
  setting by one member, or by none if it has its default, and has any other members besides, all in
  any order. Keys and strings are compared by what they spell, not by how;
* `Json.IsText` says which texts are texts of that object.

Loading finds the settings in every such file, and so in the one that writing makes; it refuses a
file that gives a setting twice (`Settings.load_undoes_text`).

The members are added from left to right. Adding two members in a row does the same in either order,
also when it fails (`Found.add?_comm`). Hence the order of all of them does not matter
(`Found.addAll?_perm`), and one may think of the settings as coming first.
-/

namespace FindToSelect.Settings

open Json (IsLexeme IsText Lexeme Members Spelled Tree)
open Text.Item (Spells)

/-! ### The rules -/

/-- **The file with the text `cs`**, in UTF-8. -/
def File.ofText (cs : List Char) : File :=
  .content (String.ofList cs).toUTF8

/-- **The value of the setting `rename_id`.** -/
inductive IsFlag : Tree → Bool → Prop
  | boolean (b : Bool) : IsFlag (.boolean b) b

/-- **The value of the setting `history_file`.** -/
inductive IsPath : Tree → Option String → Prop
  | null : IsPath .null none
  | string {items : List Text.Item} {path : String} :
      Spells items path.toList → IsPath (.string items) (some path)

/-- **How members give one setting**: by one member with its name, or by none if the setting has its
default. -/
inductive Gives {α : Type} (name : String) (IsValue : Tree → α → Prop) (default : α) :
    Members → α → Prop
  | member {key : List Text.Item} {t : Tree} {a : α} :
      Spells key name.toList → IsValue t a → Gives name IsValue default [(key, t)] a
  | omitted : Gives name IsValue default [] default

/-- **A member that is no setting**: its key spells another name. -/
def IsOther (m : List Text.Item × Tree) : Prop :=
  ∃ name, Spells m.1 name ∧ name ≠ "rename_id".toList ∧ name ≠ "history_file".toList

/-- **The members that hold the settings `s`**, among any others and in any order. -/
inductive HeldBy (s : Settings) : Members → Prop
  | intro {flag path others ms : Members} :
      Gives "rename_id" IsFlag false flag s.renameId →
        Gives "history_file" IsPath none path s.historyFile →
          (∀ m ∈ others, IsOther m) → ms.Perm (flag ++ (path ++ others)) → HeldBy s ms

/-- **Members that give a setting twice**, with whatever values. -/
inductive Repeats : Members → Prop
  | intro {name : String} {k₁ k₂ : List Text.Item} {t₁ t₂ : Tree} {ms : Members} :
      name = "rename_id" ∨ name = "history_file" → Spells k₁ name.toList →
        Spells k₂ name.toList → [(k₁, t₁), (k₂, t₂)].Sublist ms → Repeats ms

/-! ### Members -/

namespace Found

/-- Adds the value of `rename_id`. -/
def addFlag? (f : Found) (t : Tree) : Option Found :=
  if f.renameId.isSome then none else (flag? t).map fun b => ⟨some b, f.historyFile⟩

/-- Adds the value of `history_file`. -/
def addPath? (f : Found) (t : Tree) : Option Found :=
  if f.historyFile.isSome then none else (path? t).map fun p => ⟨f.renameId, some p⟩

/-- A key that spells `rename_id` adds the flag. -/
theorem add?_renameId {key : List Text.Item} (h : Spells key renameIdKey.toList) (f : Found)
    (t : Tree) : f.add? key t = f.addFlag? t := by
  simp [add?, Text.Item.decode?_of_spells h, addFlag?]

theorem add?_historyFile {key : List Text.Item} (h : Spells key historyFileKey.toList) (f : Found)
    (t : Tree) : f.add? key t = f.addPath? t := by
  have hne : historyFileKey.toList ≠ renameIdKey.toList := by decide
  simp [add?, Text.Item.decode?_of_spells h, hne, addPath?]

theorem add?_other {m : List Text.Item × Tree} (h : IsOther m) (f : Found) :
    f.add? m.1 m.2 = some f := by
  obtain ⟨name, hspells, hrename, hhistory⟩ := h
  change name ≠ renameIdKey.toList at hrename
  change name ≠ historyFileKey.toList at hhistory
  simp [add?, Text.Item.decode?_of_spells hspells, hrename, hhistory]

/-- **What a key does**, whatever its value: it fails, adds one of the settings, or is skipped. -/
theorem add?_cases (key : List Text.Item) :
    (∀ f t, add? f key t = none) ∨ (∀ f t, add? f key t = f.addFlag? t) ∨
      (∀ f t, add? f key t = f.addPath? t) ∨ ∀ f t, add? f key t = some f := by
  -- the key alone decides, whether it can be decoded and which name it then spells
  unfold add?
  cases Text.Item.decode? key with
  | none => exact .inl fun _ _ => rfl
  | some name =>
    by_cases hrename : name = renameIdKey.toList
    · exact .inr (.inl fun _ _ => if_pos hrename)
    by_cases hhistory : name = historyFileKey.toList
    · exact .inr (.inr (.inl fun _ _ => (if_neg hrename).trans (if_pos hhistory)))
    · exact .inr (.inr (.inr fun _ _ => (if_neg hrename).trans (if_neg hhistory)))

/-- The flag is not added twice. -/
theorem addFlag?_twice (f : Found) (t₁ t₂ : Tree) :
    ((f.addFlag? t₁).bind fun g => g.addFlag? t₂) = none := by
  unfold addFlag?
  cases f.renameId <;> cases flag? t₁ <;> rfl

theorem addPath?_twice (f : Found) (t₁ t₂ : Tree) :
    ((f.addPath? t₁).bind fun g => g.addPath? t₂) = none := by
  unfold addPath?
  cases f.historyFile <;> cases path? t₁ <;> rfl

/-- **Neither setting sees the other.** -/
theorem addFlag?_addPath? (f : Found) (t₁ t₂ : Tree) :
    ((f.addFlag? t₁).bind fun g => g.addPath? t₂) =
      (f.addPath? t₂).bind fun g => g.addFlag? t₁ := by
  unfold addFlag? addPath?
  cases f.renameId <;> cases f.historyFile <;> cases flag? t₁ <;> cases path? t₂ <;> rfl

/-- **Two members in a row** may change places. -/
theorem add?_comm (f : Found) (k₁ k₂ : List Text.Item) (t₁ t₂ : Tree) :
    ((f.add? k₁ t₁).bind fun g => g.add? k₂ t₂) =
      (f.add? k₂ t₂).bind fun g => g.add? k₁ t₁ := by
  -- two members of one setting fail in either order, and of two settings neither sees the other
  rcases add?_cases k₁ with h₁ | h₁ | h₁ | h₁ <;> rcases add?_cases k₂ with h₂ | h₂ | h₂ | h₂ <;>
    simp [h₁, h₂, addFlag?_twice, addPath?_twice, addFlag?_addPath?]

/-- **The order of members does not matter.** -/
theorem addAll?_perm {ms ms' : Members} (h : ms.Perm ms') (f : Found) :
    f.addAll? ms = f.addAll? ms' := by
  induction h generalizing f with
  | nil => rfl
  | cons m _ ih => simp only [addAll?, ih]
  | swap m n ms =>
    simp only [addAll?]
    -- the two members at the front change places, and the rest is added behind both
    rw [← Option.bind_assoc, ← Option.bind_assoc, add?_comm]
  | trans _ _ ih₁ ih₂ => rw [ih₁, ih₂]

theorem addAll?_append (f : Found) (ms ns : Members) :
    f.addAll? (ms ++ ns) = (f.addAll? ms).bind fun g => g.addAll? ns := by
  induction ms generalizing f with
  | nil => rfl
  | cons m ms ih => simp only [List.cons_append, addAll?, ih, Option.bind_assoc]

/-- Other members are skipped. -/
theorem addAll?_others {ms : Members} (h : ∀ m ∈ ms, IsOther m) (f : Found) :
    f.addAll? ms = some f := by
  induction ms with
  | nil => rfl
  | cons m ms ih =>
    rw [List.forall_mem_cons] at h
    rw [addAll?, add?_other h.1, Option.bind_some, ih h.2]

/-- **Where the flag is given** it is found, and else the default is left; the path is not touched.
-/
theorem addAll?_flag {ms : Members} {b : Bool}
    (h : Gives "rename_id" IsFlag false ms b) {f : Found} (hf : f.renameId = none) :
    ∃ found, f.addAll? ms = some ⟨found, f.historyFile⟩ ∧ found.getD false = b := by
  cases h with
  | member hkey hvalue =>
    cases hvalue
    exact ⟨some b, by simp [addAll?, add?_renameId hkey, addFlag?, hf, flag?], rfl⟩
  | omitted => exact ⟨none, by rw [addAll?, ← hf], rfl⟩

/-- **Where the path is given** it is found, and else the default is left; the flag is not touched.
-/
theorem addAll?_path {ms : Members} {p : Option String}
    (h : Gives "history_file" IsPath none ms p) {f : Found} (hf : f.historyFile = none) :
    ∃ found, f.addAll? ms = some ⟨f.renameId, found⟩ ∧ found.getD none = p := by
  cases h with
  | member hkey hvalue =>
    refine ⟨some p, ?_, rfl⟩
    -- a path or null is read as what it spells
    have hpath : ∀ {t}, IsPath t p → path? t = some p := by
      rintro _ (_ | hspells)
      · rfl
      · simp [path?, Text.Item.decode?_of_spells hspells]
    simp [addAll?, add?_historyFile hkey, addPath?, hf, hpath hvalue]
  | omitted => exact ⟨none, by rw [addAll?, ← hf], rfl⟩

/-- **No setting is given twice**, whatever values it has. -/
theorem addAll?_twice {name : String} (hname : name = "rename_id" ∨ name = "history_file")
    {k₁ k₂ : List Text.Item} (h₁ : Spells k₁ name.toList) (h₂ : Spells k₂ name.toList)
    (t₁ t₂ : Tree) (f : Found) (ms : Members) :
    f.addAll? ((k₁, t₁) :: (k₂, t₂) :: ms) = none := by
  have htwice : ((f.add? k₁ t₁).bind fun g => g.add? k₂ t₂) = none := by
    rcases hname with rfl | rfl
    · simp only [add?_renameId h₁, add?_renameId h₂, addFlag?_twice]
    · simp only [add?_historyFile h₁, add?_historyFile h₂, addPath?_twice]
  simp only [addAll?]
  rw [← Option.bind_assoc, htwice, Option.bind_none]

end Found

/-- **An object that holds settings** is read as them. -/
theorem ofTree?_of_heldBy {s : Settings} {ms : Members} (h : s.HeldBy ms) :
    ofTree? (.object ms) = some s := by
  obtain ⟨hflag, hpath, hothers, hperm⟩ := h
  -- the settings first, then what is skipped
  obtain ⟨r, hr, hrename⟩ := Found.addAll?_flag hflag (f := {}) rfl
  obtain ⟨p, hp, hhistory⟩ := Found.addAll?_path hpath (f := ⟨r, none⟩) rfl
  rw [ofTree?, Found.addAll?_perm hperm, Found.addAll?_append, hr, Option.bind_some,
    Found.addAll?_append, hp, Option.bind_some, Found.addAll?_others hothers, Option.map_some,
    Found.settings, hrename, hhistory]

/-- **An object that gives a setting twice** holds no settings. -/
theorem ofTree?_of_repeats {ms : Members} (h : Repeats ms) : ofTree? (.object ms) = none := by
  obtain ⟨hname, h₁, h₂, hsub⟩ := h
  -- the two members first, so nothing before them matters
  obtain ⟨others, hperm⟩ := hsub.exists_perm_append
  rw [ofTree?, Found.addAll?_perm hperm]
  simp only [List.cons_append, List.nil_append, Found.addAll?_twice hname h₁ h₂, Option.map_none]

/-! ### Files -/

/-- Loading a file with a text in it is reading that text. -/
theorem load_ofText (cs : List Char) :
    load (.ofText cs) = (parse? cs).elim (.error .invalid) .ok := by
  -- the bytes of a text are valid, and decoding undoes encoding
  have hutf8 : String.fromUTF8? (String.ofList cs).toUTF8 = some (String.ofList cs) :=
    dif_pos (String.ofList cs).isValidUTF8
  simp only [File.ofText, load, hutf8, String.toList_ofList]
  cases parse? cs <;> rfl

/-- Of a text of a tree only the tree matters. -/
theorem parse?_of_isText {cs : List Char} {t : Tree} (h : IsText cs t) :
    parse? cs = ofTree? t := by
  rw [parse?, Json.read?_eq_some_iff.2 h, Option.bind_some]

/-- A path or null is written as one lexeme. -/
theorem exists_isLexeme_path (p : Option String) :
    ∃ t l, IsPath t p ∧ t.lexemes = [l] ∧
      IsLexeme (p.elim Value.null Value.string).text l := by
  cases p with
  | none => exact ⟨.null, .null, .null, rfl, .keyword (by decide)⟩
  | some path =>
    obtain ⟨items, hitems, hlexeme⟩ := Json.exists_isLexeme_jsonString path
    exact ⟨.string items, .string items, .string hitems, rfl, hlexeme⟩

/-- A key, a colon and a value of one lexeme, with the text behind them. -/
theorem spelled_member {k v rest : List Char} {key : List Text.Item} {l : Lexeme} {ls : List Lexeme}
    (hkey : IsLexeme k (.string key)) (hvalue : IsLexeme v l) (h : Spelled rest ls) :
    Spelled (k ++ ':' :: (v ++ rest)) (.string key :: .colon :: l :: ls) :=
  .lexeme_append hkey (.mark_cons (by decide) (.lexeme_append hvalue h))

/-- **What settings are written as**, lexeme by lexeme. -/
theorem text_eq (s : Settings) :
    s.text = '{' :: (jsonString renameIdKey ++ ':' :: ((Value.boolean s.renameId).text ++
      ',' :: (jsonString historyFileKey ++
        ':' :: ((s.historyFile.elim Value.null Value.string).text ++ ['}'])))) := by
  -- a path that is there is a string, and one that is not is null
  have hvalue : s.value = .object [(renameIdKey, .boolean s.renameId),
      (historyFileKey, s.historyFile.elim .null .string)] := by
    unfold value
    cases s.historyFile <;> rfl
  rw [text, hvalue, Value.text, Value.memberTexts, Value.memberTexts, Value.memberTexts,
    Text.joined_cons_cons, Text.joined_singleton]
  simp only [List.append_assoc, List.cons_append, List.nil_append]

/-- **Writing makes a text of an object that holds the settings.** -/
theorem exists_isText_text (s : Settings) : ∃ ms, IsText s.text (.object ms) ∧ s.HeldBy ms := by
  obtain ⟨flagKey, hflagKey, hflagLexeme⟩ := Json.exists_isLexeme_jsonString renameIdKey
  obtain ⟨pathKey, hpathKey, hpathLexeme⟩ := Json.exists_isLexeme_jsonString historyFileKey
  obtain ⟨t, l, ht, hlexemes, hpath⟩ := exists_isLexeme_path s.historyFile
  have hflag : IsLexeme (Value.boolean s.renameId).text (.boolean s.renameId) := by
    cases s.renameId <;> exact .keyword (by decide)
  have hothers : ∀ m ∈ ([] : Members), IsOther m := by simp
  refine ⟨[(flagKey, .boolean s.renameId), (pathKey, t)], ?_,
    .intro (.member hflagKey (.boolean _)) (.member hpathKey ht) hothers (.refl _)⟩
  -- the marks around the two members
  have hend : Spelled ['}'] [.closeBrace] := .mark_cons (by decide) (.blanks (by simp))
  have hsecond := spelled_member hpathLexeme hpath hend
  have hcomma := Spelled.mark_cons (c := ',') (l := .comma) (by decide) hsecond
  have hfirst := spelled_member hflagLexeme hflag hcomma
  rw [IsText, text_eq]
  simpa [Tree.lexemes, Json.memberLexemes, hlexemes] using
    Spelled.mark_cons (c := '{') (l := .openBrace) (by decide) hfirst

/-- **Loading undoes writing.** What settings are written as is loaded as these settings, and so is
every text of an object that holds them, however it orders, spells and spaces its members. A text
that gives a setting twice is refused, and so is a text that is no JSON. -/
theorem load_undoes_text :
    (∀ s : Settings, load (.ofText s.text) = .ok s) ∧
      (∀ (s : Settings) (cs : List Char) (ms : Members), IsText cs (.object ms) → s.HeldBy ms →
        load (.ofText cs) = .ok s) ∧
      (∀ (cs : List Char) (ms : Members), IsText cs (.object ms) → Repeats ms →
        load (.ofText cs) = .error .invalid) ∧
      ∀ cs : List Char, (∀ t, ¬ IsText cs t) → load (.ofText cs) = .error .invalid := by
  have hheld : ∀ (s : Settings) (cs : List Char) (ms : Members), IsText cs (.object ms) →
      s.HeldBy ms → load (.ofText cs) = .ok s := by
    intro s cs ms htext hms
    rw [load_ofText, parse?_of_isText htext, ofTree?_of_heldBy hms, Option.elim_some]
  refine ⟨fun s => ?_, hheld, fun cs ms htext hms => ?_, fun cs hcs => ?_⟩
  · -- what is written is one of the texts
    obtain ⟨ms, htext, hms⟩ := s.exists_isText_text
    exact hheld s s.text ms htext hms
  · rw [load_ofText, parse?_of_isText htext, ofTree?_of_repeats hms, Option.elim_none]
  -- a text that is read would be a text of some tree
  · have hnone : Json.read? cs = none :=
      Option.eq_none_iff_forall_ne_some.2 fun t ht => hcs t (Json.read?_eq_some_iff.1 ht)
    rw [load_ofText, parse?, hnone, Option.bind_none, Option.elim_none]

/-- The settings behind another member, in the other order and with escapes; a flag given twice; and
a brace alone. -/
theorem load_undoes_text_escapes :
    load (.ofText (" \x7b\"x\":[\x7b\x7d],\"history_file\":\"\\ud83d\\ude00\"," ++
        "\"\\u0072ename_id\" :true\x7d").toList) = .ok ⟨true, some "😀"⟩ ∧
      load (.ofText "\x7b\"rename_id\":[],\"rename_id\":[]\x7d".toList) = .error .invalid ∧
      load (.ofText ['\x7b']) = .error .invalid := by
  -- the escapes of the first text
  have hr : ∀ cs, Json.escape? ('u' :: '0' :: '0' :: '7' :: '2' :: cs) = some (.unit 0x72, 5) :=
    fun _ => rfl
  have hhigh : ∀ cs, Json.escape? ('u' :: 'd' :: '8' :: '3' :: 'd' :: cs) =
      some (.unit 0xD83D, 5) := fun _ => rfl
  have hlow : ∀ cs, Json.escape? ('u' :: 'd' :: 'e' :: '0' :: '0' :: cs) =
      some (.unit 0xDE00, 5) := fun _ => rfl
  refine ⟨?_, ?_, ?_⟩
  · refine load_undoes_text.2.1 _ _ [([.char 'x'], .array [.object []]),
      (historyFileKey.toList.map .char, .string [.unit 0xD83D, .unit 0xDE00]),
      (.unit 0x72 :: "ename_id".toList.map .char, .boolean true)] (Json.spelled_of_lex? ?_) ?_
    · simp [Json.lex?, Json.scan?, Json.isBlank, Json.stringBody?, Json.keyword?, hr, hhigh, hlow,
        Tree.lexemes, Json.memberLexemes, Json.elementLexemes, historyFileKey]
    · have hflag : Spells (.unit 0x72 :: "ename_id".toList.map .char) renameIdKey.toList :=
        .unit (c := 'r') (by decide) (Text.Item.spells_map_char _)
      -- a code point beyond sixteen bits is spelled by two code units
      have hpath : Spells [.unit 0xD83D, .unit 0xDE00] "😀".toList :=
        .pair (c := '😀') (by decide) .nil
      have hothers : ∀ m ∈ [([.char 'x'], Tree.array [.object []])], IsOther m :=
        List.forall_mem_singleton.2 ⟨['x'], .char .nil, by decide, by decide⟩
      exact .intro (.member hflag (.boolean true))
        (.member (Text.Item.spells_map_char _) (.string hpath)) hothers
        (List.reverse_perm [_, _, _])
  · refine load_undoes_text.2.2.1 _ [(renameIdKey.toList.map .char, .array []),
      (renameIdKey.toList.map .char, .array [])] (Json.spelled_of_lex? ?_) ?_
    · simp [Json.lex?, Json.scan?, Json.isBlank, Json.stringBody?, Tree.lexemes,
        Json.memberLexemes, Json.elementLexemes, renameIdKey]
    · exact .intro (.inl rfl) (Text.Item.spells_map_char _) (Text.Item.spells_map_char _)
        (List.Sublist.refl _)
  · refine load_undoes_text.2.2.2 _ fun t ht => ?_
    have hread := Json.read?_eq_some_iff.2 ht
    simp [Json.read?, Json.lex?, Json.isBlank, Json.scan?, Json.ofLexemes?, Json.run?, Json.step?,
      Json.Step.begin?] at hread

end FindToSelect.Settings
