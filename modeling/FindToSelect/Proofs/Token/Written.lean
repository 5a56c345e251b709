import FindToSelect.Proofs.Text.CodeUnits
import FindToSelect.Proofs.Token.Locality
import FindToSelect.Value

/-!
# Texts written token by token

A value is written as one token after the other, mostly without a blank between them, and reading
must find the same tokens. Two notions say so:

* `Token.Whole kind cs` — the text `cs` is one token of the given kind, from its first character to
  its last;
* `Token.Reads P cs` — before any text that cannot go on a token, the text `cs` is read as tokens of
  which `P` holds, and reading goes on behind it. Texts that are read so can be put together:
  `Reads.append`, and `Reads.mark_cons` for the marks, which are read before any text.

What is written is a mark, a word, a number or a string. This file has the words and the strings:

* a character of a JSON string is written as itself or as an escape, and is read as one item
  (`StringLiteral.exists_item_jsonChar`), which stands for the character again;
* hence a JSON string is one token, whatever characters it holds (`Token.whole_jsonString`).
-/

namespace FindToSelect

/-- **Finished trivia behind finished trivia** is finished. -/
theorem Trivia.Finished.append {w w' : List Char} (h : Finished w) (h' : Finished w') :
    Finished (w ++ w') := by
  induction h with
  | nil => exact h'
  | blank hc _ ih => exact .blank hc ih
  | line hb _ ih => simpa using Finished.line hb ih
  | block hb _ ih => simpa using Finished.block hb ih

/-- The characters that are marks. -/
theorem TokenKind.eq_of_ofPunctuation? {c : Char} {kind : TokenKind}
    (h : ofPunctuation? c = some kind) :
    c = '{' ∨ c = '}' ∨ c = '[' ∨ c = ']' ∨ c = ':' ∨ c = ',' := by
  refine Decidable.byContradiction fun hne => ?_
  simp only [not_or] at hne
  -- for any other character each test of the definition fails
  simp [ofPunctuation?, hne] at h

namespace Token

/-! ### One token -/

/-- **A text that is one token** of the given kind: it starts no trivia, and the token takes all of
it. -/
def Whole (kind : TokenKind) (cs : List Char) : Prop :=
  ∃ c more, cs = c :: more ∧ Text.isBlank c = false ∧ c ≠ '/' ∧ scan c more = ⟨kind, more.length⟩

theorem whole_true : Whole .true ['t', 'r', 'u', 'e'] :=
  ⟨'t', _, rfl, by decide, by decide, by decide +kernel⟩

theorem whole_false : Whole .false ['f', 'a', 'l', 's', 'e'] :=
  ⟨'f', _, rfl, by decide, by decide, by decide +kernel⟩

theorem whole_null : Whole .null ['n', 'u', 'l', 'l'] :=
  ⟨'n', _, rfl, by decide, by decide, by decide +kernel⟩

/-! ### Texts read as tokens -/

/-- **A text is read as tokens of which `P` holds**, before any text that cannot go on a token.
Reading goes on behind it, and trivia that is finished there is finished. -/
def Reads (P : List Token → Prop) (cs : List Char) : Prop :=
  ∀ ys, Bounded ys →
    (Trivia.Finished (trailing ys) → Trivia.Finished (trailing (cs ++ ys))) ∧
      ∀ offset, ∃ ts, P ts ∧
        lexFrom offset (cs ++ ys) = ts ++ lexFrom (offset + byteLength cs) ys

/-- A mark goes on no token. -/
theorem bounded_mark {c : Char} {kind : TokenKind} (h : TokenKind.ofPunctuation? c = some kind)
    (ys : List Char) : Bounded (c :: ys) := by
  have hmark : Word.isPart c = false ∧ c ≠ '.' := by
    rcases TokenKind.eq_of_ofPunctuation? h with rfl | rfl | rfl | rfl | rfl | rfl <;>
      decide +kernel
  intro d hd
  obtain rfl : c = d := Option.some.inj hd
  exact hmark

/-- So an item of a list ends where its comma starts. -/
theorem bounded_comma (ys : List Char) : Bounded (',' :: ys) :=
  bounded_mark (show TokenKind.ofPunctuation? ',' = some .comma from rfl) ys

/-- And a key ends where its colon starts. -/
theorem bounded_colon (ys : List Char) : Bounded (':' :: ys) :=
  bounded_mark (show TokenKind.ofPunctuation? ':' = some .colon from rfl) ys

/-- **One token, then the rest.** -/
theorem lexFrom_scan {kind : TokenKind} {c : Char} {more ys : List Char}
    (hb : Text.isBlank c = false) (hs : c ≠ '/')
    (hscan : scan c (more ++ ys) = ⟨kind, more.length⟩) :
    trailing (c :: (more ++ ys)) = trailing ys ∧
      ∀ offset, lexFrom offset (c :: (more ++ ys)) =
        ⟨kind, offset, offset + byteLength (c :: more)⟩ ::
          lexFrom (offset + byteLength (c :: more)) ys := by
  have h0 := Trivia.length_cons_of_not hb hs (more ++ ys)
  constructor
  -- behind the token, trivia trails as it does behind the whole text
  · have hcons := trailing_append_cons .nil h0
    rwa [List.nil_append, hscan, List.drop_left] at hcons
  · intro offset
    rw [lexFrom_cons h0, hscan, List.take_left, List.drop_left]

/-- A token that stands alone is read as itself. -/
theorem Whole.reads {kind : TokenKind} {cs : List Char} (h : Whole kind cs)
    (hk : kind ≠ .illegal) : Reads (fun ts => ∃ t, ts = [t] ∧ t.kind = kind) cs := by
  obtain ⟨c, more, rfl, hb, hs, hscan⟩ := h
  intro ys hy
  have happend : scan c (more ++ ys) = ⟨kind, more.length⟩ := by
    rw [scan_append hy (by rw [hscan]; exact hk), hscan]
  obtain ⟨htrailing, hlex⟩ := lexFrom_scan hb hs happend
  refine ⟨fun hf => ?_, fun offset => ⟨_, ⟨_, rfl, rfl⟩, hlex offset⟩⟩
  rw [List.cons_append, htrailing]
  exact hf

/-- Finished trivia before a text leaves finished what is finished behind it. -/
theorem finished_trailing_append {w zs : List Char} (hw : Trivia.Finished w)
    (hz : Trivia.Finished (trailing zs)) : Trivia.Finished (trailing (w ++ zs)) := by
  cases h : zs.drop (Trivia.length zs) with
  | nil =>
    -- only trivia, before and behind
    have hd : (w ++ zs).drop (Trivia.length (w ++ zs)) = [] := by
      rw [hw.length_append, List.drop_length_add_append, h]
    rw [trailing_of_drop_eq_nil h] at hz
    rw [trailing_of_drop_eq_nil hd]
    exact hw.append hz
  | cons c rest =>
    obtain ⟨w', rfl, hw', h0⟩ := Trivia.eq_append_of_drop_length h
    rw [trailing_append_cons hw' h0] at hz
    rw [← List.append_assoc, trailing_append_cons (hw.append hw') h0]
    exact hz

namespace Reads

variable {P Q R : List Token → Prop} {cs ds : List Char}

/-- A text stays read when less is said of its tokens. -/
theorem mono (h : ∀ ts, P ts → Q ts) (hc : Reads P cs) : Reads Q cs := by
  intro ys hy
  refine ⟨(hc ys hy).1, fun offset => ?_⟩
  obtain ⟨ts, hts, hlex⟩ := (hc ys hy).2 offset
  exact ⟨ts, h ts hts, hlex⟩

theorem nil (h : P []) : Reads P [] :=
  fun _ _ => ⟨id, fun _ => ⟨[], h, rfl⟩⟩

/-- **Two texts are read one behind the other** if the second cannot go on a token of the first. -/
theorem append (hc : Reads P cs) (hd : Reads Q ds)
    (hb : ∀ ys, Bounded ys → Bounded (ds ++ ys)) (h : ∀ ts us, P ts → Q us → R (ts ++ us)) :
    Reads R (cs ++ ds) := by
  intro ys hy
  -- the first text stands before the second and what follows, which cannot go on its tokens
  have hcy := hc (ds ++ ys) (hb ys hy)
  rw [List.append_assoc]
  refine ⟨fun hf => hcy.1 ((hd ys hy).1 hf), fun offset => ?_⟩
  obtain ⟨ts, hts, hlex⟩ := hcy.2 offset
  obtain ⟨us, hus, hlex'⟩ := (hd ys hy).2 (offset + byteLength cs)
  refine ⟨ts ++ us, h ts us hts hus, ?_⟩
  rw [hlex, hlex', List.append_assoc, byteLength_append, Nat.add_assoc]

/-- **A mark is read before any text.** -/
theorem mark_cons {c : Char} {kind : TokenKind} (hm : TokenKind.ofPunctuation? c = some kind)
    (hc : Reads P cs) (h : ∀ t ts, t.kind = kind → P ts → Q (t :: ts)) : Reads Q (c :: cs) := by
  have hbs : Text.isBlank c = false ∧ c ≠ '/' := by
    rcases TokenKind.eq_of_ofPunctuation? hm with rfl | rfl | rfl | rfl | rfl | rfl <;> decide
  intro ys hy
  -- a mark is one character, and scanning it looks at nothing behind it
  have hscan : scan c ([] ++ (cs ++ ys)) = ⟨kind, ([] : List Char).length⟩ := by
    simp only [scan, hm]
    rfl
  obtain ⟨htrailing, hlex⟩ := lexFrom_scan hbs.1 hbs.2 hscan
  refine ⟨fun hf => ?_, fun offset => ?_⟩
  · rw [List.cons_append]
    exact htrailing ▸ (hc ys hy).1 hf
  · obtain ⟨ts, hts, hlex'⟩ := (hc ys hy).2 (offset + byteLength [c])
    refine ⟨_ :: ts, h ⟨kind, offset, offset + byteLength [c]⟩ ts rfl hts, ?_⟩
    -- the rest starts a mark further on
    have hbytes : offset + byteLength [c] + byteLength cs = offset + byteLength (c :: cs) := by
      rw [Nat.add_assoc, ← byteLength_append, List.singleton_append]
    rw [List.cons_append, List.cons_append, ← hbytes, ← hlex']
    exact hlex offset

/-- Finished trivia before a text does not change what it is read as. -/
theorem trivia_append {w : List Char} (hw : Trivia.Finished w) (hc : Reads P cs) :
    Reads P (w ++ cs) := by
  intro ys hy
  rw [List.append_assoc]
  refine ⟨fun hf => finished_trailing_append hw ((hc ys hy).1 hf), fun offset => ?_⟩
  obtain ⟨ts, hts, hlex⟩ := (hc ys hy).2 (offset + byteLength w)
  refine ⟨ts, hts, ?_⟩
  rw [lexFrom_finished_append hw, hlex, byteLength_append, Nat.add_assoc]

/-- **A text between two marks.** -/
theorem enclosed {o c : Char} {opened closed : TokenKind}
    (ho : TokenKind.ofPunctuation? o = some opened) (hc : TokenKind.ofPunctuation? c = some closed)
    (h : Reads P cs) (hq : ∀ opening closing ts, opening.kind = opened → closing.kind = closed →
      P ts → Q (opening :: (ts ++ [closing]))) :
    Reads Q (o :: (cs ++ [c])) := by
  have hclose : Reads (fun us => ∃ closing, us = [closing] ∧ closing.kind = closed) [c] :=
    mark_cons hc (nil rfl) fun t ts ht hts => ⟨t, congrArg _ hts.symm, ht⟩
  -- the closing mark ends the text, so it is what the text is read up to
  have hrest : Reads (fun us => ∃ ts closing, us = ts ++ [closing] ∧ closing.kind = closed ∧ P ts)
      (cs ++ [c]) := by
    refine append h hclose (fun ys _ => bounded_mark hc ys) ?_
    rintro ts us hts ⟨closing, rfl, hk⟩
    exact ⟨ts, closing, rfl, hk, hts⟩
  refine mark_cons ho hrest ?_
  rintro opening us hopen ⟨ts, closing, rfl, hk, hts⟩
  exact hq opening closing ts hopen hk hts

/-- **What a text on its own is read as.** Behind its last token there is finished trivia. -/
theorem of_lex (h : Reads P cs) : P (lex cs) ∧ Trivia.Finished (trailing cs) := by
  -- nothing follows, which cannot go on a token
  obtain ⟨hfinished, htokens⟩ := h [] (by simp [Bounded])
  rw [List.append_nil] at hfinished htokens
  obtain ⟨ts, hts, hlex⟩ := htokens 0
  rw [lexFrom_of_drop_eq_nil List.drop_nil, List.append_nil] at hlex
  refine ⟨?_, hfinished ?_⟩
  · rw [lex, hlex]
    exact hts
  · rw [trailing_of_drop_eq_nil List.drop_nil]
    exact .nil

end Reads

end Token

/-! ### JSON strings -/

/-- The four digits of a control character. -/
theorem Text.hex?_control {n : Nat} (h : n < 0x20) (rest : List Char) :
    Text.hex? 4 ('0' :: '0' :: Nat.digitChar (n / 16) :: Nat.digitChar (n % 16) :: rest) =
      some n := by
  -- there are only thirty-two control characters
  have hall : ∀ n < 0x20,
      Text.hex? 4 ['0', '0', Nat.digitChar (n / 16), Nat.digitChar (n % 16)] = some n := by
    decide
  exact Text.hex?_append (hall n h) rest

namespace StringLiteral

theorem body_quote (quote : Char) (cs : List Char) : body quote (quote :: cs) = (some [], 1) := by
  rw [body, if_pos rfl]

/-- **An escape in a body** is one item, and what follows is read by itself. -/
theorem body_escape {quote : Char} (hq : quote ≠ '\\') {cs : List Char} {item : Text.Item} {n : Nat}
    (h : escape cs = (some item, n)) :
    body quote ('\\' :: cs) =
      ((body quote (cs.drop n)).1.map (item :: ·), (body quote (cs.drop n)).2 + (n + 1)) := by
  rw [body, if_neg hq.symm, if_neg (by decide), if_pos rfl, h]
  rfl

/-- **Any other character of a body** is an item as it stands. -/
theorem body_cons {quote c : Char} (hq : c ≠ quote) (hn : c ≠ '\n') (hb : c ≠ '\\')
    (cs : List Char) :
    body quote (c :: cs) = ((body quote cs).1.map (.char c :: ·), (body quote cs).2 + 1) := by
  rw [body, if_neg hq, if_neg hn, if_neg hb]

/-- **A character of a JSON string is read as one item**, which stands for it. -/
theorem exists_item_jsonChar (c : Char) :
    ∃ item, (∀ items, Text.Item.decode (item :: items) = c :: Text.Item.decode items) ∧
      ∀ rest, body '"' (jsonChar c ++ rest) =
        ((body '"' rest).1.map (item :: ·), (body '"' rest).2 + (jsonChar c).length) := by
  -- an escape of one character, which stands for `c`
  have hshort : ∀ e, (∀ rest, escape (e :: rest) = (some (.char c), 1)) → ∀ rest,
      body '"' (['\\', e] ++ rest) =
        ((body '"' rest).1.map (.char c :: ·), (body '"' rest).2 + 2) :=
    fun e he rest => body_escape (by decide) (he rest)
  -- one case for each way to write a character, in the order in which writing tries them
  unfold jsonChar
  split
  · next h =>
    refine ⟨.char c, fun _ => rfl, hshort c fun rest => ?_⟩
    rcases h with rfl | rfl <;> rfl
  split
  · next h => subst h; exact ⟨.char _, fun _ => rfl, hshort 'b' fun _ => rfl⟩
  split
  · next h => subst h; exact ⟨.char _, fun _ => rfl, hshort 'f' fun _ => rfl⟩
  split
  · next h => subst h; exact ⟨.char _, fun _ => rfl, hshort 'n' fun _ => rfl⟩
  split
  · next h => subst h; exact ⟨.char _, fun _ => rfl, hshort 'r' fun _ => rfl⟩
  split
  · next h => subst h; exact ⟨.char _, fun _ => rfl, hshort 't' fun _ => rfl⟩
  split
  · next h =>
    -- the other control characters are written as a code unit
    refine ⟨.unit c.toNat, Text.Item.decode_unit_toNat c, fun rest => ?_⟩
    refine body_escape (by decide) (n := 5) ?_
    simp [escape, Text.hex?_control h]
  · next hq _ _ hn _ _ _ =>
    -- any other character is written as itself, being neither a quote nor a backslash
    rw [not_or] at hq
    exact ⟨.char c, fun _ => rfl, body_cons hq.1 hn hq.2⟩

/-- **The body of a JSON string is read as items that stand for it.** -/
theorem exists_items_flatMap_jsonChar (cs rest : List Char) :
    ∃ items, Text.Item.decode items = cs ∧
      body '"' (cs.flatMap jsonChar ++ '"' :: rest) =
        (some items, (cs.flatMap jsonChar).length + 1) := by
  induction cs with
  | nil => exact ⟨[], rfl, body_quote '"' rest⟩
  | cons c cs ih =>
    obtain ⟨items, hitems, hbody⟩ := ih
    obtain ⟨item, hitem, hchar⟩ := exists_item_jsonChar c
    -- the item of the first character, then those of the rest
    refine ⟨item :: items, by rw [hitem, hitems], ?_⟩
    rw [List.flatMap_cons, List.append_assoc, hchar, hbody, List.length_append, Option.map_some]
    congr 1
    omega

end StringLiteral

/-- **A JSON string is one token**, whatever characters it holds. -/
theorem Token.whole_jsonString (s : String) : Whole (.string s) (jsonString s) := by
  refine ⟨'"', s.toList.flatMap jsonChar ++ ['"'], rfl, by decide, by decide, ?_⟩
  obtain ⟨items, hitems, hbody⟩ := StringLiteral.exists_items_flatMap_jsonChar s.toList []
  -- a quote opens a string
  have hscan : ∀ cs, scan '"' cs = StringLiteral.scan '"' cs := fun _ => rfl
  rw [hscan, StringLiteral.scan, hbody]
  simp only [hitems, String.ofList_toList, List.length_append, List.length_singleton]

end FindToSelect
