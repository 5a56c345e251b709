import FindToSelect.Proofs.Number.Positional
import FindToSelect.Proofs.Token.Written

/-!
# The language of string literals

What stands between the quotes of a string literal, given by rules and without a reader:
`StringLiteral.IsEscape` are the escapes, and `StringLiteral.IsBody` the bodies, as sequences of raw
characters and escapes. What the items of a body stand for is `Text.Item.Means`.

The reader reads a string exactly where a body and a quote stand
(`StringLiteral.scan_eq_string_iff`); elsewhere the literal breaks off in one of the ways of
`StringLiteral.BreaksOff` (`StringLiteral.scan_cases`). For the tokens of a text that is
`Token.lex_string_literal`.
-/

namespace FindToSelect

/-! ### Escapes -/

namespace StringLiteral

open Text (Item)

/-- The letters that name a character behind a backslash. -/
def namedEscapes : List (Char × Char) :=
  [('n', '\n'), ('t', '\t'), ('r', '\r'), ('b', '\x08'), ('f', '\x0c'), ('v', '\x0b'),
    ('0', '\x00')]

/-- **The ends of a line.** -/
def lineEnds : List (List Char) :=
  [['\n'], ['\r'], ['\r', '\n'], ['\u2028'], ['\u2029']]

/-- The characters that do not stand for themselves behind a backslash. -/
def escapeMarks : List Char :=
  namedEscapes.map Prod.fst ++ lineEnds.flatten ++ ['x', 'u']

/-- **The text of an escape behind its backslash**, and its item. -/
inductive IsEscape : List Char → Item → Prop
  | named {letter c : Char} : (letter, c) ∈ namedEscapes → IsEscape [letter] (.char c)
  /-- A line continuation. -/
  | lineEnd {w : List Char} : w ∈ lineEnds → IsEscape w .gap
  | byte {h l : Char} {a b : Nat} : IsHexDigit h a → IsHexDigit l b →
      IsEscape ['x', h, l] (.char (Char.ofNat (16 * a + b)))
  | unit {h₁ h₂ h₃ h₄ : Char} {a b c d : Nat} :
      IsHexDigit h₁ a → IsHexDigit h₂ b → IsHexDigit h₃ c → IsHexDigit h₄ d →
        IsEscape ['u', h₁, h₂, h₃, h₄] (.unit (4096 * a + 256 * b + 16 * c + d))
  | itself {c : Char} : c ∉ escapeMarks → IsEscape [c] (.char c)

/-- **A body of a string literal** between two `quote`s: raw characters and escapes. A carriage
return is a line continuation by itself only if no line feed follows. -/
inductive IsBody (quote : Char) : List Char → List Item → Prop
  | nil : IsBody quote [] []
  | raw {c : Char} {cs : List Char} {items : List Item} : c ≠ quote → c ≠ '\\' → c ≠ '\n' →
      IsBody quote cs items → IsBody quote (c :: cs) (.char c :: items)
  | escape {w cs : List Char} {item : Item} {items : List Item} : IsEscape w item →
      (w = ['\r'] → cs.head? ≠ some '\n') → IsBody quote cs items →
        IsBody quote ('\\' :: (w ++ cs)) (item :: items)

/-- Two digits are read as the number that they make. -/
theorem hex?_of_digits {h l : Char} {a b : Nat} (hh : IsHexDigit h a) (hl : IsHexDigit l b)
    (rest : List Char) : Text.hex? 2 (h :: l :: rest) = some (16 * a + b) := by
  rw [isHexDigit_iff_hexDigit?] at hh hl
  simp [Text.hex?, Text.isHexDigit, Text.hexValue, hh, hl]

theorem hex?_of_four_digits {h₁ h₂ h₃ h₄ : Char} {a b c d : Nat} (ha : IsHexDigit h₁ a)
    (hb : IsHexDigit h₂ b) (hc : IsHexDigit h₃ c) (hd : IsHexDigit h₄ d) (rest : List Char) :
    Text.hex? 4 (h₁ :: h₂ :: h₃ :: h₄ :: rest) = some (4096 * a + 256 * b + 16 * c + d) := by
  rw [isHexDigit_iff_hexDigit?] at ha hb hc hd
  simp [Text.hex?, Text.isHexDigit, Text.hexValue, ha, hb, hc, hd]
  omega

/-- **A number that is read** was written in as many digits as were asked for. -/
theorem exists_of_hex? {n v : Nat} {cs : List Char} (h : Text.hex? n cs = some v) :
    ∃ ds rest, cs = ds ++ rest ∧ ds.length = n ∧ ∀ d ∈ ds, ∃ a, IsHexDigit d a := by
  simp only [Text.hex?] at h
  split at h
  · next hd =>
    refine ⟨cs.take n, cs.drop n, (List.take_append_drop n cs).symm, hd.1, fun d hm => ?_⟩
    obtain ⟨a, ha⟩ := Option.isSome_iff_exists.1 (List.all_eq_true.1 hd.2 d hm)
    exact ⟨a, isHexDigit_iff_hexDigit?.2 ha⟩
  · cases h

/-- A character that opens no longer escape names one, or stands for itself. -/
theorem isEscape_escapedChar {c : Char} (h : c ∉ lineEnds.flatten ++ ['x', 'u']) :
    IsEscape [c] (.char (escapedChar c)) := by
  by_cases hnamed : c ∈ namedEscapes.map Prod.fst
  · obtain ⟨⟨letter, d⟩, hmem, rfl⟩ := List.mem_map.1 hnamed
    -- the table of the reader agrees with the rules, entry by entry
    have hall : ∀ p ∈ namedEscapes, escapedChar p.1 = p.2 := by decide
    have hd := hall _ hmem
    rw [hd]
    exact .named hmem
  -- in no entry of the table, a character is escaped to itself
  · have hself : escapedChar c = c := by
      simp only [namedEscapes, List.map_cons, List.map_nil, List.mem_cons, List.not_mem_nil,
        or_false, not_or] at hnamed
      simp [escapedChar, hnamed]
    rw [hself]
    refine .itself ?_
    rw [escapeMarks, List.append_assoc, List.mem_append, not_or]
    exact ⟨hnamed, h⟩

/-- Two hexadecimal digits are an escape behind `x`. -/
theorem exists_isEscape_byte {cs : List Char} {v : Nat} (h : Text.hex? 2 cs = some v) :
    ∃ w rest, 'x' :: cs = w ++ rest ∧ w.length = 3 ∧ IsEscape w (.char (Char.ofNat v)) := by
  obtain ⟨ds, rest, rfl, hlen, hds⟩ := exists_of_hex? h
  -- there are two of them, so they can be named
  match ds, hlen with
  | [h₁, h₂], _ =>
    obtain ⟨a, ha⟩ := hds h₁ (by simp)
    obtain ⟨b, hb⟩ := hds h₂ (by simp)
    obtain rfl : 16 * a + b = v := Option.some.inj ((hex?_of_digits ha hb rest).symm.trans h)
    exact ⟨['x', h₁, h₂], rest, rfl, rfl, .byte ha hb⟩

/-- **Four hexadecimal digits**, and the number that they make. -/
theorem exists_four_digits {cs : List Char} {v : Nat} (h : Text.hex? 4 cs = some v) :
    ∃ h₁ h₂ h₃ h₄ rest a b c d, cs = h₁ :: h₂ :: h₃ :: h₄ :: rest ∧ IsHexDigit h₁ a ∧
      IsHexDigit h₂ b ∧ IsHexDigit h₃ c ∧ IsHexDigit h₄ d ∧
        v = 4096 * a + 256 * b + 16 * c + d := by
  obtain ⟨ds, rest, rfl, hlen, hds⟩ := exists_of_hex? h
  match ds, hlen with
  | [h₁, h₂, h₃, h₄], _ =>
    obtain ⟨a, ha⟩ := hds h₁ (by simp)
    obtain ⟨b, hb⟩ := hds h₂ (by simp)
    obtain ⟨c, hc⟩ := hds h₃ (by simp)
    obtain ⟨d, hd⟩ := hds h₄ (by simp)
    have hv := Option.some.inj (h.symm.trans (hex?_of_four_digits ha hb hc hd rest))
    exact ⟨h₁, h₂, h₃, h₄, rest, a, b, c, d, rfl, ha, hb, hc, hd, hv⟩

/-- Four hexadecimal digits are an escape behind `u`. -/
theorem exists_isEscape_unit {cs : List Char} {v : Nat} (h : Text.hex? 4 cs = some v) :
    ∃ w rest, 'u' :: cs = w ++ rest ∧ w.length = 5 ∧ IsEscape w (.unit v) := by
  obtain ⟨h₁, h₂, h₃, h₄, rest, a, b, c, d, rfl, ha, hb, hc, hd, rfl⟩ := exists_four_digits h
  exact ⟨['u', h₁, h₂, h₃, h₄], rest, rfl, rfl, .unit ha hb hc hd⟩

/-- **What the reader takes behind a backslash is an escape.** -/
theorem exists_isEscape_of_escape {cs : List Char} {item : Item} {n : Nat}
    (h : escape cs = (some item, n)) :
    ∃ w rest, cs = w ++ rest ∧ n = w.length ∧ IsEscape w item ∧
      (w = ['\r'] → rest.head? ≠ some '\n') := by
  cases cs with
  | nil => cases h
  | cons c cs =>
    -- one case for each branch of the reader: `x`, `u`, a carriage return, the other line ends, and
    -- any other character
    simp only [escape] at h
    split at h
    · next hc =>
      subst hc
      cases hv : Text.hex? 2 cs with
      | none => rw [hv] at h; cases h
      | some v =>
        rw [hv] at h
        cases h
        obtain ⟨w, rest, hw, hlen, hescape⟩ := exists_isEscape_byte hv
        exact ⟨w, rest, hw, hlen.symm, hescape, by rintro rfl; cases hlen⟩
    split at h
    · next hc =>
      subst hc
      cases hv : Text.hex? 4 cs with
      | none => rw [hv] at h; cases h
      | some v =>
        rw [hv] at h
        cases h
        obtain ⟨w, rest, hw, hlen, hescape⟩ := exists_isEscape_unit hv
        exact ⟨w, rest, hw, hlen.symm, hescape, by rintro rfl; cases hlen⟩
    split at h
    · next hc =>
      -- a carriage return takes the line feed behind it along
      subst hc
      split at h
      · next hfeed =>
        obtain ⟨rest, rfl⟩ := List.head?_eq_some_iff.1 hfeed
        cases h
        exact ⟨['\r', '\n'], rest, rfl, rfl, .lineEnd (by decide), by simp⟩
      · next hfeed =>
        cases h
        exact ⟨['\r'], cs, rfl, rfl, .lineEnd (by decide), fun _ => hfeed⟩
    split at h
    · next hr hc =>
      cases h
      refine ⟨[c], cs, rfl, rfl, .lineEnd ?_, fun hw => absurd (List.cons.inj hw).1 hr⟩
      rcases hc with rfl | rfl | rfl <;> decide
    · next hx hu hr hends =>
      cases h
      refine ⟨[c], cs, rfl, rfl, isEscape_escapedChar ?_, fun hw => absurd (List.cons.inj hw).1 hr⟩
      -- the character is no letter of an escape and no end of a line
      simp only [not_or] at hends
      simp [lineEnds, hx, hu, hr, hends]

/-- **An escape is taken as its item**, before any text that does not go on its line end. -/
theorem escape_of_isEscape {w rest : List Char} {item : Item} (h : IsEscape w item)
    (hrest : w = ['\r'] → rest.head? ≠ some '\n') : escape (w ++ rest) = (some item, w.length) := by
  cases h with
  | @named letter c hmem =>
    simp only [namedEscapes, List.mem_cons, Prod.mk.injEq, List.not_mem_nil, or_false] at hmem
    rcases hmem with ⟨rfl, rfl⟩ | ⟨rfl, rfl⟩ | ⟨rfl, rfl⟩ | ⟨rfl, rfl⟩ | ⟨rfl, rfl⟩ | ⟨rfl, rfl⟩ |
      ⟨rfl, rfl⟩ <;> rfl
  | lineEnd hmem =>
    simp only [lineEnds, List.mem_cons, List.not_mem_nil, or_false] at hmem
    rcases hmem with rfl | rfl | rfl | rfl | rfl
    · rfl
    -- a carriage return by itself: no line feed follows that the reader would take along
    · rw [List.singleton_append, escape, if_neg (by decide), if_neg (by decide), if_pos rfl,
        if_neg (hrest rfl)]
      rfl
    · rfl
    · rfl
    · rfl
  | byte ha hb =>
    simp only [List.cons_append, List.nil_append, escape, if_true, hex?_of_digits ha hb]
    rfl
  | unit ha hb hc hd =>
    simp only [List.cons_append, List.nil_append, escape, if_true, hex?_of_four_digits ha hb hc hd]
    rfl
  | itself hc =>
    -- the character is none that a branch of the reader asks for
    simp only [escapeMarks, namedEscapes, lineEnds] at hc
    simp at hc
    simp [escape, escapedChar, hc]

/-! ### Bodies -/

/-- A quote opens no escape and ends no line. -/
theorem ne_of_isQuote {quote : Char} (hq : quote = '"' ∨ quote = '\'') :
    quote ≠ '\\' ∧ quote ≠ '\n' := by
  rcases hq with rfl | rfl <;> decide

/-- **A body is read up to the quote behind it.** -/
theorem body_of_isBody {quote : Char} (hq : quote = '"' ∨ quote = '\'') {inner : List Char}
    {items : List Item} (h : IsBody quote inner items) (behind : List Char) :
    body quote (inner ++ quote :: behind) = (some items, inner.length + 1) := by
  obtain ⟨hbackslash, hfeed⟩ := ne_of_isQuote hq
  induction h with
  | nil => exact body_quote quote behind
  | raw hc hb hn _ ih => rw [List.cons_append, body_cons hc hn hb, ih]; rfl
  | @escape w cs item items hescape hrest _ ih =>
    -- behind a carriage return stands the rest of the body or the quote, and neither goes on it
    have hhead : w = ['\r'] → (cs ++ quote :: behind).head? ≠ some '\n' := by
      intro hw
      cases cs with
      | nil => exact fun hh => hfeed (Option.some.inj hh)
      | cons c cs => exact hrest hw
    have hread := escape_of_isEscape hescape hhead
    rw [List.cons_append, List.append_assoc, body_escape hbackslash hread, List.drop_left, ih,
      Option.map_some, List.length_cons, List.length_append]
    congr 1
    omega

/-- **How a string literal breaks off**: at the end of the text, at a line feed, or at an escape
without its hexadecimal digits. -/
inductive BreaksOff : List Char → Prop
  | atEnd : BreaksOff []
  | atBackslash : BreaksOff ['\\']
  | lineFeed (rest : List Char) : BreaksOff ('\n' :: rest)
  | digits {letter : Char} {n : Nat} {rest : List Char} : (letter, n) ∈ [('x', 2), ('u', 4)] →
      ¬ (n ≤ rest.length ∧ ∀ d ∈ rest.take n, ∃ a, IsHexDigit d a) →
        BreaksOff ('\\' :: letter :: rest)

/-- **A reader that stops behind a backslash** has met the end of the text, or no digits. -/
theorem breaksOff_of_escape {cs : List Char} {n : Nat} (h : escape cs = (none, n)) :
    BreaksOff ('\\' :: cs) := by
  cases cs with
  | nil => exact .atBackslash
  | cons c cs =>
    -- reading digits fails only where they are not there
    have hdigits : ∀ n, Text.hex? n cs = none →
        ¬ (n ≤ cs.length ∧ ∀ d ∈ cs.take n, ∃ a, IsHexDigit d a) := by
      rintro n hn ⟨hle, hall⟩
      have hhex : ∀ d ∈ cs.take n, Text.isHexDigit d = true := by
        intro d hd
        obtain ⟨a, hvalue, hlt⟩ := hall d hd
        exact Text.isHexDigit_iff_digitValue.2 (hvalue ▸ hlt)
      rw [Text.hex?, if_pos ⟨List.length_take_of_le hle, List.all_eq_true.2 hhex⟩] at hn
      cases hn
    -- only behind `x` and `u` can the reader fail, for want of digits
    simp only [escape] at h
    split at h
    · next hc =>
      subst hc
      cases hv : Text.hex? 2 cs with
      | none => exact .digits (by decide) (hdigits 2 hv)
      | some v => rw [hv] at h; cases h
    split at h
    · next hc =>
      subst hc
      cases hv : Text.hex? 4 cs with
      | none => exact .digits (by decide) (hdigits 4 hv)
      | some v => rw [hv] at h; cases h
    split at h
    · cases h
    split at h
    · cases h
    · cases h

/-- **What the reader has read is a body**, and behind it stands a quote, or the literal breaks off.
-/
theorem exists_isBody_of_body (quote : Char) (cs : List Char) :
    ∃ inner after items, cs = inner ++ after ∧ IsBody quote inner items ∧
      ((∃ behind, after = quote :: behind ∧ body quote cs = (some items, inner.length + 1)) ∨
        BreaksOff after ∧ (body quote cs).1 = none) := by
  -- along the recursion of the reader: it has read nothing where it stops, and one item more where
  -- it goes on
  fun_induction body quote cs with
  | case1 => exact ⟨[], [], [], rfl, .nil, Or.inr ⟨.atEnd, rfl⟩⟩
  | case2 cs => exact ⟨[], quote :: cs, [], rfl, .nil, Or.inl ⟨cs, rfl, rfl⟩⟩
  | case3 cs => exact ⟨[], '\n' :: cs, [], rfl, .nil, Or.inr ⟨.lineFeed cs, rfl⟩⟩
  | case4 cs n he => exact ⟨[], '\\' :: cs, [], rfl, .nil, Or.inr ⟨breaksOff_of_escape he, rfl⟩⟩
  | case5 cs item n he rest _ _ ih =>
    -- an escape, and a body behind it by the induction hypothesis
    obtain ⟨w, ds, rfl, rfl, hescape, hhead⟩ := exists_isEscape_of_escape he
    rw [List.drop_left] at ih
    obtain ⟨inner, after, items, rfl, hbody, hend⟩ := ih
    have hhead' : w = ['\r'] → inner.head? ≠ some '\n' := by
      intro hw
      cases inner with
      | nil => simp
      | cons d inner => exact hhead hw
    refine ⟨'\\' :: (w ++ inner), after, item :: items, by simp, .escape hescape hhead' hbody, ?_⟩
    rcases hend with ⟨behind, rfl, hread⟩ | ⟨hbreaks, hread⟩
    · refine Or.inl ⟨behind, rfl, ?_⟩
      simp only [rest, List.drop_left, hread, Option.map_some, List.length_cons,
        List.length_append, Prod.mk.injEq, true_and]
      omega
    · refine Or.inr ⟨hbreaks, ?_⟩
      simp only [rest, List.drop_left, hread, Option.map_none]
  | case6 c cs hq hn hb rest ih =>
    -- a raw character, and a body behind it
    obtain ⟨inner, after, items, rfl, hbody, hend⟩ := ih
    refine ⟨c :: inner, after, .char c :: items, rfl, .raw hq hb hn hbody, ?_⟩
    rcases hend with ⟨behind, rfl, hread⟩ | ⟨hbreaks, hread⟩
    · refine Or.inl ⟨behind, rfl, ?_⟩
      simp only [rest, hread, Option.map_some, List.length_cons]
    · refine Or.inr ⟨hbreaks, ?_⟩
      simp only [rest, hread, Option.map_none]

/-- A code unit that is written has sixteen bits. -/
theorem IsBody.unit_lt {quote : Char} {inner : List Char} {items : List Item}
    (h : IsBody quote inner items) : ∀ u, .unit u ∈ items → u < 0x10000 := by
  induction h with
  | nil => simp
  | raw _ _ _ _ ih =>
    intro u hu
    exact ih u (List.mem_of_ne_of_mem (by simp) hu)
  | @escape w cs item items hescape _ _ ih =>
    intro u hu
    rcases List.mem_cons.1 hu with rfl | hu
    · cases hescape with
      | unit ha hb hc hd =>
        -- each of the four digits is below sixteen
        have := ha.2
        have := hb.2
        have := hc.2
        have := hd.2
        omega
    · exact ih u hu

/-- **A body without a backslash is its own meaning.** -/
theorem isBody_raw {quote : Char} {inner : List Char} (hquote : quote ∉ inner)
    (hbackslash : '\\' ∉ inner) (hfeed : '\n' ∉ inner) :
    IsBody quote inner (inner.map .char) := by
  induction inner with
  | nil => exact .nil
  | cons c inner ih =>
    simp only [List.mem_cons, not_or] at hquote hbackslash hfeed
    exact .raw (Ne.symm hquote.1) (Ne.symm hbackslash.1) (Ne.symm hfeed.1)
      (ih hquote.2 hbackslash.2 hfeed.2)

/-- **A string literal is read exactly from its language.** -/
theorem scan_eq_string_iff {quote : Char} (hq : quote = '"' ∨ quote = '\'') {cs : List Char}
    {s : String} {n : Nat} :
    scan quote cs = ⟨.string s, n⟩ ↔
      ∃ inner behind items, cs = inner ++ quote :: behind ∧ n = inner.length + 1 ∧
        IsBody quote inner items ∧ Item.Means items s.toList := by
  constructor
  · intro h
    obtain ⟨inner, after, items, rfl, hbody, ⟨behind, rfl, hread⟩ | ⟨_, hread⟩⟩ :=
      exists_isBody_of_body quote cs
    -- the reader has met the closing quote
    · rw [scan, hread] at h
      cases h
      refine ⟨inner, behind, items, rfl, rfl, hbody, (Item.means_iff hbody.unit_lt).2 ?_⟩
      rw [String.toList_ofList]
    -- it broke off, and then there is no string
    · rw [scan] at h
      split at h
      · next hsome => rw [hsome] at hread; cases hread
      · cases h
  · rintro ⟨inner, behind, items, rfl, rfl, hbody, hmeans⟩
    rw [scan, body_of_isBody hq hbody behind]
    simp only [(Item.means_iff hbody.unit_lt).1 hmeans, String.ofList_toList]

/-- **Every other text behind a quote is `illegal`**, and breaks off behind a body. -/
theorem scan_cases (quote : Char) (cs : List Char) :
    (∃ s n, scan quote cs = ⟨.string s, n⟩) ∨
      (scan quote cs).kind = .illegal ∧ ∃ inner after items, cs = inner ++ after ∧
        IsBody quote inner items ∧ BreaksOff after := by
  obtain ⟨inner, after, items, hcs, hbody, ⟨behind, _, hread⟩ | ⟨hbreaks, hread⟩⟩ :=
    exists_isBody_of_body quote cs
  · refine Or.inl ⟨String.ofList (Item.decode items), inner.length + 1, ?_⟩
    rw [scan, hread]
  · refine Or.inr ⟨?_, inner, after, items, hcs, hbody, hbreaks⟩
    rw [scan]
    split
    · next hsome => rw [hsome] at hread; cases hread
    · rfl

end StringLiteral

/-! ### Tokens -/

namespace Token

open StringLiteral (IsBody BreaksOff)

/-- **A quote opens a token**, which is what scanning a string gives. -/
theorem lexFrom_quote {quote : Char} (hq : quote = '"' ∨ quote = '\'') (offset : Nat)
    (rest : List Char) :
    ∃ ts, lexFrom offset (quote :: rest) =
      ⟨(StringLiteral.scan quote rest).kind, offset,
        offset + byteLength (quote :: rest.take (StringLiteral.scan quote rest).taken)⟩ :: ts := by
  have hnot : Text.isBlank quote = false ∧ quote ≠ '/' := by
    rcases hq with rfl | rfl <;> decide
  have hscan : scan quote rest = StringLiteral.scan quote rest := by
    rcases hq with rfl | rfl <;> rfl
  rw [lexFrom_cons (Trivia.length_cons_of_not hnot.1 hnot.2 rest), hscan]
  exact ⟨_, rfl⟩

/-- **The token that a quote opens**, behind finished trivia and at any place of a text. It is a
string up to some byte exactly where the text up to that byte is a body with that meaning between
two quotes, and `illegal` where there is no such text: then the literal breaks off. Without a
backslash the string is the text between the quotes itself. -/
theorem lex_string_literal {w : List Char} (hw : Trivia.Finished w) {quote : Char}
    (hq : quote = '"' ∨ quote = '\'') (rest : List Char) (offset : Nat) :
    ∃ t ts, lexFrom offset (w ++ quote :: rest) = t :: ts ∧ t.span.start = offset + byteLength w ∧
      (∀ s e, t.kind = .string s ∧ t.span.stop = e ↔
        ∃ inner behind items, rest = inner ++ quote :: behind ∧
          e = offset + byteLength (w ++ quote :: (inner ++ [quote])) ∧
          IsBody quote inner items ∧ Text.Item.Means items s.toList) ∧
      ((∀ s, t.kind ≠ .string s) → t.kind = .illegal ∧
        ∃ inner after items, rest = inner ++ after ∧ IsBody quote inner items ∧ BreaksOff after) ∧
      ∀ inner behind, rest = inner ++ quote :: behind → quote ∉ inner → '\\' ∉ inner →
        '\n' ∉ inner → t.kind = .string (String.ofList inner) := by
  obtain ⟨ts, hts⟩ := lexFrom_quote hq (offset + byteLength w) rest
  -- a string ends behind the characters that its token takes
  have hstop : ∀ inner behind : List Char,
      offset + byteLength w +
          byteLength (quote :: (inner ++ quote :: behind).take (inner.length + 1)) =
        offset + byteLength (w ++ quote :: (inner ++ [quote])) := by
    intro inner behind
    have htake : (inner ++ quote :: behind).take (inner.length + 1) = inner ++ [quote] := by
      rw [List.take_length_add_append]
      rfl
    rw [htake, byteLength_append, Nat.add_assoc]
  rw [lexFrom_finished_append hw]
  refine ⟨_, ts, hts, rfl, fun s e => ⟨?_, ?_⟩, ?_, ?_⟩
  · rintro ⟨hkind, hend⟩
    -- the token is a string, so scanning gave one, and that took a body and a quote
    have hscan : StringLiteral.scan quote rest =
        ⟨.string s, (StringLiteral.scan quote rest).taken⟩ := congrArg (Scanned.mk · _) hkind
    obtain ⟨inner, behind, items, rfl, htaken, hbody, hmeans⟩ :=
      (StringLiteral.scan_eq_string_iff hq).1 hscan
    refine ⟨inner, behind, items, rfl, ?_, hbody, hmeans⟩
    rw [← hend, ← hstop inner behind, htaken]
  · rintro ⟨inner, behind, items, rfl, rfl, hbody, hmeans⟩
    have hscan := (StringLiteral.scan_eq_string_iff hq).2
      ⟨inner, behind, items, rfl, rfl, hbody, hmeans⟩
    rw [hscan]
    exact ⟨rfl, hstop inner behind⟩
  · intro hnone
    rcases StringLiteral.scan_cases quote rest with ⟨s, n, hscan⟩ | hillegal
    · exact absurd (congrArg Scanned.kind hscan) (hnone s)
    · exact hillegal
  · rintro inner behind rfl hquote hbackslash hfeed
    -- characters that are neither quote, backslash nor line feed are a body by themselves
    have hraw := StringLiteral.isBody_raw hquote hbackslash hfeed
    have hmeans : Text.Item.Means (inner.map .char) (String.ofList inner).toList := by
      rw [Text.Item.means_iff hraw.unit_lt, Text.Item.decode_map_char, String.toList_ofList]
    exact congrArg Scanned.kind ((StringLiteral.scan_eq_string_iff hq).2
      ⟨inner, behind, _, rfl, rfl, hraw, hmeans⟩)

/-- A pair, then a first half that a line continuation keeps from its second. -/
theorem lex_string_literal_surrogates :
    Trivia.Finished ['\t'] ∧ ∃ t ts,
      lexFrom 0 (['\t'] ++ '\'' :: "\\ud83d\\ude00\\ud83d\\\n\\ude00' é".toList) = t :: ts ∧
        t.kind = .string "😀\uFFFD\uFFFD" ∧ t.span.stop = 29 := by
  have hw : Trivia.Finished ['\t'] := .blank (by decide) .nil
  obtain ⟨t, ts, hlex, -, hstring, -⟩ := lex_string_literal hw (Or.inr rfl)
    "\\ud83d\\ude00\\ud83d\\\n\\ude00' é".toList 0
  refine ⟨hw, t, ts, hlex, (hstring _ _).2 ?_⟩
  have hhigh : StringLiteral.IsEscape ['u', 'd', '8', '3', 'd'] (.unit 0xD83D) :=
    .unit (a := 13) (b := 8) (c := 3) (d := 13) (by decide +kernel) (by decide +kernel)
      (by decide +kernel) (by decide +kernel)
  have hlow : StringLiteral.IsEscape ['u', 'd', 'e', '0', '0'] (.unit 0xDE00) :=
    .unit (a := 13) (b := 14) (c := 0) (d := 0) (by decide +kernel) (by decide +kernel)
      (by decide +kernel) (by decide +kernel)
  have hbody : IsBody '\'' _ _ :=
    .escape hhigh nofun <| .escape hlow nofun <| .escape hhigh nofun <|
      .escape (.lineEnd (w := ['\n']) (by decide)) nofun <| .escape hlow nofun .nil
  -- the gap parts the code units into two runs, and each run is decoded by itself
  have hrun : Text.Utf16 [0xD83D, 0xDE00, 0xD83D] ['😀', '\uFFFD'] :=
    .pair (c := '😀') (by decide) (.unpairedHigh (by decide) (by decide) nofun .nil)
  have hlast : Text.Utf16 [0xDE00] ['\uFFFD'] := .unpairedLow (by decide) (by decide) .nil
  have hmeans : Text.Item.Means [.unit 0xD83D, .unit 0xDE00, .unit 0xD83D, .gap, .unit 0xDE00]
      ['😀', '\uFFFD', '\uFFFD'] :=
    .units (by simp) (by simp [Text.Item.isUnit]) hrun <|
      .gap (.units (by simp) (by simp) hlast .nil)
  exact ⟨_, " é".toList, _, by decide +kernel, by decide +kernel, hbody, hmeans⟩

end Token

end FindToSelect
