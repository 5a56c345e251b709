import FindToSelect.Json.Lexeme
import FindToSelect.Proofs.Token.StringBody
import FindToSelect.Proofs.Token.WrittenNumber
import Mathlib.Data.List.Chain

/-!
# How the lexemes of JSON are spelled

The lexical rules of JSON, given on texts and without a reader: `IsLexeme` says which texts spell a
lexeme, from the digits of a number (`IsMagnitude`) to the escapes of a string (`IsStringBody`), and
`Spelled` puts lexemes together, with blanks before and behind any of them.

`lex?` finds the lexemes of a text if and only if the text spells them (`lex?_of_spelled`,
`spelled_of_lex?`). One kind of text is spelled in two ways: `12` is one number, and also two
numbers without a blank between them. So the first direction is for lexemes among which no two
numbers are neighbours (`Apart`). That is where a number ends: before a text that cannot go on it
(`EndsNumber`).

Writing obeys the rules: a string is written as one lexeme that spells it
(`exists_isLexeme_jsonString`).
-/

namespace FindToSelect.Json

open Text (Item)

/-! ### The rules -/

/-- **The marks**, of one character each. -/
def marks : List (Char × Lexeme) :=
  [('{', .openBrace), ('}', .closeBrace), ('[', .openBracket), (']', .closeBracket),
    (':', .colon), (',', .comma)]

/-- **The keywords.** -/
def keywords : List (List Char × Lexeme) :=
  [(['n', 'u', 'l', 'l'], .null), (['t', 'r', 'u', 'e'], .boolean true),
    (['f', 'a', 'l', 's', 'e'], .boolean false)]

/-- The characters that name another one, or themselves, behind a backslash. -/
def shortEscapes : List (Char × Char) :=
  [('"', '"'), ('\\', '\\'), ('/', '/'), ('b', '\x08'), ('f', '\x0c'), ('n', '\n'), ('r', '\r'),
    ('t', '\t')]

/-- **The text of an escape behind its backslash**, and its item. -/
inductive IsEscape : List Char → Item → Prop
  | short {letter c : Char} : (letter, c) ∈ shortEscapes → IsEscape [letter] (.char c)
  | unit {h₁ h₂ h₃ h₄ : Char} {a b c d : Nat} :
      IsHexDigit h₁ a → IsHexDigit h₂ b → IsHexDigit h₃ c → IsHexDigit h₄ d →
        IsEscape ['u', h₁, h₂, h₃, h₄] (.unit (4096 * a + 256 * b + 16 * c + d))

/-- **What stands between the quotes of a string**: escapes, and any other characters but quotes and
control characters. -/
inductive IsStringBody : List Char → List Item → Prop
  | nil : IsStringBody [] []
  | raw {c : Char} {cs : List Char} {items : List Item} : c ≠ '"' → c ≠ '\\' → 0x20 ≤ c.toNat →
      IsStringBody cs items → IsStringBody (c :: cs) (.char c :: items)
  | escape {w cs : List Char} {item : Item} {items : List Item} : IsEscape w item →
      IsStringBody cs items → IsStringBody ('\\' :: (w ++ cs)) (item :: items)

/-- **A fraction or none.** -/
def IsFraction (cs : List Char) : Prop :=
  cs = [] ∨ ∃ ds, IsDigits ds ∧ cs = '.' :: ds

/-- **An exponent or none.** -/
def IsExponent (cs : List Char) : Prop :=
  cs = [] ∨ ∃ mark sign ds, (mark = 'e' ∨ mark = 'E') ∧ (sign = [] ∨ sign = ['+'] ∨ sign = ['-']) ∧
    IsDigits ds ∧ cs = mark :: (sign ++ ds)

/-- **A number without its sign.** -/
inductive IsMagnitude : List Char → Prop
  | intro {whole fraction exponent : List Char} : IsWholePart whole → IsFraction fraction →
      IsExponent exponent → IsMagnitude (whole ++ (fraction ++ exponent))

/-- **The text of a lexeme.** -/
inductive IsLexeme : List Char → Lexeme → Prop
  | mark {c : Char} {l : Lexeme} : (c, l) ∈ marks → IsLexeme [c] l
  | keyword {word : List Char} {l : Lexeme} : (word, l) ∈ keywords → IsLexeme word l
  | number {sign cs : List Char} : IsSign sign → IsMagnitude cs → IsLexeme (sign ++ cs) .number
  | string {inner : List Char} {items : List Item} : IsStringBody inner items →
      IsLexeme ('"' :: (inner ++ ['"'])) (.string items)

/-- The characters that are blanks. -/
def spaces : List Char :=
  [' ', '\n', '\t', '\r']

/-- **Lexemes with blanks between them.** There may be none, and some before the first and behind
the last. -/
inductive Spelled : List Char → List Lexeme → Prop
  | blanks {w : List Char} : (∀ c ∈ w, c ∈ spaces) → Spelled w []
  | cons {w cs rest : List Char} {l : Lexeme} {ls : List Lexeme} : (∀ c ∈ w, c ∈ spaces) →
      IsLexeme cs l → Spelled rest ls → Spelled (w ++ (cs ++ rest)) (l :: ls)

/-! ### Numbers -/

/-- **A text that cannot go on a number.** -/
def EndsNumber (ys : List Char) : Prop :=
  ∀ c ∈ ys.head?, c.isDigit = false ∧ c ≠ '.' ∧ c ≠ 'e' ∧ c ≠ 'E'

/-- A whole part is measured up to the first character that is no digit. -/
theorem wholeLength?_append {ds ys : List Char} (h : IsWholePart ds)
    (hy : ∀ c ∈ ys.head?, c.isDigit = false) : wholeLength? (ds ++ ys) = some ds.length := by
  obtain ⟨⟨hne, hdigits⟩, hzero⟩ := h
  obtain ⟨c, more, rfl⟩ := List.exists_cons_of_ne_nil hne
  -- behind a zero no digit is taken, so a zero is measured by itself
  by_cases hc : c = '0'
  · subst hc
    rw [hzero rfl]
    rfl
  · have hdigit : c.isDigit = true := hdigits c List.mem_cons_self
    have hall : Numeral.digits (c :: (more ++ ys)) = c :: more :=
      Numeral.digits_append_of_head hdigits hy
    simp [wholeLength?, hc, hdigit, hall]

/-- A fraction, or none, is measured before a text that does not go on it. -/
theorem fractionLength?_append {fs ys : List Char} (h : IsFraction fs)
    (hy : ∀ c ∈ ys.head?, c.isDigit = false ∧ c ≠ '.') :
    fractionLength? (fs ++ ys) = some fs.length := by
  rcases h with rfl | ⟨ds, ⟨hne, hdigits⟩, rfl⟩
  -- no fraction: what follows does not start with a point
  · cases ys with
    | nil => rfl
    | cons c ys =>
      have hpoint : c ≠ '.' := (hy c rfl).2
      simp [fractionLength?, Numeral.fraction?, hpoint]
  · have hall : Numeral.digits (ds ++ ys) = ds :=
      Numeral.digits_append_of_head hdigits fun c hc => (hy c hc).1
    simp [fractionLength?, Numeral.fraction?, hall, hne]

/-- **The length of an exponent** is that of its mark, its sign and the digits behind. -/
theorem exponentLength?_mark {mark : Char} (hmark : mark = 'e' ∨ mark = 'E')
    {sign rest : List Char} (hsign : sign = ['+'] ∨ sign = ['-'] ∨
      sign = [] ∧ rest.head? ≠ some '+' ∧ rest.head? ≠ some '-') :
    exponentLength? (mark :: (sign ++ rest)) =
      if (Numeral.digits rest).length = 0 then none
      else some (mark :: (sign ++ Numeral.digits rest)).length := by
  -- digits are asked for behind the sign, whichever sign there is
  by_cases hnone : Numeral.digits rest = []
  · rcases hsign with rfl | rfl | ⟨rfl, hplus, hminus⟩ <;>
      simp [exponentLength?, Numeral.exponentOf, *]
  · rcases hsign with rfl | rfl | ⟨rfl, hplus, hminus⟩ <;>
      simp [exponentLength?, Numeral.exponentOf, *]

/-- Every text has a sign before it or none. -/
theorem exists_sign (cs : List Char) :
    ∃ sign rest, cs = sign ++ rest ∧ (sign = ['+'] ∨ sign = ['-'] ∨
      sign = [] ∧ rest.head? ≠ some '+' ∧ rest.head? ≠ some '-') := by
  cases cs with
  | nil => exact ⟨[], [], rfl, by simp⟩
  | cons c cs =>
    by_cases hplus : c = '+'
    · exact ⟨['+'], cs, by rw [hplus]; rfl, by simp⟩
    by_cases hminus : c = '-'
    · exact ⟨['-'], cs, by rw [hminus]; rfl, by simp⟩
    · exact ⟨[], c :: cs, rfl, by simp [hplus, hminus]⟩

/-- An exponent, or none, is measured before a text that does not go on it. -/
theorem exponentLength?_append {es ys : List Char} (h : IsExponent es)
    (hy : ∀ c ∈ ys.head?, c.isDigit = false ∧ c ≠ 'e' ∧ c ≠ 'E') :
    exponentLength? (es ++ ys) = some es.length := by
  rcases h with rfl | ⟨mark, sign, ds, hmark, hsign, ⟨hne, hdigits⟩, rfl⟩
  -- no exponent: what follows does not start with its mark
  · cases ys with
    | nil => rfl
    | cons c ys =>
      have hmark := (hy c rfl).2
      simp [exponentLength?, Numeral.exponentOf, hmark]
  · have hall : Numeral.digits (ds ++ ys) = ds :=
      Numeral.digits_append_of_head hdigits fun c hc => (hy c hc).1
    -- digits do not start with a sign
    have hhead : (ds ++ ys).head? ≠ some '+' ∧ (ds ++ ys).head? ≠ some '-' := by
      obtain ⟨d, more, rfl⟩ := List.exists_cons_of_ne_nil hne
      have hd : d.isDigit = true := hdigits d List.mem_cons_self
      constructor <;> rintro ⟨⟩ <;> exact absurd hd (by decide)
    rw [List.cons_append, List.append_assoc, exponentLength?_mark hmark, hall,
      if_neg (by simpa using hne)]
    rcases hsign with rfl | rfl | rfl
    · exact .inr (.inr ⟨rfl, hhead⟩)
    · exact .inl rfl
    · exact .inr (.inl rfl)

/-- The length of a number is that of its parts. -/
theorem numberLength?_eq_some_iff {cs : List Char} {n : Nat} :
    numberLength? cs = some n ↔ ∃ whole fraction exponent, wholeLength? cs = some whole ∧
      fractionLength? (cs.drop whole) = some fraction ∧
        exponentLength? (cs.drop (whole + fraction)) = some exponent ∧
          whole + fraction + exponent = n := by
  simp [numberLength?, Option.bind_eq_some_iff]

/-- **A number is measured** before a text that cannot go on it. -/
theorem numberLength?_append {cs ys : List Char} (h : IsMagnitude cs) (hy : EndsNumber ys) :
    numberLength? (cs ++ ys) = some cs.length := by
  cases h with
  | @intro whole fraction exponent hwhole hfraction hexponent =>
    -- behind the fraction stands an exponent mark or what follows the number
    have hrest : ∀ c ∈ (exponent ++ ys).head?, c.isDigit = false ∧ c ≠ '.' := by
      rcases hexponent with rfl | ⟨mark, sign, ds, rfl | rfl, -, -, rfl⟩
      · exact fun c hc => ⟨(hy c hc).1, (hy c hc).2.1⟩
      · rintro c ⟨⟩
        decide
      · rintro c ⟨⟩
        decide
    have hpoint : ∀ c ∈ (fraction ++ (exponent ++ ys)).head?, c.isDigit = false := by
      rcases hfraction with rfl | ⟨ds, -, rfl⟩
      · exact fun c hc => (hrest c hc).1
      · rintro c ⟨⟩
        decide
    have hend : ∀ c ∈ ys.head?, c.isDigit = false ∧ c ≠ 'e' ∧ c ≠ 'E' :=
      fun c hc => ⟨(hy c hc).1, (hy c hc).2.2⟩
    rw [List.append_assoc, List.append_assoc]
    -- each part is measured before the parts behind it
    refine numberLength?_eq_some_iff.2 ⟨whole.length, fraction.length, exponent.length,
      wholeLength?_append hwhole hpoint, ?_, ?_, ?_⟩
    · rw [List.drop_left, fractionLength?_append hfraction hrest]
    · rw [← List.length_append, ← List.append_assoc, List.drop_left,
        exponentLength?_append hexponent hend]
    · rw [List.length_append, List.length_append, Nat.add_assoc]

/-- What is measured as a whole part is one. -/
theorem isWholePart_of_wholeLength? {cs : List Char} {n : Nat} (h : wholeLength? cs = some n) :
    IsWholePart (cs.take n) := by
  cases cs with
  | nil => cases h
  | cons c cs =>
    simp only [wholeLength?, List.head?_cons] at h
    split at h
    · next hc =>
      cases h
      subst hc
      exact ⟨⟨by simp, by simp⟩, fun _ => rfl⟩
    split at h
    · next hzero hdigit =>
      cases h
      -- what is taken are all digits at the front, and the first is not a zero
      have htake : (c :: cs).take (Numeral.digits (c :: cs)).length = Numeral.digits (c :: cs) :=
        (List.prefix_iff_eq_take.1 (List.takeWhile_prefix _)).symm
      rw [htake, Numeral.digits, List.takeWhile_cons, hdigit]
      refine ⟨⟨by simp, ?_⟩, fun hhead => absurd (Option.some.inj hhead) hzero⟩
      intro d hd
      rcases List.mem_cons.1 hd with rfl | hd
      · exact hdigit
      · exact List.mem_takeWhile_imp hd
    · cases h

theorem isDigits_digits {cs : List Char} (h : (Numeral.digits cs).length ≠ 0) :
    IsDigits (cs.take (Numeral.digits cs).length) := by
  rw [Numeral.digits, ← List.prefix_iff_eq_take.1 (List.takeWhile_prefix _)]
  refine ⟨fun hnil => h ?_, fun c hc => List.mem_takeWhile_imp hc⟩
  rw [Numeral.digits, hnil, List.length_nil]

/-- What is measured as a fraction is one, or is empty. -/
theorem isFraction_of_fractionLength? {cs : List Char} {n : Nat}
    (h : fractionLength? cs = some n) : IsFraction (cs.take n) := by
  cases cs with
  | nil => exact .inl List.take_nil
  | cons c cs =>
    simp only [fractionLength?, Numeral.fraction?] at h
    by_cases hc : c = '.'
    · subst hc
      simp only [if_true] at h
      split at h
      · cases h
      · next hne =>
        cases h
        exact .inr ⟨_, isDigits_digits hne, rfl⟩
    · simp only [if_neg hc, Option.some.injEq] at h
      subst h
      exact .inl rfl

/-- What is measured as an exponent is one, or is empty. -/
theorem isExponent_of_exponentLength? {cs : List Char} {n : Nat}
    (h : exponentLength? cs = some n) : IsExponent (cs.take n) := by
  cases cs with
  | nil => exact .inl List.take_nil
  | cons c cs =>
    by_cases hc : c = 'e' ∨ c = 'E'
    -- the sign is parted from the digits before measuring
    · obtain ⟨sign, rest, rfl, hsign⟩ := exists_sign cs
      rw [exponentLength?_mark hc hsign] at h
      split at h
      · cases h
      · next hne =>
        cases h
        refine .inr ⟨c, sign, _, hc, ?_, isDigits_digits hne, ?_⟩
        · rcases hsign with rfl | rfl | ⟨rfl, -⟩ <;> simp
        · rw [List.length_cons, List.take_succ_cons, List.length_append,
            List.take_length_add_append]
    · simp only [exponentLength?, Numeral.exponentOf, if_neg hc, Option.some.injEq] at h
      subst h
      exact .inl rfl

/-- **What is measured is a number.** -/
theorem isMagnitude_of_numberLength? {cs : List Char} {n : Nat} (h : numberLength? cs = some n) :
    IsMagnitude (cs.take n) := by
  obtain ⟨whole, fraction, exponent, hwhole, hfraction, hexponent, rfl⟩ :=
    numberLength?_eq_some_iff.1 h
  have htake : cs.take (whole + fraction + exponent) =
      cs.take whole ++ ((cs.drop whole).take fraction ++
        (cs.drop (whole + fraction)).take exponent) := by
    rw [List.take_add, List.take_add, List.append_assoc]
  rw [htake]
  exact .intro (isWholePart_of_wholeLength? hwhole) (isFraction_of_fractionLength? hfraction)
    (isExponent_of_exponentLength? hexponent)

/-! ### Strings -/

/-- **An escape is taken as its item.** -/
theorem escape?_append {w : List Char} {item : Item} (h : IsEscape w item) (ys : List Char) :
    escape? (w ++ ys) = some (item, w.length) := by
  cases h with
  | @short letter c hmem =>
    simp only [shortEscapes, List.mem_cons, Prod.mk.injEq, List.not_mem_nil, or_false] at hmem
    rcases hmem with ⟨rfl, rfl⟩ | ⟨rfl, rfl⟩ | ⟨rfl, rfl⟩ | ⟨rfl, rfl⟩ | ⟨rfl, rfl⟩ | ⟨rfl, rfl⟩ |
      ⟨rfl, rfl⟩ | ⟨rfl, rfl⟩ <;> rfl
  | unit ha hb hc hd =>
    have hhex := StringLiteral.hex?_of_four_digits ha hb hc hd ys
    simp [escape?, hhex]

/-- **What is taken behind a backslash is an escape.** -/
theorem isEscape_of_escape? {cs : List Char} {item : Item} {n : Nat}
    (h : escape? cs = some (item, n)) : IsEscape (cs.take n) item := by
  cases cs with
  | nil => cases h
  | cons c cs =>
    by_cases hshort : c ∈ shortEscapes.map Prod.fst
    · obtain ⟨⟨letter, d⟩, hmem, rfl⟩ := List.mem_map.1 hshort
      -- a letter of the table is read as the table says, so the item is that of the rule
      have hread := escape?_append (.short hmem) cs
      rw [List.singleton_append, h] at hread
      cases hread
      exact .short hmem
    · simp only [shortEscapes, List.map_cons, List.map_nil, List.mem_cons, List.not_mem_nil,
        or_false, not_or] at hshort
      obtain ⟨h1, h2, h3, h4, h5, h6, h7, h8⟩ := hshort
      -- of the other letters only `u` opens an escape
      simp only [escape?, h1, h2, h3, h4, h5, h6, h7, h8, or_self, if_false] at h
      split at h
      · next hc =>
        subst hc
        obtain ⟨u, hu, heq⟩ := Option.map_eq_some_iff.1 h
        cases heq
        obtain ⟨h₁, h₂, h₃, h₄, rest, a, b, c, d, rfl, ha, hb, hc, hd, rfl⟩ :=
          StringLiteral.exists_four_digits hu
        exact .unit ha hb hc hd
      · cases h

/-- **What stands between two quotes is read** as the items that it spells. -/
theorem stringBody?_append {inner : List Char} {items : List Item} (h : IsStringBody inner items)
    (ys : List Char) : stringBody? (inner ++ '"' :: ys) = some (items, inner.length + 1) := by
  induction h with
  | nil =>
    rw [List.nil_append, stringBody?, if_pos rfl]
    rfl
  | raw hquote hslash hcontrol _ ih =>
    rw [List.cons_append, stringBody?, if_neg hquote, if_neg hslash, if_neg (by omega), ih]
    rfl
  | @escape w cs item items hescape _ ih =>
    have hread := escape?_append hescape (cs ++ '"' :: ys)
    rw [List.cons_append, List.append_assoc, stringBody?, if_neg (by decide), if_pos rfl, hread]
    simp only [List.drop_left, ih, Option.map_some, List.length_cons, List.length_append]
    congr 2
    omega

/-- **What is read up to a quote** spells the items. -/
theorem isStringBody_of_stringBody? {cs : List Char} {items : List Item} {n : Nat}
    (h : stringBody? cs = some (items, n)) :
    ∃ inner, cs.take n = inner ++ ['"'] ∧ IsStringBody inner items := by
  -- along the recursion of the reader, which goes on behind an escape and behind a raw character
  fun_induction stringBody? cs generalizing items n with
  | case1 => cases h
  | case2 cs =>
    cases h
    exact ⟨[], rfl, .nil⟩
  | case3 => cases h
  | case4 cs item n' hescape _ ih =>
    obtain ⟨⟨items', k⟩, hrest, heq⟩ := Option.map_eq_some_iff.1 h
    cases heq
    obtain ⟨inner, htake, hbody⟩ := ih hrest
    refine ⟨'\\' :: (cs.take n' ++ inner), ?_, .escape (isEscape_of_escape? hescape) hbody⟩
    rw [List.take_succ_cons, Nat.add_comm k n', List.take_add, htake]
    simp
  | case5 => cases h
  | case6 c cs hq hb hcontrol ih =>
    obtain ⟨⟨items', k⟩, hrest, heq⟩ := Option.map_eq_some_iff.1 h
    cases heq
    obtain ⟨inner, htake, hbody⟩ := ih hrest
    exact ⟨c :: inner, by rw [List.take_succ_cons, htake]; rfl, .raw hq hb (by omega) hbody⟩

/-! ### Lexemes -/

/-- The characters that start a lexeme other than a number. -/
def starts : List Char :=
  ['{', '}', '[', ']', ':', ',', 'n', 't', 'f', '"']

/-- A number without its sign starts with a digit. -/
theorem IsMagnitude.exists_cons {cs : List Char} (h : IsMagnitude cs) :
    ∃ c more, cs = c :: more ∧ c.isDigit = true := by
  cases h with
  | @intro whole fraction exponent hwhole _ _ =>
    obtain ⟨c, more, rfl⟩ := List.exists_cons_of_ne_nil hwhole.1.1
    exact ⟨c, _, rfl, hwhole.1.2 c List.mem_cons_self⟩

/-- A digit or a minus sign starts nothing but a number. -/
theorem notMem_starts {c : Char} (h : c = '-' ∨ c.isDigit = true) : c ∉ starts := by
  intro hmem
  have hall : ∀ d ∈ starts, d ≠ '-' ∧ d.isDigit = false := by simp [starts]
  rcases h with rfl | h
  · exact (hall _ hmem).1 rfl
  · rw [(hall _ hmem).2] at h
    cases h

/-- A character that starts nothing else is taken for the start of a number. -/
theorem scan?_of_notMem {c : Char} (h : c ∉ starts) (cs : List Char) :
    scan? c cs = if c = '-' then (numberLength? cs).map fun n => (.number, n)
      else (numberLength? (c :: cs)).map fun n => (.number, n - 1) := by
  simp only [starts, List.mem_cons, List.not_mem_nil, or_false, not_or] at h
  simp [scan?, h]

/-- **A lexeme is found**, and a number before a text that cannot go on it. -/
theorem scan?_of_isLexeme {cs : List Char} {l : Lexeme} (h : IsLexeme cs l) {ys : List Char}
    (hy : l = .number → EndsNumber ys) :
    ∃ c more, cs = c :: more ∧ isBlank c = false ∧
      scan? c (more ++ ys) = some (l, more.length) := by
  cases h with
  | @mark c l hmem =>
    simp only [marks, List.mem_cons, Prod.mk.injEq, List.not_mem_nil, or_false] at hmem
    rcases hmem with ⟨rfl, rfl⟩ | ⟨rfl, rfl⟩ | ⟨rfl, rfl⟩ | ⟨rfl, rfl⟩ | ⟨rfl, rfl⟩ | ⟨rfl, rfl⟩ <;>
      exact ⟨_, [], rfl, by decide, rfl⟩
  | @keyword word l hmem =>
    simp only [keywords, List.mem_cons, Prod.mk.injEq, List.not_mem_nil, or_false] at hmem
    rcases hmem with ⟨rfl, rfl⟩ | ⟨rfl, rfl⟩ | ⟨rfl, rfl⟩
    · exact ⟨'n', ['u', 'l', 'l'], rfl, by decide, rfl⟩
    · exact ⟨'t', ['r', 'u', 'e'], rfl, by decide, rfl⟩
    · exact ⟨'f', ['a', 'l', 's', 'e'], rfl, by decide, rfl⟩
  | @number sign cs hsign hcs =>
    -- a minus sign is taken by itself, and the number is measured behind it
    have hlength := numberLength?_append hcs (hy rfl)
    rcases hsign with rfl | rfl
    · obtain ⟨c, more, rfl, hc⟩ := hcs.exists_cons
      -- a digit is none of the blanks, nor the sign
      have hne : ∀ d : Char, d.isDigit = false → c ≠ d := by
        rintro d hd rfl
        rw [hc] at hd
        cases hd
      refine ⟨c, more, rfl, ?_, ?_⟩
      · simp [isBlank, hne ' ' (by decide), hne '\n' (by decide), hne '\t' (by decide),
          hne '\r' (by decide)]
      · rw [scan?_of_notMem (notMem_starts (.inr hc)), if_neg (hne '-' (by decide)),
          ← List.cons_append, hlength]
        rfl
    · refine ⟨'-', cs, rfl, by decide, ?_⟩
      rw [scan?_of_notMem (by decide), if_pos rfl, hlength]
      rfl
  | @string inner items hinner =>
    refine ⟨'"', inner ++ ['"'], rfl, by decide, ?_⟩
    have hread := stringBody?_append hinner ys
    simp [scan?, hread]

/-- A keyword that is found stands in the table. -/
theorem isLexeme_of_keyword? {c : Char} (word : List Char) {cs : List Char} {l l' : Lexeme}
    {n : Nat} (hmem : (c :: word, l) ∈ keywords) (h : keyword? l word cs = some (l', n)) :
    IsLexeme (c :: cs.take n) l' := by
  unfold keyword? at h
  split at h
  · next htake =>
    cases h
    rw [htake]
    exact .keyword hmem
  · cases h

/-- **What is found is a lexeme.** -/
theorem isLexeme_of_scan? {c : Char} {cs : List Char} {l : Lexeme} {n : Nat}
    (h : scan? c cs = some (l, n)) : IsLexeme (c :: cs.take n) l := by
  -- by the first character: the six marks, the three keywords, the quote, and else a number
  by_cases hstart : c ∈ starts
  · simp only [starts, List.mem_cons, List.not_mem_nil, or_false] at hstart
    rcases hstart with rfl | rfl | rfl | rfl | rfl | rfl | rfl | rfl | rfl | rfl
    iterate 6
      · cases h
        exact .mark (by decide)
    · exact isLexeme_of_keyword? ['u', 'l', 'l'] (by decide) h
    · exact isLexeme_of_keyword? ['r', 'u', 'e'] (by decide) h
    · exact isLexeme_of_keyword? ['a', 'l', 's', 'e'] (by decide) h
    · obtain ⟨⟨items, k⟩, hread, heq⟩ := Option.map_eq_some_iff.1 h
      cases heq
      obtain ⟨inner, htake, hinner⟩ := isStringBody_of_stringBody? hread
      rw [htake]
      exact .string hinner
  · rw [scan?_of_notMem hstart] at h
    split at h
    · next hc =>
      subst hc
      obtain ⟨k, hk, heq⟩ := Option.map_eq_some_iff.1 h
      cases heq
      exact .number (Or.inr rfl) (isMagnitude_of_numberLength? hk)
    · obtain ⟨k, hk, heq⟩ := Option.map_eq_some_iff.1 h
      cases heq
      have hnumber := isMagnitude_of_numberLength? hk
      -- a number has a character, so its length counts `c`
      cases k with
      | zero =>
        obtain ⟨d, more, hcons, -⟩ := hnumber.exists_cons
        cases hcons
      | succ k => exact .number (Or.inl rfl) hnumber

/-! ### Texts -/

/-- **No two numbers are neighbours.** -/
def Apart (ls : List Lexeme) : Prop :=
  ls.IsChain fun l m => l ≠ .number ∨ m ≠ .number

theorem mem_spaces_iff {c : Char} : c ∈ spaces ↔ isBlank c = true := by
  simp [spaces, isBlank, or_assoc]

/-- Blanks before a text are skipped. -/
theorem lex?_blanks_append {w : List Char} (hw : ∀ c ∈ w, c ∈ spaces) (cs : List Char) :
    lex? (w ++ cs) = lex? cs := by
  induction w with
  | nil => rfl
  | cons c w ih =>
    rw [List.forall_mem_cons] at hw
    rw [List.cons_append, lex?, if_pos (mem_spaces_iff.1 hw.1), ih hw.2]

theorem lex?_cons {c : Char} {cs : List Char} (hc : isBlank c = false) {l : Lexeme} {n : Nat}
    (h : scan? c cs = some (l, n)) : lex? (c :: cs) = (lex? (cs.drop n)).map (l :: ·) := by
  rw [lex?, hc, if_neg (by decide), h]

theorem endsNumber_of_mem_spaces {c : Char} (hc : c ∈ spaces) (cs : List Char) :
    EndsNumber (c :: cs) := by
  have hall : ∀ d ∈ spaces, d.isDigit = false ∧ d ≠ '.' ∧ d ≠ 'e' ∧ d ≠ 'E' := by simp [spaces]
  rintro d ⟨⟩
  exact hall _ hc

/-- A lexeme that is no number does not go on one. -/
theorem IsLexeme.endsNumber {cs : List Char} {l : Lexeme} (h : IsLexeme cs l) (hl : l ≠ .number)
    (rest : List Char) : EndsNumber (cs ++ rest) := by
  cases h with
  | @mark c l hmem =>
    have hall : ∀ p ∈ marks, p.1.isDigit = false ∧ p.1 ≠ '.' ∧ p.1 ≠ 'e' ∧ p.1 ≠ 'E' := by decide
    rintro d ⟨⟩
    exact hall _ hmem
  | @keyword word l hmem =>
    simp only [keywords, List.mem_cons, Prod.mk.injEq, List.not_mem_nil, or_false] at hmem
    rcases hmem with ⟨rfl, rfl⟩ | ⟨rfl, rfl⟩ | ⟨rfl, rfl⟩ <;> rintro d ⟨⟩ <;> decide
  | number _ _ => exact absurd rfl hl
  | string _ =>
    rintro d ⟨⟩
    decide

/-- A text whose first lexeme is no number does not go on one. -/
theorem Spelled.endsNumber {cs : List Char} {ls : List Lexeme} (h : Spelled cs ls)
    (hl : ls.head? ≠ some .number) : EndsNumber cs := by
  cases h with
  -- the text starts with a blank, or with its first lexeme
  | @blanks _ hw =>
    cases cs with
    | nil => simp [EndsNumber]
    | cons c cs => exact endsNumber_of_mem_spaces (hw c List.mem_cons_self) cs
  | @cons w x rest l ls hw hx _ =>
    cases w with
    | nil => exact hx.endsNumber (fun h => hl (congrArg some h)) rest
    | cons c w => exact endsNumber_of_mem_spaces (hw c List.mem_cons_self) _

/-- **A text is read as the lexemes that it spells**, if no two of them are numbers side by side. -/
theorem lex?_of_spelled {cs : List Char} {ls : List Lexeme} (h : Spelled cs ls) (ha : Apart ls) :
    lex? cs = some ls := by
  induction h with
  | @blanks w hw => rw [← List.append_nil w, lex?_blanks_append hw, lex?]
  | @cons w x rest l ls hw hx hrest ih =>
    obtain ⟨hnext, ha⟩ := List.isChain_cons.1 ha
    -- behind a number stands no number, so the rest does not go on it
    have hends : l = .number → EndsNumber rest := by
      rintro rfl
      refine hrest.endsNumber fun hhead => ?_
      exact (hnext _ hhead).elim (fun h => h rfl) fun h => h rfl
    obtain ⟨c, more, rfl, hc, hscan⟩ := scan?_of_isLexeme hx hends
    rw [lex?_blanks_append hw, List.cons_append, lex?_cons hc hscan, List.drop_left, ih ha]
    rfl

/-- A blank more at the start changes nothing. -/
theorem Spelled.blank_cons {c : Char} (hc : c ∈ spaces) {cs : List Char} {ls : List Lexeme}
    (h : Spelled cs ls) : Spelled (c :: cs) ls := by
  cases h with
  | blanks hw => exact .blanks (List.forall_mem_cons.2 ⟨hc, hw⟩)
  | cons hw hx hrest => exact .cons (List.forall_mem_cons.2 ⟨hc, hw⟩) hx hrest

/-- **A text spells the lexemes that it is read as.** -/
theorem spelled_of_lex? {cs : List Char} {ls : List Lexeme} (h : lex? cs = some ls) :
    Spelled cs ls := by
  -- along the recursion of the reader: a blank is skipped, or a lexeme is found
  fun_induction lex? cs generalizing ls with
  | case1 =>
    cases h
    exact .blanks (by simp)
  | case2 c cs hc ih => exact (ih h).blank_cons (mem_spaces_iff.2 hc)
  | case3 => cases h
  | case4 c cs hc l n hscan ih =>
    obtain ⟨ms, hms, rfl⟩ := Option.map_eq_some_iff.1 h
    have hcons := Spelled.cons (w := []) (by simp) (isLexeme_of_scan? hscan) (ih hms)
    rwa [List.nil_append, List.cons_append, List.take_append_drop] at hcons

/-! ### Writing -/

theorem Spelled.lexeme_append {cs rest : List Char} {l : Lexeme} {ls : List Lexeme}
    (hcs : IsLexeme cs l) (h : Spelled rest ls) : Spelled (cs ++ rest) (l :: ls) :=
  .cons (w := []) (by simp) hcs h

theorem Spelled.mark_cons {c : Char} {rest : List Char} {l : Lexeme} {ls : List Lexeme}
    (hmem : (c, l) ∈ marks) (h : Spelled rest ls) : Spelled (c :: rest) (l :: ls) :=
  .lexeme_append (.mark hmem) h

/-- **A character is written as one item of a string**, which spells it. -/
theorem exists_isStringBody_jsonChar (c : Char) :
    ∃ item, (∀ {items ds}, Item.Spells items ds → Item.Spells (item :: items) (c :: ds)) ∧
      ∀ {cs items}, IsStringBody cs items → IsStringBody (jsonChar c ++ cs) (item :: items) := by
  -- an escape of one letter spells its character
  have hshort : ∀ letter, (letter, c) ∈ shortEscapes → ∀ {cs items}, IsStringBody cs items →
      IsStringBody (['\\', letter] ++ cs) (.char c :: items) :=
    fun letter hmem {_ _} h => .escape (.short hmem) h
  unfold jsonChar
  split
  · next h =>
    refine ⟨.char c, .char, hshort c ?_⟩
    rcases h with rfl | rfl <;> decide
  split
  · next h => subst h; exact ⟨.char _, .char, hshort 'b' (by decide)⟩
  split
  · next h => subst h; exact ⟨.char _, .char, hshort 'f' (by decide)⟩
  split
  · next h => subst h; exact ⟨.char _, .char, hshort 'n' (by decide)⟩
  split
  · next h => subst h; exact ⟨.char _, .char, hshort 'r' (by decide)⟩
  split
  · next h => subst h; exact ⟨.char _, .char, hshort 't' (by decide)⟩
  split
  · next h =>
    -- the other control characters have an escape of four digits
    refine ⟨.unit c.toNat, .unit (by omega), fun {_ _} hbody => ?_⟩
    have hescape : escape?
        ['u', '0', '0', Nat.digitChar (c.toNat / 16), Nat.digitChar (c.toNat % 16)] =
          some (.unit c.toNat, 5) := by
      simp [escape?, Text.hex?_control h]
    exact .escape (isEscape_of_escape? hescape) hbody
  · next hq _ _ _ _ _ hcontrol =>
    rw [not_or] at hq
    exact ⟨.char c, .char, .raw hq.1 hq.2 (by omega)⟩

/-- **A written string is one lexeme**, whose items spell the string. -/
theorem exists_isLexeme_jsonString (s : String) :
    ∃ items, Item.Spells items s.toList ∧ IsLexeme (jsonString s) (.string items) := by
  have hbody : ∀ cs : List Char,
      ∃ items, Item.Spells items cs ∧ IsStringBody (cs.flatMap jsonChar) items := by
    intro cs
    induction cs with
    | nil => exact ⟨[], .nil, .nil⟩
    | cons c cs ih =>
      obtain ⟨items, hspells, hitems⟩ := ih
      obtain ⟨item, hitem, hchar⟩ := exists_isStringBody_jsonChar c
      exact ⟨item :: items, hitem hspells, hchar hitems⟩
  obtain ⟨items, hspells, hitems⟩ := hbody s.toList
  exact ⟨items, hspells, .string hitems⟩

end FindToSelect.Json
