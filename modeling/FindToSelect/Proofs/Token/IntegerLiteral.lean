import FindToSelect.Proofs.Arguments.Image
import FindToSelect.Proofs.Number.Positional
import FindToSelect.Proofs.Token.WrittenNumber

/-!
# Integer literals are exact

An integer is written in decimal or hexadecimal digits, with a sign or without. The literals and
what they mean are given by `IsIntegerLiteral`, on texts alone: any number of digits, zeros at the
start included, of either case.

Every such text is one token. If its integer has 64 bits, the token is that integer, the text is
read as that argument, and the argument is written in a statement as the canonical decimal
(`Token.lex_integer_literal`). There is one exception. A decimal numeral is checked with its sign,
and a hexadecimal one without, where only 63 bits are left; so the least integer of 64 bits has
decimal literals and no hexadecimal one (`Token.lex_least_hexadecimal`). `Numeral.scan_literal` is
where the two ways come together: in both, what is read is what the digits denote.
-/

namespace FindToSelect

/-- **The marks of the two bases**, which stand before the digits. -/
def baseMarks : List (List Char × Nat) :=
  [([], 10), (['0', 'x'], 16), (['0', 'X'], 16)]

/-- **The text of an integer literal, and the integer that it means**: a sign or none, the mark of
its base, and digits of that base. -/
inductive IsIntegerLiteral (base : Nat) : List Char → Int → Prop
  | intro {sign mark ds : List Char} {negative : Bool} :
      (sign, negative) ∈ signTexts → (mark, base) ∈ baseMarks → ds ≠ [] →
      (∀ c ∈ ds, digitValue c < base) →
        IsIntegerLiteral base (sign ++ (mark ++ ds)) (signed negative (positional base ds))

/-- **The token of an integer literal** for an integer of 64 bits. -/
def literalKind (base : Nat) (n : Int) : TokenKind :=
  if base = 16 ∧ n = -2 ^ 63 then .illegal else .integer n

namespace Numeral

variable {ds : List Char} {negative : Bool}

/-- The integer of a decimal literal, which is checked with its sign. -/
theorem scan_decimal (hne : ds ≠ []) (hds : ∀ c ∈ ds, digitValue c < 10)
    (hfits : fitsWord (signed negative (positional 10 ds)) = true) :
    scan negative ds = ⟨.integer (signed negative (positional 10 ds)), ds.length⟩ := by
  -- a numeral with neither fraction nor exponent
  have hdigits : HasDigits ⟨ds, none, none⟩ :=
    ⟨⟨hne, fun c hc => isDigit_iff_digitValue.2 (hds c hc)⟩, by simp⟩
  have hscan := scan_text hdigits negative
  have htext : text ⟨ds, none, none⟩ = ds := List.append_nil _
  -- it is an integer and no double, since that integer fits in a word
  have hkind : kind negative ⟨ds, none, none⟩ = .integer (signed negative (positional 10 ds)) := by
    simp [kind, value_eq_positional hds, hfits]
  rwa [htext, hkind] at hscan

/-- The integer of a hexadecimal literal, which must have 63 bits without its sign: with the sign it
has 64 bits and is not the least of them. -/
theorem scan_hexadecimal {mark : Char} (hmark : isHexMarked ('0' :: mark :: ds) = true)
    (hne : ds ≠ []) (hds : ∀ c ∈ ds, digitValue c < 16)
    (hfits : fitsWord (signed negative (positional 16 ds)) = true) :
    scan negative ('0' :: mark :: ds) =
      ⟨literalKind 16 (signed negative (positional 16 ds)), ds.length + 2⟩ := by
  have htake : ds.takeWhile Text.isHexDigit = ds :=
    List.takeWhile_eq_self_iff.2 fun c hc => Text.isHexDigit_iff_digitValue.2 (hds c hc)
  have hlen : ds.length ≠ 0 := fun h => hne (List.length_eq_zero_iff.1 h)
  -- of the integers with 64 bits, only the least has a magnitude of more than 63
  have hbits : positional 16 ds < 0x8000000000000000 ↔
      ¬ signed negative (positional 16 ds) = -2 ^ 63 := by
    rw [fitsWord_iff] at hfits
    cases negative with
    | true =>
      simp only [signed, if_true] at hfits ⊢
      omega
    | false =>
      simp only [signed, Bool.false_eq_true, if_false] at hfits ⊢
      omega
  have hscan : scanHex negative ds =
      ⟨literalKind 16 (signed negative (positional 16 ds)), ds.length⟩ := by
    rw [literalKind]
    simp only [scanHex, htake, hlen, if_false, Text.hexValue_eq_positional hds, true_and]
    by_cases hlt : positional 16 ds < 0x8000000000000000
    · rw [if_pos hlt, if_neg (hbits.1 hlt)]
    · rw [if_neg hlt, if_pos (not_not.1 fun h => hlt (hbits.2 h))]
  -- the two characters of the mark are taken besides the digits
  rw [scan, if_pos hmark]
  show (⟨(scanHex negative ds).kind, (scanHex negative ds).taken + 2⟩ : Scanned) = _
  rw [hscan]

/-- **A literal is read to its end**, as what its digits denote. -/
theorem scan_literal {base : Nat} {mark : List Char} (hmark : (mark, base) ∈ baseMarks)
    (hne : ds ≠ []) (hds : ∀ c ∈ ds, digitValue c < base)
    (hfits : fitsWord (signed negative (positional base ds)) = true) :
    scan negative (mark ++ ds) =
      ⟨literalKind base (signed negative (positional base ds)), (mark ++ ds).length⟩ := by
  simp only [baseMarks, List.mem_cons, Prod.mk.injEq, List.not_mem_nil, or_false] at hmark
  -- decimal digits have no mark, and hexadecimal ones have either of two
  rcases hmark with ⟨rfl, rfl⟩ | ⟨rfl, rfl⟩ | ⟨rfl, rfl⟩
  · rw [List.nil_append, scan_decimal hne hds hfits]
    rfl
  · exact scan_hexadecimal rfl hne hds hfits
  · exact scan_hexadecimal rfl hne hds hfits

end Numeral

namespace Token

/-- **A literal is one token.** -/
theorem whole_integerLiteral {base : Nat} {cs : List Char} {n : Int}
    (h : IsIntegerLiteral base cs n) (hfits : fitsWord n = true) :
    Whole (literalKind base n) cs := by
  cases h with
  | @intro sign mark ds negative hsign hmark hne hds =>
    have hscan := Numeral.scan_literal hmark hne hds hfits
    -- the first character behind the sign is a digit, in either base
    obtain ⟨c, more, hcons, hc⟩ : ∃ c more, mark ++ ds = c :: more ∧ c.isDigit = true := by
      simp only [baseMarks, List.mem_cons, Prod.mk.injEq, List.not_mem_nil, or_false] at hmark
      rcases hmark with ⟨rfl, rfl⟩ | ⟨rfl, rfl⟩ | ⟨rfl, rfl⟩
      · obtain ⟨c, more, rfl⟩ := List.exists_cons_of_ne_nil hne
        exact ⟨c, more, rfl, isDigit_iff_digitValue.2 (hds c List.mem_cons_self)⟩
      · exact ⟨'0', _, rfl, by decide⟩
      · exact ⟨'0', _, rfl, by decide⟩
    rw [hcons] at hscan ⊢
    exact whole_of_scan hsign hc hscan

/-- A text that is one token is read as that token. -/
theorem Whole.lex_eq {kind : TokenKind} {cs : List Char} (h : Whole kind cs) :
    lex cs = [⟨kind, ⟨0, byteLength cs⟩⟩] := by
  obtain ⟨c, more, rfl, hb, hs, hscan⟩ := h
  have hscan' : scan c (more ++ []) = ⟨kind, more.length⟩ := by rwa [List.append_nil]
  have hlex := (lexFrom_scan hb hs hscan').2 0
  rwa [List.append_nil, lexFrom_of_drop_eq_nil List.drop_nil, Nat.zero_add] at hlex

/-- **Integer literals are exact.** The text of an integer of 64 bits is one token and one argument,
which is the integer and which a statement shows as its canonical decimal. Only the least integer is
no token in hexadecimal digits. -/
theorem lex_integer_literal {base : Nat} {cs : List Char} {n : Int}
    (h : IsIntegerLiteral base cs n) (hlow : -2 ^ 63 ≤ n) (hhigh : n ≤ 2 ^ 63 - 1) :
    (¬ (base = 16 ∧ n = -2 ^ 63) →
      lex cs = [⟨.integer n, ⟨0, byteLength cs⟩⟩] ∧
        Arguments.parse cs = .ok [.number (.integer n)] ∧
        ∀ c, c ≠ .oneOf → ∃ o, Operand.ofValue? c (.number (.integer n)) = some o ∧
          IsCanonical n o.sql) ∧
      (base = 16 → n = -2 ^ 63 → lex cs = [⟨.illegal, ⟨0, byteLength cs⟩⟩]) := by
  have hfits : fitsWord n = true := fitsWord_iff.2 (by constructor <;> omega)
  have hlex := (whole_integerLiteral h hfits).lex_eq
  constructor
  · intro hn
    rw [literalKind, if_neg hn] at hlex
    refine ⟨hlex, ?_, ?_⟩
    · rw [Arguments.parse, hlex, Arguments.read_cons]
      rfl
    -- every comparison but `$in` takes a number for its operand as it is
    · intro c hc
      refine ⟨.scalar (.number (.integer n)), ?_, isCanonical_integerDigits n⟩
      cases c with
      | oneOf => exact absurd rfl hc
      | equal | notEqual | greater | less | greaterEqual | lessEqual => rfl
  · intro hbase hn
    rw [hlex, literalKind, if_pos ⟨hbase, hn⟩]

/-- The least integer in decimal digits, and the one above it in hexadecimal digits, with zeros at
the start and letters of both cases. -/
theorem lex_integer_literal_bounds :
    IsIntegerLiteral 10 "-0009223372036854775808".toList (-2 ^ 63) ∧
      lex "-0009223372036854775808".toList = [⟨.integer (-2 ^ 63), ⟨0, 23⟩⟩] ∧
      IsIntegerLiteral 16 "-0X007fffFFFFffffFFFF".toList (-2 ^ 63 + 1) ∧
      lex "-0X007fffFFFFffffFFFF".toList = [⟨.integer (-2 ^ 63 + 1), ⟨0, 21⟩⟩] ∧
      Arguments.parse "-0X007fffFFFFffffFFFF".toList =
        .ok [.number (.integer (-2 ^ 63 + 1))] := by
  have hdecimal : IsIntegerLiteral 10 "-0009223372036854775808".toList (-2 ^ 63) :=
    @IsIntegerLiteral.intro 10 ['-'] [] "0009223372036854775808".toList true
      (by decide) (by decide) (by decide) (List.all_iff_forall_prop.1 (by decide))
  have hhexadecimal : IsIntegerLiteral 16 "-0X007fffFFFFffffFFFF".toList (-2 ^ 63 + 1) :=
    @IsIntegerLiteral.intro 16 ['-'] ['0', 'X'] "007fffFFFFffffFFFF".toList true
      (by decide) (by decide) (by decide) (List.all_iff_forall_prop.1 (by decide))
  -- neither literal is the one that is refused: base ten, and not the least integer
  have hfirst := (lex_integer_literal hdecimal (by decide) (by decide)).1 (by decide)
  have hsecond := (lex_integer_literal hhexadecimal (by decide) (by decide)).1 (by decide)
  exact ⟨hdecimal, hfirst.1, hhexadecimal, hsecond.1, hsecond.2.1⟩

/-- **The least integer in hexadecimal digits** is no token. -/
theorem lex_least_hexadecimal :
    IsIntegerLiteral 16 "-0x8000000000000000".toList (-2 ^ 63) ∧
      lex "-0x8000000000000000".toList = [⟨.illegal, ⟨0, 19⟩⟩] ∧
      lex "-0x8000000000000000".toList ≠ [⟨.integer (-2 ^ 63), ⟨0, 19⟩⟩] := by
  have hliteral : IsIntegerLiteral 16 "-0x8000000000000000".toList (-2 ^ 63) :=
    @IsIntegerLiteral.intro 16 ['-'] ['0', 'x'] "8000000000000000".toList true
      (by decide) (by decide) (by decide) (List.all_iff_forall_prop.1 (by decide))
  have hlex : lex "-0x8000000000000000".toList = [⟨.illegal, ⟨0, 19⟩⟩] := by decide +kernel
  refine ⟨hliteral, hlex, ?_⟩
  rw [hlex]
  decide

end Token

end FindToSelect
