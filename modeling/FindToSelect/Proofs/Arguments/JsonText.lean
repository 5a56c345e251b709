import FindToSelect.Proofs.Arguments.Image
import FindToSelect.Proofs.Token.WrittenNumber

/-!
# Reading undoes writing

The compact JSON text of a value is read as that value, and so is a list of such texts with commas
between them (`Arguments.parse_undoes_text`). The values for which this holds are those that
arguments can be at all, `Value.Proper 128`; so writing what has been read and reading it
again changes nothing.

The proof never looks into a token list. `Value.reads_text` says of the text of a value that it is
read as tokens of the grammar for that value, whatever bounded text follows. It goes by induction
on `Value.Proper`: a scalar is one token, and a container is its items with commas between them
(`Arguments.reads_joined`) and a mark on either side (`Token.Reads.enclosed`).
-/

namespace FindToSelect

open Token (Reads Whole)

namespace Arguments

/-- **Texts with commas between them** are read as a list of items. There may be trivia behind each
comma. -/
theorem reads_joined {α : Type} {Item : List Token → α → Prop} {w : List Char}
    (hw : Trivia.Finished w) {text : α → List Char} {as : List α}
    (h : ∀ a ∈ as, Reads (fun ts => Item ts a) (text a)) :
    Reads (fun ts => Separated Item ts as) (Text.joined (',' :: w) (as.map text)) := by
  -- two items or more are the first, a comma and a list again
  induction as with
  | nil => exact Reads.nil .nil
  | cons a as ih =>
    have hfirst := h a List.mem_cons_self
    have hothers := ih fun b hb => h b (List.mem_cons_of_mem a hb)
    cases as with
    | nil => exact hfirst.mono fun ts => Separated.last
    | cons b as =>
      rw [List.map_cons] at hothers
      rw [List.map_cons, List.map_cons, Text.joined_cons_cons, List.append_assoc]
      generalize Text.joined (',' :: w) (text b :: as.map text) = cs at hothers
      -- the trivia stands between the comma and the next item
      have hcomma : Reads (fun us => ∃ comma ts, us = comma :: ts ∧ comma.kind = .comma ∧
          Separated Item ts (b :: as)) (',' :: (w ++ cs)) :=
        Reads.mark_cons rfl (hothers.trivia_append hw) fun comma ts hk hts =>
          ⟨comma, ts, rfl, hk, hts⟩
      refine hfirst.append hcomma (fun ys _ => Token.bounded_comma _) ?_
      rintro ts us hts ⟨comma, others, rfl, hk, hothers⟩
      exact .cons hts hk hothers

/-- **A token that is a scalar.** -/
theorem reads_of_isScalar {kind : TokenKind} {v : Value} {cs : List Char} (hv : IsScalar kind v)
    (h : Whole kind cs) (n : Nat) : Reads (fun ts => IsValue n ts v) cs := by
  -- no scalar is an `illegal` token
  have hlegal : kind ≠ .illegal := by cases hv <;> simp
  refine (h.reads hlegal).mono ?_
  rintro ts ⟨t, rfl, rfl⟩
  exact .of_isScalar hv n

/-- **A key, a colon and a value.** -/
theorem reads_member {n : Nat} {m : String × Value}
    (h : Reads (fun ts => IsValue n ts m.2) m.2.text) :
    Reads (fun ts => IsMember (IsValue n) ts m) (jsonString m.1 ++ ':' :: m.2.text) := by
  have hkey := (Token.whole_jsonString m.1).reads (by simp)
  have hvalue : Reads (fun us => ∃ colon ts, us = colon :: ts ∧ colon.kind = .colon ∧
      IsValue n ts m.2) (':' :: m.2.text) :=
    Reads.mark_cons rfl h fun colon ts hk hts => ⟨colon, ts, rfl, hk, hts⟩
  -- a quoted key is a token of kind `string`, which spells its own text
  refine hkey.append hvalue (fun ys _ => Token.bounded_colon _) ?_
  rintro ts us ⟨key, rfl, hk⟩ ⟨colon, vs, rfl, hcolon, hv⟩
  exact .intro (hk ▸ .string m.1) hcolon hv

end Arguments

namespace Value

open Arguments

theorem elementTexts_eq_map (vs : List Value) : elementTexts vs = vs.map text := by
  induction vs with
  | nil => rfl
  | cons v vs ih => rw [elementTexts, ih, List.map_cons]

theorem memberTexts_eq_map (ms : List (String × Value)) :
    memberTexts ms = ms.map fun m => jsonString m.1 ++ ':' :: m.2.text := by
  induction ms with
  | nil => rfl
  | cons m ms ih => rw [memberTexts, ih, List.map_cons]

/-- **The text of a proper value is read as the value.** -/
theorem reads_text {n : Nat} {v : Value} (h : v.Proper n) :
    Reads (fun ts => IsValue n ts v) v.text := by
  induction h with
  | null => exact reads_of_isScalar .null Token.whole_null _
  | boolean b =>
    cases b with
    | true => exact reads_of_isScalar .true Token.whole_true _
    | false => exact reads_of_isScalar .false Token.whole_false _
  | integer hi =>
    exact reads_of_isScalar (.integer _) (Token.whole_integerDigits (fitsWord_iff.2 hi)) _
  | float x => exact reads_of_isScalar (.float x) (Token.whole_jsonFloat x) _
  | string s => exact reads_of_isScalar (.string s) (Token.whole_jsonString s) _
  | @array n vs _ ih =>
    -- the items have one level less, as in the grammar
    rw [text, elementTexts_eq_map]
    refine (reads_joined .nil ih).enclosed rfl rfl ?_
    intro opening closing ts ho hc hts
    exact Or.inr (.array ho hts hc)
  | @object n d hkeys _ ih =>
    -- distinct keys are set once each, so the entries are the document
    rw [text, memberTexts_eq_map]
    refine (reads_joined .nil fun m hm => reads_member (ih m hm)).enclosed rfl rfl ?_
    intro opening closing ts ho hc hts
    have hobject := IsContainer.object ho hts hc
    rw [Document.ofEntries_of_nodup hkeys] at hobject
    exact Or.inr hobject

end Value

namespace Arguments

/-- **The texts of proper values are read as these values.** -/
theorem reads_texts {w : List Char} (hw : Trivia.Finished w) {vs : List Value}
    (h : ∀ v ∈ vs, v.Proper 128) :
    Reads (fun ts => IsArguments ts vs) (Text.joined (',' :: w) (vs.map Value.text)) :=
  reads_joined hw fun v hv => Value.reads_text (h v hv)

theorem parse_of_reads {cs : List Char} {vs : List Value}
    (h : Reads (fun ts => IsArguments ts vs) cs) : parse cs = .ok vs :=
  read_of_isArguments h.of_lex.1

/-- **Reading undoes writing.** The arguments that some text is read as are the proper ones. Their
texts, with commas between them, are read as these arguments; so what any text is read as is
written as a text that is read as the same. -/
theorem parse_undoes_text (vs : List Value) :
    ((∃ cs, parse cs = .ok vs) ↔ ∀ v ∈ vs, v.Proper 128) ∧
      ((∀ v ∈ vs, v.Proper 128) →
        parse (Text.joined [','] (vs.map Value.text)) = .ok vs) ∧
      ∀ cs, parse cs = .ok vs → parse (Text.joined [','] (vs.map Value.text)) = .ok vs := by
  have hproper : (∀ v ∈ vs, v.Proper 128) →
      parse (Text.joined [','] (vs.map Value.text)) = .ok vs := by
    intro h
    exact parse_of_reads (reads_texts .nil h)
  -- what has been read is proper, so the first half applies to it
  have himage : ∀ cs, parse cs = .ok vs → ∀ v ∈ vs, v.Proper 128 :=
    fun cs h => Value.proper_of_parse h
  refine ⟨⟨?_, fun h => ⟨_, hproper h⟩⟩, hproper, fun cs h => hproper (himage cs h)⟩
  rintro ⟨cs, h⟩
  exact himage cs h

/-- A key that would open a comment and end its string, a string that would close the call, and a
text for both that is no JSON. -/
theorem parse_undoes_text_escapes :
    let vs : List Value :=
      [.object [("/*\"", .array [.number (.integer 16), .null])], .string "\\\n)"]
    let cs := "\x7b'/*\"': [0x10, null,]\x7d, // one more\n '\\\\\\n)'".toList
    parse cs = .ok vs ∧ (∀ v ∈ vs, v.Proper 128) ∧
      Text.joined [','] (vs.map Value.text) = "\x7b\"/*\\\"\":[16,null]\x7d,\"\\\\\\n)\"".toList ∧
      parse (Text.joined [','] (vs.map Value.text)) = .ok vs := by
  intro vs cs
  have hlex : Token.lex cs =
      [⟨.openBrace, ⟨0, 1⟩⟩, ⟨.string "/*\"", ⟨1, 6⟩⟩, ⟨.colon, ⟨6, 7⟩⟩, ⟨.openBracket, ⟨8, 9⟩⟩,
        ⟨.integer 16, ⟨9, 13⟩⟩, ⟨.comma, ⟨13, 14⟩⟩, ⟨.null, ⟨15, 19⟩⟩, ⟨.comma, ⟨19, 20⟩⟩,
        ⟨.closeBracket, ⟨20, 21⟩⟩, ⟨.closeBrace, ⟨21, 22⟩⟩, ⟨.comma, ⟨22, 23⟩⟩,
        ⟨.string "\\\n)", ⟨37, 44⟩⟩] := by
    decide +kernel
  -- the last argument, which stands behind a comma and a line comment
  have hlast : (read [⟨.string "\\\n)", ⟨37, 44⟩⟩]).result = .ok [.string "\\\n)"] := by
    rw [read_cons]
    rfl
  have hparse : parse cs = .ok vs := by
    rw [parse, hlex, read_cons]
    exact congrArg (Except.map _) hlast
  have h := parse_undoes_text vs
  exact ⟨hparse, h.1.1 ⟨cs, hparse⟩, by decide +kernel, h.2.2 cs hparse⟩

end Arguments

end FindToSelect
