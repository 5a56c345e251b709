import FindToSelect.Proofs.Arguments.JsonText
import FindToSelect.Proofs.Invocation.ArgumentEnd
import FindToSelect.Translation

/-!
# Calls written with JSON arguments

A call whose arguments are the JSON texts of two documents is read as the query of these documents:
`Query.parse_json_call`. It does not matter what stands in the keys and the strings; parentheses,
quotes, backslashes, line feeds and the marks of comments are all inside of tokens.

Each stage has its part in this. The texts are read as the two documents (`Arguments.reads_texts`),
so they hold no `illegal` token and end in no open comment; hence the call is taken apart at the
right parenthesis (`Invocation.split_call`). Then the filter is built and the columns are chosen
(`Query.ofArguments_documents`), the columns being the keys whose value is the number one
(`Clause.includedFields_ofProjection`).
-/

namespace FindToSelect

/-! ### The number one -/

/-- **The double one**, which is `2 ^ 52 · 2 ^ 1022` units. -/
def Double.one : Double :=
  ⟨false, Nat.pow 2 52, 1022, by decide, by decide, by decide⟩

example : FloatLiteral.ofDecimal false ⟨1, 0⟩ = .finite .one := by decide +kernel

/-- **Whether a value is the number one**: the integer or the double. -/
def Value.isNumberOne : Value → Bool
  | .number n => n = .integer 1 || n = .float .one
  | _ => false

theorem Double.units_one : one.units = unitsInOne := by decide +kernel

/-- Doubles of the same sign and the same units are equal. -/
theorem Double.eq_of_units_eq {x y : Double} (hn : x.negative = y.negative)
    (hu : x.units = y.units) : x = y := by
  -- the units give back the literal that the double is
  have hliteral := FloatLiteral.ofRatio_units x
  rw [hn, hu, FloatLiteral.ofRatio_units y] at hliteral
  exact (FloatLiteral.finite.inj hliteral).symm

/-- **The number one is an integer or a double**, and there is one double that is one. -/
theorem Number.isOne_iff {n : Number} : n.isOne = true ↔ n = .integer 1 ∨ n = .float .one := by
  cases n with
  | integer i => simp [isOne]
  | float x =>
    simp only [isOne, Bool.and_eq_true, Bool.not_eq_true', beq_iff_eq, reduceCtorEq, false_or,
      Number.float.injEq]
    constructor
    · rintro ⟨hn, hu⟩
      exact Double.eq_of_units_eq hn (hu.trans Double.units_one.symm)
    · rintro rfl
      exact ⟨rfl, Double.units_one⟩

/-- A clause of a projection includes its field if its operand is the number one. -/
theorem Clause.isInclusion_field (name token : String) (v : Value) :
    isInclusion (.field name token v) = v.isNumberOne := by
  cases v with
  | number n =>
    show n.isOne = Value.isNumberOne (.number n)
    refine Bool.eq_iff_iff.2 (Number.isOne_iff.trans ?_)
    simp [Value.isNumberOne]
  | null | boolean _ | string _ | array _ | object _ => rfl

/-- **The columns of a projection** are its keys with the number one, in order. -/
theorem Clause.includedFields_ofProjection (d : Document) :
    includedFields (ofProjection d) = Document.keys (d.filter fun m => m.2.isNumberOne) := by
  induction d with
  | nil => rfl
  | cons m d ih =>
    obtain ⟨key, v⟩ := m
    have hmember : isInclusion (.field key implicitToken v) = v.isNumberOne :=
      isInclusion_field key implicitToken v
    simp only [includedFields, ofProjection, List.map_cons, List.filter_cons, hmember] at ih ⊢
    -- both sides keep the member, or both leave it out
    split
    · rw [List.filterMap_cons, ih]
      rfl
    · exact ih

/-! ### The stages -/

/-- **A call is taken apart** at the end of arguments that can be read. -/
theorem Invocation.split_call {collection arguments : String} (hne : collection ≠ "")
    (hdot : '.' ∉ collection.toList) (hl : Token.Legal arguments.toList)
    (hf : Trivia.Finished (Token.trailing arguments.toList)) :
    ∃ ignored, split ("db." ++ collection ++ ".find(" ++ arguments ++ ")") =
      .ok ⟨collection, arguments, ignored⟩ := by
  -- the search for the parenthesis goes over all tokens and the trivia behind the last one
  have hclosing := closing?_append_close_of_finished hl hf (Text.trimEnd "".toList)
  have hchars : collection.toList ≠ [] := fun h => hne (String.toList_eq_nil_iff.1 h)
  have hsplit := ofText_eq_ok_iff.2
    ⟨collection.toList, _, _, trim_call collection arguments "", hchars, hdot, hclosing, rfl⟩
  rw [List.take_left, String.ofList_toList, String.ofList_toList, String.append_empty] at hsplit
  exact ⟨_, hsplit⟩

/-- A text that is read as arguments has no `illegal` token. -/
theorem Arguments.legal_of_reads {cs : List Char} {vs : List Value}
    (h : Token.Reads (fun ts => IsArguments ts vs) cs) : Token.Legal cs :=
  h.of_lex.1.forall_ne_illegal

/-- **A call whose arguments are read as `vs`** is read as the query of `vs`. -/
theorem Query.parse_call {collection arguments : String} (hne : collection ≠ "")
    (hdot : '.' ∉ collection.toList) {vs : List Value}
    (h : Token.Reads (fun ts => Arguments.IsArguments ts vs) arguments.toList) :
    parse ("db." ++ collection ++ ".find(" ++ arguments ++ ")") = ofArguments collection vs := by
  -- text that can be read holds no `illegal` token and leaves no comment open
  obtain ⟨ignored, hsplit⟩ :=
    Invocation.split_call hne hdot (Arguments.legal_of_reads h) h.of_lex.2
  have hquery : ofInvocation ⟨collection, arguments, ignored⟩ = ofArguments collection vs := by
    rw [ofInvocation, Arguments.parse_of_reads h]
    rfl
  rw [parse, hsplit, ← hquery]
  rfl

/-- The query of two documents. -/
theorem Query.ofArguments_documents (collection : String) (filter projection : Document) :
    ofArguments collection [.object filter, .object projection] =
      (buildFilter (Clause.ofFilter filter)).map fun conditions =>
        ⟨collection, Document.keys (projection.filter fun m => m.2.isNumberOne), conditions⟩ := by
  rw [← Clause.includedFields_ofProjection]
  -- the projection is read in every case, so only the filter can fail
  show (buildFilter (Clause.ofFilter filter)).bind _ = _
  cases buildFilter (Clause.ofFilter filter) <;> rfl

/-- **A call with JSON arguments** is read as the query of the two documents. It fails as the filter
does, and otherwise shows the fields to which the projection gives the number one. -/
theorem Query.parse_json_call (collection : String) (filter projection : Document)
    (hne : collection ≠ "") (hdot : '.' ∉ collection.toList)
    (hf : (Value.object filter).Proper 128)
    (hp : (Value.object projection).Proper 128) :
    parse ("db." ++ collection ++ ".find(" ++ (Value.object filter).json ++ ", " ++
        (Value.object projection).json ++ ")") =
      (buildFilter (Clause.ofFilter filter)).map fun conditions =>
        ⟨collection, Document.keys (projection.filter fun m => m.2.isNumberOne), conditions⟩ := by
  -- between the two texts stand a comma and a blank
  have hblank : Trivia.Finished [' '] := .blank (by decide) .nil
  have hproper : ∀ v ∈ [Value.object filter, Value.object projection], v.Proper 128 := by
    simp [hf, hp]
  have hreads := Arguments.reads_texts hblank hproper
  -- the arguments of the call are these texts, joined
  have htext : ((Value.object filter).json ++ ", " ++ (Value.object projection).json).toList =
      Text.joined [',', ' '] ([.object filter, .object projection].map Value.text) := by
    simp [Value.json]
  rw [← htext] at hreads
  have hparse := parse_call hne hdot hreads
  rw [← String.append_assoc, ← String.append_assoc] at hparse
  exact hparse.trans (ofArguments_documents collection filter projection)

/-- Keys and strings that would close the call, end a string or open a comment, and the number one
in both forms; and a filter that fails. -/
theorem Query.parse_json_call_marks :
    parse ("db.user.find(\x7b\"a)\\\"/*\":\x7b\"$gte\":\"//(\\n'\"\x7d\x7d, " ++
          "\x7b\"_id\":0,\")\":1,\"b\":1.0\x7d)") =
        .ok ⟨"user", [")", "b"], [.compare "a)\"/*" .greaterEqual (.scalar (.string "//(\n'"))]⟩ ∧
      parse "db.user.find(\x7b\"$nor\":\")\"\x7d, \x7b\x7d)" =
        .error (.unsupportedOperator "$nor") := by
  constructor
  · have hfilter : (Value.object
        [("a)\"/*", .object [("$gte", .string "//(\n'")])]).Proper 128 := by
      refine .object (n := 127) (by decide) (List.forall_mem_singleton.2 ?_)
      exact .object (n := 126) (by decide) (List.forall_mem_singleton.2 (.string _))
    have hprojection : (Value.object [("_id", .number (.integer 0)), (")", .number (.integer 1)),
        ("b", .number (.float .one))]).Proper 128 := by
      refine .object (n := 127) (by decide) ?_
      simp only [List.forall_mem_cons]
      exact ⟨.integer (by decide), .integer (by decide), .float _, List.forall_mem_nil _⟩
    have hparse := parse_json_call "user" _ _ (by decide) (by decide) hfilter hprojection
    refine Eq.trans (congrArg parse ?_) hparse
    decide +kernel
  · have hfilter : (Value.object [("$nor", .string ")")]).Proper 128 :=
      .object (n := 127) (by decide) (List.forall_mem_singleton.2 (.string _))
    have hprojection : (Value.object []).Proper 128 :=
      .object (n := 127) (by decide) (List.forall_mem_nil _)
    have hparse := parse_json_call "user" _ _ (by decide) (by decide) hfilter hprojection
    refine Eq.trans (congrArg parse ?_) hparse
    decide +kernel

end FindToSelect
