import Mathlib.Data.List.TakeWhile
import FindToSelect.Proofs.Arguments.InsertedTrivia
import FindToSelect.Proofs.Token.StringBody

/-!
# Words as keys

A key of an object may be written as a word without quotes. It is then the same key as the word in
quotes, and what follows is read alike, keywords included: `{true: 1}` is `{'true': 1}`. Two words
are no keys, though, since they are read as numbers before anything is known of the place where they
stand: `Infinity` and `NaN` (`Word.numbers`). `Arguments.parse_word_key` says both.

* `Token.whole_word`, `Token.whole_quoted_word` — a word is one token, and so is the word in quotes;
* `Word.isKey_kind` — the token of a word spells that word as a key, unless it is a number;
* `Arguments.read_of_isKey` — of a key only the spelling matters.
-/

namespace FindToSelect

/-! ### Words are tokens -/

namespace Word

/-- **A word**: a letter, `_` or `$`, and behind it letters, digits, `_` and `$`. -/
inductive IsWord : List Char → Prop
  | intro {c : Char} {more : List Char} :
      Text.isAlphabetic c = true ∨ c = '_' ∨ c = '$' →
      (∀ d ∈ more, Text.isAlphabetic d = true ∨ Text.isNumeric d = true ∨ d = '_' ∨ d = '$') →
        IsWord (c :: more)

/-- A word is what the lexer takes as one, its classes of characters being those of the rule. -/
theorem isWord_iff {c : Char} {more : List Char} :
    IsWord (c :: more) ↔ isStart c = true ∧ ∀ d ∈ more, isPart d = true := by
  simp only [isStart_iff, isPart_iff]
  constructor
  · rintro ⟨hc, hmore⟩
    exact ⟨hc, hmore⟩
  · exact fun h => .intro h.1 h.2

/-- **The words for numbers** that are not finite. -/
def numbers : List (List Char) :=
  [['I', 'n', 'f', 'i', 'n', 'i', 't', 'y'], ['N', 'a', 'N']]

/-- No word starts with a digit. -/
theorem not_isDigit_of_isStart {c : Char} (h : isStart c = true) : c.isDigit = false := by
  refine Bool.eq_false_iff.2 fun hc => ?_
  have hlt : c.toNat < 128 := Nat.lt_of_le_of_lt (Char.isDigit_iff_toNat.1 hc).2 (by decide)
  -- digits are ASCII characters, so there is a table to look at
  have hstart : c.isDigit = true → isStart c = false := by
    refine of_ascii c hlt ?_
    decide +kernel
  rw [hstart hc] at h
  cases h

theorem IsWord.forall_isPart {w : List Char} (h : IsWord w) : ∀ d ∈ w, isPart d = true := by
  cases w with
  | nil => simp
  | cons c more =>
    obtain ⟨hc, hmore⟩ := isWord_iff.1 h
    exact List.forall_mem_cons.2 ⟨isPart_of_isStart hc, hmore⟩

/-- **The token of a word spells the word**, unless it is a number. -/
theorem isKey_kind {w : List Char} (h : w ∉ numbers) :
    Arguments.IsKey (kind w) (String.ofList w) := by
  simp only [numbers, List.mem_cons, List.not_mem_nil, or_false, not_or] at h
  unfold kind
  split
  · next hw => subst hw; exact .true
  split
  · next hw => subst hw; exact .false
  split
  · next hw => subst hw; exact .null
  -- what is neither a keyword nor a number is an identifier
  rw [if_neg h.1, if_neg h.2]
  exact .identifier _

end Word

namespace Token

/-- **A word is one token.** -/
theorem whole_word {w : List Char} (h : Word.IsWord w) : Whole (Word.kind w) w := by
  cases w with
  | nil => cases h
  | cons c more =>
    obtain ⟨hc, hmore⟩ := Word.isWord_iff.1 h
    have hpart := Word.isPart_of_isStart hc
    -- the characters with which other tokens and trivia start are no parts of words
    have hne : ∀ d : Char, Word.isPart d = false → c ≠ d := by
      rintro d hd rfl
      rw [hpart] at hd
      cases hd
    have hblank : Text.isBlank c = false := by
      refine Bool.eq_false_iff.2 fun hb => ?_
      rw [(Word.isPart_of_isBlank hb).1] at hpart
      cases hpart
    have hmark : TokenKind.ofPunctuation? c = none := by
      cases hm : TokenKind.ofPunctuation? c with
      | none => rfl
      | some kind =>
        rw [(bounded_mark hm [] c rfl).1] at hpart
        cases hpart
    have htake : more.takeWhile Word.isPart = more := List.takeWhile_eq_self_iff.2 hmore
    refine ⟨c, more, rfl, hblank, hne '/' (by decide +kernel), ?_⟩
    simp [scan, hmark, hne '"' (by decide +kernel), hne '\'' (by decide +kernel),
      hne '-' (by decide +kernel), hne '+' (by decide +kernel), hne '.' (by decide +kernel),
      Word.not_isDigit_of_isStart hc, hc, Word.scan, htake]

/-- **A word in quotes is one token**, which is the word. -/
theorem whole_quoted_word {w : List Char} (h : Word.IsWord w) :
    Whole (.string (String.ofList w)) ('\'' :: (w ++ ['\''])) := by
  have hnot : ∀ d : Char, Word.isPart d = false → d ∉ w := by
    intro d hd hmem
    rw [h.forall_isPart d hmem] at hd
    cases hd
  -- no character of the word ends the string, escapes another, or breaks the line
  have hbody := StringLiteral.isBody_raw (hnot '\'' (by decide +kernel))
    (hnot '\\' (by decide +kernel)) (hnot '\n' (by decide +kernel))
  -- and so each one stands for itself
  have hmeans : Text.Item.Means (w.map .char) (String.ofList w).toList := by
    rw [Text.Item.means_iff hbody.unit_lt, Text.Item.decode_map_char, String.toList_ofList]
  refine ⟨'\'', w ++ ['\''], rfl, by decide, by decide, ?_⟩
  show StringLiteral.scan '\'' (w ++ ['\'']) = _
  rw [List.length_append]
  exact (StringLiteral.scan_eq_string_iff (Or.inr rfl)).2 ⟨w, [], _, rfl, rfl, hbody, hmeans⟩

end Token

namespace Arguments

/-! ### Keys -/

/-- **The text of an object** that starts with the text `key` of a key, a colon and a blank. -/
def keyed (key v : List Char) : List Char :=
  '{' :: (key ++ ':' :: ' ' :: (v ++ ['}']))

/-- **The tokens of an object with a key** that is one token. -/
theorem lex_keyed {kind : TokenKind} {key : List Char} (h : Token.Whole kind key)
    (hk : kind ≠ .illegal) (v : List Char) :
    Token.lex (keyed key v) =
      ⟨.openBrace, ⟨0, 1⟩⟩ :: ⟨kind, ⟨1, 1 + byteLength key⟩⟩ ::
        Token.lexFrom (1 + byteLength key) (':' :: ' ' :: (v ++ ['}'])) := by
  obtain ⟨c, more, rfl, hb, hs, hscan⟩ := h
  -- a colon goes on no token
  have happend : Token.scan c (more ++ ':' :: ' ' :: (v ++ ['}'])) = ⟨kind, more.length⟩ := by
    rw [Token.scan_append (Token.bounded_colon _) (by rw [hscan]; exact hk), hscan]
  have hbrace : ∀ ys, Token.scan '{' ([] ++ ys) = ⟨.openBrace, ([] : List Char).length⟩ :=
    fun _ => rfl
  rw [Token.lex, keyed, List.cons_append]
  refine ((Token.lexFrom_scan (by decide) (by decide) (hbrace _)).2 0).trans ?_
  exact congrArg _ ((Token.lexFrom_scan hb hs happend).2 1)

theorem readValue_of_openBrace {o : Token} (ho : o.kind = .openBrace) (ts : List Token) :
    readValue (o :: ts) = run (.key []) [] ts := by
  obtain ⟨k, s⟩ := o
  obtain rfl : k = .openBrace := ho
  exact run_of_next rfl ts

/-- **Of a key only the spelling matters.** -/
theorem read_of_isKey {o t t' : Token} {name : String} (ho : o.kind = .openBrace)
    (h : IsKey t.kind name) (h' : IsKey t'.kind name) (ts : List Token) :
    read (o :: t :: ts) = read (o :: t' :: ts) := by
  -- behind the key the machine keeps its spelling, and has forgotten the token
  have hrun : ∀ t : Token, IsKey t.kind name →
      readValue (o :: t :: ts) = run (.colon [] name) [] ts := by
    intro t ht
    rw [readValue_of_openBrace ho, run_of_next (step_key_of_isKey ht [] [])]
  rw [read_cons, read_cons, hrun t h, hrun t' h']

/-- **Two texts of one key** are followed by the same: the objects are read as the same arguments,
or are refused with the same wording. -/
theorem parse_keyed_worded {kind kind' : TokenKind} {key key' : List Char} {name : String}
    (h : Token.Whole kind key) (h' : Token.Whole kind' key') (hk : IsKey kind name)
    (hk' : IsKey kind' name) (v : List Char) :
    (read (Token.lex (keyed key v))).worded = (read (Token.lex (keyed key' v))).worded := by
  have hne : ∀ {k : TokenKind}, IsKey k name → k ≠ .illegal := by
    rintro k hk rfl
    cases hk
  -- the key of the one text is put in the place of the other's
  have hswap : ∀ ts, read (⟨.openBrace, ⟨0, 1⟩⟩ :: ⟨kind, ⟨1, 1 + byteLength key⟩⟩ :: ts) =
      read (⟨.openBrace, ⟨0, 1⟩⟩ :: ⟨kind', ⟨1, 1 + byteLength key'⟩⟩ :: ts) :=
    fun ts => read_of_isKey rfl hk hk' ts
  rw [lex_keyed h (hne hk), lex_keyed h' (hne hk'), hswap]
  -- and what follows is the same text from another place
  refine read_worded_of_kinds ?_
  simp only [List.map_cons, Token.map_kind_lexFrom]

/-- **A word for a number is no key.** -/
theorem parse_number_key {w : List Char} (hw : Word.IsWord w) (h : w ∈ Word.numbers)
    (v : List Char) :
    parse (keyed w v) = .error (.notKey ⟨Word.kind w, ⟨1, 1 + byteLength w⟩⟩) := by
  -- both words are read as floating literals
  obtain ⟨x, hx⟩ : ∃ x, Word.kind w = .float x := by
    simp only [Word.numbers, List.mem_cons, List.not_mem_nil, or_false] at h
    rcases h with rfl | rfl
    · exact ⟨_, rfl⟩
    · exact ⟨_, rfl⟩
  have hwhole := Token.whole_word hw
  rw [hx] at hwhole ⊢
  rw [parse, lex_keyed hwhole (by rintro ⟨⟩), read_cons, readValue_of_openBrace rfl]
  rfl

/-- **A word as a key.** An object whose first key is a word in quotes is read in the same way when
the quotes are left out, unless the word is a word for a number, which is refused as a key. -/
theorem parse_word_key {w : List Char} (hw : Word.IsWord w) (v : List Char) {vs : List Value}
    (h : parse (keyed ('\'' :: (w ++ ['\''])) v) = .ok vs) :
    parse (keyed w v) =
      if w ∈ Word.numbers then .error (.notKey ⟨Word.kind w, ⟨1, 1 + byteLength w⟩⟩)
      else .ok vs := by
  split
  · next hnumber => exact parse_number_key hw hnumber v
  · next hnumber =>
    have hworded := parse_keyed_worded (Token.whole_word hw) (Token.whole_quoted_word hw)
      (Word.isKey_kind hnumber) (.string _) v
    obtain ⟨vs', hword, hquoted⟩ | ⟨_, e, _, hquoted, _⟩ := (Outcome.worded_cases hworded).2
    · obtain rfl : vs' = vs := Except.ok.inj (hquoted.symm.trans h)
      exact hword
    -- the quoted form is read, so its errors need not be looked at
    · cases hquoted.symm.trans h

/-- The keyword `null` is a key, and the argument behind the object is the same. -/
theorem parse_word_key_null :
    Word.IsWord "null".toList ∧
      parse "\x7b'null': null\x7d, \x7b\x7d".toList =
        .ok [.object [("null", .null)], .object []] ∧
      parse "\x7bnull: null\x7d, \x7b\x7d".toList =
        .ok [.object [("null", .null)], .object []] := by
  have hw : Word.IsWord "null".toList :=
    Word.isWord_iff.2 ⟨by decide +kernel, List.all_eq_true.1 (by decide +kernel)⟩
  have hlex : Token.lex "\x7b'null': null\x7d, \x7b\x7d".toList =
      [⟨.openBrace, ⟨0, 1⟩⟩, ⟨.string "null", ⟨1, 7⟩⟩, ⟨.colon, ⟨7, 8⟩⟩, ⟨.null, ⟨9, 13⟩⟩,
        ⟨.closeBrace, ⟨13, 14⟩⟩, ⟨.comma, ⟨14, 15⟩⟩, ⟨.openBrace, ⟨16, 17⟩⟩,
        ⟨.closeBrace, ⟨17, 18⟩⟩] := by
    decide +kernel
  -- the second argument, behind the comma
  have hlast : (read [⟨.openBrace, ⟨16, 17⟩⟩, ⟨.closeBrace, ⟨17, 18⟩⟩]).result =
      .ok [.object []] := by
    rw [read_cons]
    rfl
  have hquoted : parse "\x7b'null': null\x7d, \x7b\x7d".toList =
      .ok [.object [("null", .null)], .object []] := by
    rw [parse, hlex, read_cons]
    exact congrArg (Except.map _) hlast
  have hparse := parse_word_key hw "null\x7d, \x7b".toList hquoted
  rw [if_neg (by decide)] at hparse
  exact ⟨hw, hquoted, hparse⟩

/-- The word `Infinity` is a key in quotes only. -/
theorem parse_word_key_infinity :
    Word.IsWord "Infinity".toList ∧
      parse "\x7b'Infinity': 1\x7d".toList =
        .ok [.object [("Infinity", .number (.integer 1))]] ∧
      parse "\x7bInfinity: 1\x7d".toList =
        .error (.notKey ⟨.float (.infinite false), ⟨1, 9⟩⟩) := by
  have hw : Word.IsWord "Infinity".toList :=
    Word.isWord_iff.2 ⟨by decide +kernel, List.all_eq_true.1 (by decide +kernel)⟩
  have hlex : Token.lex "\x7b'Infinity': 1\x7d".toList =
      [⟨.openBrace, ⟨0, 1⟩⟩, ⟨.string "Infinity", ⟨1, 11⟩⟩, ⟨.colon, ⟨11, 12⟩⟩,
        ⟨.integer 1, ⟨13, 14⟩⟩, ⟨.closeBrace, ⟨14, 15⟩⟩] := by
    decide +kernel
  refine ⟨hw, ?_, parse_number_key hw (by decide) ['1']⟩
  rw [parse, hlex, read_cons]
  rfl

end Arguments

end FindToSelect
