import FindToSelect.Arguments.Reader
import FindToSelect.Proofs.Value.Entries

/-!
# The grammar of arguments

The language that `Arguments.read` accepts, given by rules on token lists and without a reader:

* `arguments := (value (',' value)* ','?)?`;
* a value is a scalar token, `'[' (value (',' value)* ','?)? ']'`, or
  `'{' (member (',' member)* ','?)? '}'`;
* `member := key ':' value`, where a key is an identifier, a string or one of three keywords.

The three comma-separated lists are one rule, `Separated`, with the rule for an item as parameter.
`IsValue n` holds of the token lists of values in which objects and arrays nest at most `n` deep, so
the limit on nesting is part of the grammar: the items of a container have one level less.

Each rule also says what its tokens denote. An object denotes the document of its entries
(`Document.ofEntries`).
-/

namespace FindToSelect.Arguments

/-- **The scalars**, and what their tokens denote. Of the floating literals only the finite ones are
scalars. -/
inductive IsScalar : TokenKind → Value → Prop
  | string (s : String) : IsScalar (.string s) (.string s)
  | integer (n : Int) : IsScalar (.integer n) (.number (.integer n))
  | float (x : Double) : IsScalar (.float (.finite x)) (.number (.float x))
  | true : IsScalar .true (.boolean true)
  | false : IsScalar .false (.boolean false)
  | null : IsScalar .null .null

/-- **The keys**, and what they spell. -/
inductive IsKey : TokenKind → String → Prop
  | identifier (name : String) : IsKey (.identifier name) name
  | string (s : String) : IsKey (.string s) s
  | true : IsKey .true "true"
  | false : IsKey .false "false"
  | null : IsKey .null "null"

/-- **Items separated by commas**, `(item (',' item)* ','?)?`: behind a comma stands such a list
again, and that list may be empty. -/
inductive Separated {α : Type} (Item : List Token → α → Prop) : List Token → List α → Prop
  | nil : Separated Item [] []
  | last {ts : List Token} {a : α} : Item ts a → Separated Item ts [a]
  | cons {ts us : List Token} {a : α} {as : List α} {comma : Token} :
      Item ts a → comma.kind = .comma → Separated Item us as →
        Separated Item (ts ++ comma :: us) (a :: as)

/-- **A member of an object**, `key ':' value`. -/
inductive IsMember (Inner : List Token → Value → Prop) : List Token → String × Value → Prop
  | intro {key colon : Token} {name : String} {ts : List Token} {v : Value} :
      IsKey key.kind name → colon.kind = .colon → Inner ts v →
        IsMember Inner (key :: colon :: ts) (name, v)

/-- **An array or an object**, with `Inner` for the values in it. -/
inductive IsContainer (Inner : List Token → Value → Prop) : List Token → Value → Prop
  | array {opening closing : Token} {ts : List Token} {vs : List Value} :
      opening.kind = .openBracket → Separated Inner ts vs → closing.kind = .closeBracket →
        IsContainer Inner (opening :: (ts ++ [closing])) (.array vs)
  | object {opening closing : Token} {ts : List Token} {es : List (String × Value)} :
      opening.kind = .openBrace → Separated (IsMember Inner) ts es → closing.kind = .closeBrace →
        IsContainer Inner (opening :: (ts ++ [closing])) (.object (Document.ofEntries es))

/-- **A value** in which objects and arrays nest at most `n` deep. -/
def IsValue : Nat → List Token → Value → Prop
  | 0, ts, v => ∃ t, ts = [t] ∧ IsScalar t.kind v
  | n + 1, ts, v => (∃ t, ts = [t] ∧ IsScalar t.kind v) ∨ IsContainer (IsValue n) ts v

/-- **The arguments of a call**: values in which objects and arrays nest at most 128 deep. -/
def IsArguments (ts : List Token) (vs : List Value) : Prop :=
  Separated (IsValue 128) ts vs

theorem IsValue.of_isScalar {t : Token} {v : Value} (h : IsScalar t.kind v) (n : Nat) :
    IsValue n [t] v := by
  cases n with
  | zero => exact ⟨t, rfl, h⟩
  | succ n => exact Or.inl ⟨t, rfl, h⟩

/-! ### The tokens of values -/

/-- **A value has a first token**, which does not close an array. -/
theorem IsValue.exists_cons {n : Nat} {ts : List Token} {v : Value} (h : IsValue n ts v) :
    ∃ t us, ts = t :: us ∧ t.kind ≠ .closeBracket := by
  have hscalar : (∃ t, ts = [t] ∧ IsScalar t.kind v) →
      ∃ t us, ts = t :: us ∧ t.kind ≠ .closeBracket := by
    rintro ⟨t, rfl, hs⟩
    refine ⟨t, [], rfl, ?_⟩
    -- the scalars are kinds of tokens, and a bracket is none of them
    generalize t.kind = k at hs
    cases hs <;> simp
  cases n with
  | zero => exact hscalar h
  | succ n =>
    rcases h with h | h
    · exact hscalar h
    · cases h with
      | array ho _ _ => exact ⟨_, _, rfl, by rw [ho]; simp⟩
      | object ho _ _ => exact ⟨_, _, rfl, by rw [ho]; simp⟩

/-- What holds of the commas and of the tokens of the items holds of all tokens of the list. -/
theorem Separated.forall_mem {α : Type} {Item : List Token → α → Prop} {P : Token → Prop}
    (hcomma : ∀ t : Token, t.kind = .comma → P t) (hitem : ∀ {ts a}, Item ts a → ∀ t ∈ ts, P t)
    {ts : List Token} {as : List α} (h : Separated Item ts as) : ∀ t ∈ ts, P t := by
  induction h with
  | nil => simp
  | last ha => exact hitem ha
  | cons ha hc _ ih =>
    intro t ht
    rw [List.mem_append, List.mem_cons] at ht
    -- in the first item, the comma behind it, or in the list behind that
    rcases ht with ht | rfl | ht
    · exact hitem ha t ht
    · exact hcomma t hc
    · exact ih t ht

/-- **What holds of scalars, keys and marks** holds of all tokens of a value. -/
theorem IsValue.forall_kind {P : TokenKind → Prop} (hscalar : ∀ {k v}, IsScalar k v → P k)
    (hkey : ∀ {k name}, IsKey k name → P k)
    (hmark : ∀ k ∈ [.openBrace, .closeBrace, .openBracket, .closeBracket, .colon, .comma], P k)
    {n : Nat} {ts : List Token} {v : Value} (h : IsValue n ts v) : ∀ t ∈ ts, P t.kind := by
  have hone : ∀ {ts : List Token} {v : Value}, (∃ t, ts = [t] ∧ IsScalar t.kind v) →
      ∀ t ∈ ts, P t.kind := by
    rintro ts v ⟨s, rfl, hs⟩ t ht
    obtain rfl := List.mem_singleton.1 ht
    exact hscalar hs
  have hkind : ∀ {t : Token} {k : TokenKind}, t.kind = k →
      k ∈ [.openBrace, .closeBrace, .openBracket, .closeBracket, .colon, .comma] → P t.kind :=
    fun h hk => h ▸ hmark _ hk
  -- along the limit, since the rule for a container refers to the values of one level less
  induction n generalizing ts v with
  | zero => exact hone h
  | succ n ih =>
    have hcomma : ∀ t : Token, t.kind = .comma → P t.kind := fun t h => hkind h (by simp)
    -- a container is its items between two marks
    have hbetween : ∀ {opening closing : Token} {us : List Token}, P opening.kind →
        P closing.kind → (∀ t ∈ us, P t.kind) →
          ∀ t ∈ opening :: (us ++ [closing]), P t.kind := by
      intro opening closing us ho hc hu t ht
      rw [List.mem_cons, List.mem_append, List.mem_singleton] at ht
      rcases ht with rfl | ht | rfl
      · exact ho
      · exact hu t ht
      · exact hc
    rcases h with h | h
    · exact hone h
    · cases h with
      | array ho hs hc =>
        exact hbetween (hkind ho (by simp)) (hkind hc (by simp)) (hs.forall_mem hcomma ih)
      | object ho hs hc =>
        refine hbetween (hkind ho (by simp)) (hkind hc (by simp)) (hs.forall_mem hcomma ?_)
        -- a member is a key, a colon and a value
        rintro ts a ⟨hk, hcolon, hv⟩ t ht
        rw [List.mem_cons, List.mem_cons] at ht
        rcases ht with rfl | rfl | ht
        · exact hkey hk
        · exact hkind hcolon (by simp)
        · exact ih hv t ht

/-- **No value holds an `illegal` token.** -/
theorem IsValue.forall_ne_illegal {n : Nat} {ts : List Token} {v : Value} (h : IsValue n ts v) :
    ∀ t ∈ ts, t.kind ≠ .illegal := by
  refine h.forall_kind (P := fun k => k ≠ .illegal) ?_ ?_ (by simp)
  · intro k v hs
    cases hs <;> simp
  · intro k name hk
    cases hk <;> simp

/-- **No arguments hold an `illegal` token**, since no value does and the others are commas. -/
theorem IsArguments.forall_ne_illegal {ts : List Token} {vs : List Value} (h : IsArguments ts vs) :
    ∀ t ∈ ts, t.kind ≠ .illegal := by
  have hcomma : ∀ t : Token, t.kind = .comma → t.kind ≠ .illegal := by
    intro t ht
    rw [ht]
    simp
  exact h.forall_mem hcomma IsValue.forall_ne_illegal

end FindToSelect.Arguments
