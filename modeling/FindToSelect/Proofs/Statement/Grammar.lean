import FindToSelect.Proofs.Number.Plain
import FindToSelect.Token.Lexer
import Mathlib.Data.List.Basic

/-!
# The grammar of statements

How a statement is read, by rules on characters. The rules use nothing by which statements are
written: every word and every mark of the language is spelled out in them.

* `select := "SELECT " columns " FROM " word (" WHERE " condition)? ";"`, where the columns are `*`
  or words separated by commas;
* a condition is a disjunction of conjunctions, `AND` binding tighter than `OR`;
* what they join is `word operator operand` or a condition in parentheses, where the operators are
  `=`, `!=`, `>`, `<`, `>=`, `<=` and `IN` (`IsOperator`);
* an operand is a constant or a list of constants in parentheses, and a constant is a string between
  quotes, a plain decimal, `true` or `false`.

A text has at most one reading (`IsSelect.unique`). Each rule is **determined** by what may follow
it: of two readings of the front of one text, each followed by something that may follow, both end
at the same place and give the same tree. For a list this is so if it is for the items, the
separator may follow an item, and what follows the list does not start with the separator
(`Joined.determined`). Conditions contain conditions, so `Determined` bounds the length of the first
text, and the induction is on that bound (`IsCondition.determined`).
-/

namespace FindToSelect.Sql

/-! ### Syntax trees -/

/-- **A constant**: the body of a string, the digits of a number, or a truth value. -/
inductive Constant where
  | string (body : List Char)
  | number (digits : List Char)
  | boolean (b : Bool)

/-- **The right-hand side of a comparison.** -/
inductive Term where
  | constant (a : Constant)
  | list (as : List Constant)

/-- **A condition that stands by itself**: a comparison, or a disjunction of conjunctions in
parentheses. -/
inductive Condition where
  | compare (field : List Char) (c : Comparison) (operand : Term)
  | paren (alternatives : List (List Condition))

/-- **A statement.** No columns stand for all of them. -/
@[ext] structure Select where
  columns : List (List Char)
  table : List Char
  alternatives : Option (List (List Condition))

/-! ### Rules -/

/-- **Items with a separator between any two**, at least one. -/
inductive Joined {α : Type} (separator : List Char) (Item : List Char → α → Prop) :
    List Char → List α → Prop
  | one {cs : List Char} {a : α} : Item cs a → Joined separator Item cs [a]
  | cons {cs ds : List Char} {a : α} {as : List α} : Item cs a → Joined separator Item ds as →
      Joined separator Item (cs ++ (separator ++ ds)) (a :: as)

/-- **Words**: letters, digits, `_` and `$`, at least one. -/
def IsWord (cs : List Char) : Prop :=
  cs ≠ [] ∧ ∀ c ∈ cs, Text.isAlphabetic c = true ∨ Text.isNumeric c = true ∨ c = '_' ∨ c = '$'

instance : DecidablePred IsWord := fun cs =>
  decidable_of_iff (cs ≠ [] ∧ cs.all Word.isPart = true) (by
    simp only [List.all_eq_true, Word.isPart_iff]
    rfl)

/-- The words of statements go on with the characters with which those of queries do. -/
theorem IsWord.forall_isPart {cs : List Char} (h : IsWord cs) : ∀ c ∈ cs, Word.isPart c = true :=
  fun c hc => Word.isPart_iff.2 (h.2 c hc)

/-- A word names what it spells. -/
def IsName (cs name : List Char) : Prop :=
  IsWord cs ∧ name = cs

/-- **Constants.** A string ends at the next quote, so it has none in it. -/
inductive IsConstant : List Char → Constant → Prop
  | string {body : List Char} : '\'' ∉ body → IsConstant ('\'' :: (body ++ ['\''])) (.string body)
  | number {digits : List Char} : IsDecimal digits → IsConstant digits (.number digits)
  | true : IsConstant ['t', 'r', 'u', 'e'] (.boolean true)
  | false : IsConstant ['f', 'a', 'l', 's', 'e'] (.boolean false)

/-- **Operands.** A list may be empty. -/
inductive IsTerm : List Char → Term → Prop
  | constant {cs : List Char} {a : Constant} : IsConstant cs a → IsTerm cs (.constant a)
  | nil : IsTerm ['(', ')'] (.list [])
  | list {cs : List Char} {as : List Constant} : Joined [',', ' '] IsConstant cs as →
      IsTerm ('(' :: (cs ++ [')'])) (.list as)

/-- **The operators**, and which comparison each of them is. -/
inductive IsOperator : List Char → Comparison → Prop
  | equal : IsOperator ['='] .equal
  | notEqual : IsOperator ['!', '='] .notEqual
  | greater : IsOperator ['>'] .greater
  | less : IsOperator ['<'] .less
  | greaterEqual : IsOperator ['>', '='] .greaterEqual
  | lessEqual : IsOperator ['<', '='] .lessEqual
  | oneOf : IsOperator ['I', 'N'] .oneOf

/-- The word between the parts of a conjunction, with its blanks. -/
def andWord : List Char :=
  [' ', 'A', 'N', 'D', ' ']

/-- The word between the parts of a disjunction, with its blanks. -/
def orWord : List Char :=
  [' ', 'O', 'R', ' ']

/-- **Conditions that stand by themselves.** -/
inductive IsCondition : List Char → Condition → Prop
  | compare {field operator operand : List Char} {c : Comparison} {t : Term} : IsWord field →
      IsOperator operator c → IsTerm operand t →
      IsCondition (field ++ ' ' :: (operator ++ ' ' :: operand)) (.compare field c t)
  | paren {cs : List Char} {alternatives : List (List Condition)} :
      Joined orWord (Joined andWord IsCondition) cs alternatives →
      IsCondition ('(' :: (cs ++ [')'])) (.paren alternatives)

/-- **Disjunctions of conjunctions**, `AND` binding tighter than `OR`. -/
def IsDisjunction : List Char → List (List Condition) → Prop :=
  Joined orWord (Joined andWord IsCondition)

/-- The columns of a statement. -/
inductive IsColumns : List Char → List (List Char) → Prop
  | all : IsColumns ['*'] []
  | names {cs : List Char} {names : List (List Char)} : Joined [',', ' '] IsName cs names →
      IsColumns cs names

/-- What stands behind the table of a statement. -/
inductive IsTail : List Char → Option (List (List Condition)) → Prop
  | nil : IsTail [';'] none
  | condition {cs : List Char} {alternatives : List (List Condition)} :
      IsDisjunction cs alternatives →
      IsTail (" WHERE ".toList ++ (cs ++ [';'])) (some alternatives)

/-- **Statements.** -/
inductive IsSelect : List Char → Select → Prop
  | intro {columns table tail : List Char} {names : List (List Char)}
      {alternatives : Option (List (List Condition))} :
      IsColumns columns names → IsWord table → IsTail tail alternatives →
      IsSelect ("SELECT ".toList ++ (columns ++ (" FROM ".toList ++ (table ++ tail))))
        ⟨names, table, alternatives⟩

/-! ### What determines a rule -/

/-- **A rule is determined by what may follow**, for texts of length at most `n`: two readings that
start at the same place, and are followed by something that `Stop` allows, are the same. -/
def Determined {α : Type} (n : Nat) (Item : List Char → α → Prop) (Stop : List Char → Prop) :
    Prop :=
  ∀ ⦃cs ds r s : List Char⦄ ⦃a b : α⦄, cs.length ≤ n → Item cs a → Item ds b → Stop r → Stop s →
    cs ++ r = ds ++ s → cs = ds ∧ a = b

/-- **A list is determined** if its items are and what follows it does not go on with it. -/
theorem Joined.determined {α : Type} {n : Nat} {Item : List Char → α → Prop}
    {Stop : List Char → Prop} {separator : List Char} (hitem : Determined n Item Stop)
    (hsep : ∀ t, Stop (separator ++ t)) :
    Determined n (Joined separator Item) fun r => Stop r ∧ ¬ separator <+: r := by
  intro cs ds r s as bs hn hc hd ⟨hr, hr'⟩ ⟨hs, hs'⟩ he
  induction hc generalizing ds bs with
  | one ha =>
    -- the text bounded by `n` is the item itself
    cases hd with
    | one hb =>
      obtain ⟨rfl, rfl⟩ := hitem hn ha hb hr hs he
      exact ⟨rfl, rfl⟩
    | cons hb _ =>
      -- the second list goes on where the first ends
      rw [List.append_assoc, List.append_assoc] at he
      obtain ⟨rfl, -⟩ := hitem hn ha hb hr (hsep _) he
      exact absurd ⟨_, (List.append_cancel_left he).symm⟩ hr'
  | @cons cs cs' a as ha _ ih =>
    rw [List.append_assoc, List.append_assoc] at he
    have hcs : cs.length ≤ n := by
      rw [List.length_append] at hn
      omega
    have hcs' : cs'.length ≤ n := by
      rw [List.length_append, List.length_append] at hn
      omega
    cases hd with
    | one hb =>
      -- the first list goes on where the second ends
      obtain ⟨rfl, -⟩ := hitem hcs ha hb (hsep _) hs he
      exact absurd ⟨_, List.append_cancel_left he⟩ hs'
    | cons hb hbs =>
      -- both go on: the items agree, then the separators cancel
      rw [List.append_assoc, List.append_assoc] at he
      obtain ⟨rfl, rfl⟩ := hitem hcs ha hb (hsep _) (hsep _) he
      have hrest := List.append_cancel_left (List.append_cancel_left he)
      obtain ⟨rfl, rfl⟩ := ih hcs' hbs hrest
      exact ⟨rfl, rfl⟩

/-- A list starts like its first item. -/
theorem Joined.ne_cons {α : Type} {Item : List Char → α → Prop} {separator : List Char} {c : Char}
    (hitem : ∀ {cs r t : List Char} {a : α}, Item cs a → cs ++ r ≠ c :: t) {cs r t : List Char}
    {as : List α} (h : Joined separator Item cs as) : cs ++ r ≠ c :: t := by
  cases h with
  | one ha => exact hitem ha
  | cons ha _ =>
    rw [List.append_assoc]
    exact hitem ha

/-- **Runs of a class of characters** end where the class does. -/
theorem eq_of_runs {p : Char → Bool} {cs ds r s : List Char} (hc : ∀ c ∈ cs, p c = true)
    (hd : ∀ c ∈ ds, p c = true) (hr : ∀ c ∈ r.head?, p c = false)
    (hs : ∀ c ∈ s.head?, p c = false) (h : cs ++ r = ds ++ s) : cs = ds := by
  -- a run is what `takeWhile` takes of the text
  have hrun : ∀ {xs ys : List Char}, (∀ c ∈ xs, p c = true) → (∀ c ∈ ys.head?, p c = false) →
      (xs ++ ys).takeWhile p = xs := by
    intro xs ys hx hy
    rw [List.takeWhile_append_of_pos hx]
    cases ys with
    | nil => simp
    | cons y ys => rw [List.takeWhile_cons, hy y rfl, if_neg (by decide), List.append_nil]
  rw [← hrun hc hr, h, hrun hd hs]

/-- A run starts with a character of its class. -/
theorem run_ne_cons {p : Char → Bool} {cs r t : List Char} {c : Char} (hne : cs ≠ [])
    (h : ∀ d ∈ cs, p d = true) (hc : p c = false) : cs ++ r ≠ c :: t := by
  intro he
  obtain ⟨d, ds, rfl⟩ := List.exists_cons_of_ne_nil hne
  -- the text would start with `c`, which is not of the class
  obtain ⟨rfl, -⟩ := List.cons.inj he
  rw [h d List.mem_cons_self] at hc
  cases hc

/-- **Texts up to a mark** that is not in them end where the mark is. -/
theorem eq_of_marked {mark : Char} {cs ds r s : List Char} (hc : mark ∉ cs) (hd : mark ∉ ds)
    (h : cs ++ mark :: r = ds ++ mark :: s) : cs = ds ∧ r = s := by
  -- what is not the mark is a class of characters, and the mark is not in it
  have hrun : ∀ {xs : List Char}, mark ∉ xs → ∀ c ∈ xs, (c != mark) = true := by
    intro xs hx c hmem
    exact bne_iff_ne.2 fun he => hx (he ▸ hmem)
  obtain rfl := eq_of_runs (hrun hc) (hrun hd) (by simp) (by simp) h
  exact ⟨rfl, (List.cons.inj (List.append_cancel_left h)).2⟩

/-- **What may follow a constant, a word or a condition**: nothing, or one of four marks. -/
def Ends (r : List Char) : Prop :=
  ∀ c ∈ r.head?, c = ' ' ∨ c = ',' ∨ c = ')' ∨ c = ';'

theorem ends_cons {c : Char} {r : List Char} :
    Ends (c :: r) ↔ c = ' ' ∨ c = ',' ∨ c = ')' ∨ c = ';' := by
  simp [Ends]

/-- No word goes on into what may follow it. -/
theorem Ends.isPart_eq_false {r : List Char} (h : Ends r) :
    ∀ c ∈ r.head?, Word.isPart c = false := by
  intro c hc
  rcases h c hc with rfl | rfl | rfl | rfl <;> decide +kernel

/-! ### Words -/

/-- **A name is determined**: it is the longest run of the characters of words. -/
theorem IsName.determined (n : Nat) : Determined n IsName Ends := by
  rintro cs ds r s a b - ⟨hc, rfl⟩ ⟨hd, rfl⟩ hr hs he
  have hcd := eq_of_runs hc.forall_isPart hd.forall_isPart hr.isPart_eq_false hs.isPart_eq_false he
  exact ⟨hcd, hcd⟩

/-! ### Constants and operands -/

/-- The characters of plain decimals. -/
def isDecimalChar (c : Char) : Bool :=
  c.isDigit || c == '.' || c == '-'

/-- A decimal consists of digits, a point and a sign. -/
theorem forall_isDecimalChar {cs : List Char} (h : IsDecimal cs) :
    ∀ c ∈ cs, isDecimalChar c = true := by
  have hdigits : ∀ {ds : List Char}, IsDigits ds → ∀ c ∈ ds, isDecimalChar c = true := by
    intro ds hd c hc
    rw [isDecimalChar, hd.2 c hc]
    rfl
  have hsign : ∀ {sign : List Char}, IsSign sign → ∀ c ∈ sign, isDecimalChar c = true := by
    rintro sign (rfl | rfl)
    · simp
    · simp [isDecimalChar]
  intro c hc
  cases h with
  | whole hs hd =>
    rcases List.mem_append.1 hc with hc | hc
    · exact hsign hs c hc
    · exact hdigits hd c hc
  | fraction hs hd he =>
    rw [List.mem_append, List.mem_append, List.mem_cons] at hc
    rcases hc with hc | hc | rfl | hc
    · exact hsign hs c hc
    · exact hdigits hd c hc
    · decide
    · exact hdigits he c hc

theorem ne_nil_of_isDecimal {cs : List Char} (h : IsDecimal cs) : cs ≠ [] := by
  cases h with
  | whole _ hd => exact List.append_ne_nil_of_right_ne_nil _ hd.1
  | fraction _ hd he => simp

theorem Ends.isDecimalChar_eq_false {r : List Char} (h : Ends r) :
    ∀ c ∈ r.head?, isDecimalChar c = false := by
  intro c hc
  rcases h c hc with rfl | rfl | rfl | rfl <;> decide

theorem ne_cons_of_isDecimal {cs r t : List Char} {c : Char} (h : IsDecimal cs)
    (hc : isDecimalChar c = false) : cs ++ r ≠ c :: t :=
  run_ne_cons (ne_nil_of_isDecimal h) (forall_isDecimalChar h) hc

/-- **A constant is determined.** Its first character says what kind of constant it is. -/
theorem IsConstant.determined (n : Nat) : Determined n IsConstant Ends := by
  intro cs ds r s a b _ ha hb hr hs he
  cases ha with
  | string hbody =>
    cases hb with
    | string hbody' =>
      -- both end at the first quote
      simp only [List.cons_append, List.append_assoc, List.cons.injEq, true_and] at he
      obtain ⟨rfl, -⟩ := eq_of_marked hbody hbody' he
      exact ⟨rfl, rfl⟩
    | number hd => exact absurd he.symm (ne_cons_of_isDecimal hd (by decide))
    | true | false => simp at he
  | number hd =>
    cases hb with
    | number hd' =>
      -- both are the longest run of characters of decimals
      have hcd := eq_of_runs (forall_isDecimalChar hd) (forall_isDecimalChar hd')
        hr.isDecimalChar_eq_false hs.isDecimalChar_eq_false he
      exact ⟨hcd, by rw [hcd]⟩
    | string _ | true | false => exact absurd he (ne_cons_of_isDecimal hd (by decide))
  | true =>
    cases hb with
    | number hd => exact absurd he.symm (ne_cons_of_isDecimal hd (by decide))
    | true => exact ⟨rfl, rfl⟩
    | string _ | false => simp at he
  | false =>
    cases hb with
    | number hd => exact absurd he.symm (ne_cons_of_isDecimal hd (by decide))
    | false => exact ⟨rfl, rfl⟩
    | string _ | true => simp at he

/-- A text that starts with a parenthesis does not start with a constant. -/
theorem IsConstant.ne_cons {cs r t : List Char} {a : Constant} {c : Char} (h : IsConstant cs a)
    (hc : c = '(' ∨ c = ')') : cs ++ r ≠ c :: t := by
  cases h with
  | number hd =>
    refine ne_cons_of_isDecimal hd ?_
    rcases hc with rfl | rfl <;> decide
  | string _ | true | false => rcases hc with rfl | rfl <;> simp

/-- **An operand is determined.** Constants start otherwise than lists, and a list with constants
starts otherwise than an empty one. -/
theorem IsTerm.determined (n : Nat) : Determined n IsTerm Ends := by
  have hlist : ∀ {cs r t : List Char} {as : List Constant}, Joined [',', ' '] IsConstant cs as →
      cs ++ r ≠ ')' :: t :=
    Joined.ne_cons fun ha => ha.ne_cons (Or.inr rfl)
  -- a closing parenthesis is no separator, and it may follow a constant
  have hstop : ∀ t, Ends (')' :: t) ∧ ¬ [',', ' '] <+: ')' :: t := by
    intro t
    exact ⟨ends_cons.2 (by simp), by simp⟩
  intro cs ds r s a b hn ha hb hr hs he
  cases ha with
  | constant ha =>
    cases hb with
    | constant hb =>
      obtain ⟨rfl, rfl⟩ := IsConstant.determined n hn ha hb hr hs he
      exact ⟨rfl, rfl⟩
    -- a constant does not start with a parenthesis
    | nil | list _ => exact absurd he (ha.ne_cons (Or.inl rfl))
  | nil =>
    cases hb with
    | constant hb => exact absurd he.symm (hb.ne_cons (Or.inl rfl))
    | nil => exact ⟨rfl, rfl⟩
    | list hbs =>
      simp only [List.cons_append, List.append_assoc, List.cons.injEq, true_and] at he
      exact absurd he.symm (hlist hbs)
  | list has =>
    cases hb with
    | constant hb => exact absurd he.symm (hb.ne_cons (Or.inl rfl))
    | nil =>
      simp only [List.cons_append, List.append_assoc, List.cons.injEq, true_and] at he
      exact absurd he (hlist has)
    | list hbs =>
      simp only [List.cons_append, List.append_assoc, List.cons.injEq, true_and] at he
      obtain ⟨rfl, rfl⟩ := Joined.determined (IsConstant.determined _)
        (fun t => ends_cons.2 (by simp)) (Nat.le_refl _) has hbs (hstop _) (hstop _) he
      exact ⟨rfl, rfl⟩

/-! ### Conditions -/

/-- An operator ends at the next blank. -/
theorem IsOperator.blank_notMem {cs : List Char} {c : Comparison} (h : IsOperator cs c) :
    ' ' ∉ cs := by
  cases h <;> decide

/-- **An operator is one comparison only.** -/
theorem IsOperator.unique {cs : List Char} {c d : Comparison} (hc : IsOperator cs c)
    (hd : IsOperator cs d) : c = d := by
  cases hc <;> cases hd <;> rfl

/-- What may follow a conjunction: no further `AND`. -/
def EndsConjunction (r : List Char) : Prop :=
  Ends r ∧ ¬ andWord <+: r

/-- What may follow a disjunction: no further `AND` or `OR`. -/
def EndsDisjunction (r : List Char) : Prop :=
  EndsConjunction r ∧ ¬ orWord <+: r

/-- A disjunction may stand before a closing parenthesis and at the end of a statement. -/
theorem endsDisjunction_cons {c : Char} (hc : c = ')' ∨ c = ';') (t : List Char) :
    EndsDisjunction (c :: t) := by
  -- both words start with a blank
  have hblank : ∀ word : List Char, ¬ ' ' :: word <+: c :: t := by
    intro word h
    obtain ⟨rfl, -⟩ := List.cons_prefix_cons.1 h
    rcases hc with hc | hc <;> cases hc
  refine ⟨⟨ends_cons.2 ?_, hblank _⟩, hblank _⟩
  rcases hc with rfl | rfl <;> simp

/-- **A disjunction is determined** if the conditions in it are. -/
theorem IsDisjunction.determined_of {n : Nat} (h : Determined n IsCondition Ends) :
    Determined n IsDisjunction EndsDisjunction := by
  -- both separators start with a blank, and the next character tells them apart
  have hall : ∀ t, Ends (andWord ++ t) := fun t => ends_cons.2 (Or.inl rfl)
  have hany : ∀ t, EndsConjunction (orWord ++ t) := by
    intro t
    refine ⟨ends_cons.2 (Or.inl rfl), fun hp => ?_⟩
    obtain ⟨-, hp⟩ := List.cons_prefix_cons.1 hp
    obtain ⟨hc, -⟩ := List.cons_prefix_cons.1 hp
    exact absurd hc (by decide)
  exact Joined.determined (Joined.determined h hall) hany

/-- **A condition is determined.** Inside parentheses the texts are shorter. -/
theorem IsCondition.determined (n : Nat) : Determined n IsCondition Ends := by
  have hparen : ∀ {field r t : List Char}, IsWord field → field ++ r ≠ '(' :: t :=
    fun hf => run_ne_cons hf.1 hf.forall_isPart (by decide +kernel)
  induction n using Nat.strongRecOn with
  | ind n ih =>
    intro cs ds r s a b hn ha hb hr hs he
    cases ha with
    | compare hf hop ht =>
      cases hb with
      | compare hf' hop' ht' =>
        -- the field ends at the first blank, the operator at the next, and the rest is the operand
        simp only [List.append_assoc, List.cons_append] at he
        have hfield := eq_of_runs hf.forall_isPart hf'.forall_isPart
          (Ends.isPart_eq_false (ends_cons.2 (Or.inl rfl)))
          (Ends.isPart_eq_false (ends_cons.2 (Or.inl rfl))) he
        subst hfield
        have hrest := (List.cons.inj (List.append_cancel_left he)).2
        obtain ⟨rfl, hoperand⟩ := eq_of_marked hop.blank_notMem hop'.blank_notMem hrest
        obtain rfl := hop.unique hop'
        obtain ⟨rfl, rfl⟩ := IsTerm.determined _ (Nat.le_refl _) ht ht' hr hs hoperand
        exact ⟨rfl, rfl⟩
      | paren _ =>
        rw [List.append_assoc] at he
        exact absurd he (hparen hf)
    | @paren cs alternatives hp =>
      cases hb with
      | compare hf _ _ =>
        rw [List.append_assoc] at he
        exact absurd he.symm (hparen hf)
      | paren hp' =>
        simp only [List.cons_append, List.append_assoc, List.cons.injEq, true_and] at he
        -- the parentheses count, so what is between them is shorter than `n`
        have hlt : cs.length < n := by
          rw [List.length_cons, List.length_append] at hn
          omega
        obtain ⟨rfl, rfl⟩ := IsDisjunction.determined_of (ih _ hlt) (Nat.le_refl _) hp hp'
          (endsDisjunction_cons (Or.inl rfl) _) (endsDisjunction_cons (Or.inl rfl) _) he
        exact ⟨rfl, rfl⟩

/-! ### Statements -/

/-- **Columns are determined.** A star is no word. -/
theorem IsColumns.determined (n : Nat) :
    Determined n IsColumns fun r => Ends r ∧ ¬ [',', ' '] <+: r := by
  have hnames : Determined n (Joined [',', ' '] IsName) fun r => Ends r ∧ ¬ [',', ' '] <+: r :=
    Joined.determined (IsName.determined n) fun t => ends_cons.2 (by simp)
  -- the first of several names is a word
  have hstar : ∀ {cs r t : List Char} {names : List (List Char)},
      Joined [',', ' '] IsName cs names → cs ++ r ≠ '*' :: t :=
    Joined.ne_cons fun ha => run_ne_cons ha.1.1 ha.1.forall_isPart (by decide +kernel)
  intro cs ds r s a b hn ha hb hr hs he
  cases ha with
  | all =>
    cases hb with
    | all => exact ⟨rfl, rfl⟩
    | names hb => exact absurd he.symm (hstar hb)
  | names ha =>
    cases hb with
    | all => exact absurd he (hstar ha)
    | names hb => exact hnames hn ha hb hr hs he

/-- What stands behind the table does not go on with its name. -/
theorem IsTail.ends {cs : List Char} {a : Option (List (List Condition))} (h : IsTail cs a) :
    Ends cs := by
  cases h with
  | nil => exact ends_cons.2 (by simp)
  | condition _ => exact ends_cons.2 (Or.inl rfl)

/-- **What stands behind the table has one reading.** -/
theorem IsTail.unique {cs : List Char} {a b : Option (List (List Condition))}
    (ha : IsTail cs a) (hb : IsTail cs b) : a = b := by
  generalize hds : cs = ds at hb
  -- `;` and ` WHERE ` differ in their first character
  cases ha with
  | nil =>
    cases hb with
    | nil => rfl
    | condition _ => cases hds
  | condition ha =>
    cases hb with
    | nil => cases hds
    | condition hb =>
      have he := List.append_cancel_left hds
      -- nothing stands behind the semicolon, and that is the end of a disjunction
      have hend := endsDisjunction_cons (Or.inr rfl) []
      obtain ⟨-, rfl⟩ := IsDisjunction.determined_of (IsCondition.determined _) (Nat.le_refl _)
        ha hb hend hend he
      rfl

/-- **A text has at most one reading as a statement.** -/
theorem IsSelect.unique {cs : List Char} {a b : Select} (ha : IsSelect cs a)
    (hb : IsSelect cs b) : a = b := by
  generalize hds : cs = ds at hb
  obtain ⟨hcols, htable, htail⟩ := ha
  obtain ⟨hcols', htable', htail'⟩ := hb
  -- the word behind the columns starts with a blank, and a further column with a comma
  have hfrom : ∀ t, Ends (" FROM ".toList ++ t) ∧ ¬ [',', ' '] <+: " FROM ".toList ++ t := by
    intro t
    refine ⟨ends_cons.2 (Or.inl rfl), fun hp => ?_⟩
    obtain ⟨hc, -⟩ := List.cons_prefix_cons.1 hp
    exact absurd hc (by decide)
  -- part by part: the columns, the table, and what stands behind it
  have he := List.append_cancel_left hds
  obtain ⟨rfl, rfl⟩ := IsColumns.determined _ (Nat.le_refl _) hcols hcols' (hfrom _) (hfrom _) he
  have he' := List.append_cancel_left (List.append_cancel_left he)
  have ht := eq_of_runs htable.forall_isPart htable'.forall_isPart htail.ends.isPart_eq_false
    htail'.ends.isPart_eq_false he'
  subst ht
  obtain rfl := List.append_cancel_left he'
  rw [htail.unique htail']

end FindToSelect.Sql
