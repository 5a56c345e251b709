import FindToSelect.Token.Lexer

/-!
# How far a token reaches

Every scanner says how many characters it takes. They are there, and they are characters of a class
that is easy to name: behind the first character of a token that is no string literal stand only
characters of numerals (`Numeral.isPart`), which are the parts of words, the point and the signs.

* `Takes p n cs` — the first `n` characters are there and belong to the class `p`; a scanner that
  reads one part behind another is measured by `Takes.add`;
* `Numeral.scan_takes`, `Token.scan_takes` — what numerals and tokens take;
* `Token.scan_taken_le` — every token, string literals and `illegal` ones included, ends within its
  text.
-/

namespace FindToSelect

/-! ### Classes of characters -/

/-- What is true of ASCII characters can be checked one by one. -/
@[elab_as_elim]
theorem of_ascii {motive : Char → Prop} (c : Char) (hc : c.toNat < 128)
    (h : ∀ n < 128, motive (Char.ofNat n)) : motive c := by
  have hp := h c.toNat hc
  rwa [Char.ofNat_toNat] at hp

namespace Word

theorem isPart_of_isDigit {c : Char} (h : c.isDigit = true) : isPart c = true := by
  have hn : Text.isNumeric c = true :=
    CharSet.mem_iff_exists.2
      ⟨(0x30, 0x39), by decide +kernel, Char.isDigit_iff_toNat.1 h⟩
  simp [isPart, hn]

theorem isPart_of_isHexDigit {c : Char} (h : Text.isHexDigit c = true) : isPart c = true := by
  unfold Text.isHexDigit Text.hexDigit? at h
  split at h
  · next hd => exact isPart_of_isDigit (Char.isDigit_iff_toNat.2 hd)
  · split at h
    · next hd =>
      have ha : Text.isAlphabetic c = true :=
        Text.isAlphabetic_of_ascii (Or.inr ⟨hd.1, Nat.le_trans hd.2 (by decide)⟩)
      simp [isPart, ha]
    · split at h
      · next hd =>
        have ha : Text.isAlphabetic c = true :=
          Text.isAlphabetic_of_ascii (Or.inl ⟨hd.1, Nat.le_trans hd.2 (by decide)⟩)
        simp [isPart, ha]
      · exact absurd h (by simp)

end Word

theorem length_takeWhile_le (p : Char → Bool) (cs : List Char) :
    (cs.takeWhile p).length ≤ cs.length :=
  (List.takeWhile_prefix p).length_le

/-! ### Runs of characters -/

/-- **The first `n` characters are there and belong to a class.** -/
def Takes (p : Char → Bool) (n : Nat) (cs : List Char) : Prop :=
  n ≤ cs.length ∧ ∀ d ∈ cs.take n, p d = true

namespace Takes

variable {p : Char → Bool} {cs : List Char}

theorem zero (p : Char → Bool) (cs : List Char) : Takes p 0 cs :=
  ⟨Nat.zero_le _, by simp⟩

/-- One character more of the class. -/
theorem cons {c : Char} {n : Nat} (hc : p c = true) (h : Takes p n cs) :
    Takes p (n + 1) (c :: cs) := by
  refine ⟨Nat.succ_le_succ h.1, fun d hd => ?_⟩
  rw [List.take_succ_cons, List.mem_cons] at hd
  rcases hd with rfl | hd
  · exact hc
  · exact h.2 d hd

/-- **One run behind another.** -/
theorem add {m n : Nat} (h : Takes p m cs) (h' : Takes p n (cs.drop m)) : Takes p (m + n) cs := by
  refine ⟨?_, fun d hd => ?_⟩
  · have hl := h'.1
    have hm := h.1
    rw [List.length_drop] at hl
    omega
  · rw [List.take_add, List.mem_append] at hd
    exact hd.elim (h.2 d) (h'.2 d)

theorem takeWhile {q : Char → Bool} (hq : ∀ d, q d = true → p d = true) (cs : List Char) :
    Takes p (cs.takeWhile q).length cs := by
  refine ⟨length_takeWhile_le q cs, fun d hd => hq d ?_⟩
  rw [← List.prefix_iff_eq_take.1 (List.takeWhile_prefix q)] at hd
  exact List.all_eq_true.1 List.all_takeWhile d hd

end Takes

/-! ### Numerals and words -/

namespace Numeral

/-- The characters of numerals: parts of words, the point and the signs. -/
def isPart (d : Char) : Bool :=
  Word.isPart d || d == '.' || d == '+' || d == '-'

theorem isPart_of_word {d : Char} (h : Word.isPart d = true) : isPart d = true := by
  simp [isPart, h]

theorem isPart_of_isDigit {d : Char} (h : d.isDigit = true) : isPart d = true :=
  isPart_of_word (Word.isPart_of_isDigit h)

/-- The characters that an exponent takes. -/
def Exponent.taken : Exponent → Nat
  | .absent => 0
  | .broken n => n
  | .power _ n => n

/-- A sign at the start of a text, if there is one. -/
theorem sign_takes (cs : List Char) :
    Takes isPart (if cs.head? = some '+' ∨ cs.head? = some '-' then 1 else 0) cs := by
  split
  · next h =>
    cases cs with
    | nil => exact absurd h (by simp)
    | cons c cs =>
      have hc : isPart c = true := by
        simp only [List.head?_cons, Option.some.injEq] at h
        rcases h with rfl | rfl <;> decide +kernel
      exact (Takes.zero _ cs).cons hc
  · exact .zero _ _

theorem digits_takes (cs : List Char) : Takes isPart (digits cs).length cs :=
  .takeWhile (fun _ => isPart_of_isDigit) cs

/-- An exponent, also one that is broken off: its mark, a sign and digits. -/
theorem exponentOf_takes (cs : List Char) : Takes isPart (exponentOf cs).taken cs := by
  cases cs with
  | nil => exact .zero _ _
  | cons c cs =>
    by_cases hc : c = 'e' ∨ c = 'E'
    · have hp : isPart c = true := by rcases hc with rfl | rfl <;> decide +kernel
      have hs := sign_takes cs
      simp only [exponentOf, hc, if_true]
      -- `k` is the length of the sign, which the digits stand behind
      generalize (if cs.head? = some '+' ∨ cs.head? = some '-' then 1 else 0) = k at hs ⊢
      split
      · exact hs.cons hp
      · have hd := hs.add (digits_takes _)
        rw [Nat.add_comm] at hd
        exact hd.cons hp
    · simpa [exponentOf, hc, Exponent.taken] using Takes.zero isPart (c :: cs)

/-- A fraction: the point and its digits. -/
theorem fraction_takes {cs ds : List Char} (h : fraction? cs = some ds) :
    Takes isPart (ds.length + 1) cs := by
  cases cs with
  | nil => exact absurd h (by simp [fraction?])
  | cons c cs =>
    by_cases hc : c = '.'
    · simp only [fraction?, hc, if_true, Option.some.injEq] at h
      rw [← h, hc]
      exact (digits_takes cs).cons (by decide +kernel)
    · exact absurd h (by simp [fraction?, hc])

/-- **What a decimal numeral takes**, whether it is whole or not. -/
theorem shape_takes (cs : List Char) : Takes isPart (shape cs).2 cs := by
  -- behind the digits and the fraction, `k` characters in all, stands the exponent
  have hexp : ∀ k, Takes isPart k cs → Takes isPart (k + (exponentOf (cs.drop k)).taken) cs :=
    fun k hk => hk.add (exponentOf_takes _)
  have hw := digits_takes cs
  simp only [shape]
  -- without a digit before or behind the point there is no exponent to read
  cases hfr : fraction? (cs.drop (digits cs).length) with
  | none =>
    have he := hexp _ hw
    split
    · exact hw
    · simp only [Nat.add_zero]
      cases hx : exponentOf (cs.drop (digits cs).length) <;> rw [hx] at he <;> exact he
  | some ds =>
    have hf := hw.add (fraction_takes hfr)
    have he := hexp _ hf
    split
    · exact hf
    · simp only
      cases hx : exponentOf (cs.drop ((digits cs).length + (ds.length + 1))) <;>
        rw [hx] at he <;> exact he

theorem scan_takes (negative : Bool) (cs : List Char) :
    Takes isPart (scan negative cs).taken cs := by
  unfold scan
  split
  · next hm =>
    -- the mark is two characters, and the digits stand behind them
    match cs, hm with
    | c :: d :: cs, hm =>
      have hcd : isPart c = true ∧ isPart d = true := by
        simp only [isHexMarked, Bool.and_eq_true, Bool.or_eq_true, beq_iff_eq] at hm
        obtain ⟨rfl, rfl | rfl⟩ := hm <;> decide +kernel
      have hd : Takes isPart (scanHex negative cs).taken cs := by
        have ht : Takes isPart (cs.takeWhile Text.isHexDigit).length cs :=
          .takeWhile (fun _ h => isPart_of_word (Word.isPart_of_isHexDigit h)) cs
        simp only [scanHex]
        split
        · exact .zero _ _
        · split <;> exact ht
      exact (hd.cons hcd.2).cons hcd.1
  · have hs := shape_takes cs
    unfold scanDecimal
    split <;> next he => rw [he] at hs; exact hs

end Numeral

namespace Token

/-- What a token takes behind its sign, which may be nothing. -/
theorem scanSigned_takes (negative : Bool) (cs : List Char) :
    Takes Numeral.isPart (scanSigned negative cs).taken cs := by
  unfold scanSigned
  split
  · exact .zero _ _
  · split
    · exact Numeral.scan_takes negative cs
    · split
      · exact .takeWhile (fun _ => Numeral.isPart_of_word) cs
      · exact .zero _ _

/-- **What a token takes behind its first character**, unless it is a string literal. -/
theorem scan_takes {c : Char} (hq : ¬ (c = '"' ∨ c = '\'')) (cs : List Char) :
    Takes Numeral.isPart (scan c cs).taken cs := by
  unfold scan
  split
  · exact .zero _ _
  · rw [if_neg hq]
    split
    · exact scanSigned_takes _ cs
    · split
      · -- the numeral is read with its first character, which is then not counted
        have ht := Numeral.scan_takes false (c :: cs)
        cases hn : (Numeral.scan false (c :: cs)).taken with
        | zero => simpa [hn] using Takes.zero Numeral.isPart cs
        | succ n =>
          rw [hn] at ht
          simp only [hn, Nat.add_sub_cancel]
          exact ⟨Nat.le_of_succ_le_succ ht.1, fun d hd => ht.2 d (by simp [hd])⟩
      · split
        · exact .takeWhile (fun _ => Numeral.isPart_of_word) cs
        · exact .zero _ _

end Token

/-! ### String literals -/

namespace Text

/-- The digits that are read are there. -/
theorem le_length_of_hex? {n v : Nat} {cs : List Char} (h : hex? n cs = some v) :
    n ≤ cs.length := by
  simp only [hex?] at h
  split at h
  · next hd =>
    have hl := hd.1
    rw [List.length_take] at hl
    omega
  · exact absurd h (by simp)

end Text

namespace StringLiteral

/-- An escape ends within its text, also one that is broken off. -/
theorem escape_taken_le (cs : List Char) : (escape cs).2 ≤ cs.length := by
  cases cs with
  | nil => simp [escape]
  | cons c cs =>
    -- two digits behind `x`, four behind `u`, one or two characters for a line end, and one for any
    -- other escape
    simp only [escape]
    split
    · cases hv : Text.hex? 2 cs with
      | none => simp
      | some v => exact Nat.succ_le_succ (Text.le_length_of_hex? hv)
    split
    · cases hv : Text.hex? 4 cs with
      | none => simp
      | some v => exact Nat.succ_le_succ (Text.le_length_of_hex? hv)
    split
    · cases cs with
      | nil => simp
      | cons d cs => by_cases hd : d = '\n' <;> simp [hd]
    · split <;> simp

/-- **A body ends within its text**, whether a quote closes it or not. -/
theorem body_taken_le (quote : Char) (cs : List Char) : (body quote cs).2 ≤ cs.length := by
  fun_induction body quote cs with
  | case1 => exact Nat.le_refl _
  | case2 cs => simp
  | case3 cs => simp
  -- a broken escape, a good one, and any other character
  | case4 cs n he =>
    have hn := escape_taken_le cs
    rw [he] at hn
    exact Nat.succ_le_succ hn
  | case5 cs item n he rest =>
    rename_i ih
    have hn := escape_taken_le cs
    rw [he] at hn
    rw [List.length_drop] at ih
    simp only [List.length_cons, rest] at hn ⊢
    omega
  | case6 =>
    rename_i ih
    exact Nat.succ_le_succ ih

theorem scan_taken_le (quote : Char) (cs : List Char) : (scan quote cs).taken ≤ cs.length := by
  have hb := body_taken_le quote cs
  unfold scan
  split <;> next he => rw [he] at hb; exact hb

end StringLiteral

namespace Token

/-- **A token ends within its text.** -/
theorem scan_taken_le (c : Char) (cs : List Char) : (scan c cs).taken ≤ cs.length := by
  by_cases hq : c = '"' ∨ c = '\''
  · have hp : TokenKind.ofPunctuation? c = none := by rcases hq with rfl | rfl <;> rfl
    simp only [scan, hp, if_pos hq]
    exact StringLiteral.scan_taken_le c cs
  · exact (scan_takes hq cs).1

end Token

end FindToSelect
