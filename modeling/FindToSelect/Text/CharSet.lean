/-!
# Sets of characters given by runs of code points

The character classes of the query language are properties of the Unicode standard, and each is a
table of runs: pairs `(first, last)` of code points, ends included, in increasing order. This file
gives membership in such a table:

* `CharSet.mem` walks the runs and stops at the first one that starts after the character, so
  an ASCII character is settled within the first few runs;
* `CharSet.OrderedFrom` says that runs are increasing and do not overlap. A table carries the proof
  of it, which is what makes stopping early right (`CharSet.mem_iff_exists`).
-/

namespace FindToSelect

/-- **Increasing runs**: each run starts no later than it ends and no earlier than `low`, and the
next one starts after its end. -/
def CharSet.OrderedFrom (low : Nat) : List (Nat × Nat) → Bool
  | [] => true
  | (lo, hi) :: rest => low ≤ lo && lo ≤ hi && OrderedFrom (hi + 1) rest

/-- **A set of characters**, as the increasing list of its runs of code points, ends included. -/
structure CharSet where
  runs : List (Nat × Nat)
  ordered : CharSet.OrderedFrom 0 runs = true := by decide +kernel

namespace CharSet

/-- Whether the code point `n` lies in one of the increasing `runs`. -/
def inRuns (n : Nat) : List (Nat × Nat) → Bool
  | [] => false
  | (lo, hi) :: rest => if n < lo then false else if n ≤ hi then true else inRuns n rest

/-- Whether the character `c` belongs to the set. -/
def mem (s : CharSet) (c : Char) : Bool :=
  inRuns c.toNat s.runs

/-- Behind the end of a run nothing that starts later can hold a smaller code point. -/
theorem OrderedFrom.le_of_mem {low : Nat} {runs : List (Nat × Nat)}
    (h : OrderedFrom low runs = true) {r : Nat × Nat} (hr : r ∈ runs) : low ≤ r.1 := by
  induction runs generalizing low with
  | nil => simp at hr
  | cons q rest ih =>
    obtain ⟨lo, hi⟩ := q
    simp only [OrderedFrom, Bool.and_eq_true, decide_eq_true_eq] at h
    rcases List.mem_cons.1 hr with rfl | hr
    · exact h.1.1
    · have := ih h.2 hr
      omega

/-- On increasing runs, stopping early loses nothing. -/
theorem inRuns_iff_exists {n low : Nat} {runs : List (Nat × Nat)}
    (h : OrderedFrom low runs = true) : inRuns n runs = true ↔ ∃ r ∈ runs, r.1 ≤ n ∧ n ≤ r.2 := by
  induction runs generalizing low with
  | nil => simp [inRuns]
  | cons q rest ih =>
    obtain ⟨lo, hi⟩ := q
    have ho := h
    simp only [OrderedFrom, Bool.and_eq_true, decide_eq_true_eq] at h
    by_cases h1 : n < lo
    · simp only [inRuns, h1, if_true, Bool.false_eq_true, false_iff]
      rintro ⟨r, hr, hle, -⟩
      rcases List.mem_cons.1 hr with rfl | hr
      · simp only at hle
        omega
      · have := OrderedFrom.le_of_mem h.2 hr
        omega
    · by_cases h2 : n ≤ hi
      · simp only [inRuns, h1, h2, if_true, if_false, true_iff]
        exact ⟨(lo, hi), by simp, by simp; omega⟩
      · simp only [inRuns, h1, h2, if_false, ih h.2]
        constructor
        · rintro ⟨r, hr, hb⟩
          exact ⟨r, List.mem_cons_of_mem _ hr, hb⟩
        · rintro ⟨r, hr, hb⟩
          rcases List.mem_cons.1 hr with rfl | hr
          · exact absurd hb.2 h2
          · exact ⟨r, hr, hb⟩

/-- **Membership is membership in some run.** -/
theorem mem_iff_exists {s : CharSet} {c : Char} :
    s.mem c = true ↔ ∃ r ∈ s.runs, r.1 ≤ c.toNat ∧ c.toNat ≤ r.2 :=
  inRuns_iff_exists s.ordered

end CharSet

end FindToSelect
