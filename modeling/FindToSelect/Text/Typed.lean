import FindToSelect.Text.Bytes
import FindToSelect.Text.Cluster

/-!
# Lines as they were typed

A line of a session may hold backspaces. Each takes back the grapheme cluster before it, as if the
line had been typed at a terminal, and a backspace with nothing before it does nothing.

A line keeps the length of each cluster in one byte. So of a cluster of 256 bytes or more a
backspace takes back only the rest of its length by 256, and a line in which that rest begins inside
a character cannot be read: `typed?` gives `none`.
-/

namespace FindToSelect.Text

/-- The backspace. -/
def backspace : Char := '\x08'

/-- **A line while it is typed**: its characters, last one first, and the lengths of its clusters,
last one first, each in one byte. -/
structure TypedLine where
  kept : List Char
  lengths : List Nat
deriving DecidableEq

namespace TypedLine

/-- **One more cluster.** A backspace takes back the cluster before it. -/
def type? (line : TypedLine) (cluster : List Char) : Option TypedLine :=
  if cluster = [backspace] then
    match line.lengths with
    | [] => some line
    | n :: rest => (dropBytes? n line.kept).map fun kept => ⟨kept, rest⟩
  else some ⟨cluster.reverse ++ line.kept, byteLength cluster % 256 :: line.lengths⟩

/-- Several more clusters. -/
def typeAll? (line : TypedLine) : List (List Char) → Option TypedLine
  | [] => some line
  | cluster :: rest => (line.type? cluster).bind fun next => next.typeAll? rest

/-- Without a backspace, everything that is typed is kept. -/
theorem kept_typeAll? (line : TypedLine) {cs : List (List Char)} (h : ∀ c ∈ cs, c ≠ [backspace]) :
    (line.typeAll? cs).map TypedLine.kept = some (cs.flatten.reverse ++ line.kept) := by
  induction cs generalizing line with
  | nil => simp [typeAll?]
  | cons c cs ih =>
    have hc : c ≠ [backspace] := h c (List.mem_cons_self ..)
    have hr : ∀ d ∈ cs, d ≠ [backspace] := fun d hd => h d (List.mem_cons_of_mem _ hd)
    simp [typeAll?, type?, hc, ih _ hr]

end TypedLine

/-- **The line that was meant**, its backspaces carried out. -/
def typed? (cs : List Char) : Option (List Char) :=
  (TypedLine.typeAll? ⟨[], []⟩ (clusters cs)).map fun line => line.kept.reverse

/-- **A line without backspaces is meant as it stands.** -/
theorem typed?_of_not_mem {cs : List Char} (h : backspace ∉ cs) : typed? cs = some cs := by
  have hc : ∀ c ∈ clusters cs, c ≠ [backspace] := by
    rintro c hm rfl
    refine h ?_
    rw [← flatten_clusters cs]
    exact List.mem_flatten.2 ⟨_, hm, List.mem_singleton.2 rfl⟩
  have hk := TypedLine.kept_typeAll? ⟨[], []⟩ hc
  rw [flatten_clusters] at hk
  obtain ⟨line, hl, hr⟩ := Option.map_eq_some_iff.1 hk
  simp [typed?, hl, hr]

end FindToSelect.Text
