import FindToSelect.Text.Bytes

/-!
# Texts cut at bytes

A place in a text is a number of bytes, and only some places lie between two characters. Cutting a
text is therefore partial:

* `sliceBytes?` is the text between two places, and `insertBytes?` puts a text in at a place; both
  give nothing if a place lies inside a character or behind the end;
* `sliceBytes?_append`, `insertBytes?_append` — at the ends of the parts of a text both succeed.
-/

namespace FindToSelect

@[simp] theorem byteLength_append (xs ys : List Char) :
    byteLength (xs ++ ys) = byteLength xs + byteLength ys := by
  induction xs with
  | nil => simp [byteLength]
  | cons c xs ih =>
    rw [List.cons_append, byteLength, byteLength, ih]
    omega

/-- **The text from the byte `start` to the byte `stop`**, if both are ends of characters of the
text. -/
def sliceBytes? (start stop : Nat) (cs : List Char) : Option (List Char) :=
  if start ≤ stop then
    (dropBytes? start cs).bind fun tail =>
      (dropBytes? (stop - start) tail).map fun behind => tail.take (tail.length - behind.length)
  else none

/-- Behind the first part of a text the second one is left. -/
theorem dropBytes?_append (xs ys : List Char) :
    dropBytes? (byteLength xs) (xs ++ ys) = some ys := by
  induction xs with
  | nil => cases ys <;> rfl
  | cons c xs ih =>
    -- a character has at least one byte, so the place is not yet reached at it
    have hpos : byteLength (c :: xs) ≠ 0 := by
      have hc := c.utf8Size_pos
      rw [byteLength]
      omega
    rw [List.cons_append, dropBytes?, if_neg hpos, byteLength, if_pos (Nat.le_add_right _ _),
      Nat.add_sub_cancel_left, ih]

/-- A part of a text is the slice between its ends. -/
theorem sliceBytes?_append (xs ys zs : List Char) :
    sliceBytes? (byteLength xs) (byteLength (xs ++ ys)) (xs ++ (ys ++ zs)) = some ys := by
  -- between the two places lie as many bytes as the part has
  have hlen : byteLength (xs ++ ys) - byteLength xs = byteLength ys := by
    rw [byteLength_append, Nat.add_sub_cancel_left]
  have hle : byteLength xs ≤ byteLength (xs ++ ys) := by
    rw [byteLength_append]
    exact Nat.le_add_right _ _
  rw [sliceBytes?, if_pos hle, dropBytes?_append, Option.bind_some, hlen, dropBytes?_append,
    Option.map_some, List.length_append, Nat.add_sub_cancel, List.take_left]

/-- **Puts the text `w` in at the byte `place`**, if a character of the text ends there. -/
def insertBytes? (place : Nat) (w cs : List Char) : Option (List Char) :=
  (dropBytes? place cs).map fun behind => cs.take (cs.length - behind.length) ++ (w ++ behind)

/-- Between two parts of a text another text can be put in. -/
theorem insertBytes?_append (xs w ys : List Char) :
    insertBytes? (byteLength xs) w (xs ++ ys) = some (xs ++ (w ++ ys)) := by
  -- what stands before the place is the text less what is behind it
  rw [insertBytes?, dropBytes?_append, Option.map_some, List.length_append, Nat.add_sub_cancel,
    List.take_left]

end FindToSelect
