import OverclockBuilder.BytePacking

namespace ByteMemory

open BytePacking

/-!
# Bytes in place

A buffer of fixed length under `memcpy` and `memmove`.  Writing changes the
bytes of its target and no others, and moving a piece opens or closes a gap in
front of it.
-/

/-- `memcpy` of some content to an offset of a buffer -/
def overwrite (offset : Nat) (content buffer : Bytes) : Bytes :=
  buffer.take offset ++ (content ++ buffer.drop (offset + content.length))

/-- `memmove` inside a buffer -/
def memmove (target source count : Nat) (buffer : Bytes) : Bytes :=
  overwrite target (slice source count buffer) buffer

/-- Writing inside a buffer keeps its length. -/
theorem length_overwrite
    {offset : Nat}
    {content buffer : Bytes}
    (inside : offset + content.length ≤ buffer.length) :
    (overwrite offset content buffer).length = buffer.length := by
  simp only [overwrite, List.length_append, List.length_take,
    List.length_drop]
  omega

/-- A piece of a buffer is replaced by one of its length. -/
theorem overwrite_append
    {front old : Bytes}
    {offset : Nat}
    (atOffset : front.length = offset)
    {content : Bytes}
    (same : content.length = old.length)
    (back : Bytes) :
    overwrite offset content (front ++ (old ++ back)) =
      front ++ (content ++ back) := by
  rw [overwrite, List.take_left' atOffset, same, ← atOffset,
    ← List.append_assoc front old back, ← List.length_append,
    List.drop_left]

/-- What lies in front of the target is kept. -/
theorem take_overwrite
    {offset bound : Nat}
    (before : bound ≤ offset)
    {content buffer : Bytes}
    (inside : offset ≤ buffer.length) :
    (overwrite offset content buffer).take bound = buffer.take bound := by
  rw [overwrite, List.take_append_of_le_length, List.take_take,
    Nat.min_eq_left before]
  rw [List.length_take]
  omega

/-- What lies behind the target is kept. -/
theorem drop_overwrite
    {offset bound : Nat}
    {content buffer : Bytes}
    (behind : offset + content.length ≤ bound)
    (inside : offset + content.length ≤ buffer.length) :
    (overwrite offset content buffer).drop bound = buffer.drop bound := by
  have front :
      (buffer.take offset ++ content).length = offset + content.length := by
    rw [List.length_append, List.length_take]
    omega
  obtain ⟨further, rfl⟩ := Nat.exists_eq_add_of_le behind
  rw [overwrite, ← List.append_assoc, ← List.drop_drop,
    List.drop_left' front, List.drop_drop]

/-- A slice in front of the target is kept. -/
theorem slice_overwrite_of_before
    {offset start width : Nat}
    (before : start + width ≤ offset)
    {content buffer : Bytes}
    (inside : offset ≤ buffer.length) :
    slice start width (overwrite offset content buffer) =
      slice start width buffer :=
  slice_congr (take_overwrite (Nat.le_refl offset) inside) before

/-- A slice behind the target is kept. -/
theorem slice_overwrite_of_behind
    {offset start width : Nat}
    {content buffer : Bytes}
    (behind : offset + content.length ≤ start)
    (inside : offset + content.length ≤ buffer.length) :
    slice start width (overwrite offset content buffer) =
      slice start width buffer := by
  rw [slice, slice, drop_overwrite behind inside]

/-- The target holds what was written. -/
theorem slice_overwrite_self
    {offset : Nat}
    {content buffer : Bytes}
    (inside : offset ≤ buffer.length) :
    slice offset content.length (overwrite offset content buffer) =
      content := by
  rw [overwrite]
  exact slice_middle (by rw [List.length_take]; omega) rfl _

/--
Moving what lies behind a piece replaces the piece by a gap of another length;
what the gap holds is left over from before.
-/
theorem memmove_gap
    (front old rest tail : Bytes)
    {gap : Nat}
    (room :
      gap + rest.length ≤ old.length + rest.length + tail.length) :
    ∃ filler tail',
      filler.length = gap ∧
        memmove (front.length + gap) (front.length + old.length) rest.length
            (front ++ (old ++ (rest ++ tail))) =
          front ++ (filler ++ (rest ++ tail')) ∧
        gap + rest.length + tail'.length =
          old.length + rest.length + tail.length := by
  have moved :
      slice (front.length + old.length) rest.length
          (front ++ (old ++ (rest ++ tail))) =
        rest := by
    rw [← List.append_assoc front old]
    exact slice_middle (List.length_append ..) rfl tail
  refine ⟨(old ++ (rest ++ tail)).take gap,
    (old ++ (rest ++ tail)).drop (gap + rest.length), ?_, ?_, ?_⟩
  · simp only [List.length_take, List.length_append]
    omega
  · rw [memmove, moved, overwrite, List.take_length_add_append,
      Nat.add_assoc, List.drop_length_add_append, List.append_assoc]
  · simp only [List.length_drop, List.length_append]
    omega

end ByteMemory
