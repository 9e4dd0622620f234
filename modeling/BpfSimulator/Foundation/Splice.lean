import Mathlib.Data.List.Basic

/-! Overwriting a stretch of a list in place. The length is kept whenever the
new stretch lies inside the list, so positions computed before a write remain
valid after it. -/

set_option autoImplicit false

namespace Foundation

variable {α : Type}

def splice (values : List α) (start : Nat) (written : List α) : List α :=
  values.take start ++ written ++ values.drop (start + written.length)

/-- The `count` elements of `values` from `start` on. -/
def slice (values : List α) (start count : Nat) : List α :=
  (values.drop start).take count

theorem length_splice {values written : List α} {start : Nat}
    (room : start + written.length ≤ values.length) :
    (splice values start written).length = values.length := by
  simp only [splice, List.length_append, List.length_take, List.length_drop]
  omega

theorem getElem?_splice {values written : List α} {start : Nat}
    (room : start + written.length ≤ values.length) (index : Nat) :
    (splice values start written)[index]? =
      if start ≤ index ∧ index < start + written.length then written[index - start]?
      else values[index]? := by
  have prefixLength : (values.take start).length = start := by
    simp only [List.length_take]
    omega
  unfold splice
  rw [List.append_assoc]
  by_cases before : index < start
  · rw [List.getElem?_append_left (by omega), if_neg (by omega), List.getElem?_take_of_lt before]
  · rw [List.getElem?_append_right (by omega), prefixLength]
    by_cases inside : index < start + written.length
    · rw [List.getElem?_append_left (by omega), if_pos ⟨by omega, inside⟩]
    · rw [List.getElem?_append_right (by omega), if_neg (by omega), List.getElem?_drop]
      congr 1
      omega

theorem getElem?_splice_frame {values written : List α} {start index : Nat}
    (room : start + written.length ≤ values.length)
    (outside : index < start ∨ start + written.length ≤ index) :
    (splice values start written)[index]? = values[index]? := by
  rw [getElem?_splice room, if_neg (by omega)]

theorem splice_splice_adjacent {values first second : List α} {start : Nat}
    (room : start + first.length + second.length ≤ values.length) :
    splice (splice values start first) (start + first.length) second =
      splice values start (first ++ second) := by
  apply List.ext_getElem?
  intro index
  have inner : start + first.length ≤ values.length := by omega
  rw [getElem?_splice (by rw [length_splice inner]; exact room), getElem?_splice inner,
    getElem?_splice (by simp only [List.length_append]; omega)]
  simp only [List.length_append]
  by_cases late : start + first.length ≤ index ∧ index < start + first.length + second.length
  · rw [if_pos late, if_pos (by omega), List.getElem?_append_right (by omega)]
    congr 1
    omega
  · rw [if_neg late]
    by_cases early : start ≤ index ∧ index < start + first.length
    · rw [if_pos early, if_pos (by omega), List.getElem?_append_left (by omega)]
    · rw [if_neg early, if_neg (by omega)]

theorem splice_block (before after : List α) {old new : List α} (sameLength : new.length = old.length) :
    splice (before ++ old ++ after) before.length new = before ++ new ++ after := by
  have dropped : (before ++ old ++ after).drop (before.length + new.length) = after := by
    rw [sameLength, ← List.length_append, List.drop_left]
  have taken : (before ++ old ++ after).take before.length = before := by
    rw [List.append_assoc, List.take_left]
  rw [splice, taken, dropped]

@[simp] theorem length_slice (values : List α) (start count : Nat) :
    (slice values start count).length = min count (values.length - start) := by
  simp only [slice, List.length_take, List.length_drop]

theorem getElem?_slice {values : List α} {start count index : Nat} (bound : index < count) :
    (slice values start count)[index]? = values[start + index]? := by
  rw [slice, List.getElem?_take_of_lt bound, List.getElem?_drop]

theorem slice_eq_iff {left right : List α} {start count : Nat} :
    slice left start count = slice right start count ↔
      ∀ offset < count, left[start + offset]? = right[start + offset]? := by
  constructor
  · intro same offset bound
    rw [← getElem?_slice bound, same, getElem?_slice bound]
  · intro same
    apply List.ext_getElem?
    intro offset
    by_cases bound : offset < count
    · rw [getElem?_slice bound, getElem?_slice bound, same offset bound]
    · rw [List.getElem?_eq_none, List.getElem?_eq_none]
      · simp only [length_slice]
        omega
      · simp only [length_slice]
        omega

theorem slice_splice_same {values written : List α} {start : Nat}
    (room : start + written.length ≤ values.length) :
    slice (splice values start written) start written.length = written := by
  apply List.ext_getElem?
  intro index
  by_cases bound : index < written.length
  · rw [getElem?_slice bound, getElem?_splice room, if_pos (by omega)]
    congr 1
    omega
  · rw [List.getElem?_eq_none, List.getElem?_eq_none]
    · omega
    · simp only [length_slice]
      omega

theorem slice_splice_frame {values written : List α} {start other count : Nat}
    (room : start + written.length ≤ values.length)
    (apart : other + count ≤ start ∨ start + written.length ≤ other) :
    slice (splice values start written) other count = slice values other count := by
  apply List.ext_getElem?
  intro index
  by_cases bound : index < count
  · rw [getElem?_slice bound, getElem?_slice bound, getElem?_splice_frame room (by omega)]
  · rw [List.getElem?_eq_none, List.getElem?_eq_none]
    · simp only [length_slice]
      omega
    · simp only [length_slice]
      omega

theorem slice_block (before block after : List α) :
    slice (before ++ block ++ after) before.length block.length = block := by
  rw [slice, List.append_assoc, List.drop_left, List.take_left]

theorem slice_add (values : List α) (start first second : Nat) :
    slice values start (first + second) =
      slice values start first ++ slice values (start + first) second := by
  rw [slice, slice, slice, List.take_add, List.drop_drop]

theorem drop_slice (values : List α) (start count dropped : Nat) :
    (slice values start count).drop dropped = slice values (start + dropped) (count - dropped) := by
  rw [slice, slice, List.drop_take, List.drop_drop]

theorem slice_slice {values : List α} {start count offset inner : Nat} (inside : offset + inner ≤ count) :
    slice (slice values start count) offset inner = slice values (start + offset) inner := by
  rw [slice, drop_slice, slice, slice, List.take_take, Nat.min_eq_left (by omega)]

/-- A stretch that begins with the written one continues with the old contents. -/
theorem slice_splice_extend {values written : List α} {start count : Nat}
    (room : start + written.length ≤ values.length) (longer : written.length ≤ count) :
    slice (splice values start written) start count =
      written ++ slice values (start + written.length) (count - written.length) := by
  obtain ⟨rest, rfl⟩ := Nat.exists_eq_add_of_le longer
  rw [slice_add, slice_splice_same room, slice_splice_frame room (.inr (Nat.le_refl _)), Nat.add_sub_cancel_left]

end Foundation
