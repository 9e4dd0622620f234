import BpfSimulator.Foundation.ByteMemory

/-! Copying scattered bytes piece by piece. Byte `index` is copied from the
address `source index` to `target index`; the pieces may be copied in any order
in which no byte is read after it was overwritten. -/

set_option autoImplicit false

namespace Foundation

/-- Exactly the bytes with a `done` index are copied. -/
structure CopiedOn (done : Nat → Prop) (source target : Nat → Nat) (before after : ByteMemory) : Prop where
  written : ∀ index, done index → after (target index) = before (source index)
  frame : ∀ address, (∀ index, done index → address ≠ target index) → after address = before address

namespace CopiedOn

variable {done : Nat → Prop} {source target : Nat → Nat} {before after : ByteMemory}

theorem nothing (none : ∀ index, ¬ done index) : CopiedOn done source target before before where
  written := fun index isDone => absurd isDone (none index)
  frame := fun _ _ => rfl

theorem congr {done' : Nat → Prop} (copied : CopiedOn done source target before after)
    (same : ∀ index, done' index ↔ done index) : CopiedOn done' source target before after where
  written := fun index isDone => copied.written index ((same index).mp isDone)
  frame := fun address apart => copied.frame address fun index isDone => apart index ((same index).mpr isDone)

theorem unique {other : ByteMemory} (copied : CopiedOn done source target before after)
    (copiedOther : CopiedOn done source target before other) : after = other := by
  funext address
  by_cases reached : ∃ index, done index ∧ address = target index
  · obtain ⟨index, isDone, rfl⟩ := reached
    rw [copied.written index isDone, copiedOther.written index isDone]
  · have apart : ∀ index, done index → address ≠ target index :=
      fun index isDone same => reached ⟨index, isDone, same⟩
    rw [copied.frame address apart, copiedOther.frame address apart]

/-- Copying a contiguous piece whose bytes are neither overwritten yet nor
stored over bytes that are done. -/
theorem extend {first count targetAddr sourceAddr : Nat} (copied : CopiedOn done source target before after)
    (targets : ∀ offset < count, target (first + offset) = targetAddr + offset)
    (sources : ∀ offset < count, source (first + offset) = sourceAddr + offset)
    (unread : ∀ offset < count, ∀ index, done index → source (first + offset) ≠ target index)
    (unwritten : ∀ offset < count, ∀ index, done index → target (first + offset) ≠ target index) :
    CopiedOn (fun index => done index ∨ first ≤ index ∧ index < first + count) source target before
      (after.write targetAddr (after.read sourceAddr count)) where
  written := by
    intro index copiedNow
    rcases copiedNow with isDone | ⟨above, below⟩
    · rw [ByteMemory.write_outside, copied.written index isDone]
      rw [ByteMemory.length_read]
      by_contra inside
      have offset := targets (target index - targetAddr) (by omega)
      exact unwritten (target index - targetAddr) (by omega) index isDone (by omega)
    · obtain ⟨offset, rfl⟩ := Nat.exists_eq_add_of_le above
      have bound : offset < count := by omega
      rw [targets offset bound, ByteMemory.write_inside (by rwa [ByteMemory.length_read]), ByteMemory.getElem_read,
        ← sources offset bound]
      exact copied.frame _ (unread offset bound)
  frame := by
    intro address apart
    have outside : address < targetAddr ∨ targetAddr + (after.read sourceAddr count).length ≤ address := by
      rw [ByteMemory.length_read]
      by_contra inside
      have offset := targets (address - targetAddr) (by omega)
      exact apart (first + (address - targetAddr)) (.inr (by omega)) (by omega)
    rw [ByteMemory.write_outside outside]
    exact copied.frame address fun index isDone => apart index (.inl isDone)

end CopiedOn

end Foundation
