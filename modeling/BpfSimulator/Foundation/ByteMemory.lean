import Mathlib.Data.List.Basic

/-! Byte-addressed memory as a total function from addresses, with reading
and writing of contiguous ranges. -/

set_option autoImplicit false

namespace Foundation

/-- The byte stored at every address. -/
abbrev ByteMemory := Nat → UInt8

namespace ByteMemory

def read (memory : ByteMemory) (address count : Nat) : List UInt8 :=
  (List.range count).map fun offset => memory (address + offset)

def write (memory : ByteMemory) (address : Nat) (bytes : List UInt8) : ByteMemory := fun target =>
  if address ≤ target then (bytes[target - address]?).getD (memory target) else memory target

variable {memory other : ByteMemory} {address count : Nat} {bytes : List UInt8}

@[simp] theorem length_read (memory : ByteMemory) (address count : Nat) :
    (memory.read address count).length = count := by
  simp [read]

theorem getElem?_read {offset : Nat} (bound : offset < count) :
    (memory.read address count)[offset]? = some (memory (address + offset)) := by
  simp [read, List.getElem?_range bound]

theorem getElem_read {offset : Nat} (bound : offset < (memory.read address count).length) :
    (memory.read address count)[offset] = memory (address + offset) := by
  simp [read]

@[simp] theorem read_zero (memory : ByteMemory) (address : Nat) : memory.read address 0 = [] := rfl

@[simp] theorem write_nil (memory : ByteMemory) (address : Nat) : memory.write address [] = memory := by
  funext target
  simp [write]

theorem write_inside {offset : Nat} (bound : offset < bytes.length) :
    memory.write address bytes (address + offset) = bytes[offset] := by
  have position : address + offset - address = offset := by omega
  simp only [write, Nat.le_add_right, ↓reduceIte, position, List.getElem?_eq_getElem bound,
    Option.getD_some]

theorem write_outside {target : Nat} (outside : target < address ∨ address + bytes.length ≤ target) :
    memory.write address bytes target = memory target := by
  unfold write
  by_cases above : address ≤ target
  · rw [if_pos above, List.getElem?_eq_none (by omega), Option.getD_none]
  · rw [if_neg above]

theorem read_write_same : (memory.write address bytes).read address bytes.length = bytes := by
  apply List.ext_getElem?
  intro offset
  by_cases bound : offset < bytes.length
  · rw [getElem?_read bound, write_inside bound, List.getElem?_eq_getElem bound]
  · rw [List.getElem?_eq_none (by simpa using bound), List.getElem?_eq_none (by simpa using bound)]

theorem read_congr (same : ∀ offset, offset < count → memory (address + offset) = other (address + offset)) :
    memory.read address count = other.read address count := by
  simp only [read]
  apply List.map_congr_left
  intro offset member
  exact same offset (List.mem_range.mp member)

theorem apply_of_read_eq {address' : Nat} (same : other.read address' count = memory.read address count)
    {offset : Nat} (bound : offset < count) : other (address' + offset) = memory (address + offset) := by
  have stored : (other.read address' count)[offset]? = some (other (address' + offset)) := getElem?_read bound
  rw [same, getElem?_read bound] at stored
  exact (Option.some.inj stored).symm

theorem read_write_frame {target : Nat}
    (apart : target + count ≤ address ∨ address + bytes.length ≤ target) :
    (memory.write address bytes).read target count = memory.read target count := by
  apply read_congr
  intro offset bound
  exact write_outside (by omega)

theorem write_eq_self_iff : memory.write address bytes = memory ↔
    memory.read address bytes.length = bytes := by
  constructor
  · intro same
    rw [← same]
    exact read_write_same
  · intro present
    funext target
    by_cases inside : address ≤ target ∧ target < address + bytes.length
    · obtain ⟨offset, rfl⟩ := Nat.exists_eq_add_of_le inside.1
      have bound : offset < bytes.length := by omega
      have stored : (memory.read address bytes.length)[offset]? = some (memory (address + offset)) :=
        getElem?_read bound
      rw [present, List.getElem?_eq_getElem bound] at stored
      rw [write_inside bound]
      exact Option.some.inj stored
    · exact write_outside (by omega)

end ByteMemory

end Foundation
