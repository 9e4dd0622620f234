import BpfSimulator.MessageExecutor.ProgramLoader

/-! Slots as the program cache sees them: a single fork, on which every earlier
slot is an ancestor. -/

set_option autoImplicit false

namespace BpfSimulator

structure WorkingSlot where
  slot : Slot
  deriving DecidableEq

namespace WorkingSlot

def currentSlot (working : WorkingSlot) : Slot := working.slot

def currentEpoch (working : WorkingSlot) : UInt64 := working.slot / defaultSlotsPerEpoch

def isAncestor (working : WorkingSlot) (slot : Slot) : Bool := decide (slot < working.slot)

end WorkingSlot

/-- The relations between blocks that a single fork has. -/
inductive BlockRelation where
  | ancestor
  | equal
  | descendant
  deriving DecidableEq

namespace ForkGraph

def relationship (a b : Slot) : BlockRelation :=
  match compare a b with
  | .eq => .equal
  | .lt => .ancestor
  | .gt => .descendant

def slotEpoch (slot : Slot) : Option UInt64 := some (slot / defaultSlotsPerEpoch)

end ForkGraph

/-- The working slot and the fork graph agree on which slots come before. -/
theorem WorkingSlot.isAncestor_iff (working : WorkingSlot) (slot : Slot) :
    working.isAncestor slot = true ↔ ForkGraph.relationship slot working.currentSlot = .ancestor := by
  change decide (slot < working.slot) = true ↔ ForkGraph.relationship slot working.slot = .ancestor
  simp only [decide_eq_true_eq, ForkGraph.relationship, compare, compareOfLessAndEq]
  by_cases earlier : slot < working.slot
  · simp [earlier]
  · rw [if_neg earlier]
    by_cases same : slot = working.slot <;> simp [same, UInt64.not_lt.mp earlier]

end BpfSimulator
