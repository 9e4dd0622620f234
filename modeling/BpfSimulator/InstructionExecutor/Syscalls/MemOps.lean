import BpfSimulator.InstructionExecutor.Syscalls.Translate

/-! The memory syscall. -/

set_option autoImplicit false

namespace BpfSimulator.Syscalls

open Foundation

variable {Log : Type}

/-- Contiguous copy: the destination is translated before the source, and the
source is read as a whole before anything is written. -/
def memmove (mapping : MemoryMapping) (dstAddr srcAddr n : Nat) : SyscallM Log Nat := do
  let context := (← get).context
  let dst ← inspecting (translateSliceMut byteLayout mapping dstAddr n context.getCheckAligned
    context.getCheckSize)
  let src ← inspecting (translateSlice byteLayout mapping srcAddr n context.getCheckAligned
    context.getCheckSize)
  modify fun state =>
    { state with memory := state.memory.write dst.hostAddr (state.memory.read src.hostAddr n) }
  pure 0

def syscallMemcpy (mapping : MemoryMapping) (dstAddr srcAddr n : Nat) : SyscallM Log Nat := do
  if !isNonoverlapping srcAddr n dstAddr n then
    throw (.syscall .copyOverlapping)
  else
    memmove mapping dstAddr srcAddr n

end BpfSimulator.Syscalls
