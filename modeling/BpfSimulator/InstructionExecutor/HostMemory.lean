import BpfSimulator.InstructionExecutor.ExecutionProperties

/-! The host memory that an execution starts from: every mapped region holds
its buffer. The regions depend on the shape of the executor only. -/

set_option autoImplicit false

namespace BpfSimulator.InstructionExecutor

open Foundation

variable {A Exe Regs Log : Type}

theorem regions_of_sameShape {before after : InstructionExecutor A Exe Log} (same : SameShape before after)
    (runtime : Runtime Exe Regs Log) (executable : Exe) :
    regions runtime after executable = regions runtime before executable := by
  simp only [regions, same.stack.hostAddr, same.stack.len, same.heap.hostAddr, same.heap.len,
    same.buffer.hostAddr, same.buffer.len]

theorem executeMapping_of_sameShape {before after : InstructionExecutor A Exe Log} (same : SameShape before after)
    (runtime : Runtime Exe Regs Log) (executable : Exe) :
    executeMapping runtime after executable = executeMapping runtime before executable := by
  rw [executeMapping, executeMapping, regions_of_sameShape same, same.config]

/-- What a run finds in its regions. -/
structure HoldsBuffers (runtime : Runtime Exe Regs Log) (executor : InstructionExecutor A Exe Log) (executable : Exe)
    (memory : ByteMemory) : Prop where
  roSection : memory.read (runtime.roAddr executable) (runtime.roSection executable).length =
    runtime.roSection executable
  stack : memory.read executor.stack.hostAddr executor.stack.len = executor.stack.bytes
  heap : memory.read executor.heap.hostAddr executor.heap.len = executor.heap.bytes
  buffer : memory.read executor.buffer.hostAddr executor.buffer.len = executor.buffer.bytes

theorem hostMemory_holds {runtime : Runtime Exe Regs Log} {executor : InstructionExecutor A Exe Log}
    {executable : Exe} (apart : HostsApart (regions runtime executor executable)) :
    HoldsBuffers runtime executor executable (hostMemory runtime executor executable) := by
  simp only [HostsApart, regions, MemoryRegion.newReadonly, MemoryRegion.newWritableGapped,
    MemoryRegion.newWritable, MemoryRegion.HostApart, List.pairwise_cons, List.mem_cons, List.not_mem_nil,
    or_false, forall_eq_or_imp, forall_eq, List.Pairwise.nil, false_imp_iff, implies_true, and_true,
    AlignedMemory.len] at apart
  obtain ⟨⟨roStack, roHeap, roBuffer⟩, ⟨stackHeap, stackBuffer⟩, heapBuffer⟩ := apart
  constructor
  · rw [hostMemory, ByteMemory.read_write_frame roBuffer, ByteMemory.read_write_frame roHeap,
      ByteMemory.read_write_frame roStack, ByteMemory.read_write_same]
  · rw [hostMemory, AlignedMemory.len, ByteMemory.read_write_frame stackBuffer,
      ByteMemory.read_write_frame stackHeap, ByteMemory.read_write_same]
  · rw [hostMemory, AlignedMemory.len, ByteMemory.read_write_frame heapBuffer, ByteMemory.read_write_same]
  · rw [hostMemory, AlignedMemory.len, ByteMemory.read_write_same]

end BpfSimulator.InstructionExecutor
