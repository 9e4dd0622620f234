import BpfSimulator.InstructionExecutor.RunSimulation
import BpfSimulator.InstructionExecutor.ScriptRuntime

/-! The script machine with instructions that reach memory through the mapping
of a known layout, and a program with a read-only section of four bytes. -/

set_option autoImplicit false

namespace BpfSimulator.InstructionExecutor

open Foundation Syscalls

/-- The regions of an executor with `inputLen` bytes of input. -/
def mappedRegions (roAddr : Nat) (host : HostLayout) (inputLen : Nat) : List MemoryRegion :=
  [ MemoryRegion.newReadonly roAddr 4 0x100000000,
    MemoryRegion.newWritableGapped host.stackAddr 262144 mmStackStart 0,
    MemoryRegion.newWritable host.heapAddr heapLength mmHeapStart,
    MemoryRegion.newWritable host.bufferAddr inputLen mmInputStart ]

theorem hostsApart_mappedRegions {roAddr : Nat} {host : HostLayout} {inputLen : Nat}
    (first : roAddr + 4 ≤ host.bufferAddr) (second : host.bufferAddr + inputLen ≤ host.stackAddr)
    (third : host.stackAddr + 262144 ≤ host.heapAddr) : HostsApart (mappedRegions roAddr host inputLen) := by
  simp only [HostsApart, mappedRegions, MemoryRegion.newReadonly, MemoryRegion.newWritableGapped,
    MemoryRegion.newWritable, MemoryRegion.HostApart, List.pairwise_cons, List.mem_cons, List.not_mem_nil,
    or_false, forall_eq_or_imp, forall_eq, List.Pairwise.nil, false_imp_iff, implies_true, and_true]
  omega

def mappedStep (roAddr : Nat) (host : HostLayout) (inputLen : Nat) (decode : Nat → Operation Nat) :
    Unit → Nat → ByteMemory → Action Nat := fun _ regs memory =>
  (decode regs).perform (MemoryMapping.ofRegions (mappedRegions roAddr host inputLen)) memory

def mappedRuntime (roAddr : Nat) (host : HostLayout) (inputLen : Nat) (decode : Nat → Operation Nat) :
    Runtime Unit Nat Unit :=
  { scriptRuntime fun _ _ => .exit 0 with
    roAddr := fun _ => roAddr
    roSection := fun _ => [1, 2, 3, 4]
    step := mappedStep roAddr host inputLen decode }

section Mapped

variable {A : Type} [AccountSizes A] {roAddr : Nat} {host : HostLayout} {inputLen : Nat}
  {decode : Nat → Operation Nat} {instructionSize : Nat} {accountSizes : A}
  {fresh : InstructionExecutor A Unit Unit}

theorem mappedRuntime_new (roAddr : Nat) (host : HostLayout) (inputLen : Nat) (decode : Nat → Operation Nat)
    (bounded : inputLength (slotSizes accountSizes) instructionSize ≤ isizeMax) :
    ∃ fresh, new (mappedRuntime roAddr host inputLen decode) host instructionSize accountSizes = .ok fresh ∧
      Constructed (mappedRuntime roAddr host inputLen decode) host instructionSize accountSizes fresh := by
  obtain ⟨registry, registered⟩ := scriptRuntime_registers
  exact new_succeeds host bounded registered

theorem mappedRuntime_regions
    (constructed : Constructed (mappedRuntime roAddr host inputLen decode) host instructionSize accountSizes fresh)
    (length : inputLength (slotSizes accountSizes) instructionSize = inputLen) :
    regions (mappedRuntime roAddr host inputLen decode) fresh () = mappedRegions roAddr host inputLen := by
  have bufferLen : fresh.buffer.len = inputLen := by
    rw [constructed.laidOut.bufferLength, constructed.sameAccountSizes, constructed.sameInstructionSize, length]
  have stackLen : fresh.stack.len = 262144 := by
    rw [constructed.stack, AlignedMemory.zeroFilled_len, constructed.config]
    change 4096 * 64 = 262144
    rfl
  have heapLen : fresh.heap.len = heapLength := by
    rw [constructed.heap, AlignedMemory.zeroFilled_len]
  have stackAddr : fresh.stack.hostAddr = host.stackAddr := by
    rw [constructed.stack]
    rfl
  have heapAddr : fresh.heap.hostAddr = host.heapAddr := by
    rw [constructed.heap]
    rfl
  simp only [regions, bufferLen, stackLen, heapLen, stackAddr, heapAddr, constructed.bufferAddr]
  rfl

theorem mappedRuntime_steps
    (constructed : Constructed (mappedRuntime roAddr host inputLen decode) host instructionSize accountSizes fresh)
    (length : inputLength (slotSizes accountSizes) instructionSize = inputLen) :
    StepsThrough (mappedRuntime roAddr host inputLen decode)
      (executeMapping (mappedRuntime roAddr host inputLen decode) fresh ()) () decode := by
  intro regs memory
  rw [executeMapping, mappedRuntime_regions constructed length]
  rfl

end Mapped

/-- Other host addresses than those of `scriptHost`. -/
def shiftedHost : HostLayout where
  bufferAddr := 0x500000000
  stackAddr := 0x600000000
  heapAddr := 0x700000000

/-- Three instructions: a store to the heap, a store to the read-only section,
and an exit. -/
def storingProgram : Nat → Operation Nat
  | 0 => .store .byte mmHeapStart 7 1
  | 1 => .store .byte 0x100000000 7 2
  | _ => .exit 0

end BpfSimulator.InstructionExecutor
