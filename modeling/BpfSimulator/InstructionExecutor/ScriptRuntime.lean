import BpfSimulator.InstructionExecutor.ExecutionProperties

/-! A concrete machine: programs are scripts that see a step counter and the
memory. Its mapping looks regions up one after the other. It shows that what
results assume of third-party code can be met. -/

set_option autoImplicit false

namespace BpfSimulator.InstructionExecutor

open Foundation Syscalls

/-- A name code under which the registered names differ. -/
def nameCode (name : String) : Nat :=
  name.utf8ByteSize + if name = "sol_get_return_data" then 100 else 0

/-- The machine that runs `script` for every program. -/
def scriptRuntime (script : Nat → ByteMemory → Action Nat) : Runtime Unit Nat Unit where
  createProgramAddress _ _ := none
  log collector _ := collector
  hashSymbolName := nameCode
  defaultConfig := {
    maxCallDepth := 20
    stackFrameSize := 4096
    enableStackFrameGaps := true
    externalInternalFunctionHashCollision := false }
  fromElf _ := .ok ()
  jitCompile executable := .ok executable
  jitTarget := false
  dynamicStackFrames _ := false
  roAddr _ := 0
  roSection _ := []
  roStart _ := 0x100000000
  memoryMapping regions _ _ := MemoryMapping.ofRegions regions
  entry _ _ := 0
  step _ := script

/-- Host addresses far apart from each other. -/
def scriptHost : HostLayout where
  bufferAddr := 0x100000000
  stackAddr := 0x200000000
  heapAddr := 0x300000000

/-- A program account for the script machine. -/
def scriptAccount : Account where
  lamports := 1
  data := []
  owner := Pubkey.default
  executable := true
  rentEpoch := 0

theorem scriptRuntime_registers : ∃ registry, getSyscalls nameCode = .ok registry := by
  have registered : (getSyscalls nameCode).isOk = true := by decide
  cases result : getSyscalls nameCode with
  | ok registry => exact ⟨registry, rfl⟩
  | error error => simp [result, Except.isOk, Except.toBool] at registered

theorem scriptRuntime_new {A : Type} [AccountSizes A] (script : Nat → ByteMemory → Action Nat)
    {instructionSize : Nat} {accountSizes : A}
    (bounded : inputLength (slotSizes accountSizes) instructionSize ≤ isizeMax) :
    ∃ executor, new (scriptRuntime script) scriptHost instructionSize accountSizes = .ok executor ∧
      Constructed (scriptRuntime script) scriptHost instructionSize accountSizes executor := by
  obtain ⟨registry, registered⟩ := scriptRuntime_registers
  exact new_succeeds scriptHost bounded registered

theorem scriptRuntime_maps {A : Type} [AccountSizes A] {script : Nat → ByteMemory → Action Nat}
    {instructionSize : Nat} {accountSizes : A} {fresh executor : InstructionExecutor A Unit Unit}
    (constructed : Constructed (scriptRuntime script) scriptHost instructionSize accountSizes fresh)
    (shape : SameShape fresh executor)
    (moderate : inputLength (slotSizes accountSizes) instructionSize < 0x80000000) :
    let mapped := regions (scriptRuntime script) executor ()
    (executeMapping (scriptRuntime script) executor ()).MapsOnly mapped ∧
      (executeMapping (scriptRuntime script) executor ()).MapsAll mapped ∧ HostsApart mapped := by
  intro mapped
  have bufferAddr : executor.buffer.hostAddr = 0x100000000 :=
    shape.buffer.hostAddr.trans constructed.bufferAddr
  have stackAddr : executor.stack.hostAddr = 0x200000000 := by
    rw [shape.stack.hostAddr, constructed.stack]
    rfl
  have heapAddr : executor.heap.hostAddr = 0x300000000 := by
    rw [shape.heap.hostAddr, constructed.heap]
    rfl
  have bufferLen : executor.buffer.len < 0x80000000 := by
    rw [shape.buffer.len, constructed.laidOut.bufferLength, constructed.sameAccountSizes,
      constructed.sameInstructionSize]
    exact moderate
  have stackLen : executor.stack.len = 262144 := by
    rw [shape.stack.len, constructed.stack, AlignedMemory.zeroFilled_len, constructed.config]
    change 4096 * 64 = 262144
    rfl
  have heapLen : executor.heap.len = 32768 := by
    rw [shape.heap.len, constructed.heap, AlignedMemory.zeroFilled_len]
    rfl
  have separated : Separated mapped := by
    simp only [Separated, mapped, regions, MemoryRegion.newReadonly, MemoryRegion.newWritableGapped,
      MemoryRegion.newWritable, MemoryRegion.Apart, scriptRuntime, mmStackStart, mmHeapStart, mmInputStart,
      stackLen, heapLen, List.pairwise_cons, List.mem_cons, List.not_mem_nil, or_false, forall_eq_or_imp,
      forall_eq, List.length_nil, List.Pairwise.nil, false_imp_iff, implies_true, and_true]
    omega
  have apart : HostsApart mapped := by
    simp only [HostsApart, mapped, regions, MemoryRegion.newReadonly, MemoryRegion.newWritableGapped,
      MemoryRegion.newWritable, MemoryRegion.HostApart, scriptRuntime, bufferAddr, stackAddr, heapAddr,
      stackLen, heapLen, List.pairwise_cons, List.mem_cons, List.not_mem_nil, or_false, forall_eq_or_imp,
      forall_eq, List.length_nil, List.Pairwise.nil, false_imp_iff, implies_true, and_true]
    omega
  have ungapped := ungapped_regions (scriptRuntime script) executor ()
  exact ⟨MemoryMapping.ofRegions_mapsOnly separated ungapped,
    MemoryMapping.ofRegions_mapsAll separated ungapped, apart⟩

end BpfSimulator.InstructionExecutor
