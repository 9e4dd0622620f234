import BpfSimulator.InstructionExecutor.HostMemory
import BpfSimulator.InstructionExecutor.MappedRuntime

/-! What a run can write: the writable regions and nothing else. -/

set_option autoImplicit false

namespace BpfSimulator

open Foundation Syscalls

variable {Exe Regs Log : Type}

/-- Host addresses of a region. -/
def MemoryRegion.HoldsHost (region : MemoryRegion) (hostAddr : Nat) : Prop :=
  region.hostAddr ≤ hostAddr ∧ hostAddr < region.hostAddr + region.len

/-- Some region makes the byte writable. -/
def WritableByte (regions : List MemoryRegion) (hostAddr : Nat) : Prop :=
  ∃ region ∈ regions, region.isWritable = true ∧ region.HoldsHost hostAddr

/-- The bytes that no region makes writable are those of `origin`. -/
def Confined (regions : List MemoryRegion) (origin memory : ByteMemory) : Prop :=
  ∀ hostAddr, ¬ WritableByte regions hostAddr → memory hostAddr = origin hostAddr

namespace Confined

/-- A range of one region that permits the access, paired with itself. -/
def Twins (regions : List MemoryRegion) (access : AccessType) (len host twin : Nat) : Prop :=
  twin = host ∧ ∃ region ∈ regions, region.permits access = true ∧ region.hostAddr ≤ host ∧
    host + len ≤ region.hostAddr + region.len

/-- A confined state, paired with itself. -/
def Related (regions : List MemoryRegion) (origin : ByteMemory) (state twin : SyscallState Log) : Prop :=
  twin = state ∧ Confined regions origin state.memory

variable {regions : List MemoryRegion} {origin memory : ByteMemory}

theorem write (confined : Confined regions origin memory) {bytes : List UInt8} {host twin : Nat}
    (twins : Twins regions .store bytes.length host twin) :
    Confined regions origin (memory.write host bytes) := by
  obtain ⟨_, region, member, permitted, lower, upper⟩ := twins
  intro hostAddr unwritable
  rw [ByteMemory.write_outside, confined hostAddr unwritable]
  by_contra inside
  exact unwritable ⟨region, member, permitted, by omega, by omega⟩

theorem alike {mapping : MemoryMapping} (maps : mapping.MapsInto regions) :
    Alike mapping mapping (Twins regions) (@Related Log regions origin) where
  maps := by
    intro access vmAddr len positive
    cases mapped : mapping.map access vmAddr len with
    | error error => exact .error
    | ok hostAddr =>
        obtain ⟨region, member, permitted, translated⟩ := maps access vmAddr len hostAddr positive mapped
        have backs := MemoryRegion.backs_of_vmToHost? translated
        exact .ok ⟨rfl, region, member, permitted, backs.hostAbove, backs.hostBelow⟩
  part := by
    intro access len host twin offset partLen twins bound
    obtain ⟨same, region, member, permitted, lower, upper⟩ := twins
    exact ⟨by rw [same], region, member, permitted, by omega, by omega⟩
  nonoverlapping := by
    intro len host twin len' host' twin' _ _ twins twins'
    rw [twins.1, twins'.1]
  context := fun related => congrArg SyscallState.context related.1
  read := fun related twins => by rw [related.1, twins.1]
  write := fun related twins => ⟨by rw [related.1, twins.1], related.2.write twins⟩
  withContext := fun related _ => ⟨by rw [related.1], related.2⟩

theorem run {runtime : Runtime Exe Regs Log} {mapping : MemoryMapping} {executable : Exe}
    {decode : Regs → Operation Regs} (maps : mapping.MapsInto regions)
    (steps : StepsThrough runtime mapping executable decode) (registry : FunctionRegistry) (limit : Nat)
    (regs : Regs) (state : SyscallState Log) :
    let outcome := runProgram runtime registry executable mapping limit regs state
    Confined regions state.memory outcome.state.memory ∧ ∀ event ∈ outcome.events,
      Confined regions state.memory event.before.memory ∧ Confined regions state.memory event.after.memory := by
  intro outcome
  have paired : PairedOutcomes (Related regions state.memory) outcome outcome :=
    (alike maps).runProgram rfl steps steps registry limit regs ⟨rfl, fun _ _ => rfl⟩
  refine ⟨paired.state.2, fun event member => ?_⟩
  obtain ⟨index, bound, rfl⟩ := List.mem_iff_getElem.mp member
  have pairedEvent := paired.events.get bound bound
  exact ⟨pairedEvent.before.2, pairedEvent.after.2⟩

end Confined

namespace InstructionExecutor

variable {A T : Type} [AccountSizes A] [ReadableAccount T]

/-- What is assumed of the machine of an executor: instructions reach memory
only through the mapping, which translates into the regions it is made from,
and no two regions share host memory. -/
structure MemorySafe (runtime : Runtime Exe Regs Log) (executor : InstructionExecutor A Exe Log)
    (decode : Exe → Regs → Operation Regs) : Prop where
  mapsInto : ∀ executable, (executeMapping runtime executor executable).MapsInto (regions runtime executor executable)
  steps : ∀ executable,
    StepsThrough runtime (executeMapping runtime executor executable) executable (decode executable)
  hostsApart : ∀ executable, HostsApart (regions runtime executor executable)

omit [AccountSizes A] in
theorem MemorySafe.of_sameShape {runtime : Runtime Exe Regs Log} {before after : InstructionExecutor A Exe Log}
    {decode : Exe → Regs → Operation Regs} (safe : MemorySafe runtime before decode) (same : SameShape before after) :
    MemorySafe runtime after decode := by
  constructor
  · intro executable
    rw [executeMapping_of_sameShape same, regions_of_sameShape same]
    exact safe.mapsInto executable
  · intro executable
    rw [executeMapping_of_sameShape same]
    exact safe.steps executable
  · intro executable
    rw [regions_of_sameShape same]
    exact safe.hostsApart executable

/-- The memory is that of the start but for the writable regions, and the
read-only section of the program is in place. -/
structure LeavesRest (runtime : Runtime Exe Regs Log) (executor : InstructionExecutor A Exe Log) (executable : Exe)
    (memory : ByteMemory) : Prop where
  confined : Confined (regions runtime executor executable)
    (hostMemory runtime (prepared executor) executable) memory
  roSection : memory.read (runtime.roAddr executable) (runtime.roSection executable).length =
    runtime.roSection executable

omit [AccountSizes A] in
theorem LeavesRest.of_confined {runtime : Runtime Exe Regs Log} {executor : InstructionExecutor A Exe Log}
    {executable : Exe} {memory : ByteMemory} (apart : HostsApart (regions runtime executor executable))
    (confined : Confined (regions runtime executor executable)
      (hostMemory runtime (prepared executor) executable) memory) :
    LeavesRest runtime executor executable memory := by
  have preparedApart : HostsApart (regions runtime (prepared executor) executable) := by
    rwa [regions_of_sameShape (sameShape_prepared executor)]
  refine ⟨confined, .trans (ByteMemory.read_congr fun offset bound => confined _ ?_)
    (hostMemory_holds preparedApart).roSection⟩
  intro writableByte
  obtain ⟨region, member, writable, lower, upper⟩ := writableByte
  rcases List.mem_cons.mp member with same | later
  · subst same
    cases writable
  · have separate := List.rel_of_pairwise_cons apart later
    simp only [MemoryRegion.HostApart, MemoryRegion.newReadonly] at separate
    omega

/-- At every point of a run, and around every syscall it makes, only the stack,
the heap and the input have been written, whether or not calls failed. -/
theorem execution_confined {runtime : Runtime Exe Regs Log} {host : HostLayout} {instructionSize : Nat}
    {accountSizes : A} {fresh : InstructionExecutor A Exe Log} {decode : Exe → Regs → Operation Regs}
    (bounded : inputLength (slotSizes accountSizes) instructionSize ≤ isizeMax)
    (built : new runtime host instructionSize accountSizes = .ok fresh) (safe : MemorySafe runtime fresh decode)
    (history : List (Call T)) (executable : Exe) (limit : Nat) :
    let executor := runHistory (step runtime) history fresh
    let outcome := runUpTo runtime executor executable limit
    LeavesRest runtime executor executable outcome.state.memory ∧ ∀ event ∈ outcome.events,
      LeavesRest runtime executor executable event.before.memory ∧
        LeavesRest runtime executor executable event.after.memory := by
  intro executor outcome
  have shape : SameShape fresh executor := history_sameShape history (new_constructed bounded built).laidOut
  have reached := safe.of_sameShape shape
  have preparedShape := sameShape_prepared executor
  have maps : (executeMapping runtime (prepared executor) executable).MapsInto
      (regions runtime executor executable) := by
    rw [executeMapping_of_sameShape preparedShape]
    exact reached.mapsInto executable
  have steps : StepsThrough runtime (executeMapping runtime (prepared executor) executable) executable
      (decode executable) := by
    rw [executeMapping_of_sameShape preparedShape]
    exact reached.steps executable
  have confined := Confined.run maps steps executor.registry limit (runtime.entry executable executor.config)
    (startState runtime (prepared executor) executable)
  have apart := reached.hostsApart executable
  exact ⟨.of_confined apart confined.1, fun event member =>
    ⟨.of_confined apart (confined.2 event member).1, .of_confined apart (confined.2 event member).2⟩⟩

/-- A program that stores to its heap and then to its own read-only section. -/
theorem execution_confined_store : ∃ fresh,
    new (mappedRuntime 0x1000 scriptHost 49 storingProgram) scriptHost 1 ([] : List Nat) = .ok fresh ∧
      let runtime := mappedRuntime 0x1000 scriptHost 49 storingProgram
      let executor := runHistory (step runtime) [.updateProgram (.filled 1) scriptAccount false] fresh
      LeavesRest runtime executor () (runUpTo runtime executor () 3).state.memory := by
  have bounded : inputLength (slotSizes ([] : List Nat)) 1 ≤ isizeMax := by decide
  obtain ⟨fresh, built, constructed⟩ := mappedRuntime_new 0x1000 scriptHost 49 storingProgram bounded
  have mapped := mappedRuntime_regions constructed rfl
  have safe : MemorySafe (mappedRuntime 0x1000 scriptHost 49 storingProgram) fresh fun _ => storingProgram := by
    refine ⟨fun _ => MemoryMapping.ofRegions_mapsInto _, fun _ => mappedRuntime_steps constructed rfl, fun _ => ?_⟩
    rw [mapped]
    exact hostsApart_mappedRegions (by decide) (by decide) (by decide)
  exact ⟨fresh, built, (execution_confined bounded built safe
    [.updateProgram (.filled 1) scriptAccount false] () 3).1⟩

end InstructionExecutor

end BpfSimulator
