import BpfSimulator.InstructionExecutor.HostMemory
import BpfSimulator.InstructionExecutor.Relocation

/-! Where an executor's buffers are allocated makes no difference: two
executors that are given the same calls stay the same but for the addresses of
their buffers. -/

set_option autoImplicit false

namespace BpfSimulator

open Foundation Syscalls

/-- The same third-party code where programs lie elsewhere in host memory. -/
def Runtime.relocate {Exe Regs Log : Type} (runtime : Runtime Exe Regs Log) (roAddr : Exe → Nat)
    (step : Exe → Regs → ByteMemory → Action Regs) : Runtime Exe Regs Log :=
  { runtime with roAddr, step }

namespace InstructionExecutor

variable {A Exe Regs Log T : Type} [AccountSizes A] [ReadableAccount T]

/-- Two buffers that differ in where they are. -/
structure SameContents (buffer twin : AlignedMemory) : Prop where
  bytes : twin.bytes = buffer.bytes
  maxLen : twin.maxLen = buffer.maxLen
  uncheckedAppends : twin.uncheckedAppends = buffer.uncheckedAppends

/-- Two executors whose buffers differ in where they are. -/
structure Rehosted (executor twin : InstructionExecutor A Exe Log) : Prop where
  context : twin.context = executor.context
  config : twin.config = executor.config
  registry : twin.registry = executor.registry
  instructionSize : twin.instructionSize = executor.instructionSize
  accountSizes : twin.accountSizes = executor.accountSizes
  instructionOffset : twin.instructionOffset = executor.instructionOffset
  accountOffsets : twin.accountOffsets = executor.accountOffsets
  programIdOffset : twin.programIdOffset = executor.programIdOffset
  buffer : SameContents executor.buffer twin.buffer
  stack : SameContents executor.stack twin.stack
  heap : SameContents executor.heap twin.heap
  executable : twin.executable = executor.executable

theorem SameContents.len {buffer twin : AlignedMemory} (same : SameContents buffer twin) : twin.len = buffer.len :=
  congrArg List.length same.bytes

theorem SameContents.append {buffer twin : AlignedMemory} (same : SameContents buffer twin) (value : List UInt8) :
    SameContents (buffer.append value) (twin.append value) := by
  refine ⟨?_, same.maxLen, ?_⟩
  · simp only [AlignedMemory.append_bytes, same.bytes]
  · simp only [AlignedMemory.append, same.len, same.uncheckedAppends]

theorem simulates_overwriteAt (start : Nat) (value : List UInt8) :
    Simulates SameContents Eq (overwriteAt start value) (overwriteAt start value) := by
  intro buffer twin same
  unfold overwriteAt
  rw [same.len]
  split
  · exact .ok rfl ⟨by simp only [AlignedMemory.overwrite_bytes, same.bytes], same.maxLen, same.uncheckedAppends⟩
  · exact .error same

theorem simulates_write (position : Option Nat) (value : List UInt8) :
    Simulates SameContents Eq (write position value) (write position value) := by
  cases position with
  | some start => exact simulates_overwriteAt start value
  | none =>
      intro buffer twin same
      exact .ok (same.append value).len.symm (same.append value)

theorem simulates_writeAll (position : Option Nat) (value : List UInt8) :
    Simulates SameContents Eq (writeAll position value) (writeAll position value) :=
  simulates_write position value

theorem simulates_fillWrite (position : Option Nat) (num : Nat) (value : UInt8) :
    Simulates SameContents Eq (fillWrite position num value) (fillWrite position num value) := by
  cases position with
  | some start => exact simulates_overwriteAt start _
  | none =>
      intro buffer twin same
      simp only [fillWrite, AlignedMemory.fillWrite?, same.len, same.maxLen]
      rcases Nat.lt_or_ge buffer.maxLen (buffer.len + num) with full | room
      · simp only [if_neg (Nat.not_le.mpr full)]
        exact .error same
      · have filled : SameContents { buffer with bytes := buffer.bytes ++ List.replicate num value }
            { twin with bytes := twin.bytes ++ List.replicate num value, maxLen := buffer.maxLen } :=
          ⟨by rw [same.bytes], rfl, same.uncheckedAppends⟩
        simp only [if_pos room]
        exact .ok filled.len.symm filled

theorem simulates_writeAccount (accountSize : Nat) (position : Option Nat) (key : Pubkey) (account : T)
    (isSigner isWritable isExecutable : Bool) :
    Simulates SameContents Eq (writeAccount accountSize position key account isSigner isWritable isExecutable)
      (writeAccount accountSize position key account isSigner isWritable isExecutable) :=
  .bind_same (simulates_write _ _) fun _ => .bind_same (simulates_write _ _) fun _ =>
    .bind_same (simulates_write _ _) fun _ => .bind_same (simulates_write _ _) fun _ =>
    .bind_same (simulates_writeAll _ _) fun _ => .bind_same (simulates_writeAll _ _) fun _ =>
    .bind_same (simulates_writeAll _ _) fun _ => .bind_same (simulates_write _ _) fun _ =>
    .bind_same (simulates_write _ _) fun _ => .bind_same (simulates_writeAll _ _) fun _ =>
    .bind_same ((simulates_fillWrite _ _ _).adaptExcept _) fun _ => simulates_write _ _

theorem simulates_writeEmptyAccount (dataSize : Nat) :
    Simulates SameContents Eq (writeEmptyAccount dataSize) (writeEmptyAccount dataSize) :=
  .bind_same (simulates_write _ _) fun _ => .bind_same (simulates_write _ _) fun _ =>
    .bind_same (simulates_write _ _) fun _ => .bind_same (simulates_write _ _) fun _ =>
    .bind_same (simulates_writeAll _ _) fun _ => .bind_same (simulates_writeAll _ _) fun _ =>
    .bind_same (simulates_writeAll _ _) fun _ => .bind_same (simulates_write _ _) fun _ =>
    .bind_same (simulates_write _ _) fun _ =>
    .bind_same ((simulates_fillWrite _ _ _).adaptExcept _) fun _ =>
    .bind_same (simulates_write _ _) fun _ => .pure rfl

theorem simulates_bufferLen : Simulates SameContents Eq bufferLen bufferLen :=
  fun _ _ same => .ok same.len.symm same

theorem simulates_writeEmptyAccounts (accountSizes : A) (indices : List Nat) :
    Simulates SameContents Eq (writeEmptyAccounts accountSizes indices) (writeEmptyAccounts accountSizes indices) := by
  induction indices with
  | nil => exact .pure rfl
  | cons index rest ih =>
      exact .bind_same simulates_bufferLen fun _ => .bind_same (simulates_writeEmptyAccount _) fun _ =>
        .bind_same ih fun _ => .pure rfl

theorem simulates_writeInitial (instructionSize : Nat) (accountSizes : A) :
    Simulates SameContents Eq (writeInitial instructionSize accountSizes) (writeInitial instructionSize accountSizes) :=
  .bind_same (simulates_write _ _) fun _ => .bind_same (simulates_writeEmptyAccounts accountSizes _) fun _ =>
    .bind_same simulates_bufferLen fun _ => .bind_same (simulates_write _ _) fun _ =>
    .bind_same (simulates_fillWrite _ _ _) fun _ => .bind_same simulates_bufferLen fun _ =>
    .bind_same (simulates_writeAll _ _) fun _ => .pure rfl

/-- Construction fails with the same error, or yields the same executor but for its addresses. -/
theorem new_rehosted (runtime : Runtime Exe Regs Log) (roAddr : Exe → Nat)
    (executeStep : Exe → Regs → ByteMemory → Action Regs) (host host' : HostLayout) (instructionSize : Nat)
    (accountSizes : A) :
    Agree Rehosted (new runtime host instructionSize accountSizes)
      (new (runtime.relocate roAddr executeStep) host' instructionSize accountSizes) := by
  have empty : ∀ capacity, SameContents (AlignedMemory.withCapacity host.bufferAddr capacity)
      (AlignedMemory.withCapacity host'.bufferAddr capacity) := fun capacity => ⟨rfl, rfl, rfl⟩
  have written := simulates_writeInitial instructionSize accountSizes _ _
    (empty (bufferCapacity instructionSize accountSizes))
  unfold new
  dsimp only
  generalize writeInitial instructionSize accountSizes (AlignedMemory.withCapacity host.bufferAddr _) = outcome
    at written ⊢
  generalize writeInitial instructionSize accountSizes (AlignedMemory.withCapacity host'.bufferAddr _) = outcome'
    at written ⊢
  cases written with
  | error => exact .error
  | ok same kept =>
      subst same
      refine .bind (agree_eq_iff.mpr rfl) fun registry registry' same => .ok ?_
      subst same
      exact ⟨rfl, rfl, rfl, rfl, rfl, rfl, rfl, rfl, kept, ⟨rfl, rfl, rfl⟩, ⟨rfl, rfl, rfl⟩, rfl⟩

omit [AccountSizes A] in
theorem simulates_onBuffer {α : Type} {part : BufferM α} (simulates : Simulates SameContents Eq part part) :
    Simulates Rehosted Eq (onBuffer part : ExecutorM A Exe Log α) (onBuffer part) :=
  .onComponent (fun _ _ same => same.buffer) (fun _ _ _ _ same kept => { same with buffer := kept }) simulates

omit [AccountSizes A] in
theorem simulates_updateProgram (runtime : Runtime Exe Regs Log) (roAddr : Exe → Nat)
    (executeStep : Exe → Regs → ByteMemory → Action Regs) (programId : Pubkey) (account : T) (jit : Bool) :
    Simulates Rehosted Eq (updateProgram runtime programId account jit : ExecutorM A Exe Log Unit)
      (updateProgram (runtime.relocate roAddr executeStep) programId account jit) := by
  refine .bind_same (.inspecting (agree_eq_iff.mpr rfl)) fun executable => ?_
  refine .bind_same (.modify fun executor twin same => ?_) fun _ => .bind .get fun executor twin same => ?_
  · exact { same with context := by rw [same.context], executable := rfl }
  · rw [same.programIdOffset]
    exact .bind_same (simulates_onBuffer (simulates_writeAll _ _)) fun _ => .pure rfl

omit [AccountSizes A] in
theorem simulates_updateInstruction (instruction : List UInt8) :
    Simulates Rehosted Eq (updateInstruction instruction : ExecutorM A Exe Log Unit)
      (updateInstruction instruction) := by
  refine .bind .get fun executor twin same => ?_
  rw [same.instructionSize, same.instructionOffset]
  refine .ite (fun _ => .throw _) fun _ => ?_
  exact .bind_same (simulates_onBuffer (simulates_write _ _)) fun _ =>
    .bind_same (simulates_onBuffer (simulates_writeAll _ _)) fun _ => .pure rfl

theorem simulates_updateAccount (index : Nat) (key : Pubkey) (account : T) (isSigner isWritable isExecutable : Bool) :
    Simulates Rehosted Eq
      (updateAccount index key account isSigner isWritable isExecutable : ExecutorM A Exe Log Unit)
      (updateAccount index key account isSigner isWritable isExecutable) := by
  refine .bind .get fun executor twin same => ?_
  dsimp only
  rw [same.accountSizes, same.accountOffsets]
  refine .ite (fun _ => .throw _) fun _ => .ite (fun _ => .throw _) fun _ => ?_
  cases executor.accountOffsets[index]? with
  | none => exact .throw _
  | some offset =>
      exact .bind_same (simulates_onBuffer (simulates_writeAccount _ _ _ _ _ _ _)) fun _ => .pure rfl

/-- Where the regions of one executor lie in the other's memory. -/
def relocations (runtime : Runtime Exe Regs Log) (roAddr : Exe → Nat) (executor twin : InstructionExecutor A Exe Log)
    (executable : Exe) : List Relocation :=
  List.zipWith Relocation.mk (regions runtime executor executable)
    [roAddr executable, twin.stack.hostAddr, twin.heap.hostAddr, twin.buffer.hostAddr]

section Execution

variable {runtime : Runtime Exe Regs Log} {roAddr : Exe → Nat}
  {executeStep : Exe → Regs → ByteMemory → Action Regs} {executor twin : InstructionExecutor A Exe Log}

omit [AccountSizes A] in
theorem regions_of_relocations (executable : Exe) :
    (relocations runtime roAddr executor twin executable).map Relocation.region = regions runtime executor executable :=
  rfl

omit [AccountSizes A] in
theorem moved_of_relocations (same : Rehosted executor twin) (executable : Exe) :
    (relocations runtime roAddr executor twin executable).map Relocation.moved =
      regions (runtime.relocate roAddr executeStep) twin executable := by
  have stack := same.stack.len
  have heap := same.heap.len
  have buffer := same.buffer.len
  simp only [relocations, regions, List.zipWith_cons_cons, List.zipWith_nil_right, List.map_cons, List.map_nil,
    stack, heap, buffer]
  rfl

omit [AccountSizes A] in
theorem rehosted_prepared (same : Rehosted executor twin) : Rehosted (prepared executor) (prepared twin) := by
  have stack := same.stack.len
  have heap := same.heap.len
  refine { same with
    context := ?_
    stack := ⟨?_, same.stack.maxLen, same.stack.uncheckedAppends⟩
    heap := ⟨?_, same.heap.maxLen, same.heap.uncheckedAppends⟩ }
  · simp only [prepared, clearReturnData, clearMemory, same.context]
  · simp only [prepared, clearReturnData, clearMemory, fillZero, stack]
  · simp only [prepared, clearReturnData, clearMemory, fillZero, heap]

omit [AccountSizes A] in
theorem start_agrees (same : Rehosted executor twin) {executable : Exe}
    (apart : HostsApart (regions runtime executor executable))
    (apart' : HostsApart (regions (runtime.relocate roAddr executeStep) twin executable)) :
    Relocation.Agrees (relocations runtime roAddr executor twin executable) (startState runtime executor executable)
      (startState (runtime.relocate roAddr executeStep) twin executable) := by
  have holds := hostMemory_holds apart
  have holds' := hostMemory_holds apart'
  refine ⟨same.context, fun move member offset bound => ?_⟩
  simp only [relocations, regions, List.zipWith_cons_cons, List.zipWith_nil_right, List.mem_cons,
    List.not_mem_nil, or_false] at member
  rcases member with rfl | rfl | rfl | rfl
  · exact ByteMemory.apply_of_read_eq (holds'.roSection.trans holds.roSection.symm) bound
  · have contents := holds'.stack
    rw [same.stack.len, same.stack.bytes, ← holds.stack] at contents
    exact ByteMemory.apply_of_read_eq contents bound
  · have contents := holds'.heap
    rw [same.heap.len, same.heap.bytes, ← holds.heap] at contents
    exact ByteMemory.apply_of_read_eq contents bound
  · have contents := holds'.buffer
    rw [same.buffer.len, same.buffer.bytes, ← holds.buffer] at contents
    exact ByteMemory.apply_of_read_eq contents bound

omit [AccountSizes A] in
theorem rehosted_afterRun (same : Rehosted executor twin) {executable : Exe} {state state' : SyscallState Log}
    (agrees : Relocation.Agrees (relocations runtime roAddr executor twin executable) state state') :
    Rehosted (afterRun executor state) (afterRun twin state') := by
  have readBack_eq : ∀ {buffer buffer' : AlignedMemory} {move : Relocation},
      move ∈ relocations runtime roAddr executor twin executable → SameContents buffer buffer' →
      move.region.hostAddr = buffer.hostAddr → move.region.len = buffer.len → move.newHostAddr = buffer'.hostAddr →
      SameContents (readBack state.memory buffer) (readBack state'.memory buffer') := by
    intro buffer buffer' move member contents hostAddr len newHostAddr
    refine ⟨?_, contents.maxLen, contents.uncheckedAppends⟩
    have whole : Relocation.Twins (relocations runtime roAddr executor twin executable) .load buffer.len
        (move.region.hostAddr + 0) (move.newHostAddr + 0) := .intro member rfl (by omega)
    have read := agrees.read whole
    rw [Nat.add_zero, Nat.add_zero, hostAddr, newHostAddr] at read
    simp only [readBack, contents.len, read]
  refine { same with
    context := agrees.context
    buffer := readBack_eq (.tail _ (.tail _ (.tail _ (.head _)))) same.buffer rfl rfl rfl
    stack := readBack_eq (.tail _ (.head _)) same.stack rfl rfl rfl
    heap := readBack_eq (.tail _ (.tail _ (.head _))) same.heap rfl rfl rfl }

/-- What is assumed of the machine in both places: instructions reach memory
only through the mapping, mappings differ in host addresses only, and no two
regions share host memory. -/
structure Relocatable (runtime : Runtime Exe Regs Log) (roAddr : Exe → Nat)
    (executeStep : Exe → Regs → ByteMemory → Action Regs) (decode : Exe → Regs → Operation Regs)
    (executor twin : InstructionExecutor A Exe Log) : Prop where
  mirrors : ∀ executable, Relocation.Mirrors (relocations runtime roAddr executor twin executable)
    (executeMapping runtime executor executable)
    (executeMapping (runtime.relocate roAddr executeStep) twin executable)
  steps : ∀ executable,
    StepsThrough runtime (executeMapping runtime executor executable) executable (decode executable)
  steps' : ∀ executable, StepsThrough (runtime.relocate roAddr executeStep)
    (executeMapping (runtime.relocate roAddr executeStep) twin executable) executable (decode executable)
  apart : ∀ executable, HostsApart (regions runtime executor executable)
  apart' : ∀ executable, HostsApart (regions (runtime.relocate roAddr executeStep) twin executable)

omit [AccountSizes A] in
theorem relocations_of_sameShape {after after' : InstructionExecutor A Exe Log} (shape : SameShape executor after)
    (shape' : SameShape twin after') (executable : Exe) :
    relocations runtime roAddr after after' executable = relocations runtime roAddr executor twin executable := by
  simp only [relocations, regions_of_sameShape shape, shape'.stack.hostAddr, shape'.heap.hostAddr,
    shape'.buffer.hostAddr]

omit [AccountSizes A] in
theorem Relocatable.of_sameShape {decode : Exe → Regs → Operation Regs} {after after' : InstructionExecutor A Exe Log}
    (relocatable : Relocatable runtime roAddr executeStep decode executor twin) (shape : SameShape executor after)
    (shape' : SameShape twin after') : Relocatable runtime roAddr executeStep decode after after' := by
  constructor <;> intro executable
  · rw [relocations_of_sameShape shape shape', executeMapping_of_sameShape shape, executeMapping_of_sameShape shape']
    exact relocatable.mirrors executable
  · rw [executeMapping_of_sameShape shape]
    exact relocatable.steps executable
  · rw [executeMapping_of_sameShape shape']
    exact relocatable.steps' executable
  · rw [regions_of_sameShape shape]
    exact relocatable.apart executable
  · rw [regions_of_sameShape shape']
    exact relocatable.apart' executable

variable {decode : Exe → Regs → Operation Regs}

omit [AccountSizes A] in
theorem runUpTo_paired (relocatable : Relocatable runtime roAddr executeStep decode executor twin)
    (same : Rehosted executor twin) (executable : Exe) (limit : Nat) :
    PairedOutcomes (Relocation.Agrees (relocations runtime roAddr executor twin executable))
      (runUpTo runtime executor executable limit)
      (runUpTo (runtime.relocate roAddr executeStep) twin executable limit) := by
  have shape := sameShape_prepared executor
  have shape' := sameShape_prepared twin
  have reached := relocatable.of_sameShape shape shape'
  have apart : Relocation.Apart (relocations runtime roAddr executor twin executable) := by
    rw [Relocation.apart_iff, regions_of_relocations, moved_of_relocations same]
    exact ⟨relocatable.apart executable, relocatable.apart' executable⟩
  have mirrors := reached.mirrors executable
  have start := start_agrees (rehosted_prepared same) (reached.apart executable) (reached.apart' executable)
  rw [relocations_of_sameShape shape shape'] at mirrors start
  have sameSyscalls : (runtime.relocate roAddr executeStep).toSyscallRuntime = runtime.toSyscallRuntime := rfl
  have paired := (Relocation.alike apart mirrors).runProgram sameSyscalls (reached.steps executable)
    (reached.steps' executable) executor.registry limit (runtime.entry executable executor.config) start
  have sameConfig := same.config
  have sameRegistry := same.registry
  unfold runUpTo
  rw [sameConfig, sameRegistry]
  exact paired

omit [AccountSizes A] in
theorem execute_paired (relocatable : Relocatable runtime roAddr executeStep decode executor twin)
    (same : Rehosted executor twin) :
    Paired Rehosted Eq (execute runtime executor) (execute (runtime.relocate roAddr executeStep) twin) := by
  cases program : executor.executable with
  | none =>
      rw [execute_missing program, execute_missing (same.executable.trans program)]
      refine .error { same with
        stack := ⟨?_, same.stack.maxLen, same.stack.uncheckedAppends⟩
        heap := ⟨?_, same.heap.maxLen, same.heap.uncheckedAppends⟩ }
      · simp only [clearMemory, fillZero, same.stack.len]
      · simp only [clearMemory, fillZero, same.heap.len]
  | some executable =>
      have paired := runUpTo_paired relocatable same executable executor.context.getRemaining
      have budget : twin.context.getRemaining = executor.context.getRemaining := by rw [same.context]
      have result : (runOf (runtime.relocate roAddr executeStep) twin executable).result =
          (runOf runtime executor executable).result := by
        rw [runOf_eq, runOf_eq, budget]
        exact paired.result
      have agrees : Relocation.Agrees (relocations runtime roAddr (prepared executor) (prepared twin) executable)
          (runOf runtime executor executable).state
          (runOf (runtime.relocate roAddr executeStep) twin executable).state := by
        rw [runOf_eq, runOf_eq, budget,
          relocations_of_sameShape (sameShape_prepared executor) (sameShape_prepared twin)]
        refine ⟨?_, paired.state.contents⟩
        simp only [paired.used, paired.state.context]
      have kept := rehosted_afterRun (rehosted_prepared same) agrees
      rw [execute_present program, execute_present (same.executable.trans program), result]
      split
      · exact .ok rfl kept
      · exact .error kept

theorem perform_paired (relocatable : Relocatable runtime roAddr executeStep decode executor twin)
    (same : Rehosted executor twin) (call : Call T) :
    Paired Rehosted Eq (call.perform runtime executor)
      (call.perform (runtime.relocate roAddr executeStep) twin) := by
  cases call with
  | updateProgram programId account jit =>
      exact simulates_updateProgram runtime roAddr executeStep programId account jit executor twin same
  | updateInstruction instruction => exact simulates_updateInstruction instruction executor twin same
  | updateAccount index key account isSigner isWritable isExecutable =>
      exact simulates_updateAccount index key account isSigner isWritable isExecutable executor twin same
  | execute => exact execute_paired relocatable same

end Execution

/-- What a caller sees of two executors after the same calls: the next call
returns the same, and so does reading return data and accounts. -/
structure Indistinguishable (T : Type) [ReadableAccount T] (runtime runtime' : Runtime Exe Regs Log)
    (executor twin : InstructionExecutor A Exe Log) : Prop where
  calls : ∀ call : Call T, Paired Rehosted Eq (call.perform runtime executor) (call.perform runtime' twin)
  context : twin.context = executor.context
  input : twin.buffer.bytes = executor.buffer.bytes
  returnData : getReturnData twin = getReturnData executor
  accounts : ∀ index, getAccount twin index = getAccount executor index

/-- Two executors that keep the shapes they had, at their own addresses. -/
structure KeptApart (fresh fresh' executor twin : InstructionExecutor A Exe Log) : Prop where
  shape : SameShape fresh executor
  shape' : SameShape fresh' twin
  rehosted : Rehosted executor twin

/-- Two executors of one layout, built at different host addresses and given
the same calls, cannot be told apart. -/
theorem history_layout_independent {runtime : Runtime Exe Regs Log} {roAddr : Exe → Nat}
    {executeStep : Exe → Regs → ByteMemory → Action Regs} {decode : Exe → Regs → Operation Regs}
    {host host' : HostLayout} {instructionSize : Nat} {accountSizes : A}
    {fresh fresh' : InstructionExecutor A Exe Log}
    (bounded : inputLength (slotSizes accountSizes) instructionSize ≤ isizeMax)
    (built : new runtime host instructionSize accountSizes = .ok fresh)
    (built' : new (runtime.relocate roAddr executeStep) host' instructionSize accountSizes = .ok fresh')
    (relocatable : Relocatable runtime roAddr executeStep decode fresh fresh') (history : List (Call T)) :
    Indistinguishable T runtime (runtime.relocate roAddr executeStep) (runHistory (step runtime) history fresh)
      (runHistory (step (runtime.relocate roAddr executeStep)) history fresh') := by
  have laidOut := (new_constructed bounded built).laidOut
  have laidOut' := (new_constructed bounded built').laidOut
  have start : Rehosted fresh fresh' := by
    have agree := new_rehosted runtime roAddr executeStep host host' instructionSize accountSizes
    rw [built, built'] at agree
    cases agree with
    | ok same => exact same
  have preserved : ∀ (call : Call T) executor twin, KeptApart fresh fresh' executor twin →
      KeptApart fresh fresh' (step runtime call executor)
        (step (runtime.relocate roAddr executeStep) call twin) := by
    intro call executor twin kept
    have here := laidOut.of_sameShape kept.shape
    have here' := laidOut'.of_sameShape kept.shape'
    have paired := perform_paired (relocatable.of_sameShape kept.shape kept.shape') kept.rehosted call
    exact ⟨kept.shape.trans ((step_cases here runtime call).sameShape here),
      kept.shape'.trans ((step_cases here' (runtime.relocate roAddr executeStep) call).sameShape here'),
      paired.stateAfter⟩
  have reached := runHistory_related preserved history ⟨.refl fresh, .refl fresh', start⟩
  have same := reached.rehosted
  refine ⟨perform_paired (relocatable.of_sameShape reached.shape reached.shape') same, same.context,
    same.buffer.bytes, ?_, ?_⟩
  · rw [getReturnData, getReturnData, same.context]
  · intro index
    rw [getAccount, getAccount, same.accountOffsets, same.buffer.bytes]

theorem history_layout_independent_store : ∃ fresh fresh',
    let runtime := mappedRuntime 0x1000 scriptHost 49 storingProgram
    let runtime' := mappedRuntime 0x2000 shiftedHost 49 storingProgram
    let history := [.updateProgram (.filled 1) scriptAccount false, .updateInstruction [5], .execute]
    new runtime scriptHost 1 ([] : List Nat) = .ok fresh ∧ new runtime' shiftedHost 1 ([] : List Nat) = .ok fresh' ∧
      Indistinguishable Account runtime runtime' (runHistory (step runtime) history fresh)
        (runHistory (step runtime') history fresh') := by
  have bounded : inputLength (slotSizes ([] : List Nat)) 1 ≤ isizeMax := by decide
  obtain ⟨fresh, built, constructed⟩ := mappedRuntime_new 0x1000 scriptHost 49 storingProgram bounded
  obtain ⟨fresh', built', constructed'⟩ := mappedRuntime_new 0x2000 shiftedHost 49 storingProgram bounded
  have same : Rehosted fresh fresh' := by
    have agree := new_rehosted (mappedRuntime 0x1000 scriptHost 49 storingProgram) (fun _ => 0x2000)
      (mappedStep 0x2000 shiftedHost 49 storingProgram) scriptHost shiftedHost 1 ([] : List Nat)
    rw [built] at agree
    change Agree Rehosted _ (new (mappedRuntime 0x2000 shiftedHost 49 storingProgram) shiftedHost 1 _) at agree
    rw [built'] at agree
    cases agree with
    | ok same => exact same
  have relocatable : Relocatable (mappedRuntime 0x1000 scriptHost 49 storingProgram) (fun _ => 0x2000)
      (mappedStep 0x2000 shiftedHost 49 storingProgram) (fun _ => storingProgram) fresh fresh' := by
    constructor <;> intro executable
    · have mirrors := Relocation.ofRegions_mirrors (relocations
        (mappedRuntime 0x1000 scriptHost 49 storingProgram) (fun _ => 0x2000) fresh fresh' ())
      rwa [regions_of_relocations, moved_of_relocations same] at mirrors
    · exact mappedRuntime_steps constructed rfl
    · exact mappedRuntime_steps constructed' rfl
    · rw [mappedRuntime_regions constructed rfl]
      exact hostsApart_mappedRegions (by decide) (by decide) (by decide)
    · have mapped := mappedRuntime_regions constructed' rfl
      refine mapped ▸ hostsApart_mappedRegions (by decide) (by decide) (by decide)
  exact ⟨fresh, fresh', built, built', history_layout_independent bounded built built' relocatable _⟩

end InstructionExecutor

end BpfSimulator
