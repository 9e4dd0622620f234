import BpfSimulator.InstructionExecutor.ConstructionProperties

/-! The mutating calls of an executor and what each of them can do. Updates
either fail without a trace or overwrite one stretch of the buffer that their
target and arguments determine; execution keeps the layout. -/

set_option autoImplicit false

namespace BpfSimulator.InstructionExecutor

open Foundation

variable {A Exe Regs Log T : Type} [AccountSizes A] [ReadableAccount T]

/-- The calls that change an executor. -/
inductive Call (T : Type) where
  | updateProgram (programId : Pubkey) (account : T) (jit : Bool)
  | updateInstruction (instruction : List UInt8)
  | updateAccount (index : Nat) (key : Pubkey) (account : T) (isSigner isWritable isExecutable : Bool)
  | execute

def Call.perform (runtime : Runtime Exe Regs Log) : Call T → ExecutorM A Exe Log Unit
  | .updateProgram programId account jit => InstructionExecutor.updateProgram runtime programId account jit
  | .updateInstruction instruction => InstructionExecutor.updateInstruction instruction
  | .updateAccount index key account isSigner isWritable isExecutable =>
      InstructionExecutor.updateAccount index key account isSigner isWritable isExecutable
  | .execute => InstructionExecutor.execute runtime

def step (runtime : Runtime Exe Regs Log) (call : Call T) (executor : InstructionExecutor A Exe Log) :
    InstructionExecutor A Exe Log :=
  stateAfter (call.perform runtime executor)

/-- The calls of a history that succeed, in order. -/
def successes (runtime : Runtime Exe Regs Log) :
    List (Call T) → InstructionExecutor A Exe Log → List (Call T)
  | [], _ => []
  | call :: rest, executor =>
      if succeeded (call.perform runtime executor) then
        call :: successes runtime rest (step runtime call executor)
      else successes runtime rest (step runtime call executor)

/-- The successful updates, with the executor they leave behind. -/
inductive Updated (runtime : Runtime Exe Regs Log) (executor : InstructionExecutor A Exe Log) :
    Call T → InstructionExecutor A Exe Log → Prop where
  | program {programId : Pubkey} {account : T} {jit : Bool} {executable : Exe}
      (loaded : loadExecutable runtime (ReadableAccount.data account) jit = .ok executable) :
      Updated runtime executor (.updateProgram programId account jit)
        { executor with
          executable := some executable
          context := { executor.context with programId }
          buffer := executor.buffer.overwrite
            (programIdStart (slotSizes executor.accountSizes) executor.instructionSize) programId.bytes }
  | instruction {data : List UInt8} (fit : data.length ≤ executor.instructionSize) :
      Updated runtime executor (.updateInstruction data)
        { executor with
          buffer := executor.buffer.overwrite (instructionStart (slotSizes executor.accountSizes))
            (usizeToLe executor.instructionSize ++ data) }
  | account {index size : Nat} {key : Pubkey} {account : T} {isSigner isWritable isExecutable : Bool}
      (slot : (slotSizes executor.accountSizes)[index]? = some size)
      (fit : (ReadableAccount.data account).length ≤ size) :
      Updated runtime executor (.updateAccount index key account isSigner isWritable isExecutable)
        { executor with
          buffer := executor.buffer.overwrite (accountStart (slotSizes executor.accountSizes) index)
            (accountRecord size (accountImage key account isSigner isWritable isExecutable)) }

/-- Two states of one buffer: the place and the size are the same. -/
structure SameBlock (before after : AlignedMemory) : Prop where
  hostAddr : after.hostAddr = before.hostAddr
  len : after.len = before.len
  maxLen : after.maxLen = before.maxLen
  uncheckedAppends : after.uncheckedAppends = before.uncheckedAppends

theorem SameBlock.refl (buffer : AlignedMemory) : SameBlock buffer buffer := ⟨rfl, rfl, rfl, rfl⟩

theorem SameBlock.symm {before after : AlignedMemory} (same : SameBlock before after) : SameBlock after before :=
  ⟨same.hostAddr.symm, same.len.symm, same.maxLen.symm, same.uncheckedAppends.symm⟩

theorem SameBlock.trans {first second third : AlignedMemory} (left : SameBlock first second)
    (right : SameBlock second third) : SameBlock first third where
  hostAddr := right.hostAddr.trans left.hostAddr
  len := right.len.trans left.len
  maxLen := right.maxLen.trans left.maxLen
  uncheckedAppends := right.uncheckedAppends.trans left.uncheckedAppends

theorem SameBlock.overwrite {buffer : AlignedMemory} {start : Nat} {value : List UInt8}
    (room : start + value.length ≤ buffer.len) : SameBlock buffer (buffer.overwrite start value) :=
  ⟨rfl, AlignedMemory.overwrite_len room, rfl, rfl⟩

/-- Two states of one executor: what construction fixed is the same. -/
structure SameShape (before after : InstructionExecutor A Exe Log) : Prop where
  config : after.config = before.config
  registry : after.registry = before.registry
  instructionSize : after.instructionSize = before.instructionSize
  accountSizes : after.accountSizes = before.accountSizes
  accountOffsets : after.accountOffsets = before.accountOffsets
  instructionOffset : after.instructionOffset = before.instructionOffset
  programIdOffset : after.programIdOffset = before.programIdOffset
  buffer : SameBlock before.buffer after.buffer
  stack : SameBlock before.stack after.stack
  heap : SameBlock before.heap after.heap

omit [AccountSizes A] in
theorem SameShape.refl (executor : InstructionExecutor A Exe Log) : SameShape executor executor :=
  ⟨rfl, rfl, rfl, rfl, rfl, rfl, rfl, .refl _, .refl _, .refl _⟩

omit [AccountSizes A] in
theorem SameShape.symm {before after : InstructionExecutor A Exe Log} (same : SameShape before after) :
    SameShape after before where
  config := same.config.symm
  registry := same.registry.symm
  instructionSize := same.instructionSize.symm
  accountSizes := same.accountSizes.symm
  accountOffsets := same.accountOffsets.symm
  instructionOffset := same.instructionOffset.symm
  programIdOffset := same.programIdOffset.symm
  buffer := same.buffer.symm
  stack := same.stack.symm
  heap := same.heap.symm

omit [AccountSizes A] in
theorem SameShape.trans {first second third : InstructionExecutor A Exe Log} (left : SameShape first second)
    (right : SameShape second third) : SameShape first third where
  config := right.config.trans left.config
  registry := right.registry.trans left.registry
  instructionSize := right.instructionSize.trans left.instructionSize
  accountSizes := right.accountSizes.trans left.accountSizes
  accountOffsets := right.accountOffsets.trans left.accountOffsets
  instructionOffset := right.instructionOffset.trans left.instructionOffset
  programIdOffset := right.programIdOffset.trans left.programIdOffset
  buffer := left.buffer.trans right.buffer
  stack := left.stack.trans right.stack
  heap := left.heap.trans right.heap

theorem WellLaidOut.of_sameShape {before after : InstructionExecutor A Exe Log} (laidOut : WellLaidOut before)
    (same : SameShape before after) : WellLaidOut after where
  accountOffsets := by rw [same.accountOffsets, same.accountSizes, laidOut.accountOffsets]
  instructionOffset := by rw [same.instructionOffset, same.accountSizes, laidOut.instructionOffset]
  programIdOffset := by
    rw [same.programIdOffset, same.accountSizes, same.instructionSize, laidOut.programIdOffset]
  bufferLength := by
    rw [same.buffer.len, same.accountSizes, same.instructionSize, laidOut.bufferLength]
  bounded := by
    rw [same.accountSizes, same.instructionSize]
    exact laidOut.bounded

theorem Updated.sameShape {runtime : Runtime Exe Regs Log} {executor after : InstructionExecutor A Exe Log}
    {call : Call T} (laidOut : WellLaidOut executor) (updated : Updated runtime executor call after) :
    SameShape executor after := by
  have length := laidOut.bufferLength
  simp only [inputLength, programIdStart] at length
  cases updated with
  | program loaded =>
      refine ⟨rfl, rfl, rfl, rfl, rfl, rfl, rfl, .overwrite ?_, .refl _, .refl _⟩
      simp only [Pubkey.length_bytes, programIdStart]
      omega
  | instruction fit =>
      refine ⟨rfl, rfl, rfl, rfl, rfl, rfl, rfl, .overwrite ?_, .refl _, .refl _⟩
      simp only [List.length_append, length_usizeToLe]
      omega
  | account slot fit =>
      have ends := accountEnd_le slot
      refine ⟨rfl, rfl, rfl, rfl, rfl, rfl, rfl, .overwrite ?_, .refl _, .refl _⟩
      rw [length_accountRecord fit]
      omega

omit [AccountSizes A] in
private theorem onBuffer_overwrite {executor : InstructionExecutor A Exe Log} {start : Nat}
    {value : List UInt8} (room : start + value.length ≤ executor.buffer.len) :
    (onBuffer (overwriteAt start value) : ExecutorM A Exe Log Nat) executor =
      .ok (start + value.length) { executor with buffer := executor.buffer.overwrite start value } :=
  onComponent_ok (overwriteAt_run room)

variable {runtime : Runtime Exe Regs Log} {executor after : InstructionExecutor A Exe Log} {call : Call T}

theorem updateProgram_ok (laidOut : WellLaidOut executor) {programId : Pubkey} {account : T} {jit : Bool}
    {executable : Exe} (loaded : loadExecutable runtime (ReadableAccount.data account) jit = .ok executable) :
    updateProgram runtime programId account jit executor = .ok () { executor with
      executable := some executable
      context := { executor.context with programId }
      buffer := executor.buffer.overwrite
        (programIdStart (slotSizes executor.accountSizes) executor.instructionSize) programId.bytes } := by
  have length := laidOut.bufferLength
  simp only [updateProgram, loaded, writeAll_some]
  rw [bind_run_ok (inspecting_ok_run executable executor), bind_run_ok (modify_run _ _),
    bind_run_ok (get_run _), bind_run_ok (onBuffer_overwrite ?room)]
  · rw [laidOut.programIdOffset]
    rfl
  · simp only [laidOut.programIdOffset, Pubkey.length_bytes, length, inputLength, Nat.le_refl]

theorem updateInstruction_ok (laidOut : WellLaidOut executor) {data : List UInt8}
    (fit : data.length ≤ executor.instructionSize) :
    updateInstruction data executor = .ok () { executor with
      buffer := executor.buffer.overwrite (instructionStart (slotSizes executor.accountSizes))
        (usizeToLe executor.instructionSize ++ data) } := by
  have length := laidOut.bufferLength
  simp only [inputLength, programIdStart] at length
  have header : executor.instructionOffset + (usizeToLe executor.instructionSize).length ≤
      executor.buffer.len := by
    rw [laidOut.instructionOffset, length_usizeToLe]
    omega
  have whole : executor.instructionOffset + (usizeToLe executor.instructionSize).length + data.length ≤
      executor.buffer.len := by
    rw [laidOut.instructionOffset, length_usizeToLe]
    omega
  have payload : executor.instructionOffset + 8 + data.length ≤
      (executor.buffer.overwrite executor.instructionOffset (usizeToLe executor.instructionSize)).len := by
    rw [AlignedMemory.overwrite_len header]
    rwa [length_usizeToLe] at whole
  have joined := AlignedMemory.overwrite_overwrite whole
  rw [length_usizeToLe] at joined
  simp only [updateInstruction, write_some, writeAll_some]
  rw [bind_run_ok (get_run _), if_neg (Nat.not_lt.mpr fit), bind_run_ok (onBuffer_overwrite header),
    bind_run_ok (onBuffer_overwrite payload), joined, laidOut.instructionOffset, pure_run]

theorem updateAccount_ok (laidOut : WellLaidOut executor) {index size : Nat} {key : Pubkey} {account : T}
    {isSigner isWritable isExecutable : Bool} (slot : (slotSizes executor.accountSizes)[index]? = some size)
    (fit : (ReadableAccount.data account).length ≤ size) :
    updateAccount index key account isSigner isWritable isExecutable executor = .ok () { executor with
      buffer := executor.buffer.overwrite (accountStart (slotSizes executor.accountSizes) index)
        (accountRecord size (accountImage key account isSigner isWritable isExecutable)) } := by
  have bound : index < AccountSizes.len executor.accountSizes := by
    simpa only [length_slotSizes] using (List.getElem?_eq_some_iff.mp slot).1
  obtain rfl : AccountSizes.size executor.accountSizes index = size :=
    Option.some.inj ((getElem?_slotSizes bound).symm.trans slot)
  have offset : executor.accountOffsets[index]? =
      some (accountStart (slotSizes executor.accountSizes) index) := by
    simp [laidOut.accountOffsets, List.getElem?_range bound]
  have ends := accountEnd_le slot
  have length := laidOut.bufferLength
  have limit := laidOut.bounded
  simp only [inputLength, programIdStart, isizeMax] at length limit
  have room : accountStart (slotSizes executor.accountSizes) index +
      recordLength (AccountSizes.size executor.accountSizes index) ≤ executor.buffer.len := by omega
  have representable : recordLength (AccountSizes.size executor.accountSizes index) < wordRange := by
    simp only [wordRange]
    omega
  simp only [updateAccount]
  rw [bind_run_ok (get_run _), AccountSizes.answers_slots _ _ bound, if_neg (by decide),
    if_neg (Nat.not_lt.mpr fit)]
  simp only [offset]
  exact bind_run_ok (onComponent_ok (writeAccount_some fit representable room))

theorem Updated.ran (laidOut : WellLaidOut executor) (updated : Updated runtime executor call after) :
    call.perform runtime executor = .ok () after := by
  cases updated with
  | program loaded => exact updateProgram_ok laidOut loaded
  | instruction fit => exact updateInstruction_ok laidOut fit
  | account slot fit => exact updateAccount_ok laidOut slot fit

theorem perform_cases (laidOut : WellLaidOut executor) (runtime : Runtime Exe Regs Log)
    (isUpdate : call ≠ .execute) :
    (∃ error, call.perform runtime executor = .error error executor) ∨
      ∃ after, Updated runtime executor call after := by
  cases call with
  | updateProgram programId account jit =>
      cases loaded : loadExecutable runtime (ReadableAccount.data account) jit with
      | ok executable => exact .inr ⟨_, .program loaded⟩
      | error error =>
          refine .inl ⟨error, ?_⟩
          simp only [Call.perform, updateProgram, loaded]
          exact bind_run_error (inspecting_error_run error executor)
  | updateInstruction data =>
      by_cases fit : data.length ≤ executor.instructionSize
      · exact .inr ⟨_, .instruction fit⟩
      · refine .inl ⟨.invalidInstruction, ?_⟩
        simp only [Call.perform, updateInstruction]
        rw [bind_run_ok (get_run _), if_pos (Nat.lt_of_not_le fit), throw_run]
  | updateAccount index key account isSigner isWritable isExecutable =>
      simp only [Call.perform, updateAccount]
      rw [bind_run_ok (get_run _)]
      cases answers : AccountSizes.answers executor.accountSizes index with
      | false => exact .inl ⟨.outOfBounds, rfl⟩
      | true =>
          rw [if_neg (by decide)]
          by_cases fit : (ReadableAccount.data account).length ≤ AccountSizes.size executor.accountSizes index
          · rw [if_neg (Nat.not_lt.mpr fit)]
            by_cases bound : index < AccountSizes.len executor.accountSizes
            · exact .inr ⟨_, .account (getElem?_slotSizes bound) fit⟩
            · have missing : executor.accountOffsets[index]? = none := by
                apply List.getElem?_eq_none
                simp only [laidOut.accountOffsets, List.length_map, List.length_range]
                omega
              exact .inl ⟨.outOfBounds, by simp only [missing]; rfl⟩
          · exact .inl ⟨.invalidAccount, by rw [if_pos (Nat.lt_of_not_le fit), throw_run]⟩
  | execute => exact absurd rfl isUpdate

theorem updated_of_succeeded (laidOut : WellLaidOut executor) (isUpdate : call ≠ .execute)
    (success : succeeded (call.perform runtime executor) = true) :
    Updated runtime executor call (step runtime call executor) := by
  rcases perform_cases laidOut runtime isUpdate with ⟨error, failed⟩ | ⟨after, updated⟩
  · rw [failed] at success
    cases success
  · simpa only [step, updated.ran laidOut, stateAfter_ok] using updated

end BpfSimulator.InstructionExecutor
