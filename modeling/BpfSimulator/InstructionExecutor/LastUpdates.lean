import Mathlib.Data.List.Induction
import BpfSimulator.InstructionExecutor.ExecutionProperties
import BpfSimulator.InstructionExecutor.EntrypointAbi
import BpfSimulator.InstructionExecutor.ScriptRuntime

/-! The abstract state of an executor: the last successful update of every
target. Along any history of updates the buffer is the image of that state,
so the entrypoint walk shows it. -/

set_option autoImplicit false

namespace BpfSimulator.InstructionExecutor

open Foundation EntrypointAbi

variable {A Exe Regs Log T : Type} [AccountSizes A] [ReadableAccount T]

/-- What a call stores in a slot. -/
def accountUpdate (index : Nat) : Call T → Option AccountImage
  | .updateAccount slot key account isSigner isWritable isExecutable =>
      if slot = index then some (accountImage key account isSigner isWritable isExecutable) else none
  | _ => none

/-- The program id that a call stores. -/
def programUpdate : Call T → Option Pubkey
  | .updateProgram programId _ _ => some programId
  | _ => none

def instructionUpdate : Call T → Option (List UInt8)
  | .updateInstruction data => some data
  | _ => none

def lastAccount (calls : List (Call T)) (index : Nat) : AccountImage :=
  (lastSome (accountUpdate index) calls).getD AccountImage.empty

def lastProgram (calls : List (Call T)) : Pubkey :=
  (lastSome programUpdate calls).getD Pubkey.default

/-- The instruction data stored so far, each update over the start of the previous ones. -/
def storedInstruction (instructionSize : Nat) (calls : List (Call T)) : List UInt8 :=
  (calls.filterMap instructionUpdate).foldl (fun stored data => splice stored 0 data)
    (List.replicate instructionSize 0)

omit [ReadableAccount T] in
theorem storedInstruction_snoc (instructionSize : Nat) (calls : List (Call T)) (call : Call T) :
    storedInstruction instructionSize (calls ++ [call]) =
      match instructionUpdate call with
      | some data => splice (storedInstruction instructionSize calls) 0 data
      | none => storedInstruction instructionSize calls := by
  simp only [storedInstruction, List.filterMap_append, List.foldl_append]
  cases stored : instructionUpdate call <;> simp [stored]

theorem lastAccount_snoc (calls : List (Call T)) (call : Call T) (index : Nat) :
    lastAccount (calls ++ [call]) index = (accountUpdate index call).getD (lastAccount calls index) := by
  rw [lastAccount, lastSome_snoc]
  cases stored : accountUpdate index call <;> rfl

omit [ReadableAccount T] in
theorem lastProgram_snoc (calls : List (Call T)) (call : Call T) :
    lastProgram (calls ++ [call]) = (programUpdate call).getD (lastProgram calls) := by
  rw [lastProgram, lastSome_snoc]
  cases stored : programUpdate call <;> rfl

/-- The image is that of the last updates. -/
structure ImageOf {sizes : List Nat} {instructionSize : Nat} (calls : List (Call T))
    (image : InputImage sizes instructionSize) : Prop where
  account : ∀ (index size : Nat), sizes[index]? = some size →
    image.accounts[index]? = some (lastAccount calls index)
  instruction : image.instruction = storedInstruction instructionSize calls
  programId : image.programId = lastProgram calls

/-- The executor is laid out and its buffer holds the image of the given updates. -/
structure Refines (executor : InstructionExecutor A Exe Log) (calls : List (Call T)) : Prop where
  laidOut : WellLaidOut executor
  holds : ∃ image : InputImage (slotSizes executor.accountSizes) executor.instructionSize,
    executor.buffer.bytes = image.bytes ∧ ImageOf calls image

theorem imageOf_initial (sizes : List Nat) (instructionSize : Nat) :
    ImageOf ([] : List (Call T)) (InputImage.initial sizes instructionSize) where
  account := by
    intro index size slot
    have bound : index < sizes.length := (List.getElem?_eq_some_iff.mp slot).1
    simp only [InputImage.initial, List.getElem?_replicate, if_pos bound]
    rfl
  instruction := rfl
  programId := rfl

section Image

variable {sizes : List Nat} {instructionSize : Nat} {calls : List (Call T)} {image : InputImage sizes instructionSize}

theorem ImageOf.setProgramId (imageOf : ImageOf calls image) (programId : Pubkey) (account : T) (jit : Bool) :
    ImageOf (calls ++ [.updateProgram programId account jit]) (image.setProgramId programId) where
  account := by
    intro index size slot
    rw [lastAccount_snoc]
    exact imageOf.account index size slot
  instruction := by
    rw [storedInstruction_snoc]
    exact imageOf.instruction
  programId := by
    rw [lastProgram_snoc]
    rfl

theorem ImageOf.setInstruction (imageOf : ImageOf calls image) {data : List UInt8}
    (fit : data.length ≤ instructionSize) :
    ImageOf (calls ++ [.updateInstruction data]) (image.setInstruction data fit) where
  account := by
    intro index size slot
    rw [lastAccount_snoc]
    exact imageOf.account index size slot
  instruction := by
    rw [storedInstruction_snoc]
    exact congrArg (fun stored => splice stored 0 data) imageOf.instruction
  programId := by
    rw [lastProgram_snoc]
    exact imageOf.programId

theorem ImageOf.setAccount (imageOf : ImageOf calls image) {slot size : Nat} (found : sizes[slot]? = some size)
    {key : Pubkey} {account : T} {isSigner isWritable isExecutable : Bool}
    (fit : (accountImage key account isSigner isWritable isExecutable).data.length ≤ size) :
    ImageOf (calls ++ [.updateAccount slot key account isSigner isWritable isExecutable])
      (image.setAccount found (accountImage key account isSigner isWritable isExecutable) fit) where
  account := by
    intro index indexSize indexSlot
    have previous := imageOf.account index indexSize indexSlot
    have bound : index < image.accounts.length := (List.getElem?_eq_some_iff.mp previous).1
    rw [lastAccount_snoc]
    simp only [InputImage.setAccount, accountUpdate]
    by_cases same : slot = index
    · subst same
      rw [List.getElem?_set_self bound, if_pos rfl, Option.getD_some]
    · rw [List.getElem?_set_ne same, if_neg same, Option.getD_none, previous]
  instruction := by
    rw [storedInstruction_snoc]
    exact imageOf.instruction
  programId := by
    rw [lastProgram_snoc]
    exact imageOf.programId

end Image

theorem Refines.updated {runtime : Runtime Exe Regs Log} {executor after : InstructionExecutor A Exe Log}
    {calls : List (Call T)} {call : Call T} (refines : Refines executor calls)
    (updated : Updated runtime executor call after) : Refines after (calls ++ [call]) := by
  have laidOut := refines.laidOut.of_sameShape (updated.sameShape refines.laidOut)
  obtain ⟨image, bytes, imageOf⟩ := refines.holds
  cases updated with
  | @program programId account jit executable loaded =>
      refine ⟨laidOut, image.setProgramId programId, ?_, imageOf.setProgramId programId account jit⟩
      rw [AlignedMemory.overwrite_bytes, bytes, InputImage.bytes_setProgramId]
  | @instruction data fit =>
      refine ⟨laidOut, image.setInstruction data fit, ?_, imageOf.setInstruction fit⟩
      rw [AlignedMemory.overwrite_bytes, bytes, InputImage.bytes_setInstruction]
  | account found fit =>
      refine ⟨laidOut, image.setAccount found _ fit, ?_, imageOf.setAccount found fit⟩
      rw [AlignedMemory.overwrite_bytes, bytes]
      exact image.bytes_setAccount found _ fit

theorem updates_history {runtime : Runtime Exe Regs Log}
    (related : InstructionExecutor A Exe Log → List (Call T) → Prop)
    (preserved : ∀ {executor after : InstructionExecutor A Exe Log} {calls : List (Call T)} {call : Call T},
      WellLaidOut executor → related executor calls → Updated runtime executor call after →
        related after (calls ++ [call]))
    {history : List (Call T)} (updatesOnly : ∀ call ∈ history, call ≠ .execute)
    {executor : InstructionExecutor A Exe Log} (laidOut : WellLaidOut executor) {calls : List (Call T)}
    (start : related executor calls) :
    related (runHistory (step runtime) history executor) (calls ++ successes runtime history executor) := by
  refine history_related related ?_ updatesOnly laidOut start
  intro executor after calls call laidOut isUpdate holds stepped
  cases stepped with
  | refused _ failed => simpa only [failed, succeeded_error, Bool.false_eq_true, ↓reduceIte] using holds
  | updated updated =>
      simpa only [updated.ran laidOut, succeeded_ok, ↓reduceIte] using preserved laidOut holds updated
  | missing => exact absurd rfl isUpdate
  | executed => exact absurd rfl isUpdate

omit [ReadableAccount T] in
theorem storedInstruction_prefix {instructionSize : Nat} {calls : List (Call T)} {data : List UInt8}
    (last : lastSome instructionUpdate calls = some data) :
    data <+: storedInstruction instructionSize calls := by
  induction calls using List.reverseRecOn with
  | nil => cases last
  | append_singleton calls call ih =>
      rw [lastSome_snoc] at last
      rw [storedInstruction_snoc]
      cases stored : instructionUpdate call with
      | none =>
          rw [stored, Option.none_or] at last
          exact ih last
      | some newest =>
          rw [stored, Option.some_or] at last
          cases last
          simp only [splice, List.take_zero, List.nil_append]
          exact List.prefix_append data _

/-- After any updates of a constructed executor the buffer is the image of the successful ones. -/
theorem updates_refine {runtime : Runtime Exe Regs Log} {host : HostLayout} {instructionSize : Nat}
    {accountSizes : A} {executor : InstructionExecutor A Exe Log}
    (constructed : Constructed runtime host instructionSize accountSizes executor)
    {history : List (Call T)} (updatesOnly : ∀ call ∈ history, call ≠ .execute) :
    Refines (runHistory (step runtime) history executor) (successes runtime history executor) := by
  obtain rfl := constructed.sameAccountSizes
  obtain rfl := constructed.sameInstructionSize
  have initial : Refines executor ([] : List (Call T)) :=
    ⟨constructed.laidOut, _, constructed.bytes, imageOf_initial _ _⟩
  exact updates_history Refines (fun _ refines updated => refines.updated updated) updatesOnly constructed.laidOut
    initial

/-- Whatever updates are tried after construction, the buffer keeps the length
precomputed for it, no unchecked append of the construction left that length,
and walking the buffer consumes it whole and shows the last successful update
of every target. -/
theorem input_shows_last_updates {runtime : Runtime Exe Regs Log} {host : HostLayout}
    {instructionSize : Nat} {accountSizes : A} {executor : InstructionExecutor A Exe Log}
    (bounded : inputLength (slotSizes accountSizes) instructionSize ≤ isizeMax)
    (built : new runtime host instructionSize accountSizes = .ok executor)
    {history : List (Call T)} (updatesOnly : ∀ call ∈ history, call ≠ .execute) :
    let final := runHistory (step runtime) history executor
    let calls := successes runtime history executor
    executor.buffer.len = bufferCapacity instructionSize accountSizes ∧
      final.buffer.len = bufferCapacity instructionSize accountSizes ∧
      (∀ append ∈ executor.buffer.uncheckedAppends,
        append.1 ≤ append.2 ∧ append.2 ≤ bufferCapacity instructionSize accountSizes) ∧
      ∃ view, readInput ⟨0, final.buffer.bytes⟩ = some (view, ⟨final.buffer.len, []⟩) ∧
        view.accounts.length = AccountSizes.len accountSizes ∧
        (∀ index < AccountSizes.len accountSizes, ∃ dataStart, dataStart % bpfAlignOfU128 = 0 ∧
          view.accounts[index]? = some (AccountView.ofImage (AccountSizes.size accountSizes index) dataStart
            (lastAccount calls index))) ∧
        view.instruction.length = instructionSize ∧
        view.instruction = storedInstruction instructionSize calls ∧
        (∀ data, lastSome instructionUpdate calls = some data → data <+: view.instruction) ∧
        view.programId = lastProgram calls := by
  intro final calls
  have constructed := new_constructed bounded built
  have refines : Refines final calls := updates_refine constructed updatesOnly
  obtain rfl := constructed.sameAccountSizes
  obtain rfl := constructed.sameInstructionSize
  have same : SameShape executor final := history_sameShape history constructed.laidOut
  have capacity := bufferCapacity_eq bounded
  have length : executor.buffer.len = bufferCapacity executor.instructionSize executor.accountSizes := by
    rw [constructed.laidOut.bufferLength, capacity]
  have holds := refines.holds
  rw [same.accountSizes, same.instructionSize] at holds
  obtain ⟨image, bytes, imageOf⟩ := holds
  obtain ⟨view, walked, shown⟩ := readInput_bytes image bounded
  refine ⟨length, same.buffer.len.trans length, ?_, view, ?_, ?_, ?_, ?_, ?_, ?_, ?_⟩
  · intro append member
    have within := constructed.within append member
    rwa [constructed.capacity] at within
  · rw [bytes, walked, same.buffer.len, constructed.laidOut.bufferLength]
  · rw [shown.count, length_slotSizes]
  · intro index bound
    have slot := getElem?_slotSizes bound
    exact shown.account index _ _ slot (imageOf.account index _ slot)
  · rw [shown.instruction, image.instructionLength]
  · rw [shown.instruction, imageOf.instruction]
  · intro data last
    rw [shown.instruction, imageOf.instruction]
    exact storedInstruction_prefix last
  · rw [shown.programId, imageOf.programId]

theorem input_shows_last_updates_two_instructions : ∃ executor,
    new (scriptRuntime fun _ _ => .exit 0) scriptHost 3 [5] = .ok executor ∧
      let history : List (Call Account) := [.updateInstruction [1, 2], .updateInstruction [1, 2, 3, 4]]
      let final := runHistory (step (scriptRuntime fun _ _ => .exit 0)) history executor
      ∃ view, readInput ⟨0, final.buffer.bytes⟩ = some (view, ⟨final.buffer.len, []⟩) ∧
        view.accounts.length = 1 ∧ view.instruction.length = 3 := by
  have bounded : inputLength (slotSizes [5]) 3 ≤ isizeMax := by decide
  obtain ⟨executor, built, _⟩ := scriptRuntime_new (fun _ _ => .exit 0) bounded
  obtain ⟨_, _, _, view, walked, count, _, length, _⟩ := input_shows_last_updates bounded built
    (show ∀ call ∈ [(.updateInstruction [1, 2] : Call Account), .updateInstruction [1, 2, 3, 4]],
      call ≠ .execute by simp)
  exact ⟨executor, built, view, walked, count, length⟩

end BpfSimulator.InstructionExecutor
