import BpfSimulator.InstructionExecutor.LastUpdates

/-! The instruction section after an update. The update stores the length of
the section and the new data, and leaves the rest of the payload to whatever
was there before. -/

set_option autoImplicit false

namespace BpfSimulator.InstructionExecutor

open Foundation

variable {A Exe Regs Log T : Type} [AccountSizes A] [ReadableAccount T]

/-- The length word and the payload of the instruction. -/
def instructionSection (executor : InstructionExecutor A Exe Log) : List UInt8 :=
  slice executor.buffer.bytes executor.instructionOffset (8 + executor.instructionSize)

def instructionPayload (executor : InstructionExecutor A Exe Log) : List UInt8 :=
  slice executor.buffer.bytes (executor.instructionOffset + 8) executor.instructionSize

theorem instructionSection_updated {runtime : Runtime Exe Regs Log} {executor after : InstructionExecutor A Exe Log}
    {data : List UInt8} (laidOut : WellLaidOut executor)
    (updated : Updated runtime executor (.updateInstruction data : Call T) after) :
    instructionSection after =
      usizeToLe executor.instructionSize ++ data ++ (instructionPayload executor).drop data.length := by
  cases updated with
  | instruction fit =>
      have length := laidOut.bufferLength
      simp only [AlignedMemory.len, inputLength, programIdStart] at length
      have written : (usizeToLe executor.instructionSize ++ data).length = 8 + data.length := by simp
      simp only [instructionSection, instructionPayload, laidOut.instructionOffset, AlignedMemory.overwrite_bytes]
      rw [slice_splice_extend (by rw [written]; omega) (by rw [written]; omega), written, drop_slice,
        Nat.add_assoc, Nat.add_sub_add_left]

theorem instructionSection_history {runtime : Runtime Exe Regs Log} {host : HostLayout} {instructionSize : Nat}
    {accountSizes : A} {fresh : InstructionExecutor A Exe Log}
    (bounded : inputLength (slotSizes accountSizes) instructionSize ≤ isizeMax)
    (built : new runtime host instructionSize accountSizes = .ok fresh) {history : List (Call T)}
    {data : List UInt8}
    (success : succeeded ((Call.updateInstruction data : Call T).perform runtime
      (runHistory (step runtime) history fresh)) = true) :
    let executor := runHistory (step runtime) history fresh
    instructionSection (step runtime (.updateInstruction data : Call T) executor) =
      usizeToLe instructionSize ++ data ++ (instructionPayload executor).drop data.length := by
  intro executor
  have constructed := new_constructed bounded built
  have laidOut : WellLaidOut executor := history_laidOut history constructed.laidOut
  have size : executor.instructionSize = instructionSize :=
    (history_sameShape history constructed.laidOut).instructionSize.trans constructed.sameInstructionSize
  have stored := instructionSection_updated laidOut (updated_of_succeeded laidOut (by simp) success)
  rwa [size] at stored

/-- In every run, what a successful instruction update leaves in the section is
the padded instruction exactly when the payload behind its data was zero
before; and two runs that store the same instruction show the same section
exactly when their payloads agreed there before. -/
theorem instruction_section_padded_iff {runtime runtime' : Runtime Exe Regs Log} {host host' : HostLayout}
    {instructionSize : Nat} {accountSizes accountSizes' : A} {fresh fresh' : InstructionExecutor A Exe Log}
    (bounded : inputLength (slotSizes accountSizes) instructionSize ≤ isizeMax)
    (bounded' : inputLength (slotSizes accountSizes') instructionSize ≤ isizeMax)
    (built : new runtime host instructionSize accountSizes = .ok fresh)
    (built' : new runtime' host' instructionSize accountSizes' = .ok fresh')
    (history history' : List (Call T)) (data : List UInt8)
    (success : succeeded ((Call.updateInstruction data : Call T).perform runtime
      (runHistory (step runtime) history fresh)) = true)
    (success' : succeeded ((Call.updateInstruction data : Call T).perform runtime'
      (runHistory (step runtime') history' fresh')) = true) :
    let executor := runHistory (step runtime) history fresh
    let executor' := runHistory (step runtime') history' fresh'
    let after := step runtime (.updateInstruction data : Call T) executor
    let after' := step runtime' (.updateInstruction data : Call T) executor'
    (instructionSection after =
        usizeToLe instructionSize ++ data ++ List.replicate (instructionSize - data.length) 0 ↔
      (instructionPayload executor).drop data.length = List.replicate (instructionSize - data.length) 0) ∧
    (instructionSection after = instructionSection after' ↔
      (instructionPayload executor).drop data.length = (instructionPayload executor').drop data.length) := by
  intro executor executor' after after'
  have stored := instructionSection_history bounded built success
  have stored' := instructionSection_history bounded' built' success'
  constructor
  · rw [stored]
    exact List.append_right_inj _
  · rw [stored, stored']
    exact List.append_right_inj _

theorem instruction_section_padded_iff_shorter_before : ∃ fresh,
    new (scriptRuntime fun _ _ => .exit 0) scriptHost 3 ([] : List Nat) = .ok fresh ∧
      let runtime := scriptRuntime fun _ _ => .exit 0
      let executor := runHistory (step runtime) [(.updateInstruction [1] : Call Account)] fresh
      instructionSection (step runtime (.updateInstruction [9, 8] : Call Account) executor) =
        usizeToLe 3 ++ [9, 8] ++ List.replicate 1 0 := by
  have bounded : inputLength (slotSizes ([] : List Nat)) 3 ≤ isizeMax := by decide
  have built : new (scriptRuntime fun _ _ => .exit 0) scriptHost 3 ([] : List Nat) = .ok _ := rfl
  refine ⟨_, built, ?_⟩
  exact (instruction_section_padded_iff bounded bounded built built [(.updateInstruction [1] : Call Account)] []
    [9, 8] (by decide) (by decide)).1.mpr (by decide)

/-- A longer instruction shows through behind a shorter one. -/
theorem instruction_section_not_padded : ∃ fresh,
    new (scriptRuntime fun _ _ => .exit 0) scriptHost 3 ([] : List Nat) = .ok fresh ∧
      let runtime := scriptRuntime fun _ _ => .exit 0
      let executor := runHistory (step runtime) [(.updateInstruction [1, 2, 3] : Call Account)] fresh
      succeeded ((Call.updateInstruction [9] : Call Account).perform runtime executor) = true ∧
        instructionSection (step runtime (.updateInstruction [9] : Call Account) executor) =
          usizeToLe 3 ++ [9, 2, 3] ∧
        instructionSection (step runtime (.updateInstruction [9] : Call Account) executor) ≠
          usizeToLe 3 ++ [9] ++ List.replicate 2 0 := by
  exact ⟨_, rfl, by decide, by decide, by decide⟩

end BpfSimulator.InstructionExecutor
