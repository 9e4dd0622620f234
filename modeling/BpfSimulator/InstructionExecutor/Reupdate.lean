import BpfSimulator.InstructionExecutor.LastUpdates

/-! Updating every target again after arbitrary histories, executions
included. The updates determine every record, the length of the instruction
section and the program id; the account count is written by construction only. -/

set_option autoImplicit false

namespace BpfSimulator.InstructionExecutor

open Foundation

variable {A Exe Regs Log T : Type} [AccountSizes A] [ReadableAccount T]

def countBytes (executor : InstructionExecutor A Exe Log) : List UInt8 :=
  slice executor.buffer.bytes 0 8

/-- What the given updates determine of the bytes of a buffer that began with
`count` before them. -/
structure Determined (sizes : List Nat) (instructionSize : Nat) (count bytes : List UInt8)
    (calls : List (Call T)) : Prop where
  count : slice bytes 0 8 = count
  account : ∀ (index size : Nat) image, sizes[index]? = some size →
    lastSome (accountUpdate index) calls = some image →
    slice bytes (accountStart sizes index) (recordLength size) = accountRecord size image
  instruction : (lastSome instructionUpdate calls).isSome = true →
    slice bytes (instructionStart sizes) 8 = usizeToLe instructionSize
  programId : ∀ programId, lastSome programUpdate calls = some programId →
    slice bytes (programIdStart sizes instructionSize) 32 = programId.bytes

theorem determined_start (sizes : List Nat) (instructionSize : Nat) (bytes : List UInt8) :
    Determined sizes instructionSize (slice bytes 0 8) bytes ([] : List (Call T)) where
  count := rfl
  account := fun _ _ _ _ last => by cases last
  instruction := fun last => by cases last
  programId := fun _ last => by cases last

/-- A write by one call keeps what is determined if each target either lies
outside the written bytes or holds what the call stores. -/
theorem Determined.write {sizes : List Nat} {instructionSize start : Nat} {count bytes value : List UInt8}
    {calls : List (Call T)} {call : Call T} (determined : Determined sizes instructionSize count bytes calls)
    (room : start + value.length ≤ bytes.length) (behindCount : 8 ≤ start)
    (account : ∀ (index size : Nat), sizes[index]? = some size →
      (∃ image, accountUpdate index call = some image ∧
        slice (splice bytes start value) (accountStart sizes index) (recordLength size) = accountRecord size image) ∨
      accountUpdate index call = none ∧ (accountStart sizes index + recordLength size ≤ start ∨
        start + value.length ≤ accountStart sizes index))
    (instruction : slice (splice bytes start value) (instructionStart sizes) 8 = usizeToLe instructionSize ∨
      instructionUpdate call = none ∧ (instructionStart sizes + 8 ≤ start ∨ start + value.length ≤ instructionStart sizes))
    (programId : (∃ programId, programUpdate call = some programId ∧
        slice (splice bytes start value) (programIdStart sizes instructionSize) 32 = programId.bytes) ∨
      programUpdate call = none ∧ start + value.length ≤ programIdStart sizes instructionSize) :
    Determined sizes instructionSize count (splice bytes start value) (calls ++ [call]) where
  count := by
    rw [← determined.count]
    exact slice_splice_frame room (.inl behindCount)
  account := by
    intro index size image slot last
    rw [lastSome_snoc] at last
    cases account index size slot with
    | inl stored =>
        obtain ⟨_, updated, same⟩ := stored
        rw [updated] at last
        cases last
        exact same
    | inr kept =>
        rw [kept.1, Option.none_or] at last
        rw [← determined.account index size image slot last]
        exact slice_splice_frame room kept.2
  instruction := by
    intro last
    rw [lastSome_snoc] at last
    cases instruction with
    | inl same => exact same
    | inr kept =>
        rw [kept.1, Option.none_or] at last
        rw [← determined.instruction last]
        exact slice_splice_frame room kept.2
  programId := by
    intro stored last
    rw [lastSome_snoc] at last
    cases programId with
    | inl written =>
        obtain ⟨_, updated, same⟩ := written
        rw [updated] at last
        cases last
        exact same
    | inr kept =>
        rw [kept.1, Option.none_or] at last
        rw [← determined.programId stored last]
        exact slice_splice_frame room (.inr kept.2)

section Stores

variable {sizes : List Nat} {instructionSize : Nat} {count bytes : List UInt8} {calls : List (Call T)}

theorem Determined.storeProgramId (determined : Determined sizes instructionSize count bytes calls)
    (length : bytes.length = inputLength sizes instructionSize) (programId : Pubkey) (account : T) (jit : Bool) :
    Determined sizes instructionSize count (splice bytes (programIdStart sizes instructionSize) programId.bytes)
      (calls ++ [.updateProgram programId account jit]) := by
  have room : programIdStart sizes instructionSize + programId.bytes.length ≤ bytes.length := by
    rw [Pubkey.length_bytes, length, inputLength]
  refine determined.write room ?_ ?_ ?_ ?_
  · simp only [programIdStart, instructionStart]
    omega
  · intro index size slot
    have ends := accountEnd_le slot
    exact .inr ⟨rfl, .inl (by simp only [programIdStart]; omega)⟩
  · exact .inr ⟨rfl, .inl (by simp only [programIdStart]; omega)⟩
  · have same := slice_splice_same room
    rw [Pubkey.length_bytes] at same
    exact .inl ⟨programId, rfl, same⟩

theorem Determined.storeInstruction (determined : Determined sizes instructionSize count bytes calls)
    (length : bytes.length = inputLength sizes instructionSize) {data : List UInt8}
    (fit : data.length ≤ instructionSize) :
    Determined sizes instructionSize count
      (splice bytes (instructionStart sizes) (usizeToLe instructionSize ++ data))
      (calls ++ [.updateInstruction data]) := by
  have written : (usizeToLe instructionSize ++ data).length = 8 + data.length := by simp
  have room : instructionStart sizes + (usizeToLe instructionSize ++ data).length ≤ bytes.length := by
    rw [written, length, inputLength, programIdStart]
    omega
  refine determined.write room ?_ ?_ (.inl ?_) ?_
  · simp only [instructionStart]
    omega
  · exact fun index size slot => .inr ⟨rfl, .inl (accountEnd_le slot)⟩
  · have same := slice_splice_same room
    rw [written, slice_add] at same
    refine (List.append_inj same ?_).1
    rw [length_slice, length_splice room, length_usizeToLe]
    omega
  · exact .inr ⟨rfl, by simp only [written, programIdStart]; omega⟩

theorem Determined.storeAccount (determined : Determined sizes instructionSize count bytes calls)
    (length : bytes.length = inputLength sizes instructionSize) {slot size : Nat} (found : sizes[slot]? = some size)
    {key : Pubkey} {account : T} {isSigner isWritable isExecutable : Bool}
    (fit : (accountImage key account isSigner isWritable isExecutable).data.length ≤ size) :
    Determined sizes instructionSize count (splice bytes (accountStart sizes slot)
        (accountRecord size (accountImage key account isSigner isWritable isExecutable)))
      (calls ++ [.updateAccount slot key account isSigner isWritable isExecutable]) := by
  have ends := accountEnd_le found
  have written : (accountRecord size (accountImage key account isSigner isWritable isExecutable)).length =
      recordLength size := length_accountRecord fit
  have room : accountStart sizes slot +
      (accountRecord size (accountImage key account isSigner isWritable isExecutable)).length ≤ bytes.length := by
    rw [written, length, inputLength, programIdStart]
    omega
  refine determined.write room ?_ ?_ (.inr ⟨rfl, .inr ?_⟩) (.inr ⟨rfl, ?_⟩)
  · simp only [accountStart]
    omega
  · intro index indexSize indexSlot
    by_cases same : slot = index
    · subst same
      obtain rfl : size = indexSize := Option.some.inj (found.symm.trans indexSlot)
      have read := slice_splice_same room
      rw [written] at read
      exact .inl ⟨_, if_pos rfl, read⟩
    · refine .inr ⟨if_neg same, ?_⟩
      rw [written, ← accountStart_succ found, ← accountStart_succ indexSlot]
      rcases Nat.lt_or_gt_of_ne same with before | behind
      · exact .inr (accountStart_mono before)
      · exact .inl (accountStart_mono behind)
  · rw [written]
    exact ends
  · rw [written, programIdStart]
    omega

end Stores

theorem Determined.updated {runtime : Runtime Exe Regs Log} {count : List UInt8}
    {executor after : InstructionExecutor A Exe Log} {calls : List (Call T)} {call : Call T}
    (laidOut : WellLaidOut executor)
    (determined : Determined (slotSizes executor.accountSizes) executor.instructionSize count
      executor.buffer.bytes calls) (updated : Updated runtime executor call after) :
    Determined (slotSizes executor.accountSizes) executor.instructionSize count after.buffer.bytes
      (calls ++ [call]) := by
  cases updated with
  | @program programId account jit => exact determined.storeProgramId laidOut.bufferLength programId account jit
  | instruction fit => exact determined.storeInstruction laidOut.bufferLength fit
  | account found fit => exact determined.storeAccount laidOut.bufferLength found fit

/-- Outside the instruction payload. -/
def OutsidePayload (sizes : List Nat) (instructionSize index : Nat) : Prop :=
  index < instructionStart sizes + 8 ∨ programIdStart sizes instructionSize ≤ index

theorem agree_outside_payload {sizes : List Nat} {instructionSize : Nat} {left right : List UInt8}
    (leftLength : left.length = inputLength sizes instructionSize)
    (rightLength : right.length = inputLength sizes instructionSize)
    (count : slice left 0 8 = slice right 0 8)
    (records : slice left 8 (recordsLength sizes) = slice right 8 (recordsLength sizes))
    (lengthWord : slice left (instructionStart sizes) 8 = slice right (instructionStart sizes) 8)
    (programId : slice left (programIdStart sizes instructionSize) 32 =
      slice right (programIdStart sizes instructionSize) 32)
    {index : Nat} (outside : OutsidePayload sizes instructionSize index) : left[index]? = right[index]? := by
  have agree : ∀ {start size : Nat}, slice left start size = slice right start size → start ≤ index →
      index < start + size → left[index]? = right[index]? := by
    intro start size same lower upper
    have found := slice_eq_iff.mp same (index - start) (by omega)
    rwa [Nat.add_sub_cancel' lower] at found
  by_cases inCount : index < 8
  · exact agree count (by omega) (by omega)
  by_cases inRecords : index < instructionStart sizes
  · exact agree records (by omega) inRecords
  by_cases inLength : index < instructionStart sizes + 8
  · exact agree lengthWord (by omega) inLength
  by_cases inProgramId : index < inputLength sizes instructionSize
  · refine agree programId ?_ inProgramId
    rcases outside with before | behind
    · exact absurd before inLength
    · exact behind
  · rw [List.getElem?_eq_none (by omega), List.getElem?_eq_none (by omega)]

structure Reupdates (runtime : Runtime Exe Regs Log) (executor : InstructionExecutor A Exe Log)
    (closing : List (Call T)) (programId : Pubkey) (instruction : List UInt8)
    (accounts : Nat → AccountImage) : Prop where
  updatesOnly : ∀ call ∈ closing, call ≠ .execute
  program : lastSome programUpdate (successes runtime closing executor) = some programId
  instruction : lastSome instructionUpdate (successes runtime closing executor) = some instruction
  account : ∀ index < AccountSizes.len executor.accountSizes,
    lastSome (accountUpdate index) (successes runtime closing executor) = some (accounts index)

theorem determined_updates (runtime : Runtime Exe Regs Log) {executor : InstructionExecutor A Exe Log}
    (laidOut : WellLaidOut executor) {updates : List (Call T)}
    (updatesOnly : ∀ call ∈ updates, call ≠ .execute) :
    Determined (slotSizes executor.accountSizes) executor.instructionSize (countBytes executor)
      (runHistory (step runtime) updates executor).buffer.bytes (successes runtime updates executor) := by
  refine (updates_history (fun state calls => SameShape executor state ∧
    Determined (slotSizes executor.accountSizes) executor.instructionSize (countBytes executor)
      state.buffer.bytes calls) ?_ updatesOnly laidOut ⟨.refl executor, determined_start _ _ _⟩).2
  intro state after calls call laidOut holds updated
  obtain ⟨same, determined⟩ := holds
  refine ⟨same.trans (updated.sameShape laidOut), ?_⟩
  rw [← same.accountSizes, ← same.instructionSize] at determined ⊢
  exact determined.updated laidOut updated

/-- After the closing updates every target of an executor holds what they
stored, and its buffer has the length that construction gave it. -/
theorem Reupdates.determined {runtime : Runtime Exe Regs Log} {host : HostLayout} {instructionSize : Nat}
    {accountSizes : A} {fresh : InstructionExecutor A Exe Log}
    (constructed : Constructed runtime host instructionSize accountSizes fresh) {history closing : List (Call T)}
    {programId : Pubkey} {instruction : List UInt8} {accounts : Nat → AccountImage}
    (reupdates : Reupdates runtime (runHistory (step runtime) history fresh) closing programId instruction
      accounts) :
    let before := runHistory (step runtime) history fresh
    let final := runHistory (step runtime) closing before
    final.buffer.bytes.length = inputLength (slotSizes accountSizes) instructionSize ∧
      Determined (slotSizes accountSizes) instructionSize (countBytes before) final.buffer.bytes
        (successes runtime closing before) ∧
      ∀ index < AccountSizes.len accountSizes,
        lastSome (accountUpdate index) (successes runtime closing before) = some (accounts index) := by
  intro before final
  have shape : SameShape fresh before := history_sameShape history constructed.laidOut
  have laidOut := constructed.laidOut.of_sameShape shape
  have sizes : before.accountSizes = accountSizes := shape.accountSizes.trans constructed.sameAccountSizes
  have size : before.instructionSize = instructionSize :=
    shape.instructionSize.trans constructed.sameInstructionSize
  have determined := determined_updates runtime laidOut reupdates.updatesOnly
  have length : final.buffer.bytes.length = inputLength (slotSizes before.accountSizes) before.instructionSize :=
    (history_sameShape closing laidOut).buffer.len.trans laidOut.bufferLength
  have account := reupdates.account
  rw [sizes] at account
  rw [sizes, size] at determined length
  exact ⟨length, determined, account⟩

/-- Two executors of one layout are updated in every target, after arbitrary
histories and in any order, with the same last successful updates. Their
buffers then agree outside the instruction payload exactly when the account
counts agreed before the updates began. -/
theorem reupdated_buffers_agree_iff {runtime runtime' : Runtime Exe Regs Log} {host host' : HostLayout}
    {instructionSize : Nat} {accountSizes : A} {fresh fresh' : InstructionExecutor A Exe Log}
    (bounded : inputLength (slotSizes accountSizes) instructionSize ≤ isizeMax)
    (built : new runtime host instructionSize accountSizes = .ok fresh)
    (built' : new runtime' host' instructionSize accountSizes = .ok fresh')
    (history history' closing closing' : List (Call T)) (programId : Pubkey) (instruction : List UInt8)
    (accounts : Nat → AccountImage)
    (reupdates : Reupdates runtime (runHistory (step runtime) history fresh) closing programId instruction
      accounts)
    (reupdates' : Reupdates runtime' (runHistory (step runtime') history' fresh') closing' programId
      instruction accounts) :
    let before := runHistory (step runtime) history fresh
    let before' := runHistory (step runtime') history' fresh'
    let final := runHistory (step runtime) closing before
    let final' := runHistory (step runtime') closing' before'
    (∀ index, OutsidePayload (slotSizes accountSizes) instructionSize index →
        final.buffer.bytes[index]? = final'.buffer.bytes[index]?) ↔
      countBytes before = countBytes before' := by
  intro before before' final final'
  obtain ⟨length, determined, account⟩ := reupdates.determined (new_constructed bounded built)
  obtain ⟨length', determined', account'⟩ := reupdates'.determined (new_constructed bounded built')
  constructor
  · intro agree
    rw [← determined.count, ← determined'.count]
    apply slice_eq_iff.mpr
    intro offset bound
    exact agree (0 + offset) (.inl (by simp only [instructionStart]; omega))
  · intro sameCount index outside
    refine agree_outside_payload length length' ?_ ?_ ?_ ?_ outside
    · rw [determined.count, determined'.count, sameCount]
    · apply slice_records_eq
      intro slot slotSize found
      have bound : slot < AccountSizes.len accountSizes := by
        simpa only [length_slotSizes] using (List.getElem?_eq_some_iff.mp found).1
      rw [determined.account slot slotSize _ found (account slot bound),
        determined'.account slot slotSize _ found (account' slot bound)]
    · rw [determined.instruction (by rw [reupdates.instruction]; rfl),
        determined'.instruction (by rw [reupdates'.instruction]; rfl)]
    · rw [determined.programId _ reupdates.program, determined'.programId _ reupdates'.program]

/-- Updates of the program and the instruction of an executor without accounts. -/
def reupdateAll : List (Call Account) :=
  [.updateProgram (.filled 1) scriptAccount false, .updateInstruction []]

/-- The same updates with a run behind them. -/
def updateAndRun : List (Call Account) := reupdateAll ++ [.execute]

theorem reupdated_buffers_agree_after_run : ∃ fresh,
    new (scriptRuntime fun _ _ => .exit 0) scriptHost 0 ([] : List Nat) = .ok fresh ∧
      let step := step (scriptRuntime fun _ _ => .exit 0)
      let ran := runHistory step updateAndRun fresh
      ∀ index, OutsidePayload (slotSizes ([] : List Nat)) 0 index →
        (runHistory step reupdateAll ran).buffer.bytes[index]? =
          (runHistory step reupdateAll fresh).buffer.bytes[index]? := by
  have built : new (scriptRuntime fun _ _ => .exit 0) scriptHost 0 ([] : List Nat) = .ok _ := rfl
  have bounded : inputLength (slotSizes ([] : List Nat)) 0 ≤ isizeMax := by decide
  refine ⟨_, built, ?_⟩
  exact (reupdated_buffers_agree_iff bounded built built updateAndRun [] reupdateAll reupdateAll
    (.filled 1) [] (fun _ => AccountImage.empty)
    ⟨by simp [reupdateAll], by decide, by decide, fun index bound => absurd bound (Nat.not_lt_zero index)⟩
    ⟨by simp [reupdateAll], by decide, by decide, fun index bound => absurd bound (Nat.not_lt_zero index)⟩).mpr
    (by decide)

/-- The program that overwrites the first byte of its input. -/
def overwriteCount : Nat → ByteMemory → Action Nat
  | 0, memory => .next 1 (memory.write scriptHost.bufferAddr [7])
  | _, _ => .exit 0

/-- A run that overwrites the account count still shows after the updates. -/
theorem reupdated_buffers_differ : ∃ fresh,
    new (scriptRuntime overwriteCount) scriptHost 0 ([] : List Nat) = .ok fresh ∧
      let runtime := scriptRuntime overwriteCount
      let ran := runHistory (step runtime) updateAndRun fresh
      Reupdates runtime ran reupdateAll (.filled 1) [] (fun _ => AccountImage.empty) ∧
        Reupdates runtime fresh reupdateAll (.filled 1) [] (fun _ => AccountImage.empty) ∧
        OutsidePayload (slotSizes ([] : List Nat)) 0 0 ∧
        (runHistory (step runtime) reupdateAll ran).buffer.bytes[0]? = some 7 ∧
        (runHistory (step runtime) reupdateAll fresh).buffer.bytes[0]? = some 0 := by
  refine ⟨_, rfl, ?ran, ?fresh, .inl (by decide), by decide, by decide⟩
  case ran =>
    exact ⟨by simp [reupdateAll], by decide, by decide, fun index bound => absurd bound (Nat.not_lt_zero index)⟩
  case fresh =>
    exact ⟨by simp [reupdateAll], by decide, by decide, fun index bound => absurd bound (Nat.not_lt_zero index)⟩

end BpfSimulator.InstructionExecutor
