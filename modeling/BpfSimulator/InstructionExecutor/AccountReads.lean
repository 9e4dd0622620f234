import BpfSimulator.InstructionExecutor.Calls
import BpfSimulator.InstructionExecutor.Capacity
import BpfSimulator.InstructionExecutor.ScriptRuntime

/-! Reading an account back. The fields of a record lie at fixed places but
for the rent epoch, whose place the reader computes from the data length it
finds and the writer from the size of the slot. -/

set_option autoImplicit false

namespace BpfSimulator.InstructionExecutor

open Foundation

def recordedLength (bytes : List UInt8) (start : Nat) : Nat := (u64FromLe (slice bytes (start + 80) 8)).toNat

/-- Where the reader of a record looks for the rent epoch. -/
def rentRead (start dataLen : Nat) : Nat :=
  start + 88 + dataLen + alignOffset dataLen bpfAlignOfU128 + maxPermittedDataIncrease

/-- Where the writer of a record put the rent epoch. -/
def rentPlace (start size : Nat) : Nat := start + 88 + fillLength size

section Reading

variable {bytes : List UInt8} {start : Nat}

/-- What an account says that was read from a record with the rent epoch at `rent`. -/
structure Holds (bytes : List UInt8) (start rent : Nat) (account : Account) : Prop where
  executable : account.executable = (bytes[start + 3]? == some 1)
  owner : account.owner.bytes = slice bytes (start + 40) 32
  lamports : account.lamports = u64FromLe (slice bytes (start + 72) 8)
  data : account.data = slice bytes (start + 88) (recordedLength bytes start)
  dataLength : account.data.length = recordedLength bytes start
  rentEpoch : account.rentEpoch = u64FromLe (slice bytes rent 8)

theorem readRange_eq (bytes : List UInt8) (start count : Nat) :
    readRange bytes start (start + count) =
      if start + count ≤ bytes.length then .ok (slice bytes start count) else .error .outOfBounds := by
  simp only [readRange, Nat.le_add_right, true_and, Nat.add_sub_cancel_left]

theorem readRange_wrapping {count : Nat} (small : bytes.length < wordRange) (word : count < wordRange)
    (inside : start ≤ bytes.length) :
    readRange bytes start (wrappingAdd start count) =
      if start + count ≤ bytes.length then .ok (slice bytes start count) else .error .outOfBounds := by
  by_cases room : start + count ≤ bytes.length
  · rw [wrappingAdd_eq (by omega), readRange_eq]
  · rw [readRange, if_neg, if_neg room]
    intro range
    obtain ⟨forward, stops⟩ := range
    simp only [wrappingAdd, wordRange] at *
    omega

theorem pubkeyFrom_ok (size : bytes.length = 32) : pubkeyFrom bytes = .ok ⟨bytes, size⟩ := dif_pos size

/-- Reading a record fails exactly when its rent epoch is looked for behind the buffer. -/
theorem readAccount_eq (small : bytes.length + 16384 < wordRange) (header : start + 96 ≤ bytes.length) :
    ∃ executable owner, bytes[start + 3]? = some executable ∧ owner.bytes = slice bytes (start + 40) 32 ∧
      readAccount bytes start =
        if rentRead start (recordedLength bytes start) + 8 ≤ bytes.length then .ok {
          executable := executable == 1
          owner
          lamports := u64FromLe (slice bytes (start + 72) 8)
          data := slice bytes (start + 88) (recordedLength bytes start)
          rentEpoch := u64FromLe (slice bytes (rentRead start (recordedLength bytes start)) 8) }
        else .error .outOfBounds := by
  have flag := List.getElem?_eq_getElem (show start + 3 < bytes.length by omega)
  have ownerLength : (slice bytes (start + 40) 32).length = 32 := by
    rw [length_slice]
    omega
  have fixed : ∀ place count : Nat, place + count ≤ bytes.length →
      readRange bytes place (place + count) = .ok (slice bytes place count) := by
    intro place count room
    rw [readRange_eq, if_pos room]
  have owner := fixed (start + 40) 32 (by omega)
  have lamports := fixed (start + 72) 8 (by omega)
  have length := fixed (start + 80) 8 (by omega)
  have word : recordedLength bytes start < wordRange := UInt64.toNat_lt _
  have data := readRange_wrapping (Nat.lt_of_le_of_lt (Nat.le_add_right _ _) small) word
    (show start + 88 ≤ bytes.length by omega)
  refine ⟨_, ⟨_, ownerLength⟩, flag, rfl, ?_⟩
  unfold readAccount
  simp only [flag, Nat.add_assoc, Nat.reduceAdd, bind, Except.bind] at owner lamports length ⊢
  have stored : (u64FromLe (slice bytes (start + 80) 8)).toNat = recordedLength bytes start := rfl
  simp only [owner, pubkeyFrom_ok ownerLength, lamports, length, stored, data]
  have padding := alignOffset_lt (recordedLength bytes start)
  by_cases room : start + 88 + recordedLength bytes start ≤ bytes.length
  · have place : wrappingAdd (wrappingAdd (start + 88) (recordedLength bytes start))
        (wrappingAdd (alignOffset (recordedLength bytes start) bpfAlignOfU128) maxPermittedDataIncrease) =
        rentRead start (recordedLength bytes start) := by
      simp only [wrappingAdd, rentRead, wordRange, maxPermittedDataIncrease, bpfAlignOfU128] at *
      omega
    have stop : wrappingAdd (rentRead start (recordedLength bytes start)) 8 =
        rentRead start (recordedLength bytes start) + 8 := by
      simp only [wrappingAdd, rentRead, wordRange, maxPermittedDataIncrease, bpfAlignOfU128] at *
      omega
    simp only [if_pos room, place, stop, readRange_eq]
    by_cases reached : rentRead start (recordedLength bytes start) + 8 ≤ bytes.length
    · simp only [if_pos reached]
      rfl
    · simp only [if_neg reached]
  · rw [if_neg room, if_neg]
    simp only [rentRead]
    omega

/-- The record is read, and with the rent epoch of the given place, exactly
when the reader finds the same eight bytes where it looks for them. -/
theorem readAccount_holds_iff {rent : Nat} (small : bytes.length + 16384 < wordRange)
    (header : start + 96 ≤ bytes.length) (placed : rent + 8 ≤ bytes.length) :
    (∃ account, readAccount bytes start = .ok account ∧ Holds bytes start rent account) ↔
      rentRead start (recordedLength bytes start) + 8 ≤ bytes.length ∧
        slice bytes (rentRead start (recordedLength bytes start)) 8 = slice bytes rent 8 := by
  obtain ⟨executable, owner, flag, ownerBytes, read⟩ := readAccount_eq small header
  have word : ∀ place, place + 8 ≤ bytes.length → (slice bytes place 8).length = 8 := by
    intro place room
    rw [length_slice]
    omega
  constructor
  · intro answered
    obtain ⟨account, ran, holds⟩ := answered
    rw [read] at ran
    by_cases reached : rentRead start (recordedLength bytes start) + 8 ≤ bytes.length
    · rw [if_pos reached] at ran
      cases ran
      exact ⟨reached, u64FromLe_inj (word _ reached) (word _ placed) holds.rentEpoch⟩
    · rw [if_neg reached] at ran
      cases ran
  · intro found
    obtain ⟨reached, same⟩ := found
    rw [if_pos reached] at read
    refine ⟨_, read, ?_, ownerBytes, rfl, rfl, ?_, ?_⟩
    · rw [flag]
      rfl
    · simp only [length_slice, rentRead] at *
      omega
    · rw [← same]

/-- The account that a record in a slot of the given size stands for. -/
def accountOf (size : Nat) (image : AccountImage) : Account where
  lamports := image.lamports
  data := image.data ++ List.replicate (size - image.data.length) 0
  owner := image.owner
  executable := image.isExecutable
  rentEpoch := image.rentEpoch

theorem rentRead_eq_rentPlace {size : Nat} (unwrapped : recordLength size < wordRange) :
    rentRead start size = rentPlace start size := by
  simp only [recordLength] at unwrapped
  rw [rentPlace, fillLength, wrappingAdd_eq (show size + maxPermittedDataIncrease < wordRange by omega),
    wrappingAdd_eq (by omega), rentRead]
  omega

theorem Holds.unique {rent : Nat} {left right : Account} (holdsLeft : Holds bytes start rent left)
    (holdsRight : Holds bytes start rent right) : left = right := by
  have owner := Pubkey.ext_bytes (holdsLeft.owner.trans holdsRight.owner.symm)
  have data := holdsLeft.data.trans holdsRight.data.symm
  have lamports := holdsLeft.lamports.trans holdsRight.lamports.symm
  have executable := holdsLeft.executable.trans holdsRight.executable.symm
  have rentEpoch := holdsLeft.rentEpoch.trans holdsRight.rentEpoch.symm
  cases left
  cases right
  simp only at owner data lamports executable rentEpoch
  rw [owner, data, lamports, executable, rentEpoch]

section Record

variable {size : Nat} {image : AccountImage}

/-- A record is cut into the part before a field, the field and the rest. -/
theorem slice_field (fits : image.data.length ≤ size)
    (record : slice bytes start (recordLength size) = accountRecord size image) (before block after : List UInt8)
    (parts : accountRecord size image = before ++ block ++ after) :
    slice bytes (start + before.length) block.length = block := by
  have whole := length_accountRecord fits
  have inside : before.length + block.length ≤ recordLength size := by
    rw [← whole, parts]
    simp only [List.length_append]
    omega
  rw [← slice_slice inside, record, parts, slice_block]

theorem record_room (fits : image.data.length ≤ size)
    (record : slice bytes start (recordLength size) = accountRecord size image) :
    start + recordLength size ≤ bytes.length := by
  have whole := length_accountRecord fits
  rw [← record, length_slice] at whole
  simp only [recordLength] at *
  omega

theorem accountRecord_filled (size : Nat) (image : AccountImage) :
    accountRecord size image = recordHeader size image ++ (accountOf size image).data ++
      List.replicate (maxPermittedDataIncrease + alignOffset size bpfAlignOfU128) 0 ++ u64ToLe image.rentEpoch := by
  have fill : List.replicate (recordFill size image.data.length) (0 : UInt8) =
      List.replicate (size - image.data.length) 0 ++
        List.replicate (maxPermittedDataIncrease + alignOffset size bpfAlignOfU128) 0 := by
    rw [List.replicate_append_replicate, ← Nat.add_assoc]
    rfl
  simp only [accountRecord, fill, accountOf, List.append_assoc]

theorem length_accountOf (fits : image.data.length ≤ size) : (accountOf size image).data.length = size := by
  simp only [accountOf, List.length_append, List.length_replicate]
  omega

theorem recordedLength_accountRecord (fits : image.data.length ≤ size) (small : bytes.length + 16384 < wordRange)
    (record : slice bytes start (recordLength size) = accountRecord size image) :
    recordedLength bytes start = size := by
  have room := record_room fits record
  have word : size < 2 ^ 64 := by
    simp only [recordLength, wordRange] at *
    omega
  let before := [nonDupMarker] ++ [boolToByte image.isSigner] ++ [boolToByte image.isWritable] ++
    [boolToByte image.isExecutable] ++ [0, 0, 0, 0] ++ image.key.bytes ++ image.owner.bytes ++ u64ToLe image.lamports
  have length := slice_field fits record before (usizeToLe size) (image.data ++
    List.replicate (recordFill size image.data.length) 0 ++ u64ToLe image.rentEpoch)
    (by simp only [accountRecord, recordHeader, before, List.append_assoc])
  have place : before.length = 80 := by simp [before]
  rw [place, length_usizeToLe] at length
  rw [recordedLength, length, usizeToLe, u64FromLe_u64ToLe, UInt64.toNat_ofNat', Nat.mod_eq_of_lt word]

theorem holds_record (fits : image.data.length ≤ size) (small : bytes.length + 16384 < wordRange)
    (record : slice bytes start (recordLength size) = accountRecord size image) :
    Holds bytes start (rentPlace start size) (accountOf size image) := by
  have room := record_room fits record
  have unwrapped : recordLength size < wordRange := by omega
  have stored := recordedLength_accountRecord fits small record
  have length := length_accountOf fits
  let flags := [nonDupMarker] ++ [boolToByte image.isSigner] ++ [boolToByte image.isWritable]
  let named := flags ++ [boolToByte image.isExecutable] ++ [0, 0, 0, 0] ++ image.key.bytes
  let filled := image.data ++ List.replicate (recordFill size image.data.length) 0 ++ u64ToLe image.rentEpoch
  constructor
  · have flag := slice_field fits record flags [boolToByte image.isExecutable] ([0, 0, 0, 0] ++ image.key.bytes ++
      image.owner.bytes ++ u64ToLe image.lamports ++ usizeToLe size ++ filled)
      (by simp only [accountRecord, recordHeader, flags, filled, List.append_assoc])
    have byte := congrArg (fun found : List UInt8 => found[0]?) flag
    have place : flags.length = 3 := rfl
    simp only [place, List.length_singleton, getElem?_slice Nat.one_pos, Nat.add_zero] at byte
    rw [byte, accountOf]
    cases image.isExecutable <;> rfl
  · have owner := slice_field fits record named image.owner.bytes (u64ToLe image.lamports ++ usizeToLe size ++ filled)
      (by simp only [accountRecord, recordHeader, named, flags, filled, List.append_assoc])
    have place : named.length = 40 := by simp [named, flags]
    rw [place, Pubkey.length_bytes] at owner
    exact owner.symm
  · have lamports := slice_field fits record (named ++ image.owner.bytes) (u64ToLe image.lamports)
      (usizeToLe size ++ filled)
      (by simp only [accountRecord, recordHeader, named, flags, filled, List.append_assoc])
    have place : (named ++ image.owner.bytes).length = 72 := by simp [named, flags]
    rw [place, length_u64ToLe] at lamports
    rw [lamports, u64FromLe_u64ToLe]
    rfl
  · have data := slice_field fits record (recordHeader size image) (accountOf size image).data
      (List.replicate (maxPermittedDataIncrease + alignOffset size bpfAlignOfU128) 0 ++ u64ToLe image.rentEpoch)
      (by rw [accountRecord_filled, List.append_assoc _ _ (u64ToLe _)])
    rw [length_recordHeader, length] at data
    rw [stored, data]
  · rw [stored, length]
  · have rent := slice_field fits record (recordHeader size image ++ (accountOf size image).data ++
      List.replicate (maxPermittedDataIncrease + alignOffset size bpfAlignOfU128) 0) (u64ToLe image.rentEpoch) []
      (by rw [List.append_nil, accountRecord_filled])
    have place : start + (recordHeader size image ++ (accountOf size image).data ++
        List.replicate (maxPermittedDataIncrease + alignOffset size bpfAlignOfU128) 0).length =
        rentPlace start size := by
      simp only [← rentRead_eq_rentPlace unwrapped, List.length_append, length_recordHeader, length,
        List.length_replicate, rentRead]
      omega
    rw [place, length_u64ToLe] at rent
    rw [rent, u64FromLe_u64ToLe]
    rfl

theorem readAccount_record (fits : image.data.length ≤ size) (small : bytes.length + 16384 < wordRange)
    (record : slice bytes start (recordLength size) = accountRecord size image) :
    readAccount bytes start = .ok (accountOf size image) := by
  have room := record_room fits record
  have unwrapped : recordLength size < wordRange := by omega
  have same : rentRead start size = rentPlace start size := rentRead_eq_rentPlace unwrapped
  have length := recordedLength_accountRecord fits small record
  have placed : rentPlace start size + 8 ≤ bytes.length := by
    simp only [← same, rentRead, recordLength] at *
    omega
  have header : start + 96 ≤ bytes.length := by
    simp only [recordLength] at room
    omega
  obtain ⟨account, read, holds⟩ := (readAccount_holds_iff small header placed).mpr (by
    rw [length, same]
    exact ⟨placed, rfl⟩)
  rw [read, holds.unique (holds_record fits small record)]

end Record

end Reading

section Executors

variable {A Exe Regs Log : Type} [AccountSizes A]

/-- The records of an executor stand where construction put them, whatever its sizes. -/
structure Allotted (sizes : List Nat) (instructionSize : Nat) (executor : InstructionExecutor A Exe Log) : Prop where
  accountOffsets : executor.accountOffsets = (List.range sizes.length).map (spanStart sizes)
  length : executor.buffer.bytes.length = appendedLength sizes instructionSize
  small : executor.buffer.bytes.length ≤ isizeMax + 32

theorem new_allotted {runtime : Runtime Exe Regs Log} {host : HostLayout} {instructionSize : Nat}
    {accountSizes : A} {executor : InstructionExecutor A Exe Log}
    (allocated : bufferCapacity instructionSize accountSizes ≤ isizeMax)
    (built : new runtime host instructionSize accountSizes = .ok executor) :
    Allotted (slotSizes accountSizes) instructionSize executor := by
  obtain ⟨offsets, filled, accountOffsets⟩ := new_filled built
  have filling := writeInitial_filling host.bufferAddr instructionSize
    (bufferCapacity instructionSize accountSizes) accountSizes
  rw [filled] at filling
  cases filling with
  | complete maxLen placed _ _ length _ instructionFits _ =>
      rw [AlignedMemory.len] at length
      refine ⟨accountOffsets.trans placed, length, ?_⟩
      simp only [length, appendedLength]
      omega

omit [AccountSizes A] in
theorem Allotted.of_sameShape {sizes : List Nat} {instructionSize : Nat}
    {before after : InstructionExecutor A Exe Log} (allotted : Allotted sizes instructionSize before)
    (shape : SameShape before after) : Allotted sizes instructionSize after where
  accountOffsets := shape.accountOffsets.trans allotted.accountOffsets
  length := shape.buffer.len.trans allotted.length
  small := Nat.le_trans (Nat.le_of_eq shape.buffer.len) allotted.small

omit [AccountSizes A] in
theorem Allotted.getAccount {sizes : List Nat} {instructionSize index size : Nat}
    {executor : InstructionExecutor A Exe Log} (allotted : Allotted sizes instructionSize executor)
    (slot : sizes[index]? = some size) :
    executor.getAccount index = readAccount executor.buffer.bytes (spanStart sizes index) ∧
      rentPlace (spanStart sizes index) size + 8 ≤ executor.buffer.bytes.length := by
  have bound : index < sizes.length := (List.getElem?_eq_some_iff.mp slot).1
  constructor
  · have offset : executor.accountOffsets[index]? = some (spanStart sizes index) := by
      simp [allotted.accountOffsets, List.getElem?_range bound]
    rw [InstructionExecutor.getAccount, offset]
  · have next := spansLength_take_succ slot
    have before := spansLength_take_le sizes (index + 1)
    simp only [allotted.length, appendedLength, instructionFillStart, rentPlace, spanStart, spanLength] at *
    omega

/-- Whatever a run left in the buffer, an account is read back as the record
holds it, with the rent epoch at its fixed position, exactly when the reader
finds the same eight bytes at the position it computes from the data length. -/
theorem account_read_back_iff {runtime : Runtime Exe Regs Log} {host : HostLayout} {instructionSize : Nat}
    {accountSizes : A} {fresh executor : InstructionExecutor A Exe Log}
    (allocated : bufferCapacity instructionSize accountSizes ≤ isizeMax)
    (built : new runtime host instructionSize accountSizes = .ok fresh) (shape : SameShape fresh executor)
    {index size : Nat} (slot : (slotSizes accountSizes)[index]? = some size) :
    let bytes := executor.buffer.bytes
    let start := spanStart (slotSizes accountSizes) index
    let read := rentRead start (recordedLength bytes start)
    (∃ account, executor.getAccount index = .ok account ∧ Holds bytes start (rentPlace start size) account) ↔
      read = rentPlace start size ∨
        read + 8 ≤ bytes.length ∧ slice bytes read 8 = slice bytes (rentPlace start size) 8 := by
  have allotted := (new_allotted allocated built).of_sameShape shape
  obtain ⟨reads, placed⟩ := allotted.getAccount slot
  have header : spanStart (slotSizes accountSizes) index + 96 ≤ executor.buffer.bytes.length := by
    simp only [rentPlace] at placed
    omega
  have small : executor.buffer.bytes.length + 16384 < wordRange := by
    have limit := allotted.small
    simp only [isizeMax, wordRange] at *
    omega
  intro bytes start read
  rw [reads, readAccount_holds_iff small header placed]
  constructor
  · exact .inr
  · intro placed
    rcases placed with same | found
    · exact ⟨Nat.le_trans (Nat.le_of_eq (congrArg (· + 8) same)) placed, congrArg (slice bytes · 8) same⟩
    · exact found

theorem account_read_back_fresh : ∃ fresh : InstructionExecutor (List Nat) Unit Unit,
    new (scriptRuntime fun _ _ => .exit 0) scriptHost 5 [7] = .ok fresh ∧
      ∃ account, fresh.getAccount 0 = .ok account ∧
        Holds fresh.buffer.bytes (spanStart [7] 0) (rentPlace (spanStart [7] 0) 7) account := by
  have bounded : inputLength (slotSizes [7]) 5 ≤ isizeMax := by decide
  obtain ⟨fresh, built, constructed⟩ := scriptRuntime_new (fun _ _ => .exit 0) bounded
  let image := InputImage.initial [7] 5
  have bytes : fresh.buffer.bytes = image.bytes := constructed.bytes
  have small : image.bytes.length + 16384 < wordRange := by
    rw [image.length_bytes]
    decide
  obtain ⟨fits, record⟩ := image.slice_record (show [7][0]? = some 7 from rfl)
    (show image.accounts[0]? = some AccountImage.empty from rfl)
  have stored : recordedLength fresh.buffer.bytes (spanStart [7] 0) = 7 := by
    rw [bytes]
    exact recordedLength_accountRecord fits small record
  have read := account_read_back_iff (show bufferCapacity 5 [7] ≤ isizeMax by decide) built (SameShape.refl fresh)
    (show (slotSizes [7])[0]? = some 7 from rfl)
  exact ⟨fresh, built, read.mpr (.inl ((congrArg _ stored).trans (rentRead_eq_rentPlace (by decide))))⟩

/-- The input of a program with one empty account and five bytes of
instruction data, after the program has grown the account by one byte. -/
def grownInput : List UInt8 := splice (InputImage.initial [0] 5).bytes 88 (u64ToLe 1)

theorem grownInput_words : grownInput.length = 10389 ∧ recordedLength grownInput 8 = 1 ∧
    u64FromLe (slice grownInput 10336 8) = 0 ∧ slice grownInput 10344 8 = usizeToLe 5 := by
  let image := InputImage.initial [0] 5
  have length : image.bytes.length = 10389 := by
    rw [image.length_bytes]
    decide
  have room : 88 + (u64ToLe 1).length ≤ image.bytes.length := by
    rw [length]
    decide
  obtain ⟨fits, record⟩ := image.slice_record (show [0][0]? = some 0 from rfl)
    (show image.accounts[0]? = some AccountImage.empty from rfl)
  have small : image.bytes.length + 16384 < wordRange := by
    rw [length]
    decide
  have holds := holds_record fits small record
  have stored : slice grownInput 88 8 = u64ToLe 1 := slice_splice_same room
  refine ⟨(length_splice room).trans length, ?_, ?_, ?_⟩
  · rw [recordedLength, stored, u64FromLe_u64ToLe]
    rfl
  · have kept : slice grownInput 10336 8 = slice image.bytes 10336 8 := slice_splice_frame room (.inr (by decide))
    rw [kept]
    exact holds.rentEpoch.symm
  · have kept : slice grownInput 10344 8 = slice image.bytes 10344 8 := slice_splice_frame room (.inr (by decide))
    have block := slice_block (usizeToLe 1 ++ recordsBytes [0] image.accounts) (usizeToLe 5)
      (image.instruction ++ image.programId.bytes)
    have place : (usizeToLe 1 ++ recordsBytes [0] image.accounts).length = 10344 := by
      rw [List.length_append, length_recordsBytes image.fits]
      decide
    rw [place, length_usizeToLe] at block
    rw [kept, ← block]
    simp only [InputImage.bytes, List.append_assoc]
    rfl

/-- There the rent epoch is read eight bytes too late, where the length of the
instruction data stands. -/
theorem account_read_back_shifted : ∃ fresh executor : InstructionExecutor (List Nat) Unit Unit,
    new (scriptRuntime fun _ _ => .exit 0) scriptHost 5 [0] = .ok fresh ∧ SameShape fresh executor ∧
      recordedLength executor.buffer.bytes (spanStart [0] 0) = 1 ∧
      u64FromLe (slice executor.buffer.bytes (rentPlace (spanStart [0] 0) 0) 8) = 0 ∧
      ∃ account, executor.getAccount 0 = .ok account ∧ account.rentEpoch = 5 := by
  have bounded : inputLength (slotSizes [0]) 5 ≤ isizeMax := by decide
  obtain ⟨fresh, built, constructed⟩ := scriptRuntime_new (fun _ _ => .exit 0) bounded
  have room : 88 + (u64ToLe 1).length ≤ fresh.buffer.len := by
    rw [constructed.laidOut.bufferLength, constructed.sameAccountSizes, constructed.sameInstructionSize]
    decide
  let executor := { fresh with buffer := fresh.buffer.overwrite 88 (u64ToLe 1) }
  have shape : SameShape fresh executor := { SameShape.refl fresh with buffer := SameBlock.overwrite room }
  have bytes : executor.buffer.bytes = grownInput := by
    rw [AlignedMemory.overwrite_bytes, constructed.bytes]
    rfl
  obtain ⟨length, stored, rent, instruction⟩ := grownInput_words
  have allotted := (new_allotted (show bufferCapacity 5 [0] ≤ isizeMax by decide) built).of_sameShape shape
  have reads := (allotted.getAccount (show (slotSizes [0])[0]? = some 0 from rfl)).1
  have small : grownInput.length + 16384 < wordRange := by
    rw [length]
    decide
  have header : 8 + 96 ≤ grownInput.length := by
    rw [length]
    decide
  obtain ⟨_, _, _, _, read⟩ := readAccount_eq small header
  have place : rentRead 8 1 = 10344 := rfl
  rw [stored, place, length, if_pos (by decide), instruction] at read
  refine ⟨fresh, executor, built, shape, ?_, ?_, ?_⟩
  · rw [bytes]
    exact stored
  · rw [bytes]
    exact rent
  · rw [bytes] at reads
    exact ⟨_, reads.trans read, u64FromLe_u64ToLe 5⟩

end Executors

end BpfSimulator.InstructionExecutor
