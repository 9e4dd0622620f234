import BpfSimulator.InstructionExecutor.Buffer

/-! What the buffer writers do: one lemma for each mode of each writer. In
place they overwrite one stretch of known bytes; appending they extend the
buffer, and only a fill can refuse. -/

set_option autoImplicit false

namespace BpfSimulator.InstructionExecutor

open Foundation

/-- The contents of an account record apart from the size of its slot. -/
structure AccountImage where
  isSigner : Bool
  isWritable : Bool
  isExecutable : Bool
  key : Pubkey
  owner : Pubkey
  lamports : UInt64
  data : List UInt8
  rentEpoch : UInt64
  deriving DecidableEq

/-- The record of a slot that was never updated. -/
def AccountImage.empty : AccountImage where
  isSigner := false
  isWritable := false
  isExecutable := false
  key := Pubkey.default
  owner := Pubkey.default
  lamports := 0
  data := []
  rentEpoch := 0

/-- What an account update stores. -/
def accountImage {T : Type} [ReadableAccount T] (key : Pubkey) (account : T)
    (isSigner isWritable isExecutable : Bool) : AccountImage where
  isSigner
  isWritable
  isExecutable
  key
  owner := ReadableAccount.owner account
  lamports := ReadableAccount.lamports account
  data := ReadableAccount.data account
  rentEpoch := ReadableAccount.rentEpoch account

/-- The part of a record before its data. -/
def recordHeader (size : Nat) (image : AccountImage) : List UInt8 :=
  [nonDupMarker] ++ [boolToByte image.isSigner] ++ [boolToByte image.isWritable] ++
    [boolToByte image.isExecutable] ++ [0, 0, 0, 0] ++ image.key.bytes ++ image.owner.bytes ++
    u64ToLe image.lamports ++ usizeToLe size

/-- How many zero bytes stand between the data and the rent epoch. -/
def recordFill (size dataLength : Nat) : Nat :=
  size - dataLength + maxPermittedDataIncrease + alignOffset size bpfAlignOfU128

/-- All bytes of a record in a slot of the given size. -/
def accountRecord (size : Nat) (image : AccountImage) : List UInt8 :=
  recordHeader size image ++ image.data ++ List.replicate (recordFill size image.data.length) 0 ++
    u64ToLe image.rentEpoch

/-- The length of a record, which depends on the slot only. -/
def recordLength (size : Nat) : Nat :=
  88 + size + maxPermittedDataIncrease + alignOffset size bpfAlignOfU128 + 8

@[simp] theorem length_recordHeader (size : Nat) (image : AccountImage) :
    (recordHeader size image).length = 88 := by
  simp [recordHeader]

theorem length_accountRecord {size : Nat} {image : AccountImage} (fits : image.data.length ≤ size) :
    (accountRecord size image).length = recordLength size := by
  simp only [accountRecord, List.length_append, length_recordHeader, List.length_replicate,
    length_u64ToLe, recordFill, recordLength]
  omega

theorem recordFill_wrapping {size : Nat} (dataLength : Nat) (bounded : recordLength size < wordRange) :
    wrappingAdd (wrappingAdd (size - dataLength) maxPermittedDataIncrease)
      (alignOffset size bpfAlignOfU128) = recordFill size dataLength := by
  unfold recordLength at bounded
  have inner : wrappingAdd (size - dataLength) maxPermittedDataIncrease =
      size - dataLength + maxPermittedDataIncrease := wrappingAdd_eq (by omega)
  rw [inner, wrappingAdd_eq (by omega)]
  rfl

section InPlace

variable {buffer : AlignedMemory} {start : Nat} {written value : List UInt8}

theorem overwriteAt_run (room : start + value.length ≤ buffer.len) :
    overwriteAt start value buffer = .ok (start + value.length) (buffer.overwrite start value) :=
  if_pos room

theorem overwriteAt_after (room : start + written.length + value.length ≤ buffer.len) :
    overwriteAt (start + written.length) value (buffer.overwrite start written) =
      .ok (start + (written ++ value).length) (buffer.overwrite start (written ++ value)) := by
  have inner : start + written.length ≤ buffer.len := by omega
  rw [overwriteAt_run (by rw [AlignedMemory.overwrite_len inner]; exact room),
    AlignedMemory.overwrite_overwrite room, List.length_append, Nat.add_assoc]

/-- The same, followed by another step. -/
theorem overwriteAt_after_bind {β : Type} {next : Nat → BufferM β}
    (room : start + written.length + value.length ≤ buffer.len) :
    (overwriteAt (start + written.length) value >>= next) (buffer.overwrite start written) =
      next (start + (written ++ value).length) (buffer.overwrite start (written ++ value)) :=
  bind_run_ok (overwriteAt_after room)

@[simp] theorem write_some (start : Nat) (value : List UInt8) :
    write (some start) value = overwriteAt start value := rfl

@[simp] theorem writeAll_some (start : Nat) (value : List UInt8) :
    writeAll (some start) value = overwriteAt start value := rfl

@[simp] theorem fillWrite_some (start num : Nat) (value : UInt8) :
    fillWrite (some start) num value = overwriteAt start (List.replicate num value) := rfl

private theorem adaptExcept_run_ok {part : BufferM Nat} {rename : ExecutorError → ExecutorError}
    {before after : AlignedMemory} {next : Nat} (ran : part before = .ok next after) :
    EStateM.adaptExcept rename part before = .ok next after := by
  simp only [EStateM.adaptExcept, ran]

theorem writeAccount_some {T : Type} [ReadableAccount T] {size : Nat} {key : Pubkey} {account : T}
    {isSigner isWritable isExecutable : Bool}
    (fits : (ReadableAccount.data account).length ≤ size) (bounded : recordLength size < wordRange)
    (room : start + recordLength size ≤ buffer.len) :
    writeAccount size (some start) key account isSigner isWritable isExecutable buffer =
      .ok (start + recordLength size)
        (buffer.overwrite start
          (accountRecord size (accountImage key account isSigner isWritable isExecutable))) := by
  have total : (accountRecord size (accountImage key account isSigner isWritable isExecutable)).length =
      recordLength size := length_accountRecord fits
  have fill : wrappingAdd (wrappingAdd (size - (ReadableAccount.data account).length)
      maxPermittedDataIncrease) (alignOffset size bpfAlignOfU128) =
      recordFill size (ReadableAccount.data account).length := recordFill_wrapping _ bounded
  simp only [accountRecord, recordHeader, accountImage, List.length_append, List.length_cons,
    List.length_nil, Pubkey.length_bytes, length_u64ToLe, length_usizeToLe, List.length_replicate] at total
  unfold writeAccount
  simp only [write_some, writeAll_some, fillWrite_some, Option.map_some, fill]
  -- every write continues where the previous one stopped
  rw [bind_run_ok (overwriteAt_run ?first), overwriteAt_after_bind, overwriteAt_after_bind,
    overwriteAt_after_bind, overwriteAt_after_bind, overwriteAt_after_bind, overwriteAt_after_bind,
    overwriteAt_after_bind, overwriteAt_after_bind, overwriteAt_after_bind,
    bind_run_ok (adaptExcept_run_ok (overwriteAt_after ?fill)), overwriteAt_after]
  · have recordSize : (accountRecord size (accountImage key account isSigner isWritable isExecutable)).length =
        recordLength size := length_accountRecord fits
    rw [← recordSize]
    rfl
  all_goals
    simp only [List.length_append, List.length_cons, List.length_nil, Pubkey.length_bytes,
      length_u64ToLe, length_usizeToLe, List.length_replicate]
    omega

end InPlace

end BpfSimulator.InstructionExecutor
