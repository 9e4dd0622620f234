import BpfSimulator.Foundation.ByteReader
import BpfSimulator.InstructionExecutor.Layout

/-! The aligned entrypoint ABI: how a program walks its input. The walk is
written from the format alone. It learns every length from the bytes it reads
and pads from the absolute offset it has reached; the input starts at an
aligned address, so offsets and addresses have the same alignment. -/

set_option autoImplicit false

namespace BpfSimulator.EntrypointAbi

open Foundation Foundation.Reader InstructionExecutor

/-- An account as a program sees it, with the offset of its data. -/
structure AccountView where
  isSigner : Bool
  isWritable : Bool
  isExecutable : Bool
  key : Pubkey
  owner : Pubkey
  lamports : UInt64
  dataStart : Nat
  data : List UInt8
  rentEpoch : UInt64
  deriving DecidableEq

structure InputView where
  accounts : List AccountView
  instruction : List UInt8
  programId : Pubkey
  deriving DecidableEq

def readPubkey : Reader Pubkey := do
  let found ← bytes 32
  if size : found.length = 32 then pure ⟨found, size⟩ else failure

def readFlag : Reader Bool := do
  return (← byte) != 0

def readU64 : Reader UInt64 := do
  return UInt64.ofNat (← word 8)

def readAccount : Reader AccountView := do
  expect nonDupMarker
  let isSigner ← readFlag
  let isWritable ← readFlag
  let isExecutable ← readFlag
  let _ ← bytes 4
  let key ← readPubkey
  let owner ← readPubkey
  let lamports ← readU64
  let dataLength ← readU64
  let dataStart ← position
  let data ← bytes dataLength.toNat
  let _ ← bytes maxPermittedDataIncrease
  let dataEnd ← position
  let _ ← bytes (alignOffset dataEnd bpfAlignOfU128)
  let rentEpoch ← readU64
  pure { isSigner, isWritable, isExecutable, key, owner, lamports, dataStart, data, rentEpoch }

def readInput : Reader InputView := do
  let count ← readU64
  let accounts ← many readAccount count.toNat
  let length ← readU64
  let instruction ← bytes length.toNat
  let programId ← readPubkey
  pure { accounts, instruction, programId }

/-- What is seen of a record: its data filled up with zeros to the slot's size. -/
def AccountView.ofImage (size dataStart : Nat) (image : AccountImage) : AccountView where
  isSigner := image.isSigner
  isWritable := image.isWritable
  isExecutable := image.isExecutable
  key := image.key
  owner := image.owner
  lamports := image.lamports
  dataStart
  data := image.data ++ List.replicate (size - image.data.length) 0
  rentEpoch := image.rentEpoch

theorem reads_readPubkey (start : Nat) (key : Pubkey) : Reads start readPubkey key.bytes key := by
  have accepted : Reads (start + key.bytes.length)
      (if size : key.bytes.length = 32 then pure ⟨key.bytes, size⟩ else failure) [] key := by
    simpa only [dif_pos key.size] using Reads.pure key
  have read := (reads_bytes start key.size).bind (fun found =>
    if size : found.length = 32 then pure (Pubkey.mk found size) else failure) accepted
  rwa [List.append_nil] at read

theorem reads_readFlag (start : Nat) (flag : Bool) : Reads start readFlag [boolToByte flag] flag := by
  have read := (reads_byte start (boolToByte flag)).map fun found => found != 0
  cases flag <;> exact read

theorem reads_readU64 (start : Nat) (value : UInt64) : Reads start readU64 (u64ToLe value) value := by
  have fits : value.toNat < 256 ^ 8 := value.toNat_lt
  have read := (reads_word start fits).map UInt64.ofNat
  rwa [UInt64.ofNat_toNat] at read

private theorem toNat_usize {value : Nat} (fits : value < wordRange) : (UInt64.ofNat value).toNat = value := by
  rw [UInt64.toNat_ofNat']
  exact Nat.mod_eq_of_lt fits

/-- The reserve after the data ends at the same distance from alignment as the
data's length, wherever the record starts. -/
private theorem alignOffset_dataEnd {start size : Nat} (aligned : start % bpfAlignOfU128 = 0) :
    alignOffset (start + 88 + size + maxPermittedDataIncrease) bpfAlignOfU128 =
      alignOffset size bpfAlignOfU128 := by
  have base : (start + 88 + maxPermittedDataIncrease) % bpfAlignOfU128 = 0 := by
    simp only [bpfAlignOfU128, maxPermittedDataIncrease] at *
    omega
  have moved : start + 88 + size + maxPermittedDataIncrease = start + 88 + maxPermittedDataIncrease + size := by
    omega
  rw [moved, alignOffset_add_of_aligned base]

theorem reads_readAccount {start size : Nat} {image : AccountImage} (aligned : start % bpfAlignOfU128 = 0)
    (fits : image.data.length ≤ size) (bounded : recordLength size < wordRange) :
    Reads start readAccount (accountRecord size image) (AccountView.ofImage size (start + 88) image) := by
  have dataLength : (UInt64.ofNat size).toNat = size :=
    toNat_usize (by unfold recordLength at bounded; omega)
  have seen : (image.data ++ List.replicate (size - image.data.length) 0).length = size := by
    simp only [List.length_append, List.length_replicate]
    omega
  unfold readAccount
  refine Reads.congr (Reads.bind _ (reads_expect _ _) <|
    Reads.bind _ (reads_readFlag _ image.isSigner) <|
    Reads.bind _ (reads_readFlag _ image.isWritable) <|
    Reads.bind _ (reads_readFlag _ image.isExecutable) <|
    Reads.bind _ (reads_bytes _ (show [0, 0, 0, 0].length = 4 from rfl)) <|
    Reads.bind _ (reads_readPubkey _ image.key) <|
    Reads.bind _ (reads_readPubkey _ image.owner) <|
    Reads.bind _ (reads_readU64 _ image.lamports) <|
    Reads.bind _ (reads_readU64 _ (UInt64.ofNat size)) <|
    Reads.bind _ (reads_position _) <|
    Reads.bind _ (reads_bytes _ (seen.trans dataLength.symm)) <|
    Reads.bind _ (reads_bytes _ (List.length_replicate (a := 0))) <|
    Reads.bind _ (reads_position _) <|
    Reads.bind _ (reads_bytes _ (List.length_replicate (a := 0))) <|
    Reads.bind _ (reads_readU64 _ image.rentEpoch) <|
    Reads.pure _) ?bytes ?view
  case view =>
    simp only [AccountView.ofImage, List.length_cons, List.length_nil, Pubkey.length_bytes, length_u64ToLe]
  case bytes =>
    have zeros : List.replicate (recordFill size image.data.length) (0 : UInt8) =
        List.replicate (size - image.data.length) 0 ++ (List.replicate maxPermittedDataIncrease 0 ++
          List.replicate (alignOffset size bpfAlignOfU128) 0) := by
      simp only [List.replicate_append_replicate, recordFill, Nat.add_assoc]
    simp only [List.length_append, List.length_cons, List.length_nil, Pubkey.length_bytes, length_u64ToLe,
      List.length_replicate, Nat.zero_add, Nat.add_zero, accountRecord, recordHeader, zeros, usizeToLe,
      List.append_assoc, List.nil_append, List.append_nil]
    rw [Nat.add_sub_cancel' fits, alignOffset_dataEnd aligned]

/-- The positions at which the record of a slot may stand and the accounts it may hold. -/
structure ReadableAt (start : Nat) (item : Nat × AccountImage) : Prop where
  aligned : start % bpfAlignOfU128 = 0
  fits : item.2.data.length ≤ item.1
  representable : recordLength item.1 < wordRange

theorem ReadableAt.next {start : Nat} {item later : Nat × AccountImage} (readable : ReadableAt start item)
    (laterReadable : ReadableAt start later) :
    ReadableAt (start + (accountRecord item.1 item.2).length) later where
  aligned := by
    have aligned := readable.aligned
    have whole := recordLength_aligned item.1
    rw [length_accountRecord readable.fits]
    simp only [bpfAlignOfU128] at *
    omega
  fits := laterReadable.fits
  representable := laterReadable.representable

/-- What a program has to see of an image. -/
structure Shows {sizes : List Nat} {instructionSize : Nat} (image : InputImage sizes instructionSize)
    (view : InputView) : Prop where
  count : view.accounts.length = sizes.length
  account : ∀ (index size : Nat) account, sizes[index]? = some size → image.accounts[index]? = some account →
    ∃ dataStart, dataStart % bpfAlignOfU128 = 0 ∧
      view.accounts[index]? = some (AccountView.ofImage size dataStart account)
  instruction : view.instruction = image.instruction
  programId : view.programId = image.programId

theorem readInput_bytes {sizes : List Nat} {instructionSize : Nat} (image : InputImage sizes instructionSize)
    (bounded : inputLength sizes instructionSize ≤ isizeMax) :
    ∃ view, readInput ⟨0, image.bytes⟩ = some (view, ⟨inputLength sizes instructionSize, []⟩) ∧
      Shows image view := by
  have slotCount : (UInt64.ofNat sizes.length).toNat = (sizes.zip image.accounts).length := by
    rw [List.length_zip, image.fits.length_eq, Nat.min_self, toNat_usize (slotCount_lt_of_bounded bounded)]
  have instructionCount : (UInt64.ofNat instructionSize).toNat = instructionSize :=
    toNat_usize (instructionSize_lt_of_bounded bounded)
  have allowedItem : ∀ item ∈ sizes.zip image.accounts, ReadableAt 8 item := by
    intro item member
    obtain ⟨index, slot⟩ := List.mem_iff_getElem?.mp (List.of_mem_zip member).1
    exact ⟨rfl, image.fits.of_mem_zip member, recordLength_lt_of_bounded bounded slot⟩
  obtain ⟨accounts, records, length, shown⟩ := reads_many
    (fun start item readable => reads_readAccount readable.aligned readable.fits readable.representable)
    (fun _ item readable _ later => readable.next later) (sizes.zip image.accounts) 8 allowedItem
  have whole : Reads 0 readInput image.bytes
      { accounts, instruction := image.instruction, programId := image.programId } := by
    unfold readInput
    refine Reads.congr (Reads.bind _ (reads_readU64 _ (UInt64.ofNat sizes.length)) <|
      Reads.bind _ (slotCount ▸ records) <|
      Reads.bind _ (reads_readU64 _ (UInt64.ofNat instructionSize)) <|
      Reads.bind _ (reads_bytes _ (image.instructionLength.trans instructionCount.symm)) <|
      Reads.bind _ (reads_readPubkey _ image.programId) <|
      Reads.pure _) ?bytes rfl
    simp only [flatMap_accountRecord, InputImage.bytes, usizeToLe, List.append_assoc, List.append_nil]
  refine ⟨{ accounts, instruction := image.instruction, programId := image.programId }, ?_, ?_⟩
  · have read := whole []
    rw [List.append_nil, InputImage.length_bytes, Nat.zero_add] at read
    exact read
  · exact {
      count := by rw [length, List.length_zip, image.fits.length_eq, Nat.min_self]
      account := by
        intro index size account slot stored
        have item : (sizes.zip image.accounts)[index]? = some (size, account) := by
          rw [List.getElem?_zip_eq_some]
          exact ⟨slot, stored⟩
        obtain ⟨position, readable, found⟩ := shown index (size, account) item
        refine ⟨position + 88, ?_, found⟩
        have aligned := readable.aligned
        simp only [bpfAlignOfU128] at *
        omega
      instruction := rfl
      programId := rfl }

end BpfSimulator.EntrypointAbi
