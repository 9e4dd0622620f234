import Mathlib.Data.List.Forall2
import BpfSimulator.InstructionExecutor.BufferProperties

/-! The layout of the input buffer. An image fixes what every part of the
buffer holds; its bytes have a length that depends on the slot sizes only, and
replacing one part of an image overwrites one fixed stretch of its bytes. -/

set_option autoImplicit false

namespace BpfSimulator.InstructionExecutor

open Foundation

/-- The data size of every slot, in order. -/
def slotSizes {A : Type} [AccountSizes A] (accountSizes : A) : List Nat :=
  (List.range (AccountSizes.len accountSizes)).map (AccountSizes.size accountSizes)

@[simp] theorem length_slotSizes {A : Type} [AccountSizes A] (accountSizes : A) :
    (slotSizes accountSizes).length = AccountSizes.len accountSizes := by
  simp [slotSizes]

theorem getElem?_slotSizes {A : Type} [AccountSizes A] {accountSizes : A} {index : Nat}
    (bound : index < AccountSizes.len accountSizes) :
    (slotSizes accountSizes)[index]? = some (AccountSizes.size accountSizes index) := by
  simp [slotSizes, List.getElem?_range bound]

def recordsLength (sizes : List Nat) : Nat := (sizes.map recordLength).sum

def accountStart (sizes : List Nat) (index : Nat) : Nat := 8 + recordsLength (sizes.take index)

def instructionStart (sizes : List Nat) : Nat := 8 + recordsLength sizes

def programIdStart (sizes : List Nat) (instructionSize : Nat) : Nat :=
  instructionStart sizes + (8 + instructionSize)

/-- The length of the whole buffer, without wrapping. -/
def inputLength (sizes : List Nat) (instructionSize : Nat) : Nat :=
  programIdStart sizes instructionSize + 32

theorem recordLength_aligned (size : Nat) : recordLength size % bpfAlignOfU128 = 0 := by
  have aligned := alignOffset_aligned size
  simp only [recordLength, maxPermittedDataIncrease, bpfAlignOfU128] at *
  omega

theorem recordsLength_append (first second : List Nat) :
    recordsLength (first ++ second) = recordsLength first + recordsLength second := by
  simp [recordsLength]

@[simp] theorem recordsLength_cons (size : Nat) (rest : List Nat) :
    recordsLength (size :: rest) = recordLength size + recordsLength rest := by
  simp [recordsLength]

theorem length_le_recordsLength (sizes : List Nat) : sizes.length ≤ recordsLength sizes := by
  induction sizes with
  | nil => exact Nat.zero_le _
  | cons size rest ih =>
      simp only [List.length_cons, recordsLength_cons, recordLength]
      omega

theorem recordsLength_aligned (sizes : List Nat) : recordsLength sizes % bpfAlignOfU128 = 0 := by
  induction sizes with
  | nil => rfl
  | cons size rest ih =>
      have head := recordLength_aligned size
      simp only [recordsLength_cons, bpfAlignOfU128] at *
      omega

theorem accountStart_aligned (sizes : List Nat) (index : Nat) :
    accountStart sizes index % bpfAlignOfU128 = 0 := by
  have aligned := recordsLength_aligned (sizes.take index)
  simp only [accountStart, bpfAlignOfU128] at *
  omega

theorem accountStart_succ {sizes : List Nat} {index size : Nat} (slot : sizes[index]? = some size) :
    accountStart sizes (index + 1) = accountStart sizes index + recordLength size := by
  have split : sizes.take (index + 1) = sizes.take index ++ [size] := by
    rw [List.take_add_one, slot]
    rfl
  simp only [accountStart, split, recordsLength_append, recordsLength_cons]
  simp only [recordsLength, List.map_nil, List.sum_nil]
  omega

theorem accountStart_le {sizes : List Nat} (index : Nat) :
    accountStart sizes index ≤ instructionStart sizes := by
  have split := recordsLength_append (sizes.take index) (sizes.drop index)
  rw [List.take_append_drop] at split
  simp only [accountStart, instructionStart]
  omega

theorem accountEnd_le {sizes : List Nat} {index size : Nat} (slot : sizes[index]? = some size) :
    accountStart sizes index + recordLength size ≤ instructionStart sizes := by
  rw [← accountStart_succ slot]
  exact accountStart_le (index + 1)

section Bounded

variable {sizes : List Nat} {instructionSize : Nat}

theorem recordLength_lt_of_bounded (bounded : inputLength sizes instructionSize ≤ isizeMax) {index size : Nat}
    (slot : sizes[index]? = some size) : recordLength size < wordRange := by
  have ends := accountEnd_le slot
  simp only [inputLength, programIdStart, isizeMax, wordRange] at *
  omega

theorem slotCount_lt_of_bounded (bounded : inputLength sizes instructionSize ≤ isizeMax) :
    sizes.length < wordRange := by
  have enough := length_le_recordsLength sizes
  simp only [inputLength, programIdStart, instructionStart, isizeMax, wordRange] at *
  omega

theorem instructionSize_lt_of_bounded (bounded : inputLength sizes instructionSize ≤ isizeMax) :
    instructionSize < wordRange := by
  simp only [inputLength, programIdStart, isizeMax, wordRange] at *
  omega

end Bounded

theorem accountStart_mono {sizes : List Nat} {first second : Nat} (ordered : first ≤ second) :
    accountStart sizes first ≤ accountStart sizes second := by
  have split := recordsLength_append (sizes.take first) ((sizes.take second).drop first)
  have rejoined : sizes.take first ++ (sizes.take second).drop first = sizes.take second := by
    have front : sizes.take first = (sizes.take second).take first := by
      rw [List.take_take, Nat.min_eq_left ordered]
    rw [front, List.take_append_drop]
  rw [rejoined] at split
  simp only [accountStart]
  omega

theorem slice_records_eq {sizes : List Nat} {left right : List UInt8}
    (same : ∀ (index size : Nat), sizes[index]? = some size →
      slice left (accountStart sizes index) (recordLength size) =
        slice right (accountStart sizes index) (recordLength size)) :
    slice left 8 (recordsLength sizes) = slice right 8 (recordsLength sizes) := by
  have first : ∀ count ≤ sizes.length, slice left 8 (recordsLength (sizes.take count)) =
      slice right 8 (recordsLength (sizes.take count)) := by
    intro count
    induction count with
    | zero => simp [recordsLength, slice]
    | succ count ih =>
        intro bound
        have slot : sizes[count]? = some sizes[count] := List.getElem?_eq_getElem bound
        have next := accountStart_succ slot
        have position : recordsLength (sizes.take (count + 1)) =
            recordsLength (sizes.take count) + recordLength sizes[count] := by
          simp only [accountStart] at next
          omega
        have record := same count _ slot
        rw [accountStart] at record
        rw [position, slice_add, slice_add, ih (by omega), record]
  simpa only [List.take_length] using first sizes.length (Nat.le_refl _)

def recordsBytes (sizes : List Nat) (accounts : List AccountImage) : List UInt8 :=
  (List.zipWith accountRecord sizes accounts).flatten

theorem flatMap_accountRecord (sizes : List Nat) (accounts : List AccountImage) :
    (sizes.zip accounts).flatMap (fun item => accountRecord item.1 item.2) = recordsBytes sizes accounts := by
  rw [List.flatMap_def, List.map_zip_eq_zipWith]
  rfl

/-- Every account fits its slot, and there is one account for each slot. -/
def FitSlots (sizes : List Nat) (accounts : List AccountImage) : Prop :=
  List.Forall₂ (fun size account => account.data.length ≤ size) sizes accounts

theorem FitSlots.length_eq {sizes : List Nat} {accounts : List AccountImage}
    (fits : FitSlots sizes accounts) : accounts.length = sizes.length :=
  (List.Forall₂.length_eq fits).symm

theorem FitSlots.of_mem_zip {sizes : List Nat} {accounts : List AccountImage} (fits : FitSlots sizes accounts)
    {slot : Nat × AccountImage} (member : slot ∈ sizes.zip accounts) : slot.2.data.length ≤ slot.1 :=
  (List.forall₂_iff_zip.mp fits).2 member

theorem length_recordsBytes {sizes : List Nat} {accounts : List AccountImage}
    (fits : FitSlots sizes accounts) : (recordsBytes sizes accounts).length = recordsLength sizes := by
  induction fits with
  | nil => rfl
  | cons head _ ih =>
      simp only [recordsBytes, List.zipWith_cons_cons, List.flatten_cons, List.length_append,
        recordsLength_cons, length_accountRecord head] at *
      omega

theorem FitSlots.empty (sizes : List Nat) :
    FitSlots sizes (List.replicate sizes.length AccountImage.empty) := by
  induction sizes with
  | nil => exact .nil
  | cons size rest ih => exact .cons (Nat.zero_le _) ih

theorem FitSlots.set {sizes : List Nat} {accounts : List AccountImage} (fits : FitSlots sizes accounts)
    {index size : Nat} (slot : sizes[index]? = some size) {account : AccountImage}
    (fit : account.data.length ≤ size) : FitSlots sizes (accounts.set index account) := by
  induction fits generalizing index with
  | nil => simp at slot
  | cons head tail ih =>
      cases index with
      | zero =>
          simp only [List.getElem?_cons_zero, Option.some.injEq] at slot
          subst slot
          exact .cons fit tail
      | succ index => exact .cons head (ih (by simpa using slot))

theorem splice_recordsBytes {sizes : List Nat} {accounts : List AccountImage}
    (fits : FitSlots sizes accounts) {index size : Nat} (slot : sizes[index]? = some size)
    {account : AccountImage} (fit : account.data.length ≤ size) (before after : List UInt8) :
    splice (before ++ recordsBytes sizes accounts ++ after)
        (before.length + recordsLength (sizes.take index)) (accountRecord size account) =
      before ++ recordsBytes sizes (accounts.set index account) ++ after := by
  induction fits generalizing index before with
  | nil => simp at slot
  | @cons first old sizes accounts head tail ih =>
      have flatten : ∀ record : AccountImage, ∀ others : List AccountImage,
          recordsBytes (first :: sizes) (record :: others) =
            accountRecord first record ++ recordsBytes sizes others := by
        intro record others
        simp [recordsBytes]
      cases index with
      | zero =>
          simp only [List.getElem?_cons_zero, Option.some.injEq] at slot
          subst slot
          have sameLength : (accountRecord first account).length = (accountRecord first old).length := by
            rw [length_accountRecord fit, length_accountRecord head]
          have replaced := splice_block before (recordsBytes sizes accounts ++ after) sameLength
          simpa only [flatten, List.set_cons_zero, List.take_zero, recordsLength, List.map_nil,
            List.sum_nil, Nat.add_zero, List.append_assoc] using replaced
      | succ index =>
          have later := ih (by simpa using slot) (before ++ accountRecord first old)
          have position : (before ++ accountRecord first old).length + recordsLength (sizes.take index) =
              before.length + recordsLength ((first :: sizes).take (index + 1)) := by
            simp only [List.length_append, length_accountRecord head, List.take_succ_cons,
              recordsLength_cons]
            omega
          rw [position] at later
          simpa only [flatten, List.set_cons_succ, List.append_assoc] using later

/-- What an input buffer for the given slots and instruction size holds. -/
structure InputImage (sizes : List Nat) (instructionSize : Nat) where
  accounts : List AccountImage
  fits : FitSlots sizes accounts
  instruction : List UInt8
  instructionLength : instruction.length = instructionSize
  programId : Pubkey

namespace InputImage

variable {sizes : List Nat} {instructionSize : Nat}

/-- The image that construction leaves behind. -/
def initial (sizes : List Nat) (instructionSize : Nat) : InputImage sizes instructionSize where
  accounts := List.replicate sizes.length AccountImage.empty
  fits := FitSlots.empty sizes
  instruction := List.replicate instructionSize 0
  instructionLength := by simp
  programId := Pubkey.default

def bytes (image : InputImage sizes instructionSize) : List UInt8 :=
  usizeToLe sizes.length ++ recordsBytes sizes image.accounts ++
    (usizeToLe instructionSize ++ image.instruction) ++ image.programId.bytes

theorem length_bytes (image : InputImage sizes instructionSize) :
    image.bytes.length = inputLength sizes instructionSize := by
  simp only [bytes, List.length_append, length_usizeToLe, length_recordsBytes image.fits,
    image.instructionLength, Pubkey.length_bytes, inputLength, programIdStart, instructionStart]

def setAccount (image : InputImage sizes instructionSize) {index size : Nat}
    (slot : sizes[index]? = some size) (account : AccountImage) (fit : account.data.length ≤ size) :
    InputImage sizes instructionSize :=
  { image with
    accounts := image.accounts.set index account
    fits := image.fits.set slot fit }

def setInstruction (image : InputImage sizes instructionSize) (data : List UInt8)
    (fit : data.length ≤ instructionSize) : InputImage sizes instructionSize :=
  { image with
    instruction := splice image.instruction 0 data
    instructionLength := by
      rw [length_splice (by rw [image.instructionLength]; omega), image.instructionLength] }

def setProgramId (image : InputImage sizes instructionSize) (programId : Pubkey) :
    InputImage sizes instructionSize :=
  { image with programId }

theorem bytes_setAccount (image : InputImage sizes instructionSize) {index size : Nat}
    (slot : sizes[index]? = some size) (account : AccountImage) (fit : account.data.length ≤ size) :
    splice image.bytes (accountStart sizes index) (accountRecord size account) =
      (image.setAccount slot account fit).bytes := by
  have replaced := splice_recordsBytes image.fits slot fit (usizeToLe sizes.length)
    ((usizeToLe instructionSize ++ image.instruction) ++ image.programId.bytes)
  simpa only [bytes, setAccount, accountStart, length_usizeToLe, List.append_assoc] using replaced

/-- The record of a slot stands where the layout says. -/
theorem slice_record (image : InputImage sizes instructionSize) {index size : Nat} (slot : sizes[index]? = some size)
    {account : AccountImage} (found : image.accounts[index]? = some account) :
    account.data.length ≤ size ∧
      slice image.bytes (accountStart sizes index) (recordLength size) = accountRecord size account := by
  have paired : (sizes.zip image.accounts)[index]? = some (size, account) :=
    List.getElem?_zip_eq_some.mpr ⟨slot, found⟩
  have fit : account.data.length ≤ size := image.fits.of_mem_zip (List.mem_of_getElem? paired)
  refine ⟨fit, ?_⟩
  have bound : index < image.accounts.length := (List.getElem?_eq_some_iff.mp found).1
  have same : image.accounts.set index account = image.accounts := by
    rw [← List.getElem?_eq_some_iff.mp found |>.2, List.set_getElem_self]
  have rewritten := image.bytes_setAccount slot account fit
  have unchanged : (image.setAccount slot account fit).bytes = image.bytes := by
    simp only [bytes, setAccount, same]
  have length := length_accountRecord fit
  have inside := accountEnd_le slot
  have room : accountStart sizes index + (accountRecord size account).length ≤ image.bytes.length := by
    rw [length, image.length_bytes, inputLength, programIdStart]
    omega
  have written := slice_splice_same room
  rwa [rewritten, unchanged, length] at written

theorem bytes_setInstruction (image : InputImage sizes instructionSize) (data : List UInt8)
    (fit : data.length ≤ instructionSize) :
    splice image.bytes (instructionStart sizes) (usizeToLe instructionSize ++ data) =
      (image.setInstruction data fit).bytes := by
  have rejoined : ∀ rest : List UInt8, image.instruction.take data.length ++
      (image.instruction.drop data.length ++ rest) = image.instruction ++ rest := by
    intro rest
    rw [← List.append_assoc, List.take_append_drop]
  have overwritten : splice image.instruction 0 data = data ++ image.instruction.drop data.length := by
    simp [splice]
  have sameLength : (usizeToLe instructionSize ++ data).length =
      (usizeToLe instructionSize ++ image.instruction.take data.length).length := by
    simp only [List.length_append, List.length_take, image.instructionLength]
    omega
  have replaced := splice_block (usizeToLe sizes.length ++ recordsBytes sizes image.accounts)
    (image.instruction.drop data.length ++ image.programId.bytes) sameLength
  simp only [List.length_append, length_usizeToLe, length_recordsBytes image.fits] at replaced
  simpa only [instructionStart, bytes, setInstruction, overwritten, List.append_assoc, rejoined]
    using replaced

theorem bytes_setProgramId (image : InputImage sizes instructionSize) (programId : Pubkey) :
    splice image.bytes (programIdStart sizes instructionSize) programId.bytes =
      (image.setProgramId programId).bytes := by
  have sameLength : programId.bytes.length = image.programId.bytes.length := by simp
  have replaced := splice_block (usizeToLe sizes.length ++ recordsBytes sizes image.accounts ++
    (usizeToLe instructionSize ++ image.instruction)) [] sameLength
  simp only [List.length_append, length_usizeToLe, length_recordsBytes image.fits,
    image.instructionLength, List.append_nil] at replaced
  simpa only [bytes, setProgramId, programIdStart, instructionStart] using replaced

end InputImage

end BpfSimulator.InstructionExecutor
