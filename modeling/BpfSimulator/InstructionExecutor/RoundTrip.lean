import BpfSimulator.InstructionExecutor.AccountReads
import BpfSimulator.InstructionExecutor.LastUpdates

/-! Writing accounts and reading them back. Along any history of updates every
slot reads as its last update, provided that no record wraps. -/

set_option autoImplicit false

namespace BpfSimulator.InstructionExecutor

open Foundation

/-- The part of a record between its data offset and the rent epoch does not wrap. -/
def Unwrapped (size : Nat) : Prop :=
  size + maxPermittedDataIncrease + alignOffset size bpfAlignOfU128 < wordRange

theorem Unwrapped.spanLength {size : Nat} (unwrapped : Unwrapped size) : spanLength size = recordLength size := by
  simp only [Unwrapped] at unwrapped
  rw [InstructionExecutor.spanLength, fillLength,
    wrappingAdd_eq (show size + maxPermittedDataIncrease < wordRange by omega), wrappingAdd_eq unwrapped, recordLength]
  omega

theorem spansLength_eq {sizes : List Nat} (unwrapped : ∀ size ∈ sizes, Unwrapped size) :
    spansLength sizes = recordsLength sizes := by
  rw [spansLength, recordsLength, List.map_congr_left fun size member => (unwrapped size member).spanLength]

section Executors

variable {A Exe Regs Log : Type} [AccountSizes A] {runtime : Runtime Exe Regs Log} {host : HostLayout}
  {instructionSize : Nat} {accountSizes : A} {executor : InstructionExecutor A Exe Log}

theorem unwrapped_bounded (allocated : bufferCapacity instructionSize accountSizes ≤ isizeMax)
    (built : new runtime host instructionSize accountSizes = .ok executor)
    (unwrapped : ∀ size ∈ slotSizes accountSizes, Unwrapped size) :
    inputLength (slotSizes accountSizes) instructionSize ≤ isizeMax := by
  obtain ⟨offsets, filled, _⟩ := new_filled built
  have filling := writeInitial_filling host.bufferAddr instructionSize
    (bufferCapacity instructionSize accountSizes) accountSizes
  have wrapped := bufferCapacity_eq_mod instructionSize accountSizes
  have spans := spansLength_eq unwrapped
  rw [filled] at filling
  cases filling with
  | complete _ _ _ _ _ _ instructionFits _ =>
      simp only [appendedLength, instructionFillStart, inputLength, programIdStart, instructionStart, isizeMax,
        wordRange] at *
      omega

variable {T : Type} [ReadableAccount T]

/-- A buffer that is the image of some updates shows the last one of every slot. -/
theorem Refines.getAccount {calls : List (Call T)} (refines : Refines executor calls) {index size : Nat}
    (slot : (slotSizes executor.accountSizes)[index]? = some size) :
    executor.getAccount index = .ok (accountOf size (lastAccount calls index)) := by
  obtain ⟨image, bytes, imageOf⟩ := refines.holds
  have bounded := refines.laidOut.bounded
  obtain ⟨fits, record⟩ := image.slice_record slot (imageOf.account index size slot)
  have small : image.bytes.length + 16384 < wordRange := by
    rw [image.length_bytes]
    simp only [isizeMax, wordRange] at *
    omega
  have bound : index < AccountSizes.len executor.accountSizes := by
    simpa using (List.getElem?_eq_some_iff.mp slot).1
  have offset : executor.accountOffsets[index]? = some (accountStart (slotSizes executor.accountSizes) index) := by
    simp [refines.laidOut.accountOffsets, List.getElem?_range bound]
  rw [InstructionExecutor.getAccount, offset]
  simp only [bytes]
  exact readAccount_record fits small record

/-- A freshly constructed executor answers with a whole slot only if the record does not wrap. -/
theorem unwrapped_of_getAccount (allocated : bufferCapacity instructionSize accountSizes ≤ isizeMax)
    (built : new runtime host instructionSize accountSizes = .ok executor) {index size : Nat}
    (slot : (slotSizes accountSizes)[index]? = some size) {account : Account}
    (read : executor.getAccount index = .ok account) (whole : account.data.length = size) : Unwrapped size := by
  have allotted := new_allotted allocated built
  have small := allotted.small
  obtain ⟨reads, placed⟩ := allotted.getAccount slot
  obtain ⟨_, _, _, _, result⟩ := readAccount_eq
    (show executor.buffer.bytes.length + 16384 < wordRange by simp only [isizeMax, wordRange] at *; omega)
    (show spanStart (slotSizes accountSizes) index + 96 ≤ _ by simp only [rentPlace] at placed; omega)
  rw [reads, result] at read
  split at read
  · cases read
    have padding := alignOffset_lt size
    simp only [length_slice] at whole
    simp only [Unwrapped, isizeMax, wordRange, maxPermittedDataIncrease, bpfAlignOfU128] at *
    omega
  · cases read

/-- Every slot reads as its last successful update, padded with zeros, after
any history of updates, exactly when no record of the executor wraps. -/
theorem account_round_trip_iff (allocated : bufferCapacity instructionSize accountSizes ≤ isizeMax)
    (built : new runtime host instructionSize accountSizes = .ok executor) :
    (∀ history : List (Call T), (∀ call ∈ history, call ≠ .execute) →
      ∀ index size : Nat, (slotSizes accountSizes)[index]? = some size →
        (runHistory (step runtime) history executor).getAccount index =
          .ok (accountOf size (lastAccount (successes runtime history executor) index))) ↔
      ∀ size ∈ slotSizes accountSizes, Unwrapped size := by
  constructor
  · intro roundTrip size member
    obtain ⟨index, slot⟩ := List.mem_iff_getElem?.mp member
    have read := roundTrip [] (fun call absent => absurd absent List.not_mem_nil) index size slot
    exact unwrapped_of_getAccount allocated built slot read (length_accountOf (Nat.zero_le size))
  · intro unwrapped history updatesOnly index size slot
    have constructed := new_constructed (unwrapped_bounded allocated built unwrapped) built
    have shape : SameShape executor (runHistory (step runtime) history executor) :=
      history_sameShape history constructed.laidOut
    have sizes := shape.accountSizes.trans constructed.sameAccountSizes
    exact (updates_refine constructed updatesOnly).getAccount (by rw [sizes]; exact slot)

theorem account_round_trip_five : ∃ executor : InstructionExecutor (List Nat) Unit Unit,
    new (scriptRuntime fun _ _ => .exit 0) scriptHost 3 [5, 0] = .ok executor ∧
      ∀ history : List (Call Account), (∀ call ∈ history, call ≠ .execute) →
        ∀ index size : Nat, (slotSizes [5, 0])[index]? = some size →
          (runHistory (step (scriptRuntime fun _ _ => .exit 0)) history executor).getAccount index =
            .ok (accountOf size (lastAccount (successes (scriptRuntime fun _ _ => .exit 0) history executor) index)) := by
  have bounded : inputLength (slotSizes [5, 0]) 3 ≤ isizeMax := by decide
  obtain ⟨executor, built, _⟩ := scriptRuntime_new (fun _ _ => .exit 0) bounded
  refine ⟨executor, built, (account_round_trip_iff (by decide) built).mpr ?_⟩
  intro size member
  have listed : size ∈ [5, 0] := member
  simp only [List.mem_cons, List.not_mem_nil, or_false] at listed
  rcases listed with rfl | rfl <;> simp only [Unwrapped] <;> decide

set_option maxRecDepth 20000 in
/-- A slot whose fill length wraps to zero: construction succeeds with 144
bytes, and reading the slot back leaves the buffer. -/
theorem account_round_trip_wrapped : ∃ executor : InstructionExecutor (List Nat) Unit Unit,
    new (scriptRuntime fun _ _ => .exit 0) scriptHost 0 [2 ^ 64 - 10240] = .ok executor ∧
      executor.buffer.len = 144 ∧ executor.getAccount 0 = .error .outOfBounds :=
  ⟨_, rfl, rfl, rfl⟩

end Executors

end BpfSimulator.InstructionExecutor
