import BpfSimulator.InstructionExecutor.Executor
import BpfSimulator.InstructionExecutor.Layout

/-! Construction of an executor whose buffer size is representable: it fills
the buffer exactly up to the precomputed capacity, no unchecked append leaves
the capacity, and the recorded offsets are those of the layout. -/

set_option autoImplicit false

namespace BpfSimulator.InstructionExecutor

open Foundation

/-- Every unchecked append so far started and ended within the capacity. -/
def AppendsWithin (buffer : AlignedMemory) : Prop :=
  ∀ append ∈ buffer.uncheckedAppends, append.1 ≤ append.2 ∧ append.2 ≤ buffer.maxLen

/-- `after` is `before` with `bytes` appended, still within its capacity. -/
structure Extends (before after : AlignedMemory) (bytes : List UInt8) : Prop where
  bytes : after.bytes = before.bytes ++ bytes
  hostAddr : after.hostAddr = before.hostAddr
  maxLen : after.maxLen = before.maxLen
  within : AppendsWithin before → AppendsWithin after

theorem Extends.len {before after : AlignedMemory} {bytes : List UInt8}
    (extension : Extends before after bytes) : after.len = before.len + bytes.length := by
  simp only [AlignedMemory.len, extension.bytes, List.length_append]

theorem Extends.trans {before middle after : AlignedMemory} {first second : List UInt8}
    (left : Extends before middle first) (right : Extends middle after second) :
    Extends before after (first ++ second) where
  bytes := by rw [right.bytes, left.bytes, List.append_assoc]
  hostAddr := right.hostAddr.trans left.hostAddr
  maxLen := right.maxLen.trans left.maxLen
  within := fun within => right.within (left.within within)

theorem extends_append {buffer : AlignedMemory} {value : List UInt8}
    (room : buffer.len + value.length ≤ buffer.maxLen) : Extends buffer (buffer.append value) value where
  bytes := rfl
  hostAddr := rfl
  maxLen := rfl
  within := by
    intro within append member
    rcases List.mem_cons.mp member with rfl | earlier
    · exact ⟨Nat.le_add_right _ _, room⟩
    · exact within append earlier

/-- Given the room for `bytes`, the writer succeeds and appends exactly them;
its result depends on the length it started from only. -/
def Appends {α : Type} (part : BufferM α) (bytes : List UInt8) (result : Nat → α) : Prop :=
  ∀ buffer : AlignedMemory, buffer.len + bytes.length ≤ buffer.maxLen →
    ∃ after, part buffer = .ok (result buffer.len) after ∧ Extends buffer after bytes

theorem Appends.bind {α β : Type} {part : BufferM α} {next : α → BufferM β} {first second : List UInt8}
    {result : Nat → α} {final : Nat → Nat → β} (left : Appends part first result)
    (right : ∀ start, Appends (next (result start)) second (final start)) :
    Appends (part >>= next) (first ++ second) fun start => final start (start + first.length) := by
  intro buffer room
  rw [List.length_append] at room
  obtain ⟨middle, ran, extension⟩ := left buffer (by omega)
  have middleLen := extension.len
  obtain ⟨after, finished, tail⟩ := right buffer.len middle (by rw [extension.maxLen]; omega)
  refine ⟨after, ?_, extension.trans tail⟩
  rw [bind_run_ok ran, finished, middleLen]

theorem Appends.pure {α : Type} (value : α) : Appends (pure value : BufferM α) [] fun _ => value :=
  fun buffer _ => ⟨buffer, rfl, { bytes := by simp, hostAddr := rfl, maxLen := rfl, within := id }⟩

theorem appends_bufferLen : Appends bufferLen [] fun start => start :=
  fun buffer _ => ⟨buffer, rfl, { bytes := by simp, hostAddr := rfl, maxLen := rfl, within := id }⟩

theorem write_none_run (buffer : AlignedMemory) (value : List UInt8) :
    write none value buffer = .ok (buffer.len + value.length) (buffer.append value) := by
  rw [← AlignedMemory.append_len]
  rfl

theorem writeAll_none_run (buffer : AlignedMemory) (value : List UInt8) :
    writeAll none value buffer = .ok (buffer.len + value.length) (buffer.append value) :=
  write_none_run buffer value

theorem appends_write (value : List UInt8) :
    Appends (write none value) value fun start => start + value.length :=
  fun buffer room => ⟨buffer.append value, write_none_run buffer value, extends_append room⟩

theorem appends_writeAll (value : List UInt8) :
    Appends (writeAll none value) value fun start => start + value.length :=
  fun buffer room => ⟨buffer.append value, writeAll_none_run buffer value, extends_append room⟩

theorem appends_fillWrite (num : Nat) (value : UInt8) :
    Appends (fillWrite none num value) (List.replicate num value) fun start => start + num := by
  intro buffer room
  rw [List.length_replicate] at room
  refine ⟨{ buffer with bytes := buffer.bytes ++ List.replicate num value }, ?_,
    { bytes := rfl, hostAddr := rfl, maxLen := rfl, within := id }⟩
  simp only [fillWrite, AlignedMemory.fillWrite?, if_pos room]
  simp [AlignedMemory.len]

theorem Appends.adaptExcept {α : Type} {part : BufferM α} {bytes : List UInt8} {result : Nat → α}
    (appended : Appends part bytes result) (rename : ExecutorError → ExecutorError) :
    Appends (EStateM.adaptExcept rename part) bytes result := by
  intro buffer room
  obtain ⟨after, ran, extension⟩ := appended buffer room
  exact ⟨after, by simp only [EStateM.adaptExcept, ran], extension⟩

theorem Appends.congr {α : Type} {part : BufferM α} {bytes bytes' : List UInt8} {result result' : Nat → α}
    (appended : Appends part bytes result) (sameBytes : bytes = bytes')
    (sameResult : ∀ start, result start = result' start) : Appends part bytes' result' := by
  subst sameBytes
  have same : result = result' := funext sameResult
  exact same ▸ appended

theorem appends_writeEmptyAccount {size : Nat} (bounded : recordLength size < wordRange) :
    Appends (writeEmptyAccount size) (accountRecord size AccountImage.empty) fun _ => () := by
  have fill : wrappingAdd (wrappingAdd size maxPermittedDataIncrease) (alignOffset size bpfAlignOfU128) =
      recordFill size 0 := by
    simpa using recordFill_wrapping 0 bounded
  unfold writeEmptyAccount
  simp only [fill]
  refine Appends.congr (Appends.bind (appends_write _) fun _ => Appends.bind (appends_write _) fun _ =>
    Appends.bind (appends_write _) fun _ => Appends.bind (appends_write _) fun _ =>
    Appends.bind (appends_writeAll _) fun _ => Appends.bind (appends_writeAll _) fun _ =>
    Appends.bind (appends_writeAll _) fun _ => Appends.bind (appends_write _) fun _ =>
    Appends.bind (appends_write _) fun _ =>
    Appends.bind ((appends_fillWrite _ _).adaptExcept invalidArgument) fun _ =>
    Appends.bind (appends_write _) fun _ => Appends.pure ()) ?_ fun _ => rfl
  simp [accountRecord, recordHeader, AccountImage.empty, boolToByte]

section Construction

variable {A Exe Regs Log : Type} [AccountSizes A]

theorem appends_writeEmptyAccounts (accountSizes : A) (indices : List Nat)
    (bounded : ∀ index ∈ indices, recordLength (AccountSizes.size accountSizes index) < wordRange) :
    Appends (writeEmptyAccounts accountSizes indices)
      (recordsBytes (indices.map (AccountSizes.size accountSizes))
        (List.replicate indices.length AccountImage.empty))
      fun start => (List.range indices.length).map fun index =>
        start + recordsLength ((indices.map (AccountSizes.size accountSizes)).take index) := by
  induction indices with
  | nil => exact Appends.pure []
  | cons index rest ih =>
      have tail := ih fun later member => bounded later (.tail _ member)
      have head := appends_writeEmptyAccount (bounded index (.head _))
      have recordSize : (accountRecord (AccountSizes.size accountSizes index) AccountImage.empty).length =
          recordLength (AccountSizes.size accountSizes index) := length_accountRecord (Nat.zero_le _)
      unfold writeEmptyAccounts
      refine Appends.congr (Appends.bind appends_bufferLen fun start => Appends.bind head fun _ =>
        Appends.bind tail fun _ => Appends.pure _) ?_ ?_
      · simp [recordsBytes, List.replicate_succ]
      · intro start
        rw [recordSize, List.length_cons, List.range_succ_eq_map, List.map_cons, List.map_map]
        congr 1
        apply List.map_congr_left
        intro later _
        simp only [Function.comp_apply, List.map_cons, List.take_succ_cons, recordsLength_cons,
          Nat.succ_eq_add_one, List.length_nil]
        omega

theorem appends_writeInitial {instructionSize : Nat} {accountSizes : A}
    (bounded : inputLength (slotSizes accountSizes) instructionSize ≤ isizeMax) :
    ∀ buffer : AlignedMemory, buffer.len = 0 →
      inputLength (slotSizes accountSizes) instructionSize ≤ buffer.maxLen →
      ∃ after, writeInitial instructionSize accountSizes buffer =
          .ok { accountOffsets := (List.range (AccountSizes.len accountSizes)).map
                  (accountStart (slotSizes accountSizes))
                instructionOffset := instructionStart (slotSizes accountSizes)
                programIdOffset := programIdStart (slotSizes accountSizes) instructionSize } after ∧
        Extends buffer after (InputImage.initial (slotSizes accountSizes) instructionSize).bytes := by
  intro buffer empty room
  have recordBound : ∀ index ∈ List.range (AccountSizes.len accountSizes),
      recordLength (AccountSizes.size accountSizes index) < wordRange := by
    intro index member
    exact recordLength_lt_of_bounded bounded (getElem?_slotSizes (List.mem_range.mp member))
  have records := appends_writeEmptyAccounts accountSizes (List.range (AccountSizes.len accountSizes))
    recordBound
  have named : (List.range (AccountSizes.len accountSizes)).map (AccountSizes.size accountSizes) =
      slotSizes accountSizes := rfl
  have recordsSize := length_recordsBytes (FitSlots.empty (slotSizes accountSizes))
  rw [length_slotSizes] at recordsSize
  rw [named, List.length_range] at records
  have appended : Appends (writeInitial instructionSize accountSizes)
      (InputImage.initial (slotSizes accountSizes) instructionSize).bytes
      fun start => {
        accountOffsets := (List.range (AccountSizes.len accountSizes)).map fun index =>
          start + accountStart (slotSizes accountSizes) index
        instructionOffset := start + instructionStart (slotSizes accountSizes)
        programIdOffset := start + programIdStart (slotSizes accountSizes) instructionSize } := by
    unfold writeInitial
    refine Appends.congr (Appends.bind (appends_write _) fun _ => Appends.bind records fun _ =>
      Appends.bind appends_bufferLen fun _ => Appends.bind (appends_write _) fun _ =>
      Appends.bind (appends_fillWrite _ _) fun _ => Appends.bind appends_bufferLen fun _ =>
      Appends.bind (appends_writeAll _) fun _ => Appends.pure _) ?_ ?_
    · simp [InputImage.initial, InputImage.bytes]
    · intro start
      simp only [length_usizeToLe, List.length_replicate, List.length_nil, accountStart,
        instructionStart, programIdStart, recordsSize, Offsets.mk.injEq]
      refine ⟨?_, by omega, by omega⟩
      apply List.map_congr_left
      intro index _
      omega
  obtain ⟨after, ran, extension⟩ := appended buffer (by
    rw [InputImage.length_bytes, empty]
    omega)
  refine ⟨after, ?_, extension⟩
  simpa only [empty, Nat.zero_add] using ran

theorem bufferCapacity_eq {instructionSize : Nat} {accountSizes : A}
    (bounded : inputLength (slotSizes accountSizes) instructionSize ≤ isizeMax) :
    bufferCapacity instructionSize accountSizes = inputLength (slotSizes accountSizes) instructionSize := by
  have slotCapacity : ∀ size, accountCapacity size = recordLength size := by
    intro size
    simp only [accountCapacity, recordLength, Pubkey.sizeOf]
    omega
  have loop : ∀ (indices : List Nat) (size : Nat),
      size + recordsLength (indices.map (AccountSizes.size accountSizes)) < wordRange →
      indices.foldl (fun size index => wrappingAdd size (accountCapacity (AccountSizes.size accountSizes index)))
        size = size + recordsLength (indices.map (AccountSizes.size accountSizes)) := by
    intro indices
    induction indices with
    | nil => intro size _; simp [recordsLength]
    | cons index rest ih =>
        intro size fits
        simp only [List.map_cons, recordsLength_cons] at fits ⊢
        rw [List.foldl_cons, slotCapacity, wrappingAdd_eq (by omega), ih _ (by omega)]
        omega
  have unfolded : inputLength (slotSizes accountSizes) instructionSize =
      8 + recordsLength (slotSizes accountSizes) + (8 + instructionSize) + 32 := rfl
  rw [unfolded] at bounded ⊢
  simp only [isizeMax] at bounded
  have range : wordRange = 2 ^ 64 := rfl
  unfold bufferCapacity
  simp only [Pubkey.sizeOf]
  have inner : wrappingAdd (8 + recordsLength (slotSizes accountSizes)) (8 + instructionSize) =
      8 + recordsLength (slotSizes accountSizes) + (8 + instructionSize) := wrappingAdd_eq (by omega)
  rw [loop _ 8 (by rw [← slotSizes]; omega), ← slotSizes, inner, wrappingAdd_eq (by omega)]

/-- The offsets and lengths of an executor agree with the layout of its slots. -/
structure WellLaidOut (executor : InstructionExecutor A Exe Log) : Prop where
  accountOffsets : executor.accountOffsets = (List.range (AccountSizes.len executor.accountSizes)).map
    (accountStart (slotSizes executor.accountSizes))
  instructionOffset : executor.instructionOffset = instructionStart (slotSizes executor.accountSizes)
  programIdOffset : executor.programIdOffset =
    programIdStart (slotSizes executor.accountSizes) executor.instructionSize
  bufferLength : executor.buffer.len =
    inputLength (slotSizes executor.accountSizes) executor.instructionSize
  bounded : inputLength (slotSizes executor.accountSizes) executor.instructionSize ≤ isizeMax

/-- What a successful construction leaves behind. -/
structure Constructed (runtime : Runtime Exe Regs Log) (host : HostLayout) (instructionSize : Nat)
    (accountSizes : A) (executor : InstructionExecutor A Exe Log) : Prop where
  laidOut : WellLaidOut executor
  sameInstructionSize : executor.instructionSize = instructionSize
  sameAccountSizes : executor.accountSizes = accountSizes
  bytes : executor.buffer.bytes = (InputImage.initial (slotSizes accountSizes) instructionSize).bytes
  capacity : executor.buffer.maxLen = bufferCapacity instructionSize accountSizes
  within : AppendsWithin executor.buffer
  context : executor.context = InvokeContext.new
  config : executor.config = { runtime.defaultConfig with
    maxCallDepth := 64
    externalInternalFunctionHashCollision := true }
  executable : executor.executable = none
  bufferAddr : executor.buffer.hostAddr = host.bufferAddr
  stack : executor.stack = AlignedMemory.zeroFilled host.stackAddr executor.config.stackSize
  heap : executor.heap = AlignedMemory.zeroFilled host.heapAddr heapLength
  registry : Syscalls.getSyscalls runtime.hashSymbolName = .ok executor.registry

theorem new_succeeds {runtime : Runtime Exe Regs Log} (host : HostLayout) {instructionSize : Nat}
    {accountSizes : A} {registry : Syscalls.FunctionRegistry}
    (bounded : inputLength (slotSizes accountSizes) instructionSize ≤ isizeMax)
    (registered : Syscalls.getSyscalls runtime.hashSymbolName = .ok registry) :
    ∃ executor : InstructionExecutor A Exe Log, new runtime host instructionSize accountSizes = .ok executor ∧
      Constructed runtime host instructionSize accountSizes executor := by
  have capacity := bufferCapacity_eq bounded
  obtain ⟨buffer, filled, extension⟩ := appends_writeInitial bounded
    (AlignedMemory.withCapacity host.bufferAddr (bufferCapacity instructionSize accountSizes)) rfl
    (Nat.le_of_eq capacity.symm)
  have bytes : buffer.bytes = (InputImage.initial (slotSizes accountSizes) instructionSize).bytes := by
    rw [extension.bytes]
    rfl
  have length : buffer.len = inputLength (slotSizes accountSizes) instructionSize := by
    rw [AlignedMemory.len, bytes, InputImage.length_bytes]
  simp only [new, filled, registered, bind, Except.bind, pure, Except.pure]
  exact ⟨_, rfl, {
    laidOut := ⟨rfl, rfl, rfl, length, bounded⟩
    sameInstructionSize := rfl
    sameAccountSizes := rfl
    bytes
    capacity := extension.maxLen
    within := extension.within (by simp [AppendsWithin, AlignedMemory.withCapacity])
    context := rfl
    config := rfl
    executable := rfl
    bufferAddr := extension.hostAddr
    stack := rfl
    heap := rfl
    registry := registered }⟩

theorem new_constructed {runtime : Runtime Exe Regs Log} {host : HostLayout} {instructionSize : Nat}
    {accountSizes : A} {executor : InstructionExecutor A Exe Log}
    (bounded : inputLength (slotSizes accountSizes) instructionSize ≤ isizeMax)
    (built : new runtime host instructionSize accountSizes = .ok executor) :
    Constructed runtime host instructionSize accountSizes executor := by
  cases registered : Syscalls.getSyscalls runtime.hashSymbolName with
  | error error =>
      simp only [new, registered, bind, Except.bind] at built
      split at built <;> cases built
  | ok registry =>
      obtain ⟨executor', built', constructed⟩ := new_succeeds host bounded registered
      rw [built] at built'
      cases built'
      exact constructed

end Construction

end BpfSimulator.InstructionExecutor
