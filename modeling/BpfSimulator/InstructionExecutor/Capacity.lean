import BpfSimulator.InstructionExecutor.ConstructionProperties

/-! Construction for arbitrary sizes. The capacity is the appended length
modulo 2^64, and only the fills look at it, so an append leaves the capacity
unless a fill that contains the capacity's end is refused first. -/

set_option autoImplicit false

namespace BpfSimulator.InstructionExecutor

open Foundation

/-- How many bytes the fill of an empty record appends. -/
def fillLength (size : Nat) : Nat :=
  wrappingAdd (wrappingAdd size maxPermittedDataIncrease) (alignOffset size bpfAlignOfU128)

def spanLength (size : Nat) : Nat := 88 + fillLength size + 8

def spansLength (sizes : List Nat) : Nat := (sizes.map spanLength).sum

/-- Where construction starts the record of a slot. -/
def spanStart (sizes : List Nat) (index : Nat) : Nat := 8 + spansLength (sizes.take index)

def fillStart (sizes : List Nat) (index : Nat) : Nat := spanStart sizes index + 88

def instructionFillStart (sizes : List Nat) : Nat := 8 + spansLength sizes + 8

/-- How many bytes construction appends when no fill is refused. -/
def appendedLength (sizes : List Nat) (instructionSize : Nat) : Nat :=
  instructionFillStart sizes + instructionSize + 32

@[simp] theorem spansLength_cons (size : Nat) (rest : List Nat) :
    spansLength (size :: rest) = spanLength size + spansLength rest := by
  simp [spansLength]

theorem spansLength_take_succ {sizes : List Nat} {index size : Nat} (slot : sizes[index]? = some size) :
    spansLength (sizes.take (index + 1)) = spansLength (sizes.take index) + spanLength size := by
  rw [List.take_add_one, slot]
  simp [spansLength]

theorem spansLength_take_le (sizes : List Nat) (index : Nat) : spansLength (sizes.take index) ≤ spansLength sizes := by
  have split : spansLength sizes = spansLength (sizes.take index) + spansLength (sizes.drop index) := by
    simp only [spansLength, ← List.sum_append, ← List.map_append, List.take_append_drop]
  omega

theorem spansLength_take_mono {sizes : List Nat} {first second : Nat} (ordered : first ≤ second) :
    spansLength (sizes.take first) ≤ spansLength (sizes.take second) := by
  have prefixed : sizes.take first = (sizes.take second).take first := by
    rw [List.take_take, Nat.min_eq_left ordered]
  rw [prefixed]
  exact spansLength_take_le _ first

theorem accountCapacity_mod (size : Nat) : accountCapacity size % wordRange = spanLength size % wordRange := by
  simp only [accountCapacity, spanLength, fillLength, wrappingAdd, Pubkey.sizeOf, wordRange]
  omega

section Construction

variable {A : Type} [AccountSizes A]

theorem bufferCapacity_eq_mod (instructionSize : Nat) (accountSizes : A) :
    bufferCapacity instructionSize accountSizes =
      appendedLength (slotSizes accountSizes) instructionSize % wordRange := by
  have loop : ∀ (indices : List Nat) (size : Nat),
      indices.foldl (fun size index => wrappingAdd size (accountCapacity (AccountSizes.size accountSizes index)))
          size % wordRange =
        (size + spansLength (indices.map (AccountSizes.size accountSizes))) % wordRange := by
    intro indices
    induction indices with
    | nil => intro size; simp [spansLength]
    | cons index rest ih =>
        intro size
        have head := accountCapacity_mod (AccountSizes.size accountSizes index)
        rw [List.foldl_cons, ih, List.map_cons, spansLength_cons]
        simp only [wrappingAdd, wordRange] at *
        omega
  have whole := loop (List.range (AccountSizes.len accountSizes)) 8
  rw [← slotSizes] at whole
  simp only [bufferCapacity, appendedLength, instructionFillStart, wrappingAdd, Pubkey.sizeOf, wordRange] at *
  omega

end Construction

section Appends

/-- `after` is `before` with `count` bytes appended. A fill looks at the
capacity and the other appends do not: they stay within it exactly if they did
before and it has room for the bytes. -/
structure Appended (before after : AlignedMemory) (count : Nat) : Prop where
  len : after.len = before.len + count
  maxLen : after.maxLen = before.maxLen
  within : AppendsWithin after ↔ AppendsWithin before ∧ before.len + count ≤ before.maxLen

theorem Appended.refl {buffer : AlignedMemory} (sound : AppendsWithin buffer → buffer.len ≤ buffer.maxLen) :
    Appended buffer buffer 0 where
  len := rfl
  maxLen := rfl
  within := ⟨fun within => ⟨within, sound within⟩, And.left⟩

theorem Appended.trans {first second third : AlignedMemory} {left right : Nat}
    (head : Appended first second left) (tail : Appended second third right) :
    Appended first third (left + right) where
  len := by rw [tail.len, head.len, Nat.add_assoc]
  maxLen := tail.maxLen.trans head.maxLen
  within := by
    rw [tail.within, head.within, head.len, head.maxLen]
    constructor
    · intro inside
      obtain ⟨⟨earlier, _⟩, room⟩ := inside
      exact ⟨earlier, by omega⟩
    · intro inside
      obtain ⟨earlier, room⟩ := inside
      exact ⟨⟨earlier, by omega⟩, by omega⟩

theorem Appended.sound {before after : AlignedMemory} {count : Nat} (appended : Appended before after count) :
    AppendsWithin after → after.len ≤ after.maxLen := by
  intro within
  rw [appended.len, appended.maxLen]
  exact (appended.within.mp within).2

/-- The appends to an empty buffer stay within its capacity exactly if it has room for them all. -/
theorem Appended.within_of_empty {hostAddr capacity count : Nat} {after : AlignedMemory}
    (appended : Appended (AlignedMemory.withCapacity hostAddr capacity) after count) :
    AppendsWithin after ↔ count ≤ capacity := by
  have clean : AppendsWithin (AlignedMemory.withCapacity hostAddr capacity) :=
    fun append member => absurd member List.not_mem_nil
  have start : (AlignedMemory.withCapacity hostAddr capacity).len = 0 := rfl
  rw [appended.within, and_iff_right clean, start, Nat.zero_add]
  exact Iff.rfl

theorem appended_append (buffer : AlignedMemory) (value : List UInt8) :
    Appended buffer (buffer.append value) value.length where
  len := buffer.append_len value
  maxLen := rfl
  within := by
    simp only [AppendsWithin, AlignedMemory.append, List.forall_mem_cons]
    constructor
    · intro inside
      obtain ⟨⟨_, here⟩, earlier⟩ := inside
      exact ⟨earlier, here⟩
    · intro inside
      obtain ⟨earlier, here⟩ := inside
      exact ⟨⟨Nat.le_add_right _ _, here⟩, earlier⟩

theorem fillWrite_none_ok {buffer : AlignedMemory} {num : Nat} (value : UInt8)
    (room : buffer.len + num ≤ buffer.maxLen) :
    ∃ after, fillWrite none num value buffer = .ok after.len after ∧ Appended buffer after num := by
  let filled : AlignedMemory := { buffer with bytes := buffer.bytes ++ List.replicate num value }
  have length : filled.len = buffer.len + num := by simp [filled, AlignedMemory.len]
  refine ⟨filled, ?_, length, rfl, (and_iff_left room).symm⟩
  rw [length]
  simp only [fillWrite, AlignedMemory.fillWrite?, if_pos room]
  simp [filled, AlignedMemory.len]

theorem fillWrite_none_error {buffer : AlignedMemory} {num : Nat} (value : UInt8)
    (full : buffer.maxLen < buffer.len + num) : fillWrite none num value buffer = .error .io buffer := by
  simp only [fillWrite, AlignedMemory.fillWrite?, if_neg (Nat.not_le.mpr full)]

theorem bufferLen_run (buffer : AlignedMemory) : bufferLen buffer = .ok buffer.len buffer := rfl

/-- The buffer with the fields of an empty record before its fill. -/
def emptyHeader (size : Nat) (buffer : AlignedMemory) : AlignedMemory :=
  ((((((((buffer.append [nonDupMarker]).append [0]).append [0]).append [0]).append
    [0, 0, 0, 0]).append Pubkey.default.bytes).append Pubkey.default.bytes).append (u64ToLe 0)).append
    (usizeToLe size)

theorem appended_emptyHeader (size : Nat) (buffer : AlignedMemory) :
    Appended buffer (emptyHeader size buffer) 88 := by
  have flags := (((appended_append buffer [nonDupMarker]).trans (appended_append _ [0])).trans
    (appended_append _ [0])).trans (appended_append _ [0])
  have keys := ((flags.trans (appended_append _ [0, 0, 0, 0])).trans
    (appended_append _ Pubkey.default.bytes)).trans (appended_append _ Pubkey.default.bytes)
  have words := (keys.trans (appended_append _ (u64ToLe 0))).trans (appended_append _ (usizeToLe size))
  simpa [emptyHeader] using words

theorem writeEmptyAccount_header (size : Nat) (buffer : AlignedMemory) : writeEmptyAccount size buffer = (do
    let _ ← EStateM.adaptExcept invalidArgument (fillWrite none (fillLength size) 0)
    let _ ← write none (u64ToLe 0)) (emptyHeader size buffer) := by
  unfold writeEmptyAccount
  rw [bind_run_ok (write_none_run _ _), bind_run_ok (write_none_run _ _), bind_run_ok (write_none_run _ _),
    bind_run_ok (write_none_run _ _), bind_run_ok (writeAll_none_run _ _), bind_run_ok (writeAll_none_run _ _),
    bind_run_ok (writeAll_none_run _ _), bind_run_ok (write_none_run _ _), bind_run_ok (write_none_run _ _)]
  rfl

theorem writeEmptyAccount_ok {size : Nat} {buffer : AlignedMemory}
    (room : buffer.len + 88 + fillLength size ≤ buffer.maxLen) :
    ∃ after, writeEmptyAccount size buffer = .ok () after ∧ Appended buffer after (spanLength size) := by
  have header := appended_emptyHeader size buffer
  rw [← header.len, ← header.maxLen] at room
  obtain ⟨filled, ran, fill⟩ := fillWrite_none_ok 0 room
  have adapted : EStateM.adaptExcept invalidArgument (fillWrite none (fillLength size) 0) (emptyHeader size buffer) =
      .ok filled.len filled := by
    simp only [EStateM.adaptExcept, ran]
  refine ⟨filled.append (u64ToLe 0), ?_, (header.trans fill).trans (appended_append filled (u64ToLe 0))⟩
  rw [writeEmptyAccount_header, bind_run_ok adapted, bind_run_ok (write_none_run _ _)]
  rfl

/-- A record whose fill is refused leaves its header behind. -/
theorem writeEmptyAccount_error {size : Nat} {buffer : AlignedMemory}
    (full : buffer.maxLen < buffer.len + 88 + fillLength size) :
    ∃ error after, writeEmptyAccount size buffer = .error error after ∧ Appended buffer after 88 := by
  have header := appended_emptyHeader size buffer
  rw [← header.len, ← header.maxLen] at full
  have adapted : EStateM.adaptExcept invalidArgument (fillWrite none (fillLength size) 0) (emptyHeader size buffer) =
      .error (.instruction .invalidArgument) (emptyHeader size buffer) := by
    simp only [EStateM.adaptExcept, fillWrite_none_error 0 full]
    rfl
  refine ⟨.instruction .invalidArgument, emptyHeader size buffer, ?_, header⟩
  rw [writeEmptyAccount_header, bind_run_error adapted]

section Records

variable {sizes : List Nat} {before : AlignedMemory}

def recordStart (before : AlignedMemory) (sizes : List Nat) (index : Nat) : Nat :=
  before.len + spansLength (sizes.take index)

def RecordsFit (before : AlignedMemory) (sizes : List Nat) (count : Nat) : Prop :=
  ∀ (index size : Nat), index < count → sizes[index]? = some size →
    recordStart before sizes index + 88 + fillLength size ≤ before.maxLen

/-- How appending the records ends: after the last, or at the first fill that
would exceed the capacity. -/
inductive RecordsFilling (sizes : List Nat) (before : AlignedMemory) :
    EStateM.Result ExecutorError AlignedMemory (List Nat) → Prop where
  | complete {after : AlignedMemory} (appended : Appended before after (spansLength sizes))
      (fits : RecordsFit before sizes sizes.length) :
      RecordsFilling sizes before (.ok ((List.range sizes.length).map (recordStart before sizes)) after)
  | refused {error : ExecutorError} {after : AlignedMemory} {index size : Nat} (slot : sizes[index]? = some size)
      (full : before.maxLen < recordStart before sizes index + 88 + fillLength size)
      (fits : RecordsFit before sizes index) (appended : Appended before after (spansLength (sizes.take index) + 88)) :
      RecordsFilling sizes before (.error error after)

variable {middle : AlignedMemory} {first : Nat}

theorem recordStart_zero : recordStart before sizes 0 = before.len := by
  simp [recordStart, spansLength]

theorem recordStart_succ (head : Appended before middle (spanLength first)) (index : Nat) :
    recordStart before (first :: sizes) (index + 1) = recordStart middle sizes index := by
  simp only [recordStart, List.take_succ_cons, spansLength_cons, head.len]
  omega

theorem RecordsFit.cons {count : Nat} (head : Appended before middle (spanLength first))
    (room : before.len + 88 + fillLength first ≤ before.maxLen) (fits : RecordsFit middle sizes count) :
    RecordsFit before (first :: sizes) (count + 1) := by
  intro index size below slot
  cases index with
  | zero =>
      cases slot
      rwa [recordStart_zero]
  | succ index =>
      rw [recordStart_succ head, ← head.maxLen]
      exact fits index size (Nat.lt_of_succ_lt_succ below) slot

theorem recordStarts_cons (head : Appended before middle (spanLength first)) :
    before.len :: (List.range sizes.length).map (recordStart middle sizes) =
      (List.range (first :: sizes).length).map (recordStart before (first :: sizes)) := by
  rw [List.length_cons, List.range_succ_eq_map, List.map_cons, List.map_map, recordStart_zero]
  exact congrArg (before.len :: ·) (List.map_congr_left fun index _ => (recordStart_succ head index).symm)

end Records

section Run

variable {A : Type} [AccountSizes A]

theorem writeEmptyAccounts_filling (accountSizes : A) (indices : List Nat) {buffer : AlignedMemory}
    (sound : AppendsWithin buffer → buffer.len ≤ buffer.maxLen) :
    RecordsFilling (indices.map (AccountSizes.size accountSizes)) buffer
      (writeEmptyAccounts accountSizes indices buffer) := by
  induction indices generalizing buffer with
  | nil => exact .complete (.refl sound) fun _ _ _ slot => nomatch slot
  | cons index rest ih =>
      unfold writeEmptyAccounts
      rw [List.map_cons, bind_run_ok (bufferLen_run buffer)]
      by_cases room : buffer.len + 88 + fillLength (AccountSizes.size accountSizes index) ≤ buffer.maxLen
      · obtain ⟨middle, ran, head⟩ := writeEmptyAccount_ok room
        have tail := ih head.sound
        rw [bind_run_ok ran]
        cases ranOn : writeEmptyAccounts accountSizes rest middle with
        | ok offsets after =>
            rw [bind_run_ok ranOn]
            rw [ranOn] at tail
            cases tail with
            | complete appended fits =>
                rw [recordStarts_cons head]
                exact .complete (spansLength_cons _ _ ▸ head.trans appended) (fits.cons head room)
        | error error after =>
            rw [bind_run_error ranOn]
            rw [ranOn] at tail
            cases tail with
            | @refused _ _ later size slot full fits appended =>
                refine @RecordsFilling.refused _ _ _ _ (later + 1) _ slot ?_ (fits.cons head room) ?_
                · rwa [recordStart_succ head, ← head.maxLen]
                · rw [List.take_succ_cons, spansLength_cons, Nat.add_assoc]
                  exact head.trans appended
      · obtain ⟨error, after, ran, header⟩ := writeEmptyAccount_error (Nat.not_le.mp room)
        rw [bind_run_error ran]
        refine @RecordsFilling.refused _ _ _ _ 0 _ rfl ?_ (fun index _ below => absurd below (Nat.not_lt_zero index)) ?_
        · rw [recordStart_zero]
          exact Nat.not_le.mp room
        · simpa [spansLength] using header

/-- The fills before the given slot stay within the capacity. -/
def FillsFit (sizes : List Nat) (capacity count : Nat) : Prop :=
  ∀ (index size : Nat), index < count → sizes[index]? = some size → fillStart sizes index + fillLength size ≤ capacity

/-- How filling the empty buffer ends, and when its appends stayed within the capacity. -/
inductive Filling (sizes : List Nat) (instructionSize capacity : Nat) :
    EStateM.Result ExecutorError AlignedMemory Offsets → Prop where
  | complete {offsets : Offsets} {after : AlignedMemory}
      (maxLen : after.maxLen = capacity)
      (accountOffsets : offsets.accountOffsets = (List.range sizes.length).map (spanStart sizes))
      (instructionOffset : offsets.instructionOffset = 8 + spansLength sizes)
      (programIdOffset : offsets.programIdOffset = instructionFillStart sizes + instructionSize)
      (length : after.len = appendedLength sizes instructionSize) (fits : FillsFit sizes capacity sizes.length)
      (instructionFits : instructionFillStart sizes + instructionSize ≤ capacity)
      (within : AppendsWithin after ↔ appendedLength sizes instructionSize ≤ capacity) :
      Filling sizes instructionSize capacity (.ok offsets after)
  | refusedRecord {error : ExecutorError} {after : AlignedMemory} {index size : Nat}
      (maxLen : after.maxLen = capacity)
      (slot : sizes[index]? = some size) (full : capacity < fillStart sizes index + fillLength size)
      (fits : FillsFit sizes capacity index) (within : AppendsWithin after ↔ fillStart sizes index ≤ capacity) :
      Filling sizes instructionSize capacity (.error error after)
  | refusedInstruction {error : ExecutorError} {after : AlignedMemory}
      (maxLen : after.maxLen = capacity)
      (full : capacity < instructionFillStart sizes + instructionSize) (fits : FillsFit sizes capacity sizes.length)
      (within : AppendsWithin after ↔ instructionFillStart sizes ≤ capacity) :
      Filling sizes instructionSize capacity (.error error after)

theorem recordStart_counted {counted : AlignedMemory} (length : counted.len = 8) (sizes : List Nat) (index : Nat) :
    recordStart counted sizes index + 88 = fillStart sizes index := by
  simp only [recordStart, length, fillStart, spanStart]

theorem RecordsFit.fillsFit {counted : AlignedMemory} {sizes : List Nat} {count : Nat} (length : counted.len = 8)
    (fits : RecordsFit counted sizes count) : FillsFit sizes counted.maxLen count := by
  intro index size below slot
  rw [← recordStart_counted length]
  exact fits index size below slot

theorem writeInitial_filling (hostAddr instructionSize capacity : Nat) (accountSizes : A) :
    Filling (slotSizes accountSizes) instructionSize capacity
      (writeInitial instructionSize accountSizes (AlignedMemory.withCapacity hostAddr capacity)) := by
  let empty := AlignedMemory.withCapacity hostAddr capacity
  let counted := empty.append (usizeToLe (AccountSizes.len accountSizes))
  have count : Appended empty counted 8 := by
    simpa using appended_append empty (usizeToLe (AccountSizes.len accountSizes))
  have start : empty.len = 0 := rfl
  have countedLen : counted.len = 8 := by rw [count.len, start]
  change Filling _ _ _ (writeInitial instructionSize accountSizes empty)
  unfold writeInitial
  rw [bind_run_ok (write_none_run _ _)]
  have records := writeEmptyAccounts_filling accountSizes (List.range (AccountSizes.len accountSizes)) count.sound
  rw [← slotSizes] at records
  cases ran : writeEmptyAccounts accountSizes (List.range (AccountSizes.len accountSizes)) counted with
  | error error after =>
      rw [bind_run_error ran]
      rw [ran] at records
      cases records with
      | @refused _ _ index size slot full fits appended =>
          have place := recordStart_counted countedLen (slotSizes accountSizes) index
          rw [place, count.maxLen] at full
          refine .refusedRecord ((count.trans appended).maxLen) slot full (fits.fillsFit countedLen) ?_
          rw [(count.trans appended).within_of_empty]
          simp only [fillStart, spanStart, Nat.add_assoc]
  | ok offsets after =>
      rw [bind_run_ok ran, bind_run_ok (bufferLen_run after), bind_run_ok (write_none_run _ _)]
      rw [ran] at records
      cases records with
      | complete appended fits =>
          have sized := (count.trans appended).trans (appended_append after (usizeToLe instructionSize))
          rw [length_usizeToLe] at sized
          have sizedLen : (after.append (usizeToLe instructionSize)).len = instructionFillStart (slotSizes accountSizes) := by
            rw [sized.len, start, Nat.zero_add]
            rfl
          by_cases room : instructionFillStart (slotSizes accountSizes) + instructionSize ≤ capacity
          · obtain ⟨filled, filledRan, fill⟩ := @fillWrite_none_ok (after.append (usizeToLe instructionSize))
              instructionSize 0 (by rw [sizedLen, sized.maxLen]; exact room)
            have named := (sized.trans fill).trans (appended_append filled Pubkey.default.bytes)
            rw [Pubkey.length_bytes] at named
            rw [bind_run_ok filledRan, bind_run_ok (bufferLen_run filled), bind_run_ok (writeAll_none_run _ _)]
            refine .complete named.maxLen ?_ ?_ ?_ ?_ (fits.fillsFit countedLen) room ?_
            · rw [length_slotSizes]
              refine List.map_congr_left fun index _ => ?_
              simp only [recordStart, countedLen, spanStart]
            · rw [(count.trans appended).len, start, Nat.zero_add]
            · rw [fill.len, sizedLen]
            · rw [named.len, start, Nat.zero_add]
              rfl
            · exact named.within_of_empty
          · have full : (after.append (usizeToLe instructionSize)).maxLen <
                (after.append (usizeToLe instructionSize)).len + instructionSize := by
              rw [sizedLen, sized.maxLen]
              exact Nat.not_le.mp room
            rw [bind_run_error (fillWrite_none_error 0 full)]
            exact .refusedInstruction sized.maxLen (Nat.not_le.mp room) (fits.fillsFit countedLen)
              sized.within_of_empty

/-- The buffer when `new` is done with it, whether `new` succeeds or fails. -/
def newBuffer (host : HostLayout) (instructionSize : Nat) (accountSizes : A) : AlignedMemory :=
  stateAfter (writeInitial instructionSize accountSizes
    (AlignedMemory.withCapacity host.bufferAddr (bufferCapacity instructionSize accountSizes)))

theorem new_filled {Exe Regs Log : Type} {runtime : Runtime Exe Regs Log} {host : HostLayout}
    {instructionSize : Nat} {accountSizes : A} {executor : InstructionExecutor A Exe Log}
    (built : new runtime host instructionSize accountSizes = .ok executor) :
    ∃ offsets, writeInitial instructionSize accountSizes
        (AlignedMemory.withCapacity host.bufferAddr (bufferCapacity instructionSize accountSizes)) =
        .ok offsets executor.buffer ∧ executor.accountOffsets = offsets.accountOffsets := by
  unfold new at built
  cases filled : writeInitial instructionSize accountSizes
    (AlignedMemory.withCapacity host.bufferAddr (bufferCapacity instructionSize accountSizes)) with
  | error error buffer =>
      simp only [filled] at built
      cases built
  | ok offsets buffer =>
      simp only [filled] at built
      cases registered : Syscalls.getSyscalls runtime.hashSymbolName with
      | error error =>
          rw [registered] at built
          cases built
      | ok registry =>
          rw [registered] at built
          cases built
          exact ⟨offsets, rfl, rfl⟩

theorem fillEnd_le {sizes : List Nat} {first second size : Nat} (ordered : first < second)
    (slot : sizes[first]? = some size) :
    fillStart sizes first + fillLength size ≤ fillStart sizes second := by
  have next := spansLength_take_succ slot
  have later := @spansLength_take_mono sizes (first + 1) second ordered
  simp only [fillStart, spanStart, spanLength] at *
  omega

theorem fillEnd_le_instruction {sizes : List Nat} {index size : Nat} (slot : sizes[index]? = some size) :
    fillStart sizes index + fillLength size ≤ instructionFillStart sizes := by
  have next := spansLength_take_succ slot
  have later := spansLength_take_le sizes (index + 1)
  simp only [fillStart, spanStart, spanLength, instructionFillStart] at *
  omega

def InsideRecordFill (sizes : List Nat) (capacity : Nat) : Prop :=
  ∃ index size, sizes[index]? = some size ∧ fillStart sizes index ≤ capacity ∧
    capacity < fillStart sizes index + fillLength size

def InsideInstructionFill (sizes : List Nat) (instructionSize capacity : Nat) : Prop :=
  instructionFillStart sizes ≤ capacity ∧ capacity < instructionFillStart sizes + instructionSize

theorem not_insideRecordFill {sizes : List Nat} {capacity : Nat} (fits : FillsFit sizes capacity sizes.length) :
    ¬ InsideRecordFill sizes capacity := by
  intro ends
  obtain ⟨index, size, slot, _, full⟩ := ends
  have fit := fits index size (List.getElem?_eq_some_iff.mp slot).1 slot
  omega

/-- Construction keeps its unchecked appends within the capacity exactly when
the appended length does not wrap, or the wrapped capacity ends inside a fill. -/
theorem construction_within_capacity_iff (host : HostLayout) (instructionSize : Nat) (accountSizes : A) :
    (newBuffer host instructionSize accountSizes).maxLen = bufferCapacity instructionSize accountSizes ∧
      (AppendsWithin (newBuffer host instructionSize accountSizes) ↔
        appendedLength (slotSizes accountSizes) instructionSize < wordRange ∨
        InsideRecordFill (slotSizes accountSizes) (bufferCapacity instructionSize accountSizes) ∨
        InsideInstructionFill (slotSizes accountSizes) instructionSize
          (bufferCapacity instructionSize accountSizes)) := by
  have wrapped := bufferCapacity_eq_mod instructionSize accountSizes
  have filling := writeInitial_filling host.bufferAddr instructionSize
    (bufferCapacity instructionSize accountSizes) accountSizes
  unfold newBuffer
  generalize bufferCapacity instructionSize accountSizes = capacity at *
  generalize writeInitial instructionSize accountSizes (AlignedMemory.withCapacity host.bufferAddr capacity) =
    result at filling ⊢
  -- Without a wrap the capacity is the appended length, and no fill is refused.
  have whole : appendedLength (slotSizes accountSizes) instructionSize < wordRange →
      capacity = appendedLength (slotSizes accountSizes) instructionSize := fun small => by
    rw [wrapped, Nat.mod_eq_of_lt small]
  cases filling with
  | @complete offsets after maxLen _ _ _ length fits instructionFits within =>
      refine ⟨maxLen, within.trans ⟨fun enough => .inl ?_, ?_⟩⟩
      · have less := Nat.mod_lt (appendedLength (slotSizes accountSizes) instructionSize)
          (show 0 < wordRange by decide)
        omega
      · intro condition
        rcases condition with small | inside | inside
        · exact Nat.le_of_eq (whole small).symm
        · exact absurd inside (not_insideRecordFill fits)
        · exact absurd inside.2 (by omega)
  | @refusedRecord error after index size maxLen slot full fits within =>
      have before := fillEnd_le_instruction slot
      refine ⟨maxLen, within.trans ⟨fun reached => .inr (.inl ⟨index, size, slot, reached, full⟩), ?_⟩⟩
      intro condition
      rcases condition with small | ⟨other, otherSize, otherSlot, reached, otherFull⟩ | inside
      · have same := whole small
        simp only [appendedLength] at same
        omega
      · rcases Nat.lt_trichotomy other index with earlier | rfl | later
        · have fit := fits other otherSize earlier otherSlot
          omega
        · exact reached
        · have behind := fillEnd_le later slot
          omega
      · have reached := inside.1
        omega
  | @refusedInstruction error after maxLen full fits within =>
      refine ⟨maxLen, within.trans ⟨fun reached => .inr (.inr ⟨reached, full⟩), ?_⟩⟩
      intro condition
      rcases condition with small | inside | inside
      · have same := whole small
        simp only [appendedLength] at same
        omega
      · exact absurd inside (not_insideRecordFill fits)
      · exact inside.1

/-- Instruction data whose size wraps the capacity to zero: the first append
already leaves it. -/
theorem construction_leaves_capacity :
    let host : HostLayout := ⟨0, 0, 0⟩
    bufferCapacity (2 ^ 64 - 48) ([] : List Nat) = 0 ∧
      (0, 8) ∈ (newBuffer host (2 ^ 64 - 48) ([] : List Nat)).uncheckedAppends ∧
      ¬ AppendsWithin (newBuffer host (2 ^ 64 - 48) ([] : List Nat)) := by
  intro host
  have first : (0, 8) ∈ (newBuffer host (2 ^ 64 - 48) ([] : List Nat)).uncheckedAppends := by decide
  exact ⟨by decide, first, fun within => absurd (within (0, 8) first).2 (by decide)⟩

end Run

end Appends

end BpfSimulator.InstructionExecutor
