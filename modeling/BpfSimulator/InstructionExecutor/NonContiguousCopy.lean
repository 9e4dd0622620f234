import BpfSimulator.Foundation.PiecewiseCopy
import BpfSimulator.InstructionExecutor.ChunkPartition
import BpfSimulator.InstructionExecutor.Memcpy

/-! Copying between ranges that may span several regions and overlap each
other. The loop keeps both cursors at the same distance from their ranges'
ends, and in its direction no source byte is overwritten before it is read. -/

set_option autoImplicit false

namespace BpfSimulator.Syscalls

open Foundation MemoryChunkIterator

section Cursors

variable {regions : List MemoryRegion} {access : AccessType} {reverse : Bool} {low high : Nat}

/-- The cursor still has to go through the addresses from `low` to `high`. -/
inductive At (regions : List MemoryRegion) (access : AccessType) (low high : Nat) : Bool → ChunkCursor → Prop where
  | between {reverse : Bool} {iter : MemoryChunkIterator} (starts : iter.vmAddrStart = low)
      (stops : iter.vmAddrEnd = high) : At regions access low high reverse ⟨iter, none⟩
  | forward {iter : MemoryChunkIterator} {chunk : MemoryChunk} (inside : chunk.Inside regions access)
      (positive : 0 < chunk.len) (current : chunk.vmAddr = low) (starts : iter.vmAddrStart = low + chunk.len)
      (within : low + chunk.len ≤ high) (stops : iter.vmAddrEnd = high) :
      At regions access low high false ⟨iter, some chunk⟩
  | backward {iter : MemoryChunkIterator} {chunk : MemoryChunk} (inside : chunk.Inside regions access)
      (positive : 0 < chunk.len) (current : chunk.vmAddr + chunk.len = high) (starts : iter.vmAddrStart = low)
      (within : low ≤ chunk.vmAddr) (stops : iter.vmAddrEnd = chunk.vmAddr) :
      At regions access low high true ⟨iter, some chunk⟩

theorem At.positive {chunk : MemoryChunk} {iter : MemoryChunkIterator}
    (position : At regions access low high reverse ⟨iter, some chunk⟩) : 0 < chunk.len := by
  cases position with
  | forward _ positive => exact positive
  | backward _ positive => exact positive

structure Over (regions : List MemoryRegion) (access : AccessType) (cursor : ChunkCursor) : Prop where
  lookup : cursor.iter.memoryMapping.LooksUp regions
  access : cursor.iter.accessType = access

/-- The address at which the loop goes on. -/
def edgeByte (low high : Nat) : Bool → Nat
  | true => high - 1
  | false => low

/-- The current chunk of a cursor: there is none at the end, or it is taken
from the iterator, which fails at an inaccessible byte. -/
theorem memoryChunk_cases {cursor : ChunkCursor} (belongs : Over regions access cursor)
    (position : At regions access low high reverse cursor) (ordered : low ≤ high) :
    (low = high ∧ memoryChunk reverse cursor = .ok none) ∨
    (low < high ∧ ∃ error, memoryChunk reverse cursor = .error error ∧
      Inaccessible regions access (edgeByte low high reverse)) ∨
    ∃ chunk iter, memoryChunk reverse cursor = .ok (some (chunk, iter)) ∧ Over regions access ⟨iter, some chunk⟩ ∧
      At regions access low high reverse ⟨iter, some chunk⟩ := by
  obtain ⟨lookup, sameAccess⟩ := belongs
  cases position with
  | forward inside positive current starts within stops =>
      exact .inr (.inr ⟨_, _, rfl, ⟨lookup, sameAccess⟩, .forward inside positive current starts within stops⟩)
  | backward inside positive current starts within stops =>
      exact .inr (.inr ⟨_, _, rfl, ⟨lookup, sameAccess⟩, .backward inside positive current starts within stops⟩)
  | @between _ iter starts stops =>
      subst starts stops
      simp only at lookup sameAccess
      subst sameAccess
      cases reverse with
      | false =>
          have step := drawn_next lookup ordered
          simp only [memoryChunk, Bool.false_eq_true, if_false]
          generalize iter.next = outcome at step ⊢
          obtain ⟨item, after⟩ := outcome
          cases step with
          | exhausted ended => exact .inl ⟨ended, rfl⟩
          | front inside positive starts within moved =>
              subst moved
              exact .inr (.inr ⟨_, _, rfl, ⟨lookup, rfl⟩, .forward inside positive starts (by simp only [starts])
                (starts ▸ within) rfl⟩)
          | failed remains inaccessible => exact .inr (.inl ⟨remains, _, rfl, inaccessible⟩)
      | true =>
          have step := drawn_nextBack lookup ordered
          simp only [memoryChunk, if_true]
          generalize iter.nextBack = outcome at step ⊢
          obtain ⟨item, after⟩ := outcome
          cases step with
          | exhausted ended => exact .inl ⟨ended, rfl⟩
          | back inside positive stops within moved =>
              subst moved
              exact .inr (.inr ⟨_, _, rfl, ⟨lookup, rfl⟩, .backward inside positive stops rfl within rfl⟩)
          | failed remains inaccessible => exact .inr (.inl ⟨remains, _, rfl, inaccessible⟩)

def pieceLow (low high count : Nat) : Bool → Nat
  | true => high - count
  | false => low

def restLow (low count : Nat) : Bool → Nat
  | true => low
  | false => low + count

def restHigh (high count : Nat) : Bool → Nat
  | true => high - count
  | false => high

/-- The next bytes lie in the region of the current chunk, and the cursor moves past them. -/
theorem At.advance {chunk : MemoryChunk} {iter : MemoryChunkIterator}
    (position : At regions access low high reverse ⟨iter, some chunk⟩) (representable : high ≤ u64Max) {count : Nat}
    (positive : 0 < count) (available : count ≤ chunk.len) :
    low + count ≤ high ∧ pieceAddr reverse chunk count = pieceLow low high count reverse ∧
      MemoryChunk.Inside ⟨chunk.region, pieceLow low high count reverse, count⟩ regions access ∧
      At regions access (restLow low count reverse) (restHigh high count reverse) reverse
        (advance reverse chunk iter count) := by
  cases position with
  | forward inside nonempty current starts within stops =>
      obtain ⟨member, permitted, below, above⟩ := inside
      subst current
      refine ⟨by omega, rfl, ⟨member, permitted, below, ?_⟩, ?_⟩
      · simp only [pieceLow]
        omega
      · have moved : saturatingAdd chunk.vmAddr count = chunk.vmAddr + count := Nat.min_eq_left (by omega)
        unfold Syscalls.advance
        by_cases finished : chunk.len - count = 0
        · simp only [if_pos finished, restLow, restHigh]
          exact .between (by omega) stops
        · simp only [if_neg finished, restLow, restHigh, moved, Bool.false_eq_true, ↓reduceIte]
          exact .forward ⟨member, permitted, by simp only; omega, by simp only; omega⟩ (by simp only; omega) rfl
            (by simp only; omega) (by simp only; omega) stops
  | backward inside nonempty current starts within stops =>
      obtain ⟨member, permitted, below, above⟩ := inside
      subst current
      have whole : saturatingAdd chunk.vmAddr chunk.len = chunk.vmAddr + chunk.len := Nat.min_eq_left representable
      refine ⟨by omega, ?_, ⟨member, permitted, ?_, ?_⟩, ?_⟩
      · simp only [pieceAddr, pieceLow, whole, ↓reduceIte]
      · simp only [pieceLow]
        omega
      · simp only [pieceLow]
        omega
      · unfold Syscalls.advance
        by_cases finished : chunk.len - count = 0
        · simp only [if_pos finished, restLow, restHigh]
          exact .between starts (by omega)
        · simp only [if_neg finished, restLow, restHigh, ↓reduceIte]
          exact .backward ⟨member, permitted, below, by simp only; omega⟩ (by simp only; omega) (by simp only; omega)
            starts within stops

end Cursors

def Accessible (regions : List MemoryRegion) (access : AccessType) (vmAddr : Nat) : Prop :=
  ∃ region ∈ regions, region.permits access = true ∧ region.Holds vmAddr

/-- The host byte behind an address that may be loaded. -/
def hostByte (mapping : MemoryMapping) (vmAddr : Nat) : Nat :=
  match mapping.region .load vmAddr with
  | .ok region => region.hostOf vmAddr
  | .error _ => 0

section HostBytes

variable {regions : List MemoryRegion} {mapping : MemoryMapping}

theorem hostByte_eq (lookup : mapping.LooksUp regions) {region : MemoryRegion} (member : region ∈ regions)
    {vmAddr : Nat} (holds : region.Holds vmAddr) : hostByte mapping vmAddr = region.hostOf vmAddr := by
  have found := (lookup .load vmAddr region).mpr ⟨member, rfl, holds⟩
  simp only [hostByte, found]

theorem vmAddrEnd_le {region : MemoryRegion} (ungapped : region.gapSize = 0) :
    region.vmAddrEnd ≤ region.vmAddr + region.len := by
  simp only [MemoryRegion.vmAddrEnd, ungapped, ↓reduceIte]
  exact Nat.min_le_left _ _

theorem hostByte_injective (lookup : mapping.LooksUp regions) (ungapped : ∀ region ∈ regions, region.gapSize = 0)
    (apart : HostsApart regions) {access access' : AccessType} {vmAddr vmAddr' : Nat}
    (accessible : Accessible regions access vmAddr) (accessible' : Accessible regions access' vmAddr')
    (same : hostByte mapping vmAddr = hostByte mapping vmAddr') : vmAddr = vmAddr' := by
  obtain ⟨region, member, _, holds⟩ := accessible
  obtain ⟨region', member', _, holds'⟩ := accessible'
  rw [hostByte_eq lookup member holds, hostByte_eq lookup member' holds'] at same
  have stop := vmAddrEnd_le (ungapped region member)
  have stop' := vmAddrEnd_le (ungapped region' member')
  obtain ⟨below, above⟩ := holds
  obtain ⟨below', above'⟩ := holds'
  unfold MemoryRegion.hostOf at same
  by_cases sameRegion : region = region'
  · subst sameRegion
    omega
  · have separate := List.Pairwise.forall apart member member' sameRegion
    unfold MemoryRegion.HostApart at separate
    omega

variable {chunk : MemoryChunk} {access : AccessType}

theorem MemoryChunk.Inside.accessible (inside : chunk.Inside regions access) {offset : Nat} (bound : offset < chunk.len) :
    Accessible regions access (chunk.vmAddr + offset) :=
  ⟨chunk.region, inside.member, inside.permitted, Nat.le_trans inside.below (Nat.le_add_right _ _),
    Nat.lt_of_lt_of_le (Nat.add_lt_add_left bound _) inside.above⟩

theorem MemoryChunk.Inside.hostByte (lookup : mapping.LooksUp regions) (inside : chunk.Inside regions access)
    {offset : Nat} (bound : offset < chunk.len) :
    hostByte mapping (chunk.vmAddr + offset) = Syscalls.hostByte mapping chunk.vmAddr + offset := by
  have below := inside.below
  have above := inside.above
  rw [hostByte_eq lookup inside.member ⟨by omega, by omega⟩, hostByte_eq lookup inside.member ⟨below, by omega⟩]
  simp only [MemoryRegion.hostOf]
  omega

theorem MemoryChunk.Inside.vmToHost (lookup : mapping.LooksUp regions)
    (ungapped : ∀ region ∈ regions, region.gapSize = 0) (inside : chunk.Inside regions access)
    (positive : 0 < chunk.len) :
    vmToHost chunk.region chunk.vmAddr chunk.len = .ok (Syscalls.hostByte mapping chunk.vmAddr) := by
  have below := inside.below
  have above := inside.above
  have stop := vmAddrEnd_le (ungapped chunk.region inside.member)
  have found := (MemoryRegion.vmToHost?_of_ungapped (ungapped chunk.region inside.member)).mpr
    ⟨below, Nat.le_trans above stop, rfl⟩
  rw [hostByte_eq lookup inside.member ⟨below, by omega⟩]
  simp only [Syscalls.vmToHost, found]
  rfl

/-- The next `count` bytes of a chunk have been taken from a cursor, whose
addresses are relative to `base`. -/
structure PieceTaken (regions : List MemoryRegion) (mapping : MemoryMapping) (access : AccessType) (base low high : Nat)
    (reverse : Bool) (count : Nat) (chunk : MemoryChunk) (iter : MemoryChunkIterator) : Prop where
  within : low + count ≤ high
  host : Syscalls.vmToHost chunk.region (pieceAddr reverse chunk count) count =
    .ok (Syscalls.hostByte mapping (base + pieceLow low high count reverse))
  follow : ∀ offset < count, Syscalls.hostByte mapping (base + (pieceLow low high count reverse + offset)) =
    Syscalls.hostByte mapping (base + pieceLow low high count reverse) + offset
  accessible : ∀ offset < count, Accessible regions access (base + (pieceLow low high count reverse + offset))
  moved : At regions access (base + restLow low count reverse) (base + restHigh high count reverse) reverse
    (advance reverse chunk iter count)

theorem pieceLow_add {low high count : Nat} (reverse : Bool) (within : count ≤ high) (base : Nat) :
    pieceLow (base + low) (base + high) count reverse = base + pieceLow low high count reverse ∧
      restLow (base + low) count reverse = base + restLow low count reverse ∧
      restHigh (base + high) count reverse = base + restHigh high count reverse := by
  cases reverse with
  | true =>
      have moved : base + high - count = base + (high - count) := Nat.add_sub_assoc within base
      exact ⟨moved, rfl, moved⟩
  | false => exact ⟨rfl, Nat.add_assoc base low count, rfl⟩

theorem At.take {base low high count : Nat} {reverse : Bool} {iter : MemoryChunkIterator} (lookup : mapping.LooksUp regions)
    (ungapped : ∀ region ∈ regions, region.gapSize = 0)
    (position : At regions access (base + low) (base + high) reverse ⟨iter, some chunk⟩)
    (representable : base + high ≤ u64Max) (positive : 0 < count) (available : count ≤ chunk.len) :
    PieceTaken regions mapping access base low high reverse count chunk iter := by
  obtain ⟨within, piece, inside, moved⟩ := position.advance representable positive available
  obtain ⟨shift, shiftLow, shiftHigh⟩ := @pieceLow_add low high count reverse (by omega) base
  rw [shiftLow, shiftHigh] at moved
  rw [shift] at piece inside
  refine ⟨by omega, piece ▸ inside.vmToHost lookup ungapped positive, ?_, ?_, moved⟩
  · intro offset bound
    rw [← Nat.add_assoc]
    exact inside.hostByte lookup bound
  · intro offset bound
    rw [← Nat.add_assoc]
    exact inside.accessible bound

end HostBytes

section Loop

def Done (n low high index : Nat) : Prop := index < n ∧ (index < low ∨ high ≤ index)

/-- Forwards the end of the range remains, backwards its start. -/
def Remains (n low high : Nat) : Bool → Prop
  | true => low = 0 ∧ high ≤ n
  | false => low ≤ n ∧ high = n

/-- The direction in which no byte is overwritten before it is read. -/
def Safe (src dst n : Nat) : Bool → Prop
  | true => src ≤ dst
  | false => dst < src ∨ src + n ≤ dst

/-- The loop between two rounds: both cursors still have to go through the same
indices, and the bytes of all others are copied. -/
structure Progress (regions : List MemoryRegion) (mapping : MemoryMapping) (src dst n : Nat) (reverse : Bool)
    (low high : Nat) (srcCursor dstCursor : ChunkCursor) (before after : ByteMemory) : Prop where
  remains : Remains n low high reverse
  ordered : low ≤ high
  srcOver : Over regions .load srcCursor
  dstOver : Over regions .store dstCursor
  srcAt : At regions .load (src + low) (src + high) reverse srcCursor
  dstAt : At regions .store (dst + low) (dst + high) reverse dstCursor
  copied : CopiedOn (Done n low high) (fun index => hostByte mapping (src + index))
    (fun index => hostByte mapping (dst + index)) before after
  accessible : ∀ index, Done n low high index →
    Accessible regions .load (src + index) ∧ Accessible regions .store (dst + index)

variable {Log : Type} {regions : List MemoryRegion} {mapping : MemoryMapping} {src dst n : Nat} {reverse : Bool}
  {low high : Nat} {srcCursor dstCursor : ChunkCursor} {before : ByteMemory}

def Unmapped (regions : List MemoryRegion) (src dst n : Nat) : Prop :=
  ∃ index < n, Inaccessible regions .load (src + index) ∨ Inaccessible regions .store (dst + index)

theorem edgeByte_add {base : Nat} (remains : low < high) :
    edgeByte (base + low) (base + high) reverse = base + edgeByte low high reverse ∧ low ≤ edgeByte low high reverse ∧
      edgeByte low high reverse < high := by
  cases reverse with
  | true =>
      simp only [edgeByte]
      omega
  | false => exact ⟨rfl, Nat.le_refl low, remains⟩

theorem Remains.bounded (remains : Remains n low high reverse) : high ≤ n := by
  cases reverse with
  | true => exact remains.2
  | false => exact Nat.le_of_eq remains.2

theorem done_step {count : Nat} (remains : Remains n low high reverse) (within : low + count ≤ high) (index : Nat) :
    Done n (restLow low count reverse) (restHigh high count reverse) index ↔
      Done n low high index ∨ pieceLow low high count reverse ≤ index ∧
        index < pieceLow low high count reverse + count := by
  cases reverse with
  | true =>
      simp only [Remains, Done, restLow, restHigh, pieceLow] at *
      omega
  | false =>
      simp only [Remains, Done, restLow, restHigh, pieceLow] at *
      omega

theorem piece_bounds {count : Nat} (within : low + count ≤ high) :
    low ≤ pieceLow low high count reverse ∧ pieceLow low high count reverse + count ≤ high := by
  cases reverse with
  | true =>
      simp only [pieceLow]
      omega
  | false => exact ⟨Nat.le_refl low, within⟩

/-- What is done lies behind the piece in the direction of the loop. -/
theorem safe_step {count : Nat} (safe : Safe src dst n reverse) (remains : Remains n low high reverse)
    (within : low + count ≤ high) {offset index : Nat} (bound : offset < count) (done : Done n low high index) :
    src + (pieceLow low high count reverse + offset) ≠ dst + index := by
  cases reverse with
  | true =>
      simp only [Safe, Remains, Done, pieceLow] at *
      omega
  | false =>
      simp only [Safe, Remains, Done, pieceLow] at *
      omega

theorem Remains.next {count : Nat} (remains : Remains n low high reverse) (within : low + count ≤ high) :
    Remains n (restLow low count reverse) (restHigh high count reverse) reverse ∧
      restLow low count reverse ≤ restHigh high count reverse := by
  cases reverse with
  | true =>
      simp only [Remains, restLow, restHigh] at *
      omega
  | false =>
      simp only [Remains, restLow, restHigh] at *
      omega

/-- What the loop relies on: regions that can be told apart by their host
bytes, ranges below the limit and a safe direction. -/
structure SafeRanges (regions : List MemoryRegion) (mapping : MemoryMapping) (src dst n : Nat) (reverse : Bool) :
    Prop where
  lookup : mapping.LooksUp regions
  ungapped : ∀ region ∈ regions, region.gapSize = 0
  apart : HostsApart regions
  safe : Safe src dst n reverse
  srcFits : src + n ≤ u64Max
  dstFits : dst + n ≤ u64Max

theorem Progress.extend {after : ByteMemory} {count : Nat} {srcChunk dstChunk : MemoryChunk}
    {srcIter dstIter : MemoryChunkIterator} (ranges : SafeRanges regions mapping src dst n reverse)
    (progress : Progress regions mapping src dst n reverse low high srcCursor dstCursor before after)
    (srcTaken : PieceTaken regions mapping .load src low high reverse count srcChunk srcIter)
    (srcOver : Over regions .load ⟨srcIter, some srcChunk⟩)
    (dstTaken : PieceTaken regions mapping .store dst low high reverse count dstChunk dstIter)
    (dstOver : Over regions .store ⟨dstIter, some dstChunk⟩) :
    Progress regions mapping src dst n reverse (restLow low count reverse) (restHigh high count reverse)
      (advance reverse srcChunk srcIter count) (advance reverse dstChunk dstIter count) before
      (after.write (hostByte mapping (dst + pieceLow low high count reverse))
        (after.read (hostByte mapping (src + pieceLow low high count reverse)) count)) := by
  have within := srcTaken.within
  have done := done_step progress.remains within
  obtain ⟨remains, ordered⟩ := progress.remains.next within
  exact {
    remains
    ordered
    srcOver := ⟨srcOver.lookup, srcOver.access⟩
    dstOver := ⟨dstOver.lookup, dstOver.access⟩
    srcAt := srcTaken.moved
    dstAt := dstTaken.moved
    copied := by
      refine (progress.copied.extend dstTaken.follow srcTaken.follow ?_ ?_).congr done
      · intro offset bound index isDone same
        have address := hostByte_injective ranges.lookup ranges.ungapped ranges.apart
          (srcTaken.accessible offset bound) (progress.accessible index isDone).2 same
        exact safe_step ranges.safe progress.remains within bound isDone address
      · intro offset bound index isDone same
        have address := hostByte_injective ranges.lookup ranges.ungapped ranges.apart
          (dstTaken.accessible offset bound) (progress.accessible index isDone).2 same
        obtain ⟨_, processed⟩ := isDone
        obtain ⟨above, below⟩ := @piece_bounds reverse low high count within
        omega
    accessible := by
      intro index isDone
      rcases (done index).mp isDone with earlier | ⟨above, below⟩
      · exact progress.accessible index earlier
      · obtain ⟨offset, rfl⟩ := Nat.exists_eq_add_of_le above
        exact ⟨srcTaken.accessible offset (by omega), dstTaken.accessible offset (by omega)⟩ }

/-- The work of a round of `memmove_non_contiguous`. -/
def copyWork (srcHostAddr dstHostAddr chunkLen : Nat) : SyscallM Log Nat := do
  modify fun state =>
    { state with memory := state.memory.write dstHostAddr (state.memory.read srcHostAddr chunkLen) }
  pure 0

theorem inaccessible_edge {base : Nat} {access : AccessType} (bounded : high ≤ n) (remaining : low < high)
    (inaccessible : Inaccessible regions access (edgeByte (base + low) (base + high) reverse)) :
    ∃ index < n, Inaccessible regions access (base + index) := by
  obtain ⟨shift, _, below⟩ := @edgeByte_add reverse low high base remaining
  exact ⟨edgeByte low high reverse, by omega, shift ▸ inaccessible⟩

/-- A round ends the loop when nothing remains, fails at a byte that cannot be
accessed, or copies at least one byte. -/
theorem pairStep_cases {state : SyscallState Log} (ranges : SafeRanges regions mapping src dst n reverse)
    (progress : Progress regions mapping src dst n reverse low high srcCursor dstCursor before state.memory) :
    (low = high ∧ pairStep reverse copyWork srcCursor dstCursor state = .ok none state) ∨
    (Unmapped regions src dst n ∧
      ∃ error, pairStep reverse copyWork srcCursor dstCursor state = .error error state) ∨
    ∃ count srcNext dstNext memory, 0 < count ∧ low + count ≤ high ∧
      pairStep reverse copyWork srcCursor dstCursor state =
        .ok (some (srcNext, dstNext)) { state with memory } ∧
      Progress regions mapping src dst n reverse (restLow low count reverse) (restHigh high count reverse) srcNext
        dstNext before memory := by
  have bounded := progress.remains.bounded
  have ordered := progress.ordered
  have srcFits := ranges.srcFits
  have dstFits := ranges.dstFits
  unfold pairStep
  rcases memoryChunk_cases progress.srcOver progress.srcAt (by omega) with
    ⟨same, srcTaken⟩ | ⟨remaining, error, srcTaken, inaccessible⟩ | ⟨srcChunk, srcIter, srcTaken, srcOver, srcAt⟩
  · rw [srcTaken]
    exact .inl ⟨by omega, rfl⟩
  · rw [srcTaken]
    obtain ⟨index, bound, unmapped⟩ := inaccessible_edge bounded (by omega) inaccessible
    exact .inr (.inl ⟨⟨index, bound, .inl unmapped⟩, error, rfl⟩)
  · rcases memoryChunk_cases progress.dstOver progress.dstAt (by omega) with
      ⟨same, dstTaken⟩ | ⟨remaining, error, dstTaken, inaccessible⟩ | ⟨dstChunk, dstIter, dstTaken, dstOver, dstAt⟩
    · rw [srcTaken, dstTaken]
      exact .inl ⟨by omega, rfl⟩
    · rw [srcTaken, dstTaken]
      obtain ⟨index, bound, unmapped⟩ := inaccessible_edge bounded (by omega) inaccessible
      exact .inr (.inl ⟨⟨index, bound, .inr unmapped⟩, error, rfl⟩)
    · have positive : 0 < min srcChunk.len dstChunk.len := Nat.lt_min.mpr ⟨srcAt.positive, dstAt.positive⟩
      have srcPiece := srcAt.take ranges.lookup ranges.ungapped (by omega) positive (Nat.min_le_left _ _)
      have dstPiece := dstAt.take ranges.lookup ranges.ungapped (by omega) positive (Nat.min_le_right _ _)
      refine .inr (.inr ⟨_, _, _, _, positive, srcPiece.within, ?_,
        progress.extend ranges srcPiece srcOver dstPiece dstOver⟩)
      simp only [srcTaken, dstTaken, bind_run_ok (inspecting_ok_run _ _), srcPiece.host, dstPiece.host]
      rfl

/-- Enough rounds end the loop: with everything copied, or at a byte that cannot be accessed. -/
theorem pairLoop_cases {state : SyscallState Log} {rounds : Nat}
    (ranges : SafeRanges regions mapping src dst n reverse)
    (progress : Progress regions mapping src dst n reverse low high srcCursor dstCursor before state.memory)
    (enough : high - low < rounds) :
    (∃ memory, pairLoop reverse copyWork rounds srcCursor dstCursor state = .ok (some 0) { state with memory } ∧
      CopiedOn (· < n) (fun index => hostByte mapping (src + index)) (fun index => hostByte mapping (dst + index)) before
        memory ∧
      ∀ index < n, Accessible regions .load (src + index) ∧ Accessible regions .store (dst + index)) ∨
    Unmapped regions src dst n ∧
      ∃ error after, pairLoop reverse copyWork rounds srcCursor dstCursor state = .error error after := by
  induction rounds generalizing low high srcCursor dstCursor state with
  | zero => exact absurd enough (Nat.not_lt_zero _)
  | succ rounds ih =>
      rw [pairLoop]
      rcases pairStep_cases ranges progress with
        ⟨same, ran⟩ | ⟨unmapped, error, ran⟩ | ⟨count, srcNext, dstNext, memory, positive, within, ran, next⟩
      · have all : ∀ index, index < n ↔ Done n low high index := by
          intro index
          simp only [Done]
          omega
        refine .inl ⟨state.memory, ?_, progress.copied.congr all, fun index bound =>
          progress.accessible index ((all index).mp bound)⟩
        rw [bind_run_ok ran]
        rfl
      · refine .inr ⟨unmapped, error, state, ?_⟩
        rw [bind_run_error ran]
      · have shorter : restHigh high count reverse - restLow low count reverse < rounds := by
          cases reverse with
          | true =>
              simp only [restHigh, restLow]
              omega
          | false =>
              simp only [restHigh, restLow]
              omega
        rw [bind_run_ok ran]
        exact ih next shorter

end Loop

section Memmove

variable {Log : Type} {regions : List MemoryRegion} {mapping : MemoryMapping}

/-- Byte `index` of the source is copied to byte `index` of the destination, through the host. -/
abbrev MovedBytes (mapping : MemoryMapping) (src dst n : Nat) (before after : ByteMemory) : Prop :=
  CopiedOn (· < n) (fun index => hostByte mapping (src + index)) (fun index => hostByte mapping (dst + index)) before
    after

theorem safe_of_wrappingSub {src dst n : Nat} (srcFits : src + n ≤ u64Max) (dstFits : dst + n ≤ u64Max) :
    Safe src dst n (decide (wrappingSub dst src < n)) := by
  by_cases inside : wrappingSub dst src < n
  · rw [decide_eq_true inside]
    simp only [Safe, wrappingSub, wordRange, u64Max] at *
    omega
  · rw [decide_eq_false inside]
    simp only [Safe, wrappingSub, wordRange, u64Max] at *
    omega

theorem memmoveNonContiguous_overflow {src dst n : Nat} (rounds : Nat) (state : SyscallState Log)
    (overflow : ¬ (src + n ≤ u64Max ∧ dst + n ≤ u64Max)) :
    ∃ error, memmoveNonContiguous mapping dst src n rounds state = .error error state := by
  unfold memmoveNonContiguous iterMemoryPairChunks MemoryChunkIterator.new
  by_cases srcFits : src + n ≤ u64Max
  · rw [if_pos srcFits, if_neg fun dstFits => overflow ⟨srcFits, dstFits⟩]
    exact ⟨_, rfl⟩
  · rw [if_neg srcFits]
    exact ⟨_, rfl⟩

theorem memmoveNonContiguous_cases (lookup : mapping.LooksUp regions)
    (ungapped : ∀ region ∈ regions, region.gapSize = 0) (apart : HostsApart regions) {src dst n rounds : Nat}
    (srcFits : src + n ≤ u64Max) (dstFits : dst + n ≤ u64Max) (enough : n < rounds) (state : SyscallState Log) :
    (∃ memory, memmoveNonContiguous mapping dst src n rounds state = .ok (some 0) { state with memory } ∧
      MovedBytes mapping src dst n state.memory memory ∧
      ∀ index < n, Accessible regions .load (src + index) ∧ Accessible regions .store (dst + index)) ∨
    Unmapped regions src dst n ∧
      ∃ error after, memmoveNonContiguous mapping dst src n rounds state = .error error after := by
  have nothing : ∀ index, ¬ Done n 0 n index := by
    intro index
    simp only [Done]
    omega
  let srcIter : MemoryChunkIterator := ⟨mapping, .load, src, src, src + n, n⟩
  let dstIter : MemoryChunkIterator := ⟨mapping, .store, dst, dst, dst + n, n⟩
  let reverse := decide (wrappingSub dst src < n)
  have progress : Progress regions mapping src dst n reverse 0 n ⟨srcIter, none⟩ ⟨dstIter, none⟩ state.memory
      state.memory := {
    remains := by
      cases reverse with
      | true => exact ⟨rfl, Nat.le_refl n⟩
      | false => exact ⟨Nat.zero_le n, rfl⟩
    ordered := Nat.zero_le n
    srcOver := ⟨lookup, rfl⟩
    dstOver := ⟨lookup, rfl⟩
    srcAt := .between rfl rfl
    dstAt := .between rfl rfl
    copied := .nothing nothing
    accessible := fun index isDone => absurd isDone (nothing index) }
  have started : memmoveNonContiguous mapping dst src n rounds state =
      pairLoop reverse copyWork rounds ⟨srcIter, none⟩ ⟨dstIter, none⟩ state := by
    unfold memmoveNonContiguous iterMemoryPairChunks MemoryChunkIterator.new
    rw [if_pos srcFits, if_pos dstFits]
    rfl
  rw [started]
  exact pairLoop_cases ⟨lookup, ungapped, apart, safe_of_wrappingSub srcFits dstFits, srcFits, dstFits⟩ progress enough

def Movable (regions : List MemoryRegion) (src dst n : Nat) : Prop :=
  (src + n ≤ u64Max ∧ dst + n ≤ u64Max) ∧
    ∀ index < n, Accessible regions .load (src + index) ∧ Accessible regions .store (dst + index)

theorem Unmapped.not_movable {src dst n : Nat} (unmapped : Unmapped regions src dst n) : ¬ Movable regions src dst n := by
  intro movable
  obtain ⟨_, accessible⟩ := movable
  obtain ⟨index, bound, missing⟩ := unmapped
  obtain ⟨⟨source, sourceMember, readable, sourceHolds⟩, target, targetMember, writable, targetHolds⟩ :=
    accessible index bound
  cases missing with
  | inl noSource => exact noSource source sourceMember readable sourceHolds
  | inr noTarget => exact noTarget target targetMember writable targetHolds

theorem memmoveNonContiguous_outcome (lookup : mapping.LooksUp regions)
    (ungapped : ∀ region ∈ regions, region.gapSize = 0) (apart : HostsApart regions) (src dst n : Nat) {rounds : Nat}
    (enough : n < rounds) (state : SyscallState Log) :
    (∃ memory, memmoveNonContiguous mapping dst src n rounds state = .ok (some 0) { state with memory } ∧
      Movable regions src dst n ∧ MovedBytes mapping src dst n state.memory memory) ∨
    ¬ Movable regions src dst n ∧
      ∃ error after, memmoveNonContiguous mapping dst src n rounds state = .error error after := by
  by_cases fits : src + n ≤ u64Max ∧ dst + n ≤ u64Max
  · rcases memmoveNonContiguous_cases lookup ungapped apart fits.1 fits.2 enough state with
      ⟨memory, ran, moved, accessible⟩ | ⟨unmapped, failed⟩
    · exact .inl ⟨memory, ran, ⟨fits, accessible⟩, moved⟩
    · exact .inr ⟨unmapped.not_movable, failed⟩
  · obtain ⟨error, ran⟩ := @memmoveNonContiguous_overflow Log mapping src dst n rounds state fits
    exact .inr ⟨fun movable => fits movable.1, error, state, ran⟩

/-- A range that is mapped as a whole lies in one region, so its bytes are
accessible and follow each other in the host. -/
theorem mapped_range (lookup : mapping.LooksUp regions) (maps : mapping.MapsWithin regions) {access : AccessType}
    {vmAddr n hostAddr : Nat} (positive : 0 < n) (mapped : mapping.map access vmAddr n = .ok hostAddr) :
    vmAddr + n ≤ u64Max ∧ (∀ offset < n, Accessible regions access (vmAddr + offset)) ∧
      ∀ offset < n, hostByte mapping (vmAddr + (0 + offset)) = hostAddr + offset := by
  obtain ⟨region, member, permitted, below, above, rfl⟩ := maps _ _ _ _ positive mapped
  have inside : MemoryChunk.Inside ⟨region, vmAddr, n⟩ regions access := ⟨member, permitted, below, above⟩
  have limit : region.vmAddrEnd ≤ u64Max := Nat.min_le_right _ _
  refine ⟨Nat.le_trans above limit, fun offset bound => inside.accessible bound, ?_⟩
  intro offset bound
  rw [Nat.zero_add, inside.hostByte lookup bound, hostByte_eq lookup member ⟨below, by omega⟩]

theorem memmove_movedBytes (lookup : mapping.LooksUp regions) (maps : mapping.MapsWithin regions) {src dst n : Nat}
    (srcWord : src ≤ u64Max) (dstWord : dst ≤ u64Max) (fits : n ≤ u64Max) {state after : SyscallState Log} {value : Nat}
    (moved : memmove mapping dst src n state = .ok value after) :
    Movable regions src dst n ∧ after = { state with memory := after.memory } ∧ value = 0 ∧
      MovedBytes mapping src dst n state.memory after.memory := by
  rw [memmove_run dst src fits state] at moved
  by_cases empty : n = 0
  · subst empty
    cases moved
    exact ⟨⟨⟨srcWord, dstWord⟩, fun index absent => absurd absent (Nat.not_lt_zero index)⟩, rfl, rfl,
      .nothing fun index => Nat.not_lt_zero index⟩
  · have positive := Nat.pos_of_ne_zero empty
    rw [if_neg empty] at moved
    cases stored : mapping.map .store dst n with
    | error error =>
        rw [stored] at moved
        cases moved
    | ok targetAddr =>
        cases loaded : mapping.map .load src n with
        | error error =>
            rw [stored, loaded] at moved
            cases moved
        | ok sourceAddr =>
            rw [stored, loaded] at moved
            cases moved
            obtain ⟨dstFits, writable, targets⟩ := mapped_range lookup maps positive stored
            obtain ⟨srcFits, readable, sources⟩ := mapped_range lookup maps positive loaded
            refine ⟨⟨⟨srcFits, dstFits⟩, fun index bound => ⟨readable index bound, writable index bound⟩⟩, rfl, rfl, ?_⟩
            have fresh : CopiedOn (fun _ => False) (fun index => hostByte mapping (src + index))
                (fun index => hostByte mapping (dst + index)) state.memory state.memory := .nothing fun _ => id
            refine (fresh.extend targets sources (fun _ _ _ => False.elim) fun _ _ _ => False.elim).congr ?_
            intro index
            simp only [false_or, Nat.zero_le, true_and, Nat.zero_add]

/-- Over regions that share no host memory, the non-contiguous copy ends; it
succeeds exactly when both ranges end below the limit and every byte is
accessible; then it moves the source as it was before and nothing else. Where
the contiguous copy succeeds, it does the same. -/
theorem memmove_non_contiguous_moves (lookup : mapping.LooksUp regions) (maps : mapping.MapsWithin regions)
    (ungapped : ∀ region ∈ regions, region.gapSize = 0) (apart : HostsApart regions) (dst src n : UInt64)
    {rounds : Nat} (enough : n.toNat < rounds) (state : SyscallState Log) :
    let result := memmoveNonContiguous mapping dst.toNat src.toNat n.toNat rounds state
    ((∃ after, result = .ok (some 0) after) ∨ ∃ error after, result = .error error after) ∧
    ((∃ after, result = .ok (some 0) after) ↔
      (src.toNat + n.toNat ≤ u64Max ∧ dst.toNat + n.toNat ≤ u64Max) ∧
        ∀ index < n.toNat, Accessible regions .load (src.toNat + index) ∧
          Accessible regions .store (dst.toNat + index)) ∧
    (∀ after, result = .ok (some 0) after → after.context = state.context ∧
      (∀ index < n.toNat, after.memory (hostByte mapping (dst.toNat + index)) =
        state.memory (hostByte mapping (src.toNat + index))) ∧
      ∀ address, (∀ index < n.toNat, address ≠ hostByte mapping (dst.toNat + index)) →
        after.memory address = state.memory address) ∧
    ∀ value after, memmove mapping dst.toNat src.toNat n.toNat state = .ok value after →
      result = .ok (some value) after := by
  intro result
  have srcWord : src.toNat ≤ u64Max := Nat.le_pred_of_lt src.toNat_lt
  have dstWord : dst.toNat ≤ u64Max := Nat.le_pred_of_lt dst.toNat_lt
  have word : n.toNat ≤ u64Max := Nat.le_pred_of_lt n.toNat_lt
  rcases memmoveNonContiguous_outcome lookup ungapped apart src.toNat dst.toNat n.toNat enough state with
    ⟨memory, ran, movable, moved⟩ | ⟨immovable, error, after, ran⟩
  · have succeeded : result = .ok (some 0) { state with memory } := ran
    rw [succeeded]
    refine ⟨.inl ⟨_, rfl⟩, ⟨fun _ => movable, fun _ => ⟨_, rfl⟩⟩, ?_, ?_⟩
    · intro after same
      cases same
      exact ⟨rfl, moved.written, moved.frame⟩
    · intro value after contiguous
      obtain ⟨_, shape, rfl, movedAlike⟩ := memmove_movedBytes lookup maps srcWord dstWord word contiguous
      rw [shape, moved.unique movedAlike]
  · have failed : result = .error error after := ran
    rw [failed]
    refine ⟨.inr ⟨error, after, rfl⟩, ⟨?_, fun movable => absurd movable immovable⟩, ?_, ?_⟩
    · intro ok
      obtain ⟨_, same⟩ := ok
      cases same
    · intro _ same
      cases same
    · intro value other contiguous
      exact absurd (memmove_movedBytes lookup maps srcWord dstWord word contiguous).1 immovable

/-- Overlapping ranges over two adjacent regions, moved up by one byte. -/
theorem memmove_non_contiguous_moves_adjacent :
    let regions := [MemoryRegion.newWritable 0 4 8, MemoryRegion.newWritable 16 4 12]
    let mapping := MemoryMapping.ofRegions regions
    let state : SyscallState Unit := { context := InvokeContext.new, memory := fun address => UInt8.ofNat address }
    ∃ after, memmoveNonContiguous mapping 9 8 6 7 state = .ok (some 0) after ∧
      after.memory (hostByte mapping 12) = state.memory (hostByte mapping 11) := by
  intro regions mapping state
  have ungapped : ∀ region ∈ regions, region.gapSize = 0 := by
    simp [regions, MemoryRegion.newWritable]
  have representable : ∀ region ∈ regions, region.vmAddr + region.len ≤ u64Max := by
    simp [regions, MemoryRegion.newWritable, u64Max]
  have disjoint : VirtuallyDisjoint regions := by
    simp [VirtuallyDisjoint, regions, MemoryRegion.newWritable, MemoryRegion.vmAddrEnd, u64Max]
  have apart : HostsApart regions := by
    simp [HostsApart, regions, MemoryRegion.newWritable, MemoryRegion.HostApart]
  have accessible : ∀ access : AccessType, ∀ address, 8 ≤ address → address < 16 → Accessible regions access address := by
    intro access address above below
    by_cases first : address < 12
    · refine ⟨MemoryRegion.newWritable 0 4 8, .head _, by cases access <;> rfl, above, ?_⟩
      exact first
    · refine ⟨MemoryRegion.newWritable 16 4 12, .tail _ (.head _), by cases access <;> rfl, Nat.le_of_not_lt first, ?_⟩
      exact below
  obtain ⟨_, succeeds, moves, _⟩ := memmove_non_contiguous_moves
    (MemoryMapping.ofRegions_looksUp disjoint ungapped representable)
    (MemoryMapping.ofRegions_mapsWithin ungapped representable) ungapped apart 9 8 6 (show 6 < 7 by decide) state
  obtain ⟨after, ran⟩ := succeeds.mpr ⟨⟨by decide, by decide⟩, fun index bound => by
    have six : index < 6 := bound
    exact ⟨accessible .load (8 + index) (by omega) (by omega), accessible .store (9 + index) (by omega) (by omega)⟩⟩
  exact ⟨after, ran, (moves after ran).2.1 3 (by decide)⟩

end Memmove

end BpfSimulator.Syscalls
