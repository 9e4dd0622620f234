import BpfSimulator.Foundation.Tiling
import BpfSimulator.InstructionExecutor.Syscalls.MemoryChunks

/-! The chunk iterator under any order of calls from the front and from the
back. The chunks from the two ends tile the range from both sides, up to the
first byte that no region makes accessible. -/

set_option autoImplicit false

namespace BpfSimulator.Syscalls

open Foundation

/-- The chunk lies in its region, which is mapped and permits the access. -/
structure MemoryChunk.Inside (chunk : MemoryChunk) (regions : List MemoryRegion) (access : AccessType) : Prop where
  member : chunk.region ∈ regions
  permitted : chunk.region.permits access = true
  below : chunk.region.vmAddr ≤ chunk.vmAddr
  above : chunk.vmAddr + chunk.len ≤ chunk.region.vmAddrEnd

/-- No region that permits the access holds the address. -/
def Inaccessible (regions : List MemoryRegion) (access : AccessType) (vmAddr : Nat) : Prop :=
  ∀ region ∈ regions, region.permits access = true → ¬ region.Holds vmAddr

inductive Side where
  | front
  | back

abbrev ChunkItem := Option (Except ErrorObj MemoryChunk)

namespace MemoryChunkIterator

def draw (iter : MemoryChunkIterator) : Side → ChunkItem × MemoryChunkIterator
  | .front => iter.next
  | .back => iter.nextBack

/-- The byte that a call from the given side has to look up. -/
def nextByte (iter : MemoryChunkIterator) : Side → Nat
  | .front => iter.vmAddrStart
  | .back => iter.vmAddrEnd - 1

def drawAll : List Side → MemoryChunkIterator → List (Side × ChunkItem)
  | [], _ => []
  | side :: rest, iter => (side, (iter.draw side).1) :: drawAll rest (iter.draw side).2

variable {regions : List MemoryRegion} {iter : MemoryChunkIterator}

theorem region_ok_iff (lookup : iter.memoryMapping.LooksUp regions) {vmAddr : Nat} {region : MemoryRegion} :
    iter.region vmAddr = .ok region ↔
      region ∈ regions ∧ region.permits iter.accessType = true ∧ region.Holds vmAddr := by
  rw [← lookup iter.accessType vmAddr region]
  unfold MemoryChunkIterator.region
  split <;> simp_all

/-- What a call does: nothing at the end, or it takes a nonempty chunk off its
side, or it fails because the next byte is inaccessible, and ends the iteration. -/
inductive Drawn (regions : List MemoryRegion) (iter : MemoryChunkIterator) :
    Side → ChunkItem → MemoryChunkIterator → Prop where
  | exhausted {side : Side} (ended : iter.vmAddrStart = iter.vmAddrEnd) : Drawn regions iter side none iter
  | front {chunk : MemoryChunk} {after : MemoryChunkIterator} (inside : chunk.Inside regions iter.accessType)
      (positive : 0 < chunk.len) (starts : chunk.vmAddr = iter.vmAddrStart)
      (within : chunk.vmAddr + chunk.len ≤ iter.vmAddrEnd)
      (moved : after = { iter with vmAddrStart := chunk.vmAddr + chunk.len }) :
      Drawn regions iter .front (some (.ok chunk)) after
  | back {chunk : MemoryChunk} {after : MemoryChunkIterator} (inside : chunk.Inside regions iter.accessType)
      (positive : 0 < chunk.len) (stops : chunk.vmAddr + chunk.len = iter.vmAddrEnd)
      (within : iter.vmAddrStart ≤ chunk.vmAddr) (moved : after = { iter with vmAddrEnd := chunk.vmAddr }) :
      Drawn regions iter .back (some (.ok chunk)) after
  | failed {side : Side} {error : ErrorObj} (remains : iter.vmAddrStart < iter.vmAddrEnd)
      (inaccessible : Inaccessible regions iter.accessType (iter.nextByte side)) :
      Drawn regions iter side (some (.error error)) { iter with vmAddrStart := iter.vmAddrEnd }

theorem inaccessible_of_region (lookup : iter.memoryMapping.LooksUp regions) {vmAddr : Nat} {error : ErrorObj}
    (failed : iter.region vmAddr = .error error) : Inaccessible regions iter.accessType vmAddr := by
  intro region member permitted holds
  rw [(region_ok_iff lookup).mpr ⟨member, permitted, holds⟩] at failed
  cases failed

theorem drawn_next (lookup : iter.memoryMapping.LooksUp regions) (ordered : iter.vmAddrStart ≤ iter.vmAddrEnd) :
    Drawn regions iter .front iter.next.1 iter.next.2 := by
  unfold next
  by_cases ended : iter.vmAddrStart = iter.vmAddrEnd
  · rw [if_pos ended]
    exact .exhausted ended
  · rw [if_neg ended]
    cases found : iter.region iter.vmAddrStart with
    | error error => exact .failed (by omega) (inaccessible_of_region lookup found)
    | ok region =>
        obtain ⟨member, permitted, below, above⟩ := (region_ok_iff lookup).mp found
        by_cases whole : region.vmAddrEnd ≤ iter.vmAddrEnd
        · have stop : iter.vmAddrStart + (region.vmAddrEnd - iter.vmAddrStart) = region.vmAddrEnd := by omega
          simp only [if_pos whole]
          exact .front ⟨member, permitted, below, Nat.le_of_eq stop⟩ (Nat.sub_pos_of_lt above) rfl
            (Nat.le_trans (Nat.le_of_eq stop) whole) (by rw [stop])
        · have stop : iter.vmAddrStart + (iter.vmAddrEnd - iter.vmAddrStart) = iter.vmAddrEnd := by omega
          simp only [if_neg whole]
          exact .front ⟨member, permitted, below, by simp only [stop]; omega⟩ (by simp only; omega) rfl
            (Nat.le_of_eq stop) (by rw [stop])

theorem drawn_nextBack (lookup : iter.memoryMapping.LooksUp regions) (ordered : iter.vmAddrStart ≤ iter.vmAddrEnd) :
    Drawn regions iter .back iter.nextBack.1 iter.nextBack.2 := by
  unfold nextBack
  by_cases ended : iter.vmAddrStart = iter.vmAddrEnd
  · rw [if_pos ended]
    exact .exhausted ended
  · rw [if_neg ended]
    cases found : iter.region (iter.vmAddrEnd - 1) with
    | error error => exact .failed (by omega) (inaccessible_of_region lookup found)
    | ok region =>
        obtain ⟨member, permitted, below, above⟩ := (region_ok_iff lookup).mp found
        by_cases whole : region.vmAddr ≥ iter.vmAddrStart
        · have stop : region.vmAddr + (iter.vmAddrEnd - region.vmAddr) = iter.vmAddrEnd := by omega
          simp only [if_pos whole]
          exact .back ⟨member, permitted, Nat.le_refl _, by simp only [stop]; omega⟩ (by simp only; omega) stop whole rfl
        · have stop : iter.vmAddrStart + (iter.vmAddrEnd - iter.vmAddrStart) = iter.vmAddrEnd := by omega
          simp only [if_neg whole]
          exact .back ⟨member, permitted, by simp only; omega, by simp only [stop]; omega⟩ (by simp only; omega) stop
            (Nat.le_refl _) rfl

theorem drawn (lookup : iter.memoryMapping.LooksUp regions) (ordered : iter.vmAddrStart ≤ iter.vmAddrEnd)
    (side : Side) : Drawn regions iter side (iter.draw side).1 (iter.draw side).2 := by
  cases side with
  | front => exact drawn_next lookup ordered
  | back => exact drawn_nextBack lookup ordered

theorem drawAll_exhausted (sides : List Side) (ended : iter.vmAddrStart = iter.vmAddrEnd) :
    ∀ item ∈ drawAll sides iter, item.2 = none := by
  induction sides with
  | nil => exact fun item absent => absurd absent List.not_mem_nil
  | cons side rest ih =>
      have empty : iter.draw side = (none, iter) := by
        cases side with
        | front => exact if_pos ended
        | back => exact if_pos ended
      rw [drawAll, empty]
      intro item member
      cases member with
      | head => rfl
      | tail _ member => exact ih item member

def frontChunk? : Side × ChunkItem → Option MemoryChunk
  | (.front, some (.ok chunk)) => some chunk
  | _ => none

def backChunk? : Side × ChunkItem → Option MemoryChunk
  | (.back, some (.ok chunk)) => some chunk
  | _ => none

def frontChunks (items : List (Side × ChunkItem)) : List MemoryChunk := items.filterMap frontChunk?

/-- The chunks yielded by the calls from the back, the last one first. -/
def backChunks (items : List (Side × ChunkItem)) : List MemoryChunk := (items.filterMap backChunk?).reverse

def chunksLength (chunks : List MemoryChunk) : Nat := (chunks.map MemoryChunk.len).sum

/-- The byte that the next call from a side looks up, once some chunks of the range are taken. -/
def remainingByte (low high : Nat) (items : List (Side × ChunkItem)) : Side → Nat
  | .front => low + chunksLength (frontChunks items)
  | .back => high - chunksLength (backChunks items) - 1

abbrev ChunkTiles := Tiles MemoryChunk.vmAddr MemoryChunk.len

/-- The calls cut the range from both sides. -/
structure Partition (regions : List MemoryRegion) (access : AccessType) (low high : Nat)
    (items : List (Side × ChunkItem)) : Prop where
  inside : ∀ chunk ∈ frontChunks items ++ backChunks items, 0 < chunk.len ∧ chunk.Inside regions access
  tiles : ∃ frontEnd backStart, frontEnd ≤ backStart ∧ ChunkTiles low (frontChunks items) frontEnd ∧
    ChunkTiles backStart (backChunks items) high
  covers : (∀ side error, (side, some (.error error)) ∉ items) → (∃ side, (side, none) ∈ items) →
    ChunkTiles low (frontChunks items ++ backChunks items) high
  failure : ∀ before side error after, items = before ++ (side, some (.error error)) :: after →
    Inaccessible regions access (remainingByte low high before side) ∧ ∀ item ∈ after, item.2 = none
  ended : ∀ before side after, items = before ++ (side, none) :: after → ∀ item ∈ after, item.2 = none
  finite : high - low < items.length → ∃ side, (side, none) ∈ items

theorem partition_nil (regions : List MemoryRegion) (access : AccessType) {low high : Nat} (ordered : low ≤ high) :
    Partition regions access low high [] where
  inside := fun _ absent => absurd absent List.not_mem_nil
  tiles := ⟨low, high, ordered, .nil, .nil⟩
  covers := fun _ ⟨_, absent⟩ => absurd absent List.not_mem_nil
  failure := fun before side error after split => by simp at split
  ended := fun before side after split => by simp at split
  finite := fun short => absurd short (Nat.not_lt_zero _)

theorem split_after_head {head found : Side × ChunkItem} {rest before after : List (Side × ChunkItem)}
    (different : head ≠ found) (split : head :: rest = before ++ found :: after) :
    ∃ later, before = head :: later ∧ rest = later ++ found :: after := by
  cases before with
  | nil =>
      cases split
      exact absurd rfl different
  | cons first later =>
      cases split
      exact ⟨later, rfl, rfl⟩

section Steps

variable {access : AccessType} {low high : Nat} {rest : List (Side × ChunkItem)}

theorem chunks_of_none (empty : ∀ item ∈ rest, item.2 = none) : frontChunks rest = [] ∧ backChunks rest = [] := by
  induction rest with
  | nil => exact ⟨rfl, rfl⟩
  | cons head rest ih =>
      obtain ⟨side, item⟩ := head
      obtain rfl : item = none := empty _ (.head _)
      obtain ⟨fronts, backs⟩ := ih fun item member => empty item (.tail _ member)
      cases side with
      | front => exact ⟨fronts, backs⟩
      | back => exact ⟨fronts, backs⟩

theorem partition_exhausted (empty : ∀ item ∈ rest, item.2 = none) : Partition regions access low low rest := by
  obtain ⟨fronts, backs⟩ := chunks_of_none empty
  constructor
  · rw [fronts, backs]
    exact fun _ absent => absurd absent List.not_mem_nil
  · rw [fronts, backs]
    exact ⟨low, low, Nat.le_refl low, .nil, .nil⟩
  · intro _ _
    rw [fronts, backs]
    exact .nil
  · rintro before side error after rfl
    have none := empty (side, some (.error error)) (by simp)
    cases none
  · rintro before side after rfl item member
    exact empty item (by simp [member])
  · intro long
    obtain ⟨⟨side, item⟩, member⟩ := List.exists_mem_of_length_pos (Nat.lt_of_le_of_lt (Nat.zero_le _) long)
    obtain rfl : item = none := empty _ member
    exact ⟨side, member⟩

theorem partition_failed {side : Side} {error : ErrorObj} (remains : low < high)
    (inaccessible : Inaccessible regions access (remainingByte low high [] side))
    (empty : ∀ item ∈ rest, item.2 = none) :
    Partition regions access low high ((side, some (.error error)) :: rest) := by
  obtain ⟨fronts, backs⟩ := chunks_of_none empty
  have noFront : frontChunks ((side, some (.error error)) :: rest) = [] := by
    cases side <;> exact fronts
  have noBack : backChunks ((side, some (.error error)) :: rest) = [] := by
    cases side <;> exact backs
  constructor
  · rw [noFront, noBack]
    exact fun _ absent => absurd absent List.not_mem_nil
  · rw [noFront, noBack]
    exact ⟨low, high, Nat.le_of_lt remains, .nil, .nil⟩
  · intro clean
    exact absurd (.head _) (clean side error)
  · intro before other otherError after split
    cases before with
    | nil =>
        cases split
        exact ⟨inaccessible, empty⟩
    | cons first later =>
        cases split
        have none := empty (other, some (.error otherError)) (by simp)
        cases none
  · intro before other after split
    obtain ⟨later, _, rfl⟩ := split_after_head (fun same => by cases same) split
    exact fun item member => empty item (by simp [member])
  · intro long
    rw [List.length_cons] at long
    obtain ⟨⟨last, item⟩, member⟩ := List.exists_mem_of_length_pos (show 0 < rest.length by omega)
    obtain rfl : item = none := empty _ member
    exact ⟨last, .tail _ member⟩

theorem mem_chunks_cons {side : Side} {chunk other : MemoryChunk}
    (member : other ∈ frontChunks ((side, some (.ok chunk)) :: rest) ++ backChunks ((side, some (.ok chunk)) :: rest)) :
    other = chunk ∨ other ∈ frontChunks rest ++ backChunks rest := by
  cases side with
  | front =>
      have listed : other ∈ chunk :: (frontChunks rest ++ backChunks rest) := member
      exact List.mem_cons.mp listed
  | back =>
      have backs : backChunks ((.back, some (.ok chunk)) :: rest) = backChunks rest ++ [chunk] := List.reverse_cons
      rw [backs, ← List.append_assoc, List.mem_append, List.mem_singleton] at member
      exact member.symm

/-- A chunk that leaves a smaller range partitions the range if the rest
partitions what is left. -/
theorem Partition.cons {left right : Nat} {side : Side} {chunk : MemoryChunk}
    (tail : Partition regions access left right rest) (inside : chunk.Inside regions access) (positive : 0 < chunk.len)
    (shorter : right - left < high - low)
    (moved : ∀ items other, remainingByte low high ((side, some (.ok chunk)) :: items) other =
      remainingByte left right items other)
    (tiles : ∃ frontEnd backStart, frontEnd ≤ backStart ∧
      ChunkTiles low (frontChunks ((side, some (.ok chunk)) :: rest)) frontEnd ∧
      ChunkTiles backStart (backChunks ((side, some (.ok chunk)) :: rest)) high)
    (covers : ChunkTiles left (frontChunks rest ++ backChunks rest) right →
      ChunkTiles low (frontChunks ((side, some (.ok chunk)) :: rest) ++
        backChunks ((side, some (.ok chunk)) :: rest)) high) :
    Partition regions access low high ((side, some (.ok chunk)) :: rest) where
  inside := by
    intro other member
    rcases mem_chunks_cons member with rfl | member
    · exact ⟨positive, inside⟩
    · exact tail.inside other member
  tiles := tiles
  covers := by
    intro clean ended
    obtain ⟨last, member⟩ := ended
    cases member with
    | tail _ member =>
        exact covers (tail.covers (fun other error member => clean other error (.tail _ member)) ⟨last, member⟩)
  failure := by
    intro before other error after split
    obtain ⟨later, rfl, rfl⟩ := split_after_head (fun same => by cases same) split
    rw [moved]
    exact tail.failure later other error after rfl
  ended := by
    intro before other after split
    obtain ⟨later, rfl, rfl⟩ := split_after_head (fun same => by cases same) split
    exact tail.ended later other after rfl
  finite := by
    intro long
    rw [List.length_cons] at long
    obtain ⟨last, member⟩ := tail.finite (by omega)
    exact ⟨last, .tail _ member⟩

theorem Partition.cons_front {chunk : MemoryChunk}
    (tail : Partition regions access (chunk.vmAddr + chunk.len) high rest) (inside : chunk.Inside regions access)
    (positive : 0 < chunk.len) (starts : chunk.vmAddr = low) (within : chunk.vmAddr + chunk.len ≤ high) :
    Partition regions access low high ((.front, some (.ok chunk)) :: rest) := by
  refine tail.cons inside positive (by omega) ?_ ?_ fun covered => .cons starts positive (starts ▸ covered)
  · intro items other
    cases other with
    | front =>
        have fronts : frontChunks ((.front, some (.ok chunk)) :: items) = chunk :: frontChunks items := rfl
        simp only [remainingByte, fronts, chunksLength, List.map_cons, List.sum_cons, starts]
        omega
    | back => rfl
  · obtain ⟨frontEnd, backStart, ordered, front, back⟩ := tail.tiles
    exact ⟨frontEnd, backStart, ordered, .cons starts positive (starts ▸ front), back⟩

theorem Partition.cons_back {chunk : MemoryChunk} (tail : Partition regions access low chunk.vmAddr rest)
    (inside : chunk.Inside regions access) (positive : 0 < chunk.len) (stops : chunk.vmAddr + chunk.len = high)
    (within : low ≤ chunk.vmAddr) :
    Partition regions access low high ((.back, some (.ok chunk)) :: rest) := by
  have fronts : frontChunks ((.back, some (.ok chunk)) :: rest) = frontChunks rest := rfl
  have backs : ∀ items, backChunks ((.back, some (.ok chunk)) :: items) = backChunks items ++ [chunk] :=
    fun _ => List.reverse_cons
  refine tail.cons inside positive (by omega) ?_ ?_ ?_
  · intro items other
    cases other with
    | front => rfl
    | back =>
        simp only [remainingByte, backs, chunksLength, List.map_append, List.sum_append, List.map_cons, List.map_nil,
          List.sum_cons, List.sum_nil]
        omega
  · obtain ⟨frontEnd, backStart, ordered, front, back⟩ := tail.tiles
    rw [fronts, backs]
    exact ⟨frontEnd, backStart, ordered, front, back.snoc positive stops⟩
  · intro covered
    rw [fronts, backs, ← List.append_assoc]
    exact covered.snoc positive stops

end Steps

theorem partition_drawAll (lookup : iter.memoryMapping.LooksUp regions) (ordered : iter.vmAddrStart ≤ iter.vmAddrEnd)
    (sides : List Side) :
    Partition regions iter.accessType iter.vmAddrStart iter.vmAddrEnd (drawAll sides iter) := by
  induction sides generalizing iter with
  | nil => exact partition_nil regions iter.accessType ordered
  | cons side rest ih =>
      have step := drawn lookup ordered side
      rw [drawAll]
      generalize iter.draw side = outcome at step ⊢
      obtain ⟨item, after⟩ := outcome
      simp only at step ⊢
      cases step with
      | exhausted ended =>
          rw [← ended]
          refine partition_exhausted fun item member => ?_
          cases member with
          | head => rfl
          | tail _ member => exact drawAll_exhausted rest ended item member
      | @front chunk _ inside positive starts within moved =>
          subst moved
          have tail := @ih { iter with vmAddrStart := chunk.vmAddr + chunk.len } lookup within
          exact tail.cons_front inside positive starts within
      | @back chunk _ inside positive stops within moved =>
          subst moved
          have tail := @ih { iter with vmAddrEnd := chunk.vmAddr } lookup within
          exact tail.cons_back inside positive stops within
      | failed remains inaccessible =>
          refine partition_failed remains ?_ (drawAll_exhausted rest rfl)
          cases side <;> exact inaccessible

/-- A range whose end does not overflow can be iterated over, and any order of
calls from the two sides partitions it: an iteration that ends without an error
covers every address exactly once. -/
theorem iteration_partitions {memoryMapping : MemoryMapping} (lookup : memoryMapping.LooksUp regions)
    (access : AccessType) {vmAddr len : Nat} (fits : vmAddr + len ≤ u64Max) :
    ∃ iter, new memoryMapping access vmAddr len = .ok iter ∧ ∀ sides,
      let items := drawAll sides iter
      Partition regions access vmAddr (vmAddr + len) items ∧
        ((∀ side error, (side, some (.error error)) ∉ items) → (∃ side, (side, none) ∈ items) →
          ∀ address, vmAddr ≤ address → address < vmAddr + len →
            ∃! index : Nat, ∃ chunk, (frontChunks items ++ backChunks items)[index]? = some chunk ∧
              chunk.vmAddr ≤ address ∧ address < chunk.vmAddr + chunk.len) := by
  let iter : MemoryChunkIterator := {
    memoryMapping
    accessType := access
    initialVmAddr := vmAddr
    vmAddrStart := vmAddr
    vmAddrEnd := vmAddr + len
    len }
  refine ⟨iter, if_pos fits, fun sides => ?_⟩
  have partition := @partition_drawAll regions iter lookup (Nat.le_add_right vmAddr len) sides
  exact ⟨partition, fun clean ended address above below => (partition.covers clean ended).existsUnique above below⟩

/-- A range that spans two adjacent regions, asked for from both sides. -/
theorem iteration_partitions_adjacent :
    let regions := [MemoryRegion.newReadonly 0 4 8, MemoryRegion.newWritable 16 4 12]
    ∃ iter, new (MemoryMapping.ofRegions regions) .load 10 5 = .ok iter ∧
      let items := drawAll [.back, .front, .front] iter
      ChunkTiles 10 (frontChunks items ++ backChunks items) 15 := by
  intro regions
  have ungapped : ∀ region ∈ regions, region.gapSize = 0 := by
    simp [regions, MemoryRegion.newReadonly, MemoryRegion.newWritable]
  have representable : ∀ region ∈ regions, region.vmAddr + region.len ≤ u64Max := by
    simp [regions, MemoryRegion.newReadonly, MemoryRegion.newWritable, u64Max]
  have disjoint : VirtuallyDisjoint regions := by
    simp [VirtuallyDisjoint, regions, MemoryRegion.newReadonly, MemoryRegion.newWritable, MemoryRegion.vmAddrEnd,
      u64Max]
  obtain ⟨iter, created, partitions⟩ := iteration_partitions
    (MemoryMapping.ofRegions_looksUp disjoint ungapped representable) .load (show 10 + 5 ≤ u64Max by decide)
  refine ⟨iter, created, (partitions [.back, .front, .front]).1.covers ?_ ⟨.front, ?_⟩⟩
  · cases created
    intro side error member
    have listed : (side, some (.error error)) ∈ [
        (Side.back, some (.ok ⟨MemoryRegion.newWritable 16 4 12, 12, 3⟩)),
        (.front, some (.ok ⟨MemoryRegion.newReadonly 0 4 8, 10, 2⟩)), (.front, (none : ChunkItem))] := member
    simp at listed
  · cases created
    exact .tail _ (.tail _ (.head _))

end MemoryChunkIterator

end BpfSimulator.Syscalls
