import BpfSimulator.InstructionExecutor.Syscalls.MemOps

/-! Copies over ranges that may span several regions: the iterator that cuts a
range into chunks of single regions, from both ends, and the loop over the
chunks of two ranges. -/

set_option autoImplicit false

namespace BpfSimulator.Syscalls

open Foundation

/-- A part of a region: the item of a `MemoryChunkIterator`. -/
structure MemoryChunk where
  region : MemoryRegion
  vmAddr : Nat
  len : Nat

structure MemoryChunkIterator where
  memoryMapping : MemoryMapping
  accessType : AccessType
  initialVmAddr : Nat
  vmAddrStart : Nat
  /-- one past the last address -/
  vmAddrEnd : Nat
  len : Nat

namespace MemoryChunkIterator

def new (memoryMapping : MemoryMapping) (accessType : AccessType) (vmAddr len : Nat) :
    Except EbpfError MemoryChunkIterator :=
  if vmAddr + len ≤ u64Max then
    .ok {
      memoryMapping
      accessType
      initialVmAddr := vmAddr
      vmAddrStart := vmAddr
      vmAddrEnd := vmAddr + len
      len }
  else .error (.accessViolation accessType vmAddr len "unknown")

/-- A failed lookup is reported for the whole range. -/
def region (iter : MemoryChunkIterator) (vmAddr : Nat) : Except ErrorObj MemoryRegion :=
  match iter.memoryMapping.region iter.accessType vmAddr with
  | .ok region => .ok region
  | .error (.accessViolation access _ _ name) =>
      .error (.ebpf (.accessViolation access iter.initialVmAddr iter.len name))
  | .error (.stackAccessViolation access _ _ frame) =>
      .error (.ebpf (.stackAccessViolation access iter.initialVmAddr iter.len frame))
  | .error error => .error (.ebpf error)

/-- The next chunk from the front. An error ends the iteration. -/
def next (iter : MemoryChunkIterator) : Option (Except ErrorObj MemoryChunk) × MemoryChunkIterator :=
  if iter.vmAddrStart = iter.vmAddrEnd then (none, iter)
  else
    match iter.region iter.vmAddrStart with
    | .error error => (some (.error error), { iter with vmAddrStart := iter.vmAddrEnd })
    | .ok region =>
        let vmAddr := iter.vmAddrStart
        if region.vmAddrEnd ≤ iter.vmAddrEnd then
          let len := region.vmAddrEnd - iter.vmAddrStart
          (some (.ok { region, vmAddr, len }), { iter with vmAddrStart := region.vmAddrEnd })
        else
          let len := iter.vmAddrEnd - iter.vmAddrStart
          (some (.ok { region, vmAddr, len }), { iter with vmAddrStart := iter.vmAddrEnd })

/-- The next chunk from the back. -/
def nextBack (iter : MemoryChunkIterator) : Option (Except ErrorObj MemoryChunk) × MemoryChunkIterator :=
  if iter.vmAddrStart = iter.vmAddrEnd then (none, iter)
  else
    match iter.region (iter.vmAddrEnd - 1) with
    | .error error => (some (.error error), { iter with vmAddrStart := iter.vmAddrEnd })
    | .ok region =>
        if region.vmAddr ≥ iter.vmAddrStart then
          let len := iter.vmAddrEnd - region.vmAddr
          (some (.ok { region, vmAddr := region.vmAddr, len }), { iter with vmAddrEnd := region.vmAddr })
        else
          let len := iter.vmAddrEnd - iter.vmAddrStart
          (some (.ok { region, vmAddr := iter.vmAddrStart, len }), { iter with vmAddrEnd := iter.vmAddrStart })

end MemoryChunkIterator

def saturatingAdd (left right : Nat) : Nat := min (left + right) u64Max

/-- `wrapping_sub` of two words. -/
def wrappingSub (left right : Nat) : Nat := (left + wordRange - right) % wordRange

/-- `EbpfError::InvalidVirtualAddress`. -/
def invalidVirtualAddress : EbpfError := .other 10

def vmToHost (region : MemoryRegion) (vmAddr len : Nat) : Except ErrorObj Nat :=
  match region.vmToHost? vmAddr len with
  | some hostAddr => .ok hostAddr
  | none => .error (.ebpf invalidVirtualAddress)

/-- An iterator and what is left of the chunk taken from it last. -/
structure ChunkCursor where
  iter : MemoryChunkIterator
  chunk : Option MemoryChunk

/-- The current chunk, or else the next one; `none` ends the loop. -/
def memoryChunk (reverse : Bool) (cursor : ChunkCursor) :
    Except ErrorObj (Option (MemoryChunk × MemoryChunkIterator)) :=
  match cursor.chunk with
  | some chunk => .ok (some (chunk, cursor.iter))
  | none =>
      match if reverse then cursor.iter.nextBack else cursor.iter.next with
      | (some (.ok chunk), iter) => .ok (some (chunk, iter))
      | (some (.error error), _) => .error error
      | (none, _) => .ok none

/-- Where the next `chunkLen` bytes of a chunk are. Backwards, a chunk is
processed from its end. -/
def pieceAddr (reverse : Bool) (chunk : MemoryChunk) (chunkLen : Nat) : Nat :=
  if reverse then saturatingAdd chunk.vmAddr chunk.len - chunkLen else chunk.vmAddr

def advance (reverse : Bool) (chunk : MemoryChunk) (iter : MemoryChunkIterator) (chunkLen : Nat) : ChunkCursor :=
  let len := chunk.len - chunkLen
  let vmAddr := if reverse then chunk.vmAddr else saturatingAdd chunk.vmAddr chunkLen
  { iter, chunk := if len = 0 then none else some { chunk with vmAddr, len } }

variable {Log : Type}

/-- One round of the loop over pairs of chunks; `none` is its end. -/
def pairStep (reverse : Bool) (work : Nat → Nat → Nat → SyscallM Log Nat) (src dst : ChunkCursor) :
    SyscallM Log (Option (ChunkCursor × ChunkCursor)) := do
  match ← inspecting (memoryChunk reverse src) with
  | none => pure none
  | some (srcChunk, srcIter) =>
      match ← inspecting (memoryChunk reverse dst) with
      | none => pure none
      | some (dstChunk, dstIter) =>
          let chunkLen := min srcChunk.len dstChunk.len
          let srcHostAddr ← inspecting (vmToHost srcChunk.region (pieceAddr reverse srcChunk chunkLen) chunkLen)
          let dstHostAddr ← inspecting (vmToHost dstChunk.region (pieceAddr reverse dstChunk chunkLen) chunkLen)
          let _ ← work srcHostAddr dstHostAddr chunkLen
          pure (some (advance reverse srcChunk srcIter chunkLen, advance reverse dstChunk dstIter chunkLen))

/-- The loop, for a bounded number of rounds; `none` when they do not suffice. -/
def pairLoop (reverse : Bool) (work : Nat → Nat → Nat → SyscallM Log Nat) :
    Nat → ChunkCursor → ChunkCursor → SyscallM Log (Option Nat)
  | 0, _, _ => pure none
  | rounds + 1, src, dst => do
      match ← pairStep reverse work src dst with
      | none => pure (some 0)
      | some (src, dst) => pairLoop reverse work rounds src dst

def iterMemoryPairChunks (srcAccess : AccessType) (srcAddr : Nat) (dstAccess : AccessType) (dstAddr nBytes : Nat)
    (mapping : MemoryMapping) (reverse : Bool) (work : Nat → Nat → Nat → SyscallM Log Nat) (rounds : Nat) :
    SyscallM Log (Option Nat) := do
  let srcIter ← inspecting ((MemoryChunkIterator.new mapping srcAccess srcAddr nBytes).mapError .ebpf)
  let dstIter ← inspecting ((MemoryChunkIterator.new mapping dstAccess dstAddr nBytes).mapError .ebpf)
  pairLoop reverse work rounds ⟨srcIter, none⟩ ⟨dstIter, none⟩

/-- A copy that runs backwards when the destination starts inside the source. -/
def memmoveNonContiguous (mapping : MemoryMapping) (dstAddr srcAddr n rounds : Nat) : SyscallM Log (Option Nat) :=
  let reverse := decide (wrappingSub dstAddr srcAddr < n)
  iterMemoryPairChunks .load srcAddr .store dstAddr n mapping reverse
    (fun srcHostAddr dstHostAddr chunkLen => do
      modify fun state =>
        { state with memory := state.memory.write dstHostAddr (state.memory.read srcHostAddr chunkLen) }
      pure 0) rounds

end BpfSimulator.Syscalls
