import Mathlib.Data.List.Pairwise
import BpfSimulator.Sdk
import BpfSimulator.Foundation.Splice

/-! What the simulator relies on of `solana_rbpf`: aligned buffers, memory
regions and mappings, and the virtual machine configuration. Buffers follow
their documented behaviour. A mapping is only a pair of lookup functions; what
a result assumes of them is a hypothesis of that result. -/

set_option autoImplicit false

namespace BpfSimulator

/-- A buffer of fixed capacity at a fixed host address. `uncheckedAppends`
records where every unchecked append started and ended: such an append does
not look at the capacity. -/
structure AlignedMemory where
  hostAddr : Nat
  maxLen : Nat
  bytes : List UInt8
  uncheckedAppends : List (Nat × Nat)
  deriving DecidableEq

namespace AlignedMemory

def withCapacity (hostAddr maxLen : Nat) : AlignedMemory :=
  { hostAddr, maxLen, bytes := [], uncheckedAppends := [] }

def zeroFilled (hostAddr maxLen : Nat) : AlignedMemory :=
  { hostAddr, maxLen, bytes := List.replicate maxLen 0, uncheckedAppends := [] }

def len (buffer : AlignedMemory) : Nat := buffer.bytes.length

/-- Append `value` without looking at the capacity. -/
def append (buffer : AlignedMemory) (value : List UInt8) : AlignedMemory :=
  { buffer with
    bytes := buffer.bytes ++ value
    uncheckedAppends := (buffer.len, buffer.len + value.length) :: buffer.uncheckedAppends }

/-- Overwrite the filled part through `as_slice_mut`. -/
def overwrite (buffer : AlignedMemory) (start : Nat) (value : List UInt8) : AlignedMemory :=
  { buffer with bytes := Foundation.splice buffer.bytes start value }

/-- `AlignedMemory::fill_write`: the capacity is checked, and nothing is
written when it is exceeded. -/
def fillWrite? (buffer : AlignedMemory) (num : Nat) (value : UInt8) : Option AlignedMemory :=
  if buffer.len + num ≤ buffer.maxLen then
    some { buffer with bytes := buffer.bytes ++ List.replicate num value }
  else none

def writeUnchecked (buffer : AlignedMemory) (value : List UInt8) : AlignedMemory := buffer.append value

def writeAllUnchecked (buffer : AlignedMemory) (value : List UInt8) : AlignedMemory := buffer.append value

@[simp] theorem zeroFilled_len (hostAddr maxLen : Nat) : (zeroFilled hostAddr maxLen).len = maxLen :=
  List.length_replicate

@[simp] theorem append_bytes (buffer : AlignedMemory) (value : List UInt8) :
    (buffer.append value).bytes = buffer.bytes ++ value := rfl

@[simp] theorem append_len (buffer : AlignedMemory) (value : List UInt8) :
    (buffer.append value).len = buffer.len + value.length := by
  simp only [len, append_bytes, List.length_append]

@[simp] theorem overwrite_bytes (buffer : AlignedMemory) (start : Nat) (value : List UInt8) :
    (buffer.overwrite start value).bytes = Foundation.splice buffer.bytes start value := rfl

theorem overwrite_len {buffer : AlignedMemory} {start : Nat} {value : List UInt8}
    (room : start + value.length ≤ buffer.len) : (buffer.overwrite start value).len = buffer.len :=
  Foundation.length_splice room

theorem overwrite_overwrite {buffer : AlignedMemory} {start : Nat} {first second : List UInt8}
    (room : start + first.length + second.length ≤ buffer.len) :
    (buffer.overwrite start first).overwrite (start + first.length) second =
      buffer.overwrite start (first ++ second) := by
  simp only [overwrite, Foundation.splice_splice_adjacent room]

end AlignedMemory

inductive AccessType where
  | load
  | store
  deriving DecidableEq

/-- The failures of the virtual machine that the simulator's code names, and
any other one by its number. -/
inductive EbpfError where
  | accessViolation (access : AccessType) (vmAddr len : Nat) (name : String)
  | stackAccessViolation (access : AccessType) (vmAddr len : Nat) (frame : Int)
  | exceededMaxInstructions
  | unsupportedInstruction
  | other (code : Nat)
  deriving DecidableEq

/-- A stretch of host memory made visible from `vmAddr` on. With `gapSize = 0`
it is contiguous, otherwise blocks of `gapSize` bytes alternate with unmapped
gaps of the same size. -/
structure MemoryRegion where
  hostAddr : Nat
  vmAddr : Nat
  len : Nat
  gapSize : Nat
  isWritable : Bool
  deriving DecidableEq

namespace MemoryRegion

def newReadonly (hostAddr len vmAddr : Nat) : MemoryRegion :=
  { hostAddr, vmAddr, len, gapSize := 0, isWritable := false }

def newWritable (hostAddr len vmAddr : Nat) : MemoryRegion :=
  { hostAddr, vmAddr, len, gapSize := 0, isWritable := true }

def newWritableGapped (hostAddr len vmAddr gapSize : Nat) : MemoryRegion :=
  { hostAddr, vmAddr, len, gapSize, isWritable := true }

/-- One past the last virtual address. The addition saturates, and the gaps count. -/
def vmAddrEnd (region : MemoryRegion) : Nat :=
  min (region.vmAddr + if region.gapSize = 0 then region.len else 2 * region.len) u64Max

def permits (region : MemoryRegion) : AccessType → Bool
  | .load => true
  | .store => region.isWritable

/-- Where in the host buffer the block of `vmAddr` lies, and `none` in a gap. -/
def hostOffset? (region : MemoryRegion) (vmAddr : Nat) : Option Nat :=
  let offset := vmAddr - region.vmAddr
  if vmAddr < region.vmAddr then none
  else if region.gapSize = 0 then some offset
  else if offset / region.gapSize % 2 = 1 then none
  else some (offset / region.gapSize / 2 * region.gapSize + offset % region.gapSize)

def vmToHost? (region : MemoryRegion) (vmAddr len : Nat) : Option Nat :=
  match region.hostOffset? vmAddr with
  | some offset => if offset + len ≤ region.len then some (region.hostAddr + offset) else none
  | none => none

theorem vmToHost?_of_ungapped {region : MemoryRegion} (ungapped : region.gapSize = 0)
    {vmAddr len hostAddr : Nat} :
    region.vmToHost? vmAddr len = some hostAddr ↔
      region.vmAddr ≤ vmAddr ∧ vmAddr + len ≤ region.vmAddr + region.len ∧
        hostAddr = region.hostAddr + (vmAddr - region.vmAddr) := by
  unfold vmToHost? hostOffset?
  by_cases below : vmAddr < region.vmAddr
  · simp only [below, ↓reduceIte, reduceCtorEq, false_iff, not_and]
    omega
  · simp only [below, ↓reduceIte, ungapped]
    by_cases inside : vmAddr - region.vmAddr + len ≤ region.len
    · simp only [inside, ↓reduceIte, Option.some.injEq]
      omega
    · simp only [inside, ↓reduceIte, reduceCtorEq, false_iff, not_and]
      omega

/-- How many virtual addresses the region covers. The gaps count. -/
def vmSpan (region : MemoryRegion) : Nat := if region.gapSize = 0 then region.len else 2 * region.len

theorem hostOffset?_bounds {region : MemoryRegion} {vmAddr offset : Nat}
    (found : region.hostOffset? vmAddr = some offset) :
    region.vmAddr ≤ vmAddr ∧ vmAddr - region.vmAddr ≤ if region.gapSize = 0 then offset else 2 * offset := by
  simp only [hostOffset?] at found
  split at found
  · cases found
  · refine ⟨Nat.le_of_not_lt ‹_›, ?_⟩
    split at found
    · cases found
      rw [if_pos ‹_›]
    · rw [if_neg ‹_›]
      split at found
      · cases found
      · cases found
        -- an address outside the gaps lies in an even block, half of which are in the buffer
        have even : (vmAddr - region.vmAddr) / region.gapSize =
            2 * ((vmAddr - region.vmAddr) / region.gapSize / 2) := by omega
        have whole := Nat.div_add_mod (vmAddr - region.vmAddr) region.gapSize
        rw [even, Nat.mul_comm region.gapSize, Nat.mul_assoc] at whole
        omega

/-- The `len` bytes from `vmAddr` lie in the region and, in host memory, from
`hostAddr` on in its buffer. -/
structure Backs (region : MemoryRegion) (vmAddr len hostAddr : Nat) : Prop where
  translated : region.vmToHost? vmAddr len = some hostAddr
  above : region.vmAddr ≤ vmAddr
  below : vmAddr + len ≤ region.vmAddr + region.vmSpan
  hostAbove : region.hostAddr ≤ hostAddr
  hostBelow : hostAddr + len ≤ region.hostAddr + region.len

theorem backs_of_vmToHost? {region : MemoryRegion} {vmAddr len hostAddr : Nat}
    (translated : region.vmToHost? vmAddr len = some hostAddr) : region.Backs vmAddr len hostAddr := by
  cases found : region.hostOffset? vmAddr with
  | none => simp [vmToHost?, found] at translated
  | some offset =>
      simp only [vmToHost?, found] at translated
      split at translated
      · cases translated
        obtain ⟨above, near⟩ := hostOffset?_bounds found
        refine ⟨?_, above, ?_, by omega, by omega⟩
        · simp only [vmToHost?, found, if_pos ‹offset + len ≤ region.len›]
        · rw [vmSpan]
          split at near
          · rw [if_pos ‹_›]
            omega
          · rw [if_neg ‹_›]
            omega
      · cases translated

theorem Backs.len_le {region : MemoryRegion} {vmAddr len hostAddr : Nat}
    (backs : region.Backs vmAddr len hostAddr) : len ≤ region.len := by
  have starts := backs.hostAbove
  have stops := backs.hostBelow
  omega

/-- The whole range lies in the region. -/
def Contains (region : MemoryRegion) (vmAddr len : Nat) : Prop :=
  region.vmAddr ≤ vmAddr ∧ vmAddr + len ≤ region.vmAddr + region.len

/-- The host byte behind an address of an ungapped region. -/
def hostOf (region : MemoryRegion) (vmAddr : Nat) : Nat := region.hostAddr + (vmAddr - region.vmAddr)

end MemoryRegion

/-- A memory mapping, known by its two lookups: the host address of a range,
and the region that contains an address. -/
structure MemoryMapping where
  map : AccessType → Nat → Nat → Except EbpfError Nat
  region : AccessType → Nat → Except EbpfError MemoryRegion

/-- The address lies in the virtual range of the region. -/
def MemoryRegion.Holds (region : MemoryRegion) (vmAddr : Nat) : Prop :=
  region.vmAddr ≤ vmAddr ∧ vmAddr < region.vmAddrEnd

/-- The region of an address is the one of `regions` that holds it, provided it permits the access. -/
def MemoryMapping.LooksUp (mapping : MemoryMapping) (regions : List MemoryRegion) : Prop :=
  ∀ access vmAddr region, mapping.region access vmAddr = .ok region ↔
    region ∈ regions ∧ region.permits access = true ∧ region.Holds vmAddr

/-- Only `regions` are mapped: what is translated lies in one of them, and what
may be stored may also be loaded. -/
structure MemoryMapping.MapsOnly (mapping : MemoryMapping) (regions : List MemoryRegion) : Prop where
  region_of_map : ∀ {access vmAddr len hostAddr}, mapping.map access vmAddr len = .ok hostAddr →
    ∃ region ∈ regions, region.permits access = true ∧ region.vmToHost? vmAddr len = some hostAddr
  load_of_store : ∀ {vmAddr len hostAddr}, mapping.map .store vmAddr len = .ok hostAddr →
    mapping.map .load vmAddr len = .ok hostAddr

/-- A translated nonempty range lies in a single region, possibly a gapped one, that permits the access. -/
def MemoryMapping.MapsInto (mapping : MemoryMapping) (regions : List MemoryRegion) : Prop :=
  ∀ access vmAddr len hostAddr, 0 < len → mapping.map access vmAddr len = .ok hostAddr →
    ∃ region ∈ regions, region.permits access = true ∧ region.vmToHost? vmAddr len = some hostAddr

/-- All of `regions` are mapped: a nonempty range inside one that permits the
access is translated there. -/
def MemoryMapping.MapsAll (mapping : MemoryMapping) (regions : List MemoryRegion) : Prop :=
  ∀ region ∈ regions, ∀ access vmAddr len hostAddr, 0 < len → region.permits access = true →
    region.vmToHost? vmAddr len = some hostAddr → mapping.map access vmAddr len = .ok hostAddr

def MemoryRegion.Apart (left right : MemoryRegion) : Prop :=
  left.vmAddr + left.len < right.vmAddr ∨ right.vmAddr + right.len < left.vmAddr

instance : Std.Symm MemoryRegion.Apart := ⟨fun _ _ apart => Or.symm apart⟩

/-- No two regions touch in virtual memory. -/
def Separated (regions : List MemoryRegion) : Prop := regions.Pairwise MemoryRegion.Apart

theorem Separated.unique {regions : List MemoryRegion} (separated : Separated regions)
    (ungapped : ∀ region ∈ regions, region.gapSize = 0) {left right : MemoryRegion}
    (leftMember : left ∈ regions) (rightMember : right ∈ regions) {vmAddr len leftHost rightHost : Nat}
    (leftHolds : left.vmToHost? vmAddr len = some leftHost)
    (rightHolds : right.vmToHost? vmAddr len = some rightHost) : left = right := by
  by_contra different
  have inLeft := (MemoryRegion.vmToHost?_of_ungapped (ungapped left leftMember)).mp leftHolds
  have inRight := (MemoryRegion.vmToHost?_of_ungapped (ungapped right rightMember)).mp rightHolds
  have apart := List.Pairwise.forall separated leftMember rightMember different
  unfold MemoryRegion.Apart at apart
  omega

/-- The mapping that looks for the first region holding a range. -/
def MemoryMapping.ofRegions (regions : List MemoryRegion) : MemoryMapping where
  map access vmAddr len :=
    match regions.findSome? fun region =>
        if region.permits access then region.vmToHost? vmAddr len else none with
    | some hostAddr => .ok hostAddr
    | none => .error (.accessViolation access vmAddr len "unknown")
  region access vmAddr :=
    match regions.find? fun region => region.permits access && (region.vmToHost? vmAddr 1).isSome with
    | some region => .ok region
    | none => .error (.accessViolation access vmAddr 0 "unknown")

theorem MemoryMapping.ofRegions_map_ok {regions : List MemoryRegion} {access : AccessType}
    {vmAddr len hostAddr : Nat} (mapped : (ofRegions regions).map access vmAddr len = .ok hostAddr) :
    ∃ region ∈ regions, region.permits access = true ∧ region.vmToHost? vmAddr len = some hostAddr := by
  simp only [ofRegions] at mapped
  split at mapped
  · cases mapped
    obtain ⟨region, member, found⟩ := List.exists_of_findSome?_eq_some ‹_›
    by_cases permitted : region.permits access = true
    · exact ⟨region, member, permitted, by rwa [if_pos permitted] at found⟩
    · rw [if_neg permitted] at found
      cases found
  · cases mapped

theorem MemoryMapping.ofRegions_mapsInto (regions : List MemoryRegion) : (ofRegions regions).MapsInto regions :=
  fun _ _ _ _ _ mapped => ofRegions_map_ok mapped

theorem MemoryMapping.ofRegions_map {regions : List MemoryRegion} (separated : Separated regions)
    (ungapped : ∀ region ∈ regions, region.gapSize = 0) {region : MemoryRegion} (member : region ∈ regions)
    {access : AccessType} {vmAddr len hostAddr : Nat} (permitted : region.permits access = true)
    (holds : region.vmToHost? vmAddr len = some hostAddr) :
    (ofRegions regions).map access vmAddr len = .ok hostAddr := by
  cases mapped : (ofRegions regions).map access vmAddr len with
  | ok found =>
      obtain ⟨other, otherMember, _, otherHolds⟩ := ofRegions_map_ok mapped
      rw [separated.unique ungapped otherMember member otherHolds holds, holds] at otherHolds
      cases otherHolds
      rfl
  | error error =>
      simp only [ofRegions] at mapped
      split at mapped
      · cases mapped
      · have none := List.findSome?_eq_none_iff.mp ‹_› region member
        rw [if_pos permitted, holds] at none
        cases none

theorem MemoryMapping.ofRegions_mapsAll {regions : List MemoryRegion} (separated : Separated regions)
    (ungapped : ∀ region ∈ regions, region.gapSize = 0) : (ofRegions regions).MapsAll regions :=
  fun _ member _ _ _ _ _ permitted holds => ofRegions_map separated ungapped member permitted holds

theorem MemoryMapping.ofRegions_mapsOnly {regions : List MemoryRegion} (separated : Separated regions)
    (ungapped : ∀ region ∈ regions, region.gapSize = 0) : (ofRegions regions).MapsOnly regions where
  region_of_map := ofRegions_map_ok
  load_of_store := by
    intro vmAddr len hostAddr stored
    obtain ⟨region, member, _, holds⟩ := ofRegions_map_ok stored
    exact ofRegions_map separated ungapped member rfl holds

/-- A translated nonempty range lies in the virtual range of a single region that permits the access. -/
def MemoryMapping.MapsWithin (mapping : MemoryMapping) (regions : List MemoryRegion) : Prop :=
  ∀ access vmAddr len hostAddr, 0 < len → mapping.map access vmAddr len = .ok hostAddr →
    ∃ region ∈ regions, region.permits access = true ∧ region.vmAddr ≤ vmAddr ∧
      vmAddr + len ≤ region.vmAddrEnd ∧ hostAddr = region.hostOf vmAddr

/-- No address lies in two regions, which may be adjacent. -/
def VirtuallyDisjoint (regions : List MemoryRegion) : Prop :=
  regions.Pairwise fun left right => left.vmAddrEnd ≤ right.vmAddr ∨ right.vmAddrEnd ≤ left.vmAddr

theorem VirtuallyDisjoint.unique {regions : List MemoryRegion} (disjoint : VirtuallyDisjoint regions)
    {left right : MemoryRegion} (leftMember : left ∈ regions) (rightMember : right ∈ regions) {vmAddr : Nat}
    (leftHolds : left.Holds vmAddr) (rightHolds : right.Holds vmAddr) : left = right := by
  by_contra different
  have symmetric : Std.Symm fun left right : MemoryRegion =>
      left.vmAddrEnd ≤ right.vmAddr ∨ right.vmAddrEnd ≤ left.vmAddr := ⟨fun _ _ apart => Or.symm apart⟩
  have apart := List.Pairwise.forall disjoint leftMember rightMember different
  obtain ⟨_, _⟩ := leftHolds
  obtain ⟨_, _⟩ := rightHolds
  omega

theorem MemoryRegion.holds_iff {region : MemoryRegion} (ungapped : region.gapSize = 0)
    (representable : region.vmAddr + region.len ≤ u64Max) (vmAddr : Nat) :
    region.Holds vmAddr ↔ (region.vmToHost? vmAddr 1).isSome = true := by
  rw [Option.isSome_iff_exists]
  simp only [vmToHost?_of_ungapped ungapped, Holds, vmAddrEnd, ungapped, ↓reduceIte, Nat.min_eq_left representable]
  constructor
  · intro holds
    obtain ⟨below, above⟩ := holds
    exact ⟨_, below, above, rfl⟩
  · intro found
    obtain ⟨_, below, above, _⟩ := found
    exact ⟨below, above⟩

theorem MemoryMapping.ofRegions_looksUp {regions : List MemoryRegion} (disjoint : VirtuallyDisjoint regions)
    (ungapped : ∀ region ∈ regions, region.gapSize = 0)
    (representable : ∀ region ∈ regions, region.vmAddr + region.len ≤ u64Max) :
    (ofRegions regions).LooksUp regions := by
  have holds := fun region member =>
    MemoryRegion.holds_iff (ungapped region member) (representable region member)
  have found_of : ∀ {access vmAddr region}, regions.find? (fun region =>
      region.permits access && (region.vmToHost? vmAddr 1).isSome) = some region →
      region ∈ regions ∧ region.permits access = true ∧ region.Holds vmAddr := by
    intro access vmAddr region found
    have member := List.mem_of_find?_eq_some found
    have satisfied := List.find?_some found
    rw [Bool.and_eq_true] at satisfied
    exact ⟨member, satisfied.1, (holds region member vmAddr).mpr satisfied.2⟩
  intro access vmAddr region
  constructor
  · intro found
    simp only [ofRegions] at found
    split at found
    · cases found
      exact found_of ‹_›
    · cases found
  · intro found
    obtain ⟨member, permitted, held⟩ := found
    simp only [ofRegions]
    split
    · obtain ⟨otherMember, _, otherHeld⟩ := found_of ‹_›
      rw [disjoint.unique otherMember member otherHeld held]
    · have absent := List.find?_eq_none.mp ‹_› region member
      rw [permitted, (holds region member vmAddr).mp held] at absent
      exact absurd rfl absent

/-- A nonempty range is translated, linearly, exactly when a single region that
permits the access contains it. -/
def MemoryMapping.MapsExactly (mapping : MemoryMapping) (regions : List MemoryRegion) : Prop :=
  ∀ access vmAddr len hostAddr, 0 < len → (mapping.map access vmAddr len = .ok hostAddr ↔
    ∃ region ∈ regions, region.permits access = true ∧ region.Contains vmAddr len ∧ hostAddr = region.hostOf vmAddr)

theorem MemoryMapping.ofRegions_mapsExactly {regions : List MemoryRegion} (separated : Separated regions)
    (ungapped : ∀ region ∈ regions, region.gapSize = 0) : (ofRegions regions).MapsExactly regions := by
  intro access vmAddr len hostAddr _
  constructor
  · intro mapped
    obtain ⟨region, member, permitted, holds⟩ := ofRegions_map_ok mapped
    obtain ⟨below, above, host⟩ := (MemoryRegion.vmToHost?_of_ungapped (ungapped region member)).mp holds
    exact ⟨region, member, permitted, ⟨below, above⟩, host⟩
  · intro contained
    obtain ⟨region, member, permitted, ⟨below, above⟩, host⟩ := contained
    exact ofRegions_map separated ungapped member permitted
      ((MemoryRegion.vmToHost?_of_ungapped (ungapped region member)).mpr ⟨below, above, host⟩)

theorem MemoryMapping.ofRegions_mapsWithin {regions : List MemoryRegion}
    (ungapped : ∀ region ∈ regions, region.gapSize = 0)
    (representable : ∀ region ∈ regions, region.vmAddr + region.len ≤ u64Max) :
    (ofRegions regions).MapsWithin regions := by
  intro access vmAddr len hostAddr _ mapped
  obtain ⟨region, member, permitted, holds⟩ := ofRegions_map_ok mapped
  obtain ⟨below, above, host⟩ := (MemoryRegion.vmToHost?_of_ungapped (ungapped region member)).mp holds
  refine ⟨region, member, permitted, below, ?_, host⟩
  rwa [MemoryRegion.vmAddrEnd, if_pos (ungapped region member), Nat.min_eq_left (representable region member)]

def MemoryRegion.HostApart (left right : MemoryRegion) : Prop :=
  left.hostAddr + left.len ≤ right.hostAddr ∨ right.hostAddr + right.len ≤ left.hostAddr

instance : Std.Symm MemoryRegion.HostApart := ⟨fun _ _ apart => Or.symm apart⟩

/-- No two regions share a byte of host memory. -/
def HostsApart (regions : List MemoryRegion) : Prop := regions.Pairwise MemoryRegion.HostApart

/-- Through ungapped regions that share no host memory, a host byte is seen at
one virtual address only. -/
theorem MemoryMapping.MapsOnly.same_byte {mapping : MemoryMapping} {regions : List MemoryRegion}
    (only : mapping.MapsOnly regions) (ungapped : ∀ region ∈ regions, region.gapSize = 0)
    (apart : HostsApart regions) {access access' : AccessType} {vmAddr vmAddr' len len' host host' : Nat}
    (mapped : mapping.map access vmAddr len = .ok host) (mapped' : mapping.map access' vmAddr' len' = .ok host')
    {offset offset' : Nat} (bound : offset < len) (bound' : offset' < len')
    (same : host + offset = host' + offset') : vmAddr + offset = vmAddr' + offset' := by
  obtain ⟨region, member, _, holds⟩ := only.region_of_map mapped
  obtain ⟨region', member', _, holds'⟩ := only.region_of_map mapped'
  have inside := (MemoryRegion.vmToHost?_of_ungapped (ungapped region member)).mp holds
  have inside' := (MemoryRegion.vmToHost?_of_ungapped (ungapped region' member')).mp holds'
  by_cases sameRegion : region = region'
  · subst sameRegion
    omega
  · have separate := List.Pairwise.forall apart member member' sameRegion
    unfold MemoryRegion.HostApart at separate
    omega

def mmStackStart : Nat := 0x200000000

def mmHeapStart : Nat := 0x300000000

def mmInputStart : Nat := 0x400000000

/-- The part of the virtual machine configuration that the executor sets or
that decides how stack frames are laid out. -/
structure Config where
  maxCallDepth : Nat
  stackFrameSize : Nat
  enableStackFrameGaps : Bool
  externalInternalFunctionHashCollision : Bool
  deriving DecidableEq

def Config.stackSize (config : Config) : Nat := config.stackFrameSize * config.maxCallDepth

/-- How far the frame pointer moves with every call: not at all for dynamic
frames, otherwise over the frame and, where gaps are enabled, over a gap of the
same size. -/
def Config.frameStride (config : Config) (dynamicStackFrames : Bool) : Nat :=
  if dynamicStackFrames then 0
  else config.stackFrameSize * if config.enableStackFrameGaps then 2 else 1

end BpfSimulator
