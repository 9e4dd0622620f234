import BpfSimulator.Foundation.Chain
import BpfSimulator.InstructionExecutor.Syscalls

/-! Translated slices never exceed what is mapped. The product of the length
and the element size may saturate, but a region as long as the saturated
product does not exist, so the mapping itself refuses every such length. -/

set_option autoImplicit false

namespace BpfSimulator.Syscalls

open Foundation

/-- Unless the slice is empty, a single region permits the access and holds
all of its elements, `size` bytes each, from `vmAddr` on. -/
def HostSlice.Mapped (slice : HostSlice) (regions : List MemoryRegion) (access : AccessType)
    (vmAddr size : Nat) : Prop :=
  0 < slice.len → ∃ region ∈ regions, region.permits access = true ∧
    region.Backs vmAddr (slice.len * size) slice.hostAddr

/-- A seed has the length of its fat pointer, which is small, and lies where it points. -/
structure SeedMapped (regions : List MemoryRegion) (fatPointer : Nat × Nat) (seed : HostSlice) : Prop where
  len : seed.len = fatPointer.2
  short : seed.len ≤ maxSeedLen
  mapped : seed.Mapped regions .load fatPointer.1 byteLayout.size

/-- There are few seeds, and they were translated from a mapped table of fat pointers. -/
structure SeedsMapped (regions : List MemoryRegion) (memory : ByteMemory) (seedsAddr seedsLen : Nat)
    (seeds : List HostSlice) (table : HostSlice) : Prop where
  length : seeds.length = seedsLen
  few : seeds.length ≤ maxSeeds
  tableLen : table.len = seedsLen
  tableMapped : table.Mapped regions .load seedsAddr sliceLayout.size
  each : ∀ (index : Nat) (seed : HostSlice), seeds[index]? = some seed →
    SeedMapped regions (untranslatedSeed memory table index) seed

section Bounds

variable {mapping : MemoryMapping} {regions : List MemoryRegion} {layout : TypeLayout} {access : AccessType}
  {vmAddr len : Nat} {checkAligned checkSize : Bool} {slice : HostSlice}

theorem translateSliceInner_len
    (translated : translateSliceInner layout mapping access vmAddr len checkAligned checkSize = .ok slice) :
    slice.len = len := by
  cases len with
  | zero =>
      cases translated
      rfl
  | succ len => exact ((translateSliceInner_ok_iff (Nat.succ_ne_zero len)).mp translated).1

section Short

variable (into : mapping.MapsInto regions) (short : ∀ region ∈ regions, region.len ≤ isizeMax)

include into short

/-- Where regions are short, a mapped product is the exact one. -/
theorem map_saturatingMul {hostAddr size : Nat} (lenPositive : 0 < len) (sizePositive : 0 < size)
    (mapped : mapping.map access vmAddr (saturatingMul len size) = .ok hostAddr) :
    saturatingMul len size = len * size ∧
      ∃ region ∈ regions, region.permits access = true ∧ region.Backs vmAddr (len * size) hostAddr := by
  obtain ⟨region, member, permitted, found⟩ :=
    into access vmAddr _ hostAddr (saturatingMul_pos lenPositive sizePositive) mapped
  have backs := MemoryRegion.backs_of_vmToHost? found
  have fits : saturatingMul len size ≤ isizeMax := Nat.le_trans backs.len_le (short region member)
  have exactProduct := saturatingMul_exact (Nat.lt_of_le_of_lt fits (by decide))
  rw [exactProduct] at backs
  exact ⟨exactProduct, region, member, permitted, backs⟩

theorem translateSliceInner_mapped (sized : 1 ≤ layout.size)
    (translated : translateSliceInner layout mapping access vmAddr len checkAligned checkSize = .ok slice) :
    slice.len = len ∧ slice.Mapped regions access vmAddr layout.size := by
  have length := translateSliceInner_len translated
  refine ⟨length, fun nonempty => ?_⟩
  rw [length] at nonempty ⊢
  obtain ⟨_, mapped, _⟩ := (translateSliceInner_ok_iff (Nat.ne_of_gt nonempty)).mp translated
  exact (map_saturatingMul into short nonempty sized mapped).2

/-- Which slices are translated does not depend on the size check: what it
refuses is refused by the mapping too. -/
theorem translateSliceInner_checkSize_iff (sized : 1 ≤ layout.size) :
    translateSliceInner layout mapping access vmAddr len checkAligned true = .ok slice ↔
      translateSliceInner layout mapping access vmAddr len checkAligned false = .ok slice := by
  cases len with
  | zero => rfl
  | succ len =>
      rw [translateSliceInner_ok_iff (Nat.succ_ne_zero len), translateSliceInner_ok_iff (Nat.succ_ne_zero len)]
      constructor
      · intro translated
        obtain ⟨length, mapped, _, aligned⟩ := translated
        exact ⟨length, mapped, fun checked => absurd checked Bool.false_ne_true, aligned⟩
      · intro translated
        obtain ⟨length, mapped, _, aligned⟩ := translated
        refine ⟨length, mapped, fun _ => ?_, aligned⟩
        obtain ⟨exactProduct, region, member, _, backs⟩ :=
          map_saturatingMul into short (Nat.succ_pos len) sized mapped
        rw [exactProduct]
        exact Nat.le_trans backs.len_le (short region member)

theorem translateSeed_mapped {fatPointer : Nat × Nat}
    (translated : translateSeed mapping checkAligned checkSize fatPointer = .ok slice) :
    SeedMapped regions fatPointer slice := by
  unfold translateSeed at translated
  split at translated
  · cases translated
  · obtain ⟨length, mapped⟩ := translateSliceInner_mapped into short (Nat.le_refl 1) translated
    exact ⟨length, by omega, mapped⟩

theorem translateAndCheckProgramAddressInputs_mapped {memory : ByteMemory}
    {seedsAddr seedsLen programIdAddr programId : Nat} {seeds : List HostSlice}
    (accepted : translateAndCheckProgramAddressInputs memory seedsAddr seedsLen programIdAddr mapping checkAligned
      checkSize = .ok (seeds, programId)) :
    ∃ table, SeedsMapped regions memory seedsAddr seedsLen seeds table := by
  obtain ⟨table, tableFound, accepted⟩ := except_bind_ok_iff.mp accepted
  obtain ⟨tableLen, tableMapped⟩ := translateSliceInner_mapped into short (by decide) tableFound
  split at accepted
  · cases accepted
  · obtain ⟨found, translated, accepted⟩ := except_bind_ok_iff.mp accepted
    obtain ⟨_, _, same⟩ := except_bind_ok_iff.mp accepted
    cases same
    obtain ⟨length, each⟩ := mapM_range_ok translated
    exact ⟨table, length.trans tableLen, by omega, tableLen, tableMapped,
      fun index seed found => translateSeed_mapped into short (each index seed found)⟩

end Short

/-- Whatever the checks, a translated slice has the length asked for and lies
in one region with all of its bytes, and so do the seeds of a program address
and the table of fat pointers they are read from. -/
theorem translated_slices_mapped (into : mapping.MapsInto regions)
    (short : ∀ region ∈ regions, region.len ≤ isizeMax) :
    (∀ (layout : TypeLayout) (access : AccessType) (vmAddr len : Nat) (checkAligned checkSize : Bool)
        (slice : HostSlice), 1 ≤ layout.size →
      translateSliceInner layout mapping access vmAddr len checkAligned checkSize = .ok slice →
      slice.len = len ∧ (0 < len → ∃ region ∈ regions, region.permits access = true ∧
        region.Backs vmAddr (len * layout.size) slice.hostAddr)) ∧
    ∀ (memory : ByteMemory) (seedsAddr seedsLen programIdAddr : Nat) (checkAligned checkSize : Bool)
        (seeds : List HostSlice) (programId : Nat),
      translateAndCheckProgramAddressInputs memory seedsAddr seedsLen programIdAddr mapping checkAligned
        checkSize = .ok (seeds, programId) →
      ∃ table, SeedsMapped regions memory seedsAddr seedsLen seeds table := by
  constructor
  · intro layout access vmAddr len checkAligned checkSize slice sized translated
    obtain ⟨length, mapped⟩ := translateSliceInner_mapped into short sized translated
    rw [HostSlice.Mapped, length] at mapped
    exact ⟨length, mapped⟩
  · intro memory seedsAddr seedsLen programIdAddr checkAligned checkSize seeds programId accepted
    exact translateAndCheckProgramAddressInputs_mapped into short accepted

end Bounds

/-- A region of 64 bytes, read once as four fat pointers, and once as two of
which the first points to its own second half. -/
theorem translated_slices_mapped_whole_region :
    let region := MemoryRegion.newReadonly 4096 64 0x400000000
    let mapping := MemoryMapping.ofRegions [region]
    let memory := ByteMemory.write (fun _ => 0) 4096 [0x20, 0, 0, 0, 4, 0, 0, 0, 32]
    translateSliceInner sliceLayout mapping .load 0x400000000 4 true false = .ok ⟨4096, 4⟩ ∧
      region.Backs 0x400000000 64 4096 ∧
      translateAndCheckProgramAddressInputs memory 0x400000000 2 0x400000000 mapping true false =
        .ok ([⟨4128, 32⟩, ⟨0, 0⟩], 4096) ∧
      ∃ table, SeedsMapped [region] memory 0x400000000 2 [⟨4128, 32⟩, ⟨0, 0⟩] table := by
  intro region mapping memory
  have succeeds :
      translateSliceInner sliceLayout mapping .load 0x400000000 4 true false = .ok ⟨4096, 4⟩ ∧
        translateAndCheckProgramAddressInputs memory 0x400000000 2 0x400000000 mapping true false =
          .ok ([⟨4128, 32⟩, ⟨0, 0⟩], 4096) := by decide +revert
  obtain ⟨translated, accepted⟩ := succeeds
  have short : ∀ member ∈ [region], member.len ≤ isizeMax := by simp [region, MemoryRegion.newReadonly, isizeMax]
  obtain ⟨slices, inputs⟩ := translated_slices_mapped (MemoryMapping.ofRegions_mapsInto [region]) short
  obtain ⟨other, member, _, backs⟩ :=
    (slices sliceLayout .load 0x400000000 4 true false _ (by decide) translated).2 (by decide)
  rw [List.mem_singleton.mp member] at backs
  exact ⟨translated, backs, accepted, inputs memory 0x400000000 2 0x400000000 true false _ _ accepted⟩

/-- A length whose size in bytes wraps to 16 is refused, for its saturated size. -/
example : translateSliceInner sliceLayout (MemoryMapping.ofRegions [MemoryRegion.newReadonly 4096 64 0x400000000]) .load
    0x400000000 (2 ^ 60 + 1) false false =
      .error (.ebpf (.accessViolation .load 0x400000000 u64Max "unknown")) := by decide

end BpfSimulator.Syscalls
