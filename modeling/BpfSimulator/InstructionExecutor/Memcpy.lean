import BpfSimulator.InstructionExecutor.Syscalls.MemOps

/-! `sol_memcpy_` end to end. The overlap check looks at virtual addresses, the
copy happens on host addresses and is one of the whole source at once. -/

set_option autoImplicit false

namespace BpfSimulator.Syscalls

open Foundation

variable {Log : Type} {mapping : MemoryMapping}

def Intersect (src dst n : Nat) : Prop :=
  ∃ address, (src ≤ address ∧ address < src + n) ∧ dst ≤ address ∧ address < dst + n

theorem isNonoverlapping_iff_not_intersect (src dst n : Nat) :
    isNonoverlapping src n dst n = true ↔ ¬ Intersect src dst n := by
  by_cases empty : n = 0
  · subst empty
    constructor
    · intro _ shared
      obtain ⟨address, _, _⟩ := shared
      omega
    · intro _
      simp [isNonoverlapping]
  · rw [isNonoverlapping_iff (Nat.pos_of_ne_zero empty) (Nat.pos_of_ne_zero empty)]
    constructor
    · intro apart shared
      obtain ⟨address, _, _⟩ := shared
      omega
    · intro disjoint
      by_contra touching
      exact disjoint ⟨max src dst, by omega, by omega⟩

def SyscallState.copy (state : SyscallState Log) (target source n : Nat) : SyscallState Log :=
  { state with memory := state.memory.write target (state.memory.read source n) }

theorem memmove_run (dst src : Nat) {n : Nat} (fits : n ≤ u64Max) (state : SyscallState Log) :
    memmove mapping dst src n state =
      if n = 0 then .ok 0 state
      else
        match mapping.map .store dst n, mapping.map .load src n with
        | .error error, _ => .error (.ebpf error) state
        | .ok _, .error error => .error (.ebpf error) state
        | .ok target, .ok source => .ok 0 (state.copy target source n) := by
  have started : memmove mapping dst src n state = (do
      let target ← inspecting (translateSliceInner byteLayout mapping .store dst n false false)
      let source ← inspecting (translateSliceInner byteLayout mapping .load src n false false)
      modify fun state =>
        { state with memory := state.memory.write target.hostAddr (state.memory.read source.hostAddr n) }
      pure 0 : SyscallM Log Nat) state := by
    rw [memmove, bind_run_ok (get_run _)]
    rfl
  rw [started]
  by_cases empty : n = 0
  · subst empty
    simp only [translateSliceInner, ↓reduceIte, ByteMemory.read_zero, ByteMemory.write_nil]
    rfl
  · rw [if_neg empty, translateSliceInner_bytes mapping .store dst empty fits,
      translateSliceInner_bytes mapping .load src empty fits]
    cases mapping.map .store dst n with
    | error error => rfl
    | ok target => cases mapping.map .load src n <;> rfl

structure Copied (before after : ByteMemory) (target source n : Nat) : Prop where
  written : after.read target n = before.read source n
  frame : ∀ address, address < target ∨ target + n ≤ address → after address = before address

theorem copied_write (memory : ByteMemory) (target source n : Nat) :
    Copied memory (memory.write target (memory.read source n)) target source n := by
  constructor
  · have written : (memory.write target (memory.read source n)).read target (memory.read source n).length =
        memory.read source n := ByteMemory.read_write_same
    rwa [ByteMemory.length_read] at written
  · intro address outside
    exact ByteMemory.write_outside (by rwa [ByteMemory.length_read])

theorem memmove_ok_iff {regions : List MemoryRegion} (exact : mapping.MapsExactly regions) (dst src : Nat) {n : Nat}
    (fits : n ≤ u64Max) {state after : SyscallState Log} {value : Nat} :
    memmove mapping dst src n state = .ok value after ↔ value = 0 ∧ (n = 0 ∧ after = state ∨
      0 < n ∧ ∃ source ∈ regions, source.Contains src n ∧
        ∃ target ∈ regions, target.isWritable = true ∧ target.Contains dst n ∧
          after = state.copy (target.hostOf dst) (source.hostOf src) n) := by
  rw [memmove_run dst src fits state]
  by_cases empty : n = 0
  · rw [if_pos empty]
    simp only [EStateM.Result.ok.injEq, empty, true_and, Nat.lt_irrefl, false_and, or_false]
    exact ⟨fun same => ⟨same.1.symm, same.2.symm⟩, fun same => ⟨same.1.symm, same.2.symm⟩⟩
  · have positive := Nat.pos_of_ne_zero empty
    rw [if_neg empty]
    constructor
    · intro ran
      cases stored : mapping.map .store dst n with
      | error error =>
          rw [stored] at ran
          cases ran
      | ok targetAddr =>
          cases loaded : mapping.map .load src n with
          | error error =>
              rw [stored, loaded] at ran
              cases ran
          | ok sourceAddr =>
              rw [stored, loaded] at ran
              cases ran
              obtain ⟨target, targetMember, writable, targetHolds, rfl⟩ := (exact _ _ _ _ positive).mp stored
              obtain ⟨source, sourceMember, _, sourceHolds, rfl⟩ := (exact _ _ _ _ positive).mp loaded
              exact ⟨rfl, .inr ⟨positive, source, sourceMember, sourceHolds, target, targetMember, writable,
                targetHolds, rfl⟩⟩
    · rintro ⟨rfl, ⟨absent, _⟩ | ⟨_, source, sourceMember, sourceHolds, target, targetMember, writable,
        targetHolds, rfl⟩⟩
      · exact absurd absent empty
      · have stored := (exact .store dst n _ positive).mpr ⟨target, targetMember, writable, targetHolds, rfl⟩
        have loaded := (exact .load src n _ positive).mpr ⟨source, sourceMember, rfl, sourceHolds, rfl⟩
        simp only [stored, loaded]

theorem memcpy_cases (mapping : MemoryMapping) (dst src n : Nat) (state : SyscallState Log) :
    Intersect src dst n ∧ syscallMemcpy mapping dst src n state = .error (.syscall .copyOverlapping) state ∨
      ¬ Intersect src dst n ∧ syscallMemcpy mapping dst src n state = memmove mapping dst src n state := by
  unfold syscallMemcpy
  cases checked : isNonoverlapping src n dst n with
  | false =>
      refine .inl ⟨?_, rfl⟩
      by_contra disjoint
      rw [(isNonoverlapping_iff_not_intersect src dst n).mpr disjoint] at checked
      cases checked
  | true => exact .inr ⟨(isNonoverlapping_iff_not_intersect src dst n).mp checked, rfl⟩

theorem memmove_error (mapping : MemoryMapping) (dst src : Nat) {n : Nat} (fits : n ≤ u64Max)
    {state after : SyscallState Log} {error : ErrorObj} (failed : memmove mapping dst src n state = .error error after) :
    after = state ∧ ∃ fault, error = .ebpf fault := by
  rw [memmove_run dst src fits state] at failed
  split at failed
  · cases failed
  · split at failed <;> cases failed <;> exact ⟨rfl, _, rfl⟩

/-- `sol_memcpy_` refuses exactly the ranges that share an address. Otherwise
it succeeds exactly when there is nothing to copy or both ranges lie in one
region each, and then it copies the source as it was before. -/
theorem memcpy_end_to_end {regions : List MemoryRegion} (exact : mapping.MapsExactly regions) (dst src n : UInt64)
    (state : SyscallState Log) :
    let result := syscallMemcpy mapping dst.toNat src.toNat n.toNat state
    (result = .error (.syscall .copyOverlapping) state ↔ Intersect src.toNat dst.toNat n.toNat) ∧
    (¬ Intersect src.toNat dst.toNat n.toNat → ((∃ after, result = .ok 0 after) ↔
      n = 0 ∨ (∃ source ∈ regions, source.Contains src.toNat n.toNat) ∧
        ∃ target ∈ regions, target.isWritable = true ∧ target.Contains dst.toNat n.toNat)) ∧
    (∀ value after, result = .ok value after → after.context = state.context ∧ (n = 0 → after = state) ∧
      (n ≠ 0 → ∃ source ∈ regions, source.Contains src.toNat n.toNat ∧
        ∃ target ∈ regions, target.isWritable = true ∧ target.Contains dst.toNat n.toNat ∧
          Copied state.memory after.memory (target.hostOf dst.toNat) (source.hostOf src.toNat) n.toNat)) ∧
    ∀ error after, result = .error error after → after = state := by
  have fits : n.toNat ≤ u64Max := Nat.le_pred_of_lt n.toNat_lt
  have zero : n = 0 ↔ n.toNat = 0 := UInt64.toNat_inj.symm
  intro result
  rcases memcpy_cases mapping dst.toNat src.toNat n.toNat state with ⟨intersect, ran⟩ | ⟨disjoint, ran⟩
  · have failed : result = .error (.syscall .copyOverlapping) state := ran
    refine ⟨⟨fun _ => intersect, fun _ => failed⟩, fun disjoint => absurd intersect disjoint, ?_, ?_⟩
    · intro value after succeeded
      rw [failed] at succeeded
      cases succeeded
    · intro error after other
      rw [failed] at other
      cases other
      rfl
  · have moved : result = memmove mapping dst.toNat src.toNat n.toNat state := ran
    rw [moved, zero, ne_eq, zero]
    refine ⟨⟨?_, fun intersect => absurd intersect disjoint⟩, fun _ => ?_, ?_, ?_⟩
    · intro failed
      obtain ⟨_, fault, same⟩ := memmove_error mapping dst.toNat src.toNat fits failed
      cases same
    · simp only [memmove_ok_iff exact dst.toNat src.toNat fits, true_and]
      constructor
      · rintro ⟨after, ⟨empty, _⟩ | ⟨_, source, member, holds, target, targetMember, writable, targetHolds, _⟩⟩
        · exact .inl empty
        · exact .inr ⟨⟨source, member, holds⟩, target, targetMember, writable, targetHolds⟩
      · intro mapped
        rcases mapped with empty | ⟨⟨source, member, holds⟩, target, targetMember, writable, targetHolds⟩
        · exact ⟨state, .inl ⟨empty, rfl⟩⟩
        · rcases Nat.eq_zero_or_pos n.toNat with empty | positive
          · exact ⟨state, .inl ⟨empty, rfl⟩⟩
          · exact ⟨_, .inr ⟨positive, source, member, holds, target, targetMember, writable, targetHolds, rfl⟩⟩
    · intro value after succeeded
      obtain ⟨_, ⟨empty, rfl⟩ | ⟨positive, source, member, holds, target, targetMember, writable, targetHolds, rfl⟩⟩ :=
        (memmove_ok_iff exact dst.toNat src.toNat fits).mp succeeded
      · exact ⟨rfl, fun _ => rfl, fun something => absurd empty something⟩
      · exact ⟨rfl, fun empty => absurd empty (Nat.ne_of_gt positive), fun _ => ⟨source, member, holds, target,
          targetMember, writable, targetHolds, copied_write _ _ _ _⟩⟩
    · intro error after failed
      exact (memmove_error mapping dst.toNat src.toNat fits failed).1

/-- Two regions backed by overlapping host memory. -/
theorem memcpy_end_to_end_overlapping_hosts :
    let regions := [MemoryRegion.newReadonly 0 4 0x100, MemoryRegion.newWritable 2 4 0x200]
    let state : SyscallState Unit := { context := InvokeContext.new, memory := fun address => UInt8.ofNat address }
    ∃ after, syscallMemcpy (MemoryMapping.ofRegions regions) 0x200 0x100 4 state = .ok 0 after ∧
      after.memory.read 2 4 = [0, 1, 2, 3] := by
  intro regions state
  have separated : Separated regions := by
    simp [Separated, regions, MemoryRegion.Apart, MemoryRegion.newReadonly, MemoryRegion.newWritable]
  have ungapped : ∀ region ∈ regions, region.gapSize = 0 := by
    simp [regions, MemoryRegion.newReadonly, MemoryRegion.newWritable]
  have disjoint : ¬ Intersect (0x100 : UInt64).toNat (0x200 : UInt64).toNat (4 : UInt64).toNat :=
    (isNonoverlapping_iff_not_intersect _ _ _).mp (by decide)
  obtain ⟨_, succeeds, copies, _⟩ := memcpy_end_to_end (MemoryMapping.ofRegions_mapsExactly separated ungapped)
    0x200 0x100 4 state
  obtain ⟨after, ran⟩ := (succeeds disjoint).mpr (.inr ⟨⟨_, .head _, by simp [MemoryRegion.Contains,
    MemoryRegion.newReadonly]⟩, _, .tail _ (.head _), rfl, by simp [MemoryRegion.Contains, MemoryRegion.newWritable]⟩)
  obtain ⟨source, sourceMember, sourceHolds, target, targetMember, writable, _, copied⟩ :=
    (copies 0 after ran).2.2 (by decide)
  have sourceFirst : source = MemoryRegion.newReadonly 0 4 0x100 := by
    rcases List.mem_pair.mp sourceMember with rfl | rfl
    · rfl
    · exact absurd sourceHolds.1 (by decide)
  have targetSecond : target = MemoryRegion.newWritable 2 4 0x200 := by
    rcases List.mem_pair.mp targetMember with rfl | rfl
    · cases writable
    · rfl
  subst sourceFirst targetSecond
  exact ⟨after, ran, copied.written⟩

end BpfSimulator.Syscalls
