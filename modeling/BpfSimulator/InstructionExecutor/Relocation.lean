import BpfSimulator.InstructionExecutor.MappedRuntime

/-! Moving the mapped regions elsewhere in host memory. A run sees nothing of
it, and nothing of the host memory outside the regions. -/

set_option autoImplicit false

namespace BpfSimulator

open Foundation Syscalls

/-- A region and the host address it is moved to. -/
structure Relocation where
  region : MemoryRegion
  newHostAddr : Nat
  deriving DecidableEq

namespace Relocation

def moved (move : Relocation) : MemoryRegion := { move.region with hostAddr := move.newHostAddr }

@[simp] theorem moved_hostAddr (move : Relocation) : move.moved.hostAddr = move.newHostAddr := rfl

@[simp] theorem moved_len (move : Relocation) : move.moved.len = move.region.len := rfl

/-- The regions are apart from each other, before and after. -/
def Apart (moves : List Relocation) : Prop :=
  moves.Pairwise fun left right => left.region.HostApart right.region ∧ left.moved.HostApart right.moved

/-- The same part of one region, before and after. -/
inductive Twins (moves : List Relocation) (access : AccessType) (len : Nat) : Nat → Nat → Prop where
  | intro {move : Relocation} {offset : Nat} (member : move ∈ moves) (permitted : move.region.permits access = true)
      (inside : offset + len ≤ move.region.len) :
      Twins moves access len (move.region.hostAddr + offset) (move.newHostAddr + offset)

/-- The two states agree on what the regions hold. -/
structure Agrees {Log : Type} (moves : List Relocation) (state twin : SyscallState Log) : Prop where
  context : twin.context = state.context
  contents : ∀ move ∈ moves, ∀ offset < move.region.len,
    twin.memory (move.newHostAddr + offset) = state.memory (move.region.hostAddr + offset)

/-- The two mappings translate the same ranges, to the same places of the regions. -/
def Mirrors (moves : List Relocation) (mapping mapping' : MemoryMapping) : Prop :=
  ∀ access vmAddr len, 0 < len →
    Agree (Twins moves access len) (mapping.map access vmAddr len) (mapping'.map access vmAddr len)

variable {moves : List Relocation}

theorem apart_iff : Apart moves ↔ HostsApart (moves.map region) ∧ HostsApart (moves.map moved) := by
  unfold Apart HostsApart
  rw [List.pairwise_map, List.pairwise_map, List.pairwise_and_iff]

theorem Apart.same_or (apart : Apart moves) {left right : Relocation} (leftMember : left ∈ moves)
    (rightMember : right ∈ moves) :
    left = right ∨ (left.region.HostApart right.region ∧ left.moved.HostApart right.moved) := by
  have symmetric : Std.Symm fun left right : Relocation =>
      left.region.HostApart right.region ∧ left.moved.HostApart right.moved :=
    ⟨fun _ _ apart => ⟨apart.1.symm, apart.2.symm⟩⟩
  rcases eq_or_ne left right with same | different
  · exact .inl same
  · exact .inr (List.Pairwise.forall apart leftMember rightMember different)

theorem Twins.part {access : AccessType} {len host twin : Nat} (twins : Twins moves access len host twin)
    (offset partLen : Nat) (bound : offset + partLen ≤ len) :
    Twins moves access partLen (host + offset) (twin + offset) := by
  cases twins with
  | intro member permitted inside =>
      rw [Nat.add_assoc, Nat.add_assoc]
      exact .intro member permitted (by omega)

theorem Twins.nonoverlapping (apart : Apart moves) {access : AccessType} {len host twin len' host' twin' : Nat}
    (positive : 0 < len) (positive' : 0 < len') (twins : Twins moves access len host twin)
    (twins' : Twins moves access len' host' twin') :
    isNonoverlapping twin len twin' len' = isNonoverlapping host len host' len' := by
  rw [Bool.eq_iff_iff, isNonoverlapping_iff positive positive', isNonoverlapping_iff positive positive']
  cases twins with
  | intro member _ inside =>
      cases twins' with
      | intro member' _ inside' =>
          rcases apart.same_or member member' with same | separate
          · subst same
            omega
          · simp only [MemoryRegion.HostApart, moved_hostAddr, moved_len] at separate
            omega

variable {Log : Type} {state twin : SyscallState Log}

theorem Agrees.read (agrees : Agrees moves state twin) {access : AccessType} {len host host' : Nat}
    (twins : Twins moves access len host host') : twin.memory.read host' len = state.memory.read host len := by
  cases twins with
  | @intro move offset member _ inside =>
      apply List.ext_getElem?
      intro index
      rcases Nat.lt_or_ge index len with bound | beyond
      · rw [ByteMemory.getElem?_read bound, ByteMemory.getElem?_read bound, Nat.add_assoc, Nat.add_assoc,
          agrees.contents move member _ (by omega)]
      · rw [List.getElem?_eq_none (by simpa using beyond), List.getElem?_eq_none (by simpa using beyond)]

theorem Agrees.write (apart : Apart moves) (agrees : Agrees moves state twin) {access : AccessType}
    {bytes : List UInt8} {host host' : Nat} (twins : Twins moves access bytes.length host host') :
    Agrees moves { state with memory := state.memory.write host bytes }
      { twin with memory := twin.memory.write host' bytes } := by
  refine ⟨agrees.context, fun other otherMember target bound => ?_⟩
  have same := agrees.contents other otherMember target bound
  dsimp only
  cases twins with
  | @intro move offset member _ inside =>
      rcases apart.same_or member otherMember with rfl | separate
      · rcases Nat.lt_or_ge target offset with before | after
        · rw [ByteMemory.write_outside (by omega), ByteMemory.write_outside (by omega), same]
        · rcases Nat.lt_or_ge target (offset + bytes.length) with within | beyond
          · obtain ⟨index, rfl⟩ := Nat.exists_eq_add_of_le after
            rw [← Nat.add_assoc, ← Nat.add_assoc, ByteMemory.write_inside (by omega),
              ByteMemory.write_inside (by omega)]
          · rw [ByteMemory.write_outside (by omega), ByteMemory.write_outside (by omega), same]
      · simp only [MemoryRegion.HostApart, moved_hostAddr, moved_len] at separate
        rw [ByteMemory.write_outside (by omega), ByteMemory.write_outside (by omega), same]

theorem alike {mapping mapping' : MemoryMapping} (apart : Apart moves) (mirrors : Mirrors moves mapping mapping') :
    Alike mapping mapping' (Twins moves) (@Agrees Log moves) where
  maps := mirrors
  part := fun offset partLen twins bound => twins.part offset partLen bound
  nonoverlapping := fun positive positive' twins twins' => twins.nonoverlapping apart positive positive' twins'
  context := fun agrees => agrees.context
  read := fun agrees twins => agrees.read twins
  write := fun agrees twins => agrees.write apart twins
  withContext := fun agrees _ => ⟨rfl, agrees.contents⟩

theorem moved_vmToHost? (move : Relocation) (vmAddr len : Nat) :
    Option.Rel (fun host twin => ∃ offset, offset + len ≤ move.region.len ∧ host = move.region.hostAddr + offset ∧
        twin = move.newHostAddr + offset)
      (move.region.vmToHost? vmAddr len) (move.moved.vmToHost? vmAddr len) := by
  have sameOffset : move.moved.hostOffset? vmAddr = move.region.hostOffset? vmAddr := rfl
  unfold MemoryRegion.vmToHost?
  rw [sameOffset]
  cases move.region.hostOffset? vmAddr with
  | none => exact .none
  | some offset =>
      dsimp only
      rw [moved_len]
      split
      · exact .some ⟨offset, ‹_›, rfl, rfl⟩
      · exact .none

theorem twins_of_search (access : AccessType) (vmAddr len : Nat) {searched : List Relocation}
    (among : searched ⊆ moves) :
    Option.Rel (Twins moves access len)
      ((searched.map region).findSome? fun region =>
        if region.permits access then region.vmToHost? vmAddr len else none)
      ((searched.map moved).findSome? fun region =>
        if region.permits access then region.vmToHost? vmAddr len else none) := by
  induction searched with
  | nil => exact .none
  | cons move rest ih =>
      obtain ⟨member, later⟩ := List.cons_subset.mp among
      have tail := ih later
      have samePermits : move.moved.permits access = move.region.permits access := by cases access <;> rfl
      rw [List.map_cons, List.map_cons, List.findSome?_cons, List.findSome?_cons, samePermits]
      cases permitted : move.region.permits access with
      | false => exact tail
      | true =>
          have here := moved_vmToHost? move vmAddr len
          rw [if_pos rfl, if_pos rfl]
          generalize move.region.vmToHost? vmAddr len = found at here ⊢
          generalize move.moved.vmToHost? vmAddr len = found' at here ⊢
          cases here with
          | none => exact tail
          | some placed =>
              obtain ⟨offset, inside, host, twin⟩ := placed
              subst host twin
              exact .some (.intro member permitted inside)

/-- A search over the regions, one after the other, does not look at host addresses. -/
theorem ofRegions_mirrors (moves : List Relocation) :
    Mirrors moves (.ofRegions (moves.map region)) (.ofRegions (moves.map moved)) := by
  intro access vmAddr len _
  have search := twins_of_search access vmAddr len (List.Subset.refl moves)
  unfold MemoryMapping.ofRegions
  dsimp only
  generalize (moves.map region).findSome? _ = found at search ⊢
  generalize (moves.map moved).findSome? _ = found' at search ⊢
  cases search with
  | none => exact .error
  | some twins => exact .ok twins

/-- A run depends on the context and on what the regions hold. Where they lie,
and what the rest of host memory holds, makes no difference. -/
theorem run_depends_on_regions {Exe Regs : Type} {runtime runtime' : Runtime Exe Regs Log} {executable : Exe}
    {decode : Regs → Operation Regs} {mapping mapping' : MemoryMapping}
    (sameSyscalls : runtime'.toSyscallRuntime = runtime.toSyscallRuntime)
    (steps : StepsThrough runtime mapping executable decode)
    (steps' : StepsThrough runtime' mapping' executable decode) (apart : Apart moves)
    (mirrors : Mirrors moves mapping mapping') (registry : FunctionRegistry) (limit : Nat) (regs : Regs)
    (agrees : Agrees moves state twin) :
    PairedOutcomes (Agrees moves) (runProgram runtime registry executable mapping limit regs state)
      (runProgram runtime' registry executable mapping' limit regs twin) :=
  (alike apart mirrors).runProgram sameSyscalls steps steps' registry limit regs agrees

open InstructionExecutor

/-- The regions of one place moved to another. -/
def shifts : List Relocation :=
  List.zipWith Relocation.mk (mappedRegions 0x1000 scriptHost 49)
    [0x2000, shiftedHost.stackAddr, shiftedHost.heapAddr, shiftedHost.bufferAddr]

theorem run_depends_on_regions_shifted :
    let runtime := mappedRuntime 0x1000 scriptHost 49 storingProgram
    let runtime' := mappedRuntime 0x2000 shiftedHost 49 storingProgram
    PairedOutcomes (Agrees shifts)
      (runProgram runtime [] () (.ofRegions (shifts.map region)) 3 0 ⟨InvokeContext.new, fun _ => 0⟩)
      (runProgram runtime' [] () (.ofRegions (shifts.map moved)) 3 0
        ⟨InvokeContext.new, fun hostAddr => if hostAddr < 0x2000 then 9 else 0⟩) := by
  intro runtime runtime'
  have first : HostsApart (mappedRegions 0x1000 scriptHost 49) :=
    hostsApart_mappedRegions (by decide) (by decide) (by decide)
  have second : HostsApart (mappedRegions 0x2000 shiftedHost 49) :=
    hostsApart_mappedRegions (by decide) (by decide) (by decide)
  have steps : StepsThrough runtime (.ofRegions (shifts.map region)) () storingProgram := fun _ _ => rfl
  have steps' : StepsThrough runtime' (.ofRegions (shifts.map moved)) () storingProgram := fun _ _ => rfl
  have sameSyscalls : runtime'.toSyscallRuntime = runtime.toSyscallRuntime := rfl
  have apart : Apart shifts := apart_iff.mpr ⟨first, second⟩
  refine run_depends_on_regions sameSyscalls steps steps' apart (ofRegions_mirrors shifts) [] 3 0 ⟨rfl, ?_⟩
  intro move member offset _
  have beyond : 0x2000 ≤ move.newHostAddr := by
    have every : ∀ move ∈ shifts, 0x2000 ≤ move.newHostAddr := by decide
    exact every move member
  exact if_neg (by omega)

end Relocation

end BpfSimulator
