import Mathlib.Order.Bounds.Basic
import BpfSimulator.InstructionExecutor.SyscallProperties

/-! The search for a program address. It tries the bumps from 255 down to 1 and
stores the first that derives an address, which is the greatest. -/

set_option autoImplicit false

namespace BpfSimulator.Syscalls

open Foundation

variable {Log : Type}

/-- What a bump derives from the seeds and the program id as they lie in memory. -/
def derive (runtime : SyscallRuntime Log) (memory : ByteMemory) (seeds : List HostSlice) (programId : Nat)
    (bump : Nat) : Option Pubkey :=
  runtime.createProgramAddress (seeds.map (readSlice memory) ++ [[UInt8.ofNat bump]]) (readPubkey memory programId)

def derivingBumps (runtime : SyscallRuntime Log) (memory : ByteMemory) (seeds : List HostSlice) (programId limit : Nat) :
    Set Nat :=
  {bump | (1 ≤ bump ∧ bump ≤ limit) ∧ derive runtime memory seeds programId bump ≠ none}

section Search

variable {runtime : SyscallRuntime Log} {mapping : MemoryMapping} {seeds : List HostSlice} {programId : Nat}

theorem derivingBumps_succ {memory : ByteMemory} {limit : Nat}
    (failed : derive runtime memory seeds programId (limit + 1) = none) :
    derivingBumps runtime memory seeds programId (limit + 1) = derivingBumps runtime memory seeds programId limit := by
  ext bump
  constructor
  · intro member
    obtain ⟨⟨positive, within⟩, derived⟩ := member
    have different : bump ≠ limit + 1 := by
      rintro rfl
      exact derived failed
    exact ⟨⟨positive, by omega⟩, derived⟩
  · intro member
    obtain ⟨⟨positive, within⟩, derived⟩ := member
    exact ⟨⟨positive, by omega⟩, derived⟩

theorem nextBump {bump : Nat} (small : bump + 1 ≤ 255) :
    (if UInt8.ofNat (bump + 1) = 0 then 0 else UInt8.ofNat (bump + 1) - 1) = UInt8.ofNat bump := by
  have next : UInt8.ofNat (bump + 1) = UInt8.ofNat bump + 1 := UInt8.ofNat_add bump 1
  have positive : UInt8.ofNat (bump + 1) ≠ 0 := by
    intro zero
    have value := congrArg UInt8.toNat zero
    rw [UInt8.toNat_ofNat', UInt8.toNat_zero] at value
    omega
  rw [if_neg positive, next, UInt8.add_sub_cancel]

theorem tryBumpSeeds_failed (addressAddr bumpSeedAddr : Nat) {state : SyscallState Log} {limit : Nat}
    (small : limit + 1 ≤ 255) (failed : derive runtime state.memory seeds programId (limit + 1) = none) :
    tryBumpSeeds runtime mapping seeds programId addressAddr bumpSeedAddr (limit + 1) (UInt8.ofNat (limit + 1)) state =
      tryBumpSeeds runtime mapping seeds programId addressAddr bumpSeedAddr limit (UInt8.ofNat limit) state := by
  rw [tryBumpSeeds, nextBump small, bind_run_ok (get_run state)]
  unfold derive at failed
  rw [failed]

theorem tryBumpSeeds_derived (addressAddr bumpSeedAddr : Nat) {state : SyscallState Log} {limit : Nat}
    {address : Pubkey} (derived : derive runtime state.memory seeds programId (limit + 1) = some address) :
    tryBumpSeeds runtime mapping seeds programId addressAddr bumpSeedAddr (limit + 1) (UInt8.ofNat (limit + 1)) state =
      storeProgramAddress mapping addressAddr bumpSeedAddr (UInt8.ofNat (limit + 1)) address state := by
  rw [tryBumpSeeds, bind_run_ok (get_run state)]
  unfold derive at derived
  rw [derived]

/-- The search ends with the greatest bump that derives an address, or finds that there is none. -/
theorem tryBumpSeeds_cases (addressAddr bumpSeedAddr : Nat) (state : SyscallState Log) {limit : Nat}
    (small : limit ≤ 255) :
    derivingBumps runtime state.memory seeds programId limit = ∅ ∧
      tryBumpSeeds runtime mapping seeds programId addressAddr bumpSeedAddr limit (UInt8.ofNat limit) state =
        .ok 1 state ∨
    ∃ bump address, IsGreatest (derivingBumps runtime state.memory seeds programId limit) bump ∧
      derive runtime state.memory seeds programId bump = some address ∧
      tryBumpSeeds runtime mapping seeds programId addressAddr bumpSeedAddr limit (UInt8.ofNat limit) state =
        storeProgramAddress mapping addressAddr bumpSeedAddr (UInt8.ofNat bump) address state := by
  induction limit with
  | zero =>
      refine .inl ⟨Set.eq_empty_of_forall_notMem ?_, rfl⟩
      intro bump member
      obtain ⟨⟨positive, within⟩, _⟩ := member
      omega
  | succ limit ih =>
      cases derived : derive runtime state.memory seeds programId (limit + 1) with
      | none =>
          rw [derivingBumps_succ derived, tryBumpSeeds_failed addressAddr bumpSeedAddr small derived]
          exact ih (by omega)
      | some address =>
          refine .inr ⟨limit + 1, address, ⟨⟨⟨by omega, by omega⟩, ?_⟩, fun other member => member.1.2⟩, derived,
            tryBumpSeeds_derived addressAddr bumpSeedAddr derived⟩
          rw [derived]
          exact Option.some_ne_none address

/-- Where the two outputs are stored: both places are writable and they are disjoint. -/
structure Outputs (mapping : MemoryMapping) (addressAddr bumpSeedAddr addressHost bumpHost : Nat) : Prop where
  bump : mapping.map .store bumpSeedAddr 1 = .ok bumpHost
  address : mapping.map .store addressAddr 32 = .ok addressHost
  disjoint : bumpHost < addressHost ∨ addressHost + 32 ≤ bumpHost

/-- The bump and the address are stored at the two places and nowhere else. -/
structure StoredAddress (before after : SyscallState Log) (addressHost bumpHost bump : Nat) (address : Pubkey) :
    Prop where
  context : after.context = before.context
  bump : after.memory bumpHost = UInt8.ofNat bump
  address : after.memory.read addressHost 32 = address.bytes
  frame : ∀ target, target ≠ bumpHost → target < addressHost ∨ addressHost + 32 ≤ target →
    after.memory target = before.memory target

theorem storedAddress_writes (bump : Nat) (address : Pubkey) (state : SyscallState Log) {addressHost bumpHost : Nat}
    (disjoint : bumpHost < addressHost ∨ addressHost + 32 ≤ bumpHost) :
    StoredAddress state { state with memory :=
      (state.memory.write bumpHost [UInt8.ofNat bump]).write addressHost address.bytes } addressHost bumpHost bump
      address := by
  have length := Pubkey.length_bytes address
  let bumped := state.memory.write bumpHost [UInt8.ofNat bump]
  refine ⟨rfl, ?_, ?_, ?_⟩
  · have kept : bumped.write addressHost address.bytes bumpHost = bumped bumpHost :=
      ByteMemory.write_outside (by omega)
    have stored : bumped (bumpHost + 0) = UInt8.ofNat bump := ByteMemory.write_inside Nat.one_pos
    exact kept.trans stored
  · have written : (bumped.write addressHost address.bytes).read addressHost address.bytes.length = address.bytes :=
      ByteMemory.read_write_same
    rwa [length] at written
  · intro target notBump outside
    have kept : bumped.write addressHost address.bytes target = bumped target := ByteMemory.write_outside (by omega)
    refine kept.trans (ByteMemory.write_outside ?_)
    simp only [List.length_singleton]
    omega

theorem storeProgramAddress_cases (mapping : MemoryMapping) (addressAddr bumpSeedAddr bump : Nat) (address : Pubkey)
    (state : SyscallState Log) :
    (∃ addressHost bumpHost after, Outputs mapping addressAddr bumpSeedAddr addressHost bumpHost ∧
      storeProgramAddress mapping addressAddr bumpSeedAddr (UInt8.ofNat bump) address state = .ok 0 after ∧
      StoredAddress state after addressHost bumpHost bump address) ∨
    (∀ addressHost bumpHost, ¬ Outputs mapping addressAddr bumpSeedAddr addressHost bumpHost) ∧
      ∃ error, storeProgramAddress mapping addressAddr bumpSeedAddr (UInt8.ofNat bump) address state =
        .error error state := by
  unfold storeProgramAddress translateTypeMut translateSliceMut
  rw [translateTypeInner_unchecked, translateSliceInner_bytes mapping .store addressAddr (by decide) (by decide)]
  cases bumpMapped : mapping.map .store bumpSeedAddr byteLayout.size with
  | error error =>
      refine .inr ⟨fun addressHost bumpHost outputs => ?_, _, rfl⟩
      cases outputs.bump.symm.trans bumpMapped
  | ok bumpHost =>
      cases addressMapped : mapping.map .store addressAddr Pubkey.sizeOf with
      | error error =>
          refine .inr ⟨fun addressHost bumpHost outputs => ?_, _, rfl⟩
          cases outputs.address.symm.trans addressMapped
      | ok addressHost =>
          have overlap : isNonoverlapping bumpHost 1 addressHost Pubkey.sizeOf = true ↔
              bumpHost + 1 ≤ addressHost ∨ addressHost + 32 ≤ bumpHost :=
            isNonoverlapping_iff (by decide) (by decide)
          cases checked : isNonoverlapping bumpHost 1 addressHost Pubkey.sizeOf with
          | false =>
              refine .inr ⟨fun otherAddress otherBump outputs => ?_, .syscall .copyOverlapping, ?_⟩
              · cases outputs.bump.symm.trans bumpMapped
                cases outputs.address.symm.trans addressMapped
                rw [overlap.mpr outputs.disjoint] at checked
                cases checked
              · rw [bind_run_ok (inspecting_ok_run _ _), bind_run_ok (inspecting_ok_run _ _)]
                simp only [checked]
                rfl
          | true =>
              have disjoint := overlap.mp checked
              refine .inl ⟨addressHost, bumpHost, _, ⟨bumpMapped, addressMapped, disjoint⟩, ?_,
                storedAddress_writes bump address state disjoint⟩
              rw [bind_run_ok (inspecting_ok_run _ _), bind_run_ok (inspecting_ok_run _ _)]
              simp only [checked]
              rfl

end Search

section Translation

variable {runtime : SyscallRuntime Log} {mapping other : MemoryMapping}

def SameLoads (mapping other : MemoryMapping) : Prop :=
  ∀ vmAddr len, other.map .load vmAddr len = mapping.map .load vmAddr len

theorem translateSlice_congr (same : SameLoads mapping other) (layout : TypeLayout) (vmAddr len : Nat)
    (checkAligned checkSize : Bool) :
    translateSlice layout other vmAddr len checkAligned checkSize =
      translateSlice layout mapping vmAddr len checkAligned checkSize := by
  simp only [translateSlice, translateSliceInner, translate, same vmAddr]

theorem translateAndCheckProgramAddressInputs_congr (same : SameLoads mapping other) (memory : ByteMemory)
    (seedsAddr seedsLen programIdAddr : Nat) (checkAligned checkSize : Bool) :
    translateAndCheckProgramAddressInputs memory seedsAddr seedsLen programIdAddr other checkAligned checkSize =
      translateAndCheckProgramAddressInputs memory seedsAddr seedsLen programIdAddr mapping checkAligned
        checkSize := by
  have seed : translateSeed other checkAligned checkSize = translateSeed mapping checkAligned checkSize := by
    funext seed
    simp only [translateSeed, translateSlice_congr same]
  simp only [translateAndCheckProgramAddressInputs, translateSlice_congr same, seed, translateType,
    translateTypeInner, translate, same programIdAddr]

theorem tryFindProgramAddress_cases {state : SyscallState Log} {seedsAddr seedsLen programIdAddr : Nat}
    {seeds : List HostSlice} {programId : Nat}
    (passed : translateAndCheckProgramAddressInputs state.memory seedsAddr seedsLen programIdAddr mapping false false =
      .ok (seeds, programId)) (addressAddr bumpSeedAddr : Nat) :
    let bumps := derivingBumps runtime state.memory seeds programId 255
    let result :=
      syscallTryFindProgramAddress runtime mapping seedsAddr seedsLen programIdAddr addressAddr bumpSeedAddr state
    bumps = ∅ ∧ result = .ok 1 state ∨
    ∃ bump address, IsGreatest bumps bump ∧ derive runtime state.memory seeds programId bump = some address ∧
      result = storeProgramAddress mapping addressAddr bumpSeedAddr (UInt8.ofNat bump) address state := by
  intro bumps result
  have ran : result =
      tryBumpSeeds runtime mapping seeds programId addressAddr bumpSeedAddr 255 (UInt8.ofNat 255) state := by
    simp only [result]
    rw [syscallTryFindProgramAddress, bind_run_ok (get_run state)]
    simp only [passed, bind_run_ok (inspecting_ok_run _ _)]
    rfl
  rw [ran]
  exact tryBumpSeeds_cases addressAddr bumpSeedAddr state (Nat.le_refl 255)

/-- Once the seeds and the program id are translated, the search reports that
there is no address, without a look at the outputs, exactly when no bump from 1
to 255 derives one. Otherwise it stores the greatest such bump and its address,
or fails without an effect when the outputs are not writable and disjoint. -/
theorem program_address_canonical {state : SyscallState Log} {seedsAddr seedsLen programIdAddr : Nat}
    {seeds : List HostSlice} {programId : Nat}
    (passed : translateAndCheckProgramAddressInputs state.memory seedsAddr seedsLen programIdAddr mapping false false =
      .ok (seeds, programId)) :
    let bumps := derivingBumps runtime state.memory seeds programId 255
    let search := fun (mapping : MemoryMapping) addressAddr bumpSeedAddr =>
      syscallTryFindProgramAddress runtime mapping seedsAddr seedsLen programIdAddr addressAddr bumpSeedAddr state
    (bumps = ∅ → ∀ other, SameLoads mapping other → ∀ addressAddr bumpSeedAddr,
      search other addressAddr bumpSeedAddr = .ok 1 state) ∧
    (∀ addressAddr bumpSeedAddr, search mapping addressAddr bumpSeedAddr = .ok 1 state → bumps = ∅) ∧
    (bumps ≠ ∅ → ∃ bump address, IsGreatest bumps bump ∧
      derive runtime state.memory seeds programId bump = some address ∧
      ∀ addressAddr bumpSeedAddr,
        (∀ addressHost bumpHost, Outputs mapping addressAddr bumpSeedAddr addressHost bumpHost →
          ∃ after, search mapping addressAddr bumpSeedAddr = .ok 0 after ∧
            StoredAddress state after addressHost bumpHost bump address) ∧
        ((∀ addressHost bumpHost, ¬ Outputs mapping addressAddr bumpSeedAddr addressHost bumpHost) →
          ∃ error, search mapping addressAddr bumpSeedAddr = .error error state)) := by
  intro bumps search
  refine ⟨?_, ?_, ?_⟩
  · intro none other same addressAddr bumpSeedAddr
    have passedOther := (translateAndCheckProgramAddressInputs_congr same state.memory seedsAddr seedsLen
      programIdAddr false false).trans passed
    rcases tryFindProgramAddress_cases passedOther addressAddr bumpSeedAddr with
      ⟨_, found⟩ | ⟨bump, _, greatest, _⟩
    · exact found
    · have absent : bump ∉ bumps := none ▸ Set.notMem_empty bump
      exact absurd greatest.1 absent
  · intro addressAddr bumpSeedAddr found
    rcases tryFindProgramAddress_cases passed addressAddr bumpSeedAddr with
      ⟨none, _⟩ | ⟨bump, address, _, _, stored⟩
    · exact none
    · have same := stored.symm.trans found
      rcases storeProgramAddress_cases mapping addressAddr bumpSeedAddr bump address state with
        ⟨_, _, _, _, ran, _⟩ | ⟨_, _, ran⟩
      · cases ran.symm.trans same
      · cases ran.symm.trans same
  · intro some
    rcases tryFindProgramAddress_cases passed 0 0 with ⟨none, _⟩ | ⟨bump, address, greatest, derived, _⟩
    · exact absurd none some
    refine ⟨bump, address, greatest, derived, fun addressAddr bumpSeedAddr => ?_⟩
    rcases tryFindProgramAddress_cases passed addressAddr bumpSeedAddr with
      ⟨none, _⟩ | ⟨otherBump, otherAddress, otherGreatest, otherDerived, stored⟩
    · exact absurd none some
    cases otherGreatest.unique greatest
    cases otherDerived.symm.trans derived
    rcases storeProgramAddress_cases mapping addressAddr bumpSeedAddr bump address state with
      ⟨addressHost, bumpHost, after, outputs, ran, storedAddress⟩ | ⟨missing, error, ran⟩
    · constructor
      · intro otherHost otherBumpHost otherOutputs
        cases otherOutputs.address.symm.trans outputs.address
        cases otherOutputs.bump.symm.trans outputs.bump
        exact ⟨after, stored.trans ran, storedAddress⟩
      · intro missing
        exact absurd outputs (missing addressHost bumpHost)
    · constructor
      · intro addressHost bumpHost outputs
        exact absurd outputs (missing addressHost bumpHost)
      · intro _
        exact ⟨error, stored.trans ran⟩

/-- The outputs overlap the program id, and the second bump derives an address. -/
theorem program_address_canonical_overlapping :
    let runtime : SyscallRuntime Unit :=
      { createProgramAddress := fun seeds programId => if seeds = [[254]] then some programId else none
        log := fun collector _ => collector }
    let mapping := MemoryMapping.ofRegions [MemoryRegion.newWritable 0 64 0x100]
    let state : SyscallState Unit := { context := InvokeContext.new, memory := fun _ => 7 }
    ∃ after, syscallTryFindProgramAddress runtime mapping 0 0 0x100 0x110 0x10f state = .ok 0 after ∧
      after.memory 15 = 254 ∧ after.memory.read 16 32 = List.replicate 32 7 := by
  intro runtime mapping state
  have passed : translateAndCheckProgramAddressInputs state.memory 0 0 0x100 mapping false false = .ok ([], 0) := rfl
  have outputs : Outputs mapping 0x110 0x10f 16 15 := ⟨rfl, rfl, by decide⟩
  have derives : derivingBumps runtime state.memory [] 0 255 ≠ ∅ :=
    Set.Nonempty.ne_empty ⟨254, by decide, Option.some_ne_none _⟩
  have search := @program_address_canonical Unit runtime mapping state 0 0 0x100 [] 0 passed
  obtain ⟨bump, address, _, derived, stores⟩ := search.2.2 derives
  obtain ⟨after, ran, stored⟩ := (stores 0x110 0x10f).1 16 15 outputs
  have tested : (if [[UInt8.ofNat bump]] = [[254]] then some (readPubkey state.memory 0) else none) = some address :=
    derived
  by_cases second : [[UInt8.ofNat bump]] = [[254]]
  · rw [if_pos second] at tested
    cases tested
    have value : UInt8.ofNat bump = 254 := List.singleton_inj.mp (List.singleton_inj.mp second)
    exact ⟨after, ran, stored.bump.trans value, stored.address⟩
  · rw [if_neg second] at tested
    cases tested

end Translation

end BpfSimulator.Syscalls
