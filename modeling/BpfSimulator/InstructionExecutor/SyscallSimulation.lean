import BpfSimulator.Foundation.Simulation
import BpfSimulator.InstructionExecutor.Syscalls

/-! What the syscalls rely on of memory: that a range read through the mapping
holds the same bytes, that a range may be written through it, and whether two
ranges overlap. Two machines that are alike in this cannot be told apart by
syscalls. -/

set_option autoImplicit false

namespace BpfSimulator.Syscalls

open Foundation

variable {Log : Type}

/-- The states of two machines look the same through their mappings. `twins`
pairs the host ranges that stand for one virtual range. -/
structure Alike (mapping mapping' : MemoryMapping) (twins : AccessType → Nat → Nat → Nat → Prop)
    (related : SyscallState Log → SyscallState Log → Prop) : Prop where
  maps : ∀ access vmAddr len, 0 < len →
    Agree (twins access len) (mapping.map access vmAddr len) (mapping'.map access vmAddr len)
  part : ∀ {access len host twin} offset partLen, twins access len host twin → offset + partLen ≤ len →
    twins access partLen (host + offset) (twin + offset)
  nonoverlapping : ∀ {len host twin len' host' twin'}, 0 < len → 0 < len' → twins .store len host twin →
    twins .store len' host' twin' → isNonoverlapping twin len twin' len' = isNonoverlapping host len host' len'
  context : ∀ {state twin}, related state twin → twin.context = state.context
  read : ∀ {state twin len host host'}, related state twin → twins .load len host host' →
    twin.memory.read host' len = state.memory.read host len
  write : ∀ {state twin bytes host host'}, related state twin → twins .store bytes.length host host' →
    related { state with memory := state.memory.write host bytes }
      { twin with memory := twin.memory.write host' bytes }
  withContext : ∀ {state twin}, related state twin → ∀ context,
    related { state with context } { twin with context }

/-- Slices of `count` elements that stand for one virtual range. -/
structure TwinSlices (twins : AccessType → Nat → Nat → Nat → Prop) (access : AccessType) (size count : Nat)
    (slice twin : HostSlice) : Prop where
  len : slice.len = count
  twinLen : twin.len = count
  hosts : count ≠ 0 → twins access (saturatingMul count size) slice.hostAddr twin.hostAddr

theorem TwinSlices.bytes {twins : AccessType → Nat → Nat → Nat → Prop} {access : AccessType} {count : Nat}
    {slice twin : HostSlice} (paired : TwinSlices twins access byteLayout.size count slice twin)
    (nonempty : count ≠ 0) (representable : count ≤ u64Max) : twins access count slice.hostAddr twin.hostAddr := by
  have hosts := paired.hosts nonempty
  rwa [saturatingMul, byteLayout, Nat.mul_one, Nat.min_eq_left representable] at hosts

theorem byteLayout_sized : 0 < byteLayout.size := Nat.one_pos

section Alike

variable {mapping mapping' : MemoryMapping} {twins : AccessType → Nat → Nat → Nat → Prop}
  {related : SyscallState Log → SyscallState Log → Prop} (alike : Alike mapping mapping' twins related)

include alike

theorem Alike.translate (access : AccessType) (vmAddr : Nat) {len : Nat} (positive : 0 < len) :
    Agree (twins access len) (translate mapping access vmAddr len) (translate mapping' access vmAddr len) := by
  have agree := alike.maps access vmAddr len positive
  unfold Syscalls.translate
  generalize mapping.map access vmAddr len = found at agree ⊢
  generalize mapping'.map access vmAddr len = found' at agree ⊢
  cases agree with
  | ok paired => exact .ok paired
  | error => exact .error

theorem Alike.translateTypeInner {layout : TypeLayout} (sized : 0 < layout.size) (access : AccessType)
    (vmAddr : Nat) :
    Agree (twins access layout.size) (translateTypeInner layout mapping access vmAddr false)
      (translateTypeInner layout mapping' access vmAddr false) := by
  have agree := alike.translate access vmAddr sized
  unfold Syscalls.translateTypeInner
  generalize Syscalls.translate mapping access vmAddr layout.size = found at agree ⊢
  generalize Syscalls.translate mapping' access vmAddr layout.size = found' at agree ⊢
  cases agree with
  | ok paired => exact .ok paired
  | error => exact .error

theorem Alike.translateSliceInner {layout : TypeLayout} (sized : 0 < layout.size) (access : AccessType)
    (vmAddr len : Nat) (checkSize : Bool) :
    Agree (TwinSlices twins access layout.size len)
      (translateSliceInner layout mapping access vmAddr len false checkSize)
      (translateSliceInner layout mapping' access vmAddr len false checkSize) := by
  unfold Syscalls.translateSliceInner
  refine .ite (fun empty => ?_) fun nonempty => .ite (fun _ => .error) fun _ => ?_
  · subst empty
    exact .ok ⟨rfl, rfl, fun nonempty => absurd rfl nonempty⟩
  · have agree := alike.translate access vmAddr (saturatingMul_pos (Nat.pos_of_ne_zero nonempty) sized)
    generalize Syscalls.translate mapping access vmAddr (saturatingMul len layout.size) = found at agree ⊢
    generalize Syscalls.translate mapping' access vmAddr (saturatingMul len layout.size) = found' at agree ⊢
    cases agree with
    | ok paired => exact .ok ⟨rfl, rfl, fun _ => paired⟩
    | error => exact .error

theorem Alike.readSlice {state twin : SyscallState Log} (kept : related state twin) {count : Nat}
    (representable : count ≤ u64Max) {slice slice' : HostSlice}
    (paired : TwinSlices twins .load byteLayout.size count slice slice') :
    readSlice twin.memory slice' = readSlice state.memory slice := by
  rw [Syscalls.readSlice, Syscalls.readSlice, paired.len, paired.twinLen]
  cases count with
  | zero => rfl
  | succ count => exact alike.read kept (paired.bytes (Nat.succ_ne_zero count) representable)

theorem Alike.panic (file : Nat) {len : Nat} (representable : len ≤ u64Max) (line column : Nat) :
    Simulates related Eq (syscallPanic mapping file len line column) (syscallPanic mapping' file len line column) := by
  unfold syscallPanic
  refine .bind .get fun _ _ _ => ?_
  refine .bind (.inspecting (alike.translateSliceInner byteLayout_sized .load file len false)) fun _ _ paired => ?_
  refine .bind .get fun state twin kept => ?_
  rw [alike.readSlice kept representable paired]
  dsimp only
  split
  · exact .throw _
  · exact .throw _

theorem Alike.translateStringAndDo (addr : Nat) {len : Nat} (representable : len ≤ u64Max) (stop : Bool)
    {work : String → SyscallM Log Nat} (worked : ∀ text, Simulates related Eq (work text) (work text)) :
    Simulates related Eq (translateStringAndDo mapping addr len false false stop work)
      (translateStringAndDo mapping' addr len false false stop work) := by
  unfold Syscalls.translateStringAndDo
  refine .bind (.inspecting (alike.translateSliceInner byteLayout_sized .load addr len false)) fun _ _ paired => ?_
  refine .bind .get fun state twin kept => ?_
  rw [alike.readSlice kept representable paired]
  dsimp only
  split
  · exact worked _
  · exact .throw _

theorem Alike.log (runtime : SyscallRuntime Log) (addr : Nat) {len : Nat} (representable : len ≤ u64Max) :
    Simulates related Eq (syscallLog runtime mapping addr len) (syscallLog runtime mapping' addr len) := by
  unfold syscallLog
  refine .bind .get fun _ _ _ => .bind (alike.translateStringAndDo addr representable true fun text => ?_)
    fun _ _ _ => .pure rfl
  refine .bind (.modify fun state twin kept => ?_) fun _ _ _ => .pure rfl
  rw [alike.context kept]
  exact alike.withContext kept _

theorem Alike.memcpy (dstAddr srcAddr : Nat) {n : Nat} (representable : n ≤ u64Max) :
    Simulates related Eq (syscallMemcpy mapping dstAddr srcAddr n) (syscallMemcpy mapping' dstAddr srcAddr n) := by
  unfold syscallMemcpy memmove
  refine .ite (fun _ => .throw _) fun _ => .bind .get fun _ _ _ => ?_
  refine .bind (.inspecting (alike.translateSliceInner byteLayout_sized .store dstAddr n false)) fun dst dst' pairedDst => ?_
  refine .bind (.inspecting (alike.translateSliceInner byteLayout_sized .load srcAddr n false)) fun src src' pairedSrc => ?_
  refine .bind (.modify fun state twin kept => ?_) fun _ _ _ => .pure rfl
  have same := alike.readSlice kept representable pairedSrc
  rw [Syscalls.readSlice, Syscalls.readSlice, pairedSrc.len, pairedSrc.twinLen] at same
  rw [same]
  cases n with
  | zero => simpa only [ByteMemory.read_zero, ByteMemory.write_nil] using kept
  | succ n =>
      refine alike.write kept ?_
      rw [ByteMemory.length_read]
      exact pairedDst.bytes (Nat.succ_ne_zero n) representable

theorem Alike.setReturnData (addr : Nat) {len : Nat} (representable : len ≤ u64Max) :
    Simulates related Eq (syscallSetReturnData mapping addr len) (syscallSetReturnData mapping' addr len) := by
  unfold syscallSetReturnData
  refine .ite (fun _ => .throw _) fun _ => .bind .get fun state twin kept => ?_
  have data : Agree Eq (readReturnData mapping state addr len) (readReturnData mapping' twin addr len) := by
    unfold readReturnData
    refine .ite (fun _ => .ok rfl) fun _ => ?_
    have agree := alike.translateSliceInner byteLayout_sized .load addr len false
    dsimp only [InvokeContext.getCheckAligned, InvokeContext.getCheckSize, translateSlice]
    generalize Syscalls.translateSliceInner byteLayout mapping .load addr len false false = found at agree ⊢
    generalize Syscalls.translateSliceInner byteLayout mapping' .load addr len false false = found' at agree ⊢
    cases agree with
    | ok paired => exact .ok (alike.readSlice kept representable paired).symm
    | error => exact .error
  refine .bind (.inspecting data) fun returnData returnData' same => ?_
  subst same
  refine .bind (.modify fun state twin kept => ?_) fun _ _ _ => .pure rfl
  rw [alike.context kept]
  exact alike.withContext kept _

theorem Alike.getClockSysvar (varAddr : Nat) :
    Simulates related Eq (syscallGetClockSysvar mapping varAddr) (syscallGetClockSysvar mapping' varAddr) := by
  unfold syscallGetClockSysvar getSysvar
  refine .bind .get fun state twin kept => ?_
  rw [alike.context kept]
  refine .bind (.inspecting (alike.translateTypeInner (by decide) .store varAddr)) fun var var' paired => ?_
  refine .bind (.inspecting (agree_eq_iff.mpr rfl)) fun clock clock' same => ?_
  subst same
  refine .bind (.modify fun state twin kept => ?_) fun _ _ _ => .pure rfl
  refine alike.write kept ?_
  rwa [Clock.length_toBytes]

theorem Alike.storeReturnData (returnDataAddr : Nat) {length : Nat} (positive : 0 < length)
    (representable : length ≤ u64Max) (programIdAddr : Nat) (programId : Pubkey) (returnData : List UInt8) :
    Simulates related Eq (storeReturnData mapping returnDataAddr length programIdAddr programId returnData false false)
      (storeReturnData mapping' returnDataAddr length programIdAddr programId returnData false false) := by
  unfold Syscalls.storeReturnData
  refine .bind (.inspecting (alike.translateSliceInner byteLayout_sized .store returnDataAddr length false))
    fun toSlice toSlice' paired => ?_
  have hosts := paired.bytes (Nat.pos_iff_ne_zero.mp positive) representable
  rw [paired.len, paired.twinLen]
  refine .ite (fun _ => .throw _) fun enough => .ite (fun _ => .throw _) fun _ => ?_
  have taken : (returnData.take length).length = length := by
    rw [List.length_take, Nat.min_eq_left (Nat.le_of_not_lt enough)]
  refine .bind (.modify fun state twin kept => alike.write kept ?_) fun _ _ _ => ?_
  · rwa [taken]
  · refine .bind (.inspecting (alike.translateTypeInner (by decide) .store programIdAddr))
      fun result result' pairedId => ?_
    change twins .store Pubkey.sizeOf result result' at pairedId
    rw [alike.nonoverlapping positive (by decide) hosts pairedId]
    refine .ite (fun _ => .throw _) fun _ => .modify fun state twin kept => alike.write kept ?_
    rwa [Pubkey.length_bytes]

theorem Alike.getReturnData (returnDataAddr : Nat) {length : Nat} (representable : length ≤ u64Max)
    (programIdAddr : Nat) :
    Simulates related Eq (syscallGetReturnData mapping returnDataAddr length programIdAddr)
      (syscallGetReturnData mapping' returnDataAddr length programIdAddr) := by
  unfold syscallGetReturnData
  refine .bind .get fun state twin kept => ?_
  rw [alike.context kept]
  refine .ite (fun something => ?_) fun _ => .pure rfl
  refine .bind (alike.storeReturnData returnDataAddr (Nat.pos_of_ne_zero something) ?_ programIdAddr _ _)
    fun _ _ _ => .pure rfl
  exact Nat.le_trans (Nat.min_le_left _ _) representable

theorem Alike.storeProgramAddress (addressAddr bumpSeedAddr : Nat) (bumpSeed : UInt8) (newAddress : Pubkey) :
    Simulates related Eq (storeProgramAddress mapping addressAddr bumpSeedAddr bumpSeed newAddress)
      (storeProgramAddress mapping' addressAddr bumpSeedAddr bumpSeed newAddress) := by
  unfold Syscalls.storeProgramAddress
  refine .bind (.inspecting (alike.translateTypeInner byteLayout_sized .store bumpSeedAddr)) fun bump bump' pairedBump => ?_
  refine .bind (.inspecting (alike.translateSliceInner byteLayout_sized .store addressAddr Pubkey.sizeOf false))
    fun address address' paired => ?_
  have hosts := paired.bytes (by decide) (by decide)
  change twins .store 1 bump bump' at pairedBump
  rw [alike.nonoverlapping Nat.one_pos (by decide) pairedBump hosts]
  refine .ite (fun _ => .throw _) fun _ => ?_
  refine .bind (.modify fun state twin kept => alike.write kept pairedBump) fun _ _ _ => ?_
  refine .bind (.modify fun state twin kept => alike.write kept ?_) fun _ _ _ => .pure rfl
  rwa [Pubkey.length_bytes]

theorem Alike.untranslatedSeed {state twin : SyscallState Log} (kept : related state twin) {count : Nat}
    (few : count ≤ maxSeeds) {seeds seeds' : HostSlice}
    (paired : TwinSlices twins .load sliceLayout.size count seeds seeds') {index : Nat} (bound : index < count) :
    untranslatedSeed twin.memory seeds' index = untranslatedSeed state.memory seeds index := by
  have hosts := paired.hosts (by omega)
  have total : saturatingMul count sliceLayout.size = count * 16 := by
    simp only [saturatingMul, sliceLayout, maxSeeds, u64Max] at few ⊢
    omega
  rw [total] at hosts
  have pointer := alike.read kept (alike.part (16 * index) 8 hosts (by omega))
  have length := alike.read kept (alike.part (16 * index + 8) 8 hosts (by omega))
  rw [← Nat.add_assoc, ← Nat.add_assoc] at length
  simp only [Syscalls.untranslatedSeed, sliceLayout, pointer, length]

/-- Slices for one seed. -/
def TwinSeeds (twins : AccessType → Nat → Nat → Nat → Prop) (slice twin : HostSlice) : Prop :=
  ∃ count ≤ maxSeedLen, TwinSlices twins .load byteLayout.size count slice twin

theorem Alike.translateSeed (seed : Nat × Nat) :
    Agree (TwinSeeds twins) (translateSeed mapping false false seed) (translateSeed mapping' false false seed) := by
  unfold Syscalls.translateSeed
  refine .ite (fun _ => .error) fun short => ?_
  exact .mono (fun _ _ paired => ⟨_, Nat.le_of_not_lt short, paired⟩)
    (alike.translateSliceInner byteLayout_sized .load _ _ false)

theorem Alike.translateAndCheckProgramAddressInputs {state twin : SyscallState Log} (kept : related state twin)
    (seedsAddr seedsLen programIdAddr : Nat) :
    Agree (fun inputs inputs' => List.Forall₂ (TwinSeeds twins) inputs.1 inputs'.1 ∧
        twins .load pubkeyLayout.size inputs.2 inputs'.2)
      (translateAndCheckProgramAddressInputs state.memory seedsAddr seedsLen programIdAddr mapping false false)
      (translateAndCheckProgramAddressInputs twin.memory seedsAddr seedsLen programIdAddr mapping' false false) := by
  unfold Syscalls.translateAndCheckProgramAddressInputs
  refine .bind (alike.translateSliceInner (by decide) .load seedsAddr seedsLen false) fun seeds seeds' paired => ?_
  rw [paired.len, paired.twinLen]
  refine .ite (fun _ => .error) fun few => ?_
  have checked : ∀ index ∈ List.range seedsLen, Agree (TwinSeeds twins)
      (Syscalls.translateSeed mapping false false (Syscalls.untranslatedSeed state.memory seeds index))
      (Syscalls.translateSeed mapping' false false (Syscalls.untranslatedSeed twin.memory seeds' index)) := by
    intro index member
    rw [alike.untranslatedSeed kept (Nat.le_of_not_lt few) paired (List.mem_range.mp member)]
    exact alike.translateSeed _
  exact .bind (.mapM checked) fun _ _ pairedSeeds =>
    .bind (alike.translateTypeInner (by decide) .load programIdAddr) fun _ _ pairedId => .ok ⟨pairedSeeds, pairedId⟩

theorem Alike.readSeeds {state twin : SyscallState Log} (kept : related state twin) {seeds seeds' : List HostSlice}
    (paired : List.Forall₂ (TwinSeeds twins) seeds seeds') :
    seeds'.map (Syscalls.readSlice twin.memory) = seeds.map (Syscalls.readSlice state.memory) := by
  induction paired with
  | nil => rfl
  | cons head _ ih =>
      obtain ⟨count, short, pairedSeed⟩ := head
      rw [List.map_cons, List.map_cons, ih, alike.readSlice kept (Nat.le_trans short (by decide)) pairedSeed]

theorem Alike.readPubkey {state twin : SyscallState Log} (kept : related state twin) {host host' : Nat}
    (paired : twins .load pubkeyLayout.size host host') :
    readPubkey twin.memory host' = readPubkey state.memory host := by
  have same := alike.read kept paired
  change twin.memory.read host' 32 = state.memory.read host 32 at same
  simp only [Syscalls.readPubkey, same]

theorem Alike.tryBumpSeeds (runtime : SyscallRuntime Log) {seeds seeds' : List HostSlice}
    (pairedSeeds : List.Forall₂ (TwinSeeds twins) seeds seeds') {programId programId' : Nat}
    (pairedId : twins .load pubkeyLayout.size programId programId') (addressAddr bumpSeedAddr remaining : Nat)
    (bumpSeed : UInt8) :
    Simulates related Eq
      (tryBumpSeeds runtime mapping seeds programId addressAddr bumpSeedAddr remaining bumpSeed)
      (tryBumpSeeds runtime mapping' seeds' programId' addressAddr bumpSeedAddr remaining bumpSeed) := by
  induction remaining generalizing bumpSeed with
  | zero => exact .pure rfl
  | succ remaining ih =>
      unfold Syscalls.tryBumpSeeds
      refine .bind .get fun state twin kept => ?_
      dsimp only
      rw [alike.readSeeds kept pairedSeeds, alike.readPubkey kept pairedId]
      split
      · exact alike.storeProgramAddress addressAddr bumpSeedAddr bumpSeed _
      · exact ih _

theorem Alike.tryFindProgramAddress (runtime : SyscallRuntime Log)
    (seedsAddr seedsLen programIdAddr addressAddr bumpSeedAddr : Nat) :
    Simulates related Eq
      (syscallTryFindProgramAddress runtime mapping seedsAddr seedsLen programIdAddr addressAddr bumpSeedAddr)
      (syscallTryFindProgramAddress runtime mapping' seedsAddr seedsLen programIdAddr addressAddr bumpSeedAddr) := by
  unfold syscallTryFindProgramAddress
  refine .bind .get fun state twin kept => ?_
  refine .bind (.inspecting (alike.translateAndCheckProgramAddressInputs kept seedsAddr seedsLen programIdAddr))
    fun inputs inputs' paired => ?_
  exact alike.tryBumpSeeds runtime paired.1 paired.2 addressAddr bumpSeedAddr 255 255

/-- No syscall tells two such machines apart. -/
theorem Alike.invoke (runtime : SyscallRuntime Log) (syscall : Syscall) (args : SyscallArgs) :
    Simulates related Eq (syscall.invoke runtime mapping args) (syscall.invoke runtime mapping' args) := by
  have representable : ∀ word : UInt64, word.toNat ≤ u64Max := fun word => Nat.le_pred_of_lt word.toNat_lt
  cases syscall with
  | abort => exact .throw _
  | panic => exact alike.panic _ (representable _) _ _
  | log => exact alike.log runtime _ (representable _)
  | tryFindProgramAddress => exact alike.tryFindProgramAddress runtime _ _ _ _ _
  | getClockSysvar => exact alike.getClockSysvar _
  | memcpy => exact alike.memcpy _ _ (representable _)
  | setReturnData => exact alike.setReturnData _ (representable _)
  | getReturnData => exact alike.getReturnData _ (representable _) _

end Alike

end BpfSimulator.Syscalls
