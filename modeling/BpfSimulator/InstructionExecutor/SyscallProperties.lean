import BpfSimulator.InstructionExecutor.Syscalls

/-! What a failing syscall leaves behind: nothing, except that
`sol_get_return_data` stores the data before it looks at the place for the
program id. -/

set_option autoImplicit false

namespace BpfSimulator.Syscalls

open Foundation

variable {Log : Type} (runtime : SyscallRuntime Log) (mapping : MemoryMapping)

theorem failsClean_memcpy (dstAddr srcAddr n : Nat) :
    FailsClean (syscallMemcpy mapping dstAddr srcAddr n : SyscallM Log Nat) := by
  refine .ite (readOnly_throw _).failsClean ?_
  exact .bind readOnly_get fun _ => .bind (readOnly_inspecting _) fun _ => .bind (readOnly_inspecting _) fun _ =>
    ((total_modify _).bind fun _ => total_pure 0).failsClean

theorem readOnly_panic (file len line column : Nat) :
    ReadOnly (syscallPanic mapping file len line column : SyscallM Log Nat) := by
  refine .bind readOnly_get fun _ => .bind (readOnly_inspecting _) fun _ => .bind readOnly_get fun _ => ?_
  dsimp only
  split
  · exact readOnly_throw _
  · exact readOnly_throw _

theorem failsClean_translateStringAndDo (addr len : Nat) (checkAligned checkSize stop : Bool)
    {work : String → SyscallM Log Nat} (clean : ∀ text, FailsClean (work text)) :
    FailsClean (translateStringAndDo mapping addr len checkAligned checkSize stop work) := by
  refine .bind (readOnly_inspecting _) fun _ => .bind readOnly_get fun _ => ?_
  dsimp only
  split
  · exact clean _
  · exact (readOnly_throw _).failsClean

theorem failsClean_log (addr len : Nat) : FailsClean (syscallLog runtime mapping addr len) := by
  refine .bind readOnly_get fun _ => .bind_total ?_ fun _ => total_pure 0
  exact failsClean_translateStringAndDo mapping addr len _ _ true fun _ =>
    ((total_modify _).bind fun _ => total_pure 0).failsClean

theorem failsClean_storeProgramAddress (addressAddr bumpSeedAddr : Nat) (bumpSeed : UInt8) (newAddress : Pubkey) :
    FailsClean (storeProgramAddress mapping addressAddr bumpSeedAddr bumpSeed newAddress : SyscallM Log Nat) := by
  refine .bind (readOnly_inspecting _) fun _ => .bind (readOnly_inspecting _) fun _ =>
    .ite (readOnly_throw _).failsClean ?_
  exact ((total_modify _).bind fun _ => (total_modify _).bind fun _ => total_pure 0).failsClean

/-- The bump seed loop stores only in its last iteration. -/
theorem failsClean_tryBumpSeeds (seeds : List HostSlice) (programId addressAddr bumpSeedAddr remaining : Nat)
    (bumpSeed : UInt8) :
    FailsClean (tryBumpSeeds runtime mapping seeds programId addressAddr bumpSeedAddr remaining bumpSeed) := by
  induction remaining generalizing bumpSeed with
  | zero => exact (readOnly_pure 1).failsClean
  | succ remaining ih =>
      refine .bind readOnly_get fun state => ?_
      dsimp only
      split
      · exact failsClean_storeProgramAddress mapping addressAddr bumpSeedAddr bumpSeed _
      · exact ih _

theorem failsClean_tryFindProgramAddress (seedsAddr seedsLen programIdAddr addressAddr bumpSeedAddr : Nat) :
    FailsClean (syscallTryFindProgramAddress runtime mapping seedsAddr seedsLen programIdAddr addressAddr
      bumpSeedAddr) :=
  .bind readOnly_get fun _ => .bind (readOnly_inspecting _) fun _ =>
    failsClean_tryBumpSeeds runtime mapping _ _ addressAddr bumpSeedAddr 255 255

theorem failsClean_setReturnData (addr len : Nat) :
    FailsClean (syscallSetReturnData mapping addr len : SyscallM Log Nat) := by
  refine .ite (readOnly_throw _).failsClean (.bind readOnly_get fun _ => .bind (readOnly_inspecting _) fun _ => ?_)
  exact ((total_modify _).bind fun _ => total_pure 0).failsClean

theorem failsClean_getClockSysvar (varAddr : Nat) :
    FailsClean (syscallGetClockSysvar mapping varAddr : SyscallM Log Nat) :=
  .bind readOnly_get fun _ => .bind (readOnly_inspecting _) fun _ => .bind (readOnly_inspecting _) fun _ =>
    ((total_modify _).bind fun _ => total_pure success).failsClean

theorem failsClean_invoke {syscall : Syscall} (other : syscall ≠ .getReturnData) (args : SyscallArgs) :
    FailsClean (syscall.invoke runtime mapping args) := by
  cases syscall with
  | abort => exact (readOnly_throw _).failsClean
  | panic => exact (readOnly_panic mapping _ _ _ _).failsClean
  | log => exact failsClean_log runtime mapping _ _
  | tryFindProgramAddress => exact failsClean_tryFindProgramAddress runtime mapping _ _ _ _ _
  | getClockSysvar => exact failsClean_getClockSysvar mapping _
  | memcpy => exact failsClean_memcpy mapping _ _ _
  | setReturnData => exact failsClean_setReturnData mapping _ _
  | getReturnData => exact absurd rfl other

/-- An aspect of the state that lies outside host memory. -/
def OutsideMemory {τ : Type} (view : SyscallState Log → τ) : Prop :=
  ∀ (state : SyscallState Log) (memory : ByteMemory), view { state with memory } = view state

section Frame

variable {τ : Type} {view : SyscallState Log → τ} (outside : OutsideMemory view)

include outside

theorem keeps_storeReturnData (returnDataAddr length programIdAddr : Nat) (programId : Pubkey)
    (returnData : List UInt8) (checkAligned checkSize : Bool) :
    Keeps view (storeReturnData mapping returnDataAddr length programIdAddr programId returnData checkAligned
      checkSize) := by
  refine .bind ((readOnly_inspecting _).keeps view) fun _ => .ite ((readOnly_throw _).keeps view)
    (.ite ((readOnly_throw _).keeps view) ?_)
  exact .bind (keeps_modify fun state => outside state _) fun _ =>
    .bind ((readOnly_inspecting _).keeps view) fun _ => .ite ((readOnly_throw _).keeps view)
      (keeps_modify fun state => outside state _)

theorem keeps_getReturnData (returnDataAddr length programIdAddr : Nat) :
    Keeps view (syscallGetReturnData mapping returnDataAddr length programIdAddr : SyscallM Log Nat) := by
  refine .bind (readOnly_get.keeps view) fun _ => ?_
  dsimp only
  exact .ite (.bind (keeps_storeReturnData mapping outside _ _ _ _ _ _ _) fun _ => (readOnly_pure _).keeps view)
    ((readOnly_pure _).keeps view)

theorem keeps_memcpy (dstAddr srcAddr n : Nat) :
    Keeps view (syscallMemcpy mapping dstAddr srcAddr n : SyscallM Log Nat) := by
  refine .ite ((readOnly_throw _).keeps view) (.bind (readOnly_get.keeps view) fun _ => ?_)
  exact .bind ((readOnly_inspecting _).keeps view) fun _ => .bind ((readOnly_inspecting _).keeps view) fun _ =>
    .bind (keeps_modify fun state => outside state _) fun _ => (readOnly_pure _).keeps view

theorem keeps_storeProgramAddress (addressAddr bumpSeedAddr : Nat) (bumpSeed : UInt8) (newAddress : Pubkey) :
    Keeps view (storeProgramAddress mapping addressAddr bumpSeedAddr bumpSeed newAddress : SyscallM Log Nat) := by
  refine .bind ((readOnly_inspecting _).keeps view) fun _ => .bind ((readOnly_inspecting _).keeps view) fun _ =>
    .ite ((readOnly_throw _).keeps view) ?_
  exact .bind (keeps_modify fun state => outside state _) fun _ =>
    .bind (keeps_modify fun state => outside state _) fun _ => (readOnly_pure _).keeps view

theorem keeps_tryBumpSeeds (seeds : List HostSlice) (programId addressAddr bumpSeedAddr remaining : Nat)
    (bumpSeed : UInt8) :
    Keeps view (tryBumpSeeds runtime mapping seeds programId addressAddr bumpSeedAddr remaining bumpSeed) := by
  induction remaining generalizing bumpSeed with
  | zero => exact (readOnly_pure 1).keeps view
  | succ remaining ih =>
      refine .bind (readOnly_get.keeps view) fun state => ?_
      dsimp only
      split
      · exact keeps_storeProgramAddress mapping outside addressAddr bumpSeedAddr bumpSeed _
      · exact ih _

theorem keeps_getClockSysvar (varAddr : Nat) :
    Keeps view (syscallGetClockSysvar mapping varAddr : SyscallM Log Nat) :=
  .bind (readOnly_get.keeps view) fun _ => .bind ((readOnly_inspecting _).keeps view) fun _ =>
    .bind ((readOnly_inspecting _).keeps view) fun _ => .bind (keeps_modify fun state => outside state _) fun _ =>
      (readOnly_pure success).keeps view

end Frame

theorem keeps_log {τ : Type} {view : SyscallState Log → τ}
    (unlogged : ∀ (state : SyscallState Log) (write : Log → Log), view { state with context :=
      { state.context with logCollector := state.context.logCollector.map write } } = view state)
    (addr len : Nat) : Keeps view (syscallLog runtime mapping addr len) := by
  refine .bind (readOnly_get.keeps view) fun _ => .bind ?_ fun _ => (readOnly_pure 0).keeps view
  refine .bind ((readOnly_inspecting _).keeps view) fun _ => .bind (readOnly_get.keeps view) fun _ => ?_
  dsimp only
  split
  · exact .bind (keeps_modify fun state => unlogged state _) fun _ => (readOnly_pure 0).keeps view
  · exact (readOnly_throw _).keeps view

theorem keeps_setReturnData {τ : Type} {view : SyscallState Log → τ}
    (kept : ∀ (state : SyscallState Log) (returnData : Pubkey × List UInt8),
      view { state with context := { state.context with returnData } } = view state) (addr len : Nat) :
    Keeps view (syscallSetReturnData mapping addr len : SyscallM Log Nat) := by
  refine .ite ((readOnly_throw _).keeps view) (.bind (readOnly_get.keeps view) fun _ =>
    .bind ((readOnly_inspecting _).keeps view) fun _ => ?_)
  exact .bind (keeps_modify fun state => kept state _) fun _ => (readOnly_pure 0).keeps view

/-- The part of the context that no syscall changes. Logging may write to a
collector but never installs or removes one. -/
def contextFrame (state : SyscallState Log) : SysvarCache × Nat × Pubkey × Bool :=
  (state.context.sysvars, state.context.instructionRemaining, state.context.programId,
    state.context.logCollector.isSome)

theorem keeps_contextFrame_invoke (syscall : Syscall) (args : SyscallArgs) :
    Keeps contextFrame (syscall.invoke runtime mapping args) := by
  have outside : OutsideMemory (contextFrame : SyscallState Log → _) := fun _ _ => rfl
  cases syscall with
  | abort => exact (readOnly_throw _).keeps _
  | panic => exact (readOnly_panic mapping _ _ _ _).keeps _
  | log => exact keeps_log runtime mapping (fun state write => by simp [contextFrame]) _ _
  | tryFindProgramAddress =>
      exact .bind (readOnly_get.keeps _) fun _ => .bind ((readOnly_inspecting _).keeps _) fun _ =>
        keeps_tryBumpSeeds runtime mapping outside _ _ _ _ _ _
  | getClockSysvar => exact keeps_getClockSysvar mapping outside _
  | memcpy => exact keeps_memcpy mapping outside _ _ _
  | setReturnData => exact keeps_setReturnData mapping (fun _ _ => rfl) _ _
  | getReturnData => exact keeps_getReturnData mapping outside _ _ _

theorem keeps_returnData_invoke {syscall : Syscall} (other : syscall ≠ .setReturnData) (args : SyscallArgs) :
    Keeps (fun state => state.context.returnData) (syscall.invoke runtime mapping args) := by
  have outside : OutsideMemory fun state : SyscallState Log => state.context.returnData := fun _ _ => rfl
  cases syscall with
  | abort => exact (readOnly_throw _).keeps _
  | panic => exact (readOnly_panic mapping _ _ _ _).keeps _
  | log => exact keeps_log runtime mapping (fun _ _ => rfl) _ _
  | tryFindProgramAddress =>
      exact .bind (readOnly_get.keeps _) fun _ => .bind ((readOnly_inspecting _).keeps _) fun _ =>
        keeps_tryBumpSeeds runtime mapping outside _ _ _ _ _ _
  | getClockSysvar => exact keeps_getClockSysvar mapping outside _
  | memcpy => exact keeps_memcpy mapping outside _ _ _
  | setReturnData => exact absurd rfl other
  | getReturnData => exact keeps_getReturnData mapping outside _ _ _

def storeData (state : SyscallState Log) (hostAddr length : Nat) : SyscallState Log :=
  { state with memory := state.memory.write hostAddr (state.context.returnData.2.take length) }

def storeBoth (state : SyscallState Log) (hostAddr length programIdAddr : Nat) : SyscallState Log :=
  { state with memory :=
    (storeData state hostAddr length).memory.write programIdAddr state.context.returnData.1.bytes }

def storedLength (state : SyscallState Log) (length : Nat) : Nat :=
  min length state.context.returnData.2.length

variable {state : SyscallState Log} (returnDataAddr programIdAddr : Nat) {length : Nat}

theorem getReturnData_nothing (nothing : storedLength state length = 0) :
    syscallGetReturnData mapping returnDataAddr length programIdAddr state =
      .ok state.context.returnData.2.length state := by
  unfold syscallGetReturnData
  rw [bind_run_ok (get_run _)]
  exact congrFun (if_neg (not_not.mpr nothing)) state

theorem storeReturnData_run (fits : length ≤ u64Max) (something : length ≠ 0)
    (short : length ≤ state.context.returnData.2.length) :
    storeReturnData mapping returnDataAddr length programIdAddr state.context.returnData.1
        state.context.returnData.2 false false state =
      match mapping.map .store returnDataAddr length with
      | .error error => .error (.ebpf error) state
      | .ok hostAddr =>
          match mapping.map .store programIdAddr Pubkey.sizeOf with
          | .error error => .error (.ebpf error) (storeData state hostAddr length)
          | .ok programId =>
              if isNonoverlapping hostAddr length programId Pubkey.sizeOf then
                .ok () (storeBoth state hostAddr length programId)
              else .error (.syscall .copyOverlapping) (storeData state hostAddr length) := by
  have taken : (state.context.returnData.2.take length).length = length := by
    rw [List.length_take, Nat.min_eq_left short]
  unfold storeReturnData
  simp only [translateSliceMut, translateSliceInner_bytes mapping .store returnDataAddr something fits,
    translateTypeMut, translateTypeInner_unchecked]
  cases mapping.map .store returnDataAddr length with
  | error error => rfl
  | ok hostAddr =>
      rw [bind_run_ok (inspecting_ok_run _ _), if_neg (Nat.not_lt.mpr short), if_neg (not_not.mpr taken.symm),
        bind_run_ok (modify_run _ _)]
      simp only [pubkeyLayout]
      cases mapping.map .store programIdAddr Pubkey.sizeOf with
      | error error => rfl
      | ok programId =>
          rw [bind_run_ok (inspecting_ok_run _ _)]
          dsimp only
          cases apart : isNonoverlapping hostAddr length programId Pubkey.sizeOf <;> rfl

theorem getReturnData_something (fits : length ≤ u64Max) (something : storedLength state length ≠ 0) :
    syscallGetReturnData mapping returnDataAddr length programIdAddr state =
      match mapping.map .store returnDataAddr (storedLength state length) with
      | .error error => .error (.ebpf error) state
      | .ok hostAddr =>
          match mapping.map .store programIdAddr Pubkey.sizeOf with
          | .error error => .error (.ebpf error) (storeData state hostAddr (storedLength state length))
          | .ok programId =>
              if isNonoverlapping hostAddr (storedLength state length) programId Pubkey.sizeOf then
                .ok state.context.returnData.2.length
                  (storeBoth state hostAddr (storedLength state length) programId)
              else
                .error (.syscall .copyOverlapping) (storeData state hostAddr (storedLength state length)) := by
  have named : min length state.context.returnData.2.length = storedLength state length := rfl
  have stored := storeReturnData_run mapping returnDataAddr programIdAddr
    (Nat.le_trans (Nat.min_le_left _ _) fits) something (Nat.min_le_right _ _)
  unfold syscallGetReturnData
  rw [bind_run_ok (get_run _)]
  dsimp only [InvokeContext.getCheckAligned, InvokeContext.getCheckSize]
  rw [named] at stored ⊢
  rw [if_pos something]
  cases data : mapping.map .store returnDataAddr (storedLength state length) with
  | error error =>
      rw [data] at stored
      exact bind_run_error stored
  | ok hostAddr =>
      rw [data] at stored
      cases id : mapping.map .store programIdAddr Pubkey.sizeOf with
      | error error =>
          rw [id] at stored
          exact bind_run_error stored
      | ok programId =>
          rw [id] at stored
          dsimp only at stored ⊢
          by_cases apart : isNonoverlapping hostAddr (storedLength state length) programId Pubkey.sizeOf = true
          · rw [if_pos apart] at stored ⊢
            exact bind_run_ok stored
          · rw [if_neg apart] at stored ⊢
            exact bind_run_error stored

/-- A host byte that some access through the mapping reaches. -/
def MappedByte (mapping : MemoryMapping) (hostAddr : Nat) : Prop :=
  ∃ access vmAddr len start, mapping.map access vmAddr len = .ok start ∧ start ≤ hostAddr ∧
    hostAddr < start + len

/-- Nothing that a program or its caller can see has changed. -/
structure NoEffect (mapping : MemoryMapping) (before after : SyscallState Log) : Prop where
  memory : ∀ hostAddr, MappedByte mapping hostAddr → after.memory hostAddr = before.memory hostAddr
  returnData : after.context.returnData = before.context.returnData
  programId : after.context.programId = before.context.programId
  logCollector : after.context.logCollector = before.context.logCollector

theorem NoEffect.refl (state : SyscallState Log) : NoEffect mapping state state :=
  ⟨fun _ _ => rfl, rfl, rfl, rfl⟩

/-- `sol_get_return_data` has data to store and a place for it, and the place
does not hold the data yet. -/
def StoresNewData (mapping : MemoryMapping) (syscall : Syscall) (args : SyscallArgs)
    (state : SyscallState Log) : Prop :=
  syscall = .getReturnData ∧ storedLength state args.arg2.toNat ≠ 0 ∧
    ∃ hostAddr, mapping.map .store args.arg1.toNat (storedLength state args.arg2.toNat) = .ok hostAddr ∧
      state.memory.read hostAddr (storedLength state args.arg2.toNat) ≠
        state.context.returnData.2.take (storedLength state args.arg2.toNat)

theorem noEffect_storeData_iff {hostAddr vmAddr : Nat}
    (mapped : mapping.map .store vmAddr (storedLength state length) = .ok hostAddr) :
    NoEffect mapping state (storeData state hostAddr (storedLength state length)) ↔
      state.memory.read hostAddr (storedLength state length) =
        state.context.returnData.2.take (storedLength state length) := by
  have taken : (state.context.returnData.2.take (storedLength state length)).length =
      storedLength state length := by
    rw [List.length_take]
    exact Nat.min_eq_left (Nat.min_le_right _ _)
  have written : (storeData state hostAddr (storedLength state length)).memory.read hostAddr
      (state.context.returnData.2.take (storedLength state length)).length =
        state.context.returnData.2.take (storedLength state length) := ByteMemory.read_write_same
  constructor
  · intro noEffect
    have same : (storeData state hostAddr (storedLength state length)).memory.read hostAddr
        (storedLength state length) = state.memory.read hostAddr (storedLength state length) := by
      apply ByteMemory.read_congr
      intro offset bound
      exact noEffect.memory _ ⟨.store, vmAddr, _, hostAddr, mapped, Nat.le_add_right _ _, by omega⟩
    rw [taken] at written
    rw [← same, written]
  · intro present
    have unchanged : storeData state hostAddr (storedLength state length) = state := by
      have same := ByteMemory.write_eq_self_iff.mpr (by rw [taken]; exact present)
      simp only [storeData, same]
    rw [unchanged]
    exact .refl mapping state

/-- A failing syscall has no effect, unless it is a `sol_get_return_data` that
had new data to store and a place for it. -/
theorem failing_syscall_no_effect_iff (syscall : Syscall) (args : SyscallArgs) {error : ErrorObj}
    {after : SyscallState Log} (failed : syscall.invoke runtime mapping args state = .error error after) :
    NoEffect mapping state after ↔ ¬ StoresNewData mapping syscall args state := by
  by_cases other : syscall ≠ .getReturnData
  · rw [failsClean_invoke runtime mapping other args state error after failed]
    exact ⟨fun _ stores => other stores.1, fun _ => .refl mapping state⟩
  · obtain rfl := not_not.mp other
    have fits : args.arg2.toNat ≤ u64Max := Nat.le_pred_of_lt args.arg2.toNat_lt
    change syscallGetReturnData mapping args.arg1.toNat args.arg2.toNat args.arg3.toNat state = _ at failed
    by_cases something : storedLength state args.arg2.toNat = 0
    · rw [getReturnData_nothing mapping _ _ something] at failed
      cases failed
    · rw [getReturnData_something mapping _ _ fits something] at failed
      cases data : mapping.map .store args.arg1.toNat (storedLength state args.arg2.toNat) with
      | error denied =>
          rw [data] at failed
          cases failed
          refine ⟨fun _ stores => ?_, fun _ => .refl mapping state⟩
          obtain ⟨_, _, hostAddr, mapped, _⟩ := stores
          rw [data] at mapped
          cases mapped
      | ok hostAddr =>
          rw [data] at failed
          have stored : after = storeData state hostAddr (storedLength state args.arg2.toNat) := by
            dsimp only at failed
            split at failed
            · cases failed
              rfl
            · split at failed
              · cases failed
              · cases failed
                rfl
          rw [stored, noEffect_storeData_iff mapping data]
          constructor
          · intro present fresh
            obtain ⟨_, _, other, mapped, absent⟩ := fresh
            rw [data] at mapped
            cases mapped
            exact absent present
          · intro notNew
            by_contra absent
            exact notNew ⟨rfl, something, hostAddr, data, absent⟩

/-- A runtime that derives no address and logs nothing. -/
def silentRuntime : SyscallRuntime Unit where
  createProgramAddress _ _ := none
  log collector _ := collector

/-- Four writable bytes. -/
def fourBytes : MemoryMapping := .ofRegions [MemoryRegion.newWritable 0x1000 4 0x1000]

/-- A state whose return data is a single byte, over memory that is zero. -/
def returningSeven : SyscallState Unit where
  context := { InvokeContext.new with returnData := (Pubkey.default, [7]) }
  memory := fun _ => 0

theorem failing_syscall_no_effect_iff_too_large :
    NoEffect fourBytes returningSeven (stateAfter
      (Syscall.invoke .setReturnData silentRuntime fourBytes ⟨0x1000, 1025, 0, 0, 0⟩ returningSeven)) :=
  (failing_syscall_no_effect_iff silentRuntime fourBytes .setReturnData ⟨0x1000, 1025, 0, 0, 0⟩ rfl).mpr fun stores => by cases stores.1

/-- With no place for the program id the call fails after storing the data. -/
theorem failing_getReturnData_has_effect :
    ∃ error after,
      Syscall.invoke .getReturnData silentRuntime fourBytes ⟨0x1000, 1, 0x2000, 0, 0⟩ returningSeven =
          .error error after ∧
        returningSeven.memory 0x1000 = 0 ∧ after.memory 0x1000 = 7 ∧
        ¬ NoEffect fourBytes returningSeven after := by
  refine ⟨_, _, rfl, rfl, rfl, ?_⟩
  intro noEffect
  have unchanged := noEffect.memory 0x1000 ⟨.store, 0x1000, 1, 0x1000, rfl, Nat.le_refl _, by decide⟩
  exact absurd unchanged (by decide)

end BpfSimulator.Syscalls
