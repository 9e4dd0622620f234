import BpfSimulator.InstructionExecutor.LastUpdates

/-! Return data over whole runs and histories of them. At every point it is
what the last successful `sol_set_return_data` of the same run was given, and
`sol_get_return_data` hands exactly that out. -/

set_option autoImplicit false

namespace BpfSimulator.InstructionExecutor

open Foundation Syscalls

variable {A Exe Regs Log T : Type} [AccountSizes A] [ReadableAccount T]

/-- The bytes that the arguments of a `sol_set_return_data` point at. -/
def givenData (mapping : MemoryMapping) (event : SyscallEvent Log) : List UInt8 :=
  if event.args.arg2.toNat = 0 then []
  else
    match mapping.map .load event.args.arg1.toNat event.args.arg2.toNat with
    | .ok hostAddr => event.before.memory.read hostAddr event.args.arg2.toNat
    | .error _ => []

def successfulSet (mapping : MemoryMapping) (programId : Pubkey) (event : SyscallEvent Log) :
    Option (Pubkey × List UInt8) :=
  match event.syscall, event.result with
  | .setReturnData, .ok _ => some (programId, givenData mapping event)
  | _, _ => none

/-- The return data after the given syscalls of a run. -/
def currentReturnData (mapping : MemoryMapping) (programId : Pubkey) (events : List (SyscallEvent Log)) :
    Pubkey × List UInt8 :=
  (lastSome (successfulSet mapping programId) events).getD (Pubkey.default, [])

section Syscalls

variable {runtime : SyscallRuntime Log} {mapping : MemoryMapping} {event : SyscallEvent Log}

theorem readReturnData_ok {data : List UInt8}
    (found : readReturnData mapping event.before event.args.arg1.toNat event.args.arg2.toNat = .ok data) :
    data = givenData mapping event := by
  have fits : event.args.arg2.toNat ≤ u64Max := Nat.le_pred_of_lt event.args.arg2.toNat_lt
  unfold readReturnData at found
  unfold givenData
  by_cases empty : event.args.arg2.toNat = 0
  · rw [if_pos empty] at found ⊢
    cases found
    rfl
  · rw [if_neg empty] at found ⊢
    simp only [translateSlice, InvokeContext.getCheckAligned, InvokeContext.getCheckSize,
      translateSliceInner_bytes mapping .load event.args.arg1.toNat empty fits] at found
    cases mapped : mapping.map .load event.args.arg1.toNat event.args.arg2.toNat with
    | error error =>
        rw [mapped] at found
        cases found
    | ok hostAddr =>
        rw [mapped] at found
        cases found
        rfl

theorem setReturnData_after (genuine : event.Genuine runtime mapping) (isSet : event.syscall = .setReturnData)
    {value : Nat} (success : event.result = .ok value) :
    event.after.context.returnData = (event.before.context.programId, givenData mapping event) := by
  unfold SyscallEvent.Genuine at genuine
  rw [isSet, success] at genuine
  change syscallSetReturnData mapping event.args.arg1.toNat event.args.arg2.toNat event.before = _ at genuine
  unfold syscallSetReturnData at genuine
  by_cases large : event.args.arg2.toNat > maxReturnData
  · rw [if_pos large] at genuine
    cases genuine
  · rw [if_neg large, bind_run_ok (get_run _)] at genuine
    cases found : readReturnData mapping event.before event.args.arg1.toNat event.args.arg2.toNat with
    | error error =>
        rw [found] at genuine
        cases genuine
    | ok data =>
        rw [found, bind_run_ok (inspecting_ok_run _ _), bind_run_ok (modify_run _ _)] at genuine
        rw [← (EStateM.Result.ok.inj genuine).2, readReturnData_ok found]

theorem returnData_after (genuine : event.Genuine runtime mapping) :
    event.after.context.returnData =
      (successfulSet mapping event.before.context.programId event).getD event.before.context.returnData := by
  by_cases isSet : event.syscall = .setReturnData
  · cases result : event.result with
    | ok value =>
        rw [setReturnData_after genuine isSet result]
        simp only [successfulSet, isSet, result, Option.getD_some]
    | error error =>
        have same := failsClean_setReturnData mapping event.args.arg1.toNat event.args.arg2.toNat event.before error
          event.after
        have ran := genuine
        unfold SyscallEvent.Genuine at ran
        rw [isSet, result] at ran
        rw [same ran]
        simp only [successfulSet, isSet, result, Option.getD_none]
  · have kept := keeps_returnData_invoke runtime mapping isSet event.args event.before
    rw [genuine.after_eq] at kept
    dsimp only at kept
    rw [kept]
    cases syscall : event.syscall <;> simp only [successfulSet, syscall, Option.getD_none]
    exact absurd syscall isSet

theorem programId_after (genuine : event.Genuine runtime mapping) :
    event.after.context.programId = event.before.context.programId := by
  have kept := keeps_contextFrame_invoke runtime mapping event.syscall event.args event.before
  rw [genuine.after_eq] at kept
  exact congrArg (fun frame => frame.2.2.1) kept

theorem trace_returnData {state final : SyscallState Log} {events : List (SyscallEvent Log)}
    (trace : Trace runtime mapping state events final) :
    final.context.returnData =
      (lastSome (successfulSet mapping state.context.programId) events).getD state.context.returnData := by
  induction trace with
  | done => rfl
  | memory _ ih => exact ih
  | syscall genuine _ ih =>
      rw [ih, returnData_after genuine, programId_after genuine, lastSome_cons]
      cases lastSome (successfulSet mapping _) _ <;> rfl

/-- What a successful `sol_get_return_data` does with the given return data:
it returns the full length, and stores nothing or exactly the data and the id. -/
structure HandsOut (mapping : MemoryMapping) (event : SyscallEvent Log) (returnData : Pubkey × List UInt8)
    (value : Nat) : Prop where
  fullLength : value = returnData.2.length
  nothing : min event.args.arg2.toNat returnData.2.length = 0 → event.after = event.before
  something : 0 < min event.args.arg2.toNat returnData.2.length → ∃ dataHost idHost,
    mapping.map .load event.args.arg1.toNat (min event.args.arg2.toNat returnData.2.length) = .ok dataHost ∧
      mapping.map .load event.args.arg3.toNat 32 = .ok idHost ∧
      event.after.memory.read dataHost (min event.args.arg2.toNat returnData.2.length) =
        returnData.2.take (min event.args.arg2.toNat returnData.2.length) ∧
      event.after.memory.read idHost 32 = returnData.1.bytes ∧
      ∀ access vmAddr hostAddr, mapping.map access vmAddr 1 = .ok hostAddr →
        (vmAddr < event.args.arg1.toNat ∨
          event.args.arg1.toNat + min event.args.arg2.toNat returnData.2.length ≤ vmAddr) →
        (vmAddr < event.args.arg3.toNat ∨ event.args.arg3.toNat + 32 ≤ vmAddr) →
        event.after.memory hostAddr = event.before.memory hostAddr

/-- Storing the data and the id in disjoint places damages neither. -/
theorem read_storeBoth {state : SyscallState Log} {length dataHost idHost : Nat}
    (something : storedLength state length ≠ 0)
    (apart : isNonoverlapping dataHost (storedLength state length) idHost Pubkey.sizeOf = true) :
    (storeBoth state dataHost (storedLength state length) idHost).memory.read dataHost
        (storedLength state length) = state.context.returnData.2.take (storedLength state length) ∧
      (storeBoth state dataHost (storedLength state length) idHost).memory.read idHost 32 =
        state.context.returnData.1.bytes := by
  have taken : (state.context.returnData.2.take (storedLength state length)).length =
      storedLength state length := by
    rw [List.length_take]
    exact Nat.min_eq_left (Nat.min_le_right _ _)
  have idLength := state.context.returnData.1.length_bytes
  have separate := (isNonoverlapping_iff (Nat.pos_of_ne_zero something) (by decide)).mp apart
  constructor
  · have written : (storeData state dataHost (storedLength state length)).memory.read dataHost
        (state.context.returnData.2.take (storedLength state length)).length =
          state.context.returnData.2.take (storedLength state length) := ByteMemory.read_write_same
    rw [taken] at written
    rw [← written]
    refine ByteMemory.read_write_frame ?_
    rw [idLength]
    exact separate
  · have written : (storeBoth state dataHost (storedLength state length) idHost).memory.read idHost
        state.context.returnData.1.bytes.length = state.context.returnData.1.bytes :=
      ByteMemory.read_write_same
    rwa [idLength] at written

theorem outside_host {regions : List MemoryRegion} (only : mapping.MapsOnly regions)
    (ungapped : ∀ region ∈ regions, region.gapSize = 0) (hostsApart : HostsApart regions)
    {access access' : AccessType} {vmAddr start length hostAddr hostStart : Nat}
    (byte : mapping.map access vmAddr 1 = .ok hostAddr) (range : mapping.map access' start length = .ok hostStart)
    (outside : vmAddr < start ∨ start + length ≤ vmAddr) :
    hostAddr < hostStart ∨ hostStart + length ≤ hostAddr := by
  by_contra inside
  obtain ⟨offset, rfl⟩ := Nat.exists_eq_add_of_le (Nat.le_of_not_lt fun below => inside (.inl below))
  have bound : offset < length := by omega
  have same := only.same_byte ungapped hostsApart byte range Nat.one_pos bound (Nat.add_zero _)
  omega

theorem handsOut_of_genuine {regions : List MemoryRegion} (only : mapping.MapsOnly regions)
    (ungapped : ∀ region ∈ regions, region.gapSize = 0) (hostsApart : HostsApart regions)
    (genuine : event.Genuine runtime mapping) (isGet : event.syscall = .getReturnData) {value : Nat}
    (success : event.result = .ok value) :
    HandsOut mapping event event.before.context.returnData value := by
  have fits : event.args.arg2.toNat ≤ u64Max := Nat.le_pred_of_lt event.args.arg2.toNat_lt
  unfold SyscallEvent.Genuine at genuine
  rw [isGet, success] at genuine
  change syscallGetReturnData mapping event.args.arg1.toNat event.args.arg2.toNat event.args.arg3.toNat
    event.before = _ at genuine
  by_cases nothing : storedLength event.before event.args.arg2.toNat = 0
  · rw [getReturnData_nothing mapping _ _ nothing] at genuine
    obtain ⟨full, same⟩ := EStateM.Result.ok.inj genuine
    exact ⟨full.symm, fun _ => same.symm, fun positive => absurd nothing (Nat.pos_iff_ne_zero.mp positive)⟩
  · rw [getReturnData_something mapping _ _ fits nothing] at genuine
    cases data : mapping.map .store event.args.arg1.toNat (storedLength event.before event.args.arg2.toNat) with
    | error error =>
        rw [data] at genuine
        cases genuine
    | ok dataHost =>
        cases id : mapping.map .store event.args.arg3.toNat Pubkey.sizeOf with
        | error error =>
            rw [data, id] at genuine
            cases genuine
        | ok idHost =>
            rw [data, id] at genuine
            dsimp only at genuine
            by_cases apart : isNonoverlapping dataHost (storedLength event.before event.args.arg2.toNat) idHost
                Pubkey.sizeOf = true
            · rw [if_pos apart] at genuine
              obtain ⟨full, stored⟩ := EStateM.Result.ok.inj genuine
              obtain ⟨dataRead, idRead⟩ := read_storeBoth nothing apart
              refine ⟨full.symm, fun empty => absurd empty nothing, fun _ => ?_⟩
              rw [stored] at dataRead idRead
              refine ⟨dataHost, idHost, only.load_of_store data, only.load_of_store id, dataRead, idRead, ?_⟩
              intro access vmAddr hostAddr mapped outsideData outsideId
              have dataApart := outside_host only ungapped hostsApart mapped data outsideData
              have idApart := outside_host only ungapped hostsApart mapped id outsideId
              have short : (event.before.context.returnData.2.take
                  (storedLength event.before event.args.arg2.toNat)).length ≤
                    storedLength event.before event.args.arg2.toNat := List.length_take_le _ _
              rw [← stored]
              refine (ByteMemory.write_outside ?_).trans (ByteMemory.write_outside ?_)
              · rw [Pubkey.length_bytes]
                exact idApart
              · omega
            · rw [if_neg apart] at genuine
              cases genuine

end Syscalls

omit [AccountSizes A] in
theorem runUpTo_returnData (runtime : Runtime Exe Regs Log) (executor : InstructionExecutor A Exe Log)
    (executable : Exe) (limit : Nat) :
    (runUpTo runtime executor executable limit).state.context.returnData =
      currentReturnData (executeMapping runtime (prepared executor) executable) executor.context.programId
        (runUpTo runtime executor executable limit).events :=
  trace_returnData (runUpTo_trace runtime executor executable limit)

/-- The context names the last program, and without a program there is no return data. -/
structure ContextCurrent (executor : InstructionExecutor A Exe Log) (calls : List (Call T)) : Prop where
  programId : executor.context.programId = lastProgram calls
  unused : executor.executable = none → executor.context.returnData = (Pubkey.default, [])

theorem ContextCurrent.stepped {runtime : Runtime Exe Regs Log} {executor after : InstructionExecutor A Exe Log}
    {calls : List (Call T)} {call : Call T} (laidOut : WellLaidOut executor)
    (current : ContextCurrent executor calls) (stepped : Stepped runtime executor call after) :
    ContextCurrent after (if succeeded (call.perform runtime executor) then calls ++ [call] else calls) := by
  cases stepped with
  | refused _ failed => simpa only [failed, succeeded_error, Bool.false_eq_true, ↓reduceIte] using current
  | updated updated =>
      rw [updated.ran laidOut, succeeded_ok, if_pos rfl]
      cases updated with
      | program loaded => exact ⟨by rw [lastProgram_snoc]; rfl, fun missing => by cases missing⟩
      | instruction fit => exact ⟨by rw [lastProgram_snoc]; exact current.programId, current.unused⟩
      | account slot fit => exact ⟨by rw [lastProgram_snoc]; exact current.programId, current.unused⟩
  | missing missing =>
      rw [Call.perform, execute_missing missing, succeeded_error, if_neg (by decide)]
      exact ⟨current.programId, current.unused⟩
  | @executed executable present =>
      have last : lastProgram (if succeeded ((Call.execute : Call T).perform runtime executor) then
          calls ++ [.execute] else calls) = lastProgram calls := by
        split
        · rw [lastProgram_snoc]
          rfl
        · rfl
      refine ⟨?_, fun missing => ?_⟩
      · rw [last, ← current.programId]
        exact congrArg (fun frame => frame.2.2.1) (runOf_contextFrame runtime executor executable)
      · have kept : executor.executable = none := missing
        rw [present] at kept
        cases kept

theorem contextCurrent_history {runtime : Runtime Exe Regs Log} {host : HostLayout} {instructionSize : Nat}
    {accountSizes : A} {fresh : InstructionExecutor A Exe Log}
    (constructed : Constructed runtime host instructionSize accountSizes fresh) (history : List (Call T)) :
    ContextCurrent (runHistory (step runtime) history fresh) (successes runtime history fresh) := by
  have start : ContextCurrent fresh ([] : List (Call T)) := by
    refine ⟨?_, fun _ => ?_⟩
    · rw [constructed.context]
      rfl
    · rw [constructed.context]
      rfl
  have anyCall : ∀ call ∈ history, True := fun _ _ => trivial
  exact history_related ContextCurrent (fun laidOut _ current stepped => current.stepped laidOut stepped)
    anyCall constructed.laidOut start

/-- The return data that an execution leaves behind: that of its run, if it has one. -/
def executedReturnData (runtime : Runtime Exe Regs Log) (executor : InstructionExecutor A Exe Log)
    (programId : Pubkey) : Pubkey × List UInt8 :=
  match executor.executable with
  | none => (Pubkey.default, [])
  | some executable =>
      currentReturnData (executeMapping runtime (prepared executor) executable) programId
        (runOf runtime executor executable).events

omit [AccountSizes A] [ReadableAccount T] in
/-- Around each syscall of a run the return data is that of the syscalls so far. -/
theorem ContextCurrent.event {runtime : Runtime Exe Regs Log} {executor : InstructionExecutor A Exe Log}
    {calls : List (Call T)} (current : ContextCurrent executor calls) {executable : Exe}
    {before after : List (SyscallEvent Log)} {event : SyscallEvent Log}
    (split : (runOf runtime executor executable).events = before ++ event :: after) :
    let mapping := executeMapping runtime (prepared executor) executable
    event.Genuine runtime.toSyscallRuntime mapping ∧
      event.before.context.returnData = currentReturnData mapping (lastProgram calls) before ∧
      event.after.context.returnData = currentReturnData mapping (lastProgram calls) (before ++ [event]) := by
  intro mapping
  have trace := runUpTo_trace runtime executor executable executor.context.getRemaining
  obtain ⟨earlier, genuine⟩ := trace.upTo split
  have found : event.before.context.returnData = currentReturnData mapping (lastProgram calls) before := by
    rw [trace_returnData earlier]
    change currentReturnData mapping executor.context.programId before = _
    rw [current.programId]
  have sameProgram : event.before.context.programId = lastProgram calls :=
    (congrArg (fun frame => frame.2.2.1) earlier.contextFrame_eq).trans current.programId
  refine ⟨genuine, found, ?_⟩
  rw [returnData_after genuine, sameProgram, found, currentReturnData, currentReturnData, lastSome_snoc]
  cases successfulSet mapping (lastProgram calls) event <;> rfl

theorem ContextCurrent.executed {runtime : Runtime Exe Regs Log} {executor : InstructionExecutor A Exe Log}
    {calls : List (Call T)} (current : ContextCurrent executor calls) :
    (step runtime (.execute : Call T) executor).context.returnData =
      executedReturnData runtime executor (lastProgram calls) := by
  cases program : executor.executable with
  | none =>
      simp only [step, Call.perform, execute_missing program, stateAfter_error, executedReturnData, program]
      exact current.unused program
  | some executable =>
      simp only [step, Call.perform, stateAfter_execute program, executedReturnData, program]
      have run := runUpTo_returnData runtime executor executable executor.context.getRemaining
      rw [current.programId] at run
      exact run

/-- After any history, return data belongs to the execution at hand. At every
point of its run it is what the last successful set of this run was given,
under the id of the program last updated; every successful get hands it out;
and what is left after the execution, failed or not, is that of the whole run. -/
theorem return_data_of_current_run {runtime : Runtime Exe Regs Log} {host : HostLayout} {instructionSize : Nat}
    {accountSizes : A} {fresh : InstructionExecutor A Exe Log}
    (bounded : inputLength (slotSizes accountSizes) instructionSize ≤ isizeMax)
    (built : new runtime host instructionSize accountSizes = .ok fresh) (history : List (Call T)) :
    let executor := runHistory (step runtime) history fresh
    let programId := lastProgram (successes runtime history fresh)
    (∀ executable, executor.executable = some executable →
      let mapping := executeMapping runtime (prepared executor) executable
      let run := runOf runtime executor executable
      (∀ limit ≤ executor.context.getRemaining,
        (runUpTo runtime executor executable limit).events <+: run.events ∧
          (runUpTo runtime executor executable limit).state.context.returnData =
            currentReturnData mapping programId (runUpTo runtime executor executable limit).events) ∧
      (∀ before event after, run.events = before ++ event :: after →
        event.before.context.returnData = currentReturnData mapping programId before ∧
          event.after.context.returnData = currentReturnData mapping programId (before ++ [event]) ∧
          (mapping.MapsOnly (regions runtime (prepared executor) executable) →
            HostsApart (regions runtime (prepared executor) executable) →
            event.syscall = .getReturnData → ∀ value, event.result = .ok value →
              HandsOut mapping event (currentReturnData mapping programId before) value))) ∧
    getReturnData (step runtime (.execute : Call T) executor) =
      if (executedReturnData runtime executor programId).2 = [] then none
      else some (executedReturnData runtime executor programId) := by
  intro executor programId
  have constructed := new_constructed bounded built
  have current : ContextCurrent executor (successes runtime history fresh) :=
    contextCurrent_history constructed history
  refine ⟨?_, ?_⟩
  · intro executable present mapping run
    refine ⟨fun limit within => ⟨?_, ?_⟩, ?_⟩
    · exact runProgram_events_prefix runtime _ executable _ within _ _
    · rw [runUpTo_returnData, current.programId]
    · intro before event after split
      obtain ⟨genuine, found, left⟩ := current.event split
      refine ⟨found, left, ?_⟩
      intro only hostsApart isGet value success
      rw [← found]
      exact handsOut_of_genuine only (ungapped_regions runtime _ executable) hostsApart genuine isGet success
  · rw [← current.executed]
    simp only [getReturnData, List.isEmpty_iff]

/-- The program that returns the first byte of its input and reads it back. -/
def returnFirstByte : Nat → ByteMemory → Action Nat
  | 0, _ => .call (nameCode "sol_set_return_data") ⟨0x400000000, 1, 0, 0, 0⟩ fun _ => 1
  | 1, _ => .call (nameCode "sol_get_return_data") ⟨0x300000000, 8, 0x300000040, 0, 0⟩ fun _ => 2
  | _, _ => .exit 0

def loadProgram : List (Call Account) := [.updateProgram (.filled 1) scriptAccount false]

theorem return_data_of_current_run_first_byte : ∃ fresh,
    new (scriptRuntime returnFirstByte) scriptHost 0 ([] : List Nat) = .ok fresh ∧
      let runtime := scriptRuntime returnFirstByte
      let executor := runHistory (step runtime) loadProgram fresh
      let mapping := executeMapping runtime (prepared executor) ()
      (∀ before event after, (runOf runtime executor ()).events = before ++ event :: after →
        event.syscall = .getReturnData → ∀ value, event.result = .ok value →
          HandsOut mapping event (currentReturnData mapping (.filled 1) before) value) ∧
      getReturnData (step runtime (.execute : Call Account) executor) =
        if (executedReturnData runtime executor (.filled 1)).2 = [] then none
        else some (executedReturnData runtime executor (.filled 1)) := by
  have bounded : inputLength (slotSizes ([] : List Nat)) 0 ≤ isizeMax := by decide
  have built : new (scriptRuntime returnFirstByte) scriptHost 0 ([] : List Nat) = .ok _ := rfl
  have constructed := new_constructed bounded built
  have shape : SameShape _ (prepared (runHistory (step (scriptRuntime returnFirstByte)) loadProgram _)) :=
    (history_sameShape loadProgram constructed.laidOut).trans (sameShape_prepared _)
  obtain ⟨only, _, hostsApart⟩ := scriptRuntime_maps constructed shape (by decide)
  obtain ⟨run, left⟩ := return_data_of_current_run bounded built loadProgram
  refine ⟨_, built, ?_, left⟩
  intro before event after split isGet value success
  exact ((run () rfl).2 before event after split).2.2 only hostsApart isGet value success

end BpfSimulator.InstructionExecutor
