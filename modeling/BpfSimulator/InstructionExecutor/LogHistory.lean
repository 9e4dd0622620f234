import BpfSimulator.InstructionExecutor.Isolation

/-! What programs log, over whole runs and histories of them. An installed
collector is written to by `sol_log_` alone, so after any history it holds the
texts of all runs in the order in which they were logged. -/

set_option autoImplicit false

namespace BpfSimulator.InstructionExecutor

open Foundation Syscalls

variable {A Exe Regs Log T : Type} [AccountSizes A] [ReadableAccount T]

/-- The bytes of a range that a program can read, the empty range being readable anywhere. -/
def readableBytes (mapping : MemoryMapping) (memory : ByteMemory) (addr len : Nat) : Option (List UInt8) :=
  if len = 0 then some []
  else
    match mapping.map .load addr len with
    | .ok hostAddr => some (memory.read hostAddr len)
    | .error _ => none

def readableText (mapping : MemoryMapping) (memory : ByteMemory) (addr len : Nat) : Option String :=
  (readableBytes mapping memory addr len).bind fun bytes => (fromUtf8 bytes).toOption

/-- The text that an event logs: that of a `sol_log_` whose range is readable and valid UTF-8. -/
def loggedText (mapping : MemoryMapping) (event : SyscallEvent Log) : Option String :=
  match event.syscall with
  | .log => readableText mapping event.before.memory event.args.arg1.toNat event.args.arg2.toNat
  | _ => none

def writeText (runtime : SyscallRuntime Log) (collector : Log) (text : String) : Log :=
  runtime.log collector ("Program log: " ++ text)

def writeTexts (runtime : SyscallRuntime Log) (texts : List String) (collector : Log) : Log :=
  texts.foldl (writeText runtime) collector

@[simp] theorem map_writeTexts_nil (runtime : SyscallRuntime Log) (collector : Option Log) :
    collector.map (writeTexts runtime []) = collector := by
  cases collector <;> rfl

theorem map_writeTexts_append (runtime : SyscallRuntime Log) (first second : List String) (collector : Option Log) :
    collector.map (writeTexts runtime (first ++ second)) =
      (collector.map (writeTexts runtime first)).map (writeTexts runtime second) := by
  rw [Option.map_map]
  congr 1
  funext log
  exact List.foldl_append

section Syscalls

variable (runtime : SyscallRuntime Log) (mapping : MemoryMapping)

theorem translateSlice_readable (memory : ByteMemory) (addr : Nat) {len : Nat} (fits : len ≤ u64Max) :
    ((translateSlice byteLayout mapping addr len false false).toOption.map fun slice => readSlice memory slice) =
      readableBytes mapping memory addr len := by
  unfold readableBytes
  by_cases empty : len = 0
  · rw [if_pos empty, translateSlice, translateSliceInner, if_pos empty]
    rfl
  · rw [if_neg empty, translateSlice, translateSliceInner_bytes mapping .load addr empty fits]
    cases mapping.map .load addr len <;> rfl

def logged (runtime : SyscallRuntime Log) (text : String) (state : SyscallState Log) : SyscallState Log :=
  { state with context :=
    { state.context with logCollector :=
      state.context.logCollector.map fun collector => writeText runtime collector text } }

theorem translateStringAndDo_run (state : SyscallState Log) (addr : Nat) {len : Nat} (fits : len ≤ u64Max)
    (work : String → SyscallM Log Nat) :
    match readableText mapping state.memory addr len with
    | some text => translateStringAndDo mapping addr len false false true work state = work text state
    | none => ∃ error, translateStringAndDo mapping addr len false false true work state = .error error state := by
  have bytes := translateSlice_readable mapping state.memory addr fits
  unfold readableText
  rw [← bytes]
  unfold translateStringAndDo
  cases translated : translateSlice byteLayout mapping addr len false false with
  | error error => exact ⟨error, rfl⟩
  | ok slice =>
      rw [bind_run_ok (inspecting_ok_run slice state), bind_run_ok (get_run state)]
      simp only [Except.toOption, Option.map_some, Option.bind_some, ↓reduceIte]
      cases decoded : fromUtf8 (readSlice state.memory slice) with
      | error error => exact ⟨.syscall (.invalidString error (readSlice state.memory slice)), rfl⟩
      | ok text => rfl

/-- `sol_log_` succeeds exactly on a readable text, which it hands to the collector. -/
theorem syscallLog_run (state : SyscallState Log) (addr : Nat) {len : Nat} (fits : len ≤ u64Max) :
    match readableText mapping state.memory addr len with
    | some text => syscallLog runtime mapping addr len state = .ok 0 (logged runtime text state)
    | none => ∃ error, syscallLog runtime mapping addr len state = .error error state := by
  unfold syscallLog
  rw [bind_run_ok (get_run state)]
  simp only [InvokeContext.getCheckAligned, InvokeContext.getCheckSize]
  have run := fun work => translateStringAndDo_run mapping state addr fits work
  cases found : readableText mapping state.memory addr len with
  | none =>
      simp only [found] at run
      obtain ⟨error, failed⟩ := run _
      exact ⟨error, bind_run_error failed⟩
  | some text =>
      simp only [found] at run
      exact bind_run_ok (run _)

theorem keeps_logCollector_invoke {syscall : Syscall} (other : syscall ≠ .log) (args : SyscallArgs) :
    Keeps (fun state => state.context.logCollector) (syscall.invoke runtime mapping args) := by
  have outside : OutsideMemory fun state : SyscallState Log => state.context.logCollector := fun _ _ => rfl
  cases syscall with
  | abort => exact (readOnly_throw _).keeps _
  | panic => exact (readOnly_panic mapping _ _ _ _).keeps _
  | log => exact absurd rfl other
  | tryFindProgramAddress =>
      exact .bind (readOnly_get.keeps _) fun _ => .bind ((readOnly_inspecting _).keeps _) fun _ =>
        keeps_tryBumpSeeds runtime mapping outside _ _ _ _ _ _
  | getClockSysvar => exact keeps_getClockSysvar mapping outside _
  | memcpy => exact keeps_memcpy mapping outside _ _ _
  | setReturnData => exact keeps_setReturnData mapping (fun _ _ => rfl) _ _
  | getReturnData => exact keeps_getReturnData mapping outside _ _ _

variable {runtime mapping}

/-- A `sol_log_` succeeds exactly if it has a text to log, and any syscall
appends exactly the text it logs to the collector. -/
structure Transcribes (runtime : SyscallRuntime Log) (mapping : MemoryMapping) (event : SyscallEvent Log) : Prop where
  success : event.syscall = .log → ((∃ value, event.result = .ok value) ↔ loggedText mapping event ≠ none)
  collected : event.after.context.logCollector =
    event.before.context.logCollector.map (writeTexts runtime (loggedText mapping event).toList)

theorem transcribes_of_genuine {event : SyscallEvent Log} (genuine : event.Genuine runtime mapping) :
    Transcribes runtime mapping event := by
  have fits : event.args.arg2.toNat ≤ u64Max := Nat.le_pred_of_lt event.args.arg2.toNat_lt
  by_cases isLog : event.syscall = .log
  · have run := syscallLog_run runtime mapping event.before event.args.arg1.toNat fits
    have text : loggedText mapping event =
        readableText mapping event.before.memory event.args.arg1.toNat event.args.arg2.toNat := by
      simp only [loggedText, isLog]
    unfold SyscallEvent.Genuine at genuine
    rw [isLog] at genuine
    change syscallLog runtime mapping event.args.arg1.toNat event.args.arg2.toNat event.before = _ at genuine
    rw [genuine, ← text] at run
    cases found : loggedText mapping event with
    | none =>
        simp only [found] at run
        obtain ⟨error, failed⟩ := run
        cases result : event.result with
        | ok value => simp [result] at failed
        | error error =>
            simp only [result, EStateM.Result.error.injEq] at failed
            refine ⟨fun _ => ?_, ?_⟩
            · simp [result, found]
            · simp [failed.2, found]
    | some text =>
        simp only [found] at run
        cases result : event.result with
        | error error => simp [result] at run
        | ok value =>
            simp only [result, EStateM.Result.ok.injEq] at run
            refine ⟨fun _ => ?_, ?_⟩
            · simp [result, found]
            · rw [run.2, found]
              rfl
  · have kept := keeps_logCollector_invoke runtime mapping isLog event.args event.before
    rw [genuine.after_eq] at kept
    refine ⟨fun same => absurd same isLog, ?_⟩
    have silent : loggedText mapping event = none := by
      cases syscall : event.syscall <;> simp only [loggedText, syscall]
      exact absurd syscall isLog
    simpa [silent] using kept

theorem trace_logCollector {state final : SyscallState Log} {events : List (SyscallEvent Log)}
    (trace : Trace runtime mapping state events final) :
    final.context.logCollector =
      state.context.logCollector.map (writeTexts runtime (events.filterMap (loggedText mapping))) := by
  induction trace with
  | done => simp
  | memory _ ih => exact ih
  | @syscall event final events genuine _ ih =>
      rw [ih, (transcribes_of_genuine genuine).collected, ← map_writeTexts_append]
      cases found : loggedText mapping event <;> simp [found]

end Syscalls

/-- `*context_mut().log_collector_mut() = collector`. -/
def withLogCollector (logCollector : Option Log) (executor : InstructionExecutor A Exe Log) :
    InstructionExecutor A Exe Log :=
  { executor with context := { executor.context with logCollector } }

omit [AccountSizes A] in
theorem sameShape_withLogCollector (logCollector : Option Log) (executor : InstructionExecutor A Exe Log) :
    SameShape executor (withLogCollector logCollector executor) :=
  ⟨rfl, rfl, rfl, rfl, rfl, rfl, rfl, .refl _, .refl _, .refl _⟩

/-- What the run of a call logs, if it has one. -/
def loggedBy (runtime : Runtime Exe Regs Log) (executor : InstructionExecutor A Exe Log) : Call T → List String
  | .execute =>
      match executor.executable with
      | none => []
      | some executable =>
          (runOf runtime executor executable).events.filterMap
            (loggedText (executeMapping runtime (prepared executor) executable))
  | _ => []

/-- The texts that all runs of a history log, in order. -/
def loggedTexts (runtime : Runtime Exe Regs Log) : List (Call T) → InstructionExecutor A Exe Log → List String
  | [], _ => []
  | call :: rest, executor =>
      loggedBy runtime executor call ++ loggedTexts runtime rest (step runtime call executor)

theorem Stepped.logged {runtime : Runtime Exe Regs Log} {executor after : InstructionExecutor A Exe Log}
    {call : Call T} (stepped : Stepped runtime executor call after) :
    after.context.logCollector =
      executor.context.logCollector.map (writeTexts runtime.toSyscallRuntime (loggedBy runtime executor call)) := by
  cases stepped with
  | refused isUpdate =>
      cases call with
      | execute => exact absurd rfl isUpdate
      | _ => simp [loggedBy]
  | updated updated => cases updated <;> simp [loggedBy]
  | missing missing => simp [loggedBy, missing, clearMemory]
  | @executed executable present =>
      simp only [loggedBy, present]
      exact trace_logCollector (runUpTo_trace runtime executor executable executor.context.getRemaining)

theorem Stepped.sysvars {runtime : Runtime Exe Regs Log} {executor after : InstructionExecutor A Exe Log}
    {call : Call T} (stepped : Stepped runtime executor call after) :
    after.context.sysvars = executor.context.sysvars := by
  cases stepped with
  | refused => rfl
  | updated updated => cases updated <;> rfl
  | missing => rfl
  | @executed executable present =>
      exact congrArg (fun frame => frame.1) (runOf_contextFrame runtime executor executable)

theorem log_history {runtime : Runtime Exe Regs Log} (history : List (Call T))
    {executor : InstructionExecutor A Exe Log} (laidOut : WellLaidOut executor) :
    (runHistory (step runtime) history executor).context.logCollector = executor.context.logCollector.map
      (writeTexts runtime.toSyscallRuntime (loggedTexts runtime history executor)) := by
  induction history generalizing executor with
  | nil => simp [loggedTexts]
  | cons call rest ih =>
      have stepped := step_cases laidOut runtime call
      rw [runHistory_cons, ih (laidOut.of_sameShape (stepped.sameShape laidOut)), stepped.logged, loggedTexts,
        map_writeTexts_append]

/-- After any history an installed collector holds what all runs have logged,
in order and nothing else, and so it does around every syscall of the next run.
The sysvars stay those installed. -/
theorem log_of_history {runtime : Runtime Exe Regs Log} {host : HostLayout} {instructionSize : Nat}
    {accountSizes : A} {fresh : InstructionExecutor A Exe Log}
    (bounded : inputLength (slotSizes accountSizes) instructionSize ≤ isizeMax)
    (built : new runtime host instructionSize accountSizes = .ok fresh) (sysvars : SysvarCache)
    (collector : Option Log) (history : List (Call T)) :
    let first := withLogCollector collector (withSysvars sysvars fresh)
    let executor := runHistory (step runtime) history first
    let texts := loggedTexts runtime history first
    let collected := fun texts => collector.map (writeTexts runtime.toSyscallRuntime texts)
    executor.context.sysvars = sysvars ∧ executor.context.logCollector = collected texts ∧
      ∀ executable, executor.executable = some executable →
        let mapping := executeMapping runtime (prepared executor) executable
        ∀ before event after, (runOf runtime executor executable).events = before ++ event :: after →
          event.before.context.sysvars = sysvars ∧
            event.before.context.logCollector = collected (texts ++ before.filterMap (loggedText mapping)) ∧
            (event.syscall = .log → ((∃ value, event.result = .ok value) ↔ loggedText mapping event ≠ none)) ∧
            event.after.context.logCollector =
              collected (texts ++ (before ++ [event]).filterMap (loggedText mapping)) := by
  intro first executor texts collected
  have laidOut : WellLaidOut first := ((new_constructed bounded built).laidOut.of_sameShape
    (sameShape_withSysvars sysvars fresh)).of_sameShape (sameShape_withLogCollector collector _)
  have kept : executor.context.sysvars = sysvars :=
    (history_invariant (fun _ kept stepped => stepped.sysvars.trans kept) history laidOut rfl).2
  have gathered : executor.context.logCollector = collected texts := log_history history laidOut
  refine ⟨kept, gathered, ?_⟩
  intro executable present mapping before event after split
  obtain ⟨earlier, genuine⟩ :=
    (runUpTo_trace runtime executor executable executor.context.getRemaining).upTo split
  have found : event.before.context.logCollector =
      collected (texts ++ before.filterMap (loggedText mapping)) := by
    refine (trace_logCollector earlier).trans ?_
    change executor.context.logCollector.map _ = _
    rw [gathered]
    exact (map_writeTexts_append _ _ _ _).symm
  have transcribes := transcribes_of_genuine genuine
  refine ⟨?_, found, transcribes.success, ?_⟩
  · exact (congrArg (fun frame => frame.1) earlier.contextFrame_eq).trans kept
  · rw [transcribes.collected, found]
    simp only [collected, ← map_writeTexts_append, List.filterMap_append, List.append_assoc]
    cases written : loggedText mapping event <;> simp [written, mapping]

/-- The script machine with a collector that keeps every line. -/
def loggingRuntime (script : Nat → ByteMemory → Action Nat) : Runtime Unit Nat (List String) :=
  { scriptRuntime script with
    createProgramAddress := fun _ _ => none
    log := fun lines line => lines ++ [line] }

/-- The program that logs the two bytes of its instruction data. -/
def logInstruction : Nat → ByteMemory → Action Nat
  | 0, _ => .call (nameCode "sol_log_") ⟨0x400000010, 2, 0, 0, 0⟩ fun _ => 1
  | _, _ => .exit 0

/-- Log "hi" and then "ho". -/
def logTwice : List (Call Account) :=
  [.updateProgram (.filled 1) scriptAccount false, .updateInstruction [104, 105], .execute,
    .updateInstruction [104, 111], .execute]

theorem log_of_history_twice : ∃ fresh,
    new (loggingRuntime logInstruction) scriptHost 2 ([] : List Nat) = .ok fresh ∧
      let runtime := loggingRuntime logInstruction
      let first := withLogCollector (some []) (withSysvars SysvarCache.default fresh)
      let executor := runHistory (step runtime) logTwice first
      executor.context.sysvars = SysvarCache.default ∧ executor.context.logCollector =
        some ((loggedTexts runtime logTwice first).foldl (fun lines text => lines ++ ["Program log: " ++ text]) []) := by
  have bounded : inputLength (slotSizes ([] : List Nat)) 2 ≤ isizeMax := by decide
  obtain ⟨registry, registered⟩ := scriptRuntime_registers
  have created : ∃ fresh, new (loggingRuntime logInstruction) scriptHost 2 ([] : List Nat) = .ok fresh ∧ _ :=
    new_succeeds scriptHost bounded registered
  obtain ⟨fresh, built, _⟩ := created
  obtain ⟨sysvars, collected, _⟩ := log_of_history bounded built SysvarCache.default (some []) logTwice
  exact ⟨fresh, built, sysvars, collected⟩

end BpfSimulator.InstructionExecutor
