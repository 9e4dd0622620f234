import BpfSimulator.InstructionExecutor.Calls
import BpfSimulator.InstructionExecutor.VmProperties

/-! What an execution does to an executor: it clears stack, heap and return
data and takes over what the machine leaves behind, and the shape stays as it
was. Every history of calls therefore keeps the layout. -/

set_option autoImplicit false

namespace BpfSimulator.InstructionExecutor

open Foundation Syscalls

variable {A Exe Regs Log T : Type} [AccountSizes A] [ReadableAccount T]

/-- The executor a run starts from. -/
def prepared (executor : InstructionExecutor A Exe Log) : InstructionExecutor A Exe Log :=
  clearReturnData (clearMemory executor)

/-- The run that an execution of the given program makes. -/
def runOf (runtime : Runtime Exe Regs Log) (executor : InstructionExecutor A Exe Log) (executable : Exe) :
    VmOutcome Log :=
  runExecutable runtime (prepared executor) executable

/-- What an execution returns for the result of its run. -/
def executeResult : Except ErrorObj Nat → Except ExecutorError Unit
  | .ok code => if code = success then .ok () else .error (.instruction (.fromCode code))
  | .error error => .error (.vm error)

omit [AccountSizes A] in
theorem execute_missing {runtime : Runtime Exe Regs Log} {executor : InstructionExecutor A Exe Log}
    (missing : executor.executable = none) :
    execute runtime executor = .error .missingProgram (clearMemory executor) := by
  have cleared : (clearMemory executor).executable = none := missing
  simp only [execute]
  rw [bind_run_ok (modify_run _ _), bind_run_ok (get_run _)]
  simp only [cleared]
  rfl

omit [AccountSizes A] in
theorem execute_present {runtime : Runtime Exe Regs Log} {executor : InstructionExecutor A Exe Log}
    {executable : Exe} (present : executor.executable = some executable) :
    execute runtime executor =
      match executeResult (runOf runtime executor executable).result with
      | .ok _ => .ok () (afterRun (prepared executor) (runOf runtime executor executable).state)
      | .error error => .error error (afterRun (prepared executor) (runOf runtime executor executable).state) := by
  have cleared : (clearMemory executor).executable = some executable := present
  simp only [execute]
  rw [bind_run_ok (modify_run _ _), bind_run_ok (get_run _)]
  simp only [cleared]
  rw [bind_run_ok (modify_run _ _), bind_run_ok (get_run _), bind_run_ok (modify_run _ _)]
  change (match (runOf runtime executor executable).result with
    | .ok code => if code = success then pure () else throw (.instruction (.fromCode code))
    | .error error => throw (.vm error) : ExecutorM A Exe Log Unit) _ = _
  cases result : (runOf runtime executor executable).result with
  | ok code =>
      simp only [executeResult]
      split <;> rfl
  | error error => rfl

omit [AccountSizes A] in
theorem stateAfter_execute {runtime : Runtime Exe Regs Log} {executor : InstructionExecutor A Exe Log}
    {executable : Exe} (present : executor.executable = some executable) :
    stateAfter (execute runtime executor) =
      afterRun (prepared executor) (runOf runtime executor executable).state := by
  rw [execute_present present]
  split <;> rfl

def runUpTo (runtime : Runtime Exe Regs Log) (executor : InstructionExecutor A Exe Log) (executable : Exe)
    (limit : Nat) : VmOutcome Log :=
  runProgram runtime executor.registry executable (executeMapping runtime (prepared executor) executable) limit
    (runtime.entry executable executor.config) (startState runtime (prepared executor) executable)

section Run

variable (runtime : Runtime Exe Regs Log) (executor : InstructionExecutor A Exe Log) (executable : Exe)

omit [AccountSizes A] in
theorem runUpTo_trace (limit : Nat) :
    Trace runtime.toSyscallRuntime (executeMapping runtime (prepared executor) executable)
      (startState runtime (prepared executor) executable) (runUpTo runtime executor executable limit).events
      (runUpTo runtime executor executable limit).state :=
  runProgram_trace runtime _ executable _ limit _ _

omit [AccountSizes A] in
theorem runOf_eq : runOf runtime executor executable =
    { runUpTo runtime executor executable executor.context.getRemaining with
      state := { (runUpTo runtime executor executable executor.context.getRemaining).state with
        context := (runUpTo runtime executor executable executor.context.getRemaining).state.context.consume
          (runUpTo runtime executor executable executor.context.getRemaining).used } } := rfl

omit [AccountSizes A] in
theorem runOf_contextFrame : contextFrame (runOf runtime executor executable).state =
    (executor.context.sysvars, executor.context.getRemaining - (runOf runtime executor executable).used,
      executor.context.programId, executor.context.logCollector.isSome) := by
  have frame := (runUpTo_trace runtime executor executable executor.context.getRemaining).contextFrame_eq
  simp only [contextFrame, Prod.mk.injEq] at frame
  obtain ⟨sysvars, remaining, programId, logCollector⟩ := frame
  rw [runOf_eq]
  simp only [contextFrame, InvokeContext.consume, sysvars, remaining, programId, logCollector]
  rfl

omit [AccountSizes A] in
theorem runOf_used_pos (allowed : 0 < executor.context.getRemaining) :
    0 < (runOf runtime executor executable).used := by
  rw [runOf_eq]
  exact runProgram_used_pos runtime _ executable _ allowed _ _

end Run

theorem sameBlock_fillZero (buffer : AlignedMemory) : SameBlock buffer (fillZero buffer) :=
  ⟨rfl, by simp [fillZero, AlignedMemory.len], rfl, rfl⟩

theorem sameBlock_readBack (memory : ByteMemory) (buffer : AlignedMemory) :
    SameBlock buffer (readBack memory buffer) :=
  ⟨rfl, by simp [readBack, AlignedMemory.len], rfl, rfl⟩

omit [AccountSizes A] in
theorem sameShape_clearMemory (executor : InstructionExecutor A Exe Log) :
    SameShape executor (clearMemory executor) :=
  ⟨rfl, rfl, rfl, rfl, rfl, rfl, rfl, .refl _, sameBlock_fillZero _, sameBlock_fillZero _⟩

omit [AccountSizes A] in
theorem sameShape_prepared (executor : InstructionExecutor A Exe Log) :
    SameShape executor (prepared executor) :=
  ⟨rfl, rfl, rfl, rfl, rfl, rfl, rfl, .refl _, sameBlock_fillZero _, sameBlock_fillZero _⟩

omit [AccountSizes A] in
theorem sameShape_afterRun (executor : InstructionExecutor A Exe Log) (state : SyscallState Log) :
    SameShape executor (afterRun executor state) :=
  ⟨rfl, rfl, rfl, rfl, rfl, rfl, rfl, sameBlock_readBack _ _, sameBlock_readBack _ _, sameBlock_readBack _ _⟩

/-- What one call can do: it fails leaving everything as it was, it is a
successful update, or it executes with or without a program. -/
inductive Stepped (runtime : Runtime Exe Regs Log) (executor : InstructionExecutor A Exe Log) :
    Call T → InstructionExecutor A Exe Log → Prop where
  | refused {call : Call T} {error : ExecutorError} (isUpdate : call ≠ .execute)
      (failed : call.perform runtime executor = .error error executor) : Stepped runtime executor call executor
  | updated {call : Call T} {after : InstructionExecutor A Exe Log}
      (updated : Updated runtime executor call after) : Stepped runtime executor call after
  | missing (missing : executor.executable = none) : Stepped runtime executor .execute (clearMemory executor)
  | executed {executable : Exe} (present : executor.executable = some executable) :
      Stepped runtime executor .execute
        (afterRun (prepared executor) (runOf runtime executor executable).state)

/-- Every call of a laid out executor is one of these. -/
theorem step_cases {executor : InstructionExecutor A Exe Log} (laidOut : WellLaidOut executor)
    (runtime : Runtime Exe Regs Log) (call : Call T) :
    Stepped runtime executor call (step runtime call executor) := by
  by_cases isUpdate : call ≠ .execute
  · rcases perform_cases laidOut runtime isUpdate with ⟨error, failed⟩ | ⟨after, updated⟩
    · simpa only [step, failed, stateAfter_error] using Stepped.refused isUpdate failed
    · simpa only [step, updated.ran laidOut, stateAfter_ok] using Stepped.updated updated
  · obtain rfl := not_not.mp isUpdate
    cases program : executor.executable with
    | none =>
        simp only [step, Call.perform, execute_missing program, stateAfter_error]
        exact .missing program
    | some executable =>
        simp only [step, Call.perform, stateAfter_execute program]
        exact .executed program

theorem Stepped.sameShape {runtime : Runtime Exe Regs Log} {executor after : InstructionExecutor A Exe Log}
    {call : Call T} (laidOut : WellLaidOut executor) (stepped : Stepped runtime executor call after) :
    SameShape executor after := by
  cases stepped with
  | refused => exact .refl executor
  | updated updated => exact updated.sameShape laidOut
  | missing => exact sameShape_clearMemory executor
  | executed => exact (sameShape_prepared executor).trans (sameShape_afterRun _ _)

/-- An invariant that every kind of call preserves holds along every history. -/
theorem history_invariant {runtime : Runtime Exe Regs Log} {invariant : InstructionExecutor A Exe Log → Prop}
    (preserved : ∀ {executor after : InstructionExecutor A Exe Log} {call : Call T}, WellLaidOut executor →
      invariant executor → Stepped runtime executor call after → invariant after)
    (history : List (Call T)) {executor : InstructionExecutor A Exe Log} (laidOut : WellLaidOut executor)
    (start : invariant executor) :
    WellLaidOut (runHistory (step runtime) history executor) ∧
      invariant (runHistory (step runtime) history executor) := by
  refine runHistory_invariant (fun state => WellLaidOut state ∧ invariant state) ?_ history
    ⟨laidOut, start⟩
  intro call state holds
  have stepped := step_cases holds.1 runtime call
  exact ⟨holds.1.of_sameShape (stepped.sameShape holds.1), preserved holds.1 holds.2 stepped⟩

theorem history_sameShape {runtime : Runtime Exe Regs Log} (history : List (Call T))
    {executor : InstructionExecutor A Exe Log} (laidOut : WellLaidOut executor) :
    SameShape executor (runHistory (step runtime) history executor) :=
  (history_invariant (fun laidOut same stepped => same.trans (stepped.sameShape laidOut)) history laidOut
    (.refl executor)).2

theorem history_laidOut {runtime : Runtime Exe Regs Log} (history : List (Call T))
    {executor : InstructionExecutor A Exe Log} (laidOut : WellLaidOut executor) :
    WellLaidOut (runHistory (step runtime) history executor) :=
  laidOut.of_sameShape (history_sameShape history laidOut)

/-- What every kind of allowed call preserves, with the call added to the
successful ones where it succeeds, holds along every history of such calls. -/
theorem history_related {runtime : Runtime Exe Regs Log}
    (related : InstructionExecutor A Exe Log → List (Call T) → Prop) {allowed : Call T → Prop}
    (preserved : ∀ {executor after : InstructionExecutor A Exe Log} {calls : List (Call T)} {call : Call T},
      WellLaidOut executor → allowed call → related executor calls → Stepped runtime executor call after →
        related after (if succeeded (call.perform runtime executor) then calls ++ [call] else calls))
    {history : List (Call T)} (permitted : ∀ call ∈ history, allowed call)
    {executor : InstructionExecutor A Exe Log} (laidOut : WellLaidOut executor)
    {calls : List (Call T)} (start : related executor calls) :
    related (runHistory (step runtime) history executor) (calls ++ successes runtime history executor) := by
  induction history generalizing executor calls with
  | nil => simpa only [runHistory_nil, successes, List.append_nil] using start
  | cons call rest ih =>
      have stepped := step_cases laidOut runtime call
      have next := ih (fun later member => permitted later (.tail _ member))
        (laidOut.of_sameShape (stepped.sameShape laidOut))
        (preserved laidOut (permitted call (.head _)) start stepped)
      rw [runHistory_cons, successes]
      by_cases success : succeeded (call.perform runtime executor) = true
      · simpa only [if_pos success, List.append_assoc, List.singleton_append] using next
      · simpa only [if_neg success] using next

omit [AccountSizes A] in
theorem ungapped_regions (runtime : Runtime Exe Regs Log) (executor : InstructionExecutor A Exe Log)
    (executable : Exe) : ∀ region ∈ regions runtime executor executable, region.gapSize = 0 := by
  simp [regions, MemoryRegion.newReadonly, MemoryRegion.newWritableGapped, MemoryRegion.newWritable]

end BpfSimulator.InstructionExecutor
