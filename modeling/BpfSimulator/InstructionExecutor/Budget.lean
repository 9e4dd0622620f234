import BpfSimulator.InstructionExecutor.HostMemory
import BpfSimulator.InstructionExecutor.LogHistory

/-! The instruction budget over whole histories. All runs share one budget: a
run that needs no more than what is left is not affected by it, any other one
uses up what is left, and after that no run executes a single instruction. -/

set_option autoImplicit false

namespace BpfSimulator.InstructionExecutor

open Foundation Syscalls

variable {A Exe Regs Log T : Type}

/-- Allowed at least the instructions it uses, the run ends with this outcome. -/
def HaltsWith (runtime : Runtime Exe Regs Log) (executor : InstructionExecutor A Exe Log) (executable : Exe)
    (outcome : VmOutcome Log) : Prop :=
  ∀ limit, outcome.used ≤ limit → runUpTo runtime executor executable limit = outcome

/-- The end of an execution whose run had the given outcome. -/
def concluded (executor : InstructionExecutor A Exe Log) (outcome : VmOutcome Log) :
    EStateM.Result ExecutorError (InstructionExecutor A Exe Log) Unit :=
  let after := afterRun (prepared executor)
    { outcome.state with context := outcome.state.context.consume outcome.used }
  match executeResult outcome.result with
  | .ok _ => .ok () after
  | .error error => .error error after

section Run

variable {runtime : Runtime Exe Regs Log} {executor : InstructionExecutor A Exe Log} {executable : Exe}

theorem execute_concluded (present : executor.executable = some executable) :
    execute runtime executor =
      concluded executor (runUpTo runtime executor executable executor.context.getRemaining) :=
  execute_present present

theorem execute_halting (present : executor.executable = some executable) {outcome : VmOutcome Log}
    (halts : HaltsWith runtime executor executable outcome) (funded : outcome.used ≤ executor.context.getRemaining) :
    execute runtime executor = concluded executor outcome := by
  rw [execute_concluded present, halts _ funded]

/-- A limit that is not used up lets the run end by itself. -/
theorem halts_or_exhausts (limit : Nat) :
    HaltsWith runtime executor executable (runUpTo runtime executor executable limit) ∨
      (runUpTo runtime executor executable limit).result = .error (.ebpf .exceededMaxInstructions) ∧
        (runUpTo runtime executor executable limit).used = limit := by
  by_cases exhausted : (runUpTo runtime executor executable limit).result =
      .error (.ebpf .exceededMaxInstructions) ∧ (runUpTo runtime executor executable limit).used = limit
  · exact .inr exhausted
  · refine .inl fun other enough => ?_
    rcases Nat.le_total limit other with longer | shorter
    · rcases runProgram_longer runtime executor.registry executable _ longer _ _ with same | ⟨exceeded, used, _⟩
      · exact same
      · exact absurd ⟨exceeded, used⟩ exhausted
    · rcases runProgram_longer runtime executor.registry executable _ shorter _ _ with same | ⟨_, _, more⟩
      · exact same.symm
      · exact absurd more (Nat.not_lt.mpr enough)

theorem execute_underfunded (present : executor.executable = some executable)
    (short : ∀ outcome, HaltsWith runtime executor executable outcome →
      executor.context.getRemaining < outcome.used) :
    ∃ after, execute runtime executor = .error (.vm (.ebpf .exceededMaxInstructions)) after ∧
      after.context.getRemaining = 0 := by
  rcases @halts_or_exhausts _ _ _ _ runtime executor executable executor.context.getRemaining with
    halts | ⟨exceeded, used⟩
  · exact absurd (short _ halts) (Nat.not_lt.mpr (runProgram_used_le runtime _ executable _ _ _ _))
  · have result : (runOf runtime executor executable).result = .error (.ebpf .exceededMaxInstructions) := exceeded
    have left : (runOf runtime executor executable).state.context.getRemaining =
        executor.context.getRemaining - (runOf runtime executor executable).used :=
      congrArg (fun frame => frame.2.1) (runOf_contextFrame runtime executor executable)
    refine ⟨afterRun (prepared executor) (runOf runtime executor executable).state, ?_, ?_⟩
    · rw [execute_present present, result]
      rfl
    · refine left.trans (Nat.sub_eq_zero_of_le ?_)
      exact Nat.le_of_eq used.symm

theorem runOf_exhausted (exhausted : executor.context.getRemaining = 0) :
    runOf runtime executor executable =
      ⟨.error (.ebpf .exceededMaxInstructions), startState runtime (prepared executor) executable, 0, []⟩ := by
  rw [runOf_eq, exhausted]
  rfl

theorem afterRun_startState (apart : HostsApart (regions runtime executor executable)) :
    afterRun executor (startState runtime executor executable) = executor := by
  have holds := hostMemory_holds apart
  simp only [afterRun, startState, readBack, holds.buffer, holds.stack, holds.heap]

/-- Without budget an execution does no more than to clear the memory and the return data. -/
theorem execute_exhausted_clears (present : executor.executable = some executable)
    (exhausted : executor.context.getRemaining = 0) (apart : HostsApart (regions runtime executor executable)) :
    execute runtime executor = .error (.vm (.ebpf .exceededMaxInstructions)) (prepared executor) := by
  rw [execute_present present, runOf_exhausted exhausted]
  rw [← regions_of_sameShape (sameShape_prepared executor)] at apart
  simp only [executeResult, afterRun_startState apart]

end Run

variable [AccountSizes A] [ReadableAccount T]

section Steps

variable {runtime : Runtime Exe Regs Log} {executor after : InstructionExecutor A Exe Log} {call : Call T}

omit [AccountSizes A] [ReadableAccount T] in
theorem usedBy_le : usedBy runtime executor call ≤ executor.context.getRemaining := by
  cases call with
  | execute =>
      unfold usedBy
      cases executor.executable with
      | none => exact Nat.zero_le _
      | some executable => exact runProgram_used_le runtime _ executable _ _ _ _
  | _ => exact Nat.zero_le _

omit [AccountSizes A] [ReadableAccount T] in
theorem loggedBy_exhausted (exhausted : executor.context.getRemaining = 0) : loggedBy runtime executor call = [] := by
  cases call with
  | execute =>
      unfold loggedBy
      cases executor.executable with
      | none => rfl
      | some executable =>
          dsimp only
          rw [runOf_exhausted exhausted]
          rfl
  | _ => rfl

theorem Stepped.exhausted {collector : Option Log} (stepped : Stepped runtime executor call after)
    (exhausted : executor.context.getRemaining = 0 ∧ executor.context.logCollector = collector) :
    after.context.getRemaining = 0 ∧ after.context.logCollector = collector := by
  constructor
  · rw [stepped.remaining, exhausted.1, Nat.zero_sub]
  · rw [stepped.logged, loggedBy_exhausted exhausted.1, map_writeTexts_nil, exhausted.2]

end Steps

theorem spent_history {runtime : Runtime Exe Regs Log} (history : List (Call T))
    {executor : InstructionExecutor A Exe Log} (laidOut : WellLaidOut executor) :
    (runHistory (step runtime) history executor).context.getRemaining + instructionsUsed runtime history executor =
      executor.context.getRemaining := by
  induction history generalizing executor with
  | nil => rfl
  | cons call rest ih =>
      have stepped := step_cases laidOut runtime call
      have rest := ih (laidOut.of_sameShape (stepped.sameShape laidOut))
      have left := stepped.remaining
      have within : usedBy runtime executor call ≤ executor.context.getRemaining := usedBy_le
      rw [runHistory_cons, instructionsUsed]
      omega

theorem remaining_endless {runtime : Runtime Exe Regs Log} {executor : InstructionExecutor A Exe Log}
    {executable : Exe} (present : executor.executable = some executable)
    (repeats : let start := startState runtime (prepared executor) executable
      runtime.step executable (runtime.entry executable executor.config) start.memory =
        .next (runtime.entry executable executor.config) start.memory) :
    (step runtime (.execute : Call T) executor).context.getRemaining = 0 := by
  simp only [step, Call.perform, step_execute_endless present repeats]
  exact Nat.sub_self _

theorem withContext_constructed {runtime : Runtime Exe Regs Log} {host : HostLayout} {instructionSize : Nat}
    {accountSizes : A} {fresh : InstructionExecutor A Exe Log}
    (constructed : Constructed runtime host instructionSize accountSizes fresh) :
    withLogCollector none (withSysvars SysvarCache.default fresh) = fresh := by
  have context := constructed.context
  cases fresh
  cases context
  rfl

end BpfSimulator.InstructionExecutor
