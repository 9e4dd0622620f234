import BpfSimulator.InstructionExecutor.ScriptRuntime

/-! What executions of one executor share. Stack, heap and return data are
reset before every run; the instruction budget is only ever charged. -/

set_option autoImplicit false

namespace BpfSimulator.InstructionExecutor

open Foundation Syscalls

variable {A Exe Regs Log T : Type} [AccountSizes A] [ReadableAccount T]

/-- What a run starts from besides its program, its input and the sysvars. -/
structure Environment where
  stack : List UInt8
  heap : List UInt8
  returnData : Pubkey × List UInt8
  remaining : Nat
  deriving DecidableEq

def environment (executor : InstructionExecutor A Exe Log) : Environment where
  stack := (prepared executor).stack.bytes
  heap := (prepared executor).heap.bytes
  returnData := (prepared executor).context.returnData
  remaining := (prepared executor).context.getRemaining

/-- `context_mut().sysvars_mut()`. -/
def withSysvars (sysvars : SysvarCache) (executor : InstructionExecutor A Exe Log) :
    InstructionExecutor A Exe Log :=
  { executor with context := { executor.context with sysvars } }

/-- Some execution of the history found a program loaded. -/
def RanProgram (runtime : Runtime Exe Regs Log) (history : List (Call T))
    (executor : InstructionExecutor A Exe Log) : Prop :=
  ∃ before after, history = before ++ .execute :: after ∧
    (runHistory (step runtime) before executor).executable ≠ none

/-- The same program on the same input. -/
structure SameInput (left right : InstructionExecutor A Exe Log) : Prop where
  executable : right.executable = left.executable
  programId : right.context.programId = left.context.programId
  input : right.buffer.bytes = left.buffer.bytes

/-- An execution is like the first of a fresh executor: it starts from the same
environment, and with the same program and input it does exactly the same. -/
structure Isolated (T : Type) [ReadableAccount T] (runtime : Runtime Exe Regs Log)
    (fresh executor : InstructionExecutor A Exe Log) : Prop where
  environment : environment executor = environment fresh
  outcome : ∀ updates : List (Call T), (∀ call ∈ updates, call ≠ .execute) →
    SameInput executor (runHistory (step runtime) updates fresh) →
      execute runtime (runHistory (step runtime) updates fresh) = execute runtime executor

def usedBy (runtime : Runtime Exe Regs Log) (executor : InstructionExecutor A Exe Log) : Call T → Nat
  | .execute =>
      match executor.executable with
      | none => 0
      | some executable => (runOf runtime executor executable).used
  | _ => 0

/-- The instructions that all runs of a history use together. -/
def instructionsUsed (runtime : Runtime Exe Regs Log) :
    List (Call T) → InstructionExecutor A Exe Log → Nat
  | [], _ => 0
  | call :: rest, executor =>
      usedBy runtime executor call + instructionsUsed runtime rest (step runtime call executor)

section Steps

variable {runtime : Runtime Exe Regs Log} {executor after : InstructionExecutor A Exe Log} {call : Call T}

theorem Stepped.remaining (stepped : Stepped runtime executor call after) :
    after.context.getRemaining = executor.context.getRemaining - usedBy runtime executor call := by
  cases stepped with
  | refused isUpdate =>
      cases call with
      | execute => exact absurd rfl isUpdate
      | _ => rfl
  | updated updated => cases updated <;> rfl
  | missing missing =>
      simp only [usedBy, missing]
      rfl
  | @executed executable present =>
      simp only [usedBy, present]
      exact congrArg (fun frame => frame.2.1) (runOf_contextFrame runtime executor executable)

theorem Stepped.kept {sysvars : SysvarCache} (stepped : Stepped runtime executor call after)
    (kept : executor.context.sysvars = sysvars ∧ executor.context.logCollector = none) :
    after.context.sysvars = sysvars ∧ after.context.logCollector = none := by
  cases stepped with
  | refused => exact kept
  | updated updated => cases updated <;> exact kept
  | missing => exact kept
  | @executed executable present =>
      have frame := runOf_contextFrame runtime executor executable
      simp only [contextFrame, Prod.mk.injEq] at frame
      obtain ⟨sameSysvars, _, _, sameLog⟩ := frame
      rw [kept.2, Option.isSome_none, Option.isSome_eq_false_iff, Option.isNone_iff_eq_none] at sameLog
      exact ⟨sameSysvars.trans kept.1, sameLog⟩

end Steps

theorem remaining_history {runtime : Runtime Exe Regs Log} (history : List (Call T))
    {executor : InstructionExecutor A Exe Log} (laidOut : WellLaidOut executor) :
    (runHistory (step runtime) history executor).context.getRemaining =
      executor.context.getRemaining - instructionsUsed runtime history executor := by
  induction history generalizing executor with
  | nil => rfl
  | cons call rest ih =>
      have stepped := step_cases laidOut runtime call
      rw [runHistory_cons, ih (laidOut.of_sameShape (stepped.sameShape laidOut)), stepped.remaining,
        instructionsUsed, Nat.sub_sub]

theorem ranProgram_cons {runtime : Runtime Exe Regs Log} {call : Call T} {rest : List (Call T)}
    {executor : InstructionExecutor A Exe Log} :
    RanProgram runtime (call :: rest) executor ↔
      (call = .execute ∧ executor.executable ≠ none) ∨ RanProgram runtime rest (step runtime call executor) := by
  constructor
  · intro ran
    obtain ⟨before, after, split, loaded⟩ := ran
    cases before with
    | nil =>
        cases split
        exact .inl ⟨rfl, loaded⟩
    | cons first before =>
        cases split
        exact .inr ⟨before, after, rfl, loaded⟩
  · intro ran
    rcases ran with ⟨rfl, loaded⟩ | ⟨before, after, rfl, loaded⟩
    · exact ⟨[], rest, rfl, loaded⟩
    · exact ⟨call :: before, after, rfl, loaded⟩

theorem instructionsUsed_eq_zero_iff {runtime : Runtime Exe Regs Log} (history : List (Call T))
    {executor : InstructionExecutor A Exe Log} (laidOut : WellLaidOut executor)
    (funded : 0 < executor.context.getRemaining) :
    instructionsUsed runtime history executor = 0 ↔ ¬ RanProgram runtime history executor := by
  induction history generalizing executor with
  | nil =>
      refine iff_of_true rfl ?_
      intro ran
      obtain ⟨before, after, split, _⟩ := ran
      simp at split
  | cons call rest ih =>
      have stepped := step_cases laidOut runtime call
      have unusedIff : usedBy runtime executor call = 0 ↔ ¬ (call = .execute ∧ executor.executable ≠ none) := by
        cases call with
        | execute =>
            cases program : executor.executable with
            | none => simp [usedBy, program]
            | some executable =>
                have positive := runOf_used_pos runtime executor executable funded
                simp [usedBy, program, Nat.pos_iff_ne_zero.mp positive]
        | _ => simp [usedBy]
      rw [instructionsUsed, ranProgram_cons, Nat.add_eq_zero_iff, not_or, unusedIff]
      refine and_congr_right fun unused => ?_
      have kept := stepped.remaining
      rw [unusedIff.mpr unused, Nat.sub_zero] at kept
      exact ih (laidOut.of_sameShape (stepped.sameShape laidOut)) (kept ▸ funded)

theorem SameBlock.eq {before after : AlignedMemory} (same : SameBlock before after)
    (bytes : after.bytes = before.bytes) : after = before := by
  cases before
  cases after
  simp only [AlignedMemory.mk.injEq]
  exact ⟨same.hostAddr, same.maxLen, bytes, same.uncheckedAppends⟩

theorem SameBlock.fillZero_eq {before after : AlignedMemory} (same : SameBlock before after) :
    fillZero after = fillZero before := by
  simp only [fillZero, AlignedMemory.mk.injEq, same.len, true_and]
  exact ⟨same.hostAddr, same.maxLen, same.uncheckedAppends⟩

section Prepared

variable {left right : InstructionExecutor A Exe Log}

omit [AccountSizes A] in
theorem environment_of_sameShape (shape : SameShape left right) :
    environment right = { environment left with remaining := right.context.getRemaining } := by
  have stack := shape.stack.fillZero_eq
  have heap := shape.heap.fillZero_eq
  simp only [environment, prepared, clearReturnData, clearMemory, stack, heap]
  rfl

omit [AccountSizes A] in
theorem prepared_eq (shape : SameShape left right) (same : SameInput left right)
    (sysvars : right.context.sysvars = left.context.sysvars)
    (log : right.context.logCollector = left.context.logCollector)
    (budget : right.context.getRemaining = left.context.getRemaining) : prepared right = prepared left := by
  have context : (prepared right).context = (prepared left).context := by
    simp only [prepared, clearReturnData, clearMemory, InvokeContext.mk.injEq, and_true]
    exact ⟨sysvars, budget, log, same.programId⟩
  exact InstructionExecutor.ext context shape.config shape.registry shape.instructionSize shape.accountSizes
    shape.instructionOffset shape.accountOffsets shape.programIdOffset (shape.buffer.eq same.input)
    shape.stack.fillZero_eq shape.heap.fillZero_eq same.executable

end Prepared

omit [AccountSizes A] in
theorem execute_eq_of_prepared {runtime : Runtime Exe Regs Log} {left right : InstructionExecutor A Exe Log}
    {executable : Exe} (present : left.executable = some executable) (same : prepared right = prepared left) :
    execute runtime right = execute runtime left := by
  have loaded : right.executable = some executable := (congrArg (·.executable) same).trans present
  rw [execute_present present, execute_present loaded]
  simp only [runOf, same]

omit [AccountSizes A] in
theorem sameShape_withSysvars (sysvars : SysvarCache) (executor : InstructionExecutor A Exe Log) :
    SameShape executor (withSysvars sysvars executor) :=
  ⟨rfl, rfl, rfl, rfl, rfl, rfl, rfl, .refl _, .refl _, .refl _⟩

theorem environment_constructed {runtime : Runtime Exe Regs Log} {host : HostLayout} {instructionSize : Nat}
    {accountSizes : A} {fresh : InstructionExecutor A Exe Log}
    (constructed : Constructed runtime host instructionSize accountSizes fresh) (sysvars : SysvarCache) :
    environment (withSysvars sysvars fresh) =
      ⟨List.replicate fresh.config.stackSize 0, List.replicate heapLength 0, (Pubkey.default, []), u64Max / 256⟩ := by
  have stack : fresh.stack.len = fresh.config.stackSize := by
    rw [constructed.stack, AlignedMemory.zeroFilled_len]
  have heap : fresh.heap.len = heapLength := by
    rw [constructed.heap, AlignedMemory.zeroFilled_len]
  simp only [environment, prepared, clearReturnData, clearMemory, fillZero, withSysvars, stack, heap,
    InvokeContext.getRemaining, constructed.context, InvokeContext.new]

/-- After any history a run starts from cleared memory and return data, and
from what all earlier runs left of the budget. An execution is therefore like
the first of a fresh executor exactly when no earlier one ran a program. -/
theorem execution_isolated_iff {runtime : Runtime Exe Regs Log} {host : HostLayout} {instructionSize : Nat}
    {accountSizes : A} {fresh : InstructionExecutor A Exe Log}
    (bounded : inputLength (slotSizes accountSizes) instructionSize ≤ isizeMax)
    (built : new runtime host instructionSize accountSizes = .ok fresh) (sysvars : SysvarCache)
    (history : List (Call T)) {executable : Exe} :
    let first := withSysvars sysvars fresh
    let executor := runHistory (step runtime) history first
    executor.executable = some executable →
      environment first = ⟨List.replicate fresh.config.stackSize 0, List.replicate heapLength 0,
          (Pubkey.default, []), u64Max / 256⟩ ∧
        environment executor =
          { environment first with remaining := u64Max / 256 - instructionsUsed runtime history first } ∧
        (Isolated T runtime first executor ↔ ¬ RanProgram runtime history first) := by
  intro first executor present
  have constructed := new_constructed bounded built
  have laidOut : WellLaidOut first := constructed.laidOut.of_sameShape (sameShape_withSysvars sysvars fresh)
  have start : environment first = _ := environment_constructed constructed sysvars
  have budget : first.context.getRemaining = u64Max / 256 := congrArg Environment.remaining start
  have funded : 0 < first.context.getRemaining := by
    rw [budget]
    decide
  have reached : ∀ calls : List (Call T), environment (runHistory (step runtime) calls first) =
      { environment first with remaining := u64Max / 256 - instructionsUsed runtime calls first } := by
    intro calls
    rw [environment_of_sameShape (history_sameShape calls laidOut), remaining_history calls laidOut, budget]
  have context : first.context.sysvars = sysvars ∧ first.context.logCollector = none :=
    ⟨rfl, congrArg InvokeContext.logCollector constructed.context⟩
  have kept : ∀ calls : List (Call T), (runHistory (step runtime) calls first).context.sysvars = sysvars ∧
      (runHistory (step runtime) calls first).context.logCollector = none := fun calls =>
    (history_invariant (fun _ kept stepped => stepped.kept kept) calls laidOut context).2
  refine ⟨start, reached history, ?_⟩
  rw [← instructionsUsed_eq_zero_iff history laidOut funded]
  constructor
  · intro isolated
    have same := congrArg Environment.remaining isolated.environment
    rw [reached history, start] at same
    have positive : 0 < u64Max / 256 := by decide
    dsimp only at same
    omega
  · intro unused
    have environments : environment executor = environment first := by
      rw [reached history, unused, start, Nat.sub_zero]
    refine ⟨environments, fun updates noExecute same => ?_⟩
    have noRun : ¬ RanProgram runtime updates first := by
      intro ran
      obtain ⟨before, after, split, _⟩ := ran
      exact noExecute .execute (by simp [split]) rfl
    have shape : SameShape executor (runHistory (step runtime) updates first) :=
      (history_sameShape history laidOut).symm.trans (history_sameShape updates laidOut)
    refine execute_eq_of_prepared present (prepared_eq shape same ?_ ?_ ?_)
    · rw [(kept updates).1, (kept history).1]
    · rw [(kept updates).2, (kept history).2]
    · rw [remaining_history updates laidOut, remaining_history history laidOut, unused,
        (instructionsUsed_eq_zero_iff updates laidOut funded).mpr noRun]

omit [AccountSizes A] in
theorem execute_exhausted {runtime : Runtime Exe Regs Log} {executor : InstructionExecutor A Exe Log}
    {executable : Exe} (present : executor.executable = some executable)
    (exhausted : executor.context.getRemaining = 0) :
    ∃ after, execute runtime executor = .error (.vm (.ebpf .exceededMaxInstructions)) after := by
  have result : (runOf runtime executor executable).result = .error (.ebpf .exceededMaxInstructions) := by
    rw [runOf_eq, exhausted]
    rfl
  rw [execute_present present, result]
  exact ⟨_, rfl⟩

omit [AccountSizes A] in
theorem step_execute_endless {runtime : Runtime Exe Regs Log} {executor : InstructionExecutor A Exe Log}
    {executable : Exe} (present : executor.executable = some executable)
    (repeats : let start := startState runtime (prepared executor) executable
      runtime.step executable (runtime.entry executable executor.config) start.memory =
        .next (runtime.entry executable executor.config) start.memory) :
    stateAfter (execute runtime executor) =
      let start := startState runtime (prepared executor) executable
      afterRun (prepared executor) { start with context := start.context.consume executor.context.getRemaining } := by
  rw [stateAfter_execute present, runOf_eq, runUpTo, runProgram_endless runtime _ executable _ repeats]

/-- The program that loops if the first byte of its instruction data is one. -/
def loopOnOne : Nat → ByteMemory → Action Nat := fun _ memory =>
  if memory 0x100000010 = 1 then .next 0 memory else .exit 0

/-- Load the program and give it one byte of data. -/
def loadAndGive (byte : UInt8) : List (Call Account) :=
  [.updateProgram (.filled 1) scriptAccount false, .updateInstruction [byte]]

theorem execution_isolated_iff_first : ∃ fresh,
    new (scriptRuntime loopOnOne) scriptHost 1 ([] : List Nat) = .ok fresh ∧
      let first := withSysvars SysvarCache.default fresh
      Isolated Account (scriptRuntime loopOnOne) first
        (runHistory (step (scriptRuntime loopOnOne)) (loadAndGive 0) first) := by
  have bounded : inputLength (slotSizes ([] : List Nat)) 1 ≤ isizeMax := by decide
  have built : new (scriptRuntime loopOnOne) scriptHost 1 ([] : List Nat) = .ok _ := rfl
  refine ⟨_, built, (execution_isolated_iff bounded built SysvarCache.default (loadAndGive 0) rfl).2.2.mpr ?_⟩
  intro ran
  obtain ⟨before, after, split, _⟩ := ran
  have member : Call.execute ∈ loadAndGive 0 := by simp [split]
  simp [loadAndGive] at member

def loopExecutor : { fresh : InstructionExecutor (List Nat) Unit Unit //
    new (scriptRuntime loopOnOne) scriptHost 1 ([] : List Nat) = .ok fresh } := ⟨_, rfl⟩

/-- After one looping run the budget is gone: the same program on the same
input, which a fresh executor runs successfully, fails. -/
theorem execution_not_isolated :
    let runtime := scriptRuntime loopOnOne
    let first := runHistory (step runtime) (loadAndGive 0) loopExecutor.val
    let loaded := runHistory (step runtime) (loadAndGive 1) loopExecutor.val
    let reused := step runtime (.updateInstruction [0] : Call Account) (step runtime (.execute : Call Account) loaded)
    SameInput first reused ∧ (environment reused).remaining < (environment first).remaining ∧
      (∃ after, execute runtime first = .ok () after) ∧
      ∃ after, execute runtime reused = .error (.vm (.ebpf .exceededMaxInstructions)) after := by
  intro runtime first loaded reused
  have present : loaded.executable = some () := rfl
  let start := startState runtime (prepared loaded) ()
  have ran : step runtime (.execute : Call Account) loaded =
      afterRun (prepared loaded) { start with context := start.context.consume loaded.context.getRemaining } :=
    step_execute_endless present rfl
  have final : reused = step runtime (.updateInstruction [0] : Call Account)
      (afterRun (prepared loaded) { start with context := start.context.consume loaded.context.getRemaining }) :=
    congrArg (step runtime (.updateInstruction [0] : Call Account)) ran
  rw [final]
  refine ⟨⟨by decide, by decide, by decide⟩, by decide, ⟨_, rfl⟩, ?_⟩
  exact execute_exhausted (show _ = some () by decide) (by decide)

end BpfSimulator.InstructionExecutor
