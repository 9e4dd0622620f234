import BpfSimulator.InstructionExecutor.SyscallProperties
import BpfSimulator.InstructionExecutor.Vm

/-! What a run can do to the state: change memory between syscalls, and make
genuine syscalls. Everything about runs is derived from their traces. -/

set_option autoImplicit false

namespace BpfSimulator

open Foundation Syscalls

variable {Exe Regs Log : Type}

/-- The event is what invoking its syscall does. -/
def SyscallEvent.Genuine (runtime : SyscallRuntime Log) (mapping : MemoryMapping)
    (event : SyscallEvent Log) : Prop :=
  event.syscall.invoke runtime mapping event.args event.before =
    match event.result with
    | .ok value => .ok value event.after
    | .error error => .error error event.after

theorem SyscallEvent.Genuine.after_eq {runtime : SyscallRuntime Log} {mapping : MemoryMapping}
    {event : SyscallEvent Log} (genuine : event.Genuine runtime mapping) :
    stateAfter (event.syscall.invoke runtime mapping event.args event.before) = event.after := by
  rw [genuine]
  cases event.result <;> rfl

/-- From the first state to the last by memory changes and the given syscalls. -/
inductive Trace (runtime : SyscallRuntime Log) (mapping : MemoryMapping) :
    SyscallState Log → List (SyscallEvent Log) → SyscallState Log → Prop where
  | done (state : SyscallState Log) : Trace runtime mapping state [] state
  | memory {state final : SyscallState Log} {memory : ByteMemory} {events : List (SyscallEvent Log)}
      (rest : Trace runtime mapping { state with memory } events final) :
      Trace runtime mapping state events final
  | syscall {event : SyscallEvent Log} {final : SyscallState Log} {events : List (SyscallEvent Log)}
      (genuine : event.Genuine runtime mapping) (rest : Trace runtime mapping event.after events final) :
      Trace runtime mapping event.before (event :: events) final

section Run

variable (runtime : Runtime Exe Regs Log) (registry : FunctionRegistry) (executable : Exe)
  (mapping : MemoryMapping)

theorem runProgram_trace (limit : Nat) (regs : Regs) (state : SyscallState Log) :
    Trace runtime.toSyscallRuntime mapping state
      (runProgram runtime registry executable mapping limit regs state).events
      (runProgram runtime registry executable mapping limit regs state).state := by
  induction limit generalizing regs state with
  | zero => exact .done state
  | succ limit ih =>
      unfold runProgram
      cases runtime.step executable regs state.memory with
      | next regs memory => exact .memory (ih regs { state with memory })
      | exit code => exact .done state
      | fault error => exact .done state
      | call function args resume =>
          dsimp only
          cases registry.lookup function with
          | none => exact .done state
          | some syscall =>
              dsimp only
              cases ran : syscall.invoke runtime.toSyscallRuntime mapping args state with
              | ok value final =>
                  have genuine : SyscallEvent.Genuine runtime.toSyscallRuntime mapping
                      ⟨syscall, args, state, .ok value, final⟩ := ran
                  exact .syscall genuine (ih (resume value) final)
              | error error final =>
                  have genuine : SyscallEvent.Genuine runtime.toSyscallRuntime mapping
                      ⟨syscall, args, state, .error error, final⟩ := ran
                  exact .syscall genuine (.done final)

theorem runProgram_events_prefix {limit longer : Nat} (stopped : limit ≤ longer) (regs : Regs)
    (state : SyscallState Log) :
    (runProgram runtime registry executable mapping limit regs state).events <+:
      (runProgram runtime registry executable mapping longer regs state).events := by
  induction limit generalizing longer regs state with
  | zero => exact List.nil_prefix
  | succ limit ih =>
      obtain ⟨longer, rfl⟩ := Nat.exists_eq_add_of_le' (Nat.lt_of_lt_of_le (Nat.succ_pos limit) stopped)
      have inner := Nat.le_of_succ_le_succ stopped
      unfold runProgram
      cases runtime.step executable regs state.memory with
      | next regs memory => exact ih inner regs { state with memory }
      | exit code => exact List.prefix_refl _
      | fault error => exact List.prefix_refl _
      | call function args resume =>
          dsimp only
          cases registry.lookup function with
          | none => exact List.prefix_refl _
          | some syscall =>
              dsimp only
              cases syscall.invoke runtime.toSyscallRuntime mapping args state with
              | ok value final => exact (List.prefix_cons_inj _).mpr (ih inner (resume value) final)
              | error error final => exact List.prefix_refl _

theorem runProgram_used_pos {limit : Nat} (allowed : 0 < limit) (regs : Regs) (state : SyscallState Log) :
    0 < (runProgram runtime registry executable mapping limit regs state).used := by
  obtain ⟨limit, rfl⟩ := Nat.exists_eq_add_of_le' allowed
  unfold runProgram
  cases runtime.step executable regs state.memory with
  | next regs memory => exact Nat.succ_pos _
  | exit code => exact Nat.one_pos
  | fault error => exact Nat.one_pos
  | call function args resume =>
      dsimp only
      cases registry.lookup function with
      | none => exact Nat.one_pos
      | some syscall =>
          dsimp only
          cases syscall.invoke runtime.toSyscallRuntime mapping args state with
          | ok value final => exact Nat.succ_pos _
          | error error final => exact Nat.one_pos

theorem runProgram_used_le (limit : Nat) (regs : Regs) (state : SyscallState Log) :
    (runProgram runtime registry executable mapping limit regs state).used ≤ limit := by
  induction limit generalizing regs state with
  | zero => exact Nat.le_refl 0
  | succ limit ih =>
      unfold runProgram
      cases runtime.step executable regs state.memory with
      | next regs memory => exact Nat.succ_le_succ (ih regs { state with memory })
      | exit code => exact Nat.succ_pos limit
      | fault error => exact Nat.succ_pos limit
      | call function args resume =>
          dsimp only
          cases registry.lookup function with
          | none => exact Nat.succ_pos limit
          | some syscall =>
              dsimp only
              cases syscall.invoke runtime.toSyscallRuntime mapping args state with
              | ok value final => exact Nat.succ_le_succ (ih (resume value) final)
              | error error final => exact Nat.succ_pos limit

/-- A greater limit changes nothing, unless the smaller one was used up. -/
theorem runProgram_longer {limit longer : Nat} (within : limit ≤ longer) (regs : Regs) (state : SyscallState Log) :
    runProgram runtime registry executable mapping longer regs state =
        runProgram runtime registry executable mapping limit regs state ∨
      (runProgram runtime registry executable mapping limit regs state).result =
          .error (.ebpf .exceededMaxInstructions) ∧
        (runProgram runtime registry executable mapping limit regs state).used = limit ∧
        limit < (runProgram runtime registry executable mapping longer regs state).used := by
  induction limit generalizing longer regs state with
  | zero =>
      rcases Nat.eq_zero_or_pos longer with rfl | positive
      · exact .inl rfl
      · exact .inr ⟨rfl, rfl, runProgram_used_pos runtime registry executable mapping positive regs state⟩
  | succ limit ih =>
      obtain ⟨longer, rfl⟩ := Nat.exists_eq_add_of_le' (Nat.lt_of_lt_of_le (Nat.succ_pos limit) within)
      have inner := Nat.le_of_succ_le_succ within
      unfold runProgram
      cases runtime.step executable regs state.memory with
      | next regs memory =>
          rcases ih inner regs { state with memory } with same | ⟨exceeded, used, more⟩
          · exact .inl (congrArg (VmOutcome.after none) same)
          · exact .inr ⟨exceeded, congrArg Nat.succ used, Nat.succ_lt_succ more⟩
      | exit code => exact .inl rfl
      | fault error => exact .inl rfl
      | call function args resume =>
          dsimp only
          cases registry.lookup function with
          | none => exact .inl rfl
          | some syscall =>
              dsimp only
              cases syscall.invoke runtime.toSyscallRuntime mapping args state with
              | ok value final =>
                  rcases ih inner (resume value) final with same | ⟨exceeded, used, more⟩
                  · exact .inl (congrArg (VmOutcome.after _) same)
                  · exact .inr ⟨exceeded, congrArg Nat.succ used, Nat.succ_lt_succ more⟩
              | error error final => exact .inl rfl

theorem runProgram_endless {regs : Regs} {state : SyscallState Log}
    (repeats : runtime.step executable regs state.memory = .next regs state.memory) (limit : Nat) :
    runProgram runtime registry executable mapping limit regs state =
      ⟨.error (.ebpf .exceededMaxInstructions), state, limit, []⟩ := by
  induction limit with
  | zero => rfl
  | succ limit ih =>
      unfold runProgram
      rw [repeats]
      dsimp only
      rw [ih]
      rfl

end Run

namespace Trace

variable {runtime : SyscallRuntime Log} {mapping : MemoryMapping} {state final : SyscallState Log}
  {events : List (SyscallEvent Log)}

theorem contextFrame_eq (trace : Trace runtime mapping state events final) :
    contextFrame final = contextFrame state := by
  induction trace with
  | done => rfl
  | memory _ ih => exact ih
  | syscall genuine _ ih =>
      rw [ih, ← genuine.after_eq]
      exact keeps_contextFrame_invoke runtime mapping _ _ _

theorem upTo (trace : Trace runtime mapping state events final) {before after : List (SyscallEvent Log)}
    {event : SyscallEvent Log} (split : events = before ++ event :: after) :
    Trace runtime mapping state before event.before ∧ event.Genuine runtime mapping := by
  induction trace generalizing before with
  | done => simp at split
  | memory _ ih =>
      obtain ⟨earlier, genuine⟩ := ih split
      exact ⟨.memory earlier, genuine⟩
  | @syscall first final events genuine rest ih =>
      cases before with
      | nil =>
          cases split
          exact ⟨.done _, genuine⟩
      | cons head before =>
          simp only [List.cons_append, List.cons.injEq] at split
          obtain ⟨rfl, split⟩ := split
          obtain ⟨earlier, later⟩ := ih split
          exact ⟨.syscall genuine earlier, later⟩

end Trace

end BpfSimulator
