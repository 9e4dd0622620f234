import BpfSimulator.InstructionExecutor.SyscallSimulation
import BpfSimulator.InstructionExecutor.Vm

/-! Runs of a machine that reaches memory only through its mapping. Where the
mappings and the states of two such machines are alike, their runs are: they
use the same number of instructions, make the same syscalls with the same
results, and end alike. -/

set_option autoImplicit false

namespace BpfSimulator

open Foundation Syscalls

/-- The size of a memory access. -/
inductive Width where
  | byte
  | half
  | word
  | doubleWord
  deriving DecidableEq

def Width.bytes : Width → Nat
  | .byte => 1
  | .half => 2
  | .word => 4
  | .doubleWord => 8

/-- The bytes that a store of this size writes of a register. -/
def Width.toLe (width : Width) (value : UInt64) : List UInt8 := (u64ToLe value).take width.bytes

theorem Width.bytes_pos (width : Width) : 0 < width.bytes := by cases width <;> decide

@[simp] theorem Width.length_toLe (width : Width) (value : UInt64) : (width.toLe value).length = width.bytes := by
  rw [toLe, List.length_take, length_u64ToLe]
  cases width <;> rfl

/-- What the registers alone determine about the next instruction. -/
inductive Operation (Regs : Type) where
  | compute (regs : Regs)
  | load (width : Width) (vmAddr : Nat) (resume : Nat → Regs)
  | store (width : Width) (vmAddr : Nat) (value : UInt64) (regs : Regs)
  | call (function : Nat) (args : SyscallArgs) (resume : Nat → Regs)
  | exit (code : Nat)
  | fault (error : EbpfError)

/-- The instruction carried out on a memory. An access that the mapping refuses
is a fault. -/
def Operation.perform {Regs : Type} (mapping : MemoryMapping) (memory : ByteMemory) : Operation Regs → Action Regs
  | .compute regs => .next regs memory
  | .load width vmAddr resume =>
      match mapping.map .load vmAddr width.bytes with
      | .ok hostAddr => .next (resume (fromLe (memory.read hostAddr width.bytes))) memory
      | .error error => .fault error
  | .store width vmAddr value regs =>
      match mapping.map .store vmAddr width.bytes with
      | .ok hostAddr => .next regs (memory.write hostAddr (width.toLe value))
      | .error error => .fault error
  | .call function args resume => .call function args resume
  | .exit code => .exit code
  | .fault error => .fault error

variable {Exe Regs Log : Type}

/-- A program's instructions reach memory only through the mapping. -/
def StepsThrough (runtime : Runtime Exe Regs Log) (mapping : MemoryMapping) (executable : Exe)
    (decode : Regs → Operation Regs) : Prop :=
  ∀ regs memory, runtime.step executable regs memory = (decode regs).perform mapping memory

/-- What one instruction does on two machines. -/
inductive PairedActions (related : ByteMemory → ByteMemory → Prop) : Action Regs → Action Regs → Prop where
  | next {regs : Regs} {memory memory' : ByteMemory} (kept : related memory memory') :
      PairedActions related (.next regs memory) (.next regs memory')
  | call {function : Nat} {args : SyscallArgs} {resume : Nat → Regs} :
      PairedActions related (.call function args resume) (.call function args resume)
  | exit {code : Nat} : PairedActions related (.exit code) (.exit code)
  | fault {error : EbpfError} : PairedActions related (.fault error) (.fault error)

/-- The same syscall with the same result, in related states. -/
structure PairedEvents (related : SyscallState Log → SyscallState Log → Prop)
    (event twin : SyscallEvent Log) : Prop where
  syscall : twin.syscall = event.syscall
  args : twin.args = event.args
  result : twin.result = event.result
  before : related event.before twin.before
  after : related event.after twin.after

structure PairedOutcomes (related : SyscallState Log → SyscallState Log → Prop)
    (outcome twin : VmOutcome Log) : Prop where
  result : twin.result = outcome.result
  used : twin.used = outcome.used
  state : related outcome.state twin.state
  events : List.Forall₂ (PairedEvents related) outcome.events twin.events

namespace Syscalls

variable {mapping mapping' : MemoryMapping} {twins : AccessType → Nat → Nat → Nat → Prop}
  {related : SyscallState Log → SyscallState Log → Prop} (alike : Alike mapping mapping' twins related)

include alike

theorem Alike.perform {state twin : SyscallState Log} (kept : related state twin) (operation : Operation Regs) :
    PairedActions (fun memory memory' => related { state with memory } { twin with memory := memory' })
      (operation.perform mapping state.memory) (operation.perform mapping' twin.memory) := by
  cases operation with
  | compute regs => exact .next kept
  | load width vmAddr resume =>
      have agree := alike.maps .load vmAddr width.bytes width.bytes_pos
      dsimp only [Operation.perform]
      generalize mapping.map .load vmAddr width.bytes = found at agree ⊢
      generalize mapping'.map .load vmAddr width.bytes = found' at agree ⊢
      cases agree with
      | ok paired =>
          dsimp only
          rw [alike.read kept paired]
          exact .next kept
      | error => exact .fault
  | store width vmAddr value regs =>
      have agree := alike.maps .store vmAddr width.bytes width.bytes_pos
      dsimp only [Operation.perform]
      generalize mapping.map .store vmAddr width.bytes = found at agree ⊢
      generalize mapping'.map .store vmAddr width.bytes = found' at agree ⊢
      cases agree with
      | ok paired =>
          refine .next (alike.write kept ?_)
          rwa [Width.length_toLe]
      | error => exact .fault
  | call function args resume => exact .call
  | exit code => exact .exit
  | fault error => exact .fault

/-- The two machines differ in where host memory lies and in how their
instructions reach it. -/
theorem Alike.runProgram {left right : Runtime Exe Regs Log}
    (sameSyscalls : right.toSyscallRuntime = left.toSyscallRuntime) {executable : Exe} {decode : Regs → Operation Regs}
    (steps : StepsThrough left mapping executable decode) (steps' : StepsThrough right mapping' executable decode)
    (registry : FunctionRegistry) (limit : Nat) (regs : Regs) {state twin : SyscallState Log}
    (kept : related state twin) :
    PairedOutcomes related (runProgram left registry executable mapping limit regs state)
      (runProgram right registry executable mapping' limit regs twin) := by
  induction limit generalizing regs state twin with
  | zero => exact ⟨rfl, rfl, kept, .nil⟩
  | succ limit ih =>
      unfold BpfSimulator.runProgram
      have paired := alike.perform kept (decode regs)
      rw [← steps, ← steps'] at paired
      generalize left.step executable regs state.memory = action at paired ⊢
      generalize right.step executable regs twin.memory = action' at paired ⊢
      cases paired with
      | @next regs memory memory' kept =>
          have rest := ih regs kept
          exact ⟨rest.result, congrArg (· + 1) rest.used, rest.state, rest.events⟩
      | exit => exact ⟨rfl, rfl, kept, .nil⟩
      | fault => exact ⟨rfl, rfl, kept, .nil⟩
      | @call function args resume =>
          dsimp only
          cases registry.lookup function with
          | none => exact ⟨rfl, rfl, kept, .nil⟩
          | some syscall =>
              have invoked := alike.invoke left.toSyscallRuntime syscall args state twin kept
              dsimp only
              rw [sameSyscalls]
              generalize syscall.invoke left.toSyscallRuntime mapping args state = outcome at invoked ⊢
              generalize syscall.invoke left.toSyscallRuntime mapping' args twin = outcome' at invoked ⊢
              cases invoked with
              | @ok value value' final final' same finalKept =>
                  subst same
                  have rest := ih (resume value) finalKept
                  have paired : PairedEvents related ⟨syscall, args, state, .ok value, final⟩
                      ⟨syscall, args, twin, .ok value, final'⟩ := ⟨rfl, rfl, rfl, kept, finalKept⟩
                  exact ⟨rest.result, congrArg (· + 1) rest.used, rest.state, .cons paired rest.events⟩
              | @error error final final' finalKept =>
                  have paired : PairedEvents related ⟨syscall, args, state, .error error, final⟩
                      ⟨syscall, args, twin, .error error, final'⟩ := ⟨rfl, rfl, rfl, kept, finalKept⟩
                  exact ⟨rfl, rfl, finalKept, .cons paired .nil⟩

end Syscalls

end BpfSimulator
