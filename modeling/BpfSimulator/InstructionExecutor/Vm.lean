import BpfSimulator.InstructionExecutor.Syscalls

/-! Running a program. What a single instruction does is left to the virtual
machine: it may change registers and any memory, call a function of the
registry, exit or fault. Execution stops when the instruction limit taken from
the context is used up, and the instructions used are charged to the context. -/

set_option autoImplicit false

namespace BpfSimulator

open Foundation Syscalls

/-- What the next instruction of a program does. -/
inductive Action (Regs : Type) where
  | next (regs : Regs) (memory : ByteMemory)
  | call (function : Nat) (args : SyscallArgs) (resume : Nat → Regs)
  | exit (code : Nat)
  | fault (error : EbpfError)

/-- The third-party code an executor runs on: ELF loading, compilation, the
effect of a single instruction, and the construction of memory mappings.
`Exe` is the type of loaded programs and `Regs` that of register files. -/
structure Runtime (Exe Regs Log : Type) extends SyscallRuntime Log where
  hashSymbolName : String → Nat
  defaultConfig : Config
  fromElf : List UInt8 → Except String Exe
  jitCompile : Exe → Except String Exe
  /-- whether the target is one for which programs can be compiled -/
  jitTarget : Bool
  dynamicStackFrames : Exe → Bool
  roAddr : Exe → Nat
  roSection : Exe → List UInt8
  roStart : Exe → Nat
  memoryMapping : List MemoryRegion → Config → Bool → MemoryMapping
  entry : Exe → Config → Regs
  step : Exe → Regs → ByteMemory → Action Regs

/-- A syscall that was made: its arguments, the state it was made in, and what
it returned. -/
structure SyscallEvent (Log : Type) where
  syscall : Syscall
  args : SyscallArgs
  before : SyscallState Log
  result : Except ErrorObj Nat
  after : SyscallState Log

structure VmOutcome (Log : Type) where
  result : Except ErrorObj Nat
  state : SyscallState Log
  used : Nat
  events : List (SyscallEvent Log)

/-- Put one more instruction, and the syscall it made, in front of a run. -/
def VmOutcome.after {Log : Type} (event : Option (SyscallEvent Log)) (rest : VmOutcome Log) :
    VmOutcome Log :=
  { rest with used := rest.used + 1, events := event.toList ++ rest.events }

variable {Exe Regs Log : Type}

/-- Run a program for at most `limit` instructions. Stopped at any smaller
limit it shows the state at that point of the run. -/
def runProgram (runtime : Runtime Exe Regs Log) (registry : FunctionRegistry) (executable : Exe)
    (mapping : MemoryMapping) : Nat → Regs → SyscallState Log → VmOutcome Log
  | 0, _, state => ⟨.error (.ebpf .exceededMaxInstructions), state, 0, []⟩
  | limit + 1, regs, state =>
      match runtime.step executable regs state.memory with
      | .next regs memory =>
          (runProgram runtime registry executable mapping limit regs { state with memory }).after none
      | .exit code => ⟨.ok code, state, 1, []⟩
      | .fault error => ⟨.error (.ebpf error), state, 1, []⟩
      | .call function args resume =>
          match registry.lookup function with
          | none => ⟨.error (.ebpf .unsupportedInstruction), state, 1, []⟩
          | some syscall =>
              match syscall.invoke runtime.toSyscallRuntime mapping args state with
              | .ok value final =>
                  (runProgram runtime registry executable mapping limit (resume value) final).after
                    (some ⟨syscall, args, state, .ok value, final⟩)
              | .error error final =>
                  ⟨.error error, final, 1, [⟨syscall, args, state, .error error, final⟩]⟩

/-- `EbpfVm::execute_program`: the limit is what the context has left, and the
context is charged for what was used. -/
def executeProgram (runtime : Runtime Exe Regs Log) (registry : FunctionRegistry) (executable : Exe)
    (mapping : MemoryMapping) (regs : Regs) (state : SyscallState Log) : VmOutcome Log :=
  let outcome := runProgram runtime registry executable mapping state.context.getRemaining regs state
  { outcome with state :=
      { outcome.state with context := outcome.state.context.consume outcome.used } }

end BpfSimulator
