import BpfSimulator.InstructionExecutor.Buffer
import BpfSimulator.InstructionExecutor.Vm

/-! The instruction executor: construction, the three updates, execution and
reading results back. -/

set_option autoImplicit false

namespace BpfSimulator

open Foundation Syscalls

/-- The host addresses at which an executor's buffers are allocated. -/
structure HostLayout where
  bufferAddr : Nat
  stackAddr : Nat
  heapAddr : Nat

@[ext]
structure InstructionExecutor (A Exe Log : Type) where
  context : InvokeContext Log
  config : Config
  registry : FunctionRegistry
  instructionSize : Nat
  accountSizes : A
  instructionOffset : Nat
  accountOffsets : List Nat
  programIdOffset : Nat
  buffer : AlignedMemory
  stack : AlignedMemory
  heap : AlignedMemory
  executable : Option Exe

namespace InstructionExecutor

variable {A Exe Regs Log : Type} [AccountSizes A]

abbrev ExecutorM (A Exe Log : Type) := EStateM ExecutorError (InstructionExecutor A Exe Log)

/-- What one account slot adds to the buffer size, before wrapping. The terms
are those of the source, in its order. -/
def accountCapacity (size : Nat) : Nat :=
  1 + (1 + 1 + 1 + 4 + Pubkey.sizeOf + Pubkey.sizeOf + 8) +
    (8 + size + alignOffset size bpfAlignOfU128 + maxPermittedDataIncrease) + 8

/-- The size computed at the top of `new`, with wrapping additions. -/
def bufferCapacity (instructionSize : Nat) (accountSizes : A) : Nat :=
  let size := (List.range (AccountSizes.len accountSizes)).foldl
    (fun size index => wrappingAdd size (accountCapacity (AccountSizes.size accountSizes index))) 8
  wrappingAdd (wrappingAdd size (8 + instructionSize)) Pubkey.sizeOf

/-- Append an empty record for each of the given slots, noting where it starts. -/
def writeEmptyAccounts (accountSizes : A) : List Nat → BufferM (List Nat)
  | [] => pure []
  | index :: rest => do
      let offset ← bufferLen
      writeEmptyAccount (AccountSizes.size accountSizes index)
      let offsets ← writeEmptyAccounts accountSizes rest
      pure (offset :: offsets)

structure Offsets where
  accountOffsets : List Nat
  instructionOffset : Nat
  programIdOffset : Nat

/-- Fill the empty buffer of `new`. -/
def writeInitial (instructionSize : Nat) (accountSizes : A) : BufferM Offsets := do
  let _ ← write none (usizeToLe (AccountSizes.len accountSizes))
  let accountOffsets ← writeEmptyAccounts accountSizes (List.range (AccountSizes.len accountSizes))
  let instructionOffset ← bufferLen
  let _ ← write none (usizeToLe instructionSize)
  let _ ← fillWrite none instructionSize 0
  let programIdOffset ← bufferLen
  let _ ← writeAll none Pubkey.default.bytes
  pure { accountOffsets, instructionOffset, programIdOffset }

def new (runtime : Runtime Exe Regs Log) (host : HostLayout) (instructionSize : Nat) (accountSizes : A) :
    Except ExecutorError (InstructionExecutor A Exe Log) :=
  let capacity := bufferCapacity instructionSize accountSizes
  match writeInitial instructionSize accountSizes (AlignedMemory.withCapacity host.bufferAddr capacity) with
  | .error error _ => .error error
  | .ok offsets buffer => do
      let registry ← getSyscalls runtime.hashSymbolName
      let config := { runtime.defaultConfig with
        maxCallDepth := 64
        externalInternalFunctionHashCollision := true }
      return {
        context := InvokeContext.new
        config
        registry
        instructionSize
        accountSizes
        instructionOffset := offsets.instructionOffset
        accountOffsets := offsets.accountOffsets
        programIdOffset := offsets.programIdOffset
        buffer
        stack := AlignedMemory.zeroFilled host.stackAddr config.stackSize
        heap := AlignedMemory.zeroFilled host.heapAddr heapLength
        executable := none }

/-- Run a buffer function on the executor's buffer. -/
def onBuffer {α : Type} (part : BufferM α) : ExecutorM A Exe Log α :=
  onComponent InstructionExecutor.buffer (fun buffer executor => { executor with buffer }) part

/-- The loading part of `update_program`: parsing and, where asked for and
possible, compiling. -/
def loadExecutable (runtime : Runtime Exe Regs Log) (data : List UInt8) (jit : Bool) :
    Except ExecutorError Exe := do
  let executable ← (runtime.fromElf data).mapError ExecutorError.elf
  if jit && runtime.jitTarget then (runtime.jitCompile executable).mapError ExecutorError.elf
  else pure executable

def updateProgram {T : Type} [ReadableAccount T] (runtime : Runtime Exe Regs Log) (programId : Pubkey)
    (account : T) (jit : Bool) : ExecutorM A Exe Log Unit := do
  let executable ← inspecting (loadExecutable runtime (ReadableAccount.data account) jit)
  modify fun executor => { executor with
    executable := some executable
    context := { executor.context with programId } }
  let _ ← onBuffer (writeAll (some (← get).programIdOffset) programId.bytes)

def updateInstruction (instruction : List UInt8) : ExecutorM A Exe Log Unit := do
  let executor ← get
  if instruction.length > executor.instructionSize then
    throw .invalidInstruction
  else
    let _ ← onBuffer (write (some executor.instructionOffset) (usizeToLe executor.instructionSize))
    let _ ← onBuffer (writeAll (some (executor.instructionOffset + 8)) instruction)

/-- An index without a size or without a recorded offset is a panic. -/
def updateAccount {T : Type} [ReadableAccount T] (index : Nat) (key : Pubkey) (account : T)
    (isSigner isWritable isExecutable : Bool) : ExecutorM A Exe Log Unit := do
  let executor ← get
  if !AccountSizes.answers executor.accountSizes index then
    throw .outOfBounds
  else
    let accountSize := AccountSizes.size executor.accountSizes index
    if (ReadableAccount.data account).length > accountSize then
      throw .invalidAccount
    else
      match executor.accountOffsets[index]? with
      | none => throw .outOfBounds
      | some offset =>
          let _ ← onBuffer
            (writeAccount accountSize (some offset) key account isSigner isWritable isExecutable)

/-- The four regions execution maps. The stack is mapped with a gap of zero. -/
def regions (runtime : Runtime Exe Regs Log) (executor : InstructionExecutor A Exe Log) (executable : Exe) :
    List MemoryRegion :=
  [ MemoryRegion.newReadonly (runtime.roAddr executable) (runtime.roSection executable).length
      (runtime.roStart executable),
    MemoryRegion.newWritableGapped executor.stack.hostAddr executor.stack.len mmStackStart 0,
    MemoryRegion.newWritable executor.heap.hostAddr executor.heap.len mmHeapStart,
    MemoryRegion.newWritable executor.buffer.hostAddr executor.buffer.len mmInputStart ]

/-- Host memory holding the program's read-only section and the three buffers. -/
def hostMemory (runtime : Runtime Exe Regs Log) (executor : InstructionExecutor A Exe Log) (executable : Exe) :
    ByteMemory :=
  ByteMemory.write
    (ByteMemory.write
      (ByteMemory.write
        (ByteMemory.write (fun _ => 0) (runtime.roAddr executable) (runtime.roSection executable))
        executor.stack.hostAddr executor.stack.bytes)
      executor.heap.hostAddr executor.heap.bytes)
    executor.buffer.hostAddr executor.buffer.bytes

def readBack (memory : ByteMemory) (buffer : AlignedMemory) : AlignedMemory :=
  { buffer with bytes := memory.read buffer.hostAddr buffer.len }

/-- Reset the stack or the heap. -/
def fillZero (buffer : AlignedMemory) : AlignedMemory :=
  { buffer with bytes := List.replicate buffer.len 0 }

def clearMemory (executor : InstructionExecutor A Exe Log) : InstructionExecutor A Exe Log :=
  { executor with stack := fillZero executor.stack, heap := fillZero executor.heap }

def clearReturnData (executor : InstructionExecutor A Exe Log) : InstructionExecutor A Exe Log :=
  { executor with context := { executor.context with returnData := (Pubkey.default, []) } }

/-- The state in which the virtual machine of `execute` starts. -/
def startState (runtime : Runtime Exe Regs Log) (executor : InstructionExecutor A Exe Log) (executable : Exe) :
    SyscallState Log where
  context := executor.context
  memory := hostMemory runtime executor executable

def executeMapping (runtime : Runtime Exe Regs Log) (executor : InstructionExecutor A Exe Log)
    (executable : Exe) : MemoryMapping :=
  runtime.memoryMapping (regions runtime executor executable) executor.config
    (runtime.dynamicStackFrames executable)

/-- The run of `execute` on an executor whose memory and return data are cleared. -/
def runExecutable (runtime : Runtime Exe Regs Log) (executor : InstructionExecutor A Exe Log)
    (executable : Exe) : VmOutcome Log :=
  executeProgram runtime executor.registry executable (executeMapping runtime executor executable)
    (runtime.entry executable executor.config) (startState runtime executor executable)

/-- The executor after a run: its context and its buffers are the machine's. -/
def afterRun (executor : InstructionExecutor A Exe Log) (state : SyscallState Log) :
    InstructionExecutor A Exe Log :=
  { executor with
    context := state.context
    buffer := readBack state.memory executor.buffer
    stack := readBack state.memory executor.stack
    heap := readBack state.memory executor.heap }

def execute (runtime : Runtime Exe Regs Log) : ExecutorM A Exe Log Unit := do
  modify clearMemory
  match (← get).executable with
  | none => throw .missingProgram
  | some executable =>
      modify clearReturnData
      let outcome := runExecutable runtime (← get) executable
      modify fun executor => afterRun executor outcome.state
      match outcome.result with
      | .ok code =>
          if code = success then pure ()
          else throw (.instruction (.fromCode code))
      | .error error => throw (.vm error)

def getReturnData (executor : InstructionExecutor A Exe Log) : Option (Pubkey × List UInt8) :=
  if executor.context.returnData.2.isEmpty then none else some executor.context.returnData

/-- `as_slice()[start..stop]`; a range that is reversed or leaves the filled part is a panic. -/
def readRange (bytes : List UInt8) (start stop : Nat) : Except ExecutorError (List UInt8) :=
  if start ≤ stop ∧ stop ≤ bytes.length then .ok (slice bytes start (stop - start)) else .error .outOfBounds

/-- `Pubkey::try_from` and its `unwrap`. -/
def pubkeyFrom (bytes : List UInt8) : Except ExecutorError Pubkey :=
  if size : bytes.length = Pubkey.sizeOf then .ok ⟨bytes, size⟩ else .error .outOfBounds

/-- The account record that starts at `start`. The place of the rent epoch is
computed from the data length found in the record. -/
def readAccount (bytes : List UInt8) (start : Nat) : Except ExecutorError Account := do
  let offset := start + 3
  match bytes[offset]? with
  | none => throw .outOfBounds
  | some byte =>
      let executable := byte == 1
      let offset := offset + 37
      let owner ← pubkeyFrom (← readRange bytes offset (offset + 32))
      let offset := offset + 32
      let lamports := u64FromLe (← readRange bytes offset (offset + 8))
      let offset := offset + 8
      let dataLen := (u64FromLe (← readRange bytes offset (offset + 8))).toNat
      let offset := offset + 8
      let data ← readRange bytes offset (wrappingAdd offset dataLen)
      let offset := wrappingAdd offset dataLen
      let padding := alignOffset dataLen bpfAlignOfU128
      let offset := wrappingAdd offset (wrappingAdd padding maxPermittedDataIncrease)
      let rentEpoch := u64FromLe (← readRange bytes offset (wrappingAdd offset 8))
      return { owner, lamports, data, executable, rentEpoch }

def getAccount (executor : InstructionExecutor A Exe Log) (index : Nat) : Except ExecutorError Account :=
  match executor.accountOffsets[index]? with
  | none => throw .outOfBounds
  | some start => readAccount executor.buffer.bytes start

end InstructionExecutor

end BpfSimulator
