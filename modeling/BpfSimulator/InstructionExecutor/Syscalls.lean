import BpfSimulator.InstructionExecutor.Syscalls.MemOps

/-! The syscalls offered to programs and their registry. -/

set_option autoImplicit false

namespace BpfSimulator.Syscalls

open Foundation

variable {Log : Type}

def maxReturnData : Nat := 1024

def maxSeeds : Nat := 16

def maxSeedLen : Nat := 32

def success : Nat := 0

/-- The third-party functions that syscalls call. -/
structure SyscallRuntime (Log : Type) where
  createProgramAddress : List (List UInt8) → Pubkey → Option Pubkey
  log : Log → String → Log

/-- The prefix of a byte string before its first zero byte. -/
def truncateAtZero (bytes : List UInt8) : List UInt8 :=
  bytes.take ((bytes.findIdx? (· == 0)).getD bytes.length)

def translateStringAndDo (mapping : MemoryMapping) (addr len : Nat) (checkAligned checkSize : Bool)
    (stopTruncatingStringsInSyscalls : Bool) (work : String → SyscallM Log Nat) : SyscallM Log Nat := do
  let slice ← inspecting (translateSlice byteLayout mapping addr len checkAligned checkSize)
  let bytes := readSlice (← get).memory slice
  let message := if stopTruncatingStringsInSyscalls then bytes else truncateAtZero bytes
  match fromUtf8 message with
  | .ok text => work text
  | .error error => throw (.syscall (.invalidString error message))

def syscallAbort : SyscallM Log Nat :=
  throw (.syscall .abort)

def syscallPanic (mapping : MemoryMapping) (file len line column : Nat) : SyscallM Log Nat := do
  let context := (← get).context
  let slice ← inspecting (translateSlice byteLayout mapping file len context.getCheckAligned
    context.getCheckSize)
  let message := truncateAtZero (readSlice (← get).memory slice)
  match fromUtf8 message with
  | .ok text => throw (.syscall (.panic text line column))
  | .error error => throw (.syscall (.invalidString error message))

def syscallLog (runtime : SyscallRuntime Log) (mapping : MemoryMapping) (addr len : Nat) :
    SyscallM Log Nat := do
  let context := (← get).context
  let _ ← translateStringAndDo mapping addr len context.getCheckAligned context.getCheckSize true
    fun text => do
      modify fun state =>
        { state with context :=
          { state.context with logCollector :=
            state.context.logCollector.map fun collector => runtime.log collector ("Program log: " ++ text) } }
      pure 0
  pure 0

/-- The pointer and the length stored in element `index` of a slice of slices. -/
def untranslatedSeed (memory : ByteMemory) (seeds : HostSlice) (index : Nat) : Nat × Nat :=
  (fromLe (memory.read (seeds.hostAddr + sliceLayout.size * index) 8),
    fromLe (memory.read (seeds.hostAddr + sliceLayout.size * index + 8) 8))

def translateSeed (mapping : MemoryMapping) (checkAligned checkSize : Bool) (seed : Nat × Nat) :
    Except ErrorObj HostSlice :=
  if seed.2 > maxSeedLen then .error (.syscall .badSeeds)
  else translateSlice byteLayout mapping seed.1 seed.2 checkAligned checkSize

def translateAndCheckProgramAddressInputs (memory : ByteMemory) (seedsAddr seedsLen programIdAddr : Nat)
    (mapping : MemoryMapping) (checkAligned checkSize : Bool) : Except ErrorObj (List HostSlice × Nat) := do
  let untranslatedSeeds ← translateSlice sliceLayout mapping seedsAddr seedsLen checkAligned checkSize
  if untranslatedSeeds.len > maxSeeds then
    .error (.syscall .badSeeds)
  else
    let seeds ← (List.range untranslatedSeeds.len).mapM fun index =>
      translateSeed mapping checkAligned checkSize (untranslatedSeed memory untranslatedSeeds index)
    let programId ← translateType pubkeyLayout mapping programIdAddr checkAligned
    .ok (seeds, programId)

/-- The public key stored at a host address. -/
def readPubkey (memory : ByteMemory) (hostAddr : Nat) : Pubkey :=
  ⟨memory.read hostAddr 32, ByteMemory.length_read memory hostAddr 32⟩

/-- Store a found address and its bump seed, once both places are known to be
writable and disjoint. -/
def storeProgramAddress (mapping : MemoryMapping) (addressAddr bumpSeedAddr : Nat) (bumpSeed : UInt8)
    (newAddress : Pubkey) : SyscallM Log Nat := do
  let bumpSeedRef ← inspecting (translateTypeMut byteLayout mapping bumpSeedAddr false)
  let address ← inspecting (translateSliceMut byteLayout mapping addressAddr Pubkey.sizeOf false false)
  if !isNonoverlapping bumpSeedRef 1 address.hostAddr Pubkey.sizeOf then
    throw (.syscall .copyOverlapping)
  else
    modify fun state => { state with memory := state.memory.write bumpSeedRef [bumpSeed] }
    modify fun state => { state with memory := state.memory.write address.hostAddr newAddress.bytes }
    pure 0

def tryBumpSeeds (runtime : SyscallRuntime Log) (mapping : MemoryMapping) (seeds : List HostSlice)
    (programId addressAddr bumpSeedAddr : Nat) : Nat → UInt8 → SyscallM Log Nat
  | 0, _ => pure 1
  | remaining + 1, bumpSeed => do
      let memory := (← get).memory
      let seedsWithBump := seeds.map (readSlice memory) ++ [[bumpSeed]]
      match runtime.createProgramAddress seedsWithBump (readPubkey memory programId) with
      | some newAddress => storeProgramAddress mapping addressAddr bumpSeedAddr bumpSeed newAddress
      | none =>
          tryBumpSeeds runtime mapping seeds programId addressAddr bumpSeedAddr remaining
            (if bumpSeed = 0 then 0 else bumpSeed - 1)

def syscallTryFindProgramAddress (runtime : SyscallRuntime Log) (mapping : MemoryMapping)
    (seedsAddr seedsLen programIdAddr addressAddr bumpSeedAddr : Nat) : SyscallM Log Nat := do
  let memory := (← get).memory
  let (seeds, programId) ← inspecting (translateAndCheckProgramAddressInputs memory seedsAddr seedsLen
    programIdAddr mapping false false)
  tryBumpSeeds runtime mapping seeds programId addressAddr bumpSeedAddr 255 255

/-- The data that `sol_set_return_data` copies. -/
def readReturnData (mapping : MemoryMapping) (state : SyscallState Log) (addr len : Nat) :
    Except ErrorObj (List UInt8) :=
  if len = 0 then .ok []
  else
    match translateSlice byteLayout mapping addr len state.context.getCheckAligned state.context.getCheckSize with
    | .ok slice => .ok (readSlice state.memory slice)
    | .error error => .error error

def syscallSetReturnData (mapping : MemoryMapping) (addr len : Nat) : SyscallM Log Nat := do
  if len > maxReturnData then
    throw (.syscall (.returnDataTooLarge len maxReturnData))
  else
    let returnData ← inspecting (readReturnData mapping (← get) addr len)
    modify fun state =>
      { state with context := { state.context with returnData := (state.context.programId, returnData) } }
    pure 0

/-- The part of `sol_get_return_data` that stores: the data first, and then the
program id once its place is known to be writable and disjoint from the data. -/
def storeReturnData (mapping : MemoryMapping) (returnDataAddr length programIdAddr : Nat)
    (programId : Pubkey) (returnData : List UInt8) (checkAligned checkSize : Bool) : SyscallM Log Unit := do
  let toSlice ← inspecting (translateSliceMut byteLayout mapping returnDataAddr length checkAligned checkSize)
  if returnData.length < length then
    throw (.syscall .invokeContextBorrowFailed)
  else if toSlice.len ≠ (returnData.take length).length then
    throw (.syscall .invalidLength)
  else
    modify fun state => { state with memory := state.memory.write toSlice.hostAddr (returnData.take length) }
    let programIdResult ← inspecting (translateTypeMut pubkeyLayout mapping programIdAddr checkAligned)
    if !isNonoverlapping toSlice.hostAddr length programIdResult Pubkey.sizeOf then
      throw (.syscall .copyOverlapping)
    else
      modify fun state => { state with memory := state.memory.write programIdResult programId.bytes }

/-- The result is the full length of the data, not the length stored. -/
def syscallGetReturnData (mapping : MemoryMapping) (returnDataAddr length programIdAddr : Nat) :
    SyscallM Log Nat := do
  let context := (← get).context
  let returnData := context.returnData.2
  let length := min length returnData.length
  if length ≠ 0 then
    storeReturnData mapping returnDataAddr length programIdAddr context.returnData.1 returnData
      context.getCheckAligned context.getCheckSize
    pure returnData.length
  else pure returnData.length

/-- Store a sysvar, unless it is unknown. The place is translated first. -/
def getSysvar (sysvar : Except InstructionError Clock) (varAddr : Nat) (checkAligned : Bool)
    (mapping : MemoryMapping) : SyscallM Log Nat := do
  let var ← inspecting (translateTypeMut clockLayout mapping varAddr checkAligned)
  let clock ← inspecting (sysvar.mapError ErrorObj.instruction)
  modify fun state => { state with memory := state.memory.write var clock.toBytes }
  pure success

def syscallGetClockSysvar (mapping : MemoryMapping) (varAddr : Nat) : SyscallM Log Nat := do
  let context := (← get).context
  getSysvar context.sysvars.getClock varAddr context.getCheckAligned mapping

/-- The syscalls that are registered. -/
inductive Syscall where
  | abort
  | panic
  | log
  | tryFindProgramAddress
  | getClockSysvar
  | memcpy
  | setReturnData
  | getReturnData
  deriving DecidableEq

/-- The five argument registers of a syscall. -/
structure SyscallArgs where
  arg1 : UInt64
  arg2 : UInt64
  arg3 : UInt64
  arg4 : UInt64
  arg5 : UInt64
  deriving DecidableEq

/-- The body of each syscall, applied to the registers it uses. -/
def Syscall.invoke (syscall : Syscall) (runtime : SyscallRuntime Log) (mapping : MemoryMapping)
    (args : SyscallArgs) : SyscallM Log Nat :=
  match syscall with
  | .abort => syscallAbort
  | .panic => syscallPanic mapping args.arg1.toNat args.arg2.toNat args.arg3.toNat args.arg4.toNat
  | .log => syscallLog runtime mapping args.arg1.toNat args.arg2.toNat
  | .tryFindProgramAddress =>
      syscallTryFindProgramAddress runtime mapping args.arg1.toNat args.arg2.toNat args.arg3.toNat
        args.arg4.toNat args.arg5.toNat
  | .getClockSysvar => syscallGetClockSysvar mapping args.arg1.toNat
  | .memcpy => syscallMemcpy mapping args.arg1.toNat args.arg2.toNat args.arg3.toNat
  | .setReturnData => syscallSetReturnData mapping args.arg1.toNat args.arg2.toNat
  | .getReturnData => syscallGetReturnData mapping args.arg1.toNat args.arg2.toNat args.arg3.toNat

/-- A registry of functions under the hashes of their names. -/
abbrev FunctionRegistry := List (Nat × Syscall)

def registerFunctionHashed (hashSymbolName : String → Nat) (registry : FunctionRegistry) (name : String)
    (syscall : Syscall) : Except ExecutorError FunctionRegistry :=
  match registry.lookup (hashSymbolName name) with
  | none => .ok (registry ++ [(hashSymbolName name, syscall)])
  | some registered =>
      if registered = syscall then .ok registry else .error (.elf "symbol hash collision")

/-- The names under which syscalls are registered, in the order of registration. -/
def syscallNames : List (String × Syscall) :=
  [("abort", .abort), ("sol_panic_", .panic), ("sol_log_", .log),
    ("sol_try_find_program_address", .tryFindProgramAddress),
    ("sol_get_clock_sysvar", .getClockSysvar), ("sol_memcpy_", .memcpy),
    ("sol_set_return_data", .setReturnData), ("sol_get_return_data", .getReturnData)]

def getSyscalls (hashSymbolName : String → Nat) : Except ExecutorError FunctionRegistry :=
  syscallNames.foldlM
    (fun registry entry => registerFunctionHashed hashSymbolName registry entry.1 entry.2) []

end BpfSimulator.Syscalls
