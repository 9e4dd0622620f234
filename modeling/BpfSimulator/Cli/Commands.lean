import BpfSimulator.InstructionExecutor.Context
import BpfSimulator.MessageExecutor.AskingLoader
import BpfSimulator.MessageExecutor.Construction

/-! The two commands of the command line: fetching the code of a program, and
simulating an instruction against accounts fetched from a node. The node, the
files and the decoders are third-party; writing a file always succeeds. -/

set_option autoImplicit false

namespace BpfSimulator.Cli

open Foundation

/-- `RpcClient::get_account`. The node may answer differently with every request. -/
abbrev RpcClient (RpcError Node : Type) := Pubkey → Node → Except RpcError Account × Node

variable {RpcError Node Programs Batch Environment Program WorkingSlot Sysvars Log Context Budget Rent Hash
  MessageError Entrypoint : Type}

section GetProgramData

inductive ProgramDataError (RpcError : Type) where
  | rpc (error : RpcError)
  | invalidState
  | wrongState
  | unknownOwner
  | panicked
  deriving DecidableEq

/-- The node and the destination file. -/
structure ProgramDataState (Node : Type) where
  node : Node
  destination : Option (List UInt8)

abbrev ProgramDataM (RpcError Node : Type) := EStateM (ProgramDataError RpcError) (ProgramDataState Node)

def ProgramDataM.getAccount (rpc : RpcClient RpcError Node) (key : Pubkey) : ProgramDataM RpcError Node Account :=
  fun state =>
    let (answer, node) := rpc key state.node
    match answer with
    | .ok account => .ok account { state with node }
    | .error error => .error (.rpc error) { state with node }

def writeAll (bytes : List UInt8) : ProgramDataM RpcError Node PUnit :=
  modify fun state => { state with destination := state.destination.map (· ++ bytes) }

/-- `GetProgramData::run`. The file is emptied before anything is fetched. -/
def getProgramData (loaders : ProgramLoaders Environment Program) (rpc : RpcClient RpcError Node)
    (programId : Pubkey) : ProgramDataM RpcError Node Unit := do
  modify fun state => { state with destination := some [] }
  let account ← ProgramDataM.getAccount rpc programId
  if account.owner = bpfLoaderUpgradeableId then
    match loaders.state account.data with
    | none => throw .invalidState
    | some (.program address) => do
        let account ← ProgramDataM.getAccount rpc address
        match getFrom account.data sizeOfProgramdataMetadata with
        | none => throw .panicked
        | some programdata => writeAll programdata
    | some _ => throw .wrongState
  else if account.owner = bpfLoaderId then writeAll account.data
  else throw .unknownOwner

end GetProgramData

/-- `clock::id()`, `SysvarC1ock11111111111111111111111111111111`. -/
def clockId : Pubkey :=
  ⟨[0x06, 0xa7, 0xd5, 0x17, 0x18, 0xc7, 0x74, 0xc9, 0x28, 0x56, 0x63, 0x98, 0x69, 0x1d, 0x5e, 0xb6,
    0x8b, 0x5e, 0xb8, 0xa3, 0x9b, 0x4b, 0x6d, 0x5c, 0x73, 0x55, 0x5b, 0x21, 0x00, 0x00, 0x00, 0x00], rfl⟩

structure AccountMeta where
  pubkey : Pubkey
  isSigner : Bool
  isWritable : Bool
  deriving DecidableEq

structure Instruction where
  programId : Pubkey
  accounts : List AccountMeta
  data : List UInt8
  deriving DecidableEq

/-- The arguments of the command. -/
structure Simulate where
  programId : Pubkey
  program : String
  instruction : String
  account : List Pubkey
  signerAccount : List Pubkey
  writableAccount : List Pubkey

inductive SimulateError (RpcError : Type) where
  | rpc (error : RpcError)
  | deserialize
  | io
  | decode
  | load (error : LoadError)
  deriving DecidableEq

/-- What the command calls of other crates and of the system. -/
structure SimulateRuntime (Programs Batch Environment Program WorkingSlot Sysvars Log Context Budget Rent Hash
    MessageError Entrypoint : Type) where
  defaults : ExecutorDefaults Programs Environment Program Sysvars Log Entrypoint
  loaders : ProgramLoaders Environment Program
  caches : ProgramCaches Programs Batch Environment Program WorkingSlot
  processor : TransactionProcessor Batch Sysvars Log Context Budget Rent Hash MessageError
  constructInstructionsData : InstructionsData
  features : List Pubkey
  workingSlot : Slot → WorkingSlot
  setClock : Sysvars → Clock → Sysvars
  deserializeClock : List UInt8 → Option Clock
  readFile : String → Option (List UInt8)
  /-- `bs58::decode` -/
  decode : String → Option (List UInt8)
  /-- `Message::new` without a payer -/
  newMessage : Instruction → SanitizedMessage

namespace Simulate

/-- The program account that is simulated. -/
def programData (data : List UInt8) : Account where
  lamports := 1
  data
  owner := bpfLoaderId
  executable := true
  rentEpoch := 0

def toInstruction (options : Simulate) (data : List UInt8) : Instruction where
  programId := options.programId
  accounts := options.account.map fun key =>
    { pubkey := key
      isSigner := options.signerAccount.contains key
      isWritable := options.writableAccount.contains key }
  data

/-- The closure handed to the loader: the simulated program, accounts fetched
before, and accounts fetched now, where a failure stands for an empty account. -/
def accountSource (options : Simulate) (rpc : RpcClient RpcError Node) (programData : Account) (key : Pubkey)
    (accounts : Query.Memo Pubkey Account Node) : Option Account × Query.Memo Pubkey Account Node :=
  if key = options.programId then (some programData, accounts)
  else
    match accounts.table.lookup key with
    | some account => (some account, accounts)
    | none =>
        let (answer, node) := rpc key accounts.source
        let account := answer.toOption.getD Account.default
        (some account, { table := accounts.table ++ [(key, account)], source := node })

/-- The two loading passes. -/
def loadPasses (constructInstructionsData : InstructionsData) (loaders : ProgramLoaders Environment Program)
    (caches : ProgramCaches Programs Batch Environment Program WorkingSlot) (slot : WorkingSlot)
    (message : SanitizedMessage) : AskingLoader.ReplenishM Programs (LoadedTransaction × Batch) := do
  let loadedTransaction ← AskingLoader.loadTransactionAccounts constructInstructionsData message
  let loadedPrograms ← AskingLoader.replenishProgramCache loaders caches slot [message]
  pure (loadedTransaction, loadedPrograms)

/-- What the command prints: how processing ended, and the log. -/
structure Report (Log MessageError : Type) where
  result : Except (ProcessError MessageError) ExecutionRecord
  log : Option Log

abbrev SimulateM (RpcError Node : Type) := EStateM (SimulateError RpcError) Node

def getAccount (rpc : RpcClient RpcError Node) (key : Pubkey) : SimulateM RpcError Node Account := fun node =>
  let (answer, node) := rpc key node
  match answer with
  | .ok account => .ok account node
  | .error error => .error (.rpc error) node

def orFail {α : Type} (error : SimulateError RpcError) : Option α → Except (SimulateError RpcError) α
  | some value => pure value
  | none => throw error

/-- Both passes with the closure, from an empty table of accounts. -/
def load (runtime : SimulateRuntime Programs Batch Environment Program WorkingSlot Sysvars Log Context Budget Rent Hash
      MessageError Entrypoint) (rpc : RpcClient RpcError Node) (options : Simulate) (programData : Account)
    (executor : MessageExecutor Programs Sysvars Log) (slot : Slot) (message : SanitizedMessage) :
    SimulateM RpcError Node ((LoadedTransaction × Batch) × Programs) := fun node =>
  let passes := loadPasses runtime.constructInstructionsData runtime.loaders runtime.caches (runtime.workingSlot slot)
    message ⟨executor.askingLoader, []⟩
  match passes.run (options.accountSource rpc programData) { table := [], source := node } with
  | (.ok loaded state, accounts) => .ok (loaded, state.loader.loadedProgramsCache) accounts.source
  | (.error error _, accounts) => .error (.load error) accounts.source

/-- Processing with a new log, on the cache that loading left. -/
def report (runtime : SimulateRuntime Programs Batch Environment Program WorkingSlot Sysvars Log Context Budget Rent Hash
      MessageError Entrypoint) (executor : MessageExecutor Programs Sysvars Log) (slot : Slot)
    (message : SanitizedMessage) (loaded : (LoadedTransaction × Batch) × Programs) : Report Log MessageError :=
  let ((loadedTransaction, loadedPrograms), cache) := loaded
  let executor := { executor with loadedPrograms := cache, logger := some runtime.defaults.newLog }
  match MessageExecutor.process runtime.caches runtime.processor slot message loadedTransaction loadedPrograms executor with
  | .ok record after => { result := .ok record, log := after.logger }
  | .error error after => { result := .error error, log := after.logger }

def run (runtime : SimulateRuntime Programs Batch Environment Program WorkingSlot Sysvars Log Context Budget Rent Hash
      MessageError Entrypoint) (rpc : RpcClient RpcError Node) (options : Simulate) :
    SimulateM RpcError Node (Report Log MessageError) := do
  let executor ← inspecting
    ((MessageExecutor.new runtime.defaults runtime.caches runtime.features).mapError .load)
  let account ← getAccount rpc clockId
  let clock ← inspecting (orFail .deserialize (runtime.deserializeClock account.data))
  let slot := clock.slot
  let executor := { executor with sysvarCache := runtime.setClock executor.sysvarCache clock }
  let data ← inspecting (orFail .io (runtime.readFile options.program))
  let instructionData ← inspecting (orFail .decode (runtime.decode options.instruction))
  let message := runtime.newMessage (options.toInstruction instructionData)
  let loaded ← load runtime rpc options (programData data) executor slot message
  pure (report runtime executor slot message loaded)

end Simulate

end BpfSimulator.Cli
