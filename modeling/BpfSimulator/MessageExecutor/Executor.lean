import BpfSimulator.MessageExecutor.ProgramLoader
import BpfSimulator.MessageExecutor.TransactionLoader

/-! The message executor: handing out a loader and processing a loaded
transaction. The transaction context and the message processor are third-party
code, timings are left out. -/

set_option autoImplicit false

namespace BpfSimulator

open Foundation

structure ExecutionRecord where
  keys : List Pubkey
  datas : List Account
  cu : Nat
  deriving DecidableEq

structure MessageExecutor (Programs Sysvars Log : Type) where
  featureSet : FeatureSet
  sysvarCache : Sysvars
  logger : Option Log
  programOwners : KeySet
  builtinPrograms : KeySet
  loadedPrograms : Programs

/-- What `process_message` leaves behind: its result, the transaction context,
the log collector and the units consumed. -/
structure MessageOutcome (Context Log MessageError : Type) where
  result : Except MessageError Unit
  context : Context
  logger : Option Log
  units : Nat

/-- `TransactionContext`, `MessageProcessor` and the values of other crates that
`process` hands to them. -/
structure TransactionProcessor (Batch Sysvars Log Context Budget Rent Hash MessageError : Type) where
  computeBudget : Budget
  rent : Rent
  recentBlockhash : SanitizedMessage → Hash
  newContext (accounts : List TransactionAccount) (rent : Option Rent)
    (instructionStackCapacity instructionTraceCapacity : Nat) : Context
  processMessage (message : SanitizedMessage) (programIndices : List (List UInt16)) (context : Context)
    (rent : Rent) (logger : Option Log) (loadedPrograms modifiedPrograms updatedPrograms : Batch)
    (featureSet : FeatureSet) (computeBudget : Budget) (sysvarCache : Sysvars) (blockhash : Hash)
    (lamportsPerSignature currentAccountsDataLen units : Nat) : MessageOutcome Context Log MessageError
  deconstructWithoutKeys : Context → Except InstructionError (List Account)
  /-- the accounts that a context holds, with the keys it was given for them -/
  accounts : Context → List TransactionAccount

inductive ProcessError (MessageError : Type) where
  | message (error : MessageError)
  | instruction (error : InstructionError)

namespace MessageExecutor

variable {Programs Batch Environment Program WorkingSlot Sysvars Log Context Budget Rent Hash MessageError : Type}

/-- `AccountLoader::from_executor`. -/
def loader (executor : MessageExecutor Programs Sysvars Log) (g : Pubkey → Option Account) :
    AccountLoader Programs where
  g
  featureSet := executor.featureSet
  loadedProgramsCache := executor.loadedPrograms
  programOwners := executor.programOwners
  builtinPrograms := executor.builtinPrograms

section Process

variable (caches : ProgramCaches Programs Batch Environment Program WorkingSlot)
  (processor : TransactionProcessor Batch Sysvars Log Context Budget Rent Hash MessageError)

/-- The call of `MessageProcessor::process_message` that `process` makes. -/
def processMessage (executor : MessageExecutor Programs Sysvars Log) (slot : Slot) (message : SanitizedMessage)
    (loadedTransaction : LoadedTransaction) (loadedPrograms : Batch) : MessageOutcome Context Log MessageError :=
  let context := processor.newContext loadedTransaction.accounts none 10 u64Max
  let p1 := caches.newBatch slot (caches.environments executor.loadedPrograms)
  let p2 := caches.newBatch slot (caches.environments executor.loadedPrograms)
  processor.processMessage message loadedTransaction.programIndices context processor.rent executor.logger
    loadedPrograms p1 p2 executor.featureSet processor.computeBudget executor.sysvarCache
    (processor.recentBlockhash message) 0 0 0

/-- The executor changes by its log collector only, which it shares with the
message processor. -/
def process (slot : Slot) (message : SanitizedMessage) (loadedTransaction : LoadedTransaction)
    (loadedPrograms : Batch) :
    EStateM (ProcessError MessageError) (MessageExecutor Programs Sysvars Log) ExecutionRecord := do
  let outcome := processMessage caches processor (← get) slot message loadedTransaction loadedPrograms
  modify fun executor => { executor with logger := outcome.logger }
  match outcome.result with
  | .error error => throw (.message error)
  | .ok _ =>
      let keys := message.accountKeys
      let datas ← inspecting ((processor.deconstructWithoutKeys outcome.context).mapError .instruction)
      pure { keys, datas, cu := outcome.units }

end Process

end MessageExecutor

end BpfSimulator
