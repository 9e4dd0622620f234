import BpfSimulator.Foundation.Asking
import BpfSimulator.MessageExecutor.Executor

/-! The loaders over an account source that is called again for every account:
a closure that may answer differently each time. Against fixed answers they are
the loaders over a fixed source. -/

set_option autoImplicit false

namespace BpfSimulator

open Foundation

/-- Loading that calls the closure `G`. -/
abbrev LoaderM (σ α : Type) := AskM Pubkey (Option Account) LoadError σ α

/-- `AccountLoader` but for its closure. -/
structure AskingLoader (Programs : Type) where
  featureSet : FeatureSet
  loadedProgramsCache : Programs
  programOwners : KeySet
  builtinPrograms : KeySet

/-- `AccountLoader::from_executor`. -/
def MessageExecutor.askingLoader {Programs Sysvars Log : Type} (executor : MessageExecutor Programs Sysvars Log) :
    AskingLoader Programs where
  featureSet := executor.featureSet
  loadedProgramsCache := executor.loadedPrograms
  programOwners := executor.programOwners
  builtinPrograms := executor.builtinPrograms

namespace AskingLoader

variable {σ Programs Batch Environment Program WorkingSlot : Type}

def answering (loader : AskingLoader Programs) (g : Pubkey → Option Account) : AccountLoader Programs where
  g
  featureSet := loader.featureSet
  loadedProgramsCache := loader.loadedProgramsCache
  programOwners := loader.programOwners
  builtinPrograms := loader.builtinPrograms

def getAccountWithFixedRoot (key : Pubkey) : LoaderM σ (Option Account) := .ask key

section Transaction

variable (constructInstructionsData : InstructionsData)

def loadMessageAccount (message : SanitizedMessage) (key : Pubkey) : LoaderM σ TransactionAccount :=
  if key = instructionsSysvarId then
    match AccountLoader.constructInstructionsAccount constructInstructionsData message with
    | none => .fail .panicked
    | some account => pure (key, account)
  else do
    match ← getAccountWithFixedRoot key with
    | none => .fail (.transaction .accountNotFound)
    | some account => pure (key, account)

def findOwner (builtinsStartIndex : Nat) (accounts : List TransactionAccount) (ownerId : Pubkey) :
    LoaderM σ (List TransactionAccount × Nat) :=
  if accounts.length < builtinsStartIndex then .fail (.transaction .programAccountNotFound)
  else
    match (accounts.drop builtinsStartIndex).findIdx? (fun account => account.1 = ownerId) with
    | some ownerIndex => pure (accounts, builtinsStartIndex + ownerIndex)
    | none => do
        match ← getAccountWithFixedRoot ownerId with
        | none => .fail (.transaction .programAccountNotFound)
        | some ownerAccount => pure (accounts ++ [(ownerId, ownerAccount)], accounts.length)

def resolveProgram (builtinsStartIndex : Nat) : Nat → List TransactionAccount → List UInt16 → Nat →
    LoaderM σ (List TransactionAccount × List UInt16)
  | 0, _, _, _ => .fail (.transaction .callChainTooDeep)
  | rounds + 1, accounts, accountIndices, programIndex =>
      match accounts[programIndex]? with
      | none => .fail (.transaction .programAccountNotFound)
      | some (programId, programAccount) =>
          if programId = nativeLoaderId then pure (accounts, accountIndices)
          else
            let accountIndices := UInt16.ofNat programIndex :: accountIndices
            if programAccount.owner = nativeLoaderId then pure (accounts, accountIndices)
            else do
              let (accounts, ownerIndex) ← findOwner builtinsStartIndex accounts programAccount.owner
              resolveProgram builtinsStartIndex rounds accounts accountIndices ownerIndex

def resolvePrograms (builtinsStartIndex : Nat) : List CompiledInstruction → List TransactionAccount →
    List (List UInt16) → LoaderM σ (List TransactionAccount × List (List UInt16))
  | [], accounts, programIndices => pure (accounts, programIndices)
  | instruction :: rest, accounts, programIndices => do
      let (accounts, accountIndices) ←
        resolveProgram builtinsStartIndex 5 accounts [] instruction.programIdIndex.toNat
      resolvePrograms builtinsStartIndex rest accounts (programIndices ++ [accountIndices])

def loadTransactionAccounts (message : SanitizedMessage) : LoaderM σ LoadedTransaction := do
  let accounts ← message.accountKeys.mapM (loadMessageAccount constructInstructionsData message)
  let builtinsStartIndex := accounts.length
  let (accounts, programIndices) ← resolvePrograms builtinsStartIndex message.instructions accounts []
  pure { accounts, programIndices, rent := 0, rentDebits := [] }

end Transaction

/-- The loader while it replenishes, with what it did so far. -/
structure Replenishing (Programs : Type) where
  loader : AskingLoader Programs
  events : List AccountLoader.CacheEvent

def Replenishing.answering (state : Replenishing Programs) (g : Pubkey → Option Account) :
    AccountLoader.Replenishing Programs where
  loader := state.loader.answering g
  events := state.events

abbrev ReplenishM (Programs α : Type) := LoaderM (Replenishing Programs) α

def current : ReplenishM Programs (Replenishing Programs) := .lift get

def record (event : AccountLoader.CacheEvent) : ReplenishM Programs PUnit :=
  .lift (modify fun state => { state with events := state.events ++ [event] })

def setCache (loadedProgramsCache : Programs) : ReplenishM Programs PUnit :=
  .lift (modify fun state => { state with loader := { state.loader with loadedProgramsCache } })

section Program

variable (loaders : ProgramLoaders Environment Program)
  (caches : ProgramCaches Programs Batch Environment Program WorkingSlot)

def loadProgramAccounts (pubkey : Pubkey) : LoaderM σ ProgramAccountLoadResult := do
  match ← getAccountWithFixedRoot pubkey with
  | none => pure .accountNotFound
  | some programAccount =>
      if programAccount.owner = loaderV4Id then
        match loaders.getState programAccount.data with
        | some state =>
            if state.status = .retracted then pure .invalidV4Program
            else pure (.programOfLoaderV4 programAccount state.slot)
        | none => pure .invalidV4Program
      else if programAccount.owner ≠ bpfLoaderUpgradeableId then pure (.programOfLoaderV1orV2 programAccount)
      else
        match loaders.state programAccount.data with
        | some (.program programdataAddress) =>
            match ← getAccountWithFixedRoot programdataAddress with
            | none => pure .accountNotFound
            | some programdataAccount =>
                match loaders.state programdataAccount.data with
                | some (.programData slot _) => pure (.programOfLoaderV3 programAccount programdataAccount slot)
                | _ => pure .invalidAccountData
        | _ => pure .invalidAccountData

/-- Building a program from loaded accounts, which asks for no account. -/
def programOf (loader : AskingLoader Programs) (environments : ProgramRuntimeEnvironments Environment) (slot : Slot)
    (reload : Bool) (accounts : ProgramAccountLoadResult) : Except InstructionError Program :=
  (loader.answering fun _ => none).programOf loaders environments slot reload accounts

def loadProgram (loader : AskingLoader Programs) (slot : Slot) (pubkey : Pubkey) : LoaderM σ Program := do
  let environments := caches.getEnvironmentsForEpoch loader.loadedProgramsCache (slot / defaultSlotsPerEpoch)
  let reload := false
  match loader.programOf loaders environments slot reload (← loadProgramAccounts loaders pubkey) with
  | .ok program => pure program
  | .error _ => pure (loaders.newTombstone slot (.failedVerification environments.programRuntimeV1))

end Program

section Search

variable (loader : AskingLoader Programs)

def searchMessageKey (missingPrograms : List SearchedProgram) (key : Pubkey) : LoaderM σ (List SearchedProgram) := do
  match ← getAccountWithFixedRoot key with
  | none => .fail (.transaction .accountNotFound)
  | some account =>
      if loader.programOwners.contains account.owner then pure (AccountLoader.searchProgram missingPrograms key)
      else pure missingPrograms

def searchPrograms (messages : List SanitizedMessage) : LoaderM σ (List SearchedProgram) := do
  let missingPrograms ← messages.foldlM
    (fun missingPrograms message => message.accountKeys.foldlM loader.searchMessageKey missingPrograms) []
  pure (loader.builtinPrograms.keys.foldl AccountLoader.searchProgram missingPrograms)

end Search

section Replenish

variable (loaders : ProgramLoaders Environment Program)
  (caches : ProgramCaches Programs Batch Environment Program WorkingSlot)

def loadMissing (slot : Slot) (missing : SearchedProgram) : ReplenishM Programs (Pubkey × Program) := do
  let program ← (← current).loader.loadProgram loaders caches slot missing.1
  record (.loaded missing.1)
  pure (missing.1, loaders.storeTxUsageCounter program missing.2.2)

def insertLoaded : List (Pubkey × Program) → Batch → ReplenishM Programs Batch
  | [], batch => pure batch
  | (key, program) :: rest, batch => do
      let (cache, _, entry) := caches.replenish (← current).loader.loadedProgramsCache key program
      setCache cache
      record (.insertedShared key)
      let (batch, _, _) := caches.replenishBatch batch key entry
      record (.insertedBatch key)
      insertLoaded rest batch

def replenishProgramCache (slot : WorkingSlot) (messages : List SanitizedMessage) : ReplenishM Programs Batch := do
  let missingPrograms ← (← current).loader.searchPrograms messages
  let batch := caches.newBatch (caches.currentSlot slot) (caches.environments (← current).loader.loadedProgramsCache)
  record .batchCreated
  let (cache, missing, batch) :=
    caches.extract (← current).loader.loadedProgramsCache slot missingPrograms batch false
  setCache cache
  record (.extracted (missingPrograms.map Prod.fst))
  let loadedPrograms ← missing.mapM (loadMissing loaders caches (caches.currentSlot slot))
  insertLoaded caches loadedPrograms batch

end Replenish

end AskingLoader

end BpfSimulator
