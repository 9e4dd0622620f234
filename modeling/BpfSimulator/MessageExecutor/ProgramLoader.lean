import BpfSimulator.Foundation.BinarySearch
import BpfSimulator.Foundation.Fallible
import BpfSimulator.MessageExecutor.Loader

/-! Loading programs and replenishing the program cache. The decoders, the ELF
loaders and the caches are third-party code. Replenishing also records what it
does to the caches, in order. -/

set_option autoImplicit false

namespace BpfSimulator

open Foundation

abbrev Slot := UInt64

def defaultSlotsPerEpoch : UInt64 := 432000

def delayVisibilitySlotOffset : UInt64 := 1

def saturatingAdd (left right : UInt64) : UInt64 :=
  if left.toNat + right.toNat ≤ u64Max then left + right else UInt64.ofNat u64Max

inductive UpgradeableLoaderState where
  | uninitialized
  | buffer (authorityAddress : Option Pubkey)
  | program (programdataAddress : Pubkey)
  | programData (slot : Slot) (upgradeAuthorityAddress : Option Pubkey)

def sizeOfProgramdataMetadata : Nat := 45

inductive LoaderV4Status where
  | retracted
  | deployed
  | finalized
  deriving DecidableEq

structure LoaderV4State where
  slot : Slot
  authorityAddress : Pubkey
  status : LoaderV4Status

def programDataOffset : Nat := 48

inductive LoadedProgramMatchCriteria where
  | deployedOnOrAfterSlot (slot : Slot)
  | tombstone
  | noCriteria

structure ProgramRuntimeEnvironments (Environment : Type) where
  programRuntimeV1 : Environment
  programRuntimeV2 : Environment

/-- The program types of tombstones. -/
inductive TombstoneType (Environment : Type) where
  | closed
  | failedVerification (environment : Environment)

/-- Third-party decoders and loaders of programs. -/
structure ProgramLoaders (Environment Program : Type) where
  /-- `solana_loader_v4_program::get_state` -/
  getState : List UInt8 → Option LoaderV4State
  /-- `StateMut::state` -/
  state : List UInt8 → Option UpgradeableLoaderState
  /-- `solana_bpf_loader_program::load_program_from_bytes` -/
  loadProgramFromBytes (delayVisibility : Bool) (programdata : List UInt8) (loaderKey : Pubkey) (accountSize : Nat)
    (deploymentSlot : Slot) (environment : Environment) (reload : Bool) : Except InstructionError Program
  /-- `LoadedProgram::new` -/
  new (loaderKey : Pubkey) (environment : Environment) (deploymentSlot effectiveSlot : Slot)
    (maybeExpirationSlot : Option Slot) (elfBytes : List UInt8) (accountSize : Nat) : Option Program
  /-- `LoadedProgram::reload` -/
  reload (loaderKey : Pubkey) (environment : Environment) (deploymentSlot effectiveSlot : Slot)
    (maybeExpirationSlot : Option Slot) (elfBytes : List UInt8) (accountSize : Nat) : Option Program
  newTombstone (slot : Slot) (reason : TombstoneType Environment) : Program
  /-- `tx_usage_counter.store` -/
  storeTxUsageCounter (program : Program) (count : UInt64) : Program

abbrev SearchedProgram := Pubkey × LoadedProgramMatchCriteria × UInt64

/-- The shared cache `LoadedPrograms`, the batches `LoadedProgramsForTxBatch`,
and working slots. -/
structure ProgramCaches (Programs Batch Environment Program WorkingSlot : Type) where
  currentSlot : WorkingSlot → Slot
  environments : Programs → ProgramRuntimeEnvironments Environment
  getEnvironmentsForEpoch : Programs → UInt64 → ProgramRuntimeEnvironments Environment
  newBatch : Slot → ProgramRuntimeEnvironments Environment → Batch
  /-- the cache, what is left of the list, and the batch -/
  extract (cache : Programs) (slot : WorkingSlot) (searched : List SearchedProgram) (batch : Batch)
    (ignoreUsage : Bool) : Programs × List SearchedProgram × Batch
  replenish (cache : Programs) (key : Pubkey) (program : Program) : Programs × Bool × Program
  replenishBatch (batch : Batch) (key : Pubkey) (program : Program) : Batch × Bool × Program

inductive ProgramAccountLoadResult where
  | accountNotFound
  | invalidAccountData
  | invalidV4Program
  | programOfLoaderV1orV2 (programAccount : Account)
  | programOfLoaderV3 (programAccount programdataAccount : Account) (slot : Slot)
  | programOfLoaderV4 (programAccount : Account) (slot : Slot)

def getFrom (data : List UInt8) (start : Nat) : Option (List UInt8) :=
  if start ≤ data.length then some (data.drop start) else none

namespace AccountLoader

variable {Programs Batch Environment Program WorkingSlot : Type}

section LoadProgram

variable (loaders : ProgramLoaders Environment Program)
  (caches : ProgramCaches Programs Batch Environment Program WorkingSlot) (loader : AccountLoader Programs)

def loadProgramAccounts (pubkey : Pubkey) : Except LoadError ProgramAccountLoadResult := do
  match ← loader.getAccountWithFixedRoot pubkey with
  | none => pure .accountNotFound
  | some programAccount =>
      if programAccount.owner = loaderV4Id then
        match loaders.getState programAccount.data with
        | some state =>
            if state.status = .retracted then pure .invalidV4Program
            else pure (.programOfLoaderV4 programAccount state.slot)
        | none => pure .invalidV4Program
      else if programAccount.owner ≠ bpfLoaderUpgradeableId then pure (.programOfLoaderV1orV2 programAccount)
      else
        match loaders.state programAccount.data with
        | some (.program programdataAddress) =>
            match ← loader.getAccountWithFixedRoot programdataAddress with
            | none => pure .accountNotFound
            | some programdataAccount =>
                match loaders.state programdataAccount.data with
                | some (.programData slot _) => pure (.programOfLoaderV3 programAccount programdataAccount slot)
                | _ => pure .invalidAccountData
        | _ => pure .invalidAccountData

/-- The program of a loaded account, with `reload` as `load_program` has it. -/
def programOf (environments : ProgramRuntimeEnvironments Environment) (slot : Slot) (reload : Bool) :
    ProgramAccountLoadResult → Except InstructionError Program
  | .accountNotFound => .ok (loaders.newTombstone slot .closed)
  | .invalidAccountData => .error .invalidAccountData
  | .programOfLoaderV1orV2 programAccount =>
      loaders.loadProgramFromBytes (loader.featureSet.isActive delayVisibilityOfProgramDeploymentId)
        programAccount.data programAccount.owner programAccount.data.length 0 environments.programRuntimeV1 reload
  | .programOfLoaderV3 programAccount programdataAccount slot =>
      match getFrom programdataAccount.data sizeOfProgramdataMetadata with
      | none => .error .invalidAccountData
      | some programdata =>
          loaders.loadProgramFromBytes (loader.featureSet.isActive delayVisibilityOfProgramDeploymentId)
            programdata programAccount.owner
            (min (programAccount.data.length + programdataAccount.data.length) u64Max) slot
            environments.programRuntimeV1 reload
  | .programOfLoaderV4 programAccount slot =>
      let loadedProgram := (getFrom programAccount.data programDataOffset).bind fun elfBytes =>
        if reload then
          loaders.reload loaderV4Id environments.programRuntimeV2 slot
            (saturatingAdd slot delayVisibilitySlotOffset) none elfBytes programAccount.data.length
        else
          loaders.new loaderV4Id environments.programRuntimeV2 slot
            (saturatingAdd slot delayVisibilitySlotOffset) none elfBytes programAccount.data.length
      .ok (loadedProgram.getD (loaders.newTombstone slot (.failedVerification environments.programRuntimeV2)))
  | .invalidV4Program =>
      .ok (loaders.newTombstone slot (.failedVerification environments.programRuntimeV2))

def loadProgram (slot : Slot) (pubkey : Pubkey) : Except LoadError Program := do
  let environments := caches.getEnvironmentsForEpoch loader.loadedProgramsCache (slot / defaultSlotsPerEpoch)
  let reload := false
  match loader.programOf loaders environments slot reload (← loader.loadProgramAccounts loaders pubkey) with
  | .ok program => pure program
  | .error _ => pure (loaders.newTombstone slot (.failedVerification environments.programRuntimeV1))

end LoadProgram

section Search

variable (loader : AccountLoader Programs)

def searchProgram (missingPrograms : List SearchedProgram) (key : Pubkey) : List SearchedProgram :=
  insertNew Prod.fst missingPrograms (key, .noCriteria, 0)

/-- The key loop of `replenish_program_cache`, for one key. -/
def searchMessageKey (missingPrograms : List SearchedProgram) (key : Pubkey) :
    Except LoadError (List SearchedProgram) := do
  match ← loader.getAccountWithFixedRoot key with
  | none => throw (.transaction .accountNotFound)
  | some account =>
      if loader.programOwners.contains account.owner then pure (searchProgram missingPrograms key)
      else pure missingPrograms

/-- The programs searched in the cache: those of the messages and the builtins. -/
def searchPrograms (messages : List SanitizedMessage) : Except LoadError (List SearchedProgram) := do
  let missingPrograms ← messages.foldlM
    (fun missingPrograms message => message.accountKeys.foldlM loader.searchMessageKey missingPrograms) []
  pure (loader.builtinPrograms.keys.foldl searchProgram missingPrograms)

end Search

/-- What replenishing does to the shared cache and to its batch. -/
inductive CacheEvent where
  | batchCreated
  | extracted (searched : List Pubkey)
  | loaded (key : Pubkey)
  | insertedShared (key : Pubkey)
  | insertedBatch (key : Pubkey)
  deriving DecidableEq

/-- The loader while it replenishes, with what it did so far. -/
structure Replenishing (Programs : Type) where
  loader : AccountLoader Programs
  events : List CacheEvent

abbrev ReplenishM (Programs : Type) := EStateM LoadError (Replenishing Programs)

def record (event : CacheEvent) : ReplenishM Programs PUnit :=
  modify fun state => { state with events := state.events ++ [event] }

def setCache (loadedProgramsCache : Programs) : ReplenishM Programs PUnit :=
  modify fun state => { state with loader := { state.loader with loadedProgramsCache } }

section Replenish

variable (loaders : ProgramLoaders Environment Program)
  (caches : ProgramCaches Programs Batch Environment Program WorkingSlot)

def loadMissing (slot : Slot) (missing : SearchedProgram) : ReplenishM Programs (Pubkey × Program) := do
  let program ← inspecting ((← get).loader.loadProgram loaders caches slot missing.1)
  record (.loaded missing.1)
  pure (missing.1, loaders.storeTxUsageCounter program missing.2.2)

/-- Insert loaded programs into the shared cache, and what that returns into
the batch. -/
def insertLoaded : List (Pubkey × Program) → Batch → ReplenishM Programs Batch
  | [], batch => pure batch
  | (key, program) :: rest, batch => do
      let (cache, _, entry) := caches.replenish (← get).loader.loadedProgramsCache key program
      setCache cache
      record (.insertedShared key)
      let (batch, _, _) := caches.replenishBatch batch key entry
      record (.insertedBatch key)
      insertLoaded rest batch

def replenishProgramCache (slot : WorkingSlot) (messages : List SanitizedMessage) : ReplenishM Programs Batch := do
  let missingPrograms ← inspecting ((← get).loader.searchPrograms messages)
  let batch := caches.newBatch (caches.currentSlot slot) (caches.environments (← get).loader.loadedProgramsCache)
  record .batchCreated
  let (cache, missing, batch) :=
    caches.extract (← get).loader.loadedProgramsCache slot missingPrograms batch false
  setCache cache
  record (.extracted (missingPrograms.map Prod.fst))
  let loadedPrograms ← missing.mapM (loadMissing loaders caches (caches.currentSlot slot))
  insertLoaded caches loadedPrograms batch

end Replenish

end AccountLoader

end BpfSimulator
