import BpfSimulator.MessageExecutor.ProgramLoaderProperties
import BpfSimulator.MessageExecutor.TransactionLoaderProperties

/-! Which bytes a program is built from. Every combination of owner, decoded
state, missing account and length has its own outcome. -/

set_option autoImplicit false

namespace BpfSimulator.AccountLoader

variable {Programs Batch Environment Program WorkingSlot : Type}
  {loaders : ProgramLoaders Environment Program} {loader : AccountLoader Programs} {key : Pubkey}
  {account programdata : Account}

/-- The program account is missing, or it is an upgradeable program whose
programdata account is missing. -/
def ProgramMissing (loaders : ProgramLoaders Environment Program) (loader : AccountLoader Programs)
    (key : Pubkey) : Prop :=
  loader.g key = none ∨
    ∃ account address, loader.g key = some account ∧ account.owner = bpfLoaderUpgradeableId ∧
      loaders.state account.data = some (.program address) ∧ loader.g address = none

structure UpgradeableProgram (loaders : ProgramLoaders Environment Program) (loader : AccountLoader Programs)
    (account programdata : Account) (deployed : Slot) : Prop where
  owner : account.owner = bpfLoaderUpgradeableId
  found : ∃ address, loaders.state account.data = some (.program address) ∧ loader.g address = some programdata
  decoded : ∃ authority, loaders.state programdata.data = some (.programData deployed authority)

/-- A program of the v4 loader that decodes and is not retracted. -/
structure LoaderV4Program (loaders : ProgramLoaders Environment Program) (account : Account)
    (state : LoaderV4State) : Prop where
  owner : account.owner = loaderV4Id
  decoded : loaders.getState account.data = some state
  live : state.status ≠ .retracted

def failedVerification (loaders : ProgramLoaders Environment Program) (slot : Slot) (environment : Environment) :
    Program :=
  loaders.newTombstone slot (.failedVerification environment)

/-- What a v1, v2 or v3 loader builds with the v1 environment. -/
def builtFromBytes (loaders : ProgramLoaders Environment Program) (loader : AccountLoader Programs)
    (environments : ProgramRuntimeEnvironments Environment) (programdata : List UInt8) (owner : Pubkey)
    (accountSize : Nat) (deployed : Slot) : Except InstructionError Program :=
  loaders.loadProgramFromBytes (loader.featureSet.isActive delayVisibilityOfProgramDeploymentId) programdata owner
    accountSize deployed environments.programRuntimeV1 false

/-- What the v4 loader builds with the v2 environment. -/
def builtByLoaderV4 (loaders : ProgramLoaders Environment Program)
    (environments : ProgramRuntimeEnvironments Environment) (elfBytes : List UInt8) (accountSize : Nat)
    (deployed : Slot) : Option Program :=
  loaders.new loaderV4Id environments.programRuntimeV2 deployed (saturatingAdd deployed delayVisibilitySlotOffset)
    none elfBytes accountSize

/-- The program selected for a key. Failures of the v4 loader are tombstones
of the slot recorded in the account, all others of the given slot. -/
structure Selected (loaders : ProgramLoaders Environment Program) (loader : AccountLoader Programs)
    (environments : ProgramRuntimeEnvironments Environment) (slot : Slot) (key : Pubkey)
    (program : Program) : Prop where
  missing : ProgramMissing loaders loader key → program = loaders.newTombstone slot .closed
  ordinary : ∀ account, loader.g key = some account → account.owner ≠ loaderV4Id →
    account.owner ≠ bpfLoaderUpgradeableId →
    program = ((builtFromBytes loaders loader environments account.data account.owner account.data.length
      0).toOption).getD (failedVerification loaders slot environments.programRuntimeV1)
  upgradeable : ∀ account programdata deployed, loader.g key = some account →
    UpgradeableProgram loaders loader account programdata deployed →
    sizeOfProgramdataMetadata ≤ programdata.data.length →
    program = ((builtFromBytes loaders loader environments (programdata.data.drop sizeOfProgramdataMetadata)
      account.owner (min (account.data.length + programdata.data.length) u64Max) deployed).toOption).getD
        (failedVerification loaders slot environments.programRuntimeV1)
  upgradeableShort : ∀ account programdata deployed, loader.g key = some account →
    UpgradeableProgram loaders loader account programdata deployed →
    programdata.data.length < sizeOfProgramdataMetadata →
    program = failedVerification loaders slot environments.programRuntimeV1
  upgradeableInvalid : ∀ account, loader.g key = some account → account.owner = bpfLoaderUpgradeableId →
    ¬ ProgramMissing loaders loader key →
    (∀ programdata deployed, ¬ UpgradeableProgram loaders loader account programdata deployed) →
    program = failedVerification loaders slot environments.programRuntimeV1
  loaderV4 : ∀ account state, loader.g key = some account → LoaderV4Program loaders account state →
    programDataOffset ≤ account.data.length →
    program = (builtByLoaderV4 loaders environments (account.data.drop programDataOffset) account.data.length
      state.slot).getD (failedVerification loaders state.slot environments.programRuntimeV2)
  loaderV4Short : ∀ account state, loader.g key = some account → LoaderV4Program loaders account state →
    account.data.length < programDataOffset →
    program = failedVerification loaders state.slot environments.programRuntimeV2
  loaderV4Invalid : ∀ account, loader.g key = some account → account.owner = loaderV4Id →
    (∀ state, ¬ LoaderV4Program loaders account state) →
    program = failedVerification loaders slot environments.programRuntimeV2

section Accounts

theorem loadProgramAccounts_missing (missing : ProgramMissing loaders loader key) :
    loader.loadProgramAccounts loaders key = .ok .accountNotFound := by
  rcases missing with unknown | ⟨account, address, known, owner, state, absent⟩
  · simp only [loadProgramAccounts, getAccountWithFixedRoot, unknown]
    rfl
  · have notV4 : bpfLoaderUpgradeableId ≠ loaderV4Id := by decide
    simp [loadProgramAccounts, getAccountWithFixedRoot, known, owner, state, absent, notV4, bind, Except.bind,
      pure, Except.pure]

theorem loadProgramAccounts_ordinary (known : loader.g key = some account) (notV4 : account.owner ≠ loaderV4Id)
    (notUpgradeable : account.owner ≠ bpfLoaderUpgradeableId) :
    loader.loadProgramAccounts loaders key = .ok (.programOfLoaderV1orV2 account) := by
  simp [loadProgramAccounts, getAccountWithFixedRoot, known, notV4, notUpgradeable, bind, Except.bind, pure,
    Except.pure]

theorem loadProgramAccounts_upgradeable {deployed : Slot} (known : loader.g key = some account)
    (upgradeable : UpgradeableProgram loaders loader account programdata deployed) :
    loader.loadProgramAccounts loaders key = .ok (.programOfLoaderV3 account programdata deployed) := by
  have notV4 : bpfLoaderUpgradeableId ≠ loaderV4Id := by decide
  obtain ⟨address, state, found⟩ := upgradeable.found
  obtain ⟨authority, decoded⟩ := upgradeable.decoded
  simp [loadProgramAccounts, getAccountWithFixedRoot, known, upgradeable.owner, state, found, decoded, notV4, bind,
    Except.bind, pure, Except.pure]

theorem loadProgramAccounts_invalid (known : loader.g key = some account)
    (owner : account.owner = bpfLoaderUpgradeableId) (present : ¬ ProgramMissing loaders loader key)
    (undecodable : ∀ programdata deployed, ¬ UpgradeableProgram loaders loader account programdata deployed) :
    loader.loadProgramAccounts loaders key = .ok .invalidAccountData := by
  have notV4 : bpfLoaderUpgradeableId ≠ loaderV4Id := by decide
  cases state : loaders.state account.data with
  | none =>
      simp [loadProgramAccounts, getAccountWithFixedRoot, known, owner, state, notV4, bind, Except.bind, pure,
        Except.pure]
  | some decoded =>
      cases decoded with
      | program address =>
          cases found : loader.g address with
          | none => exact absurd (.inr ⟨account, address, known, owner, state, found⟩) present
          | some programdata =>
              cases inner : loaders.state programdata.data with
              | none =>
                  simp [loadProgramAccounts, getAccountWithFixedRoot, known, owner, state, found, inner, notV4,
                    bind, Except.bind, pure, Except.pure]
              | some decodedInner =>
                  cases decodedInner with
                  | programData deployed authority =>
                      exact absurd ⟨owner, ⟨address, state, found⟩, ⟨authority, inner⟩⟩
                        (undecodable programdata deployed)
                  | _ =>
                      simp [loadProgramAccounts, getAccountWithFixedRoot, known, owner, state, found, inner, notV4,
                        bind, Except.bind, pure, Except.pure]
      | _ =>
          simp [loadProgramAccounts, getAccountWithFixedRoot, known, owner, state, notV4, bind, Except.bind, pure,
            Except.pure]

theorem loadProgramAccounts_loaderV4 {state : LoaderV4State} (known : loader.g key = some account)
    (live : LoaderV4Program loaders account state) :
    loader.loadProgramAccounts loaders key = .ok (.programOfLoaderV4 account state.slot) := by
  simp [loadProgramAccounts, getAccountWithFixedRoot, known, live.owner, live.decoded, live.live, bind, Except.bind,
    pure, Except.pure]

theorem loadProgramAccounts_invalidV4 (known : loader.g key = some account) (owner : account.owner = loaderV4Id)
    (dead : ∀ state, ¬ LoaderV4Program loaders account state) :
    loader.loadProgramAccounts loaders key = .ok .invalidV4Program := by
  cases decoded : loaders.getState account.data with
  | none =>
      simp [loadProgramAccounts, getAccountWithFixedRoot, known, owner, decoded, bind, Except.bind, pure, Except.pure]
  | some state =>
      have retracted : state.status = .retracted := by
        by_contra live
        exact dead state ⟨owner, decoded, live⟩
      simp [loadProgramAccounts, getAccountWithFixedRoot, known, owner, decoded, retracted, bind, Except.bind, pure,
        Except.pure]

end Accounts

section Program

variable {caches : ProgramCaches Programs Batch Environment Program WorkingSlot} {slot : Slot}
  {environments : ProgramRuntimeEnvironments Environment}

def programFor (loaders : ProgramLoaders Environment Program) (loader : AccountLoader Programs)
    (environments : ProgramRuntimeEnvironments Environment) (slot : Slot) (accounts : ProgramAccountLoadResult) :
    Program :=
  ((loader.programOf loaders environments slot false accounts).toOption).getD
    (failedVerification loaders slot environments.programRuntimeV1)

theorem loadProgram_of_accounts {accounts : ProgramAccountLoadResult}
    (found : loader.loadProgramAccounts loaders key = .ok accounts) :
    loader.loadProgram loaders caches slot key = .ok (programFor loaders loader
      (caches.getEnvironmentsForEpoch loader.loadedProgramsCache (slot / defaultSlotsPerEpoch)) slot accounts) := by
  simp only [loadProgram, found, programFor, bind, Except.bind]
  cases loader.programOf loaders (caches.getEnvironmentsForEpoch loader.loadedProgramsCache
    (slot / defaultSlotsPerEpoch)) slot false accounts <;> rfl

theorem programFor_selected {accounts : ProgramAccountLoadResult}
    (found : loader.loadProgramAccounts loaders key = .ok accounts) :
    Selected loaders loader environments slot key (programFor loaders loader environments slot accounts) where
  missing := by
    intro missing
    cases found.symm.trans (loadProgramAccounts_missing missing)
    rfl
  ordinary := by
    intro account known notV4 notUpgradeable
    cases found.symm.trans (loadProgramAccounts_ordinary known notV4 notUpgradeable)
    rfl
  upgradeable := by
    intro account programdata deployed known upgradeable long
    cases found.symm.trans (loadProgramAccounts_upgradeable known upgradeable)
    simp only [programFor, programOf, getFrom, if_pos long]
    rfl
  upgradeableShort := by
    intro account programdata deployed known upgradeable short
    cases found.symm.trans (loadProgramAccounts_upgradeable known upgradeable)
    simp only [programFor, programOf, getFrom, if_neg (Nat.not_le.mpr short)]
    rfl
  upgradeableInvalid := by
    intro account known owner present undecodable
    cases found.symm.trans (loadProgramAccounts_invalid known owner present undecodable)
    rfl
  loaderV4 := by
    intro account state known live long
    cases found.symm.trans (loadProgramAccounts_loaderV4 known live)
    simp only [programFor, programOf, getFrom, if_pos long]
    rfl
  loaderV4Short := by
    intro account state known live short
    cases found.symm.trans (loadProgramAccounts_loaderV4 known live)
    simp only [programFor, programOf, getFrom, if_neg (Nat.not_le.mpr short)]
    rfl
  loaderV4Invalid := by
    intro account known owner dead
    cases found.symm.trans (loadProgramAccounts_invalidV4 known owner dead)
    rfl

/-- Only the closed tombstone is a closed program; what an ELF loader builds
is not. -/
structure ClosedContract (loaders : ProgramLoaders Environment Program) (isClosed : Program → Prop) : Prop where
  tombstone : ∀ slot reason, isClosed (loaders.newTombstone slot reason) ↔ reason = .closed
  fromBytes : ∀ delayVisibility programdata loaderKey accountSize deployed environment reload program,
    loaders.loadProgramFromBytes delayVisibility programdata loaderKey accountSize deployed environment reload =
      .ok program → ¬ isClosed program
  built : ∀ loaderKey environment deployed effective expiration elfBytes accountSize program,
    loaders.new loaderKey environment deployed effective expiration elfBytes accountSize = some program →
      ¬ isClosed program

section Closed

variable {isClosed : Program → Prop} {program : Program}

theorem failedVerification_open (contract : ClosedContract loaders isClosed) (slot : Slot) (environment : Environment) :
    ¬ isClosed (failedVerification loaders slot environment) := by
  intro closed
  cases (contract.tombstone slot _).mp closed

theorem builtFromBytes_open (contract : ClosedContract loaders isClosed) (programdata : List UInt8) (owner : Pubkey)
    (accountSize : Nat) (deployed slot : Slot) (environment : Environment) :
    ¬ isClosed (((builtFromBytes loaders loader environments programdata owner accountSize deployed).toOption).getD
      (failedVerification loaders slot environment)) := by
  cases built : builtFromBytes loaders loader environments programdata owner accountSize deployed with
  | error error => exact failedVerification_open contract slot environment
  | ok program => exact contract.fromBytes _ _ _ _ _ _ _ _ built

theorem builtByLoaderV4_open (contract : ClosedContract loaders isClosed) (elfBytes : List UInt8) (accountSize : Nat)
    (deployed slot : Slot) (environment : Environment) :
    ¬ isClosed ((builtByLoaderV4 loaders environments elfBytes accountSize deployed).getD
      (failedVerification loaders slot environment)) := by
  cases built : builtByLoaderV4 loaders environments elfBytes accountSize deployed with
  | none => exact failedVerification_open contract slot environment
  | some program => exact contract.built _ _ _ _ _ _ _ _ built

theorem Selected.open_upgradeable (contract : ClosedContract loaders isClosed)
    (selected : Selected loaders loader environments slot key program) (known : loader.g key = some account)
    (owner : account.owner = bpfLoaderUpgradeableId) (present : ¬ ProgramMissing loaders loader key) :
    ¬ isClosed program := by
  by_cases decodable : ∃ programdata deployed, UpgradeableProgram loaders loader account programdata deployed
  · obtain ⟨programdata, deployed, upgradeable⟩ := decodable
    by_cases long : sizeOfProgramdataMetadata ≤ programdata.data.length
    · rw [selected.upgradeable account programdata deployed known upgradeable long]
      exact builtFromBytes_open contract _ _ _ _ _ _
    · rw [selected.upgradeableShort account programdata deployed known upgradeable (Nat.not_le.mp long)]
      exact failedVerification_open contract _ _
  · push Not at decodable
    rw [selected.upgradeableInvalid account known owner present decodable]
    exact failedVerification_open contract _ _

theorem Selected.open_loaderV4 (contract : ClosedContract loaders isClosed)
    (selected : Selected loaders loader environments slot key program) (known : loader.g key = some account)
    (owner : account.owner = loaderV4Id) : ¬ isClosed program := by
  by_cases live : ∃ state, LoaderV4Program loaders account state
  · obtain ⟨state, live⟩ := live
    by_cases long : programDataOffset ≤ account.data.length
    · rw [selected.loaderV4 account state known live long]
      exact builtByLoaderV4_open contract _ _ _ _ _
    · rw [selected.loaderV4Short account state known live (Nat.not_le.mp long)]
      exact failedVerification_open contract _ _
  · push Not at live
    rw [selected.loaderV4Invalid account known owner live]
    exact failedVerification_open contract _ _

theorem closed_iff_missing (contract : ClosedContract loaders isClosed)
    (selected : Selected loaders loader environments slot key program) :
    isClosed program ↔ ProgramMissing loaders loader key := by
  constructor
  · intro closed
    by_contra present
    cases known : loader.g key with
    | none => exact present (.inl known)
    | some account =>
        by_cases upgradeable : account.owner = bpfLoaderUpgradeableId
        · exact selected.open_upgradeable contract known upgradeable present closed
        by_cases ownerV4 : account.owner = loaderV4Id
        · exact selected.open_loaderV4 contract known ownerV4 closed
        · rw [selected.ordinary account known ownerV4 upgradeable] at closed
          exact builtFromBytes_open contract _ _ _ _ _ _ closed
  · intro missing
    rw [selected.missing missing]
    exact (contract.tombstone slot _).mpr rfl

end Closed

/-- Loading a program is total, builds it from the right bytes, and gives a
closed tombstone exactly when an account is missing. -/
theorem load_program_selects (caches : ProgramCaches Programs Batch Environment Program WorkingSlot)
    {isClosed : Program → Prop} (contract : ClosedContract loaders isClosed) (loader : AccountLoader Programs)
    (slot : Slot) (key : Pubkey) :
    ∃ program, loader.loadProgram loaders caches slot key = .ok program ∧
      (isClosed program ↔ ProgramMissing loaders loader key) ∧
      Selected loaders loader (caches.getEnvironmentsForEpoch loader.loadedProgramsCache
        (slot / defaultSlotsPerEpoch)) slot key program := by
  obtain ⟨accounts, found⟩ := loadProgramAccounts_total loaders loader key
  have selected := @programFor_selected _ _ _ loaders loader key slot
    (caches.getEnvironmentsForEpoch loader.loadedProgramsCache (slot / defaultSlotsPerEpoch)) _ found
  exact ⟨_, loadProgram_of_accounts found, closed_iff_missing contract selected, selected⟩

/-- What can be seen of a loaded program: a tombstone of either kind, or its size. -/
inductive ProgramKind where
  | closed
  | failedVerification
  | built (size : Nat)
  deriving DecidableEq

def sizeLoaders : ProgramLoaders Unit ProgramKind where
  getState _ := none
  state _ := none
  loadProgramFromBytes _ programdata _ _ _ _ _ :=
    if programdata = [] then .error .invalidAccountData else .ok (.built programdata.length)
  new _ _ _ _ _ elfBytes _ := if elfBytes = [] then none else some (.built elfBytes.length)
  reload _ _ _ _ _ elfBytes _ := if elfBytes = [] then none else some (.built elfBytes.length)
  newTombstone
    | _, .closed => .closed
    | _, .failedVerification _ => .failedVerification
  storeTxUsageCounter program _ := program

theorem sizeLoaders_contract : ClosedContract sizeLoaders fun program => program = .closed where
  tombstone := by
    intro slot reason
    cases reason <;> simp [sizeLoaders]
  fromBytes := by
    intro delayVisibility programdata loaderKey accountSize deployed environment reload program built closed
    subst closed
    simp only [sizeLoaders] at built
    split at built <;> cases built
  built := by
    intro loaderKey environment deployed effective expiration elfBytes accountSize program built closed
    subst closed
    simp only [sizeLoaders] at built
    split at built <;> cases built

/-- Caches that keep the keys of the programs given to them. -/
def programKeyCaches (Program : Type) : ProgramCaches (List Pubkey) (List Pubkey) Unit Program Slot where
  currentSlot := keyCaches.currentSlot
  environments := keyCaches.environments
  getEnvironmentsForEpoch := keyCaches.getEnvironmentsForEpoch
  newBatch := keyCaches.newBatch
  extract := keyCaches.extract
  replenish cache key program := (key :: cache, false, program)
  replenishBatch batch key program := (key :: batch, false, program)

theorem load_program_selects_unknown :
    programLoader.loadProgram sizeLoaders (programKeyCaches ProgramKind) 7 (.filled 9) = .ok .closed := by
  obtain ⟨program, loaded, closed, _⟩ :=
    load_program_selects (programKeyCaches ProgramKind) sizeLoaders_contract programLoader 7 (.filled 9)
  obtain rfl := closed.mpr (.inl (by decide))
  exact loaded

end Program

end BpfSimulator.AccountLoader
