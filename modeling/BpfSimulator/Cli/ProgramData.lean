import BpfSimulator.Cli.Commands
import BpfSimulator.MessageExecutor.ProgramSelection

/-! The code of a program, fetched to a file and simulated from it. The file
gets the bytes that the loader takes from the accounts of the program, and the
loader takes the same bytes from the simulated program. -/

set_option autoImplicit false

namespace BpfSimulator.Cli

open Foundation AccountLoader

variable {RpcError Node Programs Batch Environment Program WorkingSlot : Type}
  {loaders : ProgramLoaders Environment Program} {rpc : RpcClient RpcError Node} {g : Pubkey → Option Account}
  {programId : Pubkey}

/-- The node answers the same for the same key, whatever its state. -/
def Steady (rpc : RpcClient RpcError Node) (g : Pubkey → Option Account) : Prop :=
  ∀ key node, (rpc key node).1.toOption = g key

/-- The code that the command looks for. -/
inductive Code (loaders : ProgramLoaders Environment Program) (g : Pubkey → Option Account) (programId : Pubkey) :
    List UInt8 → Prop where
  | bpfLoader {account : Account} (known : g programId = some account) (owner : account.owner = bpfLoaderId) :
      Code loaders g programId account.data
  | upgradeable {account programdata : Account} {address : Pubkey} (known : g programId = some account)
      (owner : account.owner = bpfLoaderUpgradeableId) (state : loaders.state account.data = some (.program address))
      (found : g address = some programdata) (long : sizeOfProgramdataMetadata ≤ programdata.data.length) :
      Code loaders g programId (programdata.data.drop sizeOfProgramdataMetadata)

/-- The command ends with the code in the file, or fails and leaves the file empty. -/
inductive Fetched (loaders : ProgramLoaders Environment Program) (g : Pubkey → Option Account) (programId : Pubkey) :
    EStateM.Result (ProgramDataError RpcError) (ProgramDataState Node) Unit → Prop where
  | ok {bytes : List UInt8} {node : Node} (code : Code loaders g programId bytes) :
      Fetched loaders g programId (.ok () ⟨node, some bytes⟩)
  | error {error : ProgramDataError RpcError} {node : Node} (missing : ∀ bytes, ¬ Code loaders g programId bytes) :
      Fetched loaders g programId (.error error ⟨node, some []⟩)

theorem getAccount_steady (steady : Steady rpc g) (key : Pubkey) (state : ProgramDataState Node) :
    (∃ account node, g key = some account ∧
      ProgramDataM.getAccount rpc key state = .ok account { state with node }) ∨
    g key = none ∧ ∃ error node, ProgramDataM.getAccount rpc key state = .error (.rpc error) { state with node } := by
  have same := steady key state.node
  unfold ProgramDataM.getAccount
  cases answer : rpc key state.node with
  | mk result node =>
      rw [answer] at same
      cases result with
      | ok account => exact .inl ⟨account, node, same.symm, rfl⟩
      | error error => exact .inr ⟨same.symm, error, node, rfl⟩

theorem upgradeable_ne_bpfLoader : bpfLoaderUpgradeableId ≠ bpfLoaderId := by decide

theorem bpfLoader_ne_loaderV4 : bpfLoaderId ≠ loaderV4Id := by decide

theorem not_code_unknown (missing : g programId = none) (bytes : List UInt8) : ¬ Code loaders g programId bytes := by
  intro code
  cases code with
  | bpfLoader known => cases missing.symm.trans known
  | upgradeable known => cases missing.symm.trans known

theorem not_code_other {account : Account} (known : g programId = some account) (notBpf : account.owner ≠ bpfLoaderId)
    (notUpgradeable : account.owner ≠ bpfLoaderUpgradeableId) (bytes : List UInt8) :
    ¬ Code loaders g programId bytes := by
  intro code
  cases code with
  | bpfLoader same owner =>
      cases known.symm.trans same
      exact notBpf owner
  | upgradeable same owner =>
      cases known.symm.trans same
      exact notUpgradeable owner

/-- The code of an upgradeable program is behind the metadata of its programdata account. -/
theorem code_upgradeable_iff {account : Account} (known : g programId = some account)
    (owner : account.owner = bpfLoaderUpgradeableId) {bytes : List UInt8} :
    Code loaders g programId bytes ↔ ∃ address programdata, loaders.state account.data = some (.program address) ∧
      g address = some programdata ∧ getFrom programdata.data sizeOfProgramdataMetadata = some bytes := by
  constructor
  · intro code
    cases code with
    | bpfLoader same other =>
        cases known.symm.trans same
        exact absurd (owner.symm.trans other) upgradeable_ne_bpfLoader
    | @upgradeable _ programdata address same _ state found long =>
        cases known.symm.trans same
        exact ⟨address, programdata, state, found, if_pos long⟩
  · intro code
    obtain ⟨address, programdata, state, found, behind⟩ := code
    rw [getFrom] at behind
    split at behind
    · cases behind
      exact .upgradeable known owner state found ‹_›
    · cases behind

theorem Code.unique {bytes other : List UInt8} (first : Code loaders g programId bytes)
    (second : Code loaders g programId other) : bytes = other := by
  cases first with
  | bpfLoader known owner =>
      cases second with
      | bpfLoader same =>
          cases known.symm.trans same
          rfl
      | upgradeable same other =>
          cases known.symm.trans same
          exact absurd (other.symm.trans owner) upgradeable_ne_bpfLoader
  | upgradeable known owner state found long =>
      obtain ⟨_, _, state', found', behind⟩ := (code_upgradeable_iff known owner).mp second
      cases state.symm.trans state'
      cases found.symm.trans found'
      rw [getFrom, if_pos long] at behind
      exact Option.some.inj behind

theorem getProgramData_fetched (steady : Steady rpc g) (state : ProgramDataState Node) :
    Fetched loaders g programId (getProgramData loaders rpc programId state) := by
  unfold getProgramData
  rw [bind_run_ok (modify_run _ _)]
  rcases getAccount_steady steady programId { state with destination := some [] } with found | unknown
  · obtain ⟨account, node, known, ran⟩ := found
    rw [bind_run_ok ran]
    by_cases upgradeable : account.owner = bpfLoaderUpgradeableId
    · rw [if_pos upgradeable]
      have codeIff := @code_upgradeable_iff _ _ loaders _ _ _ known upgradeable
      cases decoded : loaders.state account.data with
      | none =>
          refine .error fun bytes code => ?_
          obtain ⟨_, _, state, _⟩ := codeIff.mp code
          cases decoded.symm.trans state
      | some kind =>
          cases kind with
          | program address =>
              dsimp only
              rcases getAccount_steady steady address ⟨node, some []⟩ with found | unknown
              · obtain ⟨programdata, after, there, ran⟩ := found
                rw [bind_run_ok ran]
                cases behind : getFrom programdata.data sizeOfProgramdataMetadata with
                | some bytes => exact .ok (codeIff.mpr ⟨address, programdata, decoded, there, behind⟩)
                | none =>
                    refine .error fun bytes code => ?_
                    obtain ⟨_, _, state, place, some'⟩ := codeIff.mp code
                    cases decoded.symm.trans state
                    cases there.symm.trans place
                    cases behind.symm.trans some'
              · obtain ⟨missing, error, after, ran⟩ := unknown
                rw [bind_run_error ran]
                refine .error fun bytes code => ?_
                obtain ⟨_, _, state, place, _⟩ := codeIff.mp code
                cases decoded.symm.trans state
                cases missing.symm.trans place
          | _ =>
              refine .error fun bytes code => ?_
              obtain ⟨_, _, state, _⟩ := codeIff.mp code
              cases decoded.symm.trans state
    · rw [if_neg upgradeable]
      by_cases bpfLoader : account.owner = bpfLoaderId
      · rw [if_pos bpfLoader]
        exact .ok (.bpfLoader known bpfLoader)
      · rw [if_neg bpfLoader]
        exact .error (not_code_other known bpfLoader upgradeable)
  · obtain ⟨missing, error, node, ran⟩ := unknown
    rw [bind_run_error ran]
    exact .error (not_code_unknown missing)

section RoundTrip

variable {loader : AccountLoader Programs}

/-- What the loader takes from loaded accounts for the ELF loader of v1 to v3
programs: the code, its owner, its size and the slot it was deployed in. -/
def codeOf : ProgramAccountLoadResult → Option (List UInt8 × Pubkey × Nat × Slot)
  | .programOfLoaderV1orV2 account => some (account.data, account.owner, account.data.length, 0)
  | .programOfLoaderV3 account programdata deployed =>
      (getFrom programdata.data sizeOfProgramdataMetadata).map fun bytes =>
        (bytes, account.owner, min (account.data.length + programdata.data.length) u64Max, deployed)
  | _ => none

/-- The program that the ELF loader makes of the code, or a tombstone. -/
def builtProgram (loaders : ProgramLoaders Environment Program)
    (caches : ProgramCaches Programs Batch Environment Program WorkingSlot) (loader : AccountLoader Programs)
    (slot : Slot) (bytes : List UInt8) (owner : Pubkey) (size : Nat) (deployed : Slot) : Program :=
  let environments := caches.getEnvironmentsForEpoch loader.loadedProgramsCache (slot / defaultSlotsPerEpoch)
  ((builtFromBytes loaders loader environments bytes owner size deployed).toOption).getD
    (failedVerification loaders slot environments.programRuntimeV1)

theorem loadProgram_codeOf (caches : ProgramCaches Programs Batch Environment Program WorkingSlot) (slot : Slot)
    {accounts : ProgramAccountLoadResult} {bytes : List UInt8} {owner : Pubkey} {size : Nat} {deployed : Slot}
    (found : loader.loadProgramAccounts loaders programId = .ok accounts)
    (taken : codeOf accounts = some (bytes, owner, size, deployed)) :
    loader.loadProgram loaders caches slot programId =
      .ok (builtProgram loaders caches loader slot bytes owner size deployed) := by
  rw [loadProgram_of_accounts found, builtProgram]
  cases accounts with
  | programOfLoaderV1orV2 account =>
      cases taken
      rfl
  | programOfLoaderV3 account programdata deployed' =>
      obtain ⟨code, behind, same⟩ := Option.map_eq_some_iff.mp taken
      cases same
      rw [programFor, programOf, behind]
      rfl
  | _ => cases taken

theorem code_of_loaded {accounts : ProgramAccountLoadResult} {bytes : List UInt8} {owner : Pubkey} {size : Nat}
    {deployed : Slot} (found : loader.loadProgramAccounts loaders programId = .ok accounts)
    (taken : codeOf accounts = some (bytes, owner, size, deployed))
    (bpf : owner = bpfLoaderId ∨ owner = bpfLoaderUpgradeableId) : Code loaders loader.g programId bytes := by
  cases known : loader.g programId with
  | none =>
      cases found.symm.trans (loadProgramAccounts_missing (.inl known))
      cases taken
  | some account =>
      by_cases v4 : account.owner = loaderV4Id
      · by_cases live : ∃ state, LoaderV4Program loaders account state
        · obtain ⟨state, live⟩ := live
          cases found.symm.trans (loadProgramAccounts_loaderV4 known live)
          cases taken
        · cases found.symm.trans (loadProgramAccounts_invalidV4 known v4 fun state live' => live ⟨state, live'⟩)
          cases taken
      by_cases upgradeable : account.owner = bpfLoaderUpgradeableId
      · by_cases missing : ProgramMissing loaders loader programId
        · cases found.symm.trans (loadProgramAccounts_missing missing)
          cases taken
        by_cases decodable : ∃ programdata deployed, UpgradeableProgram loaders loader account programdata deployed
        · obtain ⟨programdata, _, program⟩ := decodable
          cases found.symm.trans (loadProgramAccounts_upgradeable known program)
          obtain ⟨address, state, place⟩ := program.found
          obtain ⟨code, behind, same⟩ := Option.map_eq_some_iff.mp taken
          cases same
          exact (code_upgradeable_iff known upgradeable).mpr ⟨address, programdata, state, place, behind⟩
        · push Not at decodable
          cases found.symm.trans (loadProgramAccounts_invalid known upgradeable missing decodable)
          cases taken
      · cases found.symm.trans (loadProgramAccounts_ordinary known v4 upgradeable)
        cases taken
        exact .bpfLoader known (bpf.resolve_right upgradeable)

theorem loaded_of_code {bytes : List UInt8} (code : Code loaders loader.g programId bytes) :
    ∃ accounts, loader.loadProgramAccounts loaders programId = .ok accounts ∧
      (accounts = .invalidAccountData ∨ ∃ owner size deployed, codeOf accounts = some (bytes, owner, size, deployed)) := by
  cases code with
  | @bpfLoader account known owner =>
      have notV4 : account.owner ≠ loaderV4Id := by
        rw [owner]
        exact bpfLoader_ne_loaderV4
      have notUpgradeable : account.owner ≠ bpfLoaderUpgradeableId := by
        rw [owner]
        exact upgradeable_ne_bpfLoader.symm
      exact ⟨_, loadProgramAccounts_ordinary known notV4 notUpgradeable, .inr ⟨_, _, _, rfl⟩⟩
  | @upgradeable account programdata address known owner state found long =>
      by_cases decodable : ∃ programdata deployed, UpgradeableProgram loaders loader account programdata deployed
      · obtain ⟨other, deployed, program⟩ := decodable
        obtain ⟨address', state', found'⟩ := program.found
        cases state.symm.trans state'
        cases found.symm.trans found'
        have taken : codeOf (.programOfLoaderV3 account programdata deployed) =
            some (programdata.data.drop sizeOfProgramdataMetadata, account.owner,
              min (account.data.length + programdata.data.length) u64Max, deployed) := by
          rw [codeOf, getFrom, if_pos long]
          rfl
        exact ⟨_, loadProgramAccounts_upgradeable known program, .inr ⟨_, _, _, taken⟩⟩
      · push Not at decodable
        refine ⟨_, loadProgramAccounts_invalid known owner ?_ decodable, .inl rfl⟩
        intro missing
        rcases missing with unknown | absent
        · cases known.symm.trans unknown
        · obtain ⟨account', address', known', _, state', missing⟩ := absent
          cases known.symm.trans known'
          cases state.symm.trans state'
          cases found.symm.trans missing

/-- The simulated program is loaded from the bytes of the file. -/
theorem loadProgram_simulated (caches : ProgramCaches Programs Batch Environment Program WorkingSlot) (slot : Slot)
    {bytes : List UInt8} (known : loader.g programId = some (Simulate.programData bytes)) :
    loader.loadProgram loaders caches slot programId =
      .ok (builtProgram loaders caches loader slot bytes bpfLoaderId bytes.length 0) :=
  loadProgram_codeOf caches slot
    (loadProgramAccounts_ordinary known bpfLoader_ne_loaderV4 upgradeable_ne_bpfLoader.symm) rfl

def decodeKey (bytes : List UInt8) : Option Pubkey :=
  if size : (bytes.take 32).length = 32 then some ⟨bytes.take 32, size⟩ else none

def decodeAuthority : List UInt8 → Option (Option Pubkey)
  | 0 :: _ => some none
  | 1 :: rest => (decodeKey rest).map some
  | _ => none

/-- The `bincode` format of the states of an upgradeable program. -/
def decodeState (data : List UInt8) : Option UpgradeableLoaderState :=
  if data.length < 4 then none
  else
    match fromLe (data.take 4) with
    | 0 => some .uninitialized
    | 1 => (decodeAuthority (data.drop 4)).map .buffer
    | 2 => (decodeKey (data.drop 4)).map .program
    | 3 => (decodeAuthority (data.drop 12)).map (.programData (u64FromLe ((data.drop 4).take 8)))
    | _ => none

def decodingLoaders : ProgramLoaders Unit Unit := { refusingLoaders with state := decodeState }

def deployedProgram : Account :=
  { Account.default with
    owner := bpfLoaderUpgradeableId
    data := [2, 0, 0, 0] ++ (Pubkey.filled 4).bytes }

/-- Two bytes of code, deployed in slot 5. -/
def deployedCode : Account :=
  { Account.default with
    owner := bpfLoaderUpgradeableId
    data := [3, 0, 0, 0] ++ u64ToLe 5 ++ List.replicate 33 0 ++ [8, 9] }

def deployedSource (key : Pubkey) : Option Account :=
  if key = .filled 1 then some deployedProgram else if key = .filled 4 then some deployedCode else none

def deployedLoader : AccountLoader (List Pubkey) := { programLoader with g := deployedSource }

def countingNode : RpcClient Unit Nat := fun key count => ((deployedSource key).elim (.error ()) .ok, count + 1)

end RoundTrip

end BpfSimulator.Cli
