import BpfSimulator.MessageExecutor.AskingRefinement
import BpfSimulator.MessageExecutor.ExecutionRecord

/-! The accounts that loading asks for, in order. Loading a transaction asks for
the accounts of the message and for every owner it appends; replenishing asks
for the accounts of the messages and for what the missing programs consist of. -/

set_option autoImplicit false

namespace BpfSimulator.AskingLoader

open Foundation AskM

variable {σ Programs Batch Environment Program WorkingSlot : Type}

/-- A request and what is done with its answer. -/
theorem asked_request {α : Type} (g : Pubkey → Option Account) (key : Pubkey)
    (next : Option Account → LoaderM σ α) (state : σ) :
    (getAccountWithFixedRoot key >>= next).asked g state = key :: (next (g key)).asked g state :=
  asked_bind_ok g rfl

section Transaction

variable {constructInstructionsData : InstructionsData} {loader : AccountLoader Programs}
  {message : SanitizedMessage} {accounts : List TransactionAccount} {start : Nat}

theorem asked_loadMessageAccount (key : Pubkey) (state : σ) :
    (loadMessageAccount constructInstructionsData message key).asked loader.g state =
      if key = instructionsSysvarId then [] else [key] := by
  unfold loadMessageAccount
  by_cases special : key = instructionsSysvarId
  · rw [if_pos special, if_pos special]
    cases AccountLoader.constructInstructionsAccount constructInstructionsData message <;> rfl
  · rw [if_neg special, if_neg special, asked_request]
    cases loader.g key <;> rfl

theorem asked_loadMessageAccounts {base : List TransactionAccount}
    (success : message.accountKeys.mapM (loader.loadMessageAccount constructInstructionsData message) = .ok base)
    (state : σ) :
    (message.accountKeys.mapM (loadMessageAccount constructInstructionsData message)).asked loader.g state =
      message.accountKeys.filter (· ≠ instructionsSysvarId) := by
  rw [asked_mapM _ state ?_ fun key _ state => asked_loadMessageAccount key state]
  · induction message.accountKeys with
    | nil => rfl
    | cons key rest ih =>
        rw [List.flatMap_cons, ih, List.filter_cons]
        by_cases special : key = instructionsSysvarId
        · simp [special]
        · simp [special]
  · intro key member state
    obtain ⟨account, loaded⟩ := checked_of_mem success member
    rw [answered_loadMessageAccount, loaded]
    rfl

theorem keys_findOwner {ownerId : Pubkey} {found : List TransactionAccount × Nat}
    (success : loader.findOwner start accounts ownerId = .ok found) (state : σ) :
    found.1.map Prod.fst = accounts.map Prod.fst ++ (findOwner start accounts ownerId).asked loader.g state := by
  unfold AccountLoader.findOwner at success
  unfold findOwner
  by_cases short : accounts.length < start
  · rw [if_pos short] at success
    cases success
  rw [if_neg short] at success ⊢
  cases searched : (accounts.drop start).findIdx? (fun account => account.1 = ownerId) with
  | some index =>
      rw [searched] at success
      cases success
      exact (List.append_nil _).symm
  | none =>
      rw [searched] at success
      dsimp only at success ⊢
      rw [asked_request]
      rw [AccountLoader.getAccountWithFixedRoot, except_ok_bind] at success
      cases known : loader.g ownerId with
      | none =>
          rw [known] at success
          cases success
      | some owner =>
          rw [known] at success
          cases success
          exact List.map_append

theorem keys_resolveProgram {rounds index : Nat} {accountIndices : List UInt16}
    {result : List TransactionAccount × List UInt16}
    (success : loader.resolveProgram start rounds accounts accountIndices index = .ok result) (state : σ) :
    result.1.map Prod.fst = accounts.map Prod.fst ++
      (resolveProgram start rounds accounts accountIndices index).asked loader.g state := by
  induction rounds generalizing accounts accountIndices index with
  | zero => cases success
  | succ rounds ih =>
      obtain ⟨account, place, round⟩ := AccountLoader.resolveProgram_succ_ok success
      unfold resolveProgram
      rw [place]
      dsimp only
      cases round with
      | inl stopped =>
          obtain ⟨native, same⟩ := stopped
          rw [same]
          by_cases isNative : account.1 = nativeLoaderId
          · rw [if_pos isNative]
            exact (List.append_nil _).symm
          · have owned : account.2.owner = nativeLoaderId := native.resolve_left isNative
            rw [if_neg isNative, if_pos owned]
            exact (List.append_nil _).symm
      | inr onward =>
          obtain ⟨notNative, found, search, later⟩ := onward
          obtain ⟨ordinary, notOwned⟩ := not_or.mp notNative
          have onward : ¬ account.2.owner = nativeLoaderId := notOwned
          have searched : (findOwner start accounts account.2.owner : LoaderM σ _).answered loader.g state =
              .ok found state := by
            rw [answered_findOwner, search]
            rfl
          rw [if_neg ordinary, if_neg onward, asked_bind_ok _ searched, ← List.append_assoc,
            ← keys_findOwner search]
          exact ih later

theorem keys_resolvePrograms {instructions : List CompiledInstruction} {programIndices : List (List UInt16)}
    {result : List TransactionAccount × List (List UInt16)}
    (success : loader.resolvePrograms start instructions accounts programIndices = .ok result) (state : σ) :
    result.1.map Prod.fst = accounts.map Prod.fst ++
      (resolvePrograms start instructions accounts programIndices).asked loader.g state := by
  induction instructions generalizing accounts programIndices with
  | nil =>
      cases success
      exact (List.append_nil _).symm
  | cons instruction rest ih =>
      obtain ⟨found, ran, later⟩ := AccountLoader.resolvePrograms_cons_ok_iff.mp success
      have resolved : (resolveProgram start 5 accounts [] instruction.programIdIndex.toNat : LoaderM σ _).answered
          loader.g state = .ok found state := by
        rw [answered_resolveProgram, ran]
        rfl
      unfold resolvePrograms
      rw [asked_bind_ok _ resolved, ← List.append_assoc, ← keys_resolveProgram ran]
      exact ih later

/-- A transaction that loads asks for the accounts of its message, but for the
instructions sysvar, and then for each owner that is appended. -/
theorem asked_loadTransactionAccounts {result : LoadedTransaction}
    (success : loader.loadTransactionAccounts constructInstructionsData message = .ok result) (state : σ) :
    (loadTransactionAccounts constructInstructionsData message).asked loader.g state =
      message.accountKeys.filter (· ≠ instructionsSysvarId) ++
        (result.accounts.map Prod.fst).drop message.accountKeys.length := by
  obtain ⟨base, loaded, found, ran, rfl⟩ := AccountLoader.loadTransactionAccounts_ok_iff.mp success
  have allLoaded := AccountLoader.loadMessageAccounts_ok_iff.mpr loaded
  have based : (message.accountKeys.mapM (loadMessageAccount constructInstructionsData message) :
      LoaderM σ _).answered loader.g state = .ok base state := by
    rw [answered_mapM]
    simp only [answered_loadMessageAccount]
    rw [← inspecting_mapM, allLoaded]
    rfl
  have resolved : (resolvePrograms base.length message.instructions base [] : LoaderM σ _).answered loader.g state =
      .ok found state := by
    rw [answered_resolvePrograms, ran]
    rfl
  unfold loadTransactionAccounts
  rw [asked_bind_ok _ based, asked_loadMessageAccounts allLoaded, asked_bind_ok _ resolved, asked_pure, List.append_nil,
    keys_resolvePrograms ran state, loaded.keys, List.drop_left]

end Transaction

section Replenish

variable (loaders : ProgramLoaders Environment Program)
  (caches : ProgramCaches Programs Batch Environment Program WorkingSlot) {loader : AskingLoader Programs}
  {g : Pubkey → Option Account} {messages : List SanitizedMessage}

/-- Where the code of an upgradeable program is kept. -/
def programdataAddress (account : Account) : Option Pubkey :=
  if account.owner = bpfLoaderUpgradeableId then
    match loaders.state account.data with
    | some (.program programdataAddress) => some programdataAddress
    | _ => none
  else none

/-- The accounts that a program consists of. -/
def programKeys (g : Pubkey → Option Account) (key : Pubkey) : List Pubkey :=
  key :: ((g key).bind (programdataAddress loaders)).toList

theorem asked_loadProgramAccounts (key : Pubkey) (state : σ) :
    (loadProgramAccounts loaders key).asked g state = programKeys loaders g key := by
  unfold loadProgramAccounts
  rw [asked_request, programKeys]
  refine congrArg (key :: ·) ?_
  cases g key with
  | none => rfl
  | some account =>
      rw [Option.bind_some, programdataAddress]
      dsimp only
      by_cases v4 : account.owner = loaderV4Id
      · have other : account.owner ≠ bpfLoaderUpgradeableId := by
          rw [v4]
          decide
        rw [if_pos v4, if_neg other]
        cases loaders.getState account.data with
        | none => rfl
        | some decoded =>
            dsimp only
            split <;> rfl
      · rw [if_neg v4]
        by_cases upgradeable : account.owner = bpfLoaderUpgradeableId
        · rw [if_neg (not_not_intro upgradeable), if_pos upgradeable]
          cases loaders.state account.data with
          | none => rfl
          | some decoded =>
              cases decoded with
              | program address =>
                  dsimp only
                  rw [asked_request]
                  cases g address with
                  | none => rfl
                  | some programdata =>
                      dsimp only
                      cases loaders.state programdata.data with
                      | none => rfl
                      | some kept => cases kept <;> rfl
              | _ => rfl
        · rw [if_pos upgradeable, if_neg upgradeable]
          rfl

theorem asked_loadProgram (slot : Slot) (key : Pubkey) (state : σ) :
    (loader.loadProgram loaders caches slot key).asked g state = programKeys loaders g key := by
  obtain ⟨accounts, found⟩ := AccountLoader.loadProgramAccounts_total loaders (loader.answering g) key
  have ran : (loadProgramAccounts loaders key : LoaderM σ _).answered g state = .ok accounts state := by
    rw [answered_loadProgramAccounts loaders loader g, found]
    rfl
  unfold loadProgram
  dsimp only
  rw [asked_bind_ok _ ran, asked_loadProgramAccounts]
  cases loader.programOf loaders
    (caches.getEnvironmentsForEpoch loader.loadedProgramsCache (slot / defaultSlotsPerEpoch)) slot false accounts <;>
  exact List.append_nil _

theorem asked_searchMessageKey (missingPrograms : List SearchedProgram) (key : Pubkey) (state : σ) :
    (loader.searchMessageKey missingPrograms key).asked g state = [key] := by
  unfold searchMessageKey
  rw [asked_request]
  cases g key with
  | none => rfl
  | some account =>
      dsimp only
      split <;> rfl

theorem total_searchMessageKey {key : Pubkey} (found : g key ≠ none) (missingPrograms : List SearchedProgram) :
    Total ((loader.searchMessageKey missingPrograms key : LoaderM σ _).answered g) := by
  intro state
  rw [answered_searchMessageKey, AccountLoader.searchMessageKey_found found]
  rfl

theorem total_searchKeys {keys : List Pubkey} (found : ∀ key ∈ keys, g key ≠ none)
    (missingPrograms : List SearchedProgram) :
    Total ((keys.foldlM loader.searchMessageKey missingPrograms : LoaderM σ _).answered g) := by
  intro state
  rw [answered_foldlM]
  simp only [answered_searchMessageKey]
  rw [← inspecting_foldlM, AccountLoader.searchKeys_found found]
  rfl

theorem asked_searchKeys {keys : List Pubkey} (found : ∀ key ∈ keys, g key ≠ none)
    (missingPrograms : List SearchedProgram) (state : σ) :
    (keys.foldlM loader.searchMessageKey missingPrograms).asked g state = keys := by
  rw [asked_foldlM g missingPrograms state
    (fun missing key member => total_searchMessageKey (found key member) missing)
    (fun missing key _ state => asked_searchMessageKey missing key state)]
  exact List.flatMap_singleton' keys

theorem asked_searchPrograms (found : ∀ message ∈ messages, ∀ key ∈ message.accountKeys, g key ≠ none) (state : σ) :
    (loader.searchPrograms messages).asked g state = messages.flatMap SanitizedMessage.accountKeys := by
  have searched : Total ((messages.foldlM (fun missing message =>
      message.accountKeys.foldlM loader.searchMessageKey missing) [] : LoaderM σ _).answered g) := by
    have all : ∀ key ∈ messages.flatMap SanitizedMessage.accountKeys, (loader.answering g).g key ≠ none := by
      intro key member
      obtain ⟨message, inside, named⟩ := List.mem_flatMap.mp member
      exact found message inside key named
    intro state
    rw [answered_foldlM]
    simp only [answered_foldlM, answered_searchMessageKey]
    simp only [← inspecting_foldlM]
    rw [AccountLoader.searchMessages_eq, AccountLoader.searchKeys_found all]
    rfl
  unfold searchPrograms
  rw [asked_bind_pure g,
    asked_foldlM g [] state (fun missing message member => total_searchKeys (found message member) missing)
      (fun missing message member state => asked_searchKeys (found message member) missing state)]

theorem answered_loadProgram_ok (loader : AskingLoader Programs) (g : Pubkey → Option Account) (slot : Slot)
    (key : Pubkey) (state : σ) :
    ∃ program, (loader.loadProgram loaders caches slot key).answered g state = .ok program state := by
  obtain ⟨program, loaded⟩ := AccountLoader.loadProgram_total loaders caches (loader.answering g) slot key
  refine ⟨program, ?_⟩
  rw [answered_loadProgram, loaded]
  rfl

theorem total_loadMissing (slot : Slot) (missing : SearchedProgram) :
    Total ((loadMissing loaders caches slot missing : ReplenishM Programs _).answered g) := by
  intro state
  obtain ⟨program, loaded⟩ := answered_loadProgram_ok loaders caches state.loader g slot missing.1 state
  unfold loadMissing current
  rw [answered_bind, answered_lift, bind_run_ok (get_run _), answered_bind, bind_run_ok loaded]
  rfl

theorem asked_loadMissing (slot : Slot) (missing : SearchedProgram) (state : Replenishing Programs) :
    (loadMissing loaders caches slot missing).asked g state = programKeys loaders g missing.1 := by
  obtain ⟨program, loaded⟩ := answered_loadProgram_ok loaders caches state.loader g slot missing.1 state
  unfold loadMissing current
  rw [asked_lift_bind g (get_run _), asked_bind_ok g loaded, asked_loadProgram]
  exact List.append_nil _

theorem asked_insertLoaded (programs : List (Pubkey × Program)) (batch : Batch) (state : Replenishing Programs) :
    (insertLoaded caches programs batch).asked g state = [] := by
  induction programs generalizing batch state with
  | nil => rfl
  | cons first rest ih =>
      unfold insertLoaded current setCache record
      rw [asked_lift_bind g (get_run _)]
      dsimp only
      rw [asked_lift_bind g (modify_run _ _), asked_lift_bind g (modify_run _ _), asked_lift_bind g (modify_run _ _)]
      exact ih _ _

/-- Replenishing asks for the accounts of the messages, and then for what each
program that the cache does not have consists of. -/
theorem asked_replenishProgramCache {slot : WorkingSlot} {searched : List SearchedProgram}
    (found : ∀ message ∈ messages, ∀ key ∈ message.accountKeys, g key ≠ none)
    (search : (loader.answering g).searchPrograms messages = .ok searched) (events : List AccountLoader.CacheEvent) :
    (replenishProgramCache loaders caches slot messages).asked g ⟨loader, events⟩ =
      messages.flatMap SanitizedMessage.accountKeys ++
        (AccountLoader.absentKeys caches slot loader.loadedProgramsCache searched).flatMap (programKeys loaders g) := by
  have ran : ∀ state : Replenishing Programs, (loader.searchPrograms messages).answered g state = .ok searched state := by
    intro state
    rw [answered_searchPrograms, search]
    rfl
  have missingLoaded : ∀ missing : List SearchedProgram,
      Total ((missing.mapM (loadMissing loaders caches (caches.currentSlot slot))).answered g) := by
    intro missing
    rw [answered_mapM]
    exact .mapM fun program _ => total_loadMissing loaders caches _ program
  unfold replenishProgramCache current setCache record
  rw [asked_lift_bind g (get_run _)]
  dsimp only
  rw [asked_bind_ok g (ran _), asked_searchPrograms found]
  refine congrArg _ ?_
  rw [asked_lift_bind g (get_run _), asked_lift_bind g (modify_run _ _), asked_lift_bind g (get_run _)]
  dsimp only
  rw [asked_lift_bind g (modify_run _ _), asked_lift_bind g (modify_run _ _)]
  rw [asked_bind_total g _ (missingLoaded _) fun _ _ => asked_insertLoaded caches _ _ _, List.append_nil,
    asked_mapM g _ (fun program _ => total_loadMissing loaders caches _ program)
      fun program _ state => asked_loadMissing loaders caches _ program state]
  exact (List.flatMap_map _ _ _).symm

end Replenish

end BpfSimulator.AskingLoader
