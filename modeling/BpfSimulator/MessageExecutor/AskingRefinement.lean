import BpfSimulator.MessageExecutor.AskingLoader
import BpfSimulator.MessageExecutor.LoaderAgreement

/-! Against fixed answers, loading that asks is loading from a fixed source. -/

set_option autoImplicit false

namespace BpfSimulator.AskingLoader

open Foundation AskM

variable {σ Programs Batch Environment Program WorkingSlot : Type}

@[simp] theorem answered_getAccount (g : Pubkey → Option Account) (key : Pubkey) :
    (getAccountWithFixedRoot key : LoaderM σ _).answered g = pure (g key) := rfl

section Transaction

variable (constructInstructionsData : InstructionsData) (loader : AccountLoader Programs)

theorem answered_loadMessageAccount (message : SanitizedMessage) (key : Pubkey) :
    (loadMessageAccount constructInstructionsData message key : LoaderM σ _).answered loader.g =
      inspecting (loader.loadMessageAccount constructInstructionsData message key) := by
  unfold loadMessageAccount AccountLoader.loadMessageAccount
  split
  · cases AccountLoader.constructInstructionsAccount constructInstructionsData message <;> rfl
  · rw [answered_bind, answered_getAccount, pure_bind, AccountLoader.getAccountWithFixedRoot]
    cases loader.g key <;> rfl

theorem answered_findOwner (start : Nat) (accounts : List TransactionAccount) (ownerId : Pubkey) :
    (findOwner start accounts ownerId : LoaderM σ _).answered loader.g =
      inspecting (loader.findOwner start accounts ownerId) := by
  unfold findOwner AccountLoader.findOwner
  split
  · rfl
  · cases (accounts.drop start).findIdx? (fun account => account.1 = ownerId) with
    | some ownerIndex => rfl
    | none =>
        dsimp only
        rw [answered_bind, answered_getAccount, pure_bind, AccountLoader.getAccountWithFixedRoot]
        cases loader.g ownerId <;> rfl

theorem answered_resolveProgram (start rounds : Nat) (accounts : List TransactionAccount)
    (accountIndices : List UInt16) (index : Nat) :
    (resolveProgram start rounds accounts accountIndices index : LoaderM σ _).answered loader.g =
      inspecting (loader.resolveProgram start rounds accounts accountIndices index) := by
  induction rounds generalizing accounts accountIndices index with
  | zero => rfl
  | succ rounds ih =>
      unfold resolveProgram AccountLoader.resolveProgram
      cases accounts[index]? with
      | none => rfl
      | some account =>
          obtain ⟨programId, programAccount⟩ := account
          dsimp only
          split
          · rfl
          · split
            · rfl
            · rw [answered_bind, answered_findOwner, inspecting_bind]
              exact congrArg _ (funext fun found => ih found.1 _ found.2)

theorem answered_resolvePrograms (start : Nat) (instructions : List CompiledInstruction)
    (accounts : List TransactionAccount) (programIndices : List (List UInt16)) :
    (resolvePrograms start instructions accounts programIndices : LoaderM σ _).answered loader.g =
      inspecting (loader.resolvePrograms start instructions accounts programIndices) := by
  induction instructions generalizing accounts programIndices with
  | nil => rfl
  | cons instruction rest ih =>
      unfold resolvePrograms AccountLoader.resolvePrograms
      rw [answered_bind, answered_resolveProgram, inspecting_bind]
      exact congrArg _ (funext fun found => ih found.1 _)

theorem answered_loadTransactionAccounts (message : SanitizedMessage) :
    (loadTransactionAccounts constructInstructionsData message : LoaderM σ _).answered loader.g =
      inspecting (loader.loadTransactionAccounts constructInstructionsData message) := by
  unfold loadTransactionAccounts AccountLoader.loadTransactionAccounts
  rw [answered_bind, answered_mapM, inspecting_bind, inspecting_mapM]
  simp only [answered_loadMessageAccount]
  refine congrArg _ (funext fun accounts => ?_)
  rw [answered_bind, answered_resolvePrograms, inspecting_bind]
  rfl

end Transaction

section Replenish

variable (loaders : ProgramLoaders Environment Program)
  (caches : ProgramCaches Programs Batch Environment Program WorkingSlot) (loader : AskingLoader Programs)
  (g : Pubkey → Option Account)

theorem answered_loadProgramAccounts (key : Pubkey) :
    (loadProgramAccounts loaders key : LoaderM σ _).answered g =
      inspecting ((loader.answering g).loadProgramAccounts loaders key) := by
  have answer : ∀ key, (loader.answering g).getAccountWithFixedRoot key = .ok (g key) := fun _ => rfl
  unfold loadProgramAccounts AccountLoader.loadProgramAccounts
  rw [answered_bind, answered_getAccount, pure_bind, answer, except_ok_bind]
  cases g key with
  | none => rfl
  | some programAccount =>
      dsimp only
      rw [answered_ite, inspecting_ite, answered_ite, inspecting_ite]
      refine if_congr Iff.rfl ?_ (if_congr Iff.rfl rfl ?_)
      · cases loaders.getState programAccount.data with
        | none => rfl
        | some state =>
            dsimp only
            rw [answered_ite, inspecting_ite]
            rfl
      · cases loaders.state programAccount.data with
        | none => rfl
        | some state =>
            cases state with
            | program address =>
                dsimp only
                rw [answered_bind, answered_getAccount, pure_bind, answer, except_ok_bind]
                cases g address with
                | none => rfl
                | some programdataAccount =>
                    dsimp only
                    cases loaders.state programdataAccount.data with
                    | none => rfl
                    | some decoded => cases decoded <;> rfl
            | _ => rfl

theorem answered_loadProgram (slot : Slot) (key : Pubkey) :
    (loader.loadProgram loaders caches slot key : LoaderM σ _).answered g =
      inspecting ((loader.answering g).loadProgram loaders caches slot key) := by
  have sameProgram : ∀ environments accounts, loader.programOf loaders environments slot false accounts =
      (loader.answering g).programOf loaders environments slot false accounts := by
    intro environments accounts
    cases accounts <;> rfl
  unfold loadProgram AccountLoader.loadProgram
  dsimp only
  rw [answered_bind, answered_loadProgramAccounts loaders loader g, inspecting_bind]
  refine congrArg _ (funext fun accounts => ?_)
  rw [sameProgram]
  have sameCache : (loader.answering g).loadedProgramsCache = loader.loadedProgramsCache := rfl
  rw [sameCache]
  cases (loader.answering g).programOf loaders
    (caches.getEnvironmentsForEpoch loader.loadedProgramsCache (slot / defaultSlotsPerEpoch)) slot false accounts <;> rfl

theorem answered_searchMessageKey (missingPrograms : List SearchedProgram) (key : Pubkey) :
    (loader.searchMessageKey missingPrograms key : LoaderM σ _).answered g =
      inspecting ((loader.answering g).searchMessageKey missingPrograms key) := by
  have answer : (loader.answering g).getAccountWithFixedRoot key = .ok (g key) := rfl
  unfold searchMessageKey AccountLoader.searchMessageKey
  rw [answered_bind, answered_getAccount, pure_bind, answer, except_ok_bind]
  cases g key with
  | none => rfl
  | some account =>
      dsimp only
      rw [answered_ite, inspecting_ite]
      rfl

theorem answered_searchPrograms (messages : List SanitizedMessage) :
    (loader.searchPrograms messages : LoaderM σ _).answered g =
      inspecting ((loader.answering g).searchPrograms messages) := by
  unfold searchPrograms AccountLoader.searchPrograms
  rw [answered_bind, answered_foldlM, inspecting_bind, inspecting_foldlM]
  simp only [answered_foldlM, inspecting_foldlM, answered_searchMessageKey loader g]
  rfl

/-- The state of a replenishing loader, over a closure and over fixed answers. -/
def Mirrored (g : Pubkey → Option Account) (state : Replenishing Programs)
    (twin : AccountLoader.Replenishing Programs) : Prop := twin = state.answering g

theorem simulates_record (event : AccountLoader.CacheEvent) :
    Simulates (Mirrored g) Eq ((record event : ReplenishM Programs PUnit).answered g) (AccountLoader.record event) := by
  refine .modify fun state twin same => ?_
  subst same
  rfl

theorem simulates_setCache (cache : Programs) :
    Simulates (Mirrored g) Eq ((setCache cache).answered g) (AccountLoader.setCache cache) := by
  refine .modify fun state twin same => ?_
  subst same
  rfl

theorem simulates_loadMissing (slot : Slot) (missing : SearchedProgram) :
    Simulates (Mirrored g) Eq ((loadMissing loaders caches slot missing).answered g)
      (AccountLoader.loadMissing loaders caches slot missing) := by
  unfold loadMissing AccountLoader.loadMissing
  rw [answered_bind]
  refine .bind .get fun state twin same => ?_
  subst same
  rw [answered_bind, answered_loadProgram]
  refine .bind_same (.inspecting (agree_eq_iff.mpr rfl)) fun program => ?_
  rw [answered_bind]
  exact .bind_same (simulates_record g _) fun _ => .pure rfl

theorem simulates_insertLoaded (programs : List (Pubkey × Program)) (batch : Batch) :
    Simulates (Mirrored g) Eq ((insertLoaded caches programs batch).answered g)
      (AccountLoader.insertLoaded caches programs batch) := by
  induction programs generalizing batch with
  | nil => exact .pure rfl
  | cons first rest ih =>
      unfold insertLoaded AccountLoader.insertLoaded
      rw [answered_bind]
      refine .bind .get fun state twin same => ?_
      subst same
      rw [answered_bind]
      refine .bind_same (simulates_setCache g _) fun _ => ?_
      rw [answered_bind]
      refine .bind_same (simulates_record g _) fun _ => ?_
      rw [answered_bind]
      exact .bind_same (simulates_record g _) fun _ => ih _

theorem simulates_replenishProgramCache (slot : WorkingSlot) (messages : List SanitizedMessage) :
    Simulates (Mirrored g) Eq ((replenishProgramCache loaders caches slot messages).answered g)
      (AccountLoader.replenishProgramCache loaders caches slot messages) := by
  unfold replenishProgramCache AccountLoader.replenishProgramCache
  rw [answered_bind]
  refine .bind .get fun state twin same => ?_
  subst same
  rw [answered_bind, answered_searchPrograms]
  refine .bind_same (.inspecting (agree_eq_iff.mpr rfl)) fun missingPrograms => ?_
  rw [answered_bind]
  refine .bind .get fun state twin same => ?_
  subst same
  rw [answered_bind]
  refine .bind_same (simulates_record g _) fun _ => ?_
  rw [answered_bind]
  refine .bind .get fun state twin same => ?_
  subst same
  rw [answered_bind]
  refine .bind_same (simulates_setCache g _) fun _ => ?_
  rw [answered_bind]
  refine .bind_same (simulates_record g _) fun _ => ?_
  rw [answered_bind, answered_mapM]
  exact .bind_same (.mapM_same fun missing _ => simulates_loadMissing loaders caches g _ missing) fun programs =>
    simulates_insertLoaded caches g programs _

end Replenish

end BpfSimulator.AskingLoader
