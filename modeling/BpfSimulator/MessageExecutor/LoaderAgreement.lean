import BpfSimulator.MessageExecutor.ProgramLoaderProperties
import BpfSimulator.MessageExecutor.TransactionLoaderProperties

/-! The two loading passes over one message. Both ask the source for every
key, but transaction loading synthesizes the instructions sysvar. -/

set_option autoImplicit false

namespace BpfSimulator.AccountLoader

open Foundation

variable {Programs Batch Environment Program WorkingSlot : Type}

theorem replenish_accountNotFound_iff (loaders : ProgramLoaders Environment Program)
    (caches : ProgramCaches Programs Batch Environment Program WorkingSlot) (slot : WorkingSlot)
    (messages : List SanitizedMessage) (state : Replenishing Programs) :
    (∃ after, replenishProgramCache loaders caches slot messages state =
        .error (.transaction .accountNotFound) after) ↔
      ∃ message ∈ messages, ∃ key ∈ message.accountKeys, state.loader.g key = none := by
  constructor
  · intro unresolved
    obtain ⟨after, failed⟩ := unresolved
    by_contra known
    push Not at known
    obtain ⟨searched, search, _⟩ := searchPrograms_found known
    obtain ⟨batch, cache, ran, _⟩ := @replenish_found _ _ _ _ _ loaders caches _ _ slot searched state.events search
    rw [ran] at failed
    cases failed
  · intro unknown
    exact ⟨state, replenish_missing loaders unknown⟩

/-- Once a message's transaction is loaded, replenishing for it misses no
account exactly when the instructions sysvar is not named or the source knows it. -/
theorem passes_agree_iff (constructInstructionsData : InstructionsData)
    (loaders : ProgramLoaders Environment Program)
    (caches : ProgramCaches Programs Batch Environment Program WorkingSlot) (slot : WorkingSlot)
    (message : SanitizedMessage) (state : Replenishing Programs) {loaded : LoadedTransaction}
    (success : state.loader.loadTransactionAccounts constructInstructionsData message = .ok loaded) :
    (∀ after, replenishProgramCache loaders caches slot [message] state ≠
        .error (.transaction .accountNotFound) after) ↔
      (instructionsSysvarId ∈ message.accountKeys → state.loader.g instructionsSysvarId ≠ none) := by
  obtain ⟨base, accounts⟩ := messageAccounts_of_loaded success
  rw [← not_exists, replenish_accountNotFound_iff]
  simp only [List.mem_singleton, exists_eq_left, not_exists, not_and]
  constructor
  · exact fun known named => known _ named
  · intro special key named
    by_cases isSysvar : key = instructionsSysvarId
    · subst isSysvar
      exact special named
    · exact accounts.found named isSysvar

theorem passes_agree_iff_program :
    (∃ loaded, programLoader.loadTransactionAccounts plainInstructionsData programMessage = .ok loaded) ∧
      ∀ after, replenishProgramCache refusingLoaders keyCaches 7 [programMessage] ⟨programLoader, []⟩ ≠
        .error (.transaction .accountNotFound) after := by
  have agree := passes_agree_iff plainInstructionsData refusingLoaders keyCaches 7 programMessage
    ⟨programLoader, []⟩ rfl
  exact ⟨⟨_, rfl⟩, agree.mpr (by decide)⟩

/-- A program that reads the instructions of its transaction. -/
def introspectingMessage : SanitizedMessage where
  accountKeys := [.filled 1, instructionsSysvarId]
  instructions := [⟨0, [1], []⟩]

/-- Transaction loading supplies the instructions sysvar itself; replenishing
asks the source for it and fails. -/
theorem passes_disagree :
    (∃ loaded, programLoader.loadTransactionAccounts plainInstructionsData introspectingMessage = .ok loaded) ∧
      replenishProgramCache refusingLoaders keyCaches 7 [introspectingMessage] ⟨programLoader, []⟩ =
        .error (.transaction .accountNotFound) ⟨programLoader, []⟩ :=
  ⟨⟨_, rfl⟩, replenish_missing refusingLoaders ⟨_, .head _, instructionsSysvarId, by decide, by decide⟩⟩

end BpfSimulator.AccountLoader
