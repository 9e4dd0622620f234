import BpfSimulator.Cli.Snapshot
import BpfSimulator.MessageExecutor.RequestedAccounts

/-! How the loading passes of a simulation end, and what they request from the
node. The closure always answers with some account, so only a chain of owners
that is too long can keep the passes from going through. -/

set_option autoImplicit false

namespace BpfSimulator

open Foundation

namespace AccountLoader

variable {Programs : Type} {constructInstructionsData : InstructionsData} {loader : AccountLoader Programs}
  {message : SanitizedMessage} {accounts : List TransactionAccount} {start : Nat}

/-- Every key has an account. -/
def Complete (loader : AccountLoader Programs) : Prop := ∀ key, loader.g key ≠ none

theorem findOwner_complete (complete : Complete loader) (enough : start ≤ accounts.length) (ownerId : Pubkey) :
    ∃ found, loader.findOwner start accounts ownerId = .ok found ∧ found.2 < found.1.length := by
  unfold findOwner
  rw [if_neg (Nat.not_lt.mpr enough)]
  cases searched : (accounts.drop start).findIdx? (fun account => account.1 = ownerId) with
  | some index =>
      obtain ⟨bound, _⟩ := List.findIdx?_eq_some_iff_getElem.mp searched
      rw [List.length_drop] at bound
      exact ⟨_, rfl, by dsimp only; omega⟩
  | none =>
      obtain ⟨owner, known⟩ := Option.ne_none_iff_exists'.mp (complete ownerId)
      refine ⟨(accounts ++ [(ownerId, owner)], accounts.length), ?_, by simp⟩
      simp only [getAccountWithFixedRoot, known]
      rfl

theorem resolveProgram_tooDeep (complete : Complete loader) (enough : start ≤ accounts.length) {rounds index : Nat}
    {accountIndices : List UInt16} {error : LoadError} (inside : index < accounts.length)
    (failed : loader.resolveProgram start rounds accounts accountIndices index = .error error) :
    error = .transaction .callChainTooDeep := by
  induction rounds generalizing accounts accountIndices index with
  | zero =>
      cases failed
      rfl
  | succ rounds ih =>
      have place := List.getElem?_eq_getElem inside
      by_cases native : accounts[index].1 = nativeLoaderId
      · rw [resolveProgram_native place native] at failed
        cases failed
      by_cases owned : NativelyOwned accounts[index]
      · rw [resolveProgram_last place native owned] at failed
        cases failed
      obtain ⟨found, search, behind⟩ := findOwner_complete complete enough accounts[index].2.owner
      rw [resolveProgram_next place native owned, search] at failed
      exact ih (enough.trans (findOwner_grows search).length_le) behind failed

theorem resolvePrograms_tooDeep (complete : Complete loader) (enough : start ≤ accounts.length)
    {instructions : List CompiledInstruction} {programIndices : List (List UInt16)} {error : LoadError}
    (inRange : ∀ instruction ∈ instructions, instruction.programIdIndex.toNat < start)
    (failed : loader.resolvePrograms start instructions accounts programIndices = .error error) :
    error = .transaction .callChainTooDeep := by
  induction instructions generalizing accounts programIndices with
  | nil => cases failed
  | cons instruction rest ih =>
      have inside := Nat.lt_of_lt_of_le (inRange instruction (.head _)) enough
      unfold resolvePrograms at failed
      cases ran : loader.resolveProgram start 5 accounts [] instruction.programIdIndex.toNat with
      | error early =>
          rw [ran] at failed
          cases failed
          exact resolveProgram_tooDeep complete enough inside ran
      | ok found =>
          rw [ran] at failed
          exact ih (enough.trans (resolveProgram_grows ran).length_le)
            (fun later member => inRange later (.tail _ member)) failed

/-- With an account for every key loading fails only where a call chain is too
deep, and then some program has no chain of owners. -/
theorem loadTransactionAccounts_complete (complete : Complete loader)
    (inRange : ∀ instruction ∈ message.instructions,
      instruction.programIdIndex.toNat < message.accountKeys.length)
    (decompiles : instructionsSysvarId ∈ message.accountKeys → (constructInstructionsData message).isSome) :
    (∃ loaded, loader.loadTransactionAccounts constructInstructionsData message = .ok loaded ∧
        ∀ instruction ∈ message.instructions,
          ∃ chain, ProgramChain constructInstructionsData loader message instruction chain) ∨
      loader.loadTransactionAccounts constructInstructionsData message = .error (.transaction .callChainTooDeep) ∧
        ∃ instruction ∈ message.instructions,
          ¬ ∃ chain, ProgramChain constructInstructionsData loader message instruction chain := by
  obtain ⟨base, loaded⟩ := (exists_messageAccounts decompiles).mpr fun key _ _ => complete key
  have allLoaded := loadMessageAccounts_ok_iff.mpr loaded
  cases ran : loader.resolvePrograms base.length message.instructions base [] with
  | ok found =>
      exact .inl ⟨_, loadTransactionAccounts_ok_iff.mpr ⟨base, loaded, found, ran, rfl⟩,
        chains_of_resolved loaded inRange ran⟩
  | error error =>
      obtain rfl := resolvePrograms_tooDeep complete (Nat.le_refl _) (loaded.length_eq ▸ inRange) ran
      refine .inr ⟨?_, ?_⟩
      · rw [loadTransactionAccounts, allLoaded, except_ok_bind]
        dsimp only
        rw [ran]
        rfl
      · by_contra chains
        push Not at chains
        obtain ⟨appended, entries, resolved, _⟩ := resolvePrograms_ok loaded chains (Grown.start loader base) []
        rw [List.append_nil, ran] at resolved
        cases resolved

end AccountLoader

namespace Cli.Simulate

open AccountLoader
open Query (requests)

variable {RpcError Node Programs Batch Environment Program WorkingSlot Sysvars Log Context Budget Rent Hash
  MessageError Entrypoint : Type}
  (runtime : SimulateRuntime Programs Batch Environment Program WorkingSlot Sysvars Log Context Budget Rent Hash
    MessageError Entrypoint) (executor : MessageExecutor Programs Sysvars Log) (slot : Slot)
  (message : SanitizedMessage) (rpc : RpcClient RpcError Node) (options : Simulate) (programData : Account)

/-- Every program of the message has a chain of owners. -/
def Resolvable (accounts : Pubkey → Option Account) : Prop :=
  ∀ instruction ∈ message.instructions,
    ∃ chain, ProgramChain runtime.constructInstructionsData (executor.loader accounts) message instruction chain

theorem loadFrom_complete (accounts : Pubkey → Option Account) (complete : ∀ key, accounts key ≠ none)
    (inRange : ∀ instruction ∈ message.instructions,
      instruction.programIdIndex.toNat < message.accountKeys.length)
    (decompiles : instructionsSysvarId ∈ message.accountKeys → (runtime.constructInstructionsData message).isSome) :
    (∃ loaded, loadFrom runtime executor slot message accounts = .ok loaded ∧
        Resolvable runtime executor message accounts) ∨
      loadFrom runtime executor slot message accounts = .error (.transaction .callChainTooDeep) ∧
        ¬ Resolvable runtime executor message accounts := by
  have outcome := @loadTransactionAccounts_complete _ _ (executor.loader accounts) _ complete inRange decompiles
  cases outcome with
  | inl success =>
      obtain ⟨loaded, ran, chains⟩ := success
      obtain ⟨searched, search, _⟩ := @searchPrograms_found _ (executor.loader accounts) [message]
        fun _ _ key _ => complete key
      obtain ⟨batch, cache, replenished, _⟩ := @replenish_found _ _ _ _ _ runtime.loaders
        runtime.caches _ _ (runtime.workingSlot slot) _ [] search
      refine .inl ⟨((loaded, batch), cache), ?_, chains⟩
      unfold loadFrom fixedPasses
      rw [bind_run_ok (get_run _)]
      dsimp only
      rw [ran, bind_run_ok (inspecting_ok_run _ _), bind_run_ok replenished]
      rfl
  | inr failure =>
      obtain ⟨failed, instruction, member, unresolved⟩ := failure
      refine .inr ⟨?_, fun chains => unresolved (chains instruction member)⟩
      unfold loadFrom fixedPasses
      rw [bind_run_ok (get_run _)]
      dsimp only
      rw [failed, bind_run_error (inspecting_error_run _ _)]

/-- Whatever the node answers, the passes of a simulation end in one of two
ways: they go through, or a call chain is too deep. They go through if and only
if every program has a chain of owners among the answers. -/
theorem load_outcome (inRange : ∀ instruction ∈ message.instructions,
      instruction.programIdIndex.toNat < message.accountKeys.length)
    (decompiles : instructionsSysvarId ∈ message.accountKeys → (runtime.constructInstructionsData message).isSome)
    (node : Node) : ∃ keys,
      let answers := requests (fetch rpc) keys node
      let accounts := options.snapshot programData (Query.tableAnswers Account.default answers.1)
      keys = requestedKeys runtime executor slot message options accounts ∧
      (Resolvable runtime executor message accounts →
        ∃ loaded, load runtime rpc options programData executor slot message node = .ok loaded answers.2) ∧
      (¬ Resolvable runtime executor message accounts →
        load runtime rpc options programData executor slot message node =
          .error (.load (.transaction .callChainTooDeep)) answers.2) := by
  obtain ⟨keys, _, others, _, determined⟩ :=
    load_reads_snapshot runtime executor slot message rpc options programData node
  have named : (requests (fetch rpc) keys node).1.map Prod.fst = keys := Query.keys_requests _ _ _
  have snapshot := snapshot_extends options programData (by rwa [named])
  refine ⟨keys, (determined _ snapshot).1, ?_⟩
  rw [(determined _ snapshot).2]
  have complete : ∀ key, options.snapshot programData
      (Query.tableAnswers Account.default (requests (fetch rpc) keys node).1) key ≠ none :=
    fun _ => Option.some_ne_none _
  rcases loadFrom_complete runtime executor slot message _ complete inRange decompiles with success | failure
  · obtain ⟨loaded, ran, chains⟩ := success
    rw [ran]
    exact ⟨fun _ => ⟨loaded, rfl⟩, fun unresolved => absurd chains unresolved⟩
  · obtain ⟨failed, unresolved⟩ := failure
    rw [failed]
    exact ⟨fun chains => absurd chains unresolved, fun _ => rfl⟩

/-- The message that the idle runtime makes. -/
def idleMessage : SanitizedMessage := ⟨[.filled 1], [⟨0, [], []⟩]⟩

theorem load_outcome_forgetful : ∃ keys,
    let answers := requests (fetch forgetfulNode) keys 1
    let accounts := idleOptions.snapshot (Simulate.programData [1, 2, 3])
      (Query.tableAnswers Account.default answers.1)
    keys = requestedKeys idleRuntime MessageExecutor.idleExecutor 7 idleMessage idleOptions accounts ∧
    (Resolvable idleRuntime MessageExecutor.idleExecutor idleMessage accounts →
      ∃ loaded, load idleRuntime forgetfulNode idleOptions (Simulate.programData [1, 2, 3])
        MessageExecutor.idleExecutor 7 idleMessage 1 = .ok loaded answers.2) ∧
    (¬ Resolvable idleRuntime MessageExecutor.idleExecutor idleMessage accounts →
      load idleRuntime forgetfulNode idleOptions (Simulate.programData [1, 2, 3])
        MessageExecutor.idleExecutor 7 idleMessage 1 =
          .error (.load (.transaction .callChainTooDeep)) answers.2) :=
  load_outcome idleRuntime MessageExecutor.idleExecutor 7 idleMessage forgetfulNode idleOptions
    (Simulate.programData [1, 2, 3]) (by decide) (by decide) 1

section Requests

/-- What the passes need when they go through: the accounts of the message and
the owners behind them, the accounts of the message again, now with the
instructions sysvar, and what the programs missing in the cache consist of. -/
theorem neededKeys_of_loaded {accounts : Pubkey → Option Account} (complete : ∀ key, accounts key ≠ none)
    {loaded : LoadedTransaction} {searched : List SearchedProgram}
    (success : (executor.loader accounts).loadTransactionAccounts runtime.constructInstructionsData message = .ok loaded)
    (search : (executor.loader accounts).searchPrograms [message] = .ok searched) :
    neededKeys runtime executor slot message accounts =
      message.accountKeys.filter (· ≠ instructionsSysvarId) ++
        (loaded.accounts.map Prod.fst).drop message.accountKeys.length ++
        (message.accountKeys ++
          (absentKeys runtime.caches (runtime.workingSlot slot) executor.loadedPrograms searched).flatMap
            (AskingLoader.programKeys runtime.loaders accounts)) := by
  let start : AskingLoader.Replenishing Programs := ⟨executor.askingLoader, []⟩
  have transaction : (AskingLoader.loadTransactionAccounts runtime.constructInstructionsData message).answered accounts
      start = .ok loaded start := by
    have answered : (AskingLoader.loadTransactionAccounts runtime.constructInstructionsData message :
        AskingLoader.ReplenishM Programs _).answered accounts = _ :=
      AskingLoader.answered_loadTransactionAccounts runtime.constructInstructionsData (executor.loader accounts) message
    rw [success] at answered
    exact congrFun answered start
  have searchedHere : (executor.askingLoader.answering accounts).searchPrograms [message] = .ok searched := search
  have first : (AskingLoader.loadTransactionAccounts runtime.constructInstructionsData message).asked accounts start = _ :=
    AskingLoader.asked_loadTransactionAccounts success start
  unfold neededKeys loadPasses
  rw [AskM.asked_bind_ok _ transaction, first, AskM.asked_bind_pure,
    AskingLoader.asked_replenishProgramCache _ _ (fun _ _ key _ => complete key) searchedHere]
  simp [MessageExecutor.askingLoader]

/-- Loading that goes through has done both passes. -/
theorem passes_of_loadFrom {accounts : Pubkey → Option Account} {loaded : (LoadedTransaction × Batch) × Programs}
    (success : loadFrom runtime executor slot message accounts = .ok loaded) :
    (executor.loader accounts).loadTransactionAccounts runtime.constructInstructionsData message = .ok loaded.1.1 ∧
      ∃ final, AccountLoader.replenishProgramCache runtime.loaders runtime.caches (runtime.workingSlot slot) [message]
        ⟨executor.loader accounts, []⟩ = .ok loaded.1.2 final := by
  unfold loadFrom at success
  cases ran : fixedPasses runtime slot message ⟨executor.loader accounts, []⟩ with
  | error error state =>
      rw [ran] at success
      cases success
  | ok both state =>
      rw [ran] at success
      cases success
      unfold fixedPasses at ran
      rw [bind_run_ok (get_run _)] at ran
      obtain ⟨transaction, _, first, ran⟩ := bind_ok ran
      obtain ⟨batch, final, second, ran⟩ := bind_ok ran
      cases ran
      cases found : (executor.loader accounts).loadTransactionAccounts runtime.constructInstructionsData message with
      | ok result =>
          rw [found] at first
          cases first
          exact ⟨rfl, _, second⟩
      | error error =>
          rw [found] at first
          cases first

/-- Loading from the node that goes through is loading from a snapshot of it. -/
theorem loadFrom_of_load {node after : Node} {loaded : (LoadedTransaction × Batch) × Programs}
    (success : load runtime rpc options programData executor slot message node = .ok loaded after) :
    ∃ keys,
      let answers := requests (fetch rpc) keys node
      let accounts := options.snapshot programData (Query.tableAnswers Account.default answers.1)
      keys = requestedKeys runtime executor slot message options accounts ∧ after = answers.2 ∧
        loadFrom runtime executor slot message accounts = .ok loaded := by
  obtain ⟨keys, _, others, _, determined⟩ :=
    load_reads_snapshot runtime executor slot message rpc options programData node
  have named : (requests (fetch rpc) keys node).1.map Prod.fst = keys := Query.keys_requests _ _ _
  obtain ⟨requested, outcome⟩ := determined _ (snapshot_extends options programData (by rwa [named]))
  refine ⟨keys, requested, ?_⟩
  rw [success] at outcome
  cases ran : loadFrom runtime executor slot message (options.snapshot programData
      (Query.tableAnswers Account.default (requests (fetch rpc) keys node).1)) with
  | error error =>
      rw [ran] at outcome
      cases outcome
  | ok result =>
      rw [ran] at outcome
      cases outcome
      exact ⟨rfl, rfl⟩

end Requests

section Unreachable

/-- No account of the source belongs to the native loader. -/
def NoNative (accounts : Pubkey → Option Account) : Prop :=
  ∀ key account, accounts key = some account → account.owner ≠ nativeLoaderId

theorem sysvar_ne_native : sysvarId ≠ nativeLoaderId := by decide

theorem bpfLoader_ne_native : bpfLoaderId ≠ nativeLoaderId := by decide

theorem default_ne_native : Account.default.owner ≠ nativeLoaderId := by decide

theorem messageAccount_noNative {constructInstructionsData : InstructionsData} {loader : AccountLoader Programs}
    {key : Pubkey} {account : Account} (noNative : NoNative loader.g)
    (known : messageAccount constructInstructionsData loader message key = some account) :
    account.owner ≠ nativeLoaderId := by
  rw [messageAccount] at known
  split at known
  · obtain ⟨data, _, rfl⟩ := Option.map_eq_some_iff.mp known
    exact sysvar_ne_native
  · exact noNative key account known

variable {runtime executor message rpc options}

theorem not_resolvable {accounts : Pubkey → Option Account} (noNative : NoNative accounts)
    (calls : ∃ instruction ∈ message.instructions,
      message.accountKeys[instruction.programIdIndex.toNat]? ≠ some nativeLoaderId) :
    ¬ Resolvable runtime executor message accounts := by
  intro resolvable
  obtain ⟨instruction, member, ordinary⟩ := calls
  obtain ⟨chain, followed⟩ := resolvable instruction member
  cases followed with
  | native program => exact ordinary program
  | owned program _ loaded owners =>
      refine not_chain (fun account : TransactionAccount => account.2.owner ≠ nativeLoaderId) (fun _ other => other) ?_ ?_ owners
      · intro account owner _ next
        exact noNative _ _ (nextOwner_eq_some.mp next).2
      · exact @messageAccount_noNative _ message _ (executor.loader accounts) _ _ noNative loaded

end Unreachable

end Cli.Simulate

end BpfSimulator
