import BpfSimulator.Cli.Commands
import BpfSimulator.MessageExecutor.AskingRefinement
import BpfSimulator.MessageExecutor.ExecutionRecord

/-! The accounts that a simulation sees are one snapshot: whatever the node
answers and however it changes, both loading passes read the same account for
the same key, and no key is requested twice. -/

set_option autoImplicit false

namespace BpfSimulator.Cli.Simulate

open Foundation AskingLoader
open Query hiding bind_assoc

variable {RpcError Node Programs Batch Environment Program WorkingSlot Sysvars Log Context Budget Rent Hash
  MessageError Entrypoint : Type}

section Source

variable (options : Simulate) (rpc : RpcClient RpcError Node) (programData : Account)

/-- One request of the closure to the node. -/
def fetch (key : Pubkey) (node : Node) : Account × Node :=
  ((rpc key node).1.toOption.getD Account.default, (rpc key node).2)

/-- What the closure answers without the node. -/
def ownAccount (key : Pubkey) : Option (Option Account) :=
  if key = options.programId then some (some programData) else none

/-- The fixed accounts that the closure stands for, given those of the node. -/
def snapshot (accounts : Pubkey → Account) (key : Pubkey) : Option Account :=
  some (if key = options.programId then programData else accounts key)

theorem accountSource_own (memo : Memo Pubkey Account Node) :
    options.accountSource rpc programData options.programId memo = (some programData, memo) := by
  rw [accountSource, if_pos rfl]

theorem accountSource_other {key : Pubkey} (other : key ≠ options.programId) (memo : Memo Pubkey Account Node) :
    options.accountSource rpc programData key memo =
      (some (memoized (fetch rpc) key memo).1, (memoized (fetch rpc) key memo).2) := by
  rw [accountSource, if_neg other, memoized]
  cases memo.table.lookup key <;> rfl

/-- The closure is the node behind a table, with the simulated program known. -/
theorem run_accountSource {ρ : Type} (query : Query Pubkey (Option Account) ρ) (memo : Memo Pubkey Account Node) :
    query.run (options.accountSource rpc programData) memo =
      ((query.given (options.ownAccount programData)).convert some).run (memoized (fetch rpc)) memo := by
  induction query generalizing memo with
  | done result => rfl
  | ask key next ih =>
      by_cases own : key = options.programId
      · rw [Query.run, given, ownAccount, if_pos own, own, accountSource_own]
        exact ih _ memo
      · rw [Query.run, given, ownAccount, if_neg own, accountSource_other options rpc programData own]
        exact ih _ _

theorem eval_ownAccount {ρ : Type} (query : Query Pubkey (Option Account) ρ) (accounts : Pubkey → Account) :
    ((query.given (options.ownAccount programData)).convert some).eval accounts =
      query.eval (options.snapshot programData accounts) := by
  rw [eval_convert, eval_given]
  refine congrArg (query.eval ·) (funext fun key => ?_)
  rw [ownAccount, snapshot]
  split <;> rfl

theorem asked_ownAccount {ρ : Type} (query : Query Pubkey (Option Account) ρ) (accounts : Pubkey → Account) :
    ((query.given (options.ownAccount programData)).convert some).asked accounts =
      (query.asked (options.snapshot programData accounts)).filter (· ≠ options.programId) := by
  rw [asked_convert, asked_given]
  have known : ∀ key, (options.ownAccount programData key).getD (some (accounts key)) =
      options.snapshot programData accounts key := by
    intro key
    rw [ownAccount, snapshot]
    split <;> rfl
  have unknown : ∀ key, (options.ownAccount programData key).isNone = decide (key ≠ options.programId) := by
    intro key
    rw [ownAccount]
    split <;> simp_all
  rw [funext known, funext unknown]

end Source

section Passes

variable (runtime : SimulateRuntime Programs Batch Environment Program WorkingSlot Sysvars Log Context Budget Rent Hash
    MessageError Entrypoint) (executor : MessageExecutor Programs Sysvars Log) (slot : Slot)
  (message : SanitizedMessage)

/-- The two loading passes over fixed accounts. -/
def fixedPasses : AccountLoader.ReplenishM Programs (LoadedTransaction × Batch) := do
  let loadedTransaction ← inspecting
    ((← get).loader.loadTransactionAccounts runtime.constructInstructionsData message)
  let loadedPrograms ←
    AccountLoader.replenishProgramCache runtime.loaders runtime.caches (runtime.workingSlot slot) [message]
  pure (loadedTransaction, loadedPrograms)

def loadFrom (accounts : Pubkey → Option Account) :
    Except LoadError ((LoadedTransaction × Batch) × Programs) :=
  match fixedPasses runtime slot message ⟨executor.loader accounts, []⟩ with
  | .ok loaded state => .ok (loaded, state.loader.loadedProgramsCache)
  | .error error _ => .error error

theorem simulates_loadPasses (accounts : Pubkey → Option Account) :
    Simulates (Mirrored accounts) Eq
      ((loadPasses runtime.constructInstructionsData runtime.loaders runtime.caches (runtime.workingSlot slot)
        message).answered accounts)
      (fixedPasses runtime slot message) := by
  intro state twin same
  subst same
  have transaction : (AskingLoader.loadTransactionAccounts runtime.constructInstructionsData message :
      ReplenishM Programs _).answered accounts =
      inspecting ((state.loader.answering accounts).loadTransactionAccounts runtime.constructInstructionsData message) :=
    answered_loadTransactionAccounts _ (state.loader.answering accounts) message
  rw [loadPasses, AskM.answered_bind, transaction, fixedPasses, bind_run_ok (get_run _)]
  refine Simulates.bind_same (.inspecting (agree_eq_iff.mpr rfl)) (fun loadedTransaction => ?_) _ _ rfl
  rw [AskM.answered_bind]
  exact .bind_same (simulates_replenishProgramCache _ _ accounts _ _) fun _ => .pure rfl

/-- The keys that the passes ask for under fixed accounts. -/
def neededKeys (accounts : Pubkey → Option Account) : List Pubkey :=
  (loadPasses runtime.constructInstructionsData runtime.loaders runtime.caches (runtime.workingSlot slot)
    message).asked accounts ⟨executor.askingLoader, []⟩

/-- The keys requested from the node: each that is needed and is not the
simulated program, once, when it is needed first. -/
def requestedKeys (options : Simulate) (accounts : Pubkey → Option Account) : List Pubkey :=
  firsts [] ((neededKeys runtime executor slot message accounts).filter (· ≠ options.programId))

/-- The simulated program, and elsewhere what the node said when it was asked. -/
structure Snapshot (options : Simulate) (programData : Account) (answers : List (Pubkey × Account))
    (accounts : Pubkey → Option Account) : Prop where
  own : accounts options.programId = some programData
  answered : ∀ key account, answers.lookup key = some account → accounts key = some account

variable (rpc : RpcClient RpcError Node) (options : Simulate) (programData : Account)

theorem snapshot_extends {answers : List (Pubkey × Account)} (others : options.programId ∉ answers.map Prod.fst) :
    Snapshot options programData answers (options.snapshot programData (tableAnswers Account.default answers)) where
  own := by rw [snapshot, if_pos rfl]
  answered := by
    intro key account found
    have other : key ≠ options.programId := by
      intro same
      exact others (same ▸ mem_of_lookup found)
    rw [snapshot, if_neg other, tableAnswers, found, Option.getD_some]

/-- Whatever the node answers, and however its answers change, the two passes
load from one snapshot of it. The node is asked once for each key needed, never
for the simulated program. -/
theorem load_reads_snapshot (node : Node) : ∃ keys, keys.Nodup ∧ options.programId ∉ keys ∧
    (∃ accounts, Snapshot options programData (requests (fetch rpc) keys node).1 accounts) ∧
    ∀ accounts, Snapshot options programData (requests (fetch rpc) keys node).1 accounts →
      keys = requestedKeys runtime executor slot message options accounts ∧
      load runtime rpc options programData executor slot message node =
        inspecting ((loadFrom runtime executor slot message accounts).mapError .load)
          (requests (fetch rpc) keys node).2 := by
  let passes := loadPasses runtime.constructInstructionsData runtime.loaders runtime.caches (runtime.workingSlot slot)
    message ⟨executor.askingLoader, []⟩
  obtain ⟨keys, ran⟩ := run_memoized_start (fetch rpc)
    ((passes.given (options.ownAccount programData)).convert some) node
  let answers := (requests (fetch rpc) keys node).1
  have needed : ∀ answered, Extend answered answers →
      keys = firsts [] ((passes.asked (options.snapshot programData answered)).filter (· ≠ options.programId)) := by
    intro answered extend
    rw [← asked_ownAccount]
    exact (ran answered extend).1
  have first := needed _ (extend_tableAnswers Account.default answers)
  have distinct : keys.Nodup := first ▸ nodup_firsts _ _
  have others : options.programId ∉ keys := by
    intro member
    rw [first, mem_firsts, List.mem_filter] at member
    simp at member
  have named : answers.map Prod.fst = keys := keys_requests _ _ _
  refine ⟨keys, distinct, others, ⟨_, snapshot_extends options programData (by rwa [named])⟩, ?_⟩
  intro accounts agrees
  -- beyond the keys requested, and with no account at all, the snapshot is not read
  let total := fun key => (accounts key).getD Account.default
  have extend : Extend total answers := by
    intro key account found
    simp only [total, agrees.answered key account found, Option.getD_some]
  have same : ∀ key ∈ passes.asked (options.snapshot programData total),
      accounts key = options.snapshot programData total key := by
    intro key member
    by_cases own : key = options.programId
    · rw [snapshot, if_pos own, own, agrees.own]
    · have requested : key ∈ answers.map Prod.fst := by
        rw [named, needed total extend, mem_firsts, List.mem_filter]
        exact ⟨⟨member, by simpa using own⟩, List.not_mem_nil⟩
      rw [snapshot, if_neg own]
      cases found : answers.lookup key with
      | none => exact absurd requested (notMem_of_lookup found)
      | some account => simp only [total, agrees.answered key account found, Option.getD_some]
  obtain ⟨sameResult, sameKeys⟩ := eval_congr same
  refine ⟨(needed total extend).trans (by rw [← sameKeys]; rfl), ?_⟩
  have outcome := run_accountSource options rpc programData passes ⟨[], node⟩
  rw [(ran total extend).2, eval_ownAccount, ← sameResult] at outcome
  have paired : Paired (Mirrored accounts) Eq (passes.eval accounts)
      (fixedPasses runtime slot message ⟨executor.loader accounts, []⟩) :=
    simulates_loadPasses runtime slot message accounts ⟨executor.askingLoader, []⟩ _ rfl
  rw [load, outcome, loadFrom]
  generalize passes.eval accounts = result at paired ⊢
  generalize fixedPasses runtime slot message ⟨executor.loader accounts, []⟩ = fixed at paired ⊢
  cases paired with
  | ok alike kept =>
      subst alike kept
      rfl
  | error kept => rfl

end Passes

section Run

variable (runtime : SimulateRuntime Programs Batch Environment Program WorkingSlot Sysvars Log Context Budget Rent Hash
    MessageError Entrypoint) (rpc : RpcClient RpcError Node) (options : Simulate)

/-- What the passes are called with. -/
structure Prepared (Programs Sysvars Log : Type) where
  executor : MessageExecutor Programs Sysvars Log
  slot : Slot
  programData : Account
  message : SanitizedMessage

/-- The command between the request for the clock and the passes. -/
def prepare (executor : MessageExecutor Programs Sysvars Log) (clockAccount : Account) :
    Except (SimulateError RpcError) (Prepared Programs Sysvars Log) := do
  let clock ← orFail .deserialize (runtime.deserializeClock clockAccount.data)
  let data ← orFail .io (runtime.readFile options.program)
  let instructionData ← orFail .decode (runtime.decode options.instruction)
  pure {
    executor := { executor with sysvarCache := runtime.setClock executor.sysvarCache clock }
    slot := clock.slot
    programData := programData data
    message := runtime.newMessage (options.toInstruction instructionData) }

/-- The command on fixed accounts, once the clock is fetched. -/
def simulateFrom (clockAccount : Account) (accounts : Pubkey → Option Account) :
    Except (SimulateError RpcError) (Report Log MessageError) := do
  let executor ← (MessageExecutor.new runtime.defaults runtime.caches runtime.features).mapError .load
  let prepared ← prepare runtime options executor clockAccount
  let loaded ← (loadFrom runtime prepared.executor prepared.slot prepared.message accounts).mapError .load
  pure (report runtime prepared.executor prepared.slot prepared.message loaded)

/-- Fixed accounts that hold the program of the file and the answers. -/
def Agrees (answers : List (Pubkey × Account)) (accounts : Pubkey → Option Account) : Prop :=
  ∀ data, runtime.readFile options.program = some data → Snapshot options (programData data) answers accounts

/-- After the clock the command requests some keys, each once, and is from then
on determined by any fixed accounts that agree with the answers. -/
structure ReadsSnapshot (clockAccount : Account) (node afterClock : Node) (keys : List Pubkey) : Prop where
  distinct : keys.Nodup
  others : options.programId ∉ keys
  agreeing : ∃ accounts, Agrees runtime options (requests (fetch rpc) keys afterClock).1 accounts
  determined : ∀ accounts, Agrees runtime options (requests (fetch rpc) keys afterClock).1 accounts →
    run runtime rpc options node =
      inspecting (simulateFrom runtime options clockAccount accounts) (requests (fetch rpc) keys afterClock).2

variable {runtime rpc options}

theorem exists_agrees {answers : List (Pubkey × Account)} (others : options.programId ∉ answers.map Prod.fst) :
    ∃ accounts, Agrees runtime options answers accounts := by
  refine ⟨options.snapshot (programData ((runtime.readFile options.program).getD []))
    (tableAnswers Account.default answers), fun data found => ?_⟩
  rw [found]
  exact snapshot_extends options _ others

variable {clockAccount : Account} {node afterClock : Node}

variable (options) in
theorem run_prepared {executor : MessageExecutor Programs Sysvars Log}
    (created : MessageExecutor.new runtime.defaults runtime.caches runtime.features = .ok executor)
    (answered : rpc clockId node = (.ok clockAccount, afterClock)) : run runtime rpc options node =
      (do let prepared ← inspecting (prepare runtime options executor clockAccount)
          let loaded ← load runtime rpc options prepared.programData prepared.executor prepared.slot prepared.message
          pure (report runtime prepared.executor prepared.slot prepared.message loaded)) afterClock := by
  have fetched : getAccount rpc clockId node = .ok clockAccount afterClock := by
    rw [getAccount, answered]
  unfold run prepare
  rw [created, Except.mapError, bind_run_ok (inspecting_ok_run _ _), bind_run_ok fetched]
  simp only [inspecting_bind, bind_assoc]
  rfl

theorem prepared_reads {executor : MessageExecutor Programs Sysvars Log} {prepared : Prepared Programs Sysvars Log}
    (ready : (prepare runtime options executor clockAccount : Except (SimulateError RpcError) _) = .ok prepared) :
    ∃ data, runtime.readFile options.program = some data ∧ prepared.programData = programData data := by
  unfold prepare at ready
  obtain ⟨clock, _, ready⟩ := except_bind_ok_iff.mp ready
  obtain ⟨data, read, ready⟩ := except_bind_ok_iff.mp ready
  obtain ⟨instructionData, _, ready⟩ := except_bind_ok_iff.mp ready
  cases ready
  refine ⟨data, ?_, rfl⟩
  cases found : runtime.readFile options.program with
  | none =>
      rw [found] at read
      cases read
  | some bytes =>
      rw [found] at read
      cases read
      rfl

/-- No builtins, programs that change nothing, and a file of three bytes. -/
def idleRuntime : SimulateRuntime (List Pubkey) (List Pubkey) Unit Unit Slot Unit (List String) (List TransactionAccount)
    Unit Unit Unit Unit Unit where
  defaults := {
    builtins := []
    newPrograms := fun _ _ => []
    setEnvironments := fun programs _ => programs
    environmentV1 := fun _ => some ()
    environmentV2 := ()
    newBuiltin := fun _ _ _ => ()
    sysvarCache := ()
    newLog := [] }
  loaders := AccountLoader.refusingLoaders
  caches := AccountLoader.keyCaches
  processor := MessageExecutor.idleProcessor
  constructInstructionsData := AccountLoader.plainInstructionsData
  features := []
  workingSlot := id
  setClock sysvars _ := sysvars
  deserializeClock data := if data.length = Clock.sizeOf then some ⟨u64FromLe (data.take 8), 0, 0, 0, 0⟩ else none
  readFile _ := some [1, 2, 3]
  decode _ := some []
  newMessage instruction := ⟨[instruction.programId], [⟨0, [], instruction.data⟩]⟩

def idleOptions : Simulate where
  programId := .filled 1
  program := "program.so"
  instruction := ""
  account := []
  signerAccount := []
  writableAccount := []

/-- It counts requests, and knows the clock and, at first, the loader. -/
def forgetfulNode : RpcClient Unit Nat := fun key count =>
  if key = clockId then (.ok { Account.default with data := Clock.toBytes ⟨7, 0, 0, 0, 0⟩ }, count + 1)
  else if key = bpfLoaderId ∧ count ≤ 1 then (.ok { Account.default with owner := nativeLoaderId }, count + 1)
  else (.error (), count + 1)

end Run

end BpfSimulator.Cli.Simulate
