import BpfSimulator.MessageExecutor.CacheHistory
import BpfSimulator.MessageExecutor.ExecutionRecord

/-! Messages do not interfere with each other. Whatever an executor has
processed, loaded or logged before, a loaded message has the same outcome; only
the log collector and the program cache carry over. -/

set_option autoImplicit false

namespace BpfSimulator.MessageExecutor

open Foundation AccountLoader

section Isolation

variable {Programs Batch Environment Program WorkingSlot Sysvars Log Context Budget Rent Hash MessageError Entrypoint : Type}

/-- `record_log`, with the collector that `LogCollector::new_ref` returns. -/
def recordLog (newLog : Log) (executor : MessageExecutor Programs Sysvars Log) : MessageExecutor Programs Sysvars Log :=
  { executor with logger := some newLog }

/-- `logger`, which panics without a collector. -/
def readLogger (executor : MessageExecutor Programs Sysvars Log) : Except LoadError Log :=
  match executor.logger with
  | some log => .ok log
  | none => .error .panicked

/-- What can be done with an executor between two messages, or to process one. -/
inductive Operation (WorkingSlot Batch : Type) where
  | recordLog
  | replenish (request : Request WorkingSlot)
  | process (slot : Slot) (message : SanitizedMessage) (loadedTransaction : LoadedTransaction) (loadedPrograms : Batch)

/-- Processing a message looks at the collector only to write to it, and never removes it. -/
structure LogContract (processor : TransactionProcessor Batch Sysvars Log Context Budget Rent Hash MessageError) :
    Prop where
  blind : ∀ message programIndices context rent logger logger' loadedPrograms modifiedPrograms updatedPrograms
    featureSet computeBudget sysvarCache blockhash lamportsPerSignature accountsDataLen units,
    let run := fun logger => processor.processMessage message programIndices context rent logger loadedPrograms
      modifiedPrograms updatedPrograms featureSet computeBudget sysvarCache blockhash lamportsPerSignature
      accountsDataLen units
    (run logger).result = (run logger').result ∧ (run logger).context = (run logger').context ∧
      (run logger).units = (run logger').units
  present : ∀ message programIndices context rent log loadedPrograms modifiedPrograms updatedPrograms featureSet
    computeBudget sysvarCache blockhash lamportsPerSignature accountsDataLen units,
    (processor.processMessage message programIndices context rent (some log) loadedPrograms modifiedPrograms
      updatedPrograms featureSet computeBudget sysvarCache blockhash lamportsPerSignature accountsDataLen
      units).logger ≠ none

/-- Neither extracting nor replenishing changes the runtime environments of a cache. -/
structure EnvironmentsKept (caches : ProgramCaches Programs Batch Environment Program WorkingSlot) : Prop where
  extracted : ∀ cache slot searched batch ignoreUsage,
    caches.environments (caches.extract cache slot searched batch ignoreUsage).1 = caches.environments cache
  replenished : ∀ cache key program, caches.environments (caches.replenish cache key program).1 = caches.environments cache

/-- What an executor keeps for all messages. -/
structure SameSetup (caches : ProgramCaches Programs Batch Environment Program WorkingSlot)
    (start executor : MessageExecutor Programs Sysvars Log) : Prop where
  featureSet : executor.featureSet = start.featureSet
  sysvarCache : executor.sysvarCache = start.sysvarCache
  programOwners : executor.programOwners = start.programOwners
  builtinPrograms : executor.builtinPrograms = start.builtinPrograms
  environments : caches.environments executor.loadedPrograms = caches.environments start.loadedPrograms

variable {loaders : ProgramLoaders Environment Program}
  {caches : ProgramCaches Programs Batch Environment Program WorkingSlot}
  {processor : TransactionProcessor Batch Sysvars Log Context Budget Rent Hash MessageError}

theorem insertAll_environments (kept : EnvironmentsKept caches) (programs : List (Pubkey × Program)) (cache : Programs) :
    caches.environments (insertAll caches programs cache) = caches.environments cache := by
  induction programs generalizing cache with
  | nil => rfl
  | cons program rest ih => exact (ih _).trans (kept.replenished _ _ _)

theorem requested_sameSetup (kept : EnvironmentsKept caches) (request : Request WorkingSlot)
    (executor : MessageExecutor Programs Sysvars Log) :
    SameSetup caches executor (requested loaders caches request executor) := by
  refine ⟨rfl, rfl, rfl, rfl, ?_⟩
  rcases request_cases request executor with unknown | ⟨_, searched, search, _⟩
  · rw [(perform_missing loaders caches executor unknown).2.1]
  · have ran := (perform_found loaders caches search).1
    rw [requested, ran, stateAfter_ok, insertAll_environments kept, kept.extracted]

theorem SameSetup.trans {first second third : MessageExecutor Programs Sysvars Log}
    (left : SameSetup caches first second) (right : SameSetup caches second third) : SameSetup caches first third where
  featureSet := right.featureSet.trans left.featureSet
  sysvarCache := right.sysvarCache.trans left.sysvarCache
  programOwners := right.programOwners.trans left.programOwners
  builtinPrograms := right.builtinPrograms.trans left.builtinPrograms
  environments := right.environments.trans left.environments

/-- The record of a processed message, or its error. -/
def conclude (processor : TransactionProcessor Batch Sysvars Log Context Budget Rent Hash MessageError)
    (message : SanitizedMessage) (outcome : MessageOutcome Context Log MessageError) :
    Except (ProcessError MessageError) ExecutionRecord :=
  match outcome.result with
  | .error error => .error (.message error)
  | .ok _ =>
      match processor.deconstructWithoutKeys outcome.context with
      | .error error => .error (.instruction error)
      | .ok datas => .ok { keys := message.accountKeys, datas, cu := outcome.units }

section Process

variable {executor : MessageExecutor Programs Sysvars Log} {slot : Slot} {message : SanitizedMessage}
  {loadedTransaction : LoadedTransaction} {loadedPrograms : Batch}

theorem process_run :
    process caches processor slot message loadedTransaction loadedPrograms executor =
      match conclude processor message (processMessage caches processor executor slot message loadedTransaction
          loadedPrograms) with
      | .ok record => .ok record { executor with logger := (processMessage caches processor executor slot message
          loadedTransaction loadedPrograms).logger }
      | .error error => .error error { executor with logger := (processMessage caches processor executor slot message
          loadedTransaction loadedPrograms).logger } := by
  unfold process conclude
  rw [bind_run_ok (get_run _), bind_run_ok (modify_run _ _)]
  cases (processMessage caches processor executor slot message loadedTransaction loadedPrograms).result with
  | error error => rfl
  | ok value =>
      dsimp only
      cases processor.deconstructWithoutKeys
          (processMessage caches processor executor slot message loadedTransaction loadedPrograms).context with
      | error error => rfl
      | ok datas => rfl

variable (slot message loadedTransaction loadedPrograms) in
/-- With the same setup only the collector can differ. -/
theorem concluded_sameSetup (contract : LogContract processor) {start : MessageExecutor Programs Sysvars Log}
    (same : SameSetup caches start executor) :
    conclude processor message
        (processMessage caches processor executor slot message loadedTransaction loadedPrograms) =
      conclude processor message
        (processMessage caches processor start slot message loadedTransaction loadedPrograms) := by
  unfold processMessage
  rw [same.featureSet, same.sysvarCache, same.environments]
  obtain ⟨result, context, units⟩ := contract.blind message loadedTransaction.programIndices
    (processor.newContext loadedTransaction.accounts none 10 u64Max) processor.rent executor.logger start.logger
    loadedPrograms (caches.newBatch slot (caches.environments start.loadedPrograms))
    (caches.newBatch slot (caches.environments start.loadedPrograms)) start.featureSet processor.computeBudget
    start.sysvarCache (processor.recentBlockhash message) 0 0 0
  simp only [conclude, result, context, units]

end Process

/-- The executor after an operation. -/
def Operation.apply (loaders : ProgramLoaders Environment Program)
    (caches : ProgramCaches Programs Batch Environment Program WorkingSlot)
    (processor : TransactionProcessor Batch Sysvars Log Context Budget Rent Hash MessageError) (newLog : Log) :
    Operation WorkingSlot Batch → MessageExecutor Programs Sysvars Log → MessageExecutor Programs Sysvars Log
  | .recordLog, executor => executor.recordLog newLog
  | .replenish request, executor => requested loaders caches request executor
  | .process slot message loadedTransaction loadedPrograms, executor =>
      stateAfter (MessageExecutor.process caches processor slot message loadedTransaction loadedPrograms executor)

/-- What an operation does to the collector of an executor that was set up as `start`. -/
def Operation.logged (caches : ProgramCaches Programs Batch Environment Program WorkingSlot)
    (processor : TransactionProcessor Batch Sysvars Log Context Budget Rent Hash MessageError) (newLog : Log)
    (start : MessageExecutor Programs Sysvars Log) (logger : Option Log) : Operation WorkingSlot Batch → Option Log
  | .recordLog => some newLog
  | .replenish _ => logger
  | .process slot message loadedTransaction loadedPrograms =>
      (processMessage caches processor { start with logger } slot message loadedTransaction loadedPrograms).logger

variable {newLog : Log}

theorem Operation.sameSetup (kept : EnvironmentsKept caches) (operation : Operation WorkingSlot Batch)
    (executor : MessageExecutor Programs Sysvars Log) :
    SameSetup caches executor (operation.apply loaders caches processor newLog executor) := by
  cases operation with
  | recordLog => exact ⟨rfl, rfl, rfl, rfl, rfl⟩
  | replenish request => exact requested_sameSetup kept request executor
  | process slot message loadedTransaction loadedPrograms =>
      simp only [apply, process_run]
      cases conclude processor message
          (processMessage caches processor executor slot message loadedTransaction loadedPrograms) with
      | ok record => exact ⟨rfl, rfl, rfl, rfl, rfl⟩
      | error error => exact ⟨rfl, rfl, rfl, rfl, rfl⟩

theorem Operation.logger {start executor : MessageExecutor Programs Sysvars Log}
    (same : SameSetup caches start executor) (operation : Operation WorkingSlot Batch) :
    (operation.apply loaders caches processor newLog executor).logger =
      operation.logged caches processor newLog start executor.logger := by
  cases operation with
  | recordLog => rfl
  | replenish request => rfl
  | process slot message loadedTransaction loadedPrograms =>
      have alike : processMessage caches processor { start with logger := executor.logger } slot message
          loadedTransaction loadedPrograms =
            processMessage caches processor executor slot message loadedTransaction loadedPrograms := by
        unfold processMessage
        rw [same.featureSet, same.sysvarCache, same.environments]
      simp only [apply, logged, process_run, alike]
      cases conclude processor message
          (processMessage caches processor executor slot message loadedTransaction loadedPrograms) with
      | ok record => rfl
      | error error => rfl

theorem Operation.logged_present (contract : LogContract processor) (start : MessageExecutor Programs Sysvars Log)
    {logger : Option Log} (present : logger ≠ none) (operation : Operation WorkingSlot Batch) :
    operation.logged caches processor newLog start logger ≠ none := by
  obtain ⟨log, rfl⟩ := Option.ne_none_iff_exists'.mp present
  cases operation with
  | recordLog => exact Option.some_ne_none _
  | replenish request => exact Option.some_ne_none _
  | process slot message loadedTransaction loadedPrograms =>
      exact contract.present _ _ _ _ _ _ _ _ _ _ _ _ _ _ _

variable (loaders processor newLog) in
theorem operations_history (kept : EnvironmentsKept caches) (history : List (Operation WorkingSlot Batch))
    {start executor : MessageExecutor Programs Sysvars Log} (same : SameSetup caches start executor) :
    SameSetup caches start (runHistory (Operation.apply loaders caches processor newLog) history executor) ∧
      (runHistory (Operation.apply loaders caches processor newLog) history executor).logger =
        history.foldl (fun logger operation => operation.logged caches processor newLog start logger)
          executor.logger := by
  induction history generalizing executor with
  | nil => exact ⟨same, rfl⟩
  | cons operation rest ih =>
      obtain ⟨reached, log⟩ := ih (same.trans (operation.sameSetup kept executor))
      refine ⟨reached, ?_⟩
      rw [runHistory_cons, log, operation.logger same, List.foldl_cons]

variable (caches newLog) in
theorem logged_history_present (contract : LogContract processor) (start : MessageExecutor Programs Sysvars Log)
    (history : List (Operation WorkingSlot Batch)) {logger : Option Log} (present : logger ≠ none) :
    history.foldl (fun logger operation => operation.logged caches processor newLog start logger) logger ≠ none := by
  induction history generalizing logger with
  | nil => exact present
  | cons operation rest ih => exact ih (operation.logged_present contract start present)

theorem new_logger {defaults : ExecutorDefaults Programs Environment Program Sysvars Log Entrypoint}
    {enabledFeatures : List Pubkey} {fresh : MessageExecutor Programs Sysvars Log}
    (created : MessageExecutor.new defaults caches enabledFeatures = .ok fresh) :
    fresh.logger = some defaults.newLog := by
  obtain ⟨start, bare, rfl⟩ := new_cases created
  exact (addBuiltins_logger _ _).trans bare.logger

variable (loaders) in
/-- Over any history of messages, requests and log resets of a created executor
its setup never changes, and a loaded message has the outcome it would have on
the fresh executor. The collector is always there to be read, and holds what the
operations since the last reset have written, each as on the fresh executor. -/
theorem messages_isolated (contract : LogContract processor) (kept : EnvironmentsKept caches)
    {defaults : ExecutorDefaults Programs Environment Program Sysvars Log Entrypoint} {enabledFeatures : List Pubkey}
    {fresh : MessageExecutor Programs Sysvars Log}
    (created : MessageExecutor.new defaults caches enabledFeatures = .ok fresh)
    (history : List (Operation WorkingSlot Batch)) :
    let executor := runHistory (Operation.apply loaders caches processor defaults.newLog) history fresh
    SameSetup caches fresh executor ∧
      (∀ slot message loadedTransaction loadedPrograms,
        resultOf (process caches processor slot message loadedTransaction loadedPrograms executor) =
          resultOf (process caches processor slot message loadedTransaction loadedPrograms fresh)) ∧
      ∃ log, executor.readLogger = .ok log ∧ history.foldl
        (fun logger operation => operation.logged caches processor defaults.newLog fresh logger)
          (some defaults.newLog) = some log := by
  intro executor
  have start : SameSetup caches fresh fresh := ⟨rfl, rfl, rfl, rfl, rfl⟩
  obtain ⟨same, log⟩ := operations_history loaders processor defaults.newLog kept history start
  rw [new_logger created] at log
  refine ⟨same, ?_, ?_⟩
  · intro slot message loadedTransaction loadedPrograms
    have alike := concluded_sameSetup slot message loadedTransaction loadedPrograms contract same
    rw [process_run, process_run, alike]
    cases conclude processor message
        (processMessage caches processor fresh slot message loadedTransaction loadedPrograms) with
    | ok record => rfl
    | error error => rfl
  · have present := logged_history_present caches defaults.newLog contract fresh history
      (Option.some_ne_none defaults.newLog)
    obtain ⟨final, folded⟩ := Option.ne_none_iff_exists'.mp present
    refine ⟨final, ?_, folded⟩
    rw [readLogger, log, folded]

end Isolation

/-- A processor that notes every message in the collector. -/
def notingProcessor : TransactionProcessor (List (Pubkey × DeployedProgram)) Unit (List String)
    (List TransactionAccount) Unit Unit Unit Unit where
  computeBudget := ()
  rent := ()
  recentBlockhash _ := ()
  newContext accounts _ _ _ := accounts
  processMessage _ _ context _ logger _ _ _ _ _ _ _ _ _ units :=
    ⟨.ok (), context, logger.map (· ++ ["processed"]), units + 10⟩
  deconstructWithoutKeys context := .ok (context.map Prod.snd)
  accounts context := context

theorem notingProcessor_logs : LogContract notingProcessor where
  blind := by
    intros
    exact ⟨rfl, rfl, rfl⟩
  present := by
    intros
    exact Option.some_ne_none _

theorem listCaches_environments : EnvironmentsKept listCaches where
  extracted _ _ _ _ _ := rfl
  replenished _ _ _ := rfl

/-- A message, a reset, a request and the message again. -/
def repeatedMessage : List (Operation WorkingSlot (List (Pubkey × DeployedProgram))) :=
  [.process 7 loaderMessage ⟨[], [], 0, []⟩ [], .recordLog, .replenish (loaderRequest 7 [1]),
    .process 9 loaderMessage ⟨[], [], 0, []⟩ []]

theorem messages_isolated_repeated :
    let executor := runHistory (Operation.apply listLoaders listCaches notingProcessor []) repeatedMessage
      listExecutor.val
    executor.readLogger = .ok ["processed"] ∧
      resultOf (process listCaches notingProcessor 7 loaderMessage ⟨[], [], 0, []⟩ [] executor) =
        resultOf (process listCaches notingProcessor 7 loaderMessage ⟨[], [], 0, []⟩ [] listExecutor.val) := by
  obtain ⟨_, alike, log, read, folded⟩ :=
    messages_isolated listLoaders notingProcessor_logs listCaches_environments listExecutor.property repeatedMessage
  refine ⟨read.trans ?_, alike 7 loaderMessage _ []⟩
  rw [← Option.some.inj folded]
  rfl

end BpfSimulator.MessageExecutor
