import BpfSimulator.MessageExecutor.Executor
import BpfSimulator.MessageExecutor.ProgramLoaderProperties
import BpfSimulator.MessageExecutor.TransactionLoaderProperties

/-! The record of a processed message. Its keys are those of the message, its
accounts all that were loaded, so the two are parallel exactly when loading
appended no owner. -/

set_option autoImplicit false

namespace BpfSimulator

open Foundation

namespace AccountLoader

variable {Programs : Type} {constructInstructionsData : InstructionsData} {loader : AccountLoader Programs}
  {message : SanitizedMessage} {base accounts : List TransactionAccount}

/-- The program is the native loader or belongs to it. -/
def Native (account : TransactionAccount) : Prop := account.1 = nativeLoaderId ∨ NativelyOwned account

theorem findOwner_grows {start : Nat} {ownerId : Pubkey} {found : List TransactionAccount × Nat}
    (success : loader.findOwner start accounts ownerId = .ok found) : accounts <+: found.1 := by
  unfold findOwner at success
  split at success
  · cases success
  · cases searched : (accounts.drop start).findIdx? (fun account => account.1 = ownerId) with
    | some index =>
        rw [searched] at success
        cases success
        exact List.prefix_refl _
    | none =>
        cases known : loader.g ownerId with
        | none =>
            simp [searched, getAccountWithFixedRoot, known, bind, Except.bind, throw, throwThe,
              MonadExceptOf.throw] at success
        | some owner =>
            simp [searched, getAccountWithFixedRoot, known, bind, Except.bind, pure, Except.pure] at success
            cases success
            exact List.prefix_append _ _

/-- A round that succeeds stops at a native program, without a change of the
accounts, or goes on with the owner. -/
theorem resolveProgram_succ_ok {start rounds index : Nat} {accountIndices : List UInt16}
    {result : List TransactionAccount × List UInt16}
    (success : loader.resolveProgram start (rounds + 1) accounts accountIndices index = .ok result) :
    ∃ account, accounts[index]? = some account ∧
      (Native account ∧ result.1 = accounts ∨
        ¬ Native account ∧ ∃ found, loader.findOwner start accounts account.2.owner = .ok found ∧
          loader.resolveProgram start rounds found.1 (UInt16.ofNat index :: accountIndices) found.2 = .ok result) := by
  cases place : accounts[index]? with
  | none =>
      simp only [resolveProgram, place] at success
      cases success
  | some account =>
      refine ⟨account, rfl, ?_⟩
      by_cases native : account.1 = nativeLoaderId
      · rw [resolveProgram_native place native] at success
        cases success
        exact .inl ⟨.inl native, rfl⟩
      by_cases owned : NativelyOwned account
      · rw [resolveProgram_last place native owned] at success
        cases success
        exact .inl ⟨.inr owned, rfl⟩
      rw [resolveProgram_next place native owned] at success
      exact .inr ⟨not_or_intro native owned, except_bind_ok_iff.mp success⟩

theorem resolveProgram_grows {start rounds index : Nat} {accountIndices : List UInt16}
    {result : List TransactionAccount × List UInt16}
    (success : loader.resolveProgram start rounds accounts accountIndices index = .ok result) :
    accounts <+: result.1 := by
  induction rounds generalizing accounts accountIndices index with
  | zero => cases success
  | succ rounds ih =>
      obtain ⟨account, _, round⟩ := resolveProgram_succ_ok success
      cases round with
      | inl stopped => rw [stopped.2]
      | inr onward =>
          obtain ⟨_, found, search, later⟩ := onward
          exact (findOwner_grows search).trans (ih later)

theorem resolvePrograms_grows {start : Nat} {instructions : List CompiledInstruction}
    {programIndices : List (List UInt16)} {result : List TransactionAccount × List (List UInt16)}
    (success : loader.resolvePrograms start instructions accounts programIndices = .ok result) :
    accounts <+: result.1 := by
  induction instructions generalizing accounts programIndices with
  | nil =>
      cases success
      exact List.prefix_refl _
  | cons instruction rest ih =>
      obtain ⟨_, ran, later⟩ := resolvePrograms_cons_ok_iff.mp success
      exact (resolveProgram_grows ran).trans (ih later)

/-- Behind the message's accounts nothing is found, so an owner that is needed
is appended. -/
theorem findOwner_appends {ownerId : Pubkey} {found : List TransactionAccount × Nat}
    (success : loader.findOwner base.length base ownerId = .ok found) : base.length < found.1.length := by
  unfold findOwner at success
  rw [if_neg (Nat.lt_irrefl _), List.drop_length] at success
  cases known : loader.g ownerId with
  | none =>
      simp [getAccountWithFixedRoot, known, bind, Except.bind, throw, throwThe, MonadExceptOf.throw] at success
  | some owner =>
      simp [getAccountWithFixedRoot, known, bind, Except.bind, pure, Except.pure] at success
      cases success
      simp

theorem resolveProgram_same_iff {rounds index : Nat} {accountIndices : List UInt16}
    {result : List TransactionAccount × List UInt16}
    (success : loader.resolveProgram base.length rounds base accountIndices index = .ok result) :
    result.1 = base ↔ ∃ account, base[index]? = some account ∧ Native account := by
  cases rounds with
  | zero => cases success
  | succ rounds =>
      obtain ⟨account, place, round⟩ := resolveProgram_succ_ok success
      simp only [place, Option.some.injEq, exists_eq_left']
      cases round with
      | inl stopped => exact iff_of_true stopped.2 stopped.1
      | inr onward =>
          obtain ⟨foreign, found, search, later⟩ := onward
          refine iff_of_false ?_ foreign
          have appended := findOwner_appends search
          have kept := (resolveProgram_grows later).length_le
          intro same
          rw [same] at kept
          omega

theorem resolvePrograms_same_iff {instructions : List CompiledInstruction} {programIndices : List (List UInt16)}
    {result : List TransactionAccount × List (List UInt16)}
    (success : loader.resolvePrograms base.length instructions base programIndices = .ok result) :
    result.1 = base ↔ ∀ instruction ∈ instructions,
      ∃ account, base[instruction.programIdIndex.toNat]? = some account ∧ Native account := by
  induction instructions generalizing programIndices with
  | nil =>
      cases success
      simp
  | cons instruction rest ih =>
      obtain ⟨⟨accounts, indices⟩, ran, later⟩ := resolvePrograms_cons_ok_iff.mp success
      have first := resolveProgram_same_iff ran
      rw [List.forall_mem_cons, ← first]
      by_cases same : accounts = base
      · subst same
        rw [ih later]
        exact ⟨fun all => ⟨rfl, all⟩, And.right⟩
      · refine iff_of_false (fun kept => same ?_) fun both => same both.1
        -- What one instruction appends is never taken back by a later one.
        have whole := resolvePrograms_grows later
        rw [kept] at whole
        exact ((resolveProgram_grows ran).eq_of_length_le whole.length_le).symm

/-- The program of an instruction is an account of the message, and the native
loader or owned by it. -/
def NativeProgram (constructInstructionsData : InstructionsData) (loader : AccountLoader Programs)
    (message : SanitizedMessage) (instruction : CompiledInstruction) : Prop :=
  ∃ key account, message.accountKeys[instruction.programIdIndex.toNat]? = some key ∧
    messageAccount constructInstructionsData loader message key = some account ∧ Native (key, account)

theorem nativeProgram_iff (loaded : MessageAccounts constructInstructionsData loader message base)
    {instruction : CompiledInstruction} : NativeProgram constructInstructionsData loader message instruction ↔
      ∃ account, base[instruction.programIdIndex.toNat]? = some account ∧ Native account := by
  constructor
  · intro found
    obtain ⟨key, account, named, known, native⟩ := found
    obtain ⟨found, place, foundKnown⟩ := loaded.place named
    obtain rfl : found = account := Option.some.inj (foundKnown.symm.trans known)
    exact ⟨_, place, native⟩
  · intro found
    obtain ⟨⟨key, account⟩, place, native⟩ := found
    refine ⟨key, account, ?_, loaded.accounts _ (List.mem_of_getElem? place), native⟩
    rw [← loaded.keys, List.getElem?_map, place]
    rfl

/-- A successful load returns the message's accounts first, and no other ones
exactly when every program is native. -/
theorem loaded_accounts {result : LoadedTransaction}
    (success : loader.loadTransactionAccounts constructInstructionsData message = .ok result) :
    ∃ base, MessageAccounts constructInstructionsData loader message base ∧ base <+: result.accounts ∧
      (result.accounts = base ↔ ∀ instruction ∈ message.instructions,
        NativeProgram constructInstructionsData loader message instruction) := by
  obtain ⟨base, loaded, found, ran, rfl⟩ := loadTransactionAccounts_ok_iff.mp success
  refine ⟨base, loaded, resolvePrograms_grows ran, ?_⟩
  simp only [nativeProgram_iff loaded]
  exact resolvePrograms_same_iff ran

end AccountLoader

namespace MessageExecutor

open AccountLoader (keyCaches)

variable {Programs Batch Environment Program WorkingSlot Sysvars Log Context Budget Rent Hash MessageError : Type}

/-- A transaction context holds one account for each one it was given, under
the same keys, whatever is processed on it; deconstructing it returns these
accounts in that order. -/
structure ContextContract
    (processor : TransactionProcessor Batch Sysvars Log Context Budget Rent Hash MessageError) : Prop where
  created : ∀ accounts rent instructionStackCapacity instructionTraceCapacity,
    (processor.accounts (processor.newContext accounts rent instructionStackCapacity
      instructionTraceCapacity)).map Prod.fst = accounts.map Prod.fst
  processed : ∀ message programIndices context rent logger loadedPrograms modifiedPrograms updatedPrograms
    featureSet computeBudget sysvarCache blockhash lamportsPerSignature currentAccountsDataLen units,
    (processor.accounts (processor.processMessage message programIndices context rent logger loadedPrograms
      modifiedPrograms updatedPrograms featureSet computeBudget sysvarCache blockhash lamportsPerSignature
      currentAccountsDataLen units).context).map Prod.fst = (processor.accounts context).map Prod.fst
  deconstructed : ∀ context datas, processor.deconstructWithoutKeys context = .ok datas →
    datas = (processor.accounts context).map Prod.snd

/-- The accounts of a record are the final ones of its keys, position by position. -/
structure Parallel (record : ExecutionRecord) (final : List TransactionAccount) : Prop where
  sameLength : record.keys.length = record.datas.length
  final : ∀ (index : Nat) (key : Pubkey) (account : Account), record.keys[index]? = some key →
    record.datas[index]? = some account → final[index]? = some (key, account)

variable {caches : ProgramCaches Programs Batch Environment Program WorkingSlot}
  {processor : TransactionProcessor Batch Sysvars Log Context Budget Rent Hash MessageError}
  {executor after : MessageExecutor Programs Sysvars Log} {slot : Slot} {message : SanitizedMessage}
  {loadedTransaction : LoadedTransaction} {loadedPrograms : Batch} {record : ExecutionRecord}

theorem process_ok
    (success : process caches processor slot message loadedTransaction loadedPrograms executor = .ok record after) :
    record.keys = message.accountKeys ∧ processor.deconstructWithoutKeys
      (processMessage caches processor executor slot message loadedTransaction loadedPrograms).context =
        .ok record.datas := by
  obtain ⟨_, middle, got, success⟩ := bind_ok success
  cases got
  obtain ⟨_, middle, modified, success⟩ := bind_ok success
  cases modified
  cases ran : (processMessage caches processor executor slot message loadedTransaction loadedPrograms).result with
  | error error =>
      rw [ran] at success
      cases success
  | ok _ =>
      rw [ran] at success
      obtain ⟨datas, final, inspected, returned⟩ := bind_ok success
      cases deconstructed : processor.deconstructWithoutKeys
          (processMessage caches processor executor slot message loadedTransaction loadedPrograms).context with
      | error error =>
          rw [deconstructed] at inspected
          cases inspected
      | ok accounts =>
          rw [deconstructed] at inspected
          cases inspected
          cases returned
          exact ⟨rfl, rfl⟩

theorem processMessage_keys (caches : ProgramCaches Programs Batch Environment Program WorkingSlot)
    (contract : ContextContract processor) (executor : MessageExecutor Programs Sysvars Log) (slot : Slot)
    (message : SanitizedMessage) (loadedTransaction : LoadedTransaction) (loadedPrograms : Batch) :
    (processor.accounts (processMessage caches processor executor slot message loadedTransaction
      loadedPrograms).context).map Prod.fst = loadedTransaction.accounts.map Prod.fst := by
  unfold processMessage
  rw [contract.processed, contract.created]

/-- The keys and accounts of a record are parallel exactly when every program
of the message is native. -/
theorem record_parallel_iff (contract : ContextContract processor) {constructInstructionsData : InstructionsData}
    {loader : AccountLoader Programs}
    (loaded : loader.loadTransactionAccounts constructInstructionsData message = .ok loadedTransaction)
    (processed : process caches processor slot message loadedTransaction loadedPrograms executor =
      .ok record after) :
    Parallel record (processor.accounts
        (processMessage caches processor executor slot message loadedTransaction loadedPrograms).context) ↔
      ∀ instruction ∈ message.instructions,
        AccountLoader.NativeProgram constructInstructionsData loader message instruction := by
  obtain ⟨keys, deconstructed⟩ := process_ok processed
  obtain ⟨base, messageAccounts, grew, exactly⟩ := AccountLoader.loaded_accounts loaded
  have datas := contract.deconstructed _ _ deconstructed
  have names := processMessage_keys caches contract executor slot message loadedTransaction loadedPrograms
  generalize processor.accounts (processMessage caches processor executor slot message loadedTransaction
    loadedPrograms).context = final at datas names ⊢
  have count : record.datas.length = loadedTransaction.accounts.length := by
    have named : (final.map Prod.fst).length = final.length := List.length_map Prod.fst
    rw [datas, List.length_map, ← named, names, List.length_map]
  have keyCount : record.keys.length = base.length := by rw [keys, messageAccounts.length_eq]
  rw [← exactly]
  constructor
  · intro parallel
    have same := parallel.sameLength
    exact (grew.eq_of_length_le (by omega)).symm
  · intro same
    refine ⟨by rw [keyCount, count, same], ?_⟩
    intro index key account named stored
    have nameHere : (final.map Prod.fst)[index]? = some key := by
      rw [names, same, messageAccounts.keys, ← keys]
      exact named
    rw [datas] at stored
    rw [List.getElem?_map, Option.map_eq_some_iff] at nameHere stored
    obtain ⟨entry, place, rfl⟩ := nameHere
    obtain ⟨other, samePlace, rfl⟩ := stored
    cases place.symm.trans samePlace
    exact place

/-- A processor whose programs change nothing and consume ten units. -/
def idleProcessor :
    TransactionProcessor (List Pubkey) Unit (List String) (List TransactionAccount) Unit Unit Unit Unit where
  computeBudget := ()
  rent := ()
  recentBlockhash _ := ()
  newContext accounts _ _ _ := accounts
  processMessage _ _ context _ logger _ _ _ _ _ _ _ _ _ units := ⟨.ok (), context, logger, units + 10⟩
  deconstructWithoutKeys context := .ok (context.map Prod.snd)
  accounts context := context

theorem idleProcessor_contract : ContextContract idleProcessor where
  created _ _ _ _ := rfl
  processed _ _ _ _ _ _ _ _ _ _ _ _ _ _ _ := rfl
  deconstructed _ _ deconstructed := (Except.ok.inj deconstructed).symm

def idleExecutor : MessageExecutor (List Pubkey) Unit (List String) where
  featureSet := ⟨[]⟩
  sysvarCache := ()
  logger := none
  programOwners := .single (.filled 2)
  builtinPrograms := ⟨[], List.nodup_nil⟩
  loadedPrograms := []

def loaderMessage : SanitizedMessage where
  accountKeys := [.filled 1, .filled 2]
  instructions := [⟨1, [0], []⟩]

theorem record_parallel_iff_loader :
    ∃ loaded, AccountLoader.programLoader.loadTransactionAccounts AccountLoader.plainInstructionsData
        loaderMessage = .ok loaded ∧
      ∃ record, process keyCaches idleProcessor 7 loaderMessage loaded [] idleExecutor =
          .ok record idleExecutor ∧ Parallel record (idleProcessor.accounts
            (processMessage keyCaches idleProcessor idleExecutor 7 loaderMessage loaded []).context) := by
  have loaded : AccountLoader.programLoader.loadTransactionAccounts AccountLoader.plainInstructionsData
    loaderMessage = .ok _ := rfl
  refine ⟨_, loaded, _, rfl, (record_parallel_iff idleProcessor_contract loaded rfl).mpr ?_⟩
  intro instruction member
  obtain rfl := List.mem_singleton.mp member
  exact ⟨.filled 2, _, rfl, rfl, .inr rfl⟩

/-- The owner of the program is loaded behind the only key of the message. -/
theorem record_not_parallel :
    ∃ loaded, AccountLoader.programLoader.loadTransactionAccounts AccountLoader.plainInstructionsData
        AccountLoader.programMessage = .ok loaded ∧
      ∃ record, process keyCaches idleProcessor 7 AccountLoader.programMessage loaded [] idleExecutor =
          .ok record idleExecutor ∧ record.keys.length = 1 ∧ record.datas.length = 2 ∧
        ¬ Parallel record (idleProcessor.accounts (processMessage keyCaches idleProcessor idleExecutor 7
          AccountLoader.programMessage loaded []).context) :=
  ⟨_, rfl, _, rfl, rfl, rfl, fun parallel => absurd parallel.sameLength (by decide)⟩

end MessageExecutor

end BpfSimulator
