import BpfSimulator.Foundation.Fallible
import BpfSimulator.MessageExecutor.OwnerChains

/-! Transaction loading resolves owner chains exactly. The loaded accounts are
those of the message followed by owners, and each instruction gets the places
of its program's chain. -/

set_option autoImplicit false

namespace BpfSimulator.AccountLoader

open Foundation

variable {Programs : Type} {constructInstructionsData : InstructionsData} {loader : AccountLoader Programs}
  {message : SanitizedMessage} {base appended : List TransactionAccount}

/-- The account that a key of a message stands for. -/
def messageAccount (constructInstructionsData : InstructionsData) (loader : AccountLoader Programs)
    (message : SanitizedMessage) (key : Pubkey) : Option Account :=
  if key = instructionsSysvarId then constructInstructionsAccount constructInstructionsData message
  else loader.g key

/-- The chain of an instruction's program. It is empty for the native loader. -/
inductive ProgramChain (constructInstructionsData : InstructionsData) (loader : AccountLoader Programs)
    (message : SanitizedMessage) (instruction : CompiledInstruction) : List TransactionAccount → Prop where
  | native (program : message.accountKeys[instruction.programIdIndex.toNat]? = some nativeLoaderId) :
      ProgramChain constructInstructionsData loader message instruction []
  | owned {programId : Pubkey} {account : Account} {chain : List TransactionAccount}
      (program : message.accountKeys[instruction.programIdIndex.toNat]? = some programId)
      (ordinary : programId ≠ nativeLoaderId)
      (loaded : messageAccount constructInstructionsData loader message programId = some account)
      (owners : OwnerChain loader (programId, account) chain) (short : chain.length ≤ 5) :
      ProgramChain constructInstructionsData loader message instruction chain

section Instructions

structure MessageAccounts (constructInstructionsData : InstructionsData) (loader : AccountLoader Programs)
    (message : SanitizedMessage) (base : List TransactionAccount) : Prop where
  keys : base.map Prod.fst = message.accountKeys
  accounts : ∀ account ∈ base, messageAccount constructInstructionsData loader message account.1 = some account.2

/-- The indices of an instruction name its chain, the outermost owner first and
the program itself last; owners are looked for behind the message's accounts. -/
structure Resolved (constructInstructionsData : InstructionsData) (loader : AccountLoader Programs)
    (message : SanitizedMessage) (accounts : List TransactionAccount) (instruction : CompiledInstruction)
    (indices : List UInt16) (chain : List TransactionAccount) : Prop where
  followed : ProgramChain constructInstructionsData loader message instruction chain
  places : indices.map (fun index => accounts[index.toNat]?) = chain.reverse.map some
  program : chain ≠ [] → indices.getLast?.map UInt16.toNat = some instruction.programIdIndex.toNat
  owners : ∀ index ∈ indices.dropLast, message.accountKeys.length ≤ index.toNat

variable {instruction : CompiledInstruction} {chain : List TransactionAccount}

theorem MessageAccounts.place (loaded : MessageAccounts constructInstructionsData loader message base) {index : Nat}
    {key : Pubkey} (named : message.accountKeys[index]? = some key) : ∃ account,
      base[index]? = some (key, account) ∧ messageAccount constructInstructionsData loader message key = some account := by
  rw [← loaded.keys, List.getElem?_map, Option.map_eq_some_iff] at named
  obtain ⟨account, place, rfl⟩ := named
  exact ⟨account.2, place, loaded.accounts account (List.mem_of_getElem? place)⟩

theorem MessageAccounts.length_eq (loaded : MessageAccounts constructInstructionsData loader message base) :
    base.length = message.accountKeys.length := by
  rw [← loaded.keys, List.length_map]

/-- The places of an instruction's chain, before they are cast to `u16`. -/
structure Located (constructInstructionsData : InstructionsData) (loader : AccountLoader Programs)
    (message : SanitizedMessage) (accounts : List TransactionAccount) (instruction : CompiledInstruction)
    (places : List Nat) (chain : List TransactionAccount) : Prop where
  followed : ProgramChain constructInstructionsData loader message instruction chain
  named : places.map (fun place => accounts[place]?) = chain.reverse.map some
  program : chain ≠ [] → places.getLast? = some instruction.programIdIndex.toNat
  owners : ∀ place ∈ places.dropLast, message.accountKeys.length ≤ place

theorem Located.inside {accounts : List TransactionAccount} {places : List Nat}
    (located : Located constructInstructionsData loader message accounts instruction places chain) {place : Nat}
    (member : place ∈ places) : ∃ account, accounts[place]? = some account := by
  have named : accounts[place]? ∈ chain.reverse.map some := by
    rw [← located.named]
    exact List.mem_map_of_mem member
  obtain ⟨account, _, same⟩ := List.mem_map.mp named
  exact ⟨account, same.symm⟩

theorem Located.grow {more : List TransactionAccount} {places : List Nat} (grew : appended <+: more)
    (located : Located constructInstructionsData loader message (base ++ appended) instruction places chain) :
    Located constructInstructionsData loader message (base ++ more) instruction places chain where
  followed := located.followed
  named := by
    rw [← located.named]
    apply List.map_congr_left
    intro place member
    obtain ⟨account, found⟩ := located.inside member
    rw [getElem?_of_grown grew found, found]
  program := located.program
  owners := located.owners

/-- Among no more than 65536 accounts the cast to `u16` loses nothing. -/
theorem Located.resolved {accounts : List TransactionAccount} {places : List Nat} (few : accounts.length ≤ 2 ^ 16)
    (located : Located constructInstructionsData loader message accounts instruction places chain) :
    Resolved constructInstructionsData loader message accounts instruction (places.map UInt16.ofNat) chain := by
  have exact' : ∀ place ∈ places, (UInt16.ofNat place).toNat = place := by
    intro place member
    obtain ⟨account, found⟩ := located.inside member
    have bound := (List.getElem?_eq_some_iff.mp found).1
    rw [UInt16.toNat_ofNat']
    exact Nat.mod_eq_of_lt (by omega)
  refine ⟨located.followed, ?_, ?_, ?_⟩
  · rw [← located.named, List.map_map]
    apply List.map_congr_left
    intro place member
    simp only [Function.comp_apply, exact' place member]
  · intro nonempty
    have last := located.program nonempty
    rw [List.getLast?_map, last, Option.map_some, Option.map_some, exact' _ (List.mem_of_getLast? last)]
  · intro index member
    rw [← List.map_dropLast] at member
    obtain ⟨place, inside, rfl⟩ := List.mem_map.mp member
    rw [exact' place (List.dropLast_subset _ inside)]
    exact located.owners place inside

private theorem near_of_mem {account : TransactionAccount} (member : account ∈ base) :
    ∀ owner ∈ followers (nextOwner loader) 5 account, owner ∈ base.flatMap (followers (nextOwner loader) 5) :=
  fun _ inside => List.mem_flatMap.mpr ⟨account, member, inside⟩

theorem resolveInstruction_ok (loaded : MessageAccounts constructInstructionsData loader message base)
    (grown : Grown loader base appended)
    (followed : ProgramChain constructInstructionsData loader message instruction chain) :
    ∃ appended' places, loader.resolveProgram base.length 5 (base ++ appended) []
        instruction.programIdIndex.toNat = .ok (base ++ appended', places.map UInt16.ofNat) ∧
      appended <+: appended' ∧ Grown loader base appended' ∧
      (∀ added ∈ appended', added ∈ appended ∨ added ∈ chain.tail) ∧
      Located constructInstructionsData loader message (base ++ appended') instruction places chain := by
  cases followed with
  | native program =>
      obtain ⟨account, place, _⟩ := loaded.place program
      exact ⟨appended, [], resolveProgram_native (getElem?_of_base place appended) rfl, List.prefix_refl _, grown,
        fun _ inside => .inl inside,
        .native program, rfl, fun nonempty => absurd rfl nonempty, fun _ member => absurd member List.not_mem_nil⟩
  | @owned programId account chain program ordinary known owners short =>
      obtain ⟨found, place, foundKnown⟩ := loaded.place program
      obtain rfl : found = account := Option.some.inj (foundKnown.symm.trans known)
      have member := List.mem_of_getElem? place
      obtain ⟨final, places, ran, grew, grownFinal, added, behind, named⟩ := @resolveProgram_ok _ _ _ _ _ _ _ [] _
        owners short grown (getElem?_of_base place appended) ordinary (near_of_mem member)
      refine ⟨final, (instruction.programIdIndex.toNat :: places).reverse, ?_, grew, grownFinal, added,
        .owned program ordinary known owners short, ?_, ?_, ?_⟩
      · rw [ran, List.map_reverse, List.append_nil]
      · rw [List.map_reverse, List.map_reverse, ← named]
      · intro _
        simp
      · intro place inside
        rw [List.reverse_cons, List.dropLast_concat, List.mem_reverse] at inside
        exact loaded.length_eq ▸ behind place inside

theorem resolveInstruction_error (loaded : MessageAccounts constructInstructionsData loader message base)
    (inRange : instruction.programIdIndex.toNat < message.accountKeys.length) (grown : Grown loader base appended)
    (unresolved : ¬ ∃ chain, ProgramChain constructInstructionsData loader message instruction chain) :
    ∃ error, loader.resolveProgram base.length 5 (base ++ appended) [] instruction.programIdIndex.toNat =
      .error error := by
  have program := List.getElem?_eq_getElem inRange
  obtain ⟨account, place, known⟩ := loaded.place program
  have member := List.mem_of_getElem? place
  by_cases native : message.accountKeys[instruction.programIdIndex.toNat] = nativeLoaderId
  · rw [native] at program
    exact absurd ⟨[], .native program⟩ unresolved
  · refine resolveProgram_error grown (getElem?_of_base place appended) native (near_of_mem member) ?_
    intro resolvable
    obtain ⟨chain, owners, short⟩ := resolvable
    exact unresolved ⟨chain, .owned program native known owners short⟩

theorem resolvePrograms_cons_ok_iff {start : Nat} {instruction : CompiledInstruction} {rest : List CompiledInstruction}
    {accounts : List TransactionAccount} {programIndices : List (List UInt16)}
    {result : List TransactionAccount × List (List UInt16)} :
    loader.resolvePrograms start (instruction :: rest) accounts programIndices = .ok result ↔
      ∃ found, loader.resolveProgram start 5 accounts [] instruction.programIdIndex.toNat = .ok found ∧
        loader.resolvePrograms start rest found.1 (programIndices ++ [found.2]) = .ok result := by
  rw [resolvePrograms]
  exact except_bind_ok_iff

theorem resolvePrograms_ok (loaded : MessageAccounts constructInstructionsData loader message base)
    {instructions : List CompiledInstruction}
    (chains : ∀ instruction ∈ instructions,
      ∃ chain, ProgramChain constructInstructionsData loader message instruction chain)
    (grown : Grown loader base appended) (programIndices : List (List UInt16)) :
    ∃ appended' entries, loader.resolvePrograms base.length instructions (base ++ appended) programIndices =
        .ok (base ++ appended', programIndices ++ entries.map (List.map UInt16.ofNat)) ∧
      appended <+: appended' ∧ Grown loader base appended' ∧
      List.Forall₂ (fun instruction places => ∃ chain,
        Located constructInstructionsData loader message (base ++ appended') instruction places chain)
        instructions entries := by
  induction instructions generalizing appended programIndices with
  | nil =>
      refine ⟨appended, [], ?_, List.prefix_refl _, grown, .nil⟩
      rw [List.map_nil, List.append_nil]
      rfl
  | cons instruction rest ih =>
      obtain ⟨chain, followed⟩ := chains instruction (.head _)
      obtain ⟨middle, places, ran, grew, grownMiddle, _, located⟩ := resolveInstruction_ok loaded grown followed
      obtain ⟨final, entries, ranOn, grewOn, grownFinal, all⟩ :=
        ih (fun later member => chains later (.tail _ member)) grownMiddle
          (programIndices ++ [places.map UInt16.ofNat])
      refine ⟨final, places :: entries, ?_, grew.trans grewOn, grownFinal,
        .cons ⟨chain, located.grow grewOn⟩ all⟩
      refine resolvePrograms_cons_ok_iff.mpr ⟨_, ran, ranOn.trans ?_⟩
      rw [List.append_assoc, List.singleton_append, List.map_cons]

theorem resolvePrograms_error (loaded : MessageAccounts constructInstructionsData loader message base)
    {instructions : List CompiledInstruction}
    (inRange : ∀ instruction ∈ instructions, instruction.programIdIndex.toNat < message.accountKeys.length)
    (unresolved : ¬ ∀ instruction ∈ instructions,
      ∃ chain, ProgramChain constructInstructionsData loader message instruction chain)
    (grown : Grown loader base appended) (programIndices : List (List UInt16)) :
    ∃ error, loader.resolvePrograms base.length instructions (base ++ appended) programIndices =
      .error error := by
  induction instructions generalizing appended programIndices with
  | nil => exact absurd (fun _ member => absurd member List.not_mem_nil) unresolved
  | cons instruction rest ih =>
      unfold resolvePrograms
      by_cases resolvable : ∃ chain, ProgramChain constructInstructionsData loader message instruction chain
      · obtain ⟨chain, followed⟩ := resolvable
        obtain ⟨middle, places, ran, _, grownMiddle, _⟩ := resolveInstruction_ok loaded grown followed
        rw [ran]
        refine ih (fun later member => inRange later (.tail _ member)) (fun all => unresolved ?_) grownMiddle _
        intro later member
        rcases List.mem_cons.mp member with rfl | member
        · exact ⟨chain, followed⟩
        · exact all later member
      · obtain ⟨error, ran⟩ := resolveInstruction_error loaded (inRange instruction (.head _)) grown resolvable
        rw [ran]
        exact ⟨error, rfl⟩

theorem chains_of_resolved (loaded : MessageAccounts constructInstructionsData loader message base)
    {instructions : List CompiledInstruction}
    (inRange : ∀ instruction ∈ instructions, instruction.programIdIndex.toNat < message.accountKeys.length)
    {found : List TransactionAccount × List (List UInt16)}
    (ran : loader.resolvePrograms base.length instructions base [] = .ok found) :
    ∀ instruction ∈ instructions, ∃ chain, ProgramChain constructInstructionsData loader message instruction chain := by
  by_contra unresolved
  obtain ⟨error, failed⟩ := resolvePrograms_error loaded inRange unresolved (Grown.start loader base) []
  rw [List.append_nil, ran] at failed
  cases failed

end Instructions

section Message

theorem loadMessageAccount_ok_iff {key : Pubkey} {account : TransactionAccount} :
    loader.loadMessageAccount constructInstructionsData message key = .ok account ↔
      account.1 = key ∧ messageAccount constructInstructionsData loader message key = some account.2 := by
  obtain ⟨name, content⟩ := account
  simp only [loadMessageAccount, messageAccount]
  by_cases special : key = instructionsSysvarId
  · rw [if_pos special, if_pos special]
    cases constructInstructionsAccount constructInstructionsData message with
    | none => simp [throw, throwThe, MonadExceptOf.throw]
    | some data => simp [pure, Except.pure, eq_comm]
  · rw [if_neg special, if_neg special]
    simp only [getAccountWithFixedRoot]
    cases loader.g key with
    | none => simp [bind, Except.bind, throw, throwThe, MonadExceptOf.throw]
    | some data => simp [bind, Except.bind, pure, Except.pure, eq_comm]

theorem loadMessageAccounts_ok_iff :
    message.accountKeys.mapM (loader.loadMessageAccount constructInstructionsData message) = .ok base ↔
      MessageAccounts constructInstructionsData loader message base := by
  rw [mapM_ok_iff]
  simp only [loadMessageAccount_ok_iff]
  constructor
  · intro loaded
    have keys : List.Forall₂ (fun key account => account.1 = key) message.accountKeys base :=
      loaded.imp fun _ _ both => both.1
    refine ⟨?_, fun account member => ?_⟩
    · rw [← List.forall₂_eq_eq_eq, List.forall₂_map_left_iff]
      exact keys.flip
    · obtain ⟨index, bound, rfl⟩ := List.getElem_of_mem member
      have both := loaded.get (loaded.length_eq ▸ bound) bound
      simp only [List.get_eq_getElem] at both
      rw [both.1]
      exact both.2
  · intro loaded
    rw [← loaded.keys, List.forall₂_map_left_iff, List.forall₂_same]
    exact fun account member => ⟨rfl, loaded.accounts account member⟩

theorem MessageAccounts.found (loaded : MessageAccounts constructInstructionsData loader message base) {key : Pubkey}
    (member : key ∈ message.accountKeys) (ordinary : key ≠ instructionsSysvarId) : loader.g key ≠ none := by
  intro missing
  rw [← loaded.keys] at member
  obtain ⟨account, inside, rfl⟩ := List.mem_map.mp member
  have known := loaded.accounts account inside
  rw [messageAccount, if_neg ordinary, missing] at known
  cases known

theorem exists_messageAccounts_iff : (∃ base, MessageAccounts constructInstructionsData loader message base) ↔
    ∀ key ∈ message.accountKeys, messageAccount constructInstructionsData loader message key ≠ none := by
  constructor
  · intro found key member missing
    obtain ⟨base, loaded⟩ := found
    rw [← loaded.keys] at member
    obtain ⟨account, inside, rfl⟩ := List.mem_map.mp member
    rw [loaded.accounts account inside] at missing
    cases missing
  · intro found
    refine ⟨message.accountKeys.filterMap fun key =>
      (messageAccount constructInstructionsData loader message key).map (key, ·), ?_, ?_⟩
    · rw [List.map_filterMap]
      refine (List.filterMap_congr fun key member => ?_).trans List.filterMap_some
      obtain ⟨account, answer⟩ := Option.ne_none_iff_exists'.mp (found key member)
      rw [answer]
      rfl
    · intro account member
      obtain ⟨key, _, answer⟩ := List.mem_filterMap.mp member
      obtain ⟨content, known, rfl⟩ := Option.map_eq_some_iff.mp answer
      exact known

theorem exists_messageAccounts
    (decompiles : instructionsSysvarId ∈ message.accountKeys → (constructInstructionsData message).isSome) :
    (∃ base, MessageAccounts constructInstructionsData loader message base) ↔
      ∀ key ∈ message.accountKeys, key ≠ instructionsSysvarId → loader.g key ≠ none := by
  rw [exists_messageAccounts_iff]
  constructor
  · intro found key member ordinary
    have known := found key member
    rwa [messageAccount, if_neg ordinary] at known
  · intro found key member
    by_cases special : key = instructionsSysvarId
    · subst special
      obtain ⟨data, answer⟩ := Option.isSome_iff_exists.mp (decompiles member)
      rw [messageAccount, if_pos rfl, constructInstructionsAccount, answer]
      exact Option.some_ne_none _
    · rw [messageAccount, if_neg special]
      exact found key member special

theorem loadTransactionAccounts_ok_iff {result : LoadedTransaction} :
    loader.loadTransactionAccounts constructInstructionsData message = .ok result ↔
      ∃ base, MessageAccounts constructInstructionsData loader message base ∧
        ∃ found, loader.resolvePrograms base.length message.instructions base [] = .ok found ∧
          result = ⟨found.1, found.2, 0, []⟩ := by
  rw [loadTransactionAccounts, except_bind_ok_iff]
  refine exists_congr fun base => ?_
  rw [loadMessageAccounts_ok_iff, except_bind_ok_iff]
  refine and_congr_right fun _ => exists_congr fun found => and_congr_right fun _ => ?_
  constructor
  · intro loaded
    exact (Except.ok.inj loaded).symm
  · intro same
    rw [same]
    rfl

theorem messageAccounts_of_loaded {result : LoadedTransaction}
    (success : loader.loadTransactionAccounts constructInstructionsData message = .ok result) :
    ∃ base, MessageAccounts constructInstructionsData loader message base := by
  obtain ⟨base, loaded, _⟩ := loadTransactionAccounts_ok_iff.mp success
  exact ⟨base, loaded⟩

structure LoadedExactly (constructInstructionsData : InstructionsData) (loader : AccountLoader Programs)
    (message : SanitizedMessage) (loaded : LoadedTransaction) : Prop where
  accounts : ∃ base appended, loaded.accounts = base ++ appended ∧
    MessageAccounts constructInstructionsData loader message base ∧ AppendedOwners loader base appended
  programIndices : List.Forall₂ (fun instruction indices => ∃ chain,
    Resolved constructInstructionsData loader message loaded.accounts instruction indices chain)
    message.instructions loaded.programIndices

theorem loaded_grown {result : LoadedTransaction}
    (inRange : ∀ instruction ∈ message.instructions,
      instruction.programIdIndex.toNat < message.accountKeys.length)
    (success : loader.loadTransactionAccounts constructInstructionsData message = .ok result) :
    ∃ base appended, result.accounts = base ++ appended ∧
      MessageAccounts constructInstructionsData loader message base ∧ Grown loader base appended := by
  obtain ⟨base, loaded, found, ran, rfl⟩ := loadTransactionAccounts_ok_iff.mp success
  obtain ⟨appended, entries, resolved, _, grown, _⟩ :=
    resolvePrograms_ok loaded (chains_of_resolved loaded inRange ran) (Grown.start loader base) []
  rw [List.append_nil, ran] at resolved
  cases resolved
  exact ⟨base, appended, rfl, loaded, grown⟩

theorem loadedExactly {result : LoadedTransaction}
    (inRange : ∀ instruction ∈ message.instructions,
      instruction.programIdIndex.toNat < message.accountKeys.length)
    (success : loader.loadTransactionAccounts constructInstructionsData message = .ok result)
    (few : result.accounts.length ≤ 2 ^ 16) :
    LoadedExactly constructInstructionsData loader message result := by
  obtain ⟨base, loaded, found, ran, rfl⟩ := loadTransactionAccounts_ok_iff.mp success
  obtain ⟨appended, entries, resolved, _, grown, located⟩ :=
    resolvePrograms_ok loaded (chains_of_resolved loaded inRange ran) (Grown.start loader base) []
  rw [List.append_nil, ran] at resolved
  cases resolved
  refine ⟨⟨base, appended, rfl, loaded, grown.toAppendedOwners⟩, ?_⟩
  rw [List.nil_append, List.forall₂_map_right_iff]
  exact located.imp fun _ _ ⟨chain, here⟩ => ⟨chain, here.resolved few⟩

/-- One instruction as the instructions sysvar holds it, no account signing or writable. -/
def plainInstruction (message : SanitizedMessage) (instruction : CompiledInstruction) : Option (List UInt8) := do
  let programId ← message.accountKeys[instruction.programIdIndex.toNat]?
  let accounts ← instruction.accounts.mapM fun index => message.accountKeys[index.toNat]?
  some (toLe 2 accounts.length ++ accounts.flatMap (fun key => 0 :: key.bytes) ++ programId.bytes ++
    toLe 2 instruction.data.length ++ instruction.data)

/-- The data of the instructions sysvar for messages whose accounts neither sign nor are writable. -/
def plainInstructionsData : InstructionsData := fun message => do
  let instructions ← message.instructions.mapM (plainInstruction message)
  let starts := instructions.scanl (fun start instruction => start + instruction.length) (2 + 2 * instructions.length)
  some (toLe 2 instructions.length ++ (starts.take instructions.length).flatMap (toLe 2) ++
    instructions.flatten ++ [0, 0])

def programSource (key : Pubkey) : Option Account :=
  if key = Pubkey.filled 1 then some { Account.default with owner := .filled 2, executable := true }
  else if key = Pubkey.filled 2 then some { Account.default with owner := nativeLoaderId, executable := true }
  else none

def programLoader : AccountLoader (List Pubkey) where
  g := programSource
  featureSet := ⟨[]⟩
  loadedProgramsCache := []
  programOwners := .single (.filled 2)
  builtinPrograms := ⟨[], List.nodup_nil⟩

/-- A message that calls the program twice. -/
def programMessage : SanitizedMessage where
  accountKeys := [.filled 1]
  instructions := [⟨0, [], []⟩, ⟨0, [], []⟩]

end Message

end BpfSimulator.AccountLoader
