import Mathlib.Data.Set.Card
import BpfSimulator.MessageExecutor.TransactionLoaderProperties

/-! The order of a message's instructions. A program index is looked up among
the accounts loaded so far, so one past the message's keys can name an owner
that other instructions appended. -/

set_option autoImplicit false

namespace BpfSimulator.AccountLoader

open Foundation

variable {Programs : Type} {constructInstructionsData : InstructionsData} {loader : AccountLoader Programs}
  {message : SanitizedMessage} {base appended : List TransactionAccount}

/-- The keys of the owners that the programs of the instructions need. -/
def neededOwners (constructInstructionsData : InstructionsData) (loader : AccountLoader Programs)
    (message : SanitizedMessage) (instructions : List CompiledInstruction) : Set Pubkey :=
  {key | ∃ instruction ∈ instructions, ∃ chain,
    ProgramChain constructInstructionsData loader message instruction chain ∧ key ∈ chain.tail.map Prod.fst}

theorem ProgramChain.inRange {instruction : CompiledInstruction} {chain : List TransactionAccount}
    (followed : ProgramChain constructInstructionsData loader message instruction chain) :
    instruction.programIdIndex.toNat < message.accountKeys.length := by
  cases followed with
  | native program => exact (List.getElem?_eq_some_iff.mp program).1
  | owned program => exact (List.getElem?_eq_some_iff.mp program).1

theorem ProgramChain.unique {instruction : CompiledInstruction} {chain other : List TransactionAccount}
    (left : ProgramChain constructInstructionsData loader message instruction chain)
    (right : ProgramChain constructInstructionsData loader message instruction other) : chain = other := by
  cases left with
  | native program =>
      cases right with
      | native => rfl
      | owned program' ordinary =>
          cases program.symm.trans program'
          exact absurd rfl ordinary
  | owned program ordinary loaded owners =>
      cases right with
      | native program' =>
          cases program.symm.trans program'
          exact absurd rfl ordinary
      | owned program' _ loaded' owners' =>
          cases program.symm.trans program'
          cases loaded.symm.trans loaded'
          exact owners.unique owners'

theorem neededOwners_append (first second : List CompiledInstruction) :
    neededOwners constructInstructionsData loader message (first ++ second) =
      neededOwners constructInstructionsData loader message first ∪
        neededOwners constructInstructionsData loader message second := by
  ext key
  constructor
  · intro owner
    obtain ⟨instruction, member, needed⟩ := owner
    rcases List.mem_append.mp member with earlier | later
    · exact .inl ⟨instruction, earlier, needed⟩
    · exact .inr ⟨instruction, later, needed⟩
  · intro owner
    rcases owner with ⟨instruction, member, needed⟩ | ⟨instruction, member, needed⟩
    · exact ⟨instruction, List.mem_append_left _ member, needed⟩
    · exact ⟨instruction, List.mem_append_right _ member, needed⟩

theorem neededOwners_inRange {instruction : CompiledInstruction} {chain : List TransactionAccount}
    (followed : ProgramChain constructInstructionsData loader message instruction chain) :
    neededOwners constructInstructionsData loader message [instruction] = {key | key ∈ chain.tail.map Prod.fst} := by
  ext key
  constructor
  · intro owner
    obtain ⟨needing, member, needed, followedHere, inside⟩ := owner
    obtain rfl := List.mem_singleton.mp member
    obtain rfl := followedHere.unique followed
    exact inside
  · intro inside
    exact ⟨instruction, .head _, chain, followed, inside⟩

theorem neededOwners_outOfRange {outside : List CompiledInstruction}
    (outOfRange : ∀ instruction ∈ outside, message.accountKeys.length ≤ instruction.programIdIndex.toNat) :
    neededOwners constructInstructionsData loader message outside = ∅ := by
  refine Set.eq_empty_of_forall_notMem ?_
  intro key owner
  obtain ⟨needing, member, chain, followed, _⟩ := owner
  exact absurd followed.inRange (Nat.not_lt.mpr (outOfRange needing member))

theorem neededOwners_append_outOfRange {resolved outside : List CompiledInstruction}
    (outOfRange : ∀ instruction ∈ outside, message.accountKeys.length ≤ instruction.programIdIndex.toNat) :
    neededOwners constructInstructionsData loader message (resolved ++ outside) =
      neededOwners constructInstructionsData loader message resolved := by
  rw [neededOwners_append, neededOwners_outOfRange outOfRange, Set.union_empty]

theorem neededOwners_perm {first second : List CompiledInstruction} (reordered : first.Perm second) :
    neededOwners constructInstructionsData loader message first =
      neededOwners constructInstructionsData loader message second := by
  ext key
  simp only [neededOwners, Set.mem_ofPred_eq, reordered.mem_iff]

theorem ProgramChain.length_le {instruction : CompiledInstruction} {chain : List TransactionAccount}
    (followed : ProgramChain constructInstructionsData loader message instruction chain) : chain.length ≤ 5 := by
  cases followed with
  | native => exact Nat.zero_le 5
  | owned _ _ _ _ short => exact short

theorem ProgramChain.owners_of_tail {instruction : CompiledInstruction} {chain : List TransactionAccount}
    (followed : ProgramChain constructInstructionsData loader message instruction chain)
    {owner : TransactionAccount} (member : owner ∈ chain.tail) :
    ∃ rest, OwnerChain loader owner rest ∧ rest <:+ chain := by
  cases followed with
  | native => exact absurd member List.not_mem_nil
  | owned _ _ _ owners => exact owners.from_mem (List.mem_of_mem_tail member)

theorem Located.owners_mem {instruction : CompiledInstruction} {places : List Nat}
    {chain : List TransactionAccount}
    (located : Located constructInstructionsData loader message (base ++ appended) instruction places chain)
    (loaded : MessageAccounts constructInstructionsData loader message base) :
    ∀ owner ∈ chain.tail, owner ∈ appended := by
  intro owner member
  have named : places.dropLast.map (fun place => (base ++ appended)[place]?) = chain.tail.reverse.map some := by
    rw [List.map_dropLast, located.named, ← List.map_dropLast, List.dropLast_reverse]
  have inside : some owner ∈ places.dropLast.map fun place => (base ++ appended)[place]? := by
    rw [named]
    exact List.mem_map_of_mem (List.mem_reverse.mpr member)
  obtain ⟨place, last, found⟩ := List.mem_map.mp inside
  have behind := located.owners place last
  rw [← loaded.length_eq] at behind
  rw [List.getElem?_append_right behind] at found
  exact List.mem_of_getElem? found

section Run

/-- The accounts after some instructions are resolved: the owners appended are
those needed, and with each of them its own owners are there. -/
structure Settled (constructInstructionsData : InstructionsData) (loader : AccountLoader Programs)
    (message : SanitizedMessage) (base appended : List TransactionAccount)
    (resolved : List CompiledInstruction) : Prop where
  grown : Grown loader base appended
  needed : ∀ key, key ∈ appended.map Prod.fst ↔
    key ∈ neededOwners constructInstructionsData loader message resolved
  closed : ∀ owner ∈ appended, ∃ chain, OwnerChain loader owner chain ∧ chain.length ≤ 5 ∧
    ∀ later ∈ chain.tail, later ∈ appended

variable {resolved : List CompiledInstruction} {instruction : CompiledInstruction}

/-- An instruction that can be resolved in this state. -/
def Admitted (constructInstructionsData : InstructionsData) (loader : AccountLoader Programs)
    (message : SanitizedMessage) (owners : Nat) (instruction : CompiledInstruction) : Prop :=
  (∃ chain, ProgramChain constructInstructionsData loader message instruction chain) ∨
    message.accountKeys.length ≤ instruction.programIdIndex.toNat ∧
      instruction.programIdIndex.toNat < message.accountKeys.length + owners

theorem Settled.start (base : List TransactionAccount) :
    Settled constructInstructionsData loader message base [] [] where
  grown := .start loader base
  needed := fun _ => ⟨fun member => absurd member List.not_mem_nil,
    fun ⟨_, member, _⟩ => absurd member List.not_mem_nil⟩
  closed := fun _ member => absurd member List.not_mem_nil

theorem Settled.ncard (settled : Settled constructInstructionsData loader message base appended resolved) :
    (neededOwners constructInstructionsData loader message resolved).ncard = appended.length := by
  have same : neededOwners constructInstructionsData loader message resolved =
      ((appended.map Prod.fst).toFinset : Set Pubkey) := by
    ext key
    rw [← settled.needed, Finset.mem_coe, List.mem_toFinset]
  rw [same, Set.ncard_coe_finset, List.toFinset_card_of_nodup settled.grown.distinct, List.length_map]

theorem Settled.inRange (settled : Settled constructInstructionsData loader message base appended resolved)
    (loaded : MessageAccounts constructInstructionsData loader message base) {chain : List TransactionAccount}
    (followed : ProgramChain constructInstructionsData loader message instruction chain) :
    ∃ appended' indices, loader.resolveProgram base.length 5 (base ++ appended) []
        instruction.programIdIndex.toNat = .ok (base ++ appended', indices) ∧
      appended <+: appended' ∧
      Settled constructInstructionsData loader message base appended' (resolved ++ [instruction]) := by
  obtain ⟨appended', places, ran, grew, grown, added, located⟩ := resolveInstruction_ok loaded settled.grown followed
  have ownersThere := located.owners_mem loaded
  refine ⟨appended', _, ran, grew, grown, fun key => ?_, fun owner member => ?_⟩
  · rw [neededOwners_append, neededOwners_inRange followed, Set.mem_union, ← settled.needed]
    constructor
    · intro member
      obtain ⟨owner, inside, rfl⟩ := List.mem_map.mp member
      exact (added owner inside).imp List.mem_map_of_mem List.mem_map_of_mem
    · intro needed
      rcases needed with earlier | later
      · exact (grew.map Prod.fst).subset earlier
      · obtain ⟨owner, inside, rfl⟩ := List.mem_map.mp later
        exact List.mem_map_of_mem (ownersThere owner inside)
  · rcases added owner member with earlier | later
    · obtain ⟨rest, owners, short, there⟩ := settled.closed owner earlier
      exact ⟨rest, owners, short, fun later inside => grew.subset (there later inside)⟩
    · obtain ⟨rest, owners, suffix⟩ := followed.owners_of_tail later
      exact ⟨rest, owners, suffix.length_le.trans followed.length_le,
        fun inner inside => ownersThere inner (mem_tail_of_suffix suffix inside)⟩

theorem Settled.outOfRange (settled : Settled constructInstructionsData loader message base appended resolved)
    (loaded : MessageAccounts constructInstructionsData loader message base)
    (behind : message.accountKeys.length ≤ instruction.programIdIndex.toNat)
    (inside : instruction.programIdIndex.toNat < message.accountKeys.length + appended.length) :
    ∃ indices, loader.resolveProgram base.length 5 (base ++ appended) [] instruction.programIdIndex.toNat =
        .ok (base ++ appended, indices) ∧
      Settled constructInstructionsData loader message base appended (resolved ++ [instruction]) := by
  rw [← loaded.length_eq] at behind inside
  obtain ⟨owner, place⟩ : ∃ owner, (base ++ appended)[instruction.programIdIndex.toNat]? = some owner :=
    ⟨_, List.getElem?_eq_getElem (by rw [List.length_append]; exact inside)⟩
  have member : owner ∈ appended := by
    rw [List.getElem?_append_right behind] at place
    exact List.mem_of_getElem? place
  -- The owner's chain is the rest of the chain that appended it.
  obtain ⟨chain, owners, short, there⟩ := settled.closed owner member
  obtain ⟨indices, ran⟩ := resolveProgram_present owners short settled.grown place
    (settled.grown.notNative owner member) there
  refine ⟨indices, ran, settled.grown, fun key => ?_, settled.closed⟩
  rw [neededOwners_append_outOfRange (by simpa using loaded.length_eq ▸ behind), settled.needed]

theorem Settled.step (settled : Settled constructInstructionsData loader message base appended resolved)
    (loaded : MessageAccounts constructInstructionsData loader message base)
    (admitted : Admitted constructInstructionsData loader message appended.length instruction) :
    ∃ appended' indices, loader.resolveProgram base.length 5 (base ++ appended) []
        instruction.programIdIndex.toNat = .ok (base ++ appended', indices) ∧
      appended <+: appended' ∧
      Settled constructInstructionsData loader message base appended' (resolved ++ [instruction]) := by
  rcases admitted with ⟨chain, followed⟩ | ⟨behind, inside⟩
  · exact settled.inRange loaded followed
  · obtain ⟨indices, ran, after⟩ := settled.outOfRange loaded behind inside
    exact ⟨appended, indices, ran, List.prefix_refl _, after⟩

theorem Settled.admitted (settled : Settled constructInstructionsData loader message base appended resolved)
    (loaded : MessageAccounts constructInstructionsData loader message base)
    {result : List TransactionAccount × List UInt16}
    (ran : loader.resolveProgram base.length 5 (base ++ appended) [] instruction.programIdIndex.toNat =
      .ok result) : Admitted constructInstructionsData loader message appended.length instruction := by
  by_cases inRange : instruction.programIdIndex.toNat < message.accountKeys.length
  · by_cases resolvable : ∃ chain, ProgramChain constructInstructionsData loader message instruction chain
    · exact .inl resolvable
    · obtain ⟨error, failed⟩ := resolveInstruction_error loaded inRange settled.grown resolvable
      rw [ran] at failed
      cases failed
  · refine .inr ⟨Nat.not_lt.mp inRange, ?_⟩
    cases place : (base ++ appended)[instruction.programIdIndex.toNat]? with
    | none =>
        simp only [resolveProgram, place] at ran
        cases ran
    | some account =>
        have bound := (List.getElem?_eq_some_iff.mp place).1
        rwa [List.length_append, loaded.length_eq] at bound

/-- Along a successful run every instruction is admitted by the owners there at its end. -/
theorem Settled.run (settled : Settled constructInstructionsData loader message base appended resolved)
    (loaded : MessageAccounts constructInstructionsData loader message base)
    {instructions : List CompiledInstruction} {programIndices : List (List UInt16)}
    {result : List TransactionAccount × List (List UInt16)}
    (ran : loader.resolvePrograms base.length instructions (base ++ appended) programIndices = .ok result) :
    ∃ appended', result.1 = base ++ appended' ∧ appended <+: appended' ∧
      Settled constructInstructionsData loader message base appended' (resolved ++ instructions) ∧
      ∀ instruction ∈ instructions, Admitted constructInstructionsData loader message appended'.length instruction := by
  induction instructions generalizing appended resolved programIndices with
  | nil =>
      cases ran
      exact ⟨appended, rfl, List.prefix_refl _, by rwa [List.append_nil],
        fun _ member => absurd member List.not_mem_nil⟩
  | cons instruction rest ih =>
      obtain ⟨_, first, ranOn⟩ := resolvePrograms_cons_ok_iff.mp ran
      have admitted := settled.admitted loaded first
      obtain ⟨middle, indices, ranHere, grew, settledMiddle⟩ := settled.step loaded admitted
      cases first.symm.trans ranHere
      obtain ⟨final, accounts, grewOn, settledFinal, all⟩ := ih settledMiddle ranOn
      refine ⟨final, accounts, grew.trans grewOn, by rwa [List.append_assoc] at settledFinal, ?_⟩
      intro other member
      rcases List.mem_cons.mp member with rfl | later
      · have few := (grew.trans grewOn).length_le
        exact admitted.imp_right fun bounds => ⟨bounds.1, by omega⟩
      · exact all other later

/-- A run succeeds when every instruction is admitted by the owners needed before it. -/
theorem Settled.run_ok (settled : Settled constructInstructionsData loader message base appended resolved)
    (loaded : MessageAccounts constructInstructionsData loader message base)
    {instructions : List CompiledInstruction} (programIndices : List (List UInt16))
    (admitted : ∀ before instruction after, instructions = before ++ instruction :: after →
      Admitted constructInstructionsData loader message
        (neededOwners constructInstructionsData loader message (resolved ++ before)).ncard instruction) :
    ∃ result, loader.resolvePrograms base.length instructions (base ++ appended) programIndices = .ok result := by
  induction instructions generalizing appended resolved programIndices with
  | nil => exact ⟨_, rfl⟩
  | cons instruction rest ih =>
      have here := admitted [] instruction rest rfl
      rw [List.append_nil, settled.ncard] at here
      obtain ⟨middle, indices, ran, _, settledMiddle⟩ := settled.step loaded here
      have later : ∃ result, loader.resolvePrograms base.length rest (base ++ middle) (programIndices ++ [indices]) =
          .ok result := by
        refine ih settledMiddle _ fun before later after split => ?_
        rw [List.append_assoc]
        exact admitted (instruction :: before) later after (by rw [split]; rfl)
      obtain ⟨result, ranOn⟩ := later
      exact ⟨result, resolvePrograms_cons_ok_iff.mpr ⟨_, ran, ranOn⟩⟩

end Run

section Reordering

variable {message' : SanitizedMessage}

theorem OwnerChain.of_owner {key : Pubkey} {account account' : Account} {chain : List TransactionAccount}
    (sameOwner : account'.owner = account.owner) (followed : OwnerChain loader (key, account) chain) :
    OwnerChain loader (key, account') ((key, account') :: chain.tail) := by
  cases followed with
  | last reached => exact .last (sameOwner.trans reached)
  | step onward found tail =>
      refine .step (fun reached => onward (sameOwner.symm.trans reached)) ?_ tail
      rwa [nextOwner, ← sameOwner] at found

/-- Messages with the same keys differ in the contents of the instructions sysvar only. -/
theorem messageAccount_owner (sameAnswer : (constructInstructionsData message').isSome =
      (constructInstructionsData message).isSome) {key : Pubkey} {account : Account}
    (known : messageAccount constructInstructionsData loader message key = some account) :
    ∃ account', messageAccount constructInstructionsData loader message' key = some account' ∧
      account'.owner = account.owner := by
  by_cases special : key = instructionsSysvarId
  · rw [messageAccount, if_pos special] at known
    obtain ⟨data, answer, rfl⟩ := Option.map_eq_some_iff.mp known
    rw [answer] at sameAnswer
    obtain ⟨data', answer'⟩ := Option.isSome_iff_exists.mp sameAnswer
    refine ⟨{ Account.default with data := data', owner := sysvarId }, ?_, rfl⟩
    rw [messageAccount, if_pos special, constructInstructionsAccount, answer']
    rfl
  · rw [messageAccount, if_neg special] at known
    exact ⟨account, by rw [messageAccount, if_neg special, known], rfl⟩

theorem ProgramChain.transport {instruction : CompiledInstruction} {chain : List TransactionAccount}
    (sameKeys : message'.accountKeys = message.accountKeys)
    (sameAnswer : (constructInstructionsData message').isSome = (constructInstructionsData message).isSome)
    (followed : ProgramChain constructInstructionsData loader message instruction chain) :
    ∃ chain', ProgramChain constructInstructionsData loader message' instruction chain' ∧
      chain'.map Prod.fst = chain.map Prod.fst ∧ chain'.tail = chain.tail := by
  cases followed with
  | native program => exact ⟨[], .native (sameKeys ▸ program), rfl, rfl⟩
  | @owned programId account chain program ordinary known owners short =>
      obtain ⟨account', known', sameOwner⟩ := messageAccount_owner sameAnswer known
      have owners' := owners.of_owner sameOwner
      obtain ⟨rest, rfl⟩ : ∃ rest, chain = (programId, account) :: rest := by
        cases owners <;> exact ⟨_, rfl⟩
      exact ⟨(programId, account') :: rest, .owned (sameKeys ▸ program) ordinary known' owners' short, rfl, rfl⟩

theorem exists_programChain_congr {instruction : CompiledInstruction}
    (sameKeys : message'.accountKeys = message.accountKeys)
    (sameAnswer : (constructInstructionsData message').isSome = (constructInstructionsData message).isSome) :
    (∃ chain, ProgramChain constructInstructionsData loader message' instruction chain) ↔
      ∃ chain, ProgramChain constructInstructionsData loader message instruction chain := by
  constructor
  · intro resolvable
    obtain ⟨chain, followed⟩ := resolvable
    obtain ⟨other, there, _⟩ := followed.transport sameKeys.symm sameAnswer.symm
    exact ⟨other, there⟩
  · intro resolvable
    obtain ⟨chain, followed⟩ := resolvable
    obtain ⟨other, there, _⟩ := followed.transport sameKeys sameAnswer
    exact ⟨other, there⟩

theorem neededOwners_subset (sameKeys : message'.accountKeys = message.accountKeys)
    (sameAnswer : (constructInstructionsData message').isSome = (constructInstructionsData message).isSome)
    (instructions : List CompiledInstruction) :
    neededOwners constructInstructionsData loader message instructions ⊆
      neededOwners constructInstructionsData loader message' instructions := by
  intro key owner
  obtain ⟨instruction, member, chain, followed, inside⟩ := owner
  obtain ⟨other, there, _, tail⟩ := followed.transport sameKeys sameAnswer
  exact ⟨instruction, member, other, there, by rwa [tail]⟩

theorem neededOwners_congr (sameKeys : message'.accountKeys = message.accountKeys)
    (sameAnswer : (constructInstructionsData message').isSome = (constructInstructionsData message).isSome)
    (instructions : List CompiledInstruction) :
    neededOwners constructInstructionsData loader message' instructions =
      neededOwners constructInstructionsData loader message instructions :=
  (neededOwners_subset sameKeys.symm sameAnswer.symm instructions).antisymm
    (neededOwners_subset sameKeys sameAnswer instructions)

theorem exists_messageAccounts_congr (sameKeys : message'.accountKeys = message.accountKeys)
    (sameAnswer : (constructInstructionsData message').isSome = (constructInstructionsData message).isSome) :
    (∃ base, MessageAccounts constructInstructionsData loader message' base) ↔
      ∃ base, MessageAccounts constructInstructionsData loader message base := by
  have known : ∀ {left right : SanitizedMessage} {key : Pubkey},
      (constructInstructionsData right).isSome = (constructInstructionsData left).isSome →
      messageAccount constructInstructionsData loader left key ≠ none →
      messageAccount constructInstructionsData loader right key ≠ none := by
    intro left right key same found
    obtain ⟨account, answer⟩ := Option.ne_none_iff_exists'.mp found
    obtain ⟨account', answer', _⟩ := messageAccount_owner same answer
    exact Option.ne_none_iff_exists'.mpr ⟨account', answer'⟩
  rw [exists_messageAccounts_iff, exists_messageAccounts_iff, sameKeys]
  exact ⟨fun found key member => known sameAnswer.symm (found key member),
    fun found key member => known sameAnswer (found key member)⟩

end Reordering

section Claim

def programChains (loaded : LoadedTransaction) : List (List (Option Pubkey)) :=
  loaded.programIndices.map fun indices => indices.map fun index => loaded.accounts[index.toNat]?.map Prod.fst

/-- Instructions cannot name accounts the message does not have, in whatever
order they come, and their order does not matter. The chains are read where
`u16` indices can name all accounts. -/
structure OrderIrrelevant (constructInstructionsData : InstructionsData) (loader : AccountLoader Programs)
    (message : SanitizedMessage) : Prop where
  outOfRange : ∀ instructions : List CompiledInstruction, instructions.Perm message.instructions →
    (∃ instruction ∈ instructions, message.accountKeys.length ≤ instruction.programIdIndex.toNat) →
    ∀ loaded, loader.loadTransactionAccounts constructInstructionsData { message with instructions } ≠ .ok loaded
  permuted : ∀ first second : List CompiledInstruction, first.Perm message.instructions →
    second.Perm message.instructions → ∀ loaded,
    loader.loadTransactionAccounts constructInstructionsData { message with instructions := first } = .ok loaded →
    ∃ loaded', loader.loadTransactionAccounts constructInstructionsData { message with instructions := second } =
        .ok loaded' ∧
      (loaded.accounts.length ≤ 2 ^ 16 →
        (first.zip (programChains loaded)).Perm (second.zip (programChains loaded')))

theorem admitted_of_loaded {loaded : LoadedTransaction}
    (success : loader.loadTransactionAccounts constructInstructionsData message = .ok loaded) :
    (∃ base, MessageAccounts constructInstructionsData loader message base) ∧
      loaded.accounts.length = message.accountKeys.length +
        (neededOwners constructInstructionsData loader message message.instructions).ncard ∧
      ∀ instruction ∈ message.instructions, Admitted constructInstructionsData loader message
        (neededOwners constructInstructionsData loader message message.instructions).ncard instruction := by
  obtain ⟨base, accounts, found, ran, rfl⟩ := loadTransactionAccounts_ok_iff.mp success
  have start : Settled constructInstructionsData loader message base [] [] := .start base
  have ran' : loader.resolvePrograms base.length message.instructions (base ++ []) [] = .ok found := by
    rwa [List.append_nil]
  obtain ⟨appended, final, _, settled, all⟩ := start.run accounts ran'
  have count := settled.ncard
  rw [List.nil_append] at count
  refine ⟨⟨base, accounts⟩, ?_, by rwa [count]⟩
  rw [count, ← accounts.length_eq, final, List.length_append]

/-- Instructions with an index in range that all have a chain, followed by ones
that name owners needed by these, are loaded. -/
theorem loaded_of_admitted (found : ∃ base, MessageAccounts constructInstructionsData loader message base)
    {inside outside : List CompiledInstruction} (ordered : message.instructions = inside ++ outside)
    (chains : ∀ instruction ∈ inside,
      ∃ chain, ProgramChain constructInstructionsData loader message instruction chain)
    (behind : ∀ instruction ∈ outside, message.accountKeys.length ≤ instruction.programIdIndex.toNat ∧
      instruction.programIdIndex.toNat < message.accountKeys.length +
        (neededOwners constructInstructionsData loader message inside).ncard) :
    ∃ loaded, loader.loadTransactionAccounts constructInstructionsData message = .ok loaded := by
  obtain ⟨base, accounts⟩ := found
  have start : Settled constructInstructionsData loader message base [] [] := .start base
  obtain ⟨result, ran⟩ : ∃ result,
      loader.resolvePrograms base.length message.instructions (base ++ []) [] = .ok result := by
    refine start.run_ok accounts [] fun before instruction after split => ?_
    rw [ordered] at split
    rcases List.append_eq_append_iff.mp split with ⟨more, rfl, rest⟩ | ⟨more, rfl, rest⟩
    · refine .inr ?_
      rw [List.nil_append, neededOwners_append_outOfRange fun other member =>
        (behind other (by rw [rest]; exact List.mem_append_left _ member)).1]
      exact behind instruction (by rw [rest]; simp)
    · cases more with
      | nil =>
          rw [List.nil_append] at rest
          rw [List.append_nil] at behind
          exact .inr (behind instruction (by rw [← rest]; exact .head _))
      | cons first more =>
          cases rest
          exact .inl (chains instruction (by simp))
  rw [List.append_nil] at ran
  exact ⟨_, loadTransactionAccounts_ok_iff.mpr ⟨base, accounts, result, ran, rfl⟩⟩

section Order

variable {instructions inside outside : List CompiledInstruction}

theorem admitted_of_reordered {loaded : LoadedTransaction}
    (sameAnswer : (constructInstructionsData { message with instructions }).isSome =
      (constructInstructionsData message).isSome)
    (success : loader.loadTransactionAccounts constructInstructionsData { message with instructions } = .ok loaded) :
    (∀ key ∈ message.accountKeys, messageAccount constructInstructionsData loader message key ≠ none) ∧
      loaded.accounts.length = message.accountKeys.length +
        (neededOwners constructInstructionsData loader message instructions).ncard ∧
      ∀ instruction ∈ instructions, Admitted constructInstructionsData loader message
        (neededOwners constructInstructionsData loader message instructions).ncard instruction := by
  obtain ⟨found, count, all⟩ := admitted_of_loaded success
  have accounts := @exists_messageAccounts_congr _ _ loader message { message with instructions } rfl sameAnswer
  have needed := @neededOwners_congr _ _ loader message { message with instructions } rfl sameAnswer instructions
  rw [needed] at count all
  refine ⟨exists_messageAccounts_iff.mp (accounts.mp found), count, fun instruction member => ?_⟩
  have chains := @exists_programChain_congr _ _ loader message { message with instructions } instruction rfl
    sameAnswer
  exact (all instruction member).imp_left chains.mp

theorem loaded_of_reordered
    (sameAnswer : (constructInstructionsData { message with instructions := inside ++ outside }).isSome =
      (constructInstructionsData message).isSome)
    (found : ∀ key ∈ message.accountKeys, messageAccount constructInstructionsData loader message key ≠ none)
    (chains : ∀ instruction ∈ inside,
      ∃ chain, ProgramChain constructInstructionsData loader message instruction chain)
    (behind : ∀ instruction ∈ outside, message.accountKeys.length ≤ instruction.programIdIndex.toNat ∧
      instruction.programIdIndex.toNat < message.accountKeys.length +
        (neededOwners constructInstructionsData loader message inside).ncard) :
    ∃ loaded, loader.loadTransactionAccounts constructInstructionsData
      { message with instructions := inside ++ outside } = .ok loaded := by
  let message' : SanitizedMessage := { message with instructions := inside ++ outside }
  have accounts := @exists_messageAccounts_congr _ _ loader message message' rfl sameAnswer
  have needed := @neededOwners_congr _ _ loader message message' rfl sameAnswer inside
  refine @loaded_of_admitted _ _ loader message' (accounts.mpr (exists_messageAccounts_iff.mpr found)) _ _ rfl ?_ ?_
  · intro instruction member
    have followed := @exists_programChain_congr _ _ loader message message' instruction rfl sameAnswer
    exact followed.mpr (chains instruction member)
  · rw [needed]
    exact behind

end Order

/-- The keys of an instruction's chain, outermost owner first. -/
def KeyChain (constructInstructionsData : InstructionsData) (loader : AccountLoader Programs)
    (message : SanitizedMessage) (instruction : CompiledInstruction) (keys : List (Option Pubkey)) : Prop :=
  ∃ chain, ProgramChain constructInstructionsData loader message instruction chain ∧
    keys = (chain.map Prod.fst).reverse.map some

theorem KeyChain.unique {instruction : CompiledInstruction} {keys other : List (Option Pubkey)}
    (left : KeyChain constructInstructionsData loader message instruction keys)
    (right : KeyChain constructInstructionsData loader message instruction other) : keys = other := by
  obtain ⟨chain, followed, rfl⟩ := left
  obtain ⟨chain', followed', rfl⟩ := right
  rw [followed.unique followed']

theorem programChains_related {loaded : LoadedTransaction}
    (inRange : ∀ instruction ∈ message.instructions,
      instruction.programIdIndex.toNat < message.accountKeys.length)
    (success : loader.loadTransactionAccounts constructInstructionsData message = .ok loaded)
    (few : loaded.accounts.length ≤ 2 ^ 16) :
    List.Forall₂ (KeyChain constructInstructionsData loader message) message.instructions
      (programChains loaded) := by
  rw [programChains, List.forall₂_map_right_iff]
  refine (loadedExactly inRange success few).programIndices.imp ?_
  intro instruction indices found
  obtain ⟨chain, resolved⟩ := found
  refine ⟨chain, resolved.followed, ?_⟩
  have names := congrArg (List.map (Option.map Prod.fst)) resolved.places
  simpa [List.map_map, Function.comp_def] using names

theorem programChains_reordered {instructions : List CompiledInstruction} {loaded : LoadedTransaction}
    (sameAnswer : (constructInstructionsData { message with instructions }).isSome =
      (constructInstructionsData message).isSome)
    (inRange : ∀ instruction ∈ instructions,
      instruction.programIdIndex.toNat < message.accountKeys.length)
    (success : loader.loadTransactionAccounts constructInstructionsData { message with instructions } = .ok loaded)
    (few : loaded.accounts.length ≤ 2 ^ 16) :
    List.Forall₂ (KeyChain constructInstructionsData loader message) instructions (programChains loaded) := by
  let message' : SanitizedMessage := { message with instructions }
  have related := @programChains_related _ constructInstructionsData loader message' loaded inRange success few
  refine related.imp ?_
  intro instruction keys keyChain
  obtain ⟨chain, followed, rfl⟩ := keyChain
  obtain ⟨other, there, names, _⟩ :=
    @ProgramChain.transport _ _ loader message' message instruction chain rfl sameAnswer.symm followed
  exact ⟨other, there, by rw [names]⟩

theorem orderIrrelevant_of_refused
    (refused : ∀ instructions : List CompiledInstruction, instructions.Perm message.instructions → ∀ loaded,
      loader.loadTransactionAccounts constructInstructionsData { message with instructions } ≠ .ok loaded) :
    OrderIrrelevant constructInstructionsData loader message where
  outOfRange := fun instructions permuted _ => refused instructions permuted
  permuted := fun first _ permuted _ loaded success => absurd success (refused first permuted loaded)

theorem orderIrrelevant_of_inRange
    (reordered : ∀ instructions : List CompiledInstruction, instructions.Perm message.instructions →
      (constructInstructionsData { message with instructions }).isSome =
        (constructInstructionsData message).isSome)
    (inRange : ∀ instruction ∈ message.instructions,
      instruction.programIdIndex.toNat < message.accountKeys.length) :
    OrderIrrelevant constructInstructionsData loader message where
  outOfRange := by
    intro instructions permuted stray
    obtain ⟨instruction, member, outside⟩ := stray
    have inside := inRange instruction (permuted.mem_iff.mp member)
    omega
  permuted := by
    intro first second firstPermuted secondPermuted loaded success
    have swapped := firstPermuted.trans secondPermuted.symm
    obtain ⟨found, count, all⟩ := admitted_of_reordered (reordered first firstPermuted) success
    have chains : ∀ instruction ∈ second,
        ∃ chain, ProgramChain constructInstructionsData loader message instruction chain := by
      intro instruction member
      rcases all instruction (swapped.mem_iff.mpr member) with resolved | ⟨outside, _⟩
      · exact resolved
      · have inside := inRange instruction (secondPermuted.mem_iff.mp member)
        omega
    have sameAnswer : (constructInstructionsData { message with instructions := second ++ [] }).isSome =
        (constructInstructionsData message).isSome := by
      rw [List.append_nil]
      exact reordered second secondPermuted
    obtain ⟨loaded', success'⟩ := loaded_of_reordered sameAnswer found chains
      fun _ member => absurd member List.not_mem_nil
    rw [List.append_nil] at success'
    refine ⟨loaded', success', fun few => ?_⟩
    obtain ⟨_, count', _⟩ := admitted_of_reordered (reordered second secondPermuted) success'
    rw [← neededOwners_perm swapped, ← count] at count'
    exact @zip_perm_of_functional _ _ (KeyChain constructInstructionsData loader message)
      (fun _ _ _ left right => left.unique right) _ _ swapped _ _
      (programChains_reordered (reordered first firstPermuted)
        (fun instruction member => inRange instruction (firstPermuted.mem_iff.mp member)) success few)
      (programChains_reordered (reordered second secondPermuted)
        (fun instruction member => inRange instruction (secondPermuted.mem_iff.mp member)) success'
        (count' ▸ few))

/-- Out-of-range program indices are refused in every order of the
instructions, and the order is irrelevant, exactly when there are none, or when
loading fails for some other reason, or when one of them lies behind all owners
that the programs of the other instructions need. -/
theorem instruction_order_irrelevant_iff (constructInstructionsData : InstructionsData)
    (loader : AccountLoader Programs) (message : SanitizedMessage)
    (reordered : ∀ instructions : List CompiledInstruction, instructions.Perm message.instructions →
      (constructInstructionsData { message with instructions }).isSome =
        (constructInstructionsData message).isSome) :
    OrderIrrelevant constructInstructionsData loader message ↔
      (∀ instruction ∈ message.instructions,
        instruction.programIdIndex.toNat < message.accountKeys.length) ∨
      (∃ key ∈ message.accountKeys, messageAccount constructInstructionsData loader message key = none) ∨
      (∃ instruction ∈ message.instructions, instruction.programIdIndex.toNat < message.accountKeys.length ∧
        ¬ ∃ chain, ProgramChain constructInstructionsData loader message instruction chain) ∨
      ∃ instruction ∈ message.instructions, message.accountKeys.length +
        (neededOwners constructInstructionsData loader message message.instructions).ncard ≤
          instruction.programIdIndex.toNat := by
  constructor
  · intro irrelevant
    by_contra loadable
    simp only [not_or, not_exists, not_and, not_forall, Nat.not_lt, Nat.not_le, Classical.not_not] at loadable
    obtain ⟨⟨bad, member, outside⟩, found, chains, near⟩ := loadable
    let inRange : CompiledInstruction → Bool := fun instruction =>
      decide (instruction.programIdIndex.toNat < message.accountKeys.length)
    have permuted := List.filter_append_perm inRange message.instructions
    have needed : neededOwners constructInstructionsData loader message (message.instructions.filter inRange) =
        neededOwners constructInstructionsData loader message message.instructions := by
      rw [← neededOwners_perm permuted, neededOwners_append_outOfRange]
      intro instruction inside
      simpa [inRange] using (List.mem_filter.mp inside).2
    obtain ⟨loaded, success⟩ := @loaded_of_reordered _ _ loader message (message.instructions.filter inRange)
      (message.instructions.filter fun instruction => !inRange instruction) (reordered _ permuted) found
      (fun instruction inside => by
        obtain ⟨there, small⟩ := List.mem_filter.mp inside
        exact chains instruction there (of_decide_eq_true small))
      (fun instruction inside => by
        obtain ⟨there, large⟩ := List.mem_filter.mp inside
        rw [needed]
        exact ⟨by simpa [inRange] using large, near instruction there⟩)
    exact irrelevant.outOfRange _ permuted ⟨bad, permuted.mem_iff.mpr member, outside⟩ loaded success
  · intro condition
    by_cases inRange : ∀ instruction ∈ message.instructions,
        instruction.programIdIndex.toNat < message.accountKeys.length
    · exact orderIrrelevant_of_inRange reordered inRange
    · refine orderIrrelevant_of_refused fun instructions permuted loaded success => ?_
      obtain ⟨found, _, all⟩ := admitted_of_reordered (reordered _ permuted) success
      rw [neededOwners_perm permuted] at all
      rcases condition with none | ⟨key, member, missing⟩ | ⟨instruction, member, small, unresolved⟩ |
        ⟨instruction, member, large⟩
      · exact inRange none
      · exact found key member missing
      · rcases all instruction (permuted.mem_iff.mpr member) with resolved | ⟨behind, _⟩
        · exact unresolved resolved
        · omega
      · rcases all instruction (permuted.mem_iff.mpr member) with ⟨chain, followed⟩ | ⟨_, near⟩
        · have small := followed.inRange
          omega
        · omega

theorem instruction_order_irrelevant_program :
    OrderIrrelevant plainInstructionsData programLoader programMessage := by
  have reordered : ∀ instructions : List CompiledInstruction, instructions.Perm programMessage.instructions →
      (plainInstructionsData { programMessage with instructions }).isSome =
        (plainInstructionsData programMessage).isSome := by
    intro instructions permuted
    have same : instructions = List.replicate 2 ⟨0, [], []⟩ := List.perm_replicate.mp permuted
    rw [same]
    rfl
  exact (instruction_order_irrelevant_iff plainInstructionsData programLoader programMessage reordered).mpr
    (.inl (by decide))

/-- A message with one key whose second instruction names the account behind it. -/
def strayMessage : SanitizedMessage where
  accountKeys := [.filled 1]
  instructions := [⟨0, [], []⟩, ⟨1, [], []⟩]

/-- The first instruction appends the owner that the second one names; the
other way round the message is refused. -/
theorem instruction_order_relevant :
    (∃ instruction ∈ strayMessage.instructions,
      strayMessage.accountKeys.length ≤ instruction.programIdIndex.toNat) ∧
    (∃ loaded, programLoader.loadTransactionAccounts plainInstructionsData strayMessage = .ok loaded) ∧
    (∀ loaded, programLoader.loadTransactionAccounts plainInstructionsData
      { strayMessage with instructions := strayMessage.instructions.reverse } ≠ .ok loaded) ∧
    ¬ OrderIrrelevant plainInstructionsData programLoader strayMessage := by
  have success : programLoader.loadTransactionAccounts plainInstructionsData strayMessage = .ok _ := rfl
  refine ⟨by decide, ⟨_, success⟩, ?_, ?_⟩
  · intro loaded reversed
    cases reversed
  · intro irrelevant
    exact irrelevant.outOfRange strayMessage.instructions (List.Perm.refl _) (by decide) _ success

end Claim

end BpfSimulator.AccountLoader
