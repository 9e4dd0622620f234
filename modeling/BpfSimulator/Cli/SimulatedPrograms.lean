import BpfSimulator.Cli.Loading
import BpfSimulator.Cli.ProgramData
import BpfSimulator.MessageExecutor.MessageIsolation
import BpfSimulator.MessageExecutor.ProgramOrigins

/-! What a simulation runs. Its batch has the programs that its message needs,
each made from the one snapshot that the passes read, and under the simulated
key what the ELF loader makes of the file. -/

set_option autoImplicit false

namespace BpfSimulator.Cli.Simulate

open Foundation AccountLoader
open Query (requests)

section Batches

variable {RpcError Node Programs Batch Environment Program WorkingSlot Sysvars Log Context Budget Rent Hash
  MessageError Entrypoint : Type}
  {runtime : SimulateRuntime Programs Batch Environment Program WorkingSlot Sysvars Log Context Budget Rent Hash
    MessageError Entrypoint} {fresh : MessageExecutor Programs Sysvars Log} {slot : Slot} {message : SanitizedMessage}
  {rpc : RpcClient RpcError Node} {options : Simulate}
  {shows : Programs → WorkingSlot → Pubkey → Prop} {visible : Program → WorkingSlot → Prop}
  {holds : Programs → Pubkey → Program → Prop} {entry : Batch → Pubkey → Program → Prop}
  {standsFor : WorkingSlot → Program → Program → Prop}

/-- What the program pass of a simulation asks the cache for. -/
def programRequest (runtime : SimulateRuntime Programs Batch Environment Program WorkingSlot Sysvars Log Context Budget
      Rent Hash MessageError Entrypoint) (slot : Slot) (message : SanitizedMessage)
    (accounts : Pubkey → Option Account) : Request WorkingSlot where
  g := accounts
  slot := runtime.workingSlot slot
  messages := [message]

/-- The programs of a batch, by the accounts they were requested with. -/
structure BatchFrom (runtime : SimulateRuntime Programs Batch Environment Program WorkingSlot Sysvars Log Context Budget
      Rent Hash MessageError Entrypoint) (fresh : MessageExecutor Programs Sysvars Log)
    (entry : Batch → Pubkey → Program → Prop) (standsFor : WorkingSlot → Program → Program → Prop)
    (request : Request WorkingSlot) (batch : Batch) : Prop where
  present : ∀ key, (∃ program, entry batch key program) ↔
    NeedsLoading request key ∨ ActiveBuiltin runtime.defaults.builtins runtime.features key
  builtin : ∀ key program, entry batch key program → ActiveBuiltin runtime.defaults.builtins runtime.features key →
    ∃ held, BuiltinProgram runtime.defaults runtime.defaults.builtins runtime.features key held ∧
      standsFor request.slot program held
  made : ∀ key program, entry batch key program → ¬ ActiveBuiltin runtime.defaults.builtins runtime.features key →
    MadeFrom runtime.loaders runtime.caches fresh key program request

theorem batchFrom_first
    (contract : CacheContract runtime.caches fun batch key => ∃ program, entry batch key program)
    (retention : RetentionContract runtime.caches shows visible)
    (origins : OriginContract runtime.caches holds entry standsFor)
    (empty : ∀ root epoch environments slot key, ¬ shows (runtime.defaults.setEnvironments
      (runtime.defaults.newPrograms root epoch) environments) slot key)
    (nothing : ∀ root epoch environments key program, ¬ holds (runtime.defaults.setEnvironments
      (runtime.defaults.newPrograms root epoch) environments) key program)
    (builtinsVisible : ∀ size entrypoint slot, visible (runtime.defaults.newBuiltin 0 size entrypoint) slot)
    (created : MessageExecutor.new runtime.defaults runtime.caches runtime.features = .ok fresh)
    (sysvarCache : Sysvars) {request : Request WorkingSlot} {batch : Batch} {final : Replenishing Programs}
    (ran : request.perform runtime.loaders runtime.caches { fresh with sysvarCache } = .ok batch final) :
    BatchFrom runtime fresh entry standsFor request batch := by
  obtain ⟨serves, shown⟩ := new_serves retention empty builtinsVisible created
  have entered (key : Pubkey) (program : Program) (has : entry batch key program) :=
    perform_entry contract retention origins ran has
  have notLoaded {key : Pubkey} (active : ActiveBuiltin runtime.defaults.builtins runtime.features key) :
      key ∉ (newlyLoaded runtime.loaders runtime.caches request { fresh with sysvarCache }).map Prod.fst := by
    intro member
    exact (((mem_newlyLoaded contract retention).2 key).mp member).2.2 ((shown _ key).mpr active)
  refine ⟨fun key => ?_, fun key program has active => ?_, fun key program has inactive => ?_⟩
  · rcases request_cases request { fresh with sysvarCache } with unknown | ⟨_, searched, search, keys⟩
    · rw [(perform_missing runtime.loaders runtime.caches _ unknown).1] at ran
      cases ran
    · obtain ⟨found, cache, performed, entries⟩ := replenish_found runtime.loaders [] search
      have same : batch = found := (EStateM.Result.ok.inj (ran.symm.trans performed)).1
      have servesToo : ServesFeatures runtime.defaults.builtins runtime.features { fresh with sysvarCache } :=
        ⟨serves.featureSet, serves.programOwners, serves.builtinPrograms⟩
      rw [same, entries _ contract, keys, Finset.mem_sort, servesToo.mem_searchedKeys]
  · obtain ⟨_, held, holding, stands⟩ := (entered key program has).resolve_right fun loaded => notLoaded active loaded.1
    exact ⟨held, new_holds origins nothing created holding, stands⟩
  · obtain ⟨_, now⟩ := (entered key program has).resolve_left fun other => inactive ((shown _ key).mp other.1)
    rcases now with loaded | holding
    · exact newlyLoaded_madeFrom contract origins ⟨rfl, fun _ => rfl⟩ loaded
    · exact absurd (new_holds origins nothing created holding).active inactive

/-- The batch of a simulation has the active builtins and the programs of its
message, each made from the snapshot of the node that loading read. A simulated
program that is no builtin is what the ELF loader makes of the bytes of the
file, as a program of the second loader; one that is a builtin stays that. -/
theorem simulated_programs
    (contract : CacheContract runtime.caches fun batch key => ∃ program, entry batch key program)
    (retention : RetentionContract runtime.caches shows visible)
    (origins : OriginContract runtime.caches holds entry standsFor)
    (empty : ∀ root epoch environments slot key, ¬ shows (runtime.defaults.setEnvironments
      (runtime.defaults.newPrograms root epoch) environments) slot key)
    (nothing : ∀ root epoch environments key program, ¬ holds (runtime.defaults.setEnvironments
      (runtime.defaults.newPrograms root epoch) environments) key program)
    (builtinsVisible : ∀ size entrypoint slot, visible (runtime.defaults.newBuiltin 0 size entrypoint) slot)
    (created : MessageExecutor.new runtime.defaults runtime.caches runtime.features = .ok fresh)
    (sysvarCache : Sysvars) (data : List UInt8) {node after : Node}
    {loaded : (LoadedTransaction × Batch) × Programs}
    (success : load runtime rpc options (Simulate.programData data) { fresh with sysvarCache } slot message node =
      .ok loaded after) : ∃ keys,
    let answers := requests (fetch rpc) keys node
    let accounts := options.snapshot (Simulate.programData data) (Query.tableAnswers Account.default answers.1)
    BatchFrom runtime fresh entry standsFor (programRequest runtime slot message accounts) loaded.1.2 ∧
      ∀ program, entry loaded.1.2 options.programId program →
        ¬ ActiveBuiltin runtime.defaults.builtins runtime.features options.programId →
          program = runtime.loaders.storeTxUsageCounter (builtProgram runtime.loaders runtime.caches
            (fresh.loader accounts) (runtime.caches.currentSlot (runtime.workingSlot slot)) data bpfLoaderId
              data.length 0) 0 := by
  obtain ⟨keys, _, _, ran⟩ := loadFrom_of_load runtime _ slot message rpc options (Simulate.programData data) success
  refine ⟨keys, ?_⟩
  intro answers accounts
  obtain ⟨_, final, performed⟩ := passes_of_loadFrom runtime _ slot message ran
  have batch : BatchFrom runtime fresh entry standsFor (programRequest runtime slot message accounts) loaded.1.2 :=
    batchFrom_first contract retention origins empty nothing builtinsVisible created sysvarCache performed
  refine ⟨batch, fun program has inactive => ?_⟩
  obtain ⟨built, made, rfl⟩ := batch.made _ program has inactive
  have known : (fresh.loader accounts).g options.programId = some (Simulate.programData data) :=
    congrArg some (if_pos rfl)
  have there := made.symm.trans (loadProgram_simulated runtime.caches _ known)
  rw [Except.ok.inj there]
  rfl

end Batches

/-- The machine of listed programs behind the command. -/
def listRuntime : SimulateRuntime (List (Pubkey × DeployedProgram)) (List (Pubkey × DeployedProgram)) Unit
    DeployedProgram WorkingSlot Unit (List String) (List TransactionAccount) Unit Unit Unit Unit Unit where
  defaults := listDefaults
  loaders := listLoaders
  caches := listCaches
  processor := MessageExecutor.notingProcessor
  constructInstructionsData := plainInstructionsData
  features := []
  workingSlot := WorkingSlot.mk
  setClock sysvars _ := sysvars
  deserializeClock _ := none
  readFile _ := some [1, 2, 3]
  decode _ := some []
  newMessage instruction := ⟨[instruction.programId], [⟨0, [], instruction.data⟩]⟩

/-- The batch has the three bytes of the file, and the builtin. -/
theorem simulated_programs_file : ∃ loaded,
    load listRuntime forgetfulNode idleOptions (Simulate.programData [1, 2, 3])
        { listExecutor.val with sysvarCache := () } 7 idleMessage 1 = .ok loaded 2 ∧
      (Pubkey.filled 1, ⟨0, [1, 2, 3]⟩) ∈ loaded.1.2 ∧
      ∀ program, (Pubkey.filled 1, program) ∈ loaded.1.2 → program = ⟨0, [1, 2, 3]⟩ := by
  have success : load listRuntime forgetfulNode idleOptions (Simulate.programData [1, 2, 3])
    { listExecutor.val with sysvarCache := () } 7 idleMessage 1 = .ok _ 2 := rfl
  refine ⟨_, success, by decide, fun program has => ?_⟩
  have nothing : ∀ root epoch environments key program,
      (key, program) ∉ listDefaults.setEnvironments (listDefaults.newPrograms root epoch) environments := by
    simp [listDefaults]
  obtain ⟨keys, _, file⟩ := simulated_programs listCaches_entries listCaches_retention listCaches_origins
    listDefaults_empty nothing listDefaults_visible listExecutor.property () [1, 2, 3] success
  refine file program has ?_
  intro active
  obtain ⟨builtin, member, named, _⟩ := active
  rw [List.mem_singleton.mp member] at named
  exact absurd named (by decide)

end BpfSimulator.Cli.Simulate
