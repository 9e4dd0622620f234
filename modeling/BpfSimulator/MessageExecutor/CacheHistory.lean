import BpfSimulator.MessageExecutor.Construction
import BpfSimulator.MessageExecutor.ProgramLoaderProperties
import BpfSimulator.MessageExecutor.WorkingSlot

/-! The shared program cache over whole histories of requests. A program is
loaded from its account only while the cache does not show it at the working
slot, so builtins never are, and what an earlier request has loaded is not
loaded again where it is visible. -/

set_option autoImplicit false

namespace BpfSimulator

open Foundation AccountLoader

section History

variable {Programs Batch Environment Program WorkingSlot Sysvars Log Entrypoint : Type}

/-- What the shared cache is relied on for. At each slot it shows some keys.
Extracting leaves the searched programs that it does not show, and changes
usage counters only; replenishing adds the key where its program is visible. -/
structure RetentionContract (caches : ProgramCaches Programs Batch Environment Program WorkingSlot)
    (shows : Programs → WorkingSlot → Pubkey → Prop) (visible : Program → WorkingSlot → Prop) : Prop where
  left : ∀ cache slot searched batch ignoreUsage,
    (∀ program ∈ searched, program.2.1 = LoadedProgramMatchCriteria.noCriteria) → ∀ program ∈ searched,
      program ∈ (caches.extract cache slot searched batch ignoreUsage).2.1 ↔ ¬ shows cache slot program.1
  extracted : ∀ cache slot searched batch ignoreUsage later key,
    shows (caches.extract cache slot searched batch ignoreUsage).1 later key ↔ shows cache later key
  replenished : ∀ cache key program slot found,
    shows (caches.replenish cache key program).1 slot found ↔
      shows cache slot found ∨ key = found ∧ visible program slot

/-- A call of `replenish_program_cache` on a loader of the executor. -/
structure Request (WorkingSlot : Type) where
  g : Pubkey → Option Account
  slot : WorkingSlot
  messages : List SanitizedMessage

section Loaded

variable (loaders : ProgramLoaders Environment Program)
  (caches : ProgramCaches Programs Batch Environment Program WorkingSlot)

/-- The programs that a loader loads for the entries that the cache has left. -/
def programsOf (slot : Slot) (loader : AccountLoader Programs) (missing : List SearchedProgram) :
    List (Pubkey × Program) :=
  missing.filterMap fun entry => (loader.loadProgram loaders caches slot entry.1).toOption.map fun program =>
    (entry.1, loaders.storeTxUsageCounter program entry.2.2)

def insertAll (programs : List (Pubkey × Program)) (cache : Programs) : Programs :=
  programs.foldl (fun cache program => (caches.replenish cache program.1 program.2).1) cache

/-- The batch after loaded programs went through the cache into it. -/
def insertBatch : List (Pubkey × Program) → Programs → Batch → Batch
  | [], _, batch => batch
  | (key, program) :: rest, cache, batch =>
      insertBatch rest (caches.replenish cache key program).1
        (caches.replenishBatch batch key (caches.replenish cache key program).2.2).1

theorem programsOf_keys (slot : Slot) (loader : AccountLoader Programs) (missing : List SearchedProgram) :
    (programsOf loaders caches slot loader missing).map Prod.fst = missing.map Prod.fst := by
  induction missing with
  | nil => rfl
  | cons entry rest ih =>
      obtain ⟨program, loaded⟩ := loadProgram_total loaders caches loader slot entry.1
      have head : (loader.loadProgram loaders caches slot entry.1).toOption = some program := by
        rw [loaded]
        rfl
      simp only [programsOf, List.filterMap_cons, head, Option.map_some, List.map_cons] at ih ⊢
      rw [ih]

theorem loadMissing_programsOf (slot : Slot) (missing : List SearchedProgram) (state : Replenishing Programs) :
    missing.mapM (loadMissing loaders caches slot) state =
      .ok (programsOf loaders caches slot state.loader missing)
        { state with events := state.events ++ missing.map fun program => .loaded program.1 } := by
  induction missing generalizing state with
  | nil =>
      rw [List.map_nil, List.append_nil]
      rfl
  | cons entry rest ih =>
      obtain ⟨program, loaded⟩ := loadProgram_total loaders caches state.loader slot entry.1
      have head : loadMissing loaders caches slot entry state =
          .ok (entry.1, loaders.storeTxUsageCounter program entry.2.2)
            { state with events := state.events ++ [.loaded entry.1] } := by
        rw [loadMissing, bind_run_ok (get_run _), loaded, bind_run_ok (inspecting_ok_run _ _)]
        rfl
      rw [List.mapM_cons, bind_run_ok head, bind_run_ok (ih _), pure_run]
      simp [programsOf, loaded, Except.toOption]

theorem insertLoaded_insertAll (programs : List (Pubkey × Program)) (batch : Batch) (state : Replenishing Programs) :
    insertLoaded caches programs batch state =
      .ok (insertBatch caches programs state.loader.loadedProgramsCache batch)
        ⟨{ state.loader with loadedProgramsCache := insertAll caches programs state.loader.loadedProgramsCache },
          state.events ++ (programs.map Prod.fst).flatMap insertionEvents⟩ := by
  induction programs generalizing batch state with
  | nil =>
      rw [List.map_nil, List.flatMap_nil, List.append_nil]
      rfl
  | cons first rest ih =>
      obtain ⟨key, program⟩ := first
      let inserted := caches.replenish state.loader.loadedProgramsCache key program
      have ran := ih (caches.replenishBatch batch key inserted.2.2).1
        ⟨{ state.loader with loadedProgramsCache := inserted.1 }, state.events ++ insertionEvents key⟩
      rw [List.map_cons, List.flatMap_cons, ← List.append_assoc]
      refine Eq.trans ?_ ran
      rw [insertLoaded, bind_run_ok (get_run _)]
      dsimp only
      rw [bind_run_ok (setCache_run _ _), bind_run_ok (record_run _ _), bind_run_ok (record_run _ _)]
      simp only [insertionEvents, List.append_assoc, List.singleton_append]
      rfl

end Loaded

theorem searchProgram_plain {keys : List Pubkey} {program : SearchedProgram}
    (member : program ∈ keys.foldl searchProgram []) : program.2 = (.noCriteria, 0) := by
  have folded : keys.foldl searchProgram [] =
      (keys.map fun key => ((key, .noCriteria, 0) : SearchedProgram)).foldl (insertNew Prod.fst) [] := by
    rw [List.foldl_map]
    rfl
  rw [folded] at member
  rcases mem_foldl_insertNew member with inside | nowhere
  · obtain ⟨key, _, rfl⟩ := List.mem_map.mp inside
    rfl
  · cases nowhere

/-- Programs are searched without criteria, and not counted as used. -/
theorem searchPrograms_plain {loader : AccountLoader Programs} {messages : List SanitizedMessage}
    {searched : List SearchedProgram} (search : loader.searchPrograms messages = .ok searched) :
    ∀ program ∈ searched, program.2 = (.noCriteria, 0) := by
  rw [searchPrograms, searchMessages_eq] at search
  by_cases found : ∀ key ∈ messages.flatMap SanitizedMessage.accountKeys, loader.g key ≠ none
  · rw [searchKeys_found found] at search
    cases search
    intro program member
    change program ∈ List.foldl _ _ _ at member
    rw [← List.foldl_append] at member
    exact searchProgram_plain member
  · simp only [not_forall, ne_eq, not_not] at found
    obtain ⟨key, member, unknown⟩ := found
    rw [searchKeys_missing ⟨key, member, unknown⟩] at search
    cases search

section Requests

variable (loaders : ProgramLoaders Environment Program)
  (caches : ProgramCaches Programs Batch Environment Program WorkingSlot)

/-- `executor.loader(g).replenish_program_cache(&slot, messages)`. -/
def Request.perform (request : Request WorkingSlot) (executor : MessageExecutor Programs Sysvars Log) :
    EStateM.Result LoadError (Replenishing Programs) Batch :=
  replenishProgramCache loaders caches request.slot request.messages ⟨executor.loader request.g, []⟩

/-- The executor after a request: its loader works on the cache of the executor. -/
def requested (request : Request WorkingSlot) (executor : MessageExecutor Programs Sysvars Log) :
    MessageExecutor Programs Sysvars Log :=
  { executor with
    loadedPrograms := (stateAfter (request.perform loaders caches executor)).loader.loadedProgramsCache }

/-- The programs that a request loads from accounts. -/
def newlyLoaded (request : Request WorkingSlot) (executor : MessageExecutor Programs Sysvars Log) :
    List (Pubkey × Program) :=
  let loader := executor.loader request.g
  match loader.searchPrograms request.messages with
  | .error _ => []
  | .ok searched =>
      let slot := caches.currentSlot request.slot
      let batch := caches.newBatch slot (caches.environments executor.loadedPrograms)
      let (loadedProgramsCache, missing, _) := caches.extract executor.loadedPrograms request.slot searched batch false
      programsOf loaders caches slot { loader with loadedProgramsCache } missing

/-- The programs that a history of requests loads from accounts, in order. -/
def loadedOver : List (Request WorkingSlot) → MessageExecutor Programs Sysvars Log → List (Pubkey × Program)
  | [], _ => []
  | request :: rest, executor =>
      newlyLoaded loaders caches request executor ++ loadedOver rest (requested loaders caches request executor)

variable {loaders caches} {shows : Programs → WorkingSlot → Pubkey → Prop} {visible : Program → WorkingSlot → Prop}
  {request : Request WorkingSlot} {executor : MessageExecutor Programs Sysvars Log}

theorem insertAll_shows (retention : RetentionContract caches shows visible) (programs : List (Pubkey × Program))
    (cache : Programs) (slot : WorkingSlot) (key : Pubkey) :
    shows (insertAll caches programs cache) slot key ↔
      shows cache slot key ∨ ∃ program ∈ programs, program.1 = key ∧ visible program.2 slot := by
  induction programs generalizing cache with
  | nil => simp [insertAll]
  | cons program rest ih =>
      rw [insertAll, List.foldl_cons, ← insertAll, ih, retention.replenished]
      simp [or_assoc]

variable (loaders caches executor) in
theorem perform_missing (unknown : ∃ message ∈ request.messages, ∃ key ∈ message.accountKeys, request.g key = none) :
    request.perform loaders caches executor =
        .error (.transaction .accountNotFound) ⟨executor.loader request.g, []⟩ ∧
      requested loaders caches request executor = executor ∧ newlyLoaded loaders caches request executor = [] := by
  have failed : request.perform loaders caches executor =
      .error (.transaction .accountNotFound) ⟨executor.loader request.g, []⟩ := replenish_missing loaders unknown
  refine ⟨failed, ?_, ?_⟩
  · rw [requested, failed]
    rfl
  · have search : (executor.loader request.g).searchPrograms request.messages =
        .error (.transaction .accountNotFound) := searchPrograms_missing unknown
    simp only [newlyLoaded, search]

theorem newlyLoaded_found {searched : List SearchedProgram}
    (search : (executor.loader request.g).searchPrograms request.messages = .ok searched) :
    let extracted := caches.extract executor.loadedPrograms request.slot searched
      (caches.newBatch (caches.currentSlot request.slot) (caches.environments executor.loadedPrograms)) false
    newlyLoaded loaders caches request executor = programsOf loaders caches (caches.currentSlot request.slot)
      { executor.loader request.g with loadedProgramsCache := extracted.1 } extracted.2.1 := by
  simp only [newlyLoaded, search]

variable (loaders caches) in
theorem perform_found {searched : List SearchedProgram}
    (search : (executor.loader request.g).searchPrograms request.messages = .ok searched) :
    let extracted := caches.extract executor.loadedPrograms request.slot searched
      (caches.newBatch (caches.currentSlot request.slot) (caches.environments executor.loadedPrograms)) false
    let loaded := newlyLoaded loaders caches request executor
    request.perform loaders caches executor = .ok (insertBatch caches loaded extracted.1 extracted.2.2)
        ⟨{ executor.loader request.g with loadedProgramsCache := insertAll caches loaded extracted.1 },
          .batchCreated :: .extracted (searched.map Prod.fst) :: (loaded.map Prod.fst).map .loaded ++
            (loaded.map Prod.fst).flatMap insertionEvents⟩ ∧
      loaded.map Prod.fst = extracted.2.1.map Prod.fst := by
  intro extracted loaded
  have programs : loaded = programsOf loaders caches (caches.currentSlot request.slot)
      { executor.loader request.g with loadedProgramsCache := extracted.1 } extracted.2.1 := newlyLoaded_found search
  have keys : loaded.map Prod.fst = extracted.2.1.map Prod.fst := by
    rw [programs, programsOf_keys]
  let middle : Replenishing Programs := ⟨{ executor.loader request.g with loadedProgramsCache := extracted.1 },
    [.batchCreated] ++ [.extracted (searched.map Prod.fst)]⟩
  have loadedAll := loadMissing_programsOf loaders caches (caches.currentSlot request.slot) extracted.2.1 middle
  rw [← programs] at loadedAll
  have inserted := insertLoaded_insertAll caches loaded extracted.2.2
    { middle with events := middle.events ++ extracted.2.1.map fun program => .loaded program.1 }
  refine ⟨?_, keys⟩
  rw [Request.perform, replenishProgramCache, bind_run_ok (get_run _)]
  dsimp only
  rw [search, bind_run_ok (inspecting_ok_run _ _), bind_run_ok (get_run _), bind_run_ok (record_run _ _),
    bind_run_ok (get_run _)]
  dsimp only
  rw [bind_run_ok (setCache_run _ _), bind_run_ok (record_run _ _)]
  refine (bind_run_ok loadedAll).trans (inserted.trans ?_)
  rw [keys]
  simp [middle]

variable (request executor) in
/-- A request either misses an account and does nothing, or goes through. -/
theorem request_cases : (∃ message ∈ request.messages, ∃ key ∈ message.accountKeys, request.g key = none) ∨
    (∀ message ∈ request.messages, ∀ key ∈ message.accountKeys, request.g key ≠ none) ∧
      ∃ searched, (executor.loader request.g).searchPrograms request.messages = .ok searched ∧
        searched.map Prod.fst = (searchedKeys (executor.loader request.g) request.messages).sort (· ≤ ·) := by
  by_cases found : ∀ message ∈ request.messages, ∀ key ∈ message.accountKeys, request.g key ≠ none
  · exact .inr ⟨found, searchPrograms_found found⟩
  · simp only [not_forall, ne_eq, not_not] at found
    obtain ⟨message, inside, key, named, unknown⟩ := found
    exact .inl ⟨message, inside, key, named, unknown⟩

theorem requested_shows (retention : RetentionContract caches shows visible) (slot : WorkingSlot) (key : Pubkey) :
    shows (requested loaders caches request executor).loadedPrograms slot key ↔
      shows executor.loadedPrograms slot key ∨
        ∃ program ∈ newlyLoaded loaders caches request executor, program.1 = key ∧ visible program.2 slot := by
  rcases request_cases request executor with unknown | ⟨_, searched, search, _⟩
  · obtain ⟨_, same, nothing⟩ := perform_missing loaders caches executor unknown
    rw [same, nothing]
    simp
  · have ran := (perform_found loaders caches search).1
    rw [requested, ran, stateAfter_ok, insertAll_shows retention, retention.extracted]

/-- A request loads exactly the needed programs that the cache does not show, each once. -/
theorem mem_newlyLoaded {hasEntry : Batch → Pubkey → Prop} (contract : CacheContract caches hasEntry)
    (retention : RetentionContract caches shows visible) :
    ((newlyLoaded loaders caches request executor).map Prod.fst).Nodup ∧
      ∀ key, key ∈ (newlyLoaded loaders caches request executor).map Prod.fst ↔
        (∀ message ∈ request.messages, ∀ key ∈ message.accountKeys, request.g key ≠ none) ∧
          key ∈ searchedKeys (executor.loader request.g) request.messages ∧
          ¬ shows executor.loadedPrograms request.slot key := by
  rcases request_cases request executor with unknown | ⟨found, searched, search, keys⟩
  · obtain ⟨_, _, nothing⟩ := perform_missing loaders caches executor unknown
    rw [nothing]
    refine ⟨List.nodup_nil, fun key => iff_of_false List.not_mem_nil ?_⟩
    intro needed
    obtain ⟨message, inside, missing, named, absent⟩ := unknown
    exact needed.1 message inside missing named absent
  · rw [(perform_found loaders caches search).2]
    have sublist := contract.left executor.loadedPrograms request.slot searched
      (caches.newBatch (caches.currentSlot request.slot) (caches.environments executor.loadedPrograms)) false
    have shown := retention.left executor.loadedPrograms request.slot searched
      (caches.newBatch (caches.currentSlot request.slot) (caches.environments executor.loadedPrograms)) false
      fun program member => congrArg Prod.fst (searchPrograms_plain search program member)
    have nodup : (searched.map Prod.fst).Nodup := keys ▸ Finset.sort_nodup _ _
    refine ⟨(sublist.map Prod.fst).nodup nodup, fun key => ?_⟩
    have needed : key ∈ searchedKeys (executor.loader request.g) request.messages ↔ key ∈ searched.map Prod.fst := by
      rw [keys, Finset.mem_sort]
    rw [needed, and_iff_right found]
    constructor
    · intro member
      obtain ⟨program, inside, rfl⟩ := List.mem_map.mp member
      have searchedToo := sublist.subset inside
      exact ⟨List.mem_map_of_mem searchedToo, (shown program searchedToo).mp inside⟩
    · intro both
      obtain ⟨member, unseen⟩ := both
      obtain ⟨program, inside, rfl⟩ := List.mem_map.mp member
      exact List.mem_map_of_mem ((shown program inside).mpr unseen)

theorem shows_history (retention : RetentionContract caches shows visible) (history : List (Request WorkingSlot))
    (executor : MessageExecutor Programs Sysvars Log) (slot : WorkingSlot) (key : Pubkey) :
    shows (runHistory (requested loaders caches) history executor).loadedPrograms slot key ↔
      shows executor.loadedPrograms slot key ∨
        ∃ program ∈ loadedOver loaders caches history executor, program.1 = key ∧ visible program.2 slot := by
  induction history generalizing executor with
  | nil => simp [loadedOver]
  | cons request rest ih =>
      rw [runHistory_cons, ih, requested_shows retention, loadedOver, or_assoc]
      simp only [List.mem_append, or_and_right, exists_or]

/-- What a history loads was not shown to one of its requests before. -/
theorem unshown_of_loadedOver {hasEntry : Batch → Pubkey → Prop} (contract : CacheContract caches hasEntry)
    (retention : RetentionContract caches shows visible) {history : List (Request WorkingSlot)}
    {executor : MessageExecutor Programs Sysvars Log} {key : Pubkey}
    (loaded : key ∈ (loadedOver loaders caches history executor).map Prod.fst) :
    ∃ request ∈ history, ¬ shows executor.loadedPrograms request.slot key := by
  induction history generalizing executor with
  | nil => cases loaded
  | cons request rest ih =>
      rw [loadedOver, List.map_append, List.mem_append] at loaded
      rcases loaded with now | later
      · exact ⟨request, .head _, (((mem_newlyLoaded contract retention).2 key).mp now).2.2⟩
      · obtain ⟨other, member, unseen⟩ := ih later
        exact ⟨other, .tail _ member, fun shown => unseen ((requested_shows retention _ _).mpr (.inl shown))⟩

/-- Programs that stay visible are loaded once. -/
theorem loadedOver_nodup {hasEntry : Batch → Pubkey → Prop} (contract : CacheContract caches hasEntry)
    (retention : RetentionContract caches shows visible) {history : List (Request WorkingSlot)}
    {executor : MessageExecutor Programs Sysvars Log}
    (stay : ∀ program ∈ loadedOver loaders caches history executor, ∀ request ∈ history,
      visible program.2 request.slot) :
    ((loadedOver loaders caches history executor).map Prod.fst).Nodup := by
  induction history generalizing executor with
  | nil => exact List.nodup_nil
  | cons request rest ih =>
      simp only [loadedOver, List.mem_append] at stay
      rw [loadedOver, List.map_append, List.nodup_append]
      refine ⟨(mem_newlyLoaded contract retention).1, ih fun program member later inside =>
        stay program (.inr member) later (.tail _ inside), ?_⟩
      intro key now other later same
      subst same
      obtain ⟨program, member, rfl⟩ := List.mem_map.mp now
      obtain ⟨again, inside, unseen⟩ := unshown_of_loadedOver contract retention later
      exact unseen ((requested_shows retention _ _).mpr
        (.inr ⟨program, member, rfl, stay program (.inl member) again (.tail _ inside)⟩))

end Requests

section Created

/-- The builtin has no feature, or one that is enabled. -/
def Enabled (enabledFeatures : List Pubkey) (builtin : BuiltinPrototype Entrypoint) : Prop :=
  ∀ feature, builtin.featureId = some feature → feature ∈ enabledFeatures

def ActiveBuiltin (builtins : List (BuiltinPrototype Entrypoint)) (enabledFeatures : List Pubkey) (key : Pubkey) : Prop :=
  ∃ builtin ∈ builtins, builtin.programId = key ∧ Enabled enabledFeatures builtin

/-- What an executor has of its construction, and keeps over all requests. -/
structure ServesFeatures (builtins : List (BuiltinPrototype Entrypoint)) (enabledFeatures : List Pubkey)
    (executor : MessageExecutor Programs Sysvars Log) : Prop where
  featureSet : ∀ feature, feature ∈ executor.featureSet.active ↔ feature ∈ enabledFeatures
  programOwners : ∀ key, key ∈ executor.programOwners.keys ↔
    key ∈ [loaderV4Id, bpfLoaderUpgradeableId, bpfLoaderId, bpfLoaderDeprecatedId]
  builtinPrograms : ∀ key, key ∈ executor.builtinPrograms.keys ↔ ActiveBuiltin builtins enabledFeatures key

variable {caches : ProgramCaches Programs Batch Environment Program WorkingSlot}
  {defaults : ExecutorDefaults Programs Environment Program Sysvars Log Entrypoint}
  {shows : Programs → WorkingSlot → Pubkey → Prop} {visible : Program → WorkingSlot → Prop}

/-- What adding builtins to an executor does. -/
structure Added (shows : Programs → WorkingSlot → Pubkey → Prop) (added : Pubkey → Prop)
    (before after : MessageExecutor Programs Sysvars Log) : Prop where
  featureSet : after.featureSet = before.featureSet
  programOwners : after.programOwners = before.programOwners
  builtinPrograms : ∀ key, key ∈ after.builtinPrograms.keys ↔ key ∈ before.builtinPrograms.keys ∨ added key
  shown : ∀ slot key, shows after.loadedPrograms slot key ↔ shows before.loadedPrograms slot key ∨ added key

theorem enabled_iff {features : FeatureSet} {enabledFeatures : List Pubkey}
    (active : ∀ feature, feature ∈ features.active ↔ feature ∈ enabledFeatures) (builtin : BuiltinPrototype Entrypoint) :
    (builtin.featureId.map features.isActive).getD true = true ↔ Enabled enabledFeatures builtin := by
  unfold Enabled
  cases builtin.featureId <;> simp [FeatureSet.isActive, active]

theorem addBuiltin_added (retention : RetentionContract caches shows visible)
    (builtinsVisible : ∀ size entrypoint slot, visible (defaults.newBuiltin 0 size entrypoint) slot)
    {enabledFeatures : List Pubkey} {executor : MessageExecutor Programs Sysvars Log}
    (features : ∀ feature, feature ∈ executor.featureSet.active ↔ feature ∈ enabledFeatures)
    (builtin : BuiltinPrototype Entrypoint) :
    Added shows (fun key => builtin.programId = key ∧ Enabled enabledFeatures builtin) executor
      (MessageExecutor.addBuiltin defaults caches executor builtin) := by
  unfold MessageExecutor.addBuiltin
  by_cases enabled : Enabled enabledFeatures builtin
  · rw [if_pos ((enabled_iff features builtin).mpr enabled)]
    refine ⟨rfl, rfl, fun key => ?_, fun slot key => ?_⟩
    · rw [KeySet.mem_insert, and_iff_left enabled, eq_comm]
    · rw [retention.replenished, and_iff_left enabled, and_iff_left (builtinsVisible _ _ _)]
  · rw [if_neg fun active => enabled ((enabled_iff features builtin).mp active)]
    exact ⟨rfl, rfl, by simp [enabled], by simp [enabled]⟩

theorem addBuiltins_added (retention : RetentionContract caches shows visible)
    (builtinsVisible : ∀ size entrypoint slot, visible (defaults.newBuiltin 0 size entrypoint) slot)
    {enabledFeatures : List Pubkey} {builtins : List (BuiltinPrototype Entrypoint)}
    {executor : MessageExecutor Programs Sysvars Log}
    (features : ∀ feature, feature ∈ executor.featureSet.active ↔ feature ∈ enabledFeatures) :
    Added shows (ActiveBuiltin builtins enabledFeatures) executor
      (builtins.foldl (MessageExecutor.addBuiltin defaults caches) executor) := by
  induction builtins generalizing executor with
  | nil => exact ⟨rfl, rfl, by simp [ActiveBuiltin], by simp [ActiveBuiltin]⟩
  | cons builtin rest ih =>
      have first := addBuiltin_added retention builtinsVisible features builtin
      have later := ih (first.featureSet ▸ features)
      have split (key : Pubkey) : ActiveBuiltin (builtin :: rest) enabledFeatures key ↔
          (builtin.programId = key ∧ Enabled enabledFeatures builtin) ∨ ActiveBuiltin rest enabledFeatures key := by
        simp [ActiveBuiltin]
      refine ⟨later.featureSet.trans first.featureSet, later.programOwners.trans first.programOwners, ?_, ?_⟩
      · intro key
        rw [List.foldl_cons, later.builtinPrograms, first.builtinPrograms, split, or_assoc]
      · intro slot key
        rw [List.foldl_cons, later.shown, first.shown, split, or_assoc]

theorem new_serves (retention : RetentionContract caches shows visible)
    (empty : ∀ root epoch environments slot key,
      ¬ shows (defaults.setEnvironments (defaults.newPrograms root epoch) environments) slot key)
    (builtinsVisible : ∀ size entrypoint slot, visible (defaults.newBuiltin 0 size entrypoint) slot)
    {enabledFeatures : List Pubkey} {executor : MessageExecutor Programs Sysvars Log}
    (created : MessageExecutor.new defaults caches enabledFeatures = .ok executor) :
    ServesFeatures defaults.builtins enabledFeatures executor ∧
      ∀ slot key, shows executor.loadedPrograms slot key ↔ ActiveBuiltin defaults.builtins enabledFeatures key := by
  obtain ⟨start, bare, rfl⟩ := MessageExecutor.new_cases created
  have features (feature : Pubkey) : feature ∈ start.featureSet.active ↔ feature ∈ enabledFeatures := by
    rw [bare.featureSet, FeatureSet.mem_activate]
    simp [FeatureSet.default]
  have added : Added shows (ActiveBuiltin defaults.builtins enabledFeatures) start
      (defaults.builtins.foldl (MessageExecutor.addBuiltin defaults caches) start) :=
    addBuiltins_added retention builtinsVisible features
  refine ⟨⟨fun feature => ?_, fun key => ?_, fun key => ?_⟩, fun slot key => ?_⟩
  · exact added.featureSet ▸ features feature
  · rw [added.programOwners, bare.programOwners, KeySet.mem_ofList]
  · refine (added.builtinPrograms key).trans (or_iff_right ?_)
    rw [bare.builtinPrograms]
    exact List.not_mem_nil
  · obtain ⟨environments, started⟩ := bare.loadedPrograms
    refine (added.shown slot key).trans (or_iff_right ?_)
    rw [started]
    exact empty _ _ _ _ _

variable {loaders : ProgramLoaders Environment Program}

theorem serves_history {builtins : List (BuiltinPrototype Entrypoint)} {enabledFeatures : List Pubkey}
    (history : List (Request WorkingSlot)) {executor : MessageExecutor Programs Sysvars Log}
    (serves : ServesFeatures builtins enabledFeatures executor) :
    ServesFeatures builtins enabledFeatures (runHistory (requested loaders caches) history executor) := by
  refine runHistory_invariant (ServesFeatures builtins enabledFeatures) ?_ history serves
  intro request before serves
  exact ⟨serves.featureSet, serves.programOwners, serves.builtinPrograms⟩

/-- A key of the messages whose account is owned by one of the four program loaders. -/
def NeedsLoading (request : Request WorkingSlot) (key : Pubkey) : Prop :=
  ∃ message ∈ request.messages, key ∈ message.accountKeys ∧ ∃ account, request.g key = some account ∧
    account.owner ∈ [loaderV4Id, bpfLoaderUpgradeableId, bpfLoaderId, bpfLoaderDeprecatedId]

theorem ServesFeatures.mem_searchedKeys {builtins : List (BuiltinPrototype Entrypoint)} {enabledFeatures : List Pubkey}
    {executor : MessageExecutor Programs Sysvars Log} (serves : ServesFeatures builtins enabledFeatures executor)
    (request : Request WorkingSlot) (key : Pubkey) :
    key ∈ searchedKeys (executor.loader request.g) request.messages ↔
      NeedsLoading request key ∨ ActiveBuiltin builtins enabledFeatures key := by
  rw [AccountLoader.mem_searchedKeys]
  simp only [MessageExecutor.loader, serves.builtinPrograms, serves.programOwners]
  rfl

variable (loaders) in
/-- An executor created for a set of features loads programs lazily and keeps
them. After any history of requests, the next one either misses an account and
changes nothing, or loads exactly the programs of its messages that are no
active builtin and that no earlier request loaded as visible at its slot; its
batch has these, the ones found in the cache and the active builtins. Programs
that stay visible are loaded once. -/
theorem programs_loaded_once {hasEntry : Batch → Pubkey → Prop} (contract : CacheContract caches hasEntry)
    (retention : RetentionContract caches shows visible)
    (empty : ∀ root epoch environments slot key,
      ¬ shows (defaults.setEnvironments (defaults.newPrograms root epoch) environments) slot key)
    (builtinsVisible : ∀ size entrypoint slot, visible (defaults.newBuiltin 0 size entrypoint) slot)
    {enabledFeatures : List Pubkey} {fresh : MessageExecutor Programs Sysvars Log}
    (created : MessageExecutor.new defaults caches enabledFeatures = .ok fresh)
    (history : List (Request WorkingSlot)) (request : Request WorkingSlot) :
    let executor := runHistory (requested loaders caches) history fresh
    let before := loadedOver loaders caches history fresh
    let loaded := (newlyLoaded loaders caches request executor).map Prod.fst
    ((∃ message ∈ request.messages, ∃ key ∈ message.accountKeys, request.g key = none) →
      request.perform loaders caches executor =
          .error (.transaction .accountNotFound) ⟨executor.loader request.g, []⟩ ∧
        requested loaders caches request executor = executor) ∧
      ((∀ message ∈ request.messages, ∀ key ∈ message.accountKeys, request.g key ≠ none) →
        (∃ batch final searched, request.perform loaders caches executor = .ok batch final ∧
          final.events = .batchCreated :: .extracted searched :: loaded.map .loaded ++ loaded.flatMap insertionEvents ∧
          ∀ key, hasEntry batch key ↔
            NeedsLoading request key ∨ ActiveBuiltin defaults.builtins enabledFeatures key) ∧
        loaded.Nodup ∧ ∀ key, key ∈ loaded ↔ NeedsLoading request key ∧
          ¬ ActiveBuiltin defaults.builtins enabledFeatures key ∧
          ¬ ∃ program ∈ before, program.1 = key ∧ visible program.2 request.slot) ∧
      ((∀ program ∈ before, ∀ earlier ∈ history, visible program.2 earlier.slot) → (before.map Prod.fst).Nodup) := by
  intro executor before loaded
  obtain ⟨servesFresh, shownFresh⟩ := new_serves retention empty builtinsVisible created
  have serves : ServesFeatures defaults.builtins enabledFeatures executor := serves_history history servesFresh
  refine ⟨fun unknown => ?_, fun found => ⟨?_, ?_⟩, loadedOver_nodup contract retention⟩
  · obtain ⟨failed, same, _⟩ := perform_missing loaders caches executor unknown
    exact ⟨failed, same⟩
  · obtain ⟨searched, search, keys⟩ := @searchPrograms_found _ (executor.loader request.g) request.messages found
    have ran := (perform_found loaders caches search).1
    obtain ⟨batch, cache, sameRan, entries⟩ := replenish_found loaders [] search
    refine ⟨_, _, _, ran, rfl, fun key => ?_⟩
    rw [(EStateM.Result.ok.inj (ran.symm.trans sameRan)).1, entries hasEntry contract, keys, Finset.mem_sort,
      serves.mem_searchedKeys]
  · obtain ⟨once, members⟩ := mem_newlyLoaded contract retention
    refine ⟨once, fun key => ?_⟩
    rw [members, and_iff_right found, serves.mem_searchedKeys, shows_history retention, shownFresh, not_or]
    constructor
    · intro unseen
      obtain ⟨needed, notBuiltin, notLoaded⟩ := unseen
      exact ⟨needed.resolve_right notBuiltin, notBuiltin, notLoaded⟩
    · intro unseen
      exact ⟨.inl unseen.1, unseen.2⟩

end Created

end History

/-- A program by its slot and its code. -/
structure DeployedProgram where
  deploymentSlot : Slot
  code : List UInt8
  deriving DecidableEq

/-- Visible is what was deployed up to the root or before the working slot. -/
def DeployedProgram.visible (program : DeployedProgram) (slot : WorkingSlot) : Bool :=
  decide (program.deploymentSlot ≤ defaultSlotsPerEpoch) || slot.isAncestor program.deploymentSlot

/-- What a cache shows of a key: the visible program that came last. -/
def cached (cache : List (Pubkey × DeployedProgram)) (slot : WorkingSlot) (key : Pubkey) :
    Option (Pubkey × DeployedProgram) :=
  cache.find? fun entry => decide (entry.1 = key) && entry.2.visible slot

/-- Caches and batches that list their programs. -/
def listCaches : ProgramCaches (List (Pubkey × DeployedProgram)) (List (Pubkey × DeployedProgram)) Unit DeployedProgram
    WorkingSlot where
  currentSlot := WorkingSlot.currentSlot
  environments _ := ⟨(), ()⟩
  getEnvironmentsForEpoch _ _ := ⟨(), ()⟩
  newBatch _ _ := []
  extract cache slot searched batch _ :=
    (cache, searched.filter fun program => (cached cache slot program.1).isNone,
      batch ++ searched.filterMap fun program => cached cache slot program.1)
  replenish cache key program := ((key, program) :: cache, false, program)
  replenishBatch batch key program := ((key, program) :: batch, false, program)

theorem cached_eq_some {cache : List (Pubkey × DeployedProgram)} {slot : WorkingSlot} {key : Pubkey}
    {entry : Pubkey × DeployedProgram} (found : cached cache slot key = some entry) : entry ∈ cache ∧ entry.1 = key := by
  have holds := List.find?_some found
  simp only [Bool.and_eq_true, decide_eq_true_eq] at holds
  exact ⟨List.mem_of_find?_eq_some found, holds.1⟩

theorem listCaches_retention : RetentionContract listCaches (fun cache slot key => (cached cache slot key).isSome = true)
    (fun program slot => program.visible slot = true) where
  left cache slot searched batch _ _ program member := by simp [listCaches, member]
  extracted _ _ _ _ _ _ _ := Iff.rfl
  replenished cache key program slot found := by simp [listCaches, cached, or_comm]

theorem listCaches_contract : CacheContract listCaches fun batch key => key ∈ batch.map Prod.fst where
  newBatch _ _ _ := List.not_mem_nil
  left _ _ _ _ _ := List.filter_sublist
  moved cache slot searched batch _ key := by
    simp only [listCaches, List.map_append, List.mem_append]
    refine or_congr_right ⟨?_, ?_⟩
    · intro moved
      obtain ⟨entry, inside, rfl⟩ := List.mem_map.mp moved
      obtain ⟨program, member, found⟩ := List.mem_filterMap.mp inside
      rw [(cached_eq_some found).2]
      refine ⟨List.mem_map_of_mem member, ?_⟩
      intro left
      obtain ⟨other, unseen, same⟩ := List.mem_map.mp left
      have absent := (List.mem_filter.mp unseen).2
      rw [same, found] at absent
      cases absent
    · intro moved
      obtain ⟨program, member, rfl⟩ := List.mem_map.mp moved.1
      cases found : cached cache slot program.1 with
      | none =>
          refine absurd (List.mem_map_of_mem (List.mem_filter.mpr ⟨member, ?_⟩)) moved.2
          rw [found]
          rfl
      | some entry =>
          rw [← (cached_eq_some found).2]
          exact List.mem_map_of_mem (List.mem_filterMap.mpr ⟨program, member, found⟩)
  added _ _ _ _ := List.mem_cons

/-- Loaders that take every program. -/
def listLoaders : ProgramLoaders Unit DeployedProgram where
  getState _ := none
  state _ := none
  loadProgramFromBytes _ programdata _ _ deploymentSlot _ _ := .ok ⟨deploymentSlot, programdata⟩
  new _ _ deploymentSlot _ _ elfBytes _ := some ⟨deploymentSlot, elfBytes⟩
  reload _ _ deploymentSlot _ _ elfBytes _ := some ⟨deploymentSlot, elfBytes⟩
  newTombstone slot _ := ⟨slot, []⟩
  storeTxUsageCounter program _ := program

def listDefaults : ExecutorDefaults (List (Pubkey × DeployedProgram)) Unit DeployedProgram Unit (List String) Unit where
  builtins := [⟨none, .filled 3, "builtin", ()⟩]
  newPrograms _ _ := []
  setEnvironments cache _ := cache
  environmentV1 _ := some ()
  environmentV2 := ()
  newBuiltin deploymentSlot _ _ := ⟨deploymentSlot, []⟩
  sysvarCache := ()
  newLog := []

theorem listDefaults_empty (root epoch : UInt64) (environments : ProgramRuntimeEnvironments Unit) (slot : WorkingSlot)
    (key : Pubkey) :
    ¬ (cached (listDefaults.setEnvironments (listDefaults.newPrograms root epoch) environments) slot key).isSome = true := by
  simp [listDefaults, cached]

theorem listDefaults_visible (size : Nat) (entrypoint : Unit) (slot : WorkingSlot) :
    (listDefaults.newBuiltin 0 size entrypoint).visible slot = true := by
  simp [listDefaults, DeployedProgram.visible]

/-- A message with a program of the second loader, of the given code, and the builtin. -/
def loaderRequest (slot : Slot) (code : List UInt8) : Request WorkingSlot where
  g _ := some { Account.default with owner := bpfLoaderId, data := code }
  slot := ⟨slot⟩
  messages := [⟨[.filled 4, .filled 3], []⟩]

def listExecutor : { fresh : MessageExecutor (List (Pubkey × DeployedProgram)) Unit (List String) //
    MessageExecutor.new listDefaults listCaches [] = .ok fresh } := ⟨_, rfl⟩

/-- The second of two requests finds in the cache what the first has loaded. -/
theorem programs_loaded_once_twice :
    let reached := requested listLoaders listCaches (loaderRequest 7 [1]) listExecutor.val
    newlyLoaded listLoaders listCaches (loaderRequest 7 [1]) listExecutor.val = [(.filled 4, ⟨0, [1]⟩)] ∧
      newlyLoaded listLoaders listCaches (loaderRequest 9 [2]) reached = [] := by
  have first : newlyLoaded listLoaders listCaches (loaderRequest 7 [1]) listExecutor.val =
      [(.filled 4, ⟨0, [1]⟩)] := by decide
  obtain ⟨_, found, _⟩ := programs_loaded_once listLoaders listCaches_contract listCaches_retention listDefaults_empty
    listDefaults_visible listExecutor.property [loaderRequest 7 [1]] (loaderRequest 9 [2])
  obtain ⟨_, _, members⟩ := found fun _ _ _ _ => Option.some_ne_none _
  refine ⟨first, List.eq_nil_iff_forall_not_mem.mpr fun program member => ?_⟩
  obtain ⟨needed, notBuiltin, notLoaded⟩ := (members program.1).mp (List.mem_map_of_mem member)
  obtain ⟨message, inside, named, _⟩ := needed
  obtain rfl := List.mem_singleton.mp inside
  rcases List.mem_cons.mp named with same | rest
  · refine notLoaded ⟨(.filled 4, ⟨0, [1]⟩), ?_, same.symm, by decide⟩
    rw [loadedOver, first]
    exact .head _
  · refine notBuiltin ⟨_, .head _, (List.mem_singleton.mp rest).symm, ?_⟩
    simp [Enabled]

end BpfSimulator
