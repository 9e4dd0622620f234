import BpfSimulator.MessageExecutor.CacheHistory

/-! Where the programs of a batch come from. Whatever was requested before, a
batch has for a key what was made from the accounts of that key, or the builtin;
and where the cache shows what an earlier request has loaded, the accounts of the
current request are not looked at. -/

set_option autoImplicit false

namespace BpfSimulator

open Foundation AccountLoader

section Origins

variable {Programs Batch Environment Program WorkingSlot Sysvars Log Entrypoint : Type}

/-- What the caches are relied on for, up to usage counters. `holds` and `entry`
tell the programs that a cache and a batch have for a key. They have what was
put in; a cache gives out for a key what it holds for it, or what stands for
that at a slot where it is not effective yet. -/
structure OriginContract (caches : ProgramCaches Programs Batch Environment Program WorkingSlot)
    (holds : Programs → Pubkey → Program → Prop) (entry : Batch → Pubkey → Program → Prop)
    (standsFor : WorkingSlot → Program → Program → Prop) : Prop where
  newBatch : ∀ slot environments key program, ¬ entry (caches.newBatch slot environments) key program
  kept : ∀ cache slot searched batch ignoreUsage key program,
    holds (caches.extract cache slot searched batch ignoreUsage).1 key program → holds cache key program
  moved : ∀ cache slot searched batch ignoreUsage key program,
    entry (caches.extract cache slot searched batch ignoreUsage).2.2 key program →
      entry batch key program ∨ ∃ held, holds cache key held ∧ standsFor slot program held
  inserted : ∀ cache key program found held,
    holds (caches.replenish cache key program).1 found held → holds cache found held ∨ found = key ∧ held = program
  returned : ∀ cache key program,
    (caches.replenish cache key program).2.2 = program ∨ holds cache key (caches.replenish cache key program).2.2
  added : ∀ batch key program found other,
    entry (caches.replenishBatch batch key program).1 found other → entry batch found other ∨ found = key ∧ other = program
  extractedEnvironments : ∀ cache slot searched batch ignoreUsage epoch,
    caches.getEnvironmentsForEpoch (caches.extract cache slot searched batch ignoreUsage).1 epoch =
      caches.getEnvironmentsForEpoch cache epoch
  insertedEnvironments : ∀ cache key program epoch,
    caches.getEnvironmentsForEpoch (caches.replenish cache key program).1 epoch =
      caches.getEnvironmentsForEpoch cache epoch

section Held

variable {caches : ProgramCaches Programs Batch Environment Program WorkingSlot}
  {holds : Programs → Pubkey → Program → Prop} {entry : Batch → Pubkey → Program → Prop}
  {standsFor : WorkingSlot → Program → Program → Prop}

theorem insertAll_holds (origins : OriginContract caches holds entry standsFor) {programs : List (Pubkey × Program)}
    {cache : Programs} {key : Pubkey} {program : Program} (held : holds (insertAll caches programs cache) key program) :
    holds cache key program ∨ (key, program) ∈ programs := by
  induction programs generalizing cache with
  | nil => exact .inl held
  | cons first rest ih =>
      rw [insertAll, List.foldl_cons, ← insertAll] at held
      rcases ih held with before | later
      · rcases origins.inserted _ _ _ _ _ before with already | now
        · exact .inl already
        · obtain ⟨rfl, rfl⟩ := now
          exact .inr (.head _)
      · exact .inr (.tail _ later)

/-- A batch gets loaded programs, or others that the cache has for their keys. -/
theorem insertBatch_entry (origins : OriginContract caches holds entry standsFor) {programs : List (Pubkey × Program)}
    {cache : Programs} {batch : Batch} {key : Pubkey} {program : Program}
    (has : entry (insertBatch caches programs cache batch) key program) :
    entry batch key program ∨
      key ∈ programs.map Prod.fst ∧ ((key, program) ∈ programs ∨ holds cache key program) := by
  induction programs generalizing cache batch with
  | nil => exact .inl has
  | cons first rest ih =>
      obtain ⟨inserted, loaded⟩ := first
      rcases ih has with before | later
      · rcases origins.added _ _ _ _ _ before with already | now
        · exact .inl already
        · obtain ⟨rfl, rfl⟩ := now
          refine .inr ⟨.head _, ?_⟩
          rcases origins.returned cache key loaded with same | other
          · rw [same]
            exact .inl (.head _)
          · exact .inr other
      · obtain ⟨named, origin⟩ := later
        refine .inr ⟨.tail _ named, ?_⟩
        rcases origin with member | held
        · exact .inl (.tail _ member)
        · rcases origins.inserted _ _ _ _ _ held with already | now
          · exact .inr already
          · obtain ⟨rfl, rfl⟩ := now
            exact .inl (.head _)

theorem insertAll_environmentsForEpoch (origins : OriginContract caches holds entry standsFor)
    (programs : List (Pubkey × Program)) (cache : Programs) (epoch : UInt64) :
    caches.getEnvironmentsForEpoch (insertAll caches programs cache) epoch =
      caches.getEnvironmentsForEpoch cache epoch := by
  induction programs generalizing cache with
  | nil => rfl
  | cons first rest ih => exact (ih _).trans (origins.insertedEnvironments _ _ _ _)

end Held

section Made

variable (loaders : ProgramLoaders Environment Program)
  (caches : ProgramCaches Programs Batch Environment Program WorkingSlot)

/-- The program that `load_program` makes for a key of what a request shows. -/
def MadeFrom (start : MessageExecutor Programs Sysvars Log) (key : Pubkey) (program : Program)
    (request : Request WorkingSlot) : Prop :=
  ∃ loaded, (start.loader request.g).loadProgram loaders caches (caches.currentSlot request.slot) key = .ok loaded ∧
    program = loaders.storeTxUsageCounter loaded 0

/-- Making programs is the same on both executors. -/
structure MakesAlike (start executor : MessageExecutor Programs Sysvars Log) : Prop where
  featureSet : executor.featureSet = start.featureSet
  environments : ∀ epoch, caches.getEnvironmentsForEpoch executor.loadedPrograms epoch =
    caches.getEnvironmentsForEpoch start.loadedPrograms epoch

variable {loaders caches}

theorem MakesAlike.trans {first second third : MessageExecutor Programs Sysvars Log}
    (left : MakesAlike caches first second) (right : MakesAlike caches second third) : MakesAlike caches first third where
  featureSet := right.featureSet.trans left.featureSet
  environments epoch := (right.environments epoch).trans (left.environments epoch)

theorem loadProgram_congr {left right : AccountLoader Programs} (sameAccounts : left.g = right.g)
    (sameFeatures : left.featureSet = right.featureSet)
    (sameEnvironments : ∀ epoch, caches.getEnvironmentsForEpoch left.loadedProgramsCache epoch =
      caches.getEnvironmentsForEpoch right.loadedProgramsCache epoch) (slot : Slot) (key : Pubkey) :
    left.loadProgram loaders caches slot key = right.loadProgram loaders caches slot key := by
  have accounts : left.loadProgramAccounts loaders key = right.loadProgramAccounts loaders key := by
    simp only [loadProgramAccounts, getAccountWithFixedRoot, sameAccounts]
  have program (environments : ProgramRuntimeEnvironments Environment) (found : ProgramAccountLoadResult) :
      left.programOf loaders environments slot false found = right.programOf loaders environments slot false found := by
    cases found <;> simp only [programOf, sameFeatures]
  simp only [loadProgram, sameEnvironments, accounts, program]

variable {holds : Programs → Pubkey → Program → Prop} {entry : Batch → Pubkey → Program → Prop}
  {standsFor : WorkingSlot → Program → Program → Prop} {hasEntry : Batch → Pubkey → Prop}
  {start executor : MessageExecutor Programs Sysvars Log} {request : Request WorkingSlot} {key : Pubkey}
  {program : Program}

theorem newlyLoaded_madeFrom (contract : CacheContract caches hasEntry)
    (origins : OriginContract caches holds entry standsFor) (alike : MakesAlike caches start executor)
    (loaded : (key, program) ∈ newlyLoaded loaders caches request executor) :
    MadeFrom loaders caches start key program request := by
  rcases request_cases request executor with unknown | ⟨_, searched, search, _⟩
  · rw [(perform_missing loaders caches executor unknown).2.2] at loaded
    cases loaded
  · rw [newlyLoaded_found search] at loaded
    obtain ⟨missing, left, made⟩ := List.mem_filterMap.mp loaded
    obtain ⟨found, ran, same⟩ := Option.map_eq_some_iff.mp made
    obtain ⟨rfl, rfl⟩ := Prod.mk.inj same
    have plain := searchPrograms_plain search missing ((contract.left _ _ _ _ _).subset left)
    obtain ⟨program, total⟩ := loadProgram_total loaders caches (start.loader request.g)
      (caches.currentSlot request.slot) missing.1
    have here : ((start.loader request.g).loadProgram loaders caches (caches.currentSlot request.slot)
        missing.1).toOption = some found := by
      rw [← ran]
      refine congrArg Except.toOption (loadProgram_congr ?_ ?_ ?_ _ _)
      · rfl
      · exact alike.featureSet.symm
      · intro epoch
        exact ((origins.extractedEnvironments _ _ _ _ _ epoch).trans (alike.environments epoch)).symm
    rw [total] at here
    obtain rfl := Option.some.inj here
    exact ⟨program, total, by rw [plain]⟩

variable (loaders) in
theorem requested_makesAlike (origins : OriginContract caches holds entry standsFor) (request : Request WorkingSlot)
    (executor : MessageExecutor Programs Sysvars Log) :
    MakesAlike caches executor (requested loaders caches request executor) := by
  refine ⟨rfl, fun epoch => ?_⟩
  rcases request_cases request executor with unknown | ⟨_, searched, search, _⟩
  · rw [(perform_missing loaders caches executor unknown).2.1]
  · rw [requested, (perform_found loaders caches search).1, stateAfter_ok,
      insertAll_environmentsForEpoch origins, origins.extractedEnvironments]

theorem requested_holds (origins : OriginContract caches holds entry standsFor)
    (held : holds (requested loaders caches request executor).loadedPrograms key program) :
    holds executor.loadedPrograms key program ∨ (key, program) ∈ newlyLoaded loaders caches request executor := by
  rcases request_cases request executor with unknown | ⟨_, searched, search, _⟩
  · rw [(perform_missing loaders caches executor unknown).2.1] at held
    exact .inl held
  · rw [requested, (perform_found loaders caches search).1, stateAfter_ok] at held
    exact (insertAll_holds origins held).imp_left (origins.kept _ _ _ _ _ _ _)

theorem history_holds (origins : OriginContract caches holds entry standsFor) {history : List (Request WorkingSlot)}
    (held : holds (runHistory (requested loaders caches) history executor).loadedPrograms key program) :
    holds executor.loadedPrograms key program ∨ (key, program) ∈ loadedOver loaders caches history executor := by
  induction history generalizing executor with
  | nil => exact .inl held
  | cons request rest ih =>
      rw [loadedOver, List.mem_append]
      rcases ih held with before | later
      · exact (requested_holds origins before).imp_right .inl
      · exact .inr (.inr later)

theorem history_makesAlike (origins : OriginContract caches holds entry standsFor)
    (history : List (Request WorkingSlot)) (start : MessageExecutor Programs Sysvars Log) :
    MakesAlike caches start (runHistory (requested loaders caches) history start) := by
  refine runHistory_invariant (MakesAlike caches start) ?_ history ⟨rfl, fun _ => rfl⟩
  intro request before alike
  exact alike.trans (requested_makesAlike loaders origins request before)

theorem loadedOver_madeFrom (contract : CacheContract caches hasEntry)
    (origins : OriginContract caches holds entry standsFor) {history : List (Request WorkingSlot)}
    (alike : MakesAlike caches start executor)
    (loaded : (key, program) ∈ loadedOver loaders caches history executor) :
    ∃ earlier ∈ history, MadeFrom loaders caches start key program earlier := by
  induction history generalizing executor with
  | nil => cases loaded
  | cons request rest ih =>
      rw [loadedOver, List.mem_append] at loaded
      rcases loaded with now | later
      · exact ⟨request, .head _, newlyLoaded_madeFrom contract origins alike now⟩
      · obtain ⟨earlier, member, made⟩ := ih (alike.trans (requested_makesAlike loaders origins request executor)) later
        exact ⟨earlier, .tail _ member, made⟩

/-- A batch has for a key what the cache shows for it, or what was loaded for it. -/
theorem perform_entry (contract : CacheContract caches fun batch key => ∃ program, entry batch key program)
    {shows : Programs → WorkingSlot → Pubkey → Prop} {visible : Program → WorkingSlot → Prop}
    (retention : RetentionContract caches shows visible) (origins : OriginContract caches holds entry standsFor)
    {batch : Batch} {final : Replenishing Programs} (ran : request.perform loaders caches executor = .ok batch final)
    (has : entry batch key program) :
    (shows executor.loadedPrograms request.slot key ∧
        ∃ held, holds executor.loadedPrograms key held ∧ standsFor request.slot program held) ∨
      key ∈ (newlyLoaded loaders caches request executor).map Prod.fst ∧
        ((key, program) ∈ newlyLoaded loaders caches request executor ∨ holds executor.loadedPrograms key program) := by
  rcases request_cases request executor with unknown | ⟨_, searched, search, _⟩
  · rw [(perform_missing loaders caches executor unknown).1] at ran
    cases ran
  · rw [(perform_found loaders caches search).1] at ran
    obtain ⟨rfl, _⟩ := EStateM.Result.ok.inj ran
    rcases insertBatch_entry origins has with extracted | loaded
    · have new := origins.newBatch (caches.currentSlot request.slot) (caches.environments executor.loadedPrograms) key
      obtain ⟨member, moved⟩ := ((contract.moved _ _ _ _ _ _).mp ⟨program, extracted⟩).resolve_left
        fun present => present.elim new
      obtain ⟨other, inside, rfl⟩ := List.mem_map.mp member
      refine .inl ⟨?_, (origins.moved _ _ _ _ _ _ _ extracted).resolve_left (new program)⟩
      by_contra unseen
      refine moved (List.mem_map_of_mem ((retention.left _ _ _ _ _ ?_ other inside).mpr unseen))
      exact fun found among => congrArg Prod.fst (searchPrograms_plain search found among)
    · exact .inr (loaded.imp_right fun either => either.imp_right (origins.kept _ _ _ _ _ _ _))

end Made

section Created

variable {loaders : ProgramLoaders Environment Program}
  {caches : ProgramCaches Programs Batch Environment Program WorkingSlot}
  {defaults : ExecutorDefaults Programs Environment Program Sysvars Log Entrypoint}
  {holds : Programs → Pubkey → Program → Prop} {entry : Batch → Pubkey → Program → Prop}
  {standsFor : WorkingSlot → Program → Program → Prop} {shows : Programs → WorkingSlot → Pubkey → Prop}
  {visible : Program → WorkingSlot → Prop} {enabledFeatures : List Pubkey} {key : Pubkey} {program : Program}

/-- The program of an enabled builtin. -/
def BuiltinProgram (defaults : ExecutorDefaults Programs Environment Program Sysvars Log Entrypoint)
    (builtins : List (BuiltinPrototype Entrypoint)) (enabledFeatures : List Pubkey) (key : Pubkey) (program : Program) :
    Prop :=
  ∃ builtin ∈ builtins, builtin.programId = key ∧ Enabled enabledFeatures builtin ∧
    program = defaults.newBuiltin 0 builtin.name.utf8ByteSize builtin.entrypoint

theorem BuiltinProgram.active {builtins : List (BuiltinPrototype Entrypoint)}
    (native : BuiltinProgram defaults builtins enabledFeatures key program) :
    ActiveBuiltin builtins enabledFeatures key := by
  obtain ⟨builtin, member, named, enabled, _⟩ := native
  exact ⟨builtin, member, named, enabled⟩

theorem addBuiltins_holds (origins : OriginContract caches holds entry standsFor)
    {builtins : List (BuiltinPrototype Entrypoint)} {executor : MessageExecutor Programs Sysvars Log}
    (features : ∀ feature, feature ∈ executor.featureSet.active ↔ feature ∈ enabledFeatures)
    (held : holds (builtins.foldl (MessageExecutor.addBuiltin defaults caches) executor).loadedPrograms key program) :
    holds executor.loadedPrograms key program ∨ BuiltinProgram defaults builtins enabledFeatures key program := by
  induction builtins generalizing executor with
  | nil => exact .inl held
  | cons builtin rest ih =>
      have later {before : MessageExecutor Programs Sysvars Log}
          (native : BuiltinProgram defaults rest enabledFeatures key program) :
          holds before.loadedPrograms key program ∨
            BuiltinProgram defaults (builtin :: rest) enabledFeatures key program := by
        obtain ⟨other, member, found⟩ := native
        exact .inr ⟨other, .tail _ member, found⟩
      rw [List.foldl_cons, MessageExecutor.addBuiltin] at held
      by_cases enabled : Enabled enabledFeatures builtin
      · rw [if_pos ((enabled_iff features builtin).mpr enabled)] at held
        rcases ih (by exact features) held with before | native
        · rcases origins.inserted _ _ _ _ _ before with already | now
          · exact .inl already
          · exact .inr ⟨builtin, .head _, now.1.symm, enabled, now.2⟩
        · exact later native
      · rw [if_neg fun active => enabled ((enabled_iff features builtin).mp active)] at held
        exact (ih features held).elim .inl later

theorem new_holds (origins : OriginContract caches holds entry standsFor)
    (nothing : ∀ root epoch environments key program,
      ¬ holds (defaults.setEnvironments (defaults.newPrograms root epoch) environments) key program)
    {fresh : MessageExecutor Programs Sysvars Log}
    (created : MessageExecutor.new defaults caches enabledFeatures = .ok fresh)
    (held : holds fresh.loadedPrograms key program) :
    BuiltinProgram defaults defaults.builtins enabledFeatures key program := by
  obtain ⟨start, bare, rfl⟩ := MessageExecutor.new_cases created
  refine (addBuiltins_holds origins (fun feature => ?_) held).resolve_left ?_
  · rw [bare.featureSet, FeatureSet.mem_activate]
    simp [FeatureSet.default]
  · obtain ⟨environments, started⟩ := bare.loadedPrograms
    rw [started]
    exact nothing _ _ _ _ _

variable (loaders) in
/-- Every program of a batch can be traced to where it was made. The one of an
active builtin is the builtin's. The one of a key that was loaded before, and is
visible at the slot, was made from the accounts of an earlier request, whatever
this request shows for the key. Any other was made for its key from the accounts
of this request or, where the cache already has it, of an earlier one. -/
theorem batch_programs_traced (contract : CacheContract caches fun batch key => ∃ program, entry batch key program)
    (retention : RetentionContract caches shows visible) (origins : OriginContract caches holds entry standsFor)
    (empty : ∀ root epoch environments slot key,
      ¬ shows (defaults.setEnvironments (defaults.newPrograms root epoch) environments) slot key)
    (nothing : ∀ root epoch environments key program,
      ¬ holds (defaults.setEnvironments (defaults.newPrograms root epoch) environments) key program)
    (builtinsVisible : ∀ size entrypoint slot, visible (defaults.newBuiltin 0 size entrypoint) slot)
    {fresh : MessageExecutor Programs Sysvars Log}
    (created : MessageExecutor.new defaults caches enabledFeatures = .ok fresh)
    (history : List (Request WorkingSlot)) {request : Request WorkingSlot} {batch : Batch} {final : Replenishing Programs}
    (ran : request.perform loaders caches (runHistory (requested loaders caches) history fresh) = .ok batch final)
    (has : entry batch key program) :
    let before := loadedOver loaders caches history fresh
    let native := ActiveBuiltin defaults.builtins enabledFeatures key
    let seen := ∃ loaded ∈ before, loaded.1 = key ∧ visible loaded.2 request.slot
    (native → ∃ held, BuiltinProgram defaults defaults.builtins enabledFeatures key held ∧
        standsFor request.slot program held) ∧
      (seen → ∃ earlier ∈ history, ∃ held, MadeFrom loaders caches fresh key held earlier ∧
        standsFor request.slot program held) ∧
      (¬ native → ¬ seen → ∃ source ∈ request :: history, MadeFrom loaders caches fresh key program source) := by
  intro before native seen
  obtain ⟨_, shownFresh⟩ := new_serves retention empty builtinsVisible created
  have shown : shows (runHistory (requested loaders caches) history fresh).loadedPrograms request.slot key ↔
      native ∨ seen := by
    rw [shows_history retention, shownFresh]
  have notNative : (∃ loaded ∈ before, loaded.1 = key) → ¬ native := by
    intro loaded active
    obtain ⟨other, member, named⟩ := loaded
    obtain ⟨earlier, _, unseen⟩ := unshown_of_loadedOver contract retention
      (named ▸ List.mem_map_of_mem (f := Prod.fst) member)
    exact unseen ((shownFresh _ _).mpr active)
  have heldCases : ∀ held, holds (runHistory (requested loaders caches) history fresh).loadedPrograms key held →
      BuiltinProgram defaults defaults.builtins enabledFeatures key held ∨ (key, held) ∈ before :=
    fun held holding => (history_holds origins holding).imp_left (new_holds origins nothing created)
  have made {held : Program} (member : (key, held) ∈ before) :
      ∃ earlier ∈ history, MadeFrom loaders caches fresh key held earlier :=
    loadedOver_madeFrom contract origins ⟨rfl, fun _ => rfl⟩ member
  have entered := perform_entry contract retention origins ran has
  have extracted (visibleNow : native ∨ seen) :
      ∃ held, holds (runHistory (requested loaders caches) history fresh).loadedPrograms key held ∧
        standsFor request.slot program held := by
    refine (entered.resolve_right ?_).2
    intro loaded
    exact (((mem_newlyLoaded contract retention).2 key).mp loaded.1).2.2 (shown.mpr visibleNow)
  refine ⟨?_, ?_, ?_⟩
  · intro active
    obtain ⟨held, holding, stands⟩ := extracted (.inl active)
    refine ⟨held, (heldCases held holding).resolve_right ?_, stands⟩
    intro member
    exact notNative ⟨_, member, rfl⟩ active
  · intro earlier
    obtain ⟨held, holding, stands⟩ := extracted (.inr earlier)
    obtain ⟨loaded, member, named, _⟩ := earlier
    have inBefore := (heldCases held holding).resolve_left fun builtin =>
      notNative ⟨loaded, member, named⟩ builtin.active
    obtain ⟨source, inside, makes⟩ := made inBefore
    exact ⟨source, inside, held, makes, stands⟩
  · intro notActive notSeen
    obtain ⟨_, now⟩ := entered.resolve_left fun other => (shown.mp other.1).elim notActive notSeen
    rcases now with loaded | holding
    · exact ⟨request, .head _, newlyLoaded_madeFrom contract origins (history_makesAlike origins history fresh) loaded⟩
    · have inBefore := (heldCases program holding).resolve_left fun builtin => notActive builtin.active
      obtain ⟨source, inside, makes⟩ := made inBefore
      exact ⟨source, .tail _ inside, makes⟩

end Created

end Origins

theorem listCaches_entries : CacheContract listCaches fun batch key => ∃ program, (key, program) ∈ batch := by
  have same : (fun (batch : List (Pubkey × DeployedProgram)) key => ∃ program, (key, program) ∈ batch) =
      fun batch key => key ∈ batch.map Prod.fst := by
    funext batch key
    simp
  rw [same]
  exact listCaches_contract

theorem listCaches_origins : OriginContract listCaches (fun cache key program => (key, program) ∈ cache)
    (fun batch key program => (key, program) ∈ batch) (fun _ program held => program = held) where
  newBatch _ _ _ _ := List.not_mem_nil
  kept _ _ _ _ _ _ _ held := held
  moved cache slot searched batch _ key program inside := by
    rcases List.mem_append.mp inside with before | now
    · exact .inl before
    · obtain ⟨_, _, found⟩ := List.mem_filterMap.mp now
      exact .inr ⟨program, (cached_eq_some found).1, rfl⟩
  inserted cache key program found held inside := by
    rcases List.mem_cons.mp inside with now | before
    · exact .inr (Prod.mk.inj now)
    · exact .inl before
  returned _ _ _ := .inl rfl
  added batch key program found other inside := by
    rcases List.mem_cons.mp inside with now | before
    · exact .inr (Prod.mk.inj now)
    · exact .inl before
  extractedEnvironments _ _ _ _ _ _ := rfl
  insertedEnvironments _ _ _ _ := rfl

/-- The second request shows new code for the program, but its batch has the old one. -/
theorem batch_programs_traced_stale :
    let reached := runHistory (requested listLoaders listCaches) [loaderRequest 7 [1]] listExecutor.val
    ∃ batch final, (loaderRequest 9 [2]).perform listLoaders listCaches reached = .ok batch final ∧
      (Pubkey.filled 4, ⟨0, [1]⟩) ∈ batch ∧ ∀ program, (Pubkey.filled 4, program) ∈ batch → program = ⟨0, [1]⟩ := by
  intro reached
  have ran : (loaderRequest 9 [2]).perform listLoaders listCaches reached = .ok _ _ := rfl
  refine ⟨_, _, ran, by decide, fun program has => ?_⟩
  have nothing : ∀ root epoch environments key program,
      (key, program) ∉ listDefaults.setEnvironments (listDefaults.newPrograms root epoch) environments := by
    simp [listDefaults]
  obtain ⟨_, seen, _⟩ := batch_programs_traced listLoaders listCaches_entries listCaches_retention listCaches_origins
    listDefaults_empty nothing listDefaults_visible listExecutor.property [loaderRequest 7 [1]] ran has
  have first : newlyLoaded listLoaders listCaches (loaderRequest 7 [1]) listExecutor.val =
      [(.filled 4, ⟨0, [1]⟩)] := by decide
  obtain ⟨earlier, inside, held, ⟨loaded, made, rfl⟩, rfl⟩ := seen ⟨(.filled 4, ⟨0, [1]⟩), by
    rw [loadedOver, first]
    exact .head _, rfl, by decide⟩
  obtain rfl := List.mem_singleton.mp inside
  exact (Except.ok.inj made).symm

end BpfSimulator
