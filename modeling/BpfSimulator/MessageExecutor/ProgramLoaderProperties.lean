import Mathlib.Data.Finset.Sort
import BpfSimulator.MessageExecutor.ProgramLoader

/-! Replenishing the program cache is complete, free of duplicates and all or
nothing. The searched list is the sorted set of the programs needed, whatever
order they come in, and loading cannot fail once all accounts are there. -/

set_option autoImplicit false

namespace BpfSimulator.AccountLoader

open Foundation

variable {Programs Batch Environment Program WorkingSlot : Type}

section Search

variable {loader : AccountLoader Programs} {keys : List Pubkey} {missing : List SearchedProgram}
  {messages : List SanitizedMessage}

/-- The account of the key is owned by one of the program owners. -/
def isProgramKey (loader : AccountLoader Programs) (key : Pubkey) : Bool :=
  (loader.g key).any fun account => loader.programOwners.contains account.owner

/-- The set of programs that messages and builtins need. -/
def searchedKeys (loader : AccountLoader Programs) (messages : List SanitizedMessage) : Finset Pubkey :=
  ((messages.flatMap SanitizedMessage.accountKeys).filter loader.isProgramKey).toFinset ∪
    loader.builtinPrograms.keys.toFinset

theorem mem_searchedKeys {key : Pubkey} : key ∈ searchedKeys loader messages ↔
    (∃ message ∈ messages, key ∈ message.accountKeys ∧
      ∃ account, loader.g key = some account ∧ account.owner ∈ loader.programOwners.keys) ∨
    key ∈ loader.builtinPrograms.keys := by
  simp only [searchedKeys, isProgramKey, KeySet.contains, Finset.mem_union, List.mem_toFinset, List.mem_filter,
    List.mem_flatMap, Option.any_eq_true, decide_eq_true_eq]
  refine or_congr_left ⟨?_, ?_⟩
  · intro named
    obtain ⟨⟨message, member, named⟩, owned⟩ := named
    exact ⟨message, member, named, owned⟩
  · intro named
    obtain ⟨message, member, named, owned⟩ := named
    exact ⟨⟨message, member, named⟩, owned⟩

theorem searchedKeys_perm {messages' : List SanitizedMessage} {builtinPrograms : KeySet}
    (reordered : messages'.Perm messages) (reiterated : builtinPrograms.keys.Perm loader.builtinPrograms.keys) :
    searchedKeys { loader with builtinPrograms } messages' = searchedKeys loader messages := by
  ext key
  simp only [mem_searchedKeys, reordered.mem_iff, reiterated.mem_iff]

theorem searchMessageKey_found {key : Pubkey} (found : loader.g key ≠ none) :
    loader.searchMessageKey missing key =
      .ok (if loader.isProgramKey key then searchProgram missing key else missing) := by
  obtain ⟨account, known⟩ := Option.ne_none_iff_exists'.mp found
  simp only [searchMessageKey, getAccountWithFixedRoot, isProgramKey, known, Option.any_some]
  change (if _ then _ else _ : Except LoadError _) = _
  split <;> rfl

theorem searchMessageKey_missing {key : Pubkey} (unknown : loader.g key = none) :
    loader.searchMessageKey missing key = .error (.transaction .accountNotFound) := by
  simp only [searchMessageKey, getAccountWithFixedRoot, unknown]
  rfl

theorem searchKeys_found (found : ∀ key ∈ keys, loader.g key ≠ none) :
    keys.foldlM loader.searchMessageKey missing =
      .ok ((keys.filter loader.isProgramKey).foldl searchProgram missing) := by
  induction keys generalizing missing with
  | nil => rfl
  | cons key rest ih =>
      rw [List.foldlM_cons, searchMessageKey_found (found key (.head _))]
      refine (ih fun later member => found later (.tail _ member)).trans ?_
      by_cases isProgram : loader.isProgramKey key = true
      · rw [if_pos isProgram, List.filter_cons_of_pos isProgram, List.foldl_cons]
      · rw [if_neg isProgram, List.filter_cons_of_neg isProgram]

theorem searchKeys_missing (unknown : ∃ key ∈ keys, loader.g key = none) :
    keys.foldlM loader.searchMessageKey missing = .error (.transaction .accountNotFound) := by
  induction keys generalizing missing with
  | nil => exact absurd unknown (by simp)
  | cons key rest ih =>
      rw [List.foldlM_cons]
      cases known : loader.g key with
      | none =>
          rw [searchMessageKey_missing known]
          rfl
      | some account =>
          rw [searchMessageKey_found (by rw [known]; exact Option.some_ne_none _)]
          obtain ⟨later, member, absent⟩ := unknown
          refine ih ⟨later, ?_, absent⟩
          rcases List.mem_cons.mp member with rfl | member
          · rw [known] at absent
            cases absent
          · exact member

theorem searchMessages_eq : messages.foldlM
    (fun missing message => message.accountKeys.foldlM loader.searchMessageKey missing) missing =
      (messages.flatMap SanitizedMessage.accountKeys).foldlM loader.searchMessageKey missing := by
  induction messages generalizing missing with
  | nil => rfl
  | cons message rest ih =>
      rw [List.foldlM_cons, List.flatMap_cons, List.foldlM_append]
      simp only [ih]

theorem searchProgram_keys (keys : List Pubkey) : ((keys.foldl searchProgram []).map Prod.fst).SortedLT ∧
    ∀ key, key ∈ (keys.foldl searchProgram []).map Prod.fst ↔ key ∈ keys := by
  have folded : keys.foldl searchProgram [] =
      (keys.map fun key => ((key, .noCriteria, 0) : SearchedProgram)).foldl (insertNew Prod.fst) [] := by
    rw [List.foldl_map]
    rfl
  obtain ⟨increasing, members⟩ := @foldl_insertNew SearchedProgram Pubkey _ Prod.fst []
    (keys.map fun key => (key, .noCriteria, 0)) (List.Pairwise.sortedLT .nil)
  rw [folded]
  refine ⟨increasing, fun key => ?_⟩
  rw [members, List.map_map, List.map_nil]
  simp

theorem searchPrograms_found (found : ∀ message ∈ messages, ∀ key ∈ message.accountKeys, loader.g key ≠ none) :
    ∃ searched, loader.searchPrograms messages = .ok searched ∧
      searched.map Prod.fst = (searchedKeys loader messages).sort (· ≤ ·) := by
  let programs := (messages.flatMap SanitizedMessage.accountKeys).filter loader.isProgramKey
  have all : ∀ key ∈ messages.flatMap SanitizedMessage.accountKeys, loader.g key ≠ none := by
    intro key member
    obtain ⟨message, inside, named⟩ := List.mem_flatMap.mp member
    exact found message inside key named
  refine ⟨(programs ++ loader.builtinPrograms.keys).foldl searchProgram [], ?_, ?_⟩
  · rw [searchPrograms, searchMessages_eq, searchKeys_found all, List.foldl_append]
    rfl
  · obtain ⟨increasing, members⟩ := searchProgram_keys (programs ++ loader.builtinPrograms.keys)
    refine increasing.eq_of_mem_iff (Finset.sortedLT_sort _) fun key => ?_
    rw [members, Finset.mem_sort, searchedKeys, Finset.mem_union, List.mem_toFinset, List.mem_toFinset,
      List.mem_append]

theorem searchPrograms_missing (unknown : ∃ message ∈ messages, ∃ key ∈ message.accountKeys, loader.g key = none) :
    loader.searchPrograms messages = .error (.transaction .accountNotFound) := by
  obtain ⟨message, inside, key, named, absent⟩ := unknown
  rw [searchPrograms, searchMessages_eq,
    searchKeys_missing ⟨key, List.mem_flatMap.mpr ⟨message, inside, named⟩, absent⟩]
  rfl

end Search

section Replenish

variable (loaders : ProgramLoaders Environment Program)
  (caches : ProgramCaches Programs Batch Environment Program WorkingSlot) {loader : AccountLoader Programs}
  {messages : List SanitizedMessage}

/-- What the caches are relied on for: a new batch is empty, extracting moves
some of the searched programs into the batch and leaves the others in order,
and replenishing a batch adds an entry. -/
structure CacheContract (hasEntry : Batch → Pubkey → Prop) : Prop where
  newBatch : ∀ slot environments key, ¬ hasEntry (caches.newBatch slot environments) key
  left : ∀ cache slot searched batch ignoreUsage,
    (caches.extract cache slot searched batch ignoreUsage).2.1.Sublist searched
  moved : ∀ cache slot searched batch ignoreUsage key,
    hasEntry (caches.extract cache slot searched batch ignoreUsage).2.2 key ↔
      hasEntry batch key ∨ key ∈ searched.map Prod.fst ∧
        key ∉ (caches.extract cache slot searched batch ignoreUsage).2.1.map Prod.fst
  added : ∀ batch key program found,
    hasEntry (caches.replenishBatch batch key program).1 found ↔ found = key ∨ hasEntry batch found

theorem loadProgramAccounts_total (loader : AccountLoader Programs) (key : Pubkey) :
    ∃ accounts, loader.loadProgramAccounts loaders key = .ok accounts := by
  simp only [loadProgramAccounts, getAccountWithFixedRoot, bind, Except.bind, pure, Except.pure]
  repeat' first | exact ⟨_, rfl⟩ | split

theorem loadProgram_total (loader : AccountLoader Programs) (slot : Slot) (key : Pubkey) :
    ∃ program, loader.loadProgram loaders caches slot key = .ok program := by
  obtain ⟨accounts, found⟩ := loadProgramAccounts_total loaders loader key
  simp only [loadProgram, found, bind, Except.bind]
  cases loader.programOf loaders _ slot false accounts with
  | ok program => exact ⟨program, rfl⟩
  | error error => exact ⟨_, rfl⟩

theorem record_run (event : CacheEvent) (state : Replenishing Programs) :
    record event state = .ok ⟨⟩ { state with events := state.events ++ [event] } := rfl

theorem setCache_run (cache : Programs) (state : Replenishing Programs) : setCache cache state =
    .ok ⟨⟩ { state with loader := { state.loader with loadedProgramsCache := cache } } := rfl

theorem loadMissing_ok (slot : Slot) (missing : List SearchedProgram) (state : Replenishing Programs) :
    ∃ programs, missing.mapM (loadMissing loaders caches slot) state =
        .ok programs { state with events := state.events ++ missing.map fun program => .loaded program.1 } ∧
      programs.map Prod.fst = missing.map Prod.fst := by
  induction missing generalizing state with
  | nil => exact ⟨[], by rw [List.map_nil, List.append_nil]; rfl, rfl⟩
  | cons first rest ih =>
      obtain ⟨program, loaded⟩ := loadProgram_total loaders caches state.loader slot first.1
      obtain ⟨programs, ran, keys⟩ := ih { state with events := state.events ++ [.loaded first.1] }
      refine ⟨(first.1, loaders.storeTxUsageCounter program first.2.2) :: programs, ?_, ?_⟩
      · have head : loadMissing loaders caches slot first state = .ok
            (first.1, loaders.storeTxUsageCounter program first.2.2)
            { state with events := state.events ++ [.loaded first.1] } := by
          rw [loadMissing, bind_run_ok (get_run _), loaded, bind_run_ok (inspecting_ok_run _ _)]
          rfl
        rw [List.mapM_cons, bind_run_ok head, bind_run_ok ran, pure_run, List.map_cons, List.append_assoc,
          List.singleton_append]
      · rw [List.map_cons, List.map_cons, keys]

def insertionEvents (key : Pubkey) : List CacheEvent := [.insertedShared key, .insertedBatch key]

theorem insertLoaded_ok (programs : List (Pubkey × Program)) (batch : Batch) (state : Replenishing Programs) :
    ∃ final cache, insertLoaded caches programs batch state =
        .ok final ⟨{ state.loader with loadedProgramsCache := cache },
          state.events ++ (programs.map Prod.fst).flatMap insertionEvents⟩ ∧
      ∀ hasEntry, CacheContract caches hasEntry →
        ∀ key, hasEntry final key ↔ key ∈ programs.map Prod.fst ∨ hasEntry batch key := by
  induction programs generalizing batch state with
  | nil =>
      refine ⟨batch, state.loader.loadedProgramsCache, ?_, fun _ _ key => by simp⟩
      rw [List.map_nil, List.flatMap_nil, List.append_nil]
      rfl
  | cons first rest ih =>
      obtain ⟨key, program⟩ := first
      let inserted := caches.replenish state.loader.loadedProgramsCache key program
      let grown := caches.replenishBatch batch key inserted.2.2
      obtain ⟨final, cache, ran, entries⟩ := ih grown.1
        ⟨{ state.loader with loadedProgramsCache := inserted.1 }, state.events ++ insertionEvents key⟩
      refine ⟨final, cache, ?_, fun hasEntry contract found => ?_⟩
      · rw [List.map_cons, List.flatMap_cons, ← List.append_assoc]
        refine Eq.trans ?_ ran
        rw [insertLoaded, bind_run_ok (get_run _)]
        dsimp only
        rw [bind_run_ok (setCache_run _ _), bind_run_ok (record_run _ _), bind_run_ok (record_run _ _)]
        simp only [insertionEvents, List.append_assoc, List.singleton_append]
        rfl
      · rw [entries hasEntry contract, contract.added, List.map_cons, List.mem_cons, or_left_comm, or_assoc]

variable {caches} {slot : WorkingSlot}

theorem replenish_missing {state : Replenishing Programs}
    (unknown : ∃ message ∈ messages, ∃ key ∈ message.accountKeys, state.loader.g key = none) :
    replenishProgramCache loaders caches slot messages state = .error (.transaction .accountNotFound) state := by
  rw [replenishProgramCache, bind_run_ok (get_run _), searchPrograms_missing unknown]
  exact bind_run_error (inspecting_error_run _ _)

def absentKeys (caches : ProgramCaches Programs Batch Environment Program WorkingSlot) (slot : WorkingSlot)
    (cache : Programs) (searched : List SearchedProgram) : List Pubkey :=
  (caches.extract cache slot searched
    (caches.newBatch (caches.currentSlot slot) (caches.environments cache)) false).2.1.map Prod.fst

/-- With all accounts there, replenishing goes through: the programs that the
cache does not have are loaded, and only then inserted. -/
theorem replenish_found {searched : List SearchedProgram} (events : List CacheEvent)
    (search : loader.searchPrograms messages = .ok searched) :
    ∃ batch cache, replenishProgramCache loaders caches slot messages ⟨loader, events⟩ =
        .ok batch ⟨{ loader with loadedProgramsCache := cache }, events ++
          (.batchCreated :: .extracted (searched.map Prod.fst) ::
            (absentKeys caches slot loader.loadedProgramsCache searched).map .loaded ++
              (absentKeys caches slot loader.loadedProgramsCache searched).flatMap insertionEvents)⟩ ∧
      ∀ hasEntry, CacheContract caches hasEntry →
        ∀ key, hasEntry batch key ↔ key ∈ searched.map Prod.fst := by
  let fresh := caches.newBatch (caches.currentSlot slot) (caches.environments loader.loadedProgramsCache)
  let extracted := caches.extract loader.loadedProgramsCache slot searched fresh false
  let middle : Replenishing Programs := ⟨{ loader with loadedProgramsCache := extracted.1 },
    events ++ [.batchCreated] ++ [.extracted (searched.map Prod.fst)]⟩
  obtain ⟨programs, loadedAll, keys⟩ := loadMissing_ok loaders caches (caches.currentSlot slot) extracted.2.1 middle
  obtain ⟨final, cache, inserted, entries⟩ := insertLoaded_ok caches programs extracted.2.2
    { middle with events := middle.events ++ extracted.2.1.map fun program => .loaded program.1 }
  refine ⟨final, cache, ?_, fun hasEntry contract key => ?_⟩
  · rw [replenishProgramCache, bind_run_ok (get_run _)]
    dsimp only
    rw [search, bind_run_ok (inspecting_ok_run _ _), bind_run_ok (get_run _), bind_run_ok (record_run _ _),
      bind_run_ok (get_run _)]
    dsimp only
    rw [bind_run_ok (setCache_run _ _), bind_run_ok (record_run _ _), bind_run_ok loadedAll, inserted, keys]
    simp only [absentKeys, middle, extracted, fresh, List.map_map, List.append_assoc, List.cons_append, List.nil_append]
    rfl
  · have empty : ¬ hasEntry fresh key := contract.newBatch _ _ key
    have left : key ∈ extracted.2.1.map Prod.fst → key ∈ searched.map Prod.fst := fun member =>
      ((contract.left _ slot searched fresh false).map Prod.fst).subset member
    rw [entries hasEntry contract, contract.moved, keys, or_iff_right empty]
    by_cases absent : key ∈ extracted.2.1.map Prod.fst
    · exact iff_of_true (.inl absent) (left absent)
    · exact ⟨fun either => (either.resolve_left absent).1, fun member => .inr ⟨member, absent⟩⟩

/-- Replenishing is complete, free of duplicates and all or nothing. The list
searched in the cache is the set of programs needed in increasing order. With
an account missing, nothing is touched. Otherwise replenishing succeeds: each
program the cache leaves is loaded once, all before any is inserted, and the
batch has an entry for exactly the programs needed. -/
theorem replenish_program_cache_complete (loaders : ProgramLoaders Environment Program)
    (caches : ProgramCaches Programs Batch Environment Program WorkingSlot) {hasEntry : Batch → Pubkey → Prop}
    (contract : CacheContract caches hasEntry) (slot : WorkingSlot) (loader : AccountLoader Programs)
    (messages : List SanitizedMessage) :
    let needed := (searchedKeys loader messages).sort (· ≤ ·)
    (needed.SortedLT ∧ ∀ key, key ∈ needed ↔
      (∃ message ∈ messages, key ∈ message.accountKeys ∧
        ∃ account, loader.g key = some account ∧ account.owner ∈ loader.programOwners.keys) ∨
      key ∈ loader.builtinPrograms.keys) ∧
    (∀ (messages' : List SanitizedMessage) (builtinPrograms : KeySet), messages'.Perm messages →
      builtinPrograms.keys.Perm loader.builtinPrograms.keys →
        searchedKeys { loader with builtinPrograms } messages' = searchedKeys loader messages) ∧
    ((∃ message ∈ messages, ∃ key ∈ message.accountKeys, loader.g key = none) →
      replenishProgramCache loaders caches slot messages ⟨loader, []⟩ =
        .error (.transaction .accountNotFound) ⟨loader, []⟩) ∧
    ((∀ message ∈ messages, ∀ key ∈ message.accountKeys, loader.g key ≠ none) →
      ∃ searched batch cache, searched.map Prod.fst = needed ∧
        let absent := absentKeys caches slot loader.loadedProgramsCache searched
        replenishProgramCache loaders caches slot messages ⟨loader, []⟩ =
            .ok batch ⟨{ loader with loadedProgramsCache := cache },
              .batchCreated :: .extracted needed :: absent.map .loaded ++ absent.flatMap insertionEvents⟩ ∧
          absent.Nodup ∧ absent.Sublist needed ∧ ∀ key, hasEntry batch key ↔ key ∈ needed) := by
  intro needed
  refine ⟨⟨Finset.sortedLT_sort _, fun key => ?_⟩, ?_, ?_, ?_⟩
  · rw [Finset.mem_sort, mem_searchedKeys]
  · exact fun _ _ reordered reiterated => searchedKeys_perm reordered reiterated
  · exact fun unknown => replenish_missing loaders unknown
  · intro found
    obtain ⟨searched, search, keys⟩ := searchPrograms_found found
    obtain ⟨batch, cache, ran, entries⟩ := replenish_found loaders [] search
    have left : (absentKeys caches slot loader.loadedProgramsCache searched).Sublist needed := by
      have sublist := (contract.left loader.loadedProgramsCache slot searched
        (caches.newBatch (caches.currentSlot slot) (caches.environments loader.loadedProgramsCache)) false).map
        Prod.fst
      rwa [keys] at sublist
    rw [keys] at ran
    refine ⟨searched, batch, cache, keys, ran, left.nodup (Finset.sort_nodup _ _), left, fun key => ?_⟩
    rw [entries hasEntry contract, keys]

end Replenish

/-- Caches that only remember keys. -/
def keyCaches : ProgramCaches (List Pubkey) (List Pubkey) Unit Unit Slot where
  currentSlot slot := slot
  environments _ := ⟨(), ()⟩
  getEnvironmentsForEpoch _ _ := ⟨(), ()⟩
  newBatch _ _ := []
  extract cache _ searched batch _ :=
    (cache, searched.filter fun program => program.1 ∉ cache,
      batch ++ (searched.filter fun program => program.1 ∈ cache).map Prod.fst)
  replenish cache key program := (key :: cache, false, program)
  replenishBatch batch key program := (key :: batch, false, program)

/-- Loaders that refuse every program. -/
def refusingLoaders : ProgramLoaders Unit Unit where
  getState _ := none
  state _ := none
  loadProgramFromBytes _ _ _ _ _ _ _ := .error .invalidAccountData
  new _ _ _ _ _ _ _ := none
  reload _ _ _ _ _ _ _ := none
  newTombstone _ _ := ()
  storeTxUsageCounter program _ := program

theorem keyCaches_contract : CacheContract keyCaches fun batch key => key ∈ batch where
  newBatch _ _ _ := List.not_mem_nil
  left _ _ _ _ _ := List.filter_sublist
  moved cache _ searched batch _ key := by
    simp only [keyCaches, List.mem_append, List.mem_map, List.mem_filter, decide_eq_true_eq]
    refine or_congr_right ⟨?_, ?_⟩
    · intro moved
      obtain ⟨program, ⟨member, cached⟩, rfl⟩ := moved
      refine ⟨⟨program, member, rfl⟩, ?_⟩
      intro left
      obtain ⟨other, ⟨_, uncached⟩, same⟩ := left
      exact uncached (same ▸ cached)
    · intro moved
      obtain ⟨⟨program, member, rfl⟩, cached⟩ := moved
      refine ⟨program, ⟨member, ?_⟩, rfl⟩
      by_contra uncached
      exact cached ⟨program, ⟨member, uncached⟩, rfl⟩
  added _ _ _ _ := List.mem_cons

/-- Every account is a program; one builtin is cached already. -/
def everyProgram : AccountLoader (List Pubkey) where
  g _ := some { Account.default with owner := .filled 2 }
  featureSet := ⟨[]⟩
  loadedProgramsCache := [.filled 3]
  programOwners := ⟨[.filled 2], List.nodup_singleton _⟩
  builtinPrograms := ⟨[.filled 3], List.nodup_singleton _⟩

theorem replenish_program_cache_complete_repeated :
    ∃ searched batch cache, searched.map Prod.fst = [Pubkey.filled 1, .filled 3, .filled 4] ∧
      let absent := absentKeys keyCaches 7 [.filled 3] searched
      replenishProgramCache refusingLoaders keyCaches 7 [⟨[.filled 4, .filled 1], []⟩, ⟨[.filled 4], []⟩]
          ⟨everyProgram, []⟩ =
        .ok batch ⟨{ everyProgram with loadedProgramsCache := cache },
          .batchCreated :: .extracted [.filled 1, .filled 3, .filled 4] ::
            absent.map .loaded ++ absent.flatMap insertionEvents⟩ ∧
      ∀ key, key ∈ batch ↔ key ∈ [Pubkey.filled 1, .filled 3, .filled 4] := by
  have complete := replenish_program_cache_complete refusingLoaders keyCaches keyCaches_contract 7 everyProgram
    [⟨[.filled 4, .filled 1], []⟩, ⟨[.filled 4], []⟩]
  have needed : (searchedKeys everyProgram [⟨[.filled 4, .filled 1], []⟩, ⟨[.filled 4], []⟩]).sort (· ≤ ·) =
      [Pubkey.filled 1, .filled 3, .filled 4] := by
    refine (Finset.sortedLT_sort _).eq_of_mem_iff (List.Pairwise.sortedLT (by decide)) fun key => ?_
    simp [searchedKeys, isProgramKey, everyProgram, KeySet.contains]
    tauto
  obtain ⟨searched, batch, cache, keys, ran, _, _, entries⟩ := complete.2.2.2 (fun _ _ _ _ => Option.some_ne_none _)
  rw [needed] at keys ran entries
  exact ⟨searched, batch, cache, keys, ran, entries⟩

end BpfSimulator.AccountLoader
