import BpfSimulator.MessageExecutor.Executor

/-! Construction of a message executor. Builtin programs, runtime environments
and the program cache are third-party code. -/

set_option autoImplicit false

namespace BpfSimulator

open Foundation

/-- `bpf_loader::id()`, `BPFLoader2111111111111111111111111111111111`. -/
def bpfLoaderId : Pubkey :=
  ⟨[0x02, 0xa8, 0xf6, 0x91, 0x4e, 0x88, 0xa1, 0x6e, 0x39, 0x5a, 0xe1, 0x28, 0x94, 0x8f, 0xfa, 0x69,
    0x56, 0x93, 0x37, 0x68, 0x18, 0xdd, 0x47, 0x43, 0x52, 0x21, 0xf3, 0xc6, 0x00, 0x00, 0x00, 0x00], rfl⟩

/-- `bpf_loader_deprecated::id()`, `BPFLoader1111111111111111111111111111111111`. -/
def bpfLoaderDeprecatedId : Pubkey :=
  ⟨[0x02, 0xa8, 0xf6, 0x91, 0x4e, 0x88, 0xa1, 0x6b, 0xbd, 0x23, 0x95, 0x85, 0x5f, 0x64, 0x04, 0xd9,
    0xb4, 0xf4, 0x56, 0xb7, 0x82, 0x1b, 0xb0, 0x14, 0x57, 0x49, 0x42, 0x8c, 0x00, 0x00, 0x00, 0x00], rfl⟩

def KeySet.empty : KeySet := ⟨[], List.nodup_nil⟩

theorem KeySet.nodup_append {set : KeySet} {key : Pubkey} (absent : key ∉ set.keys) : (set.keys ++ [key]).Nodup := by
  rw [List.nodup_append]
  refine ⟨set.nodup, List.nodup_singleton key, ?_⟩
  intro member inside other last same
  rw [same, List.mem_singleton.mp last] at inside
  exact absent inside

/-- `HashSet::insert`. -/
def KeySet.insert (set : KeySet) (key : Pubkey) : KeySet :=
  if present : key ∈ set.keys then set else ⟨set.keys ++ [key], KeySet.nodup_append present⟩

def KeySet.ofList (keys : List Pubkey) : KeySet := keys.foldl KeySet.insert KeySet.empty

theorem KeySet.mem_insert {set : KeySet} {key found : Pubkey} :
    found ∈ (set.insert key).keys ↔ found ∈ set.keys ∨ found = key := by
  unfold KeySet.insert
  split
  · rename_i present
    exact ⟨.inl, fun either => either.elim id fun same => same ▸ present⟩
  · simp

theorem KeySet.mem_ofList {keys : List Pubkey} {key : Pubkey} : key ∈ (KeySet.ofList keys).keys ↔ key ∈ keys := by
  have grown : ∀ set : KeySet, key ∈ (keys.foldl KeySet.insert set).keys ↔ key ∈ set.keys ∨ key ∈ keys := by
    induction keys with
    | nil => simp
    | cons first rest ih =>
        intro set
        rw [List.foldl_cons, ih, KeySet.mem_insert, List.mem_cons, or_assoc]
  rw [KeySet.ofList, grown]
  simp [KeySet.empty]

def FeatureSet.default : FeatureSet := ⟨[]⟩

def FeatureSet.activate (features : FeatureSet) (feature : Pubkey) : FeatureSet := ⟨feature :: features.active⟩

theorem FeatureSet.mem_activate {features : List Pubkey} {start : FeatureSet} {feature : Pubkey} :
    feature ∈ (features.foldl FeatureSet.activate start).active ↔ feature ∈ features ∨ feature ∈ start.active := by
  induction features generalizing start with
  | nil => simp
  | cons first rest ih =>
      rw [List.foldl_cons, ih]
      simp [FeatureSet.activate, or_left_comm, or_assoc]

/-- `BuiltinPrototype`. -/
structure BuiltinPrototype (Entrypoint : Type) where
  featureId : Option Pubkey
  programId : Pubkey
  name : String
  entrypoint : Entrypoint

/-- The values of other crates that `new` starts from. -/
structure ExecutorDefaults (Programs Environment Program Sysvars Log Entrypoint : Type) where
  /-- `BUILTINS` -/
  builtins : List (BuiltinPrototype Entrypoint)
  /-- `LoadedPrograms::new` -/
  newPrograms (latestRootSlot latestRootEpoch : UInt64) : Programs
  setEnvironments : Programs → ProgramRuntimeEnvironments Environment → Programs
  /-- `create_program_runtime_environment_v1` -/
  environmentV1 : FeatureSet → Option Environment
  /-- `create_program_runtime_environment_v2` -/
  environmentV2 : Environment
  /-- `LoadedProgram::new_builtin` -/
  newBuiltin (deploymentSlot : Slot) (accountSize : Nat) (entrypoint : Entrypoint) : Program
  sysvarCache : Sysvars
  /-- `LogCollector::new_ref` -/
  newLog : Log

namespace MessageExecutor

variable {Programs Batch Environment Program WorkingSlot Sysvars Log Entrypoint : Type}

/-- `Bank::apply_builtin_program_feature_transitions`, for one builtin. -/
def addBuiltin (defaults : ExecutorDefaults Programs Environment Program Sysvars Log Entrypoint)
    (caches : ProgramCaches Programs Batch Environment Program WorkingSlot)
    (executor : MessageExecutor Programs Sysvars Log) (builtin : BuiltinPrototype Entrypoint) :
    MessageExecutor Programs Sysvars Log :=
  if (builtin.featureId.map executor.featureSet.isActive).getD true then
    { executor with
      builtinPrograms := executor.builtinPrograms.insert builtin.programId
      loadedPrograms := (caches.replenish executor.loadedPrograms builtin.programId
        (defaults.newBuiltin 0 builtin.name.utf8ByteSize builtin.entrypoint)).1 }
  else executor

/-- It panics where the environment cannot be created. -/
def new (defaults : ExecutorDefaults Programs Environment Program Sysvars Log Entrypoint)
    (caches : ProgramCaches Programs Batch Environment Program WorkingSlot) (enabledFeatures : List Pubkey) :
    Except LoadError (MessageExecutor Programs Sysvars Log) :=
  let features := enabledFeatures.foldl FeatureSet.activate FeatureSet.default
  let programOwners := KeySet.ofList [loaderV4Id, bpfLoaderUpgradeableId, bpfLoaderId, bpfLoaderDeprecatedId]
  let loadedPrograms := defaults.newPrograms defaultSlotsPerEpoch 1
  match defaults.environmentV1 features with
  | none => throw .panicked
  | some programRuntimeV1 =>
      let loadedPrograms := defaults.setEnvironments loadedPrograms
        { programRuntimeV1, programRuntimeV2 := defaults.environmentV2 }
      let executor : MessageExecutor Programs Sysvars Log := {
        featureSet := features
        sysvarCache := defaults.sysvarCache
        logger := some defaults.newLog
        programOwners
        loadedPrograms
        builtinPrograms := KeySet.empty }
      return defaults.builtins.foldl (addBuiltin defaults caches) executor

section New

variable {defaults : ExecutorDefaults Programs Environment Program Sysvars Log Entrypoint}
  {caches : ProgramCaches Programs Batch Environment Program WorkingSlot} {enabledFeatures : List Pubkey}

/-- The executor before its builtins are added. -/
structure Bare (defaults : ExecutorDefaults Programs Environment Program Sysvars Log Entrypoint)
    (enabledFeatures : List Pubkey) (start : MessageExecutor Programs Sysvars Log) : Prop where
  featureSet : start.featureSet = enabledFeatures.foldl FeatureSet.activate FeatureSet.default
  programOwners : start.programOwners =
    KeySet.ofList [loaderV4Id, bpfLoaderUpgradeableId, bpfLoaderId, bpfLoaderDeprecatedId]
  builtinPrograms : start.builtinPrograms = KeySet.empty
  logger : start.logger = some defaults.newLog
  loadedPrograms : ∃ environments, start.loadedPrograms =
    defaults.setEnvironments (defaults.newPrograms defaultSlotsPerEpoch 1) environments

theorem new_cases {executor : MessageExecutor Programs Sysvars Log}
    (created : new defaults caches enabledFeatures = .ok executor) :
    ∃ start, Bare defaults enabledFeatures start ∧
      executor = defaults.builtins.foldl (addBuiltin defaults caches) start := by
  unfold new at created
  cases environment : defaults.environmentV1 (enabledFeatures.foldl FeatureSet.activate FeatureSet.default) with
  | none => simp [environment] at created
  | some programRuntimeV1 =>
      simp only [environment, pure, Except.pure, Except.ok.injEq] at created
      exact ⟨_, ⟨rfl, rfl, rfl, rfl, _, rfl⟩, created.symm⟩

theorem addBuiltins_logger (builtins : List (BuiltinPrototype Entrypoint))
    (executor : MessageExecutor Programs Sysvars Log) :
    (builtins.foldl (addBuiltin defaults caches) executor).logger = executor.logger := by
  induction builtins generalizing executor with
  | nil => rfl
  | cons builtin rest ih =>
      rw [List.foldl_cons, ih, addBuiltin]
      split <;> rfl

end New

end MessageExecutor

end BpfSimulator
