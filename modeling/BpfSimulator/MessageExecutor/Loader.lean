import BpfSimulator.Sdk

/-! The account loader, the messages it loads for and the ways it fails. -/

set_option autoImplicit false

namespace BpfSimulator

/-- `HashSet<Pubkey>`, listed in its iteration order. -/
structure KeySet where
  keys : List Pubkey
  nodup : keys.Nodup

def KeySet.single (key : Pubkey) : KeySet := ⟨[key], List.pairwise_singleton (· ≠ ·) key⟩

def KeySet.contains (set : KeySet) (key : Pubkey) : Bool := decide (key ∈ set.keys)

/-- `FeatureSet`, by the features that are active. -/
structure FeatureSet where
  active : List Pubkey

def FeatureSet.isActive (features : FeatureSet) (feature : Pubkey) : Bool := decide (feature ∈ features.active)

structure CompiledInstruction where
  programIdIndex : UInt8
  accounts : List UInt8
  data : List UInt8
  deriving DecidableEq

/-- `SanitizedMessage`, which may hold indices that nobody checked. -/
structure SanitizedMessage where
  accountKeys : List Pubkey
  instructions : List CompiledInstruction
  deriving DecidableEq

/-- The variants of `TransactionError` that the loaders return. -/
inductive TransactionError where
  | accountNotFound
  | programAccountNotFound
  | callChainTooDeep
  deriving DecidableEq

/-- The ways loading fails. `panicked` stands for a panic of third-party code. -/
inductive LoadError where
  | transaction (error : TransactionError)
  | panicked
  deriving DecidableEq

/-- `AccountLoader`. The account source `g` answers the same for the same key;
`Programs` is the type of the shared program cache. -/
structure AccountLoader (Programs : Type) where
  g : Pubkey → Option Account
  featureSet : FeatureSet
  loadedProgramsCache : Programs
  programOwners : KeySet
  builtinPrograms : KeySet

def AccountLoader.getAccountWithFixedRoot {Programs : Type} (loader : AccountLoader Programs) (key : Pubkey) :
    Except LoadError (Option Account) :=
  .ok (loader.g key)

end BpfSimulator
