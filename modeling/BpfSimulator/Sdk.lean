import Mathlib.Data.List.Lex
import BpfSimulator.Foundation.LittleEndian

/-! The part of the Solana SDK's data model both executors work on. -/

set_option autoImplicit false

namespace BpfSimulator

/-- A 32-byte account address. -/
structure Pubkey where
  bytes : List UInt8
  size : bytes.length = 32
  deriving DecidableEq

namespace Pubkey

def sizeOf : Nat := 32

def default : Pubkey := ⟨List.replicate 32 0, rfl⟩

/-- The key whose bytes are all equal to `byte`. -/
def filled (byte : UInt8) : Pubkey := ⟨List.replicate 32 byte, rfl⟩

@[simp] theorem length_bytes (key : Pubkey) : key.bytes.length = 32 := key.size

theorem ext_bytes {left right : Pubkey} (same : left.bytes = right.bytes) : left = right := by
  cases left; cases right; cases same; rfl

private def weights (key : Pubkey) : List Nat := key.bytes.map UInt8.toNat

private theorem weights_injective : Function.Injective weights := by
  intro left right same
  have bytes : left.bytes = right.bytes :=
    List.map_injective_iff.mpr (fun _ _ equal => UInt8.toNat_inj.mp equal) same
  exact ext_bytes bytes

/-- Keys are ordered byte by byte from the first byte on. -/
instance : LinearOrder Pubkey := LinearOrder.lift' weights weights_injective

end Pubkey

/-- `native_loader::id()`, `NativeLoader1111111111111111111111111111111`. -/
def nativeLoaderId : Pubkey :=
  ⟨[0x05, 0x87, 0x84, 0xbf, 0x14, 0x8b, 0xa4, 0x28, 0x2f, 0xb0, 0x12, 0x57, 0x48, 0x88, 0xa9, 0xf1,
    0x53, 0xa0, 0x7d, 0xad, 0xf7, 0x65, 0xc0, 0x45, 0x5c, 0x9a, 0x97, 0x03, 0x80, 0x00, 0x00, 0x00], rfl⟩

/-- `sysvar::id()`, `Sysvar1111111111111111111111111111111111111`. -/
def sysvarId : Pubkey :=
  ⟨[0x06, 0xa7, 0xd5, 0x17, 0x18, 0x75, 0xf7, 0x29, 0xc7, 0x3d, 0x93, 0x40, 0x8f, 0x21, 0x61, 0x20,
    0x06, 0x7e, 0xd8, 0x8c, 0x76, 0xe0, 0x8c, 0x28, 0x7f, 0xc1, 0x94, 0x60, 0x00, 0x00, 0x00, 0x00], rfl⟩

/-- `sysvar::instructions::id()`, `Sysvar1nstructions1111111111111111111111111`. -/
def instructionsSysvarId : Pubkey :=
  ⟨[0x06, 0xa7, 0xd5, 0x17, 0x18, 0x7b, 0xd1, 0x66, 0x35, 0xda, 0xd4, 0x04, 0x55, 0xfd, 0xc2, 0xc0,
    0xc1, 0x24, 0xc6, 0x8f, 0x21, 0x56, 0x75, 0xa5, 0xdb, 0xba, 0xcb, 0x5f, 0x08, 0x00, 0x00, 0x00], rfl⟩

/-- `bpf_loader_upgradeable::id()`, `BPFLoaderUpgradeab1e11111111111111111111111`. -/
def bpfLoaderUpgradeableId : Pubkey :=
  ⟨[0x02, 0xa8, 0xf6, 0x91, 0x4e, 0x88, 0xa1, 0xb0, 0xe2, 0x10, 0x15, 0x3e, 0xf7, 0x63, 0xae, 0x2b,
    0x00, 0xc2, 0xb9, 0x3d, 0x16, 0xc1, 0x24, 0xd2, 0xc0, 0x53, 0x7a, 0x10, 0x04, 0x80, 0x00, 0x00], rfl⟩

/-- `loader_v4::id()`, `LoaderV411111111111111111111111111111111111`. -/
def loaderV4Id : Pubkey :=
  ⟨[0x05, 0x12, 0xb4, 0x11, 0x51, 0x51, 0xe3, 0x7a, 0xad, 0x0a, 0x8b, 0xc5, 0xd3, 0x88, 0x2e, 0x7b,
    0x7f, 0xda, 0x4c, 0xf3, 0xd2, 0xc0, 0x28, 0xc8, 0xcf, 0x83, 0x36, 0x18, 0x00, 0x00, 0x00, 0x00], rfl⟩

/-- `feature_set::delay_visibility_of_program_deployment::id()`, `GmuBvtFb2aHfSfMXpuFeWZGHyDeCLPS79s48fmCWCfM5`. -/
def delayVisibilityOfProgramDeploymentId : Pubkey :=
  ⟨[0xea, 0x5f, 0xde, 0x80, 0x1b, 0x0d, 0x12, 0xd6, 0x7b, 0x51, 0xc2, 0xb5, 0xc6, 0x08, 0x33, 0x59,
    0x68, 0x07, 0x4f, 0x61, 0x84, 0x0f, 0xaf, 0xfe, 0xf5, 0x96, 0x2c, 0x58, 0xbb, 0xe9, 0x9f, 0x4c], rfl⟩

/-- An account as an account source hands it out. -/
structure Account where
  lamports : UInt64
  data : List UInt8
  owner : Pubkey
  executable : Bool
  rentEpoch : UInt64
  deriving DecidableEq

def Account.default : Account where
  lamports := 0
  data := []
  owner := Pubkey.default
  executable := false
  rentEpoch := 0

/-- The read access that `update_account` needs of an account. -/
class ReadableAccount (T : Type) where
  lamports : T → UInt64
  data : T → List UInt8
  owner : T → Pubkey
  executable : T → Bool
  rentEpoch : T → UInt64

instance : ReadableAccount Account where
  lamports := Account.lamports
  data := Account.data
  owner := Account.owner
  executable := Account.executable
  rentEpoch := Account.rentEpoch

/-- The instruction errors that the simulator's code produces or passes on;
`fromCode` is the one a program's exit code stands for. -/
inductive InstructionError where
  | invalidArgument
  | invalidAccountData
  | unsupportedSysvar
  | fromCode (code : Nat)
  deriving DecidableEq

def u64ToLe (value : UInt64) : List UInt8 := Foundation.toLe 8 value.toNat

def u64FromLe (bytes : List UInt8) : UInt64 := UInt64.ofNat (Foundation.fromLe bytes)

@[simp] theorem length_u64ToLe (value : UInt64) : (u64ToLe value).length = 8 :=
  Foundation.length_toLe 8 value.toNat

theorem u64FromLe_u64ToLe (value : UInt64) : u64FromLe (u64ToLe value) = value := by
  have fits : value.toNat < 256 ^ 8 := value.toNat_lt
  rw [u64FromLe, u64ToLe, Foundation.fromLe_toLe fits, UInt64.ofNat_toNat]

theorem u64ToLe_u64FromLe {bytes : List UInt8} (length : bytes.length = 8) : u64ToLe (u64FromLe bytes) = bytes := by
  have fits : Foundation.fromLe bytes < 2 ^ 64 := by
    have bounded := Foundation.fromLe_lt bytes
    rwa [length] at bounded
  rw [u64ToLe, u64FromLe, UInt64.toNat_ofNat', Nat.mod_eq_of_lt fits, ← length, Foundation.toLe_fromLe]

theorem u64FromLe_inj {left right : List UInt8} (leftLength : left.length = 8) (rightLength : right.length = 8)
    (same : u64FromLe left = u64FromLe right) : left = right := by
  rw [← u64ToLe_u64FromLe leftLength, same, u64ToLe_u64FromLe rightLength]

/-- One more than the largest `usize` or `u64`. -/
def wordRange : Nat := 2 ^ 64

def u64Max : Nat := 2 ^ 64 - 1

def isizeMax : Nat := 2 ^ 63 - 1

/-- `usize` addition as compiled with `--release`, where it wraps. -/
def wrappingAdd (left right : Nat) : Nat := (left + right) % wordRange

/-- Conversion of a `usize` to the bytes of a little-endian `u64`. -/
def usizeToLe (value : Nat) : List UInt8 := u64ToLe (UInt64.ofNat value)

@[simp] theorem length_usizeToLe (value : Nat) : (usizeToLe value).length = 8 :=
  length_u64ToLe _

theorem wrappingAdd_eq {left right : Nat} (fits : left + right < wordRange) :
    wrappingAdd left right = left + right :=
  Nat.mod_eq_of_lt fits

def maxPermittedDataIncrease : Nat := 10240

def bpfAlignOfU128 : Nat := 8

def nonDupMarker : UInt8 := 0xFF

def heapLength : Nat := 32 * 1024

/-- `(address as *const u8).align_offset(alignment)`: how far `address` is from
the next multiple of `alignment`. -/
def alignOffset (address alignment : Nat) : Nat := (alignment - address % alignment) % alignment

theorem alignOffset_aligned (address : Nat) :
    (address + alignOffset address bpfAlignOfU128) % bpfAlignOfU128 = 0 := by
  simp only [alignOffset, bpfAlignOfU128]
  omega

theorem alignOffset_lt (address : Nat) : alignOffset address bpfAlignOfU128 < bpfAlignOfU128 :=
  Nat.mod_lt _ (by decide)

theorem alignOffset_add_of_aligned {base : Nat} (aligned : base % bpfAlignOfU128 = 0) (address : Nat) :
    alignOffset (base + address) bpfAlignOfU128 = alignOffset address bpfAlignOfU128 := by
  simp only [alignOffset, bpfAlignOfU128] at *
  omega

end BpfSimulator
