import BpfSimulator.Rbpf
import BpfSimulator.Foundation.ByteMemory

/-! The invocation context, the account-size interface and the errors of the
instruction executor. -/

set_option autoImplicit false

namespace BpfSimulator

/-- The account slots of an executor: how many there are and how much data
each one can hold. `size` panics where it gives no answer, which it may do only
outside the slots. -/
class AccountSizes (A : Type) where
  len : A → Nat
  size : A → Nat → Nat
  answers : A → Nat → Bool
  answers_slots : ∀ accountSizes index, index < len accountSizes → answers accountSizes index = true

/-- `Vec<usize>`: one size for each slot. -/
instance : AccountSizes (List Nat) where
  len := List.length
  size sizes index := sizes.getD index 0
  answers sizes index := decide (index < sizes.length)
  answers_slots _ _ bound := decide_eq_true bound

instance : AccountSizes (Nat × Nat) where
  len := Prod.fst
  size sizes _ := sizes.2
  answers _ _ := true
  answers_slots _ _ _ := rfl

/-- The clock sysvar. Signed fields are kept as their two's complement word. -/
structure Clock where
  slot : UInt64
  epochStartTimestamp : UInt64
  epoch : UInt64
  leaderScheduleEpoch : UInt64
  unixTimestamp : UInt64
  deriving DecidableEq

def Clock.toBytes (clock : Clock) : List UInt8 :=
  u64ToLe clock.slot ++ u64ToLe clock.epochStartTimestamp ++ u64ToLe clock.epoch ++
    u64ToLe clock.leaderScheduleEpoch ++ u64ToLe clock.unixTimestamp

def Clock.sizeOf : Nat := 40

theorem Clock.length_toBytes (clock : Clock) : clock.toBytes.length = Clock.sizeOf := by
  simp [toBytes, sizeOf]

/-- The sysvar cache, by the answer it gives when asked for the clock. -/
structure SysvarCache where
  getClock : Except InstructionError Clock

def SysvarCache.default : SysvarCache := ⟨.error .unsupportedSysvar⟩

/-- The context of an invocation. `Log` is the type of log collectors. -/
structure InvokeContext (Log : Type) where
  sysvars : SysvarCache
  instructionRemaining : Nat
  logCollector : Option Log
  programId : Pubkey
  returnData : Pubkey × List UInt8

namespace InvokeContext

variable {Log : Type}

def new : InvokeContext Log where
  sysvars := SysvarCache.default
  instructionRemaining := u64Max / 256
  logCollector := none
  programId := Pubkey.default
  returnData := (Pubkey.default, [])

def getCheckAligned (_context : InvokeContext Log) : Bool := false

def getCheckSize (_context : InvokeContext Log) : Bool := false

/-- `ContextObject::consume`, a saturating subtraction. -/
def consume (context : InvokeContext Log) (amount : Nat) : InvokeContext Log :=
  { context with instructionRemaining := context.instructionRemaining - amount }

def getRemaining (context : InvokeContext Log) : Nat := context.instructionRemaining

end InvokeContext

/-- `Utf8Error`, by the length of the longest valid prefix. -/
structure Utf8Error where
  validUpTo : Nat
  deriving DecidableEq

private def isUtf8 (bytes : List UInt8) : Bool := (ByteArray.mk bytes.toArray).validateUTF8

def fromUtf8 (bytes : List UInt8) : Except Utf8Error String :=
  match String.fromUTF8? (ByteArray.mk bytes.toArray) with
  | some message => .ok message
  | none => .error ⟨((List.range bytes.length).reverse.find? fun count => isUtf8 (bytes.take count)).getD 0⟩

/-- The variants of `SyscallError` that some syscall returns. -/
inductive SyscallError where
  | invalidString (error : Utf8Error) (bytes : List UInt8)
  | abort
  | panic (message : String) (line column : Nat)
  | invokeContextBorrowFailed
  | badSeeds
  | unalignedPointer
  | copyOverlapping
  | returnDataTooLarge (len max : Nat)
  | invalidLength
  deriving DecidableEq

/-- The boxed error of a syscall. -/
inductive ErrorObj where
  | syscall (error : SyscallError)
  | ebpf (error : EbpfError)
  | instruction (error : InstructionError)
  deriving DecidableEq

/-- The ways an executor call fails. `outOfBounds` stands for a panic on an
index, `elf` for a program that does not load or compile. -/
inductive ExecutorError where
  | invalidInstruction
  | invalidAccount
  | missingProgram
  | instruction (error : InstructionError)
  | io
  | elf (message : String)
  | vm (error : ErrorObj)
  | outOfBounds
  deriving DecidableEq

end BpfSimulator
