import BpfSimulator.InstructionExecutor.Context
import BpfSimulator.Foundation.Fallible

/-! Writing values into the input buffer. Every writer appends when no
position is given and overwrites in place otherwise; it returns the position
after the value. Appends of values are unchecked, fills are checked. -/

set_option autoImplicit false

namespace BpfSimulator.InstructionExecutor

open Foundation

abbrev BufferM := EStateM ExecutorError AlignedMemory

/-- The length filled so far. -/
def bufferLen : BufferM Nat := fun buffer => .ok buffer.len buffer

/-- Overwrite a slice of the filled part; an index outside it is a panic. -/
def overwriteAt (start : Nat) (value : List UInt8) : BufferM Nat := fun buffer =>
  if start + value.length ≤ buffer.len then
    .ok (start + value.length) (buffer.overwrite start value)
  else
    .error .outOfBounds buffer

def fillWrite (position : Option Nat) (num : Nat) (value : UInt8) : BufferM Nat :=
  match position with
  | some start => overwriteAt start (List.replicate num value)
  | none => fun buffer =>
      match buffer.fillWrite? num value with
      | some filled => .ok filled.len filled
      | none => .error .io buffer

/-- `write::<T>` of a value with the given bytes. -/
def write (position : Option Nat) (value : List UInt8) : BufferM Nat :=
  match position with
  | some start => overwriteAt start value
  | none => fun buffer => .ok (buffer.writeUnchecked value).len (buffer.writeUnchecked value)

def writeAll (position : Option Nat) (value : List UInt8) : BufferM Nat :=
  match position with
  | some start => overwriteAt start value
  | none => fun buffer => .ok (buffer.writeAllUnchecked value).len (buffer.writeAllUnchecked value)

/-- Inside an account a refused fill is reported as an invalid argument. -/
def invalidArgument : ExecutorError → ExecutorError
  | .io => .instruction .invalidArgument
  | error => error

/-- `bool as u8`. -/
def boolToByte : Bool → UInt8
  | true => 1
  | false => 0

def writeAccount {T : Type} [ReadableAccount T] (accountSize : Nat) (position : Option Nat)
    (key : Pubkey) (account : T) (isSigner isWritable isExecutable : Bool) : BufferM Nat := do
  let next ← write position [nonDupMarker]
  let position := position.map fun _ => next
  let next ← write position [boolToByte isSigner]
  let position := position.map fun _ => next
  let next ← write position [boolToByte isWritable]
  let position := position.map fun _ => next
  let next ← write position [boolToByte isExecutable]
  let position := position.map fun _ => next
  let next ← writeAll position [0, 0, 0, 0]
  let position := position.map fun _ => next
  let next ← writeAll position key.bytes
  let position := position.map fun _ => next
  let next ← writeAll position (ReadableAccount.owner account).bytes
  let position := position.map fun _ => next
  let next ← write position (u64ToLe (ReadableAccount.lamports account))
  let position := position.map fun _ => next
  let next ← write position (usizeToLe accountSize)
  let position := position.map fun _ => next
  let next ← writeAll position (ReadableAccount.data account)
  let position := position.map fun _ => next
  let offset := alignOffset accountSize bpfAlignOfU128
  let next ← EStateM.adaptExcept invalidArgument (fillWrite position
    (wrappingAdd (wrappingAdd (accountSize - (ReadableAccount.data account).length)
      maxPermittedDataIncrease) offset) 0)
  let position := position.map fun _ => next
  write position (u64ToLe (ReadableAccount.rentEpoch account))

def writeEmptyAccount (dataSize : Nat) : BufferM Unit := do
  let _ ← write none [nonDupMarker]
  let _ ← write none [0]
  let _ ← write none [0]
  let _ ← write none [0]
  let _ ← writeAll none [0, 0, 0, 0]
  let _ ← writeAll none Pubkey.default.bytes
  let _ ← writeAll none Pubkey.default.bytes
  let _ ← write none (u64ToLe 0)
  let _ ← write none (usizeToLe dataSize)
  let offset := alignOffset dataSize bpfAlignOfU128
  let _ ← EStateM.adaptExcept invalidArgument
    (fillWrite none (wrappingAdd (wrappingAdd dataSize maxPermittedDataIncrease) offset) 0)
  let _ ← write none (u64ToLe 0)

end BpfSimulator.InstructionExecutor
