import Mathlib.Data.List.Basic
import BpfSimulator.Foundation.LittleEndian

/-! Reading a byte string from front to back. The reader knows the absolute
position it is at, so that an encoding may depend on where it stands. -/

set_option autoImplicit false

namespace Foundation

/-- What is left to read, and the absolute position of its first byte. -/
structure Cursor where
  position : Nat
  rest : List UInt8
  deriving DecidableEq

abbrev Reader := StateT Cursor Option

namespace Reader

def position : Reader Nat := fun cursor => some (cursor.position, cursor)

def bytes (count : Nat) : Reader (List UInt8) := fun cursor =>
  if count ≤ cursor.rest.length then
    some (cursor.rest.take count, ⟨cursor.position + count, cursor.rest.drop count⟩)
  else none

def word (width : Nat) : Reader Nat := do
  return fromLe (← bytes width)

/-- The next byte. -/
def byte : Reader UInt8 := do
  return (← bytes 1).headD 0

def expect (marker : UInt8) : Reader Unit := do
  if (← byte) = marker then pure () else failure

def many {α : Type} (reader : Reader α) : Nat → Reader (List α)
  | 0 => pure []
  | count + 1 => do
      let value ← reader
      let values ← many reader count
      pure (value :: values)

/-- At position `start` the reader takes exactly `encoded`, whatever follows. -/
def Reads {α : Type} (start : Nat) (reader : Reader α) (encoded : List UInt8) (value : α) : Prop :=
  ∀ suffix, reader ⟨start, encoded ++ suffix⟩ = some (value, ⟨start + encoded.length, suffix⟩)

variable {α β : Type} {start : Nat} {encoded : List UInt8}

theorem Reads.pure (value : α) : Reads start (Pure.pure value) [] value := fun _ => rfl

theorem Reads.bind {part : Reader α} (next : α → Reader β) {first second : List UInt8} {value : α}
    {result : β} (left : Reads start part first value)
    (right : Reads (start + first.length) (next value) second result) :
    Reads start (part >>= next) (first ++ second) result := by
  intro suffix
  have head := left (second ++ suffix)
  have tail := right suffix
  simp only [Bind.bind, StateT.bind, List.append_assoc, head, Option.bind_some, tail,
    List.length_append, Nat.add_assoc]

theorem Reads.map {part : Reader α} {value : α} (read : Reads start part encoded value) (f : α → β) :
    Reads start (do return f (← part)) encoded (f value) := by
  have both := read.bind (fun value => Pure.pure (f value)) (Reads.pure (f value))
  simpa only [List.append_nil] using both

theorem Reads.congr {reader : Reader α} {encoded' : List UInt8} {value value' : α}
    (read : Reads start reader encoded value) (sameBytes : encoded = encoded') (sameValue : value = value') :
    Reads start reader encoded' value' := sameBytes ▸ sameValue ▸ read

theorem reads_position (start : Nat) : Reads start position [] start := fun _ => rfl

theorem reads_bytes (start : Nat) {count : Nat} (size : encoded.length = count) :
    Reads start (bytes count) encoded encoded := by
  intro suffix
  subst size
  simp only [bytes, List.length_append, Nat.le_add_right, ↓reduceIte, List.take_left, List.drop_left]

theorem reads_word (start : Nat) {width number : Nat} (fits : number < 256 ^ width) :
    Reads start (word width) (toLe width number) number := by
  have read := (reads_bytes start (length_toLe width number)).map fromLe
  rwa [fromLe_toLe fits] at read

theorem reads_byte (start : Nat) (value : UInt8) : Reads start byte [value] value := by
  have taken : Reads start (bytes 1) [value] [value] := reads_bytes start rfl
  exact taken.map fun read => read.headD 0

theorem reads_expect (start : Nat) (marker : UInt8) : Reads start (expect marker) [marker] () := by
  have accepted : Reads (start + 1) (if marker = marker then Pure.pure () else failure) [] () := by
    simpa only [↓reduceIte] using Reads.pure ()
  exact (reads_byte start marker).bind (fun found => if found = marker then Pure.pure () else failure) accepted

/-- A reader of single records reads a sequence of records, each of which may
be read only where it stands. -/
theorem reads_many {ι : Type} {reader : Reader α} {encode : ι → List UInt8} {value : Nat → ι → α}
    {allowed : Nat → ι → Prop}
    (single : ∀ start item, allowed start item → Reads start reader (encode item) (value start item))
    (next : ∀ start item, allowed start item → ∀ later, allowed start later →
      allowed (start + (encode item).length) later)
    (items : List ι) (start : Nat) (permitted : ∀ item ∈ items, allowed start item) :
    ∃ values, Reads start (many reader items.length) (items.flatMap encode) values ∧
      values.length = items.length ∧
      ∀ (index : Nat) item, items[index]? = some item →
        ∃ position, allowed position item ∧ values[index]? = some (value position item) := by
  induction items generalizing start with
  | nil => exact ⟨[], Reads.pure [], rfl, fun index item found => by simp at found⟩
  | cons item rest ih =>
      have headAllowed := permitted item (.head _)
      obtain ⟨values, tail, length, related⟩ := ih (start + (encode item).length) fun later member =>
        next start item headAllowed later (permitted later (.tail _ member))
      refine ⟨value start item :: values, ?_, by simp [length], ?_⟩
      · exact (single start item headAllowed).bind
          (fun value => do return value :: (← many reader rest.length))
          (tail.map fun values => value start item :: values)
      · intro index found selected
        cases index with
        | zero =>
            cases selected
            exact ⟨start, headAllowed, rfl⟩
        | succ index => simpa only [List.getElem?_cons_succ] using related index found selected

end Reader

end Foundation
