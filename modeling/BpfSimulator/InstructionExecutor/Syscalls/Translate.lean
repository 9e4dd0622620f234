import BpfSimulator.InstructionExecutor.Context
import BpfSimulator.Foundation.Fallible

/-! Translation of virtual addresses and slices for syscalls. A translated
slice is known by its host address; its contents are read from host memory
when they are used, so a later write through another slice is seen. -/

set_option autoImplicit false

namespace BpfSimulator.Syscalls

open Foundation

/-- What a syscall can change: the invocation context and host memory. -/
structure SyscallState (Log : Type) where
  context : InvokeContext Log
  memory : ByteMemory

abbrev SyscallM (Log : Type) := EStateM ErrorObj (SyscallState Log)

variable {Log : Type}

/-- A host slice of `len` elements. -/
structure HostSlice where
  hostAddr : Nat
  len : Nat
  deriving DecidableEq

/-- The layout of a type that is read or written through a translated address. -/
structure TypeLayout where
  size : Nat
  align : Nat
  deriving DecidableEq

def byteLayout : TypeLayout := ⟨1, 1⟩

def pubkeyLayout : TypeLayout := ⟨Pubkey.sizeOf, 1⟩

def sliceLayout : TypeLayout := ⟨16, 8⟩

def clockLayout : TypeLayout := ⟨Clock.sizeOf, 8⟩

def saturatingMul (left right : Nat) : Nat := min (left * right) u64Max

/-- A product below the greatest number did not saturate. -/
theorem saturatingMul_exact {left right : Nat} (small : saturatingMul left right < u64Max) :
    saturatingMul left right = left * right := by
  unfold saturatingMul at small ⊢
  omega

theorem saturatingMul_pos {left right : Nat} (leftPositive : 0 < left) (rightPositive : 0 < right) :
    0 < saturatingMul left right :=
  Nat.lt_min.mpr ⟨Nat.mul_pos leftPositive rightPositive, by decide⟩

def addressIsAligned (layout : TypeLayout) (address : Nat) : Bool :=
  address % layout.align == 0

def translate (mapping : MemoryMapping) (access : AccessType) (vmAddr len : Nat) : Except ErrorObj Nat :=
  match mapping.map access vmAddr len with
  | .ok hostAddr => .ok hostAddr
  | .error error => .error (.ebpf error)

def translateSliceInner (layout : TypeLayout) (mapping : MemoryMapping) (access : AccessType)
    (vmAddr len : Nat) (checkAligned checkSize : Bool) : Except ErrorObj HostSlice :=
  if len = 0 then .ok ⟨0, 0⟩
  else
    let totalSize := saturatingMul len layout.size
    if checkSize && decide (isizeMax < totalSize) then .error (.syscall .invalidLength)
    else
      match translate mapping access vmAddr totalSize with
      | .error error => .error error
      | .ok hostAddr =>
          if checkAligned && !addressIsAligned layout hostAddr then .error (.syscall .unalignedPointer)
          else .ok ⟨hostAddr, len⟩

def translateSlice (layout : TypeLayout) (mapping : MemoryMapping) (vmAddr len : Nat)
    (checkAligned checkSize : Bool) : Except ErrorObj HostSlice :=
  translateSliceInner layout mapping .load vmAddr len checkAligned checkSize

def translateSliceMut (layout : TypeLayout) (mapping : MemoryMapping) (vmAddr len : Nat)
    (checkAligned checkSize : Bool) : Except ErrorObj HostSlice :=
  translateSliceInner layout mapping .store vmAddr len checkAligned checkSize

def translateTypeInner (layout : TypeLayout) (mapping : MemoryMapping) (access : AccessType)
    (vmAddr : Nat) (checkAligned : Bool) : Except ErrorObj Nat :=
  match translate mapping access vmAddr layout.size with
  | .error error => .error error
  | .ok hostAddr =>
      if !checkAligned then .ok hostAddr
      else if !addressIsAligned layout hostAddr then .error (.syscall .unalignedPointer)
      else .ok hostAddr

def translateTypeMut (layout : TypeLayout) (mapping : MemoryMapping) (vmAddr : Nat)
    (checkAligned : Bool) : Except ErrorObj Nat :=
  translateTypeInner layout mapping .store vmAddr checkAligned

def translateType (layout : TypeLayout) (mapping : MemoryMapping) (vmAddr : Nat)
    (checkAligned : Bool) : Except ErrorObj Nat :=
  translateTypeInner layout mapping .load vmAddr checkAligned

def readSlice (memory : ByteMemory) (slice : HostSlice) : List UInt8 :=
  memory.read slice.hostAddr slice.len

/-- Whether two ranges are disjoint, by the distance of their starts. -/
def isNonoverlapping (src srcLen dst dstLen : Nat) : Bool :=
  if src > dst then decide (src - dst ≥ dstLen) else decide (dst - src ≥ srcLen)

theorem isNonoverlapping_iff {src srcLen dst dstLen : Nat} (srcNonempty : 0 < srcLen)
    (dstNonempty : 0 < dstLen) :
    isNonoverlapping src srcLen dst dstLen = true ↔ src + srcLen ≤ dst ∨ dst + dstLen ≤ src := by
  unfold isNonoverlapping
  split <;> simp only [decide_eq_true_eq] <;> omega

theorem translateSliceInner_ok_iff {layout : TypeLayout} {mapping : MemoryMapping} {access : AccessType}
    {vmAddr len : Nat} {checkAligned checkSize : Bool} {slice : HostSlice} (positive : len ≠ 0) :
    translateSliceInner layout mapping access vmAddr len checkAligned checkSize = .ok slice ↔
      slice.len = len ∧ mapping.map access vmAddr (saturatingMul len layout.size) = .ok slice.hostAddr ∧
        (checkSize = true → saturatingMul len layout.size ≤ isizeMax) ∧
        (checkAligned = true → addressIsAligned layout slice.hostAddr = true) := by
  constructor
  · intro translated
    simp only [translateSliceInner, if_neg positive, translate] at translated
    cases oversized : checkSize && decide (isizeMax < saturatingMul len layout.size) with
    | true => simp [oversized] at translated
    | false =>
        cases mapped : mapping.map access vmAddr (saturatingMul len layout.size) with
        | error error => simp [oversized, mapped] at translated
        | ok hostAddr =>
            cases misplaced : checkAligned && !addressIsAligned layout hostAddr with
            | true => simp [oversized, mapped, misplaced] at translated
            | false =>
                simp only [oversized, mapped, misplaced, Bool.false_eq_true, ↓reduceIte] at translated
                cases translated
                exact ⟨rfl, rfl, by simpa using oversized, by simpa using misplaced⟩
  · intro accepted
    obtain ⟨rfl, mapped, small, aligned⟩ := accepted
    have sized : (checkSize && decide (isizeMax < saturatingMul slice.len layout.size)) = false := by
      simpa using small
    have placed : (checkAligned && !addressIsAligned layout slice.hostAddr) = false := by
      simpa using aligned
    simp only [translateSliceInner, if_neg positive, translate, sized, mapped, placed, Bool.false_eq_true,
      ↓reduceIte]

theorem translateSliceInner_bytes (mapping : MemoryMapping) (access : AccessType) (vmAddr : Nat) {len : Nat}
    (positive : len ≠ 0) (fits : len ≤ u64Max) :
    translateSliceInner byteLayout mapping access vmAddr len false false =
      match mapping.map access vmAddr len with
      | .ok hostAddr => .ok ⟨hostAddr, len⟩
      | .error error => .error (.ebpf error) := by
  have total : saturatingMul len byteLayout.size = len := by
    simp only [saturatingMul, byteLayout, Nat.mul_one, Nat.min_eq_left fits]
  simp only [translateSliceInner, if_neg positive, total, translate, Bool.false_and, Bool.false_eq_true,
    ↓reduceIte]
  cases mapping.map access vmAddr len <;> rfl

theorem translateTypeInner_unchecked (layout : TypeLayout) (mapping : MemoryMapping)
    (access : AccessType) (vmAddr : Nat) :
    translateTypeInner layout mapping access vmAddr false =
      match mapping.map access vmAddr layout.size with
      | .ok hostAddr => .ok hostAddr
      | .error error => .error (.ebpf error) := by
  simp only [translateTypeInner, translate]
  cases mapping.map access vmAddr layout.size <;> rfl

end BpfSimulator.Syscalls
