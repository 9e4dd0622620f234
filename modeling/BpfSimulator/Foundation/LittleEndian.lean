import Mathlib.Data.Nat.Basic
import Mathlib.Tactic.Ring

/-! Fixed-width little-endian words as byte lists. -/

set_option autoImplicit false

namespace Foundation

def toLe : Nat → Nat → List UInt8
  | 0, _ => []
  | width + 1, value => UInt8.ofNat (value % 256) :: toLe width (value / 256)

def fromLe : List UInt8 → Nat
  | [] => 0
  | byte :: rest => byte.toNat + 256 * fromLe rest

@[simp] theorem length_toLe (width value : Nat) : (toLe width value).length = width := by
  induction width generalizing value with
  | zero => rfl
  | succ width ih => simp only [toLe, List.length_cons, ih]

theorem fromLe_toLe {width value : Nat} (fits : value < 256 ^ width) :
    fromLe (toLe width value) = value := by
  induction width generalizing value with
  | zero =>
      have zero : value = 0 := by simpa using fits
      simp [toLe, fromLe, zero]
  | succ width ih =>
      have quotient : value / 256 < 256 ^ width := by
        rw [Nat.div_lt_iff_lt_mul (by decide), ← Nat.pow_succ]
        exact fits
      have byte : (UInt8.ofNat (value % 256)).toNat = value % 256 := by simp
      simp only [toLe, fromLe, ih quotient, byte]
      omega

theorem fromLe_lt (bytes : List UInt8) : fromLe bytes < 256 ^ bytes.length := by
  induction bytes with
  | nil => simp [fromLe]
  | cons byte rest ih =>
      have bounded := byte.toNat_lt
      simp only [fromLe, List.length_cons, Nat.pow_succ]
      omega

theorem toLe_fromLe (bytes : List UInt8) : toLe bytes.length (fromLe bytes) = bytes := by
  induction bytes with
  | nil => rfl
  | cons byte rest ih =>
      have bounded := byte.toNat_lt
      have low : (byte.toNat + 256 * fromLe rest) % 256 = byte.toNat := by omega
      have high : (byte.toNat + 256 * fromLe rest) / 256 = fromLe rest := by omega
      simp only [fromLe, List.length_cons, toLe, low, high, ih, UInt8.ofNat_toNat]

end Foundation
