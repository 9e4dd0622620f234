import Mathlib.Algebra.GroupWithZero.Nat
import Mathlib.Data.List.Basic

/-! Intervals cut into adjacent nonempty pieces. -/

set_option autoImplicit false

namespace Foundation

variable {α : Type} {first size : α → Nat}

/-- The pieces cover the numbers from `low` to `high` in order, each starting
where the one before ends. -/
inductive Tiles (first size : α → Nat) : Nat → List α → Nat → Prop where
  | nil {low : Nat} : Tiles first size low [] low
  | cons {piece : α} {rest : List α} {low high : Nat} :
      first piece = low → 0 < size piece → Tiles first size (low + size piece) rest high →
      Tiles first size low (piece :: rest) high

namespace Tiles

theorem append {low middle high : Nat} {left right : List α} (head : Tiles first size low left middle)
    (tail : Tiles first size middle right high) : Tiles first size low (left ++ right) high := by
  induction head with
  | nil => exact tail
  | cons starts positive _ ih => exact .cons starts positive (ih tail)

theorem snoc {low high : Nat} {pieces : List α} {piece : α} (head : Tiles first size low pieces (first piece))
    (positive : 0 < size piece) (stops : first piece + size piece = high) :
    Tiles first size low (pieces ++ [piece]) high :=
  head.append (.cons rfl positive (stops ▸ .nil))

theorem high_eq {low high : Nat} {pieces : List α} (tiles : Tiles first size low pieces high) :
    high = low + (pieces.map size).sum := by
  induction tiles with
  | nil => rfl
  | @cons piece _ low _ _ _ _ ih =>
      rw [ih, List.map_cons, List.sum_cons]
      exact Nat.add_assoc low (size piece) _

theorem low_le {low high : Nat} {pieces : List α} (tiles : Tiles first size low pieces high) : low ≤ high :=
  tiles.high_eq ▸ Nat.le_add_right low _

theorem bounds {low high : Nat} {pieces : List α} (tiles : Tiles first size low pieces high) {piece : α}
    (member : piece ∈ pieces) : low ≤ first piece ∧ 0 < size piece ∧ first piece + size piece ≤ high := by
  induction tiles with
  | nil => cases member
  | cons starts positive tail ih =>
      cases member with
      | head =>
          have rest := tail.low_le
          omega
      | tail _ member =>
          have later := ih member
          omega

/-- Every number of the interval lies in exactly one piece. -/
theorem existsUnique {low high : Nat} {pieces : List α} (tiles : Tiles first size low pieces high) {number : Nat}
    (above : low ≤ number) (below : number < high) :
    ∃! index : Nat, ∃ piece, pieces[index]? = some piece ∧ first piece ≤ number ∧ number < first piece + size piece := by
  induction tiles with
  | nil => omega
  | @cons head rest low high starts positive tail ih =>
      by_cases inHead : number < low + size head
      · refine ⟨0, ⟨head, rfl, by omega, by omega⟩, ?_⟩
        intro index reached
        obtain ⟨piece, found, reaches, _⟩ := reached
        cases index with
        | zero => rfl
        | succ index =>
            have later := (tail.bounds (List.mem_of_getElem? found)).1
            omega
      · obtain ⟨index, ⟨piece, found, holds⟩, unique⟩ := ih (by omega) below
        refine ⟨index + 1, ⟨piece, found, holds⟩, ?_⟩
        intro other reached
        obtain ⟨otherPiece, otherFound, otherHolds⟩ := reached
        cases other with
        | zero =>
            cases otherFound
            omega
        | succ other => exact congrArg (· + 1) (unique other ⟨otherPiece, otherFound, otherHolds⟩)

end Tiles

end Foundation
