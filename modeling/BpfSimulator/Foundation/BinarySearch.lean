import Mathlib.Data.List.InsertIdx
import Mathlib.Data.List.Sort

/-! Binary search by a key and the insertion of what it does not find. On a
list that is strictly increasing by key the search decides membership, and
inserting where it stopped keeps the list strictly increasing. -/

set_option autoImplicit false

namespace Foundation

section BinarySearch

variable {α κ : Type} [LinearOrder κ] (key : α → κ)

/-- One window of a binary search, with the rounds it may still take. -/
def binarySearchLoop (items : List α) (target : κ) : Nat → Nat → Nat → Except Nat Nat
  | 0, left, _ => .error left
  | rounds + 1, left, right =>
      if left < right then
        match items[left + (right - left) / 2]? with
        | none => .error left
        | some item =>
            if key item < target then binarySearchLoop items target rounds (left + (right - left) / 2 + 1) right
            else if target < key item then binarySearchLoop items target rounds left (left + (right - left) / 2)
            else .ok (left + (right - left) / 2)
      else .error left

/-- `slice::binary_search_by_key`: the place of an item with the key, or else
the place where one can be inserted. -/
def binarySearchByKey (items : List α) (target : κ) : Except Nat Nat :=
  binarySearchLoop key items target items.length 0 items.length

/-- Insert an item unless one with its key is found. -/
def insertNew (items : List α) (item : α) : List α :=
  match binarySearchByKey key items (key item) with
  | .ok _ => items
  | .error index => items.insertIdx index item

/-- Everything before a place has a smaller key than the target, everything
from another place on a larger one. -/
structure Window (items : List α) (target : κ) (left right : Nat) : Prop where
  ordered : left ≤ right
  inside : right ≤ items.length
  below : ∀ item ∈ items.take left, key item < target
  above : ∀ item ∈ items.drop right, target < key item

variable {key} {items : List α} {target : κ} {left right : Nat}

theorem Window.halve (sorted : (items.map key).SortedLT) (window : Window key items target left right) {middle : Nat}
    {item : α} (lower : left ≤ middle) (upper : middle < right) (place : items[middle]? = some item) :
    (key item < target → Window key items target (middle + 1) right) ∧
      (target < key item → Window key items target left middle) := by
  obtain ⟨bound, found⟩ := List.getElem?_eq_some_iff.mp place
  have split : items = items.take middle ++ item :: items.drop (middle + 1) := by
    rw [← found, List.getElem_cons_drop, List.take_append_drop]
  have increasing := sorted.pairwise
  rw [split, List.map_append, List.map_cons, List.pairwise_append, List.pairwise_cons] at increasing
  obtain ⟨_, ⟨after, _⟩, across⟩ := increasing
  refine ⟨fun smaller => ⟨upper, window.inside, ?_, window.above⟩, fun larger => ⟨lower, bound.le, window.below, ?_⟩⟩
  · intro candidate member
    rw [List.take_add_one, place] at member
    rcases List.mem_append.mp member with before | same
    · exact (across _ (List.mem_map_of_mem before) _ (.head _)).trans smaller
    · obtain rfl : candidate = item := by simpa using same
      exact smaller
  · intro candidate member
    rw [List.drop_eq_getElem_cons bound, found] at member
    rcases List.mem_cons.mp member with rfl | later
    · exact larger
    · exact larger.trans (after _ (List.mem_map_of_mem later))

/-- With enough rounds a search finds an item with the key, or a place between
the smaller and the larger keys. -/
theorem binarySearchLoop_spec (sorted : (items.map key).SortedLT) {rounds : Nat} (enough : right - left ≤ rounds)
    (window : Window key items target left right) :
    match binarySearchLoop key items target rounds left right with
    | .ok index => ∃ item, items[index]? = some item ∧ key item = target
    | .error index => Window key items target index index := by
  induction rounds generalizing left right with
  | zero =>
      obtain rfl : left = right := Nat.le_antisymm window.ordered (by omega)
      exact window
  | succ rounds ih =>
      unfold binarySearchLoop
      by_cases open' : left < right
      · rw [if_pos open']
        have upper : left + (right - left) / 2 < right := by omega
        obtain ⟨item, place⟩ : ∃ item, items[left + (right - left) / 2]? = some item :=
          ⟨_, List.getElem?_eq_getElem (upper.trans_le window.inside)⟩
        have halves := window.halve sorted (Nat.le_add_right _ _) upper place
        simp only [place]
        by_cases smaller : key item < target
        · rw [if_pos smaller]
          exact ih (by omega) (halves.1 smaller)
        · rw [if_neg smaller]
          by_cases larger : target < key item
          · rw [if_pos larger]
            exact ih (by omega) (halves.2 larger)
          · rw [if_neg larger]
            exact ⟨item, place, le_antisymm (not_lt.mp larger) (not_lt.mp smaller)⟩
      · rw [if_neg open']
        obtain rfl : left = right := Nat.le_antisymm window.ordered (not_lt.mp open')
        exact window

theorem binarySearchByKey_spec (sorted : (items.map key).SortedLT) (target : κ) :
    match binarySearchByKey key items target with
    | .ok index => ∃ item, items[index]? = some item ∧ key item = target
    | .error index => Window key items target index index := by
  refine binarySearchLoop_spec sorted (Nat.sub_le _ _) ⟨Nat.zero_le _, le_rfl, ?_, ?_⟩ <;> simp

theorem insertIdx_eq_of_le {index : Nat} (bound : index ≤ items.length) (item : α) :
    items.insertIdx index item = items.take index ++ item :: items.drop index := by
  obtain ⟨before, after, rfl, rfl, inserted⟩ := List.exists_of_modifyTailIdx (List.cons item) bound
  rw [List.insertIdx, inserted, List.take_left, List.drop_left]

theorem insertNew_sorted (sorted : (items.map key).SortedLT) (item : α) :
    ((insertNew key items item).map key).SortedLT := by
  have spec := binarySearchByKey_spec sorted (key item)
  unfold insertNew
  cases searched : binarySearchByKey key items (key item) with
  | ok index => exact sorted
  | error index =>
      rw [searched] at spec
      dsimp only at spec ⊢
      rw [insertIdx_eq_of_le spec.inside, List.map_append, List.map_cons]
      have increasing := sorted.pairwise
      rw [← List.take_append_drop index items, List.map_append, List.pairwise_append] at increasing
      obtain ⟨before, after, across⟩ := increasing
      apply List.Pairwise.sortedLT
      rw [List.pairwise_append, List.pairwise_cons]
      refine ⟨before, ⟨?_, after⟩, ?_⟩
      · intro later member
        obtain ⟨other, inside, rfl⟩ := List.mem_map.mp member
        exact spec.above other inside
      · intro earlier member later member'
        obtain ⟨other, inside, rfl⟩ := List.mem_map.mp member
        rcases List.mem_cons.mp member' with rfl | behind
        · exact spec.below other inside
        · exact across _ member _ behind

theorem mem_insertNew_keys (sorted : (items.map key).SortedLT) {item : α} {found : κ} :
    found ∈ (insertNew key items item).map key ↔ found = key item ∨ found ∈ items.map key := by
  have spec := binarySearchByKey_spec sorted (key item)
  unfold insertNew
  cases searched : binarySearchByKey key items (key item) with
  | ok index =>
      rw [searched] at spec
      obtain ⟨present, place, same⟩ := spec
      have member : key item ∈ items.map key := same ▸ List.mem_map_of_mem (List.mem_of_getElem? place)
      constructor
      · exact .inr
      · intro found
        rcases found with rfl | inside
        · exact member
        · exact inside
  | error index =>
      rw [searched] at spec
      dsimp only at spec ⊢
      rw [insertIdx_eq_of_le spec.inside, List.map_append, List.map_cons, List.mem_append, List.mem_cons,
        or_left_comm, ← List.mem_append, ← List.map_append, List.take_append_drop]

theorem eq_or_mem_of_mem_insertNew {item found : α} (member : found ∈ insertNew key items item) :
    found = item ∨ found ∈ items := by
  unfold insertNew at member
  split at member
  · exact .inr member
  · exact List.eq_or_mem_of_mem_insertIdx member

theorem mem_foldl_insertNew {new : List α} {found : α} (member : found ∈ new.foldl (insertNew key) items) :
    found ∈ new ∨ found ∈ items := by
  induction new generalizing items with
  | nil => exact .inr member
  | cons item rest ih =>
      rcases ih member with inside | inserted
      · exact .inl (.tail _ inside)
      · rcases eq_or_mem_of_mem_insertNew inserted with rfl | inside
        · exact .inl (.head _)
        · exact .inr inside

theorem foldl_insertNew {new : List α} (sorted : (items.map key).SortedLT) :
    ((new.foldl (insertNew key) items).map key).SortedLT ∧
      ∀ found, found ∈ (new.foldl (insertNew key) items).map key ↔ found ∈ new.map key ∨ found ∈ items.map key := by
  induction new generalizing items with
  | nil => exact ⟨sorted, fun found => by simp⟩
  | cons item rest ih =>
      obtain ⟨increasing, members⟩ := ih (insertNew_sorted sorted item)
      refine ⟨increasing, fun found => ?_⟩
      rw [List.foldl_cons, members, mem_insertNew_keys sorted, List.map_cons, List.mem_cons, or_left_comm, or_assoc]

end BinarySearch

end Foundation
