import Mathlib.Data.List.Perm.Subperm

/-! Following a partial successor function until an element of a given kind is
reached: the chain of elements met is unique, and what is met within a number
of steps can be counted. -/

set_option autoImplicit false

namespace Foundation

section Chain

variable {α : Type} {isLast : α → Prop} {next : α → Option α} {first : α} {chain : List α}

/-- The elements met from `first` on, up to and including the first last one. -/
inductive Chain (isLast : α → Prop) (next : α → Option α) : α → List α → Prop where
  | last {first : α} (reached : isLast first) : Chain isLast next first [first]
  | step {first second : α} {rest : List α} (onward : ¬ isLast first) (found : next first = some second)
      (tail : Chain isLast next second rest) : Chain isLast next first (first :: rest)

theorem Chain.first_mem (followed : Chain isLast next first chain) : first ∈ chain := by
  cases followed <;> exact List.mem_cons_self

theorem Chain.unique {other : List α} (left : Chain isLast next first chain)
    (right : Chain isLast next first other) : chain = other := by
  induction left generalizing other with
  | last reached =>
      cases right with
      | last => rfl
      | step onward => exact absurd reached onward
  | step onward found _ ih =>
      cases right with
      | last reached => exact absurd reached onward
      | step _ found' tail =>
          cases found.symm.trans found'
          rw [ih tail]

theorem mem_tail_of_suffix {rest : List α} (suffix : rest <:+ chain) {element : α} (member : element ∈ rest.tail) :
    element ∈ chain.tail := by
  obtain ⟨before, rfl⟩ := suffix
  cases before with
  | nil => exact member
  | cons => exact List.mem_append_right _ (List.mem_of_mem_tail member)

/-- The chain of an element met is the rest of the chain. -/
theorem Chain.from_mem (followed : Chain isLast next first chain) {element : α} (member : element ∈ chain) :
    ∃ rest, Chain isLast next element rest ∧ rest <:+ chain := by
  induction followed with
  | last reached =>
      obtain rfl := List.mem_singleton.mp member
      exact ⟨_, .last reached, List.suffix_refl _⟩
  | @step first second rest onward found tail ih =>
      rcases List.mem_cons.mp member with rfl | later
      · exact ⟨_, .step onward found tail, List.suffix_refl _⟩
      · obtain ⟨part, followed, suffix⟩ := ih later
        exact ⟨part, followed, suffix.trans (List.suffix_cons _ _)⟩

/-- Where no last element can be reached there is no chain. -/
theorem not_chain (excluded : α → Prop) (notLast : ∀ element, excluded element → ¬ isLast element)
    (kept : ∀ element following, excluded element → next element = some following → excluded following)
    (start : excluded first) : ¬ Chain isLast next first chain := by
  intro followed
  induction followed with
  | last reached => exact notLast _ start reached
  | step _ found _ ih => exact ih (kept _ _ start found)

/-- The elements behind `first` within a number of steps. -/
def followers (next : α → Option α) : Nat → α → List α
  | 0, _ => []
  | steps + 1, first =>
      match next first with
      | none => []
      | some second => second :: followers next steps second

theorem length_followers_le (next : α → Option α) (steps : Nat) (first : α) :
    (followers next steps first).length ≤ steps := by
  induction steps generalizing first with
  | zero => exact Nat.le_refl 0
  | succ steps ih =>
      unfold followers
      cases next first with
      | none => exact Nat.zero_le _
      | some second => exact Nat.succ_le_succ (ih second)

theorem followers_succ {second : α} (found : next first = some second) (steps : Nat) :
    followers next (steps + 1) first = second :: followers next steps second := by
  simp only [followers, found]

theorem length_flatMap_followers_le (next : α → Option α) (steps : Nat) (start : List α) :
    (start.flatMap (followers next steps)).length ≤ start.length * steps := by
  induction start with
  | nil => exact Nat.zero_le _
  | cons first rest ih =>
      rw [List.flatMap_cons, List.length_append, List.length_cons, Nat.succ_mul, Nat.add_comm]
      exact Nat.add_le_add ih (length_followers_le next steps first)

/-- Distinct elements met within a number of steps from a list are at most as
many as the steps taken from all of the list. -/
theorem length_le_of_followers {start met : List α} {steps : Nat} (distinct : met.Nodup)
    (reached : ∀ element ∈ met, element ∈ start.flatMap (followers next steps)) :
    met.length ≤ start.length * steps :=
  Nat.le_trans (List.subperm_of_subset distinct reached).length_le (length_flatMap_followers_le next steps start)

end Chain

section Checked

variable {ε α β : Type}

theorem mapM_ok_iff {check : α → Except ε β} {items : List α} {results : List β} :
    items.mapM check = .ok results ↔ List.Forall₂ (fun item result => check item = .ok result) items results := by
  induction items generalizing results with
  | nil =>
      rw [List.mapM_nil]
      constructor
      · rintro ⟨⟩
        exact .nil
      · rintro ⟨⟩
        rfl
  | cons item rest ih =>
      rw [List.mapM_cons]
      cases checked : check item with
      | error error =>
          constructor
          · rintro ⟨⟩
          · rintro (_ | ⟨head, _⟩)
            rw [checked] at head
            cases head
      | ok result =>
          cases tail : rest.mapM check with
          | error error =>
              constructor
              · rintro ⟨⟩
              · rintro (_ | ⟨_, later⟩)
                rw [ih.mpr later] at tail
                cases tail
          | ok others =>
              constructor
              · rintro ⟨⟩
                exact .cons checked (ih.mp tail)
              · rintro (_ | ⟨head, later⟩)
                cases checked.symm.trans head
                cases tail.symm.trans (ih.mpr later)
                rfl

theorem checked_of_mem {check : α → Except ε β} {items : List α} {results : List β}
    (passed : items.mapM check = .ok results) {item : α} (member : item ∈ items) : ∃ result, check item = .ok result := by
  have checked := mapM_ok_iff.mp passed
  obtain ⟨index, bound, rfl⟩ := List.getElem_of_mem member
  exact ⟨_, checked.get bound (checked.length_eq ▸ bound)⟩

/-- A check made on every index below a bound has one result for each. -/
theorem mapM_range_ok {check : Nat → Except ε β} {count : Nat} {results : List β}
    (passed : (List.range count).mapM check = .ok results) :
    results.length = count ∧ ∀ index result, results[index]? = some result → check index = .ok result := by
  have checked := mapM_ok_iff.mp passed
  have length : results.length = count := by
    rw [← checked.length_eq, List.length_range]
  refine ⟨length, fun index result found => ?_⟩
  obtain ⟨bound, rfl⟩ := List.getElem?_eq_some_iff.mp found
  have checkedThere := checked.get (by rwa [List.length_range, ← length]) bound
  simpa only [List.get_eq_getElem, List.getElem_range] using checkedThere

/-- Reordering the arguments of a functional relation reorders the pairs of
arguments and results. -/
theorem zip_perm_of_functional {related : α → β → Prop}
    (functional : ∀ item result other, related item result → related item other → result = other)
    {first second : List α} (reordered : first.Perm second) {firstResults secondResults : List β}
    (firstRelated : List.Forall₂ related first firstResults)
    (secondRelated : List.Forall₂ related second secondResults) :
    (first.zip firstResults).Perm (second.zip secondResults) := by
  have answers : ∀ item, ∃ answer : Option β, ∀ result, related item result → answer = some result := by
    intro item
    by_cases known : ∃ result, related item result
    · obtain ⟨result, holds⟩ := known
      exact ⟨some result, fun other otherHolds => congrArg some (functional item result other holds otherHolds)⟩
    · exact ⟨none, fun result holds => absurd ⟨result, holds⟩ known⟩
  choose answer answers using answers
  have zipped : ∀ {items results}, List.Forall₂ related items results →
      items.zip results = items.filterMap fun item => (answer item).map fun result => (item, result) := by
    intro items results relatedItems
    induction relatedItems with
    | nil => rfl
    | @cons item result _ _ holds _ ih =>
        rw [List.zip_cons_cons, ih, List.filterMap_cons, answers item result holds]
        rfl
  rw [zipped firstRelated, zipped secondRelated]
  exact reordered.filterMap _

end Checked

end Foundation
