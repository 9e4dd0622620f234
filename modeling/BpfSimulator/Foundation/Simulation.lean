import BpfSimulator.Foundation.Fallible

/-! Two fallible computations side by side. Run from related states, they
succeed with related results or fail with the same error, and leave related
states behind. -/

set_option autoImplicit false

namespace Foundation

section Inspection

variable {ε α β γ δ : Type} {results : α → β → Prop}

/-- Both inspections succeed with related results, or both fail with one error. -/
inductive Agree (results : α → β → Prop) : Except ε α → Except ε β → Prop where
  | ok {value : α} {other : β} (alike : results value other) : Agree results (.ok value) (.ok other)
  | error {error : ε} : Agree results (.error error) (.error error)

theorem Agree.mono {finals : α → β → Prop} (weaker : ∀ value other, results value other → finals value other)
    {left : Except ε α} {right : Except ε β} (agree : Agree results left right) : Agree finals left right := by
  cases agree with
  | ok alike => exact .ok (weaker _ _ alike)
  | error => exact .error

theorem Agree.bind {finals : γ → δ → Prop} {left : Except ε α} {right : Except ε β} {next : α → Except ε γ}
    {next' : β → Except ε δ} (head : Agree results left right)
    (tail : ∀ value other, results value other → Agree finals (next value) (next' other)) :
    Agree finals (left >>= next) (right >>= next') := by
  cases head with
  | ok alike => exact tail _ _ alike
  | error => exact .error

theorem Agree.ite {condition : Prop} [Decidable condition] {left left' : Except ε α} {right right' : Except ε β}
    (yes : condition → Agree results left right) (no : ¬ condition → Agree results left' right') :
    Agree results (if condition then left else left') (if condition then right else right') := by
  split
  · exact yes ‹_›
  · exact no ‹_›

theorem agree_eq_iff {left right : Except ε α} : Agree Eq left right ↔ left = right := by
  constructor
  · intro agree
    cases agree with
    | ok alike => rw [alike]
    | error => rfl
  · intro same
    subst same
    cases left with
    | ok value => exact .ok rfl
    | error error => exact .error

/-- The same check of every item on both sides. -/
theorem Agree.mapM {ι : Type} {check : ι → Except ε α} {check' : ι → Except ε β} {items : List ι}
    (checked : ∀ item ∈ items, Agree results (check item) (check' item)) :
    Agree (List.Forall₂ results) (items.mapM check) (items.mapM check') := by
  induction items with
  | nil => exact .ok .nil
  | cons item rest ih =>
      rw [List.mapM_cons, List.mapM_cons]
      refine .bind (checked item (.head _)) fun value other alike => ?_
      refine .bind (ih fun later member => checked later (.tail _ member)) fun values others othersAlike => ?_
      exact .ok (.cons alike othersAlike)

end Inspection

section Computation

variable {ε σ τ α β γ δ : Type} {related : σ → τ → Prop} {results : α → β → Prop}

/-- The paired outcomes of two computations. -/
inductive Paired (related : σ → τ → Prop) (results : α → β → Prop) :
    EStateM.Result ε σ α → EStateM.Result ε τ β → Prop where
  | ok {value : α} {other : β} {state : σ} {twin : τ} (alike : results value other) (kept : related state twin) :
      Paired related results (.ok value state) (.ok other twin)
  | error {error : ε} {state : σ} {twin : τ} (kept : related state twin) :
      Paired related results (.error error state) (.error error twin)

theorem Paired.stateAfter {left : EStateM.Result ε σ α} {right : EStateM.Result ε τ β}
    (paired : Paired related results left right) : related (stateAfter left) (stateAfter right) := by
  cases paired with
  | ok _ kept => exact kept
  | error kept => exact kept

theorem Paired.mono {weaker : σ → τ → Prop} (weakened : ∀ state twin, related state twin → weaker state twin)
    {left : EStateM.Result ε σ α} {right : EStateM.Result ε τ β} (paired : Paired related results left right) :
    Paired weaker results left right := by
  cases paired with
  | ok alike kept => exact .ok alike (weakened _ _ kept)
  | error kept => exact .error (weakened _ _ kept)

/-- From related states to paired outcomes. -/
def Simulates (related : σ → τ → Prop) (results : α → β → Prop) (left : EStateM ε σ α) (right : EStateM ε τ β) :
    Prop :=
  ∀ state twin, related state twin → Paired related results (left state) (right twin)

theorem Simulates.pure {value : α} {other : β} (alike : results value other) :
    Simulates related results (pure value : EStateM ε σ α) (pure other : EStateM ε τ β) :=
  fun _ _ kept => .ok alike kept

theorem Simulates.refl (part : EStateM ε σ α) : Simulates Eq Eq part part := by
  intro state twin same
  subst same
  cases part state with
  | ok value final => exact .ok rfl rfl
  | error error final => exact .error rfl

theorem Simulates.throw (error : ε) :
    Simulates related results (throw error : EStateM ε σ α) (throw error : EStateM ε τ β) :=
  fun _ _ kept => .error kept

theorem Simulates.get : Simulates related related (get : EStateM ε σ σ) (get : EStateM ε τ τ) :=
  fun _ _ kept => .ok kept kept

theorem Simulates.modify {update : σ → σ} {update' : τ → τ}
    (kept : ∀ state twin, related state twin → related (update state) (update' twin)) :
    Simulates related Eq (modify update : EStateM ε σ PUnit) (modify update' : EStateM ε τ PUnit) :=
  fun state twin start => .ok rfl (kept state twin start)

theorem Simulates.inspecting {left : Except ε α} {right : Except ε β} (agree : Agree results left right) :
    Simulates related results (inspecting left : EStateM ε σ α) (inspecting right : EStateM ε τ β) := by
  intro state twin kept
  cases agree with
  | ok alike => exact .ok alike kept
  | error => exact .error kept

theorem Simulates.bind {finals : γ → δ → Prop} {left : EStateM ε σ α} {right : EStateM ε τ β}
    {next : α → EStateM ε σ γ} {next' : β → EStateM ε τ δ} (head : Simulates related results left right)
    (tail : ∀ value other, results value other → Simulates related finals (next value) (next' other)) :
    Simulates related finals (left >>= next) (right >>= next') := by
  intro state twin start
  have paired := head state twin start
  simp only [Bind.bind, EStateM.bind]
  generalize left state = outcome at paired ⊢
  generalize right twin = outcome' at paired ⊢
  cases paired with
  | ok alike kept => exact tail _ _ alike _ _ kept
  | error kept => exact .error kept

theorem Simulates.bind_same {finals : γ → δ → Prop} {left : EStateM ε σ α} {right : EStateM ε τ α}
    {next : α → EStateM ε σ γ} {next' : α → EStateM ε τ δ} (head : Simulates related Eq left right)
    (tail : ∀ value, Simulates related finals (next value) (next' value)) :
    Simulates related finals (left >>= next) (right >>= next') := by
  refine .bind head fun value other same => ?_
  subst same
  exact tail value

theorem Simulates.ite {condition : Prop} [Decidable condition] {left left' : EStateM ε σ α}
    {right right' : EStateM ε τ β} (yes : condition → Simulates related results left right)
    (no : ¬ condition → Simulates related results left' right') :
    Simulates related results (if condition then left else left') (if condition then right else right') := by
  split
  · exact yes ‹_›
  · exact no ‹_›

theorem Simulates.mapM_same {ι : Type} {part : ι → EStateM ε σ α} {part' : ι → EStateM ε τ α} {items : List ι}
    (each : ∀ item ∈ items, Simulates related Eq (part item) (part' item)) :
    Simulates related Eq (items.mapM part) (items.mapM part') := by
  induction items with
  | nil => exact .pure rfl
  | cons item rest ih =>
      rw [List.mapM_cons, List.mapM_cons]
      exact .bind_same (each item (.head _)) fun _ =>
        .bind_same (ih fun later member => each later (.tail _ member)) fun _ => .pure rfl

theorem Simulates.adaptExcept {left : EStateM ε σ α} {right : EStateM ε τ β}
    (simulates : Simulates related results left right) (rename : ε → ε) :
    Simulates related results (EStateM.adaptExcept rename left) (EStateM.adaptExcept rename right) := by
  intro state twin start
  have paired := simulates state twin start
  unfold EStateM.adaptExcept
  generalize left state = outcome at paired ⊢
  generalize right twin = outcome' at paired ⊢
  cases paired with
  | ok alike kept => exact .ok alike kept
  | error kept => exact .error kept

theorem Simulates.onComponent {υ ω : Type} {inner : υ → ω → Prop} {view : σ → υ} {view' : τ → ω}
    {replace : υ → σ → σ} {replace' : ω → τ → τ} {left : EStateM ε υ α} {right : EStateM ε ω β}
    (viewed : ∀ state twin, related state twin → inner (view state) (view' twin))
    (replaced : ∀ state twin part part', related state twin → inner part part' →
      related (replace part state) (replace' part' twin))
    (simulates : Simulates inner results left right) :
    Simulates related results (onComponent view replace left) (onComponent view' replace' right) := by
  intro state twin start
  have paired := simulates (view state) (view' twin) (viewed state twin start)
  unfold Foundation.onComponent
  generalize left (view state) = outcome at paired ⊢
  generalize right (view' twin) = outcome' at paired ⊢
  cases paired with
  | ok alike kept => exact .ok alike (replaced _ _ _ _ start kept)
  | error kept => exact .error (replaced _ _ _ _ start kept)

theorem runHistory_related {ι : Type} {step : ι → σ → σ} {step' : ι → τ → τ}
    (preserved : ∀ call state twin, related state twin → related (step call state) (step' call twin))
    (history : List ι) {state : σ} {twin : τ} (start : related state twin) :
    related (runHistory step history state) (runHistory step' history twin) := by
  induction history generalizing state twin with
  | nil => exact start
  | cons call rest ih => exact ih (preserved call state twin start)

end Computation

end Foundation
