import Mathlib.Data.List.Basic

/-! Fallible computations on a mutable state that keep the state they reached
when they fail: inversion of sequencing, restriction to a component of the
state, and invariants over a history of calls of which any may fail. -/

set_option autoImplicit false

namespace Foundation

section Sequencing

variable {ε σ α β : Type}

def stateAfter : EStateM.Result ε σ α → σ
  | .ok _ state => state
  | .error _ state => state

def succeeded : EStateM.Result ε σ α → Bool
  | .ok _ _ => true
  | .error _ _ => false

/-- The result of an outcome, without the state. -/
def resultOf : EStateM.Result ε σ α → Except ε α
  | .ok value _ => .ok value
  | .error error _ => .error error

@[simp] theorem stateAfter_ok (value : α) (state : σ) :
    stateAfter (.ok value state : EStateM.Result ε σ α) = state := rfl

@[simp] theorem stateAfter_error (error : ε) (state : σ) :
    stateAfter (.error error state : EStateM.Result ε σ α) = state := rfl

@[simp] theorem succeeded_ok (value : α) (state : σ) :
    succeeded (.ok value state : EStateM.Result ε σ α) = true := rfl

@[simp] theorem succeeded_error (error : ε) (state : σ) :
    succeeded (.error error state : EStateM.Result ε σ α) = false := rfl

theorem pure_run (value : α) (state : σ) : (pure value : EStateM ε σ α) state = .ok value state := rfl

theorem throw_run (error : ε) (state : σ) : (throw error : EStateM ε σ α) state = .error error state := rfl

theorem get_run (state : σ) : (get : EStateM ε σ σ) state = .ok state state := rfl

theorem modify_run (update : σ → σ) (state : σ) :
    (modify update : EStateM ε σ PUnit) state = .ok ⟨⟩ (update state) := rfl

theorem except_bind_ok_iff {first : Except ε α} {next : α → Except ε β} {result : β} :
    (first >>= next) = .ok result ↔ ∃ value, first = .ok value ∧ next value = .ok result := by
  cases first with
  | error error => exact iff_of_false nofun fun ran => nomatch ran.choose_spec.1
  | ok value =>
      constructor
      · intro ran
        exact ⟨value, rfl, ran⟩
      · intro ran
        obtain ⟨_, same, ranOn⟩ := ran
        cases same
        exact ranOn

theorem bind_run_ok {first : EStateM ε σ α} {next : α → EStateM ε σ β} {state middle : σ} {value : α}
    (ran : first state = .ok value middle) : (first >>= next) state = next value middle := by
  simp only [bind, EStateM.bind, ran]

theorem bind_run_error {first : EStateM ε σ α} {next : α → EStateM ε σ β} {state middle : σ} {error : ε}
    (ran : first state = .error error middle) : (first >>= next) state = .error error middle := by
  simp only [bind, EStateM.bind, ran]

theorem bind_ok {first : EStateM ε σ α} {next : α → EStateM ε σ β} {state final : σ} {result : β}
    (ran : (first >>= next) state = .ok result final) :
    ∃ value middle, first state = .ok value middle ∧ next value middle = .ok result final := by
  cases head : first state with
  | ok value middle => exact ⟨value, middle, rfl, by rw [bind_run_ok head] at ran; exact ran⟩
  | error error middle => rw [bind_run_error head] at ran; cases ran

theorem bind_error {first : EStateM ε σ α} {next : α → EStateM ε σ β} {state final : σ} {error : ε}
    (ran : (first >>= next) state = .error error final) :
    first state = .error error final ∨
      ∃ value middle, first state = .ok value middle ∧ next value middle = .error error final := by
  cases head : first state with
  | ok value middle => exact .inr ⟨value, middle, rfl, by rw [bind_run_ok head] at ran; exact ran⟩
  | error failed middle => rw [bind_run_error head] at ran; cases ran; exact .inl rfl

/-- A computation that only inspects, as one on a mutable state. -/
def inspecting : Except ε α → EStateM ε σ α
  | .ok value => fun state => .ok value state
  | .error error => fun state => .error error state

@[simp] theorem inspecting_ok_run (value : α) (state : σ) :
    (inspecting (.ok value) : EStateM ε σ α) state = .ok value state := rfl

@[simp] theorem inspecting_error_run (error : ε) (state : σ) :
    (inspecting (.error error) : EStateM ε σ α) state = .error error state := rfl

theorem stateAfter_inspecting (inspection : Except ε α) (state : σ) :
    stateAfter ((inspecting inspection : EStateM ε σ α) state) = state := by
  cases inspection <;> rfl

theorem except_ok_bind (value : α) (next : α → Except ε β) : ((.ok value : Except ε α) >>= next) = next value := rfl

theorem inspecting_ite {condition : Prop} [Decidable condition] (yes no : Except ε α) :
    (inspecting (if condition then yes else no) : EStateM ε σ α) =
      if condition then inspecting yes else inspecting no :=
  apply_ite inspecting condition yes no

theorem inspecting_bind (first : Except ε α) (next : α → Except ε β) :
    (inspecting (first >>= next) : EStateM ε σ β) = inspecting first >>= fun value => inspecting (next value) := by
  cases first <;> rfl

theorem inspecting_mapM {ι : Type} (check : ι → Except ε α) (items : List ι) :
    (inspecting (items.mapM check) : EStateM ε σ (List α)) = items.mapM fun item => inspecting (check item) := by
  induction items with
  | nil => rfl
  | cons item rest ih =>
      rw [List.mapM_cons, List.mapM_cons, inspecting_bind, ← ih]
      refine congrArg _ (funext fun value => ?_)
      rw [inspecting_bind]
      rfl

theorem inspecting_foldlM {ι : Type} (check : α → ι → Except ε α) (items : List ι) (start : α) :
    (inspecting (items.foldlM check start) : EStateM ε σ α) =
      items.foldlM (fun value item => inspecting (check value item)) start := by
  induction items generalizing start with
  | nil => rfl
  | cons item rest ih =>
      rw [List.foldlM_cons, List.foldlM_cons, inspecting_bind]
      exact congrArg _ (funext fun value => ih value)

end Sequencing

section Failure

variable {ε σ α β : Type}

/-- The computation leaves the state alone, whatever its outcome. -/
def ReadOnly (part : EStateM ε σ α) : Prop := ∀ state, stateAfter (part state) = state

/-- The computation leaves the state alone when it fails. -/
def FailsClean (part : EStateM ε σ α) : Prop :=
  ∀ state error after, part state = .error error after → after = state

def Total (part : EStateM ε σ α) : Prop := ∀ state, succeeded (part state) = true

theorem readOnly_pure (value : α) : ReadOnly (pure value : EStateM ε σ α) := fun _ => rfl

theorem readOnly_throw (error : ε) : ReadOnly (throw error : EStateM ε σ α) := fun _ => rfl

theorem readOnly_get : ReadOnly (get : EStateM ε σ σ) := fun _ => rfl

theorem readOnly_inspecting (inspection : Except ε α) : ReadOnly (inspecting inspection : EStateM ε σ α) :=
  stateAfter_inspecting inspection

theorem total_modify (update : σ → σ) : Total (modify update : EStateM ε σ PUnit) := fun _ => rfl

theorem total_pure (value : α) : Total (pure value : EStateM ε σ α) := fun _ => rfl

theorem ReadOnly.failsClean {part : EStateM ε σ α} (readOnly : ReadOnly part) : FailsClean part := by
  intro state error after failed
  have same := readOnly state
  rwa [failed] at same

theorem Total.failsClean {part : EStateM ε σ α} (total : Total part) : FailsClean part := by
  intro state error after failed
  have success := total state
  rw [failed] at success
  cases success

theorem Total.bind {first : EStateM ε σ α} {next : α → EStateM ε σ β} (head : Total first)
    (tail : ∀ value, Total (next value)) : Total (first >>= next) := by
  intro state
  cases ran : first state with
  | ok value middle =>
      rw [bind_run_ok ran]
      exact tail value middle
  | error error middle =>
      have success := head state
      rw [ran] at success
      cases success

theorem Total.mapM {ι : Type} {part : ι → EStateM ε σ α} {items : List ι}
    (each : ∀ item ∈ items, Total (part item)) : Total (items.mapM part) := by
  induction items with
  | nil => exact total_pure []
  | cons item rest ih =>
      rw [List.mapM_cons]
      exact (each item (.head _)).bind fun _ =>
        (ih fun later member => each later (.tail _ member)).bind fun _ => total_pure _

theorem FailsClean.bind {first : EStateM ε σ α} {next : α → EStateM ε σ β} (head : ReadOnly first)
    (tail : ∀ value, FailsClean (next value)) : FailsClean (first >>= next) := by
  intro state error after failed
  rcases bind_error failed with early | ⟨value, middle, ran, late⟩
  · exact head.failsClean state error after early
  · have same := head state
    rw [ran, stateAfter_ok] at same
    subst same
    exact tail value _ error after late

theorem FailsClean.bind_total {first : EStateM ε σ α} {next : α → EStateM ε σ β} (head : FailsClean first)
    (tail : ∀ value, Total (next value)) : FailsClean (first >>= next) := by
  intro state error after failed
  rcases bind_error failed with early | ⟨value, middle, ran, late⟩
  · exact head state error after early
  · have success := tail value middle
    rw [late] at success
    cases success

theorem FailsClean.ite {condition : Prop} [Decidable condition] {first second : EStateM ε σ α}
    (yes : FailsClean first) (no : FailsClean second) : FailsClean (if condition then first else second) := by
  split
  · exact yes
  · exact no

/-- The computation leaves one aspect of the state alone, whatever its outcome. -/
def Keeps {τ : Type} (view : σ → τ) (part : EStateM ε σ α) : Prop :=
  ∀ state, view (stateAfter (part state)) = view state

theorem ReadOnly.keeps {τ : Type} {part : EStateM ε σ α} (readOnly : ReadOnly part) (view : σ → τ) :
    Keeps view part := fun state => congrArg view (readOnly state)

theorem keeps_modify {τ : Type} {view : σ → τ} {update : σ → σ} (kept : ∀ state, view (update state) = view state) :
    Keeps view (modify update : EStateM ε σ PUnit) := kept

theorem Keeps.bind {τ : Type} {view : σ → τ} {first : EStateM ε σ α} {next : α → EStateM ε σ β}
    (head : Keeps view first) (tail : ∀ value, Keeps view (next value)) : Keeps view (first >>= next) := by
  intro state
  have same := head state
  cases ran : first state with
  | ok value middle =>
      rw [ran, stateAfter_ok] at same
      rw [bind_run_ok ran, tail value middle, same]
  | error error middle =>
      rw [ran, stateAfter_error] at same
      rw [bind_run_error ran, stateAfter_error, same]

theorem ReadOnly.bind {first : EStateM ε σ α} {next : α → EStateM ε σ β} (head : ReadOnly first)
    (tail : ∀ value, ReadOnly (next value)) : ReadOnly (first >>= next) :=
  Keeps.bind (head.keeps id) fun value => (tail value).keeps id

theorem Keeps.ite {τ : Type} {view : σ → τ} {condition : Prop} [Decidable condition]
    {first second : EStateM ε σ α} (yes : Keeps view first) (no : Keeps view second) :
    Keeps view (if condition then first else second) := by
  split
  · exact yes
  · exact no

end Failure

section Component

variable {ε σ τ α : Type}

/-- Run a computation on one component of a larger state. -/
def onComponent (view : σ → τ) (replace : τ → σ → σ) (part : EStateM ε τ α) : EStateM ε σ α := fun state =>
  match part (view state) with
  | .ok value inner => .ok value (replace inner state)
  | .error error inner => .error error (replace inner state)

variable {view : σ → τ} {replace : τ → σ → σ} {part : EStateM ε τ α}

theorem onComponent_ok {state : σ} {value : α} {inner : τ} (ran : part (view state) = .ok value inner) :
    onComponent view replace part state = .ok value (replace inner state) := by
  simp only [onComponent, ran]

end Component

section History

variable {σ ι : Type}

/-- The state after a history of calls. -/
def runHistory (step : ι → σ → σ) (history : List ι) (state : σ) : σ :=
  history.foldl (fun state call => step call state) state

@[simp] theorem runHistory_nil (step : ι → σ → σ) (state : σ) : runHistory step [] state = state := rfl

@[simp] theorem runHistory_cons (step : ι → σ → σ) (call : ι) (history : List ι) (state : σ) :
    runHistory step (call :: history) state = runHistory step history (step call state) := rfl

theorem runHistory_append (step : ι → σ → σ) (first second : List ι) (state : σ) :
    runHistory step (first ++ second) state = runHistory step second (runHistory step first state) :=
  List.foldl_append

theorem runHistory_invariant {step : ι → σ → σ} (invariant : σ → Prop)
    (preserved : ∀ call state, invariant state → invariant (step call state))
    (history : List ι) {state : σ} (start : invariant state) :
    invariant (runHistory step history state) := by
  induction history generalizing state with
  | nil => exact start
  | cons call history ih => exact ih (preserved call state start)

/-- The last answer that `select` gives along a history. -/
def lastSome {β : Type} (select : ι → Option β) (history : List ι) : Option β :=
  history.reverse.findSome? select

theorem lastSome_append {β : Type} (select : ι → Option β) (first second : List ι) :
    lastSome select (first ++ second) = (lastSome select second).or (lastSome select first) := by
  simp only [lastSome, List.reverse_append, List.findSome?_append]

theorem lastSome_cons {β : Type} (select : ι → Option β) (call : ι) (history : List ι) :
    lastSome select (call :: history) = (lastSome select history).or (select call) := by
  rw [← List.singleton_append, lastSome_append]
  cases selected : select call <;> simp [lastSome, selected]

theorem lastSome_snoc {β : Type} (select : ι → Option β) (history : List ι) (call : ι) :
    lastSome select (history ++ [call]) = (select call).or (lastSome select history) := by
  rw [lastSome_append]
  cases selected : select call <;> simp [lastSome, selected]

end History

end Foundation
