import BpfSimulator.Foundation.Query

/-! Fallible computations on a mutable state that ask a source for answers. Under
fixed answers they are computations that ask for nothing. -/

set_option autoImplicit false

namespace Foundation

def AskM (κ α ε σ ρ : Type) : Type := σ → Query κ α (EStateM.Result ε σ ρ)

namespace AskM

variable {κ α ε σ ρ τ : Type}

/-- Continue after a success. A failure keeps the state it reached. -/
def continueWith (next : ρ → AskM κ α ε σ τ) : EStateM.Result ε σ ρ → Query κ α (EStateM.Result ε σ τ)
  | .ok value state => next value state
  | .error error state => .done (.error error state)

instance : Monad (AskM κ α ε σ) where
  pure value := fun state => .done (.ok value state)
  bind part next := fun state => (part state).bind (continueWith next)

/-- Ask for one key. -/
def ask (key : κ) : AskM κ α ε σ α := fun state => .ask key fun answer => .done (.ok answer state)

/-- A computation that asks for nothing. -/
def lift (part : EStateM ε σ ρ) : AskM κ α ε σ ρ := fun state => .done (part state)

def fail (error : ε) : AskM κ α ε σ ρ := lift (throw error)

/-- The computation under fixed answers. -/
def answered (answers : κ → α) (part : AskM κ α ε σ ρ) : EStateM ε σ ρ := fun state => (part state).eval answers

/-- The keys it asks for under fixed answers. -/
def asked (answers : κ → α) (part : AskM κ α ε σ ρ) (state : σ) : List κ := (part state).asked answers

theorem continueWith_pure (outcome : EStateM.Result ε σ ρ) :
    continueWith (pure : ρ → AskM κ α ε σ ρ) outcome = .done outcome := by
  cases outcome <;> rfl

instance : LawfulMonad (AskM κ α ε σ) := .mk' _
  (fun part => by
    funext state
    change (part state).bind (continueWith pure) = part state
    rw [funext continueWith_pure, Query.bind_done])
  (fun _ _ => rfl)
  (fun part next final => by
    funext state
    change ((part state).bind (continueWith next)).bind (continueWith final) = _
    rw [Query.bind_assoc]
    refine congrArg (part state).bind (funext fun outcome => ?_)
    cases outcome <;> rfl)

section Answered

variable (answers : κ → α)

@[simp] theorem answered_pure (value : ρ) : answered answers (pure value : AskM κ α ε σ ρ) = pure value := rfl

@[simp] theorem answered_lift (part : EStateM ε σ ρ) :
    answered answers (lift part : AskM κ α ε σ ρ) = part := rfl

@[simp] theorem answered_fail (error : ε) : answered answers (fail error : AskM κ α ε σ ρ) = throw error := rfl

@[simp] theorem answered_ask (key : κ) : answered answers (ask key : AskM κ α ε σ α) = pure (answers key) := rfl

@[simp] theorem answered_bind (part : AskM κ α ε σ ρ) (next : ρ → AskM κ α ε σ τ) :
    answered answers (part >>= next) = answered answers part >>= fun value => answered answers (next value) := by
  funext state
  have outcome : answered answers (part >>= next) state =
      (continueWith next (answered answers part state)).eval answers := Query.eval_bind answers (part state) _
  rw [outcome]
  cases ran : answered answers part state with
  | ok value middle =>
      rw [bind_run_ok ran]
      rfl
  | error error middle =>
      rw [bind_run_error ran]
      rfl

theorem answered_ite {condition : Prop} [Decidable condition] (yes no : AskM κ α ε σ ρ) :
    answered answers (if condition then yes else no) =
      if condition then answered answers yes else answered answers no :=
  apply_ite (answered answers) condition yes no

theorem answered_mapM {ι : Type} (part : ι → AskM κ α ε σ ρ) (items : List ι) :
    answered answers (items.mapM part) = items.mapM fun item => answered answers (part item) := by
  induction items with
  | nil => rfl
  | cons item rest ih =>
      rw [List.mapM_cons, List.mapM_cons, answered_bind]
      refine congrArg _ (funext fun value => ?_)
      rw [answered_bind, ih]
      rfl

theorem answered_foldlM {ι : Type} (part : ρ → ι → AskM κ α ε σ ρ) (items : List ι) (start : ρ) :
    answered answers (items.foldlM part start) =
      items.foldlM (fun value item => answered answers (part value item)) start := by
  induction items generalizing start with
  | nil => rfl
  | cons item rest ih =>
      rw [List.foldlM_cons, List.foldlM_cons, answered_bind]
      exact congrArg _ (funext fun value => ih value)

end Answered

section Asked

variable (answers : κ → α)

theorem asked_pure (value : ρ) (state : σ) : asked answers (pure value : AskM κ α ε σ ρ) state = [] := rfl

theorem asked_bind_ok {part : AskM κ α ε σ ρ} {next : ρ → AskM κ α ε σ τ} {state middle : σ} {value : ρ}
    (ran : answered answers part state = .ok value middle) :
    asked answers (part >>= next) state = asked answers part state ++ asked answers (next value) middle := by
  have split : asked answers (part >>= next) state = asked answers part state ++
      (continueWith next (answered answers part state)).asked answers := Query.asked_bind answers (part state) _
  rw [split, ran]
  rfl

theorem asked_lift_bind {part : EStateM ε σ ρ} {next : ρ → AskM κ α ε σ τ} {state middle : σ} {value : ρ}
    (ran : part state = .ok value middle) :
    asked answers (lift part >>= next) state = asked answers (next value) middle :=
  asked_bind_ok answers ran

theorem asked_bind_error {part : AskM κ α ε σ ρ} {next : ρ → AskM κ α ε σ τ} {state middle : σ} {error : ε}
    (failed : answered answers part state = .error error middle) :
    asked answers (part >>= next) state = asked answers part state := by
  have split : asked answers (part >>= next) state = asked answers part state ++
      (continueWith next (answered answers part state)).asked answers := Query.asked_bind answers (part state) _
  rw [split, failed]
  exact List.append_nil _

theorem asked_bind_pure (part : AskM κ α ε σ ρ) (final : ρ → τ) (state : σ) :
    asked answers (do let value ← part; pure (final value)) state = asked answers part state := by
  cases ran : answered answers part state with
  | ok value middle => rw [asked_bind_ok answers ran, asked_pure, List.append_nil]
  | error error middle => exact asked_bind_error answers ran

/-- After a part that never fails, the rest is asked from the state it leaves. -/
theorem asked_bind_total {part : AskM κ α ε σ ρ} {next : ρ → AskM κ α ε σ τ} {keys : List κ} (state : σ)
    (total : Total (answered answers part)) (rest : ∀ value middle, asked answers (next value) middle = keys) :
    asked answers (part >>= next) state = asked answers part state ++ keys := by
  cases ran : answered answers part state with
  | ok value middle => rw [asked_bind_ok answers ran, rest]
  | error error middle =>
      have success := total state
      rw [ran] at success
      cases success

theorem asked_mapM {ι : Type} {part : ι → AskM κ α ε σ ρ} {keys : ι → List κ} {items : List ι} (state : σ)
    (total : ∀ item ∈ items, Total (answered answers (part item)))
    (each : ∀ item ∈ items, ∀ state, asked answers (part item) state = keys item) :
    asked answers (items.mapM part) state = items.flatMap keys := by
  induction items generalizing state with
  | nil => rfl
  | cons item rest ih =>
      have later : ∀ value middle, asked answers (do let values ← rest.mapM part; pure (value :: values)) middle =
          rest.flatMap keys := by
        intro value middle
        rw [asked_bind_pure answers]
        exact ih middle (fun item member => total item (.tail _ member)) fun item member => each item (.tail _ member)
      rw [List.mapM_cons, asked_bind_total answers state (total item (.head _)) later, each item (.head _),
        List.flatMap_cons]

theorem asked_foldlM {ι : Type} {part : ρ → ι → AskM κ α ε σ ρ} {keys : ι → List κ} {items : List ι} (start : ρ)
    (state : σ) (total : ∀ value, ∀ item ∈ items, Total (answered answers (part value item)))
    (each : ∀ value, ∀ item ∈ items, ∀ state, asked answers (part value item) state = keys item) :
    asked answers (items.foldlM part start) state = items.flatMap keys := by
  induction items generalizing start state with
  | nil => rfl
  | cons item rest ih =>
      have later : ∀ value middle, asked answers (rest.foldlM part value) middle = rest.flatMap keys :=
        fun value middle => ih value middle (fun value item member => total value item (.tail _ member))
          fun value item member => each value item (.tail _ member)
      rw [List.foldlM_cons, asked_bind_total answers state (total start item (.head _)) later,
        each start item (.head _), List.flatMap_cons]

end Asked

end AskM

end Foundation
