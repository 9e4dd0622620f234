import BpfSimulator.Foundation.Simulation

/-! Adaptive queries: computations that ask for keys one after the other, where
later keys may depend on earlier answers. A query can be evaluated against a
fixed answer to every key, or run against a source that changes with every
request, possibly behind a table that remembers answers. -/

set_option autoImplicit false

namespace Foundation

inductive Query (κ α ρ : Type) where
  | done (result : ρ)
  | ask (key : κ) (next : α → Query κ α ρ)

namespace Query

section Basic

variable {κ α β ρ τ σ : Type}

def bind : Query κ α ρ → (ρ → Query κ α τ) → Query κ α τ
  | .done result, after => after result
  | .ask key next, after => .ask key fun answer => (next answer).bind after

/-- The result under fixed answers. -/
def eval (answers : κ → α) : Query κ α ρ → ρ
  | .done result => result
  | .ask key next => (next (answers key)).eval answers

/-- The keys asked under fixed answers, in order. -/
def asked (answers : κ → α) : Query κ α ρ → List κ
  | .done _ => []
  | .ask key next => key :: (next (answers key)).asked answers

/-- Run against a source with a state of its own. -/
def run (source : κ → σ → α × σ) : Query κ α ρ → σ → ρ × σ
  | .done result, state => (result, state)
  | .ask key next, state => (next (source key state).1).run source (source key state).2

/-- Some keys are answered at once, without asking. -/
def given (known : κ → Option α) : Query κ α ρ → Query κ α ρ
  | .done result => .done result
  | .ask key next =>
      match known key with
      | some answer => (next answer).given known
      | none => .ask key fun answer => (next answer).given known

/-- Ask a source for answers of another kind. -/
def convert (convertAnswer : β → α) : Query κ α ρ → Query κ β ρ
  | .done result => .done result
  | .ask key next => .ask key fun answer => (next (convertAnswer answer)).convert convertAnswer

@[simp] theorem eval_done (answers : κ → α) (result : ρ) : (done result : Query κ α ρ).eval answers = result := rfl

@[simp] theorem eval_ask (answers : κ → α) (key : κ) (next : α → Query κ α ρ) :
    (ask key next).eval answers = (next (answers key)).eval answers := rfl

@[simp] theorem asked_done (answers : κ → α) (result : ρ) : (done result : Query κ α ρ).asked answers = [] := rfl

@[simp] theorem asked_ask (answers : κ → α) (key : κ) (next : α → Query κ α ρ) :
    (ask key next).asked answers = key :: (next (answers key)).asked answers := rfl

theorem eval_bind (answers : κ → α) (query : Query κ α ρ) (after : ρ → Query κ α τ) :
    (query.bind after).eval answers = (after (query.eval answers)).eval answers := by
  induction query with
  | done result => rfl
  | ask key next ih => exact ih (answers key)

theorem asked_bind (answers : κ → α) (query : Query κ α ρ) (after : ρ → Query κ α τ) :
    (query.bind after).asked answers = query.asked answers ++ (after (query.eval answers)).asked answers := by
  induction query with
  | done result => rfl
  | ask key next ih => exact congrArg (key :: ·) (ih (answers key))

theorem bind_done (query : Query κ α ρ) : query.bind .done = query := by
  induction query with
  | done result => rfl
  | ask key next ih => exact congrArg (ask key) (funext ih)

theorem bind_assoc {υ : Type} (query : Query κ α ρ) (after : ρ → Query κ α τ) (final : τ → Query κ α υ) :
    (query.bind after).bind final = query.bind fun result => (after result).bind final := by
  induction query with
  | done result => rfl
  | ask key next ih => exact congrArg (ask key) (funext ih)

/-- Only the answers to the keys asked matter. -/
theorem eval_congr {answers others : κ → α} {query : Query κ α ρ}
    (same : ∀ key ∈ query.asked answers, others key = answers key) :
    query.eval others = query.eval answers ∧ query.asked others = query.asked answers := by
  induction query with
  | done result => exact ⟨rfl, rfl⟩
  | ask key next ih =>
      have here : others key = answers key := same key (.head _)
      have rest := ih (answers key) fun later member => same later (.tail _ member)
      rw [eval_ask, eval_ask, asked_ask, asked_ask, here, rest.2]
      exact ⟨rest.1, rfl⟩

theorem eval_given (known : κ → Option α) (answers : κ → α) (query : Query κ α ρ) :
    (query.given known).eval answers = query.eval fun key => (known key).getD (answers key) := by
  induction query with
  | done result => rfl
  | ask key next ih =>
      rw [given, eval_ask]
      cases known key with
      | some answer => exact ih answer
      | none => exact ih (answers key)

theorem asked_given (known : κ → Option α) (answers : κ → α) (query : Query κ α ρ) :
    (query.given known).asked answers =
      (query.asked fun key => (known key).getD (answers key)).filter fun key => (known key).isNone := by
  induction query with
  | done result => rfl
  | ask key next ih =>
      rw [given, asked_ask, List.filter_cons]
      cases known key with
      | some answer => exact ih answer
      | none => exact congrArg (key :: ·) (ih (answers key))

theorem eval_convert (convertAnswer : β → α) (answers : κ → β) (query : Query κ α ρ) :
    (query.convert convertAnswer).eval answers = query.eval fun key => convertAnswer (answers key) := by
  induction query with
  | done result => rfl
  | ask key next ih => exact ih (convertAnswer (answers key))

theorem asked_convert (convertAnswer : β → α) (answers : κ → β) (query : Query κ α ρ) :
    (query.convert convertAnswer).asked answers = query.asked fun key => convertAnswer (answers key) := by
  induction query with
  | done result => rfl
  | ask key next ih => exact congrArg (key :: ·) (ih (convertAnswer (answers key)))

end Basic

section Memo

variable {κ α ρ σ : Type} [DecidableEq κ]

/-- A source behind a table of the answers it gave, oldest first. -/
structure Memo (κ α σ : Type) where
  table : List (κ × α)
  source : σ

/-- Answer from the table, or else ask the source and remember what it says. -/
def memoized (source : κ → σ → α × σ) (key : κ) (memo : Memo κ α σ) : α × Memo κ α σ :=
  match memo.table.lookup key with
  | some answer => (answer, memo)
  | none =>
      let (answer, state) := source key memo.source
      (answer, { table := memo.table ++ [(key, answer)], source := state })

/-- What a source says to some keys, asked in order. -/
def requests (source : κ → σ → α × σ) : List κ → σ → List (κ × α) × σ
  | [], state => ([], state)
  | key :: rest, state =>
      let (answer, state) := source key state
      let (table, state) := requests source rest state
      ((key, answer) :: table, state)

/-- The keys that are not known, each where it occurs first. -/
def firsts : List κ → List κ → List κ
  | _, [] => []
  | known, key :: rest => if key ∈ known then firsts known rest else key :: firsts (known ++ [key]) rest

/-- The fixed answers are those of the table where it has one. -/
def Extend (answers : κ → α) (table : List (κ × α)) : Prop :=
  ∀ key answer, table.lookup key = some answer → answers key = answer

/-- The answers of a table, and a default elsewhere. -/
def tableAnswers (default : α) (table : List (κ × α)) (key : κ) : α := (table.lookup key).getD default

variable {source : κ → σ → α × σ} {memo : Memo κ α σ} {key : κ}

theorem extend_tableAnswers (default : α) (table : List (κ × α)) : Extend (tableAnswers default table) table := by
  intro key answer found
  rw [tableAnswers, found, Option.getD_some]

theorem notMem_of_lookup {table : List (κ × α)} (missing : table.lookup key = none) : key ∉ table.map Prod.fst := by
  intro member
  obtain ⟨entry, inside, same⟩ := List.mem_map.mp member
  have differs := List.lookup_eq_none_iff.mp missing entry inside
  rw [same, bne_self_eq_false'] at differs
  cases differs

theorem mem_of_lookup {table : List (κ × α)} {answer : α} (found : table.lookup key = some answer) :
    key ∈ table.map Prod.fst := by
  obtain ⟨before, after, rfl, _⟩ := List.lookup_eq_some_iff.mp found
  simp

theorem memoized_hit {answer : α} (found : memo.table.lookup key = some answer) :
    memoized source key memo = (answer, memo) := by
  simp only [memoized, found]

theorem memoized_miss (missing : memo.table.lookup key = none) : memoized source key memo =
    ((source key memo.source).1,
      { table := memo.table ++ [(key, (source key memo.source).1)], source := (source key memo.source).2 }) := by
  simp only [memoized, missing]

/-- Answers once given are never forgotten. -/
theorem table_prefix (source : κ → σ → α × σ) (query : Query κ α ρ) (memo : Memo κ α σ) :
    memo.table <+: (query.run (memoized source) memo).2.table := by
  induction query generalizing memo with
  | done result => exact List.prefix_refl _
  | ask key next ih =>
      rw [run]
      cases looked : memo.table.lookup key with
      | some answer =>
          rw [memoized_hit looked]
          exact ih answer memo
      | none =>
          rw [memoized_miss looked]
          have later := ih (source key memo.source).1
            { table := memo.table ++ [(key, (source key memo.source).1)], source := (source key memo.source).2 }
          exact (List.prefix_append _ _).trans later

/-- Behind a table a changing source is as good as fixed answers: those that
the table ends up with. It is asked for each key once, when it is needed first. -/
theorem run_memoized (query : Query κ α ρ) (memo : Memo κ α σ) {answers : κ → α}
    (extend : Extend answers (query.run (memoized source) memo).2.table) :
    query.run (memoized source) memo =
      let fresh := requests source (firsts (memo.table.map Prod.fst) (query.asked answers)) memo.source
      (query.eval answers, { table := memo.table ++ fresh.1, source := fresh.2 }) := by
  induction query generalizing memo with
  | done result => simp [run, firsts, requests]
  | ask key next ih =>
      have grew := table_prefix source (next (memoized source key memo).1) (memoized source key memo).2
      rw [run] at extend ⊢
      cases looked : memo.table.lookup key with
      | some answer =>
          rw [memoized_hit looked] at extend grew ⊢
          have same : answers key = answer := extend key answer (grew.lookup_eq_some looked)
          have known := mem_of_lookup looked
          rw [ih answer memo extend, eval_ask, asked_ask, firsts, if_pos known, same]
      | none =>
          rw [memoized_miss looked] at extend grew ⊢
          have stored : (memo.table ++ [(key, (source key memo.source).1)]).lookup key =
              some (source key memo.source).1 := by
            rw [List.lookup_append, looked, Option.none_or, List.lookup_cons_self]
          have same : answers key = (source key memo.source).1 := extend key _ (grew.lookup_eq_some stored)
          have unknown := notMem_of_lookup looked
          rw [ih _ _ extend, eval_ask, asked_ask, firsts, if_neg unknown, same]
          simp only [requests, List.map_append, List.map_cons, List.map_nil, List.append_assoc, List.singleton_append]

theorem mem_firsts {known keys : List κ} : key ∈ firsts known keys ↔ key ∈ keys ∧ key ∉ known := by
  induction keys generalizing known with
  | nil => simp [firsts]
  | cons first rest ih =>
      rw [firsts]
      by_cases present : first ∈ known
      · rw [if_pos present, ih, List.mem_cons]
        refine ⟨fun later => ⟨.inr later.1, later.2⟩, fun later => ⟨later.1.resolve_left ?_, later.2⟩⟩
        intro same
        exact later.2 (same ▸ present)
      · rw [if_neg present, List.mem_cons, ih, List.mem_append, List.mem_singleton, List.mem_cons]
        by_cases same : key = first
        · subst same
          exact iff_of_true (.inl rfl) ⟨.inl rfl, present⟩
        · simp only [same, false_or, or_false]

theorem nodup_firsts (known keys : List κ) : (firsts known keys).Nodup := by
  induction keys generalizing known with
  | nil => exact List.nodup_nil
  | cons first rest ih =>
      rw [firsts]
      split
      · exact ih known
      · refine List.nodup_cons.mpr ⟨fun member => ?_, ih _⟩
        exact (mem_firsts.mp member).2 (List.mem_append_right _ (List.mem_singleton_self first))

omit [DecidableEq κ] in
theorem keys_requests (source : κ → σ → α × σ) (keys : List κ) (state : σ) :
    (requests source keys state).1.map Prod.fst = keys := by
  induction keys generalizing state with
  | nil => rfl
  | cons first rest ih => exact congrArg (first :: ·) (ih (source first state).2)

omit [DecidableEq κ] in
theorem requests_answers (good : α → Prop) (answered : ∀ key state, good (source key state).1) (keys : List κ)
    (state : σ) : ∀ entry ∈ (requests source keys state).1, good entry.2 := by
  induction keys generalizing state with
  | nil => exact fun _ member => absurd member List.not_mem_nil
  | cons first rest ih =>
      intro entry member
      rcases List.mem_cons.mp member with rfl | later
      · exact answered first state
      · exact ih _ entry later

theorem tableAnswers_good (good : α → Prop) {default : α} {table : List (κ × α)} (atDefault : good default)
    (answered : ∀ entry ∈ table, good entry.2) (key : κ) : good (tableAnswers default table key) := by
  rw [tableAnswers]
  cases found : table.lookup key with
  | none => exact atDefault
  | some answer =>
      obtain ⟨before, after, rfl, _⟩ := List.lookup_eq_some_iff.mp found
      exact answered (key, answer) (by simp)

/-- From an empty table on, any fixed answers will do that hold what the source
said to the keys asked. -/
theorem run_memoized_start (source : κ → σ → α × σ) (query : Query κ α ρ) (start : σ) : ∃ keys,
    ∀ answers : κ → α, Extend answers (requests source keys start).1 →
      keys = firsts [] (query.asked answers) ∧
      query.run (memoized source) { table := [], source := start } =
        (query.eval answers, { table := (requests source keys start).1, source := (requests source keys start).2 }) := by
  let final := query.run (memoized source) { table := [], source := start }
  have ran : ∀ answers, Extend answers final.2.table →
      final.2.table.map Prod.fst = firsts [] (query.asked answers) ∧
      final = (query.eval answers, { table := (requests source (final.2.table.map Prod.fst) start).1
                                     source := (requests source (final.2.table.map Prod.fst) start).2 }) := by
    intro answers extend
    have whole := run_memoized query { table := [], source := start } extend
    have keys : final.2.table.map Prod.fst = firsts [] (query.asked answers) := by
      rw [show final = _ from whole]
      exact keys_requests _ _ _
    exact ⟨keys, keys ▸ whole⟩
  refine ⟨final.2.table.map Prod.fst, fun answers extend => ran answers ?_⟩
  -- what the run remembers is what the source says to these keys, in order
  let completed := fun key => (final.2.table.lookup key).getD (answers key)
  have remembered : final.2.table = (requests source (final.2.table.map Prod.fst) start).1 := by
    refine congrArg (fun outcome => outcome.2.table) (ran completed ?_).2
    intro key answer found
    simp only [completed, found, Option.getD_some]
  rw [remembered]
  exact extend

end Memo

end Query

end Foundation
