import BpfSimulator.Foundation.Simulation
import BpfSimulator.InstructionExecutor.ScriptRuntime

/-! How the account sizes of an executor are represented makes no difference:
with the same sizes at all slots two executors go through the same states. Only
a slot out of range can be refused in different ways. -/

set_option autoImplicit false

namespace BpfSimulator.InstructionExecutor

open Foundation

variable {A B Exe Regs Log T : Type} [AccountSizes A] [AccountSizes B] [ReadableAccount T]

/-- The same number of slots, with the same sizes. -/
structure SameSizes (left : A) (right : B) : Prop where
  len : AccountSizes.len right = AccountSizes.len left
  size : ∀ index < AccountSizes.len left, AccountSizes.size right index = AccountSizes.size left index

omit [AccountSizes A] [AccountSizes B] in
/-- The same executor with other account sizes. -/
def resized (accountSizes : B) (executor : InstructionExecutor A Exe Log) : InstructionExecutor B Exe Log where
  context := executor.context
  config := executor.config
  registry := executor.registry
  instructionSize := executor.instructionSize
  accountSizes
  instructionOffset := executor.instructionOffset
  accountOffsets := executor.accountOffsets
  programIdOffset := executor.programIdOffset
  buffer := executor.buffer
  stack := executor.stack
  heap := executor.heap
  executable := executor.executable

section New

variable {left : A} {right : B} (same : SameSizes left right)

include same

theorem bufferCapacity_sameSizes (instructionSize : Nat) :
    bufferCapacity instructionSize right = bufferCapacity instructionSize left := by
  have folded : (List.range (AccountSizes.len left)).foldl
      (fun size index => wrappingAdd size (accountCapacity (AccountSizes.size right index))) 8 =
        (List.range (AccountSizes.len left)).foldl
          (fun size index => wrappingAdd size (accountCapacity (AccountSizes.size left index))) 8 := by
    refine List.foldl_ext _ _ _ fun size index member => ?_
    rw [same.size index (List.mem_range.mp member)]
  simp only [bufferCapacity, same.len, folded]

theorem slotSizes_sameSizes : slotSizes right = slotSizes left := by
  rw [slotSizes, slotSizes, same.len]
  exact List.map_congr_left fun index member => same.size index (List.mem_range.mp member)

theorem writeEmptyAccounts_sameSizes {indices : List Nat} (inside : ∀ index ∈ indices, index < AccountSizes.len left) :
    writeEmptyAccounts right indices = writeEmptyAccounts left indices := by
  induction indices with
  | nil => rfl
  | cons index rest ih =>
      rw [writeEmptyAccounts, writeEmptyAccounts, same.size index (inside index (.head _)),
        ih fun later member => inside later (.tail _ member)]

theorem new_resized (runtime : Runtime Exe Regs Log) (host : HostLayout) (instructionSize : Nat) :
    new runtime host instructionSize right = (new runtime host instructionSize left).map (resized right) := by
  have accounts : writeEmptyAccounts right (List.range (AccountSizes.len left)) =
      writeEmptyAccounts left (List.range (AccountSizes.len left)) :=
    writeEmptyAccounts_sameSizes same fun index member => List.mem_range.mp member
  have written : writeInitial instructionSize right = writeInitial instructionSize left := by
    simp only [writeInitial, same.len, accounts]
  simp only [new, bufferCapacity_sameSizes same, written]
  cases writeInitial instructionSize left (AlignedMemory.withCapacity host.bufferAddr _) with
  | error error buffer => rfl
  | ok offsets buffer => cases Syscalls.getSyscalls runtime.hashSymbolName <;> rfl

end New

/-- Two executors that differ in how the sizes are represented. -/
structure Resized (left : A) (right : B) (executor : InstructionExecutor A Exe Log)
    (twin : InstructionExecutor B Exe Log) : Prop where
  accountSizes : executor.accountSizes = left
  twin : twin = resized right executor

section Calls

variable {left : A} {right : B} {runtime : Runtime Exe Regs Log}

omit [AccountSizes A] [AccountSizes B] in
theorem simulates_sameBuffer {α : Type} (part : BufferM α) :
    Simulates (Resized left right) Eq (onBuffer part : ExecutorM A Exe Log α) (onBuffer part) := by
  refine .onComponent (fun executor twin kept => ?_) (fun executor twin buffer buffer' kept same => ?_) (.refl part)
  · rw [kept.twin]
    rfl
  · subst same
    exact ⟨kept.accountSizes, by rw [kept.twin]; rfl⟩

omit [AccountSizes A] [AccountSizes B] in
theorem simulates_updateProgram_resized (programId : Pubkey) (account : T) (jit : Bool) :
    Simulates (Resized left right) Eq (updateProgram runtime programId account jit : ExecutorM A Exe Log Unit)
      (updateProgram runtime programId account jit) := by
  refine .bind_same (.inspecting (agree_eq_iff.mpr rfl)) fun executable => ?_
  refine .bind_same (.modify fun executor twin kept => ?_) fun _ => .bind .get fun executor twin kept => ?_
  · exact ⟨kept.accountSizes, by rw [kept.twin]; rfl⟩
  · rw [kept.twin]
    exact .bind_same (simulates_sameBuffer _) fun _ => .pure rfl

omit [AccountSizes A] [AccountSizes B] in
theorem simulates_updateInstruction_resized (instruction : List UInt8) :
    Simulates (Resized left right) Eq (updateInstruction instruction : ExecutorM A Exe Log Unit)
      (updateInstruction instruction) := by
  refine .bind .get fun executor twin kept => ?_
  rw [kept.twin]
  exact .ite (fun _ => .throw _) fun _ => .bind_same (simulates_sameBuffer _) fun _ =>
    .bind_same (simulates_sameBuffer _) fun _ => .pure rfl

theorem simulates_updateAccount_resized (same : SameSizes left right) {index : Nat} (slot : index < AccountSizes.len left)
    (key : Pubkey) (account : T) (isSigner isWritable isExecutable : Bool) :
    Simulates (Resized left right) Eq
      (updateAccount index key account isSigner isWritable isExecutable : ExecutorM A Exe Log Unit)
      (updateAccount index key account isSigner isWritable isExecutable) := by
  refine .bind .get fun executor twin kept => ?_
  have answers : AccountSizes.answers left index = true := AccountSizes.answers_slots left index slot
  have answers' : AccountSizes.answers right index = true := AccountSizes.answers_slots right index (same.len ▸ slot)
  rw [kept.twin, kept.accountSizes]
  simp only [resized, answers, answers', same.size index slot]
  refine .ite (fun _ => .throw _) fun _ => .ite (fun _ => .throw _) fun _ => ?_
  cases executor.accountOffsets[index]? with
  | none => exact .throw _
  | some offset => exact .bind_same (simulates_sameBuffer _) fun _ => .pure rfl

omit [AccountSizes A] [AccountSizes B] in
theorem simulates_execute_resized :
    Simulates (Resized left right) Eq (execute runtime : ExecutorM A Exe Log Unit) (execute runtime) := by
  intro executor twin kept
  obtain ⟨sizes, rfl⟩ := kept
  cases program : executor.executable with
  | none =>
      rw [execute_missing program, execute_missing (show (resized right executor).executable = none from program)]
      exact .error ⟨sizes, rfl⟩
  | some executable =>
      have loaded : (resized right executor).executable = some executable := program
      have run : runOf runtime (resized right executor) executable = runOf runtime executor executable := rfl
      rw [execute_present program, execute_present loaded, run]
      cases executeResult (runOf runtime executor executable).result with
      | ok _ => exact .ok rfl ⟨sizes, rfl⟩
      | error error => exact .error ⟨sizes, rfl⟩

/-- The call does not name a slot that is out of range. -/
def InRange (accountSizes : A) : Call T → Prop
  | .updateAccount index _ _ _ _ _ => index < AccountSizes.len accountSizes
  | _ => True

theorem simulates_perform_resized (same : SameSizes left right) {call : Call T} (inRange : InRange left call) :
    Simulates (Resized left right) Eq (call.perform runtime : ExecutorM A Exe Log Unit) (call.perform runtime) := by
  cases call with
  | updateProgram programId account jit => exact simulates_updateProgram_resized programId account jit
  | updateInstruction instruction => exact simulates_updateInstruction_resized instruction
  | updateAccount index key account isSigner isWritable isExecutable =>
      exact simulates_updateAccount_resized same inRange key account isSigner isWritable isExecutable
  | execute => exact simulates_execute_resized

variable (runtime) in
omit [AccountSizes B] in
/-- An update of a slot out of range is refused, as too large or as a panic. -/
theorem perform_outOfRange {executor : InstructionExecutor A Exe Log} (laidOut : WellLaidOut executor) {call : Call T}
    (outside : ¬ InRange executor.accountSizes call) :
    ∃ error, call.perform runtime executor = .error error executor ∧ (error = .outOfBounds ∨ error = .invalidAccount) := by
  cases call with
  | updateAccount index key account isSigner isWritable isExecutable =>
      have missing : executor.accountOffsets[index]? = none := by
        apply List.getElem?_eq_none
        simp only [laidOut.accountOffsets, List.length_map, List.length_range]
        exact Nat.le_of_not_lt outside
      simp only [Call.perform, updateAccount]
      rw [bind_run_ok (get_run _)]
      cases AccountSizes.answers executor.accountSizes index with
      | false => exact ⟨.outOfBounds, rfl, .inl rfl⟩
      | true =>
          rw [if_neg (by decide)]
          by_cases large : (ReadableAccount.data account).length > AccountSizes.size executor.accountSizes index
          · exact ⟨.invalidAccount, by rw [if_pos large, throw_run], .inr rfl⟩
          · refine ⟨.outOfBounds, ?_, .inl rfl⟩
            rw [if_neg large]
            simp only [missing]
            rfl
  | _ => exact absurd trivial outside

omit [ReadableAccount T] in
theorem not_inRange (same : SameSizes left right) {call : Call T} (outside : ¬ InRange left call)
    {executor : InstructionExecutor A Exe Log} {twin : InstructionExecutor B Exe Log}
    (kept : Resized left right executor twin) : ¬ InRange twin.accountSizes call := by
  rw [kept.twin]
  intro inside
  refine outside ?_
  cases call with
  | updateAccount index key account isSigner isWritable isExecutable => exact Nat.lt_of_lt_of_eq inside same.len
  | _ => trivial

theorem Resized.step (same : SameSizes left right) {executor : InstructionExecutor A Exe Log}
    {twin : InstructionExecutor B Exe Log} (laidOut : WellLaidOut executor) (laidOut' : WellLaidOut twin)
    (kept : Resized left right executor twin) (call : Call T) :
    Resized left right (step runtime call executor) (step runtime call twin) := by
  by_cases inRange : InRange left call
  · exact (simulates_perform_resized same inRange executor twin kept).stateAfter
  · have outside : ¬ InRange executor.accountSizes call := kept.accountSizes ▸ inRange
    have outside' : ¬ InRange twin.accountSizes call := not_inRange same inRange kept
    obtain ⟨error, failed, _⟩ := perform_outOfRange runtime laidOut outside
    obtain ⟨error', failed', _⟩ := perform_outOfRange runtime laidOut' outside'
    simpa only [InstructionExecutor.step, failed, failed', stateAfter_error] using kept

end Calls

theorem resized_history {left : A} {right : B} (same : SameSizes left right) (runtime : Runtime Exe Regs Log)
    (history : List (Call T)) {executor : InstructionExecutor A Exe Log} {twin : InstructionExecutor B Exe Log}
    (laidOut : WellLaidOut executor) (laidOut' : WellLaidOut twin) (kept : Resized left right executor twin) :
    Resized left right (runHistory (step runtime) history executor) (runHistory (step runtime) history twin) := by
  induction history generalizing executor twin with
  | nil => exact kept
  | cons call rest ih =>
      have stepped := step_cases laidOut runtime call
      have stepped' := step_cases laidOut' runtime call
      exact ih (laidOut.of_sameShape (stepped.sameShape laidOut)) (laidOut'.of_sameShape (stepped'.sameShape laidOut'))
        (kept.step same laidOut laidOut' call)

/-- Executors with the same sizes at all slots, however represented, are
constructed alike or fail alike. After any history they are the same but for
the representation, and the next call has the same outcome, unless it updates a
slot out of range, which both refuse without a change. -/
theorem history_sizes_independent {left : A} {right : B} (same : SameSizes left right)
    (runtime : Runtime Exe Regs Log) (host : HostLayout) {instructionSize : Nat}
    (bounded : inputLength (slotSizes left) instructionSize ≤ isizeMax) :
    new runtime host instructionSize right = (new runtime host instructionSize left).map (resized right) ∧
      ∀ fresh, new runtime host instructionSize left = .ok fresh → ∀ history : List (Call T),
        let executor := runHistory (step runtime) history fresh
        let twin := runHistory (step runtime) history (resized right fresh)
        twin = resized right executor ∧ ∀ call : Call T,
          (InRange left call → Paired (fun after after' => after' = resized right after) Eq
            (call.perform runtime executor) (call.perform runtime twin)) ∧
          (¬ InRange left call → (∃ error, call.perform runtime executor = .error error executor) ∧
            ∃ error, call.perform runtime twin = .error error twin) := by
  have created := new_resized same runtime host instructionSize
  refine ⟨created, fun fresh built history => ?_⟩
  intro executor twin
  have constructed := new_constructed bounded built
  have twinBounded : inputLength (slotSizes right) instructionSize ≤ isizeMax := by
    rwa [slotSizes_sameSizes same]
  have twinBuilt : new runtime host instructionSize right = .ok (resized right fresh) := by
    rw [created, built]
    rfl
  have laidOut := constructed.laidOut
  have laidOut' := (new_constructed twinBounded twinBuilt).laidOut
  have kept : Resized left right executor twin :=
    resized_history same runtime history laidOut laidOut' ⟨constructed.sameAccountSizes, rfl⟩
  refine ⟨kept.twin, fun call => ⟨fun inRange => ?_, fun outside => ⟨?_, ?_⟩⟩⟩
  · exact (simulates_perform_resized same inRange executor twin kept).mono fun _ _ related => related.twin
  · obtain ⟨error, failed, _⟩ := perform_outOfRange runtime (history_laidOut history laidOut)
      (kept.accountSizes ▸ outside)
    exact ⟨error, failed⟩
  · obtain ⟨error, failed, _⟩ := perform_outOfRange runtime (history_laidOut history laidOut')
      (not_inRange same outside kept)
    exact ⟨error, failed⟩

/-- A pair of a count and a size stands for a list of equal sizes. -/
theorem sameSizes_pair (count size : Nat) : SameSizes (count, size) (List.replicate count size) where
  len := List.length_replicate
  size := by
    intro index slot
    have inside : index < count := slot
    change (List.replicate count size).getD index 0 = size
    rw [List.getD_eq_getElem?_getD, List.getElem?_replicate_of_lt inside, Option.getD_some]

/-- Updates of the last slot and of the one after it, around an execution. -/
def pairHistory : List (Call Account) :=
  [.updateAccount 1 (.filled 4) scriptAccount false true false, .execute,
    .updateAccount 2 (.filled 5) scriptAccount false true false]

/-- Two slots of five bytes, given as a pair and as a list. -/
theorem history_sizes_independent_pair :
    let runtime := scriptRuntime fun _ _ => .exit 0
    ∃ fresh : InstructionExecutor (Nat × Nat) Unit Unit, new runtime scriptHost 3 (2, 5) = .ok fresh ∧
      new runtime scriptHost 3 [5, 5] = .ok (resized [5, 5] fresh) ∧
        runHistory (step runtime) pairHistory (resized [5, 5] fresh) =
          resized [5, 5] (runHistory (step runtime) pairHistory fresh) := by
  intro runtime
  have bounded : inputLength (slotSizes ((2, 5) : Nat × Nat)) 3 ≤ isizeMax := by decide
  obtain ⟨fresh, built, _⟩ := scriptRuntime_new (fun _ _ => .exit 0) bounded
  obtain ⟨created, same⟩ := @history_sizes_independent _ _ _ _ _ Account _ _ _ _ _ (sameSizes_pair 2 5) runtime
    scriptHost _ bounded
  refine ⟨fresh, built, ?_, (same fresh built pairHistory).1⟩
  rw [built] at created
  exact created

end BpfSimulator.InstructionExecutor
