import BpfSimulator.InstructionExecutor.ExecutionProperties
import BpfSimulator.InstructionExecutor.ScriptRuntime

/-! Stack frames of programs with fixed frames. The machine leaves a gap behind
every frame, while the stack is mapped without gaps and is as long as the
frames alone. -/

set_option autoImplicit false

namespace BpfSimulator.InstructionExecutor

open Foundation

inductive FrameEvent where
  | call
  | ret
  deriving DecidableEq

/-- The call depth after an event, where the limit and the outermost frame allow it. -/
def depthStep (maxCallDepth depth : Nat) : FrameEvent → Option Nat
  | .call => if depth + 1 < maxCallDepth then some (depth + 1) else none
  | .ret => if depth = 0 then none else some (depth - 1)

def depthAfter (maxCallDepth : Nat) (run : List FrameEvent) : Option Nat :=
  run.foldlM (depthStep maxCallDepth) 0

/-- The size of a frame and the distance between the starts of two frames. -/
structure FrameLayout where
  size : Nat
  stride : Nat

def FrameLayout.start (layout : FrameLayout) (depth : Nat) : Nat := mmStackStart + depth * layout.stride

/-- Every byte of the frame of a depth is translated to a byte of the stack. -/
def FrameBacked (mapping : MemoryMapping) (layout : FrameLayout) (stack : AlignedMemory) (depth : Nat) : Prop :=
  ∀ offset < layout.size, ∃ hostAddr, mapping.map .store (layout.start depth + offset) 1 = .ok hostAddr ∧
    stack.hostAddr ≤ hostAddr ∧ hostAddr < stack.hostAddr + stack.len

/-- The frames of two depths are never translated to the same byte. -/
def FramesDisjoint (mapping : MemoryMapping) (layout : FrameLayout) (first second : Nat) : Prop :=
  ∀ firstOffset < layout.size, ∀ secondOffset < layout.size, ∀ access access' firstHost secondHost,
    mapping.map access (layout.start first + firstOffset) 1 = .ok firstHost →
    mapping.map access' (layout.start second + secondOffset) 1 = .ok secondHost → firstHost ≠ secondHost

/-- No address between the frame of a depth and the next one is translated. -/
def GapUnmapped (mapping : MemoryMapping) (layout : FrameLayout) (depth : Nat) : Prop :=
  ∀ vmAddr, layout.start depth + layout.size ≤ vmAddr → vmAddr < layout.start (depth + 1) →
    ∀ access hostAddr, mapping.map access vmAddr 1 ≠ .ok hostAddr

/-- At a call depth the current frame is backed, the live frames are disjoint
and the gaps between them are unmapped. -/
structure FramesSound (mapping : MemoryMapping) (layout : FrameLayout) (stack : AlignedMemory)
    (depth : Nat) : Prop where
  backed : FrameBacked mapping layout stack depth
  disjoint : ∀ first ≤ depth, ∀ second ≤ depth, first ≠ second → FramesDisjoint mapping layout first second
  gaps : ∀ lower < depth, GapUnmapped mapping layout lower

variable {A Exe Regs Log T : Type}

/-- The frames of a program. -/
def frameLayout (runtime : Runtime Exe Regs Log) (executor : InstructionExecutor A Exe Log) (executable : Exe) :
    FrameLayout where
  size := executor.config.stackFrameSize
  stride := executor.config.frameStride (runtime.dynamicStackFrames executable)

@[simp] theorem frameLayout_size (runtime : Runtime Exe Regs Log) (executor : InstructionExecutor A Exe Log)
    (executable : Exe) : (frameLayout runtime executor executable).size = executor.config.stackFrameSize := rfl

/-- An executor with a mapping as `execute` builds it, and a program with fixed
frames under a configuration with gaps. -/
structure FixedFrames (mapping : MemoryMapping) (runtime : Runtime Exe Regs Log)
    (executor : InstructionExecutor A Exe Log) (executable : Exe) : Prop where
  mapsOnly : mapping.MapsOnly (regions runtime executor executable)
  mapsAll : mapping.MapsAll (regions runtime executor executable)
  hostsApart : HostsApart (regions runtime executor executable)
  fixed : runtime.dynamicStackFrames executable = false
  stackLen : executor.stack.len = executor.config.stackSize
  callDepth : executor.config.maxCallDepth = 64
  gapsEnabled : executor.config.enableStackFrameGaps = true
  framed : 0 < executor.config.stackFrameSize

namespace FixedFrames

variable {mapping : MemoryMapping} {runtime : Runtime Exe Regs Log} {executor : InstructionExecutor A Exe Log}
  {executable : Exe}

theorem frameStart_eq (frames : FixedFrames mapping runtime executor executable) (depth : Nat) :
    (frameLayout runtime executor executable).start depth =
      mmStackStart + 2 * depth * executor.config.stackFrameSize := by
  simp only [FrameLayout.start, frameLayout, Config.frameStride, frames.fixed, frames.gapsEnabled,
    Bool.false_eq_true, ↓reduceIte]
  ring

theorem stackLen_eq (frames : FixedFrames mapping runtime executor executable) :
    executor.stack.len = 64 * executor.config.stackFrameSize := by
  rw [frames.stackLen, Config.stackSize, frames.callDepth, Nat.mul_comm]

theorem map_stack (frames : FixedFrames mapping runtime executor executable) {offset : Nat}
    (bound : offset < executor.stack.len) (access : AccessType) :
    mapping.map access (mmStackStart + offset) 1 = .ok (executor.stack.hostAddr + offset) := by
  let stackRegion := MemoryRegion.newWritableGapped executor.stack.hostAddr executor.stack.len mmStackStart 0
  have member : stackRegion ∈ regions runtime executor executable := by simp [regions, stackRegion]
  refine frames.mapsAll stackRegion member access _ 1 _ Nat.one_pos (by cases access <;> rfl) ?_
  apply (MemoryRegion.vmToHost?_of_ungapped rfl).mpr
  simp only [stackRegion, MemoryRegion.newWritableGapped]
  omega

theorem stack_of_map (frames : FixedFrames mapping runtime executor executable) {access : AccessType}
    {vmAddr hostAddr : Nat} (mapped : mapping.map access vmAddr 1 = .ok hostAddr)
    (lower : executor.stack.hostAddr ≤ hostAddr)
    (upper : hostAddr < executor.stack.hostAddr + executor.stack.len) :
    vmAddr = mmStackStart + (hostAddr - executor.stack.hostAddr) := by
  have inside : hostAddr - executor.stack.hostAddr < executor.stack.len := by omega
  have direct := frames.map_stack inside access
  have same := frames.mapsOnly.same_byte (ungapped_regions runtime executor executable) frames.hostsApart
    mapped direct Nat.one_pos Nat.one_pos (by omega)
  omega

theorem backed_iff (frames : FixedFrames mapping runtime executor executable) (depth : Nat) :
    FrameBacked mapping (frameLayout runtime executor executable) executor.stack depth ↔ depth < 32 := by
  have framed := frames.framed
  have length := frames.stackLen_eq
  constructor
  · intro backed
    obtain ⟨hostAddr, mapped, lower, upper⟩ := backed 0 framed
    have position := frames.stack_of_map mapped lower upper
    rw [frames.frameStart_eq] at position
    by_contra deep
    have scaled : 64 * executor.config.stackFrameSize ≤ 2 * depth * executor.config.stackFrameSize :=
      Nat.mul_le_mul_right _ (by omega)
    omega
  · intro shallow offset bound
    rw [frameLayout_size] at bound
    have scaled : (2 * depth + 1) * executor.config.stackFrameSize ≤ 64 * executor.config.stackFrameSize :=
      Nat.mul_le_mul_right _ (by omega)
    have inside : 2 * depth * executor.config.stackFrameSize + offset < executor.stack.len := by
      rw [Nat.add_mul] at scaled
      omega
    refine ⟨_, ?_, Nat.le_add_right _ _, Nat.add_lt_add_left inside _⟩
    rw [frames.frameStart_eq, Nat.add_assoc]
    exact frames.map_stack inside .store

theorem disjoint (frames : FixedFrames mapping runtime executor executable) {first second : Nat}
    (different : first ≠ second) :
    FramesDisjoint mapping (frameLayout runtime executor executable) first second := by
  intro firstOffset firstBound secondOffset secondBound access access' firstHost secondHost mapped mapped' same
  have addresses := frames.mapsOnly.same_byte (ungapped_regions runtime executor executable) frames.hostsApart
    mapped mapped' Nat.one_pos Nat.one_pos (by omega)
  rw [frames.frameStart_eq, frames.frameStart_eq] at addresses
  rw [frameLayout_size] at firstBound secondBound
  rcases Nat.lt_or_gt_of_ne different with below | above
  · have scaled : (2 * first + 2) * executor.config.stackFrameSize ≤ 2 * second * executor.config.stackFrameSize :=
      Nat.mul_le_mul_right _ (by omega)
    rw [Nat.add_mul] at scaled
    omega
  · have scaled : (2 * second + 2) * executor.config.stackFrameSize ≤ 2 * first * executor.config.stackFrameSize :=
      Nat.mul_le_mul_right _ (by omega)
    rw [Nat.add_mul] at scaled
    omega

theorem gap_mapped (frames : FixedFrames mapping runtime executor executable) :
    ¬ GapUnmapped mapping (frameLayout runtime executor executable) 0 := by
  intro unmapped
  have framed := frames.framed
  have inside : executor.config.stackFrameSize < executor.stack.len := by
    rw [frames.stackLen_eq]
    omega
  refine unmapped (mmStackStart + executor.config.stackFrameSize) ?_ ?_ .load _
    (frames.map_stack inside .load)
  · rw [frames.frameStart_eq, frameLayout_size]
    omega
  · rw [frames.frameStart_eq]
    omega

theorem sound_zero (frames : FixedFrames mapping runtime executor executable) :
    FramesSound mapping (frameLayout runtime executor executable) executor.stack 0 where
  backed := (frames.backed_iff 0).mpr (by decide)
  disjoint := fun _ _ _ _ different => frames.disjoint different
  gaps := fun _ below => absurd below (Nat.not_lt_zero _)

theorem sound_iff (frames : FixedFrames mapping runtime executor executable) (depth : Nat) :
    FramesSound mapping (frameLayout runtime executor executable) executor.stack depth ↔ depth = 0 := by
  constructor
  · intro sound
    by_contra deeper
    exact frames.gap_mapped (sound.gaps 0 (Nat.pos_of_ne_zero deeper))
  · rintro rfl
    exact frames.sound_zero

end FixedFrames

theorem depths_zero_iff {maxCallDepth last : Nat} (several : 1 < maxCallDepth) {run : List FrameEvent}
    (finished : depthAfter maxCallDepth run = some last) :
    (∀ before, before <+: run → ∀ depth, depthAfter maxCallDepth before = some depth → depth = 0) ↔
      FrameEvent.call ∉ run := by
  cases run with
  | nil =>
      refine ⟨fun _ => List.not_mem_nil, ?_⟩
      intro _ before isPrefix depth reached
      obtain rfl := List.prefix_nil.mp isPrefix
      cases reached
      rfl
  | cons event rest =>
      cases event with
      | ret => cases finished
      | call =>
          constructor
          · intro outermost
            have called : depthAfter maxCallDepth [.call] = some 1 := by
              simp [depthAfter, depthStep, several]
            exact absurd (outermost [.call] ⟨rest, rfl⟩ 1 called) (by decide)
          · intro noCall
            exact absurd (.head _) noCall

section Runs

variable [AccountSizes A] [ReadableAccount T]

theorem FixedFrames.of_constructed {mapping : MemoryMapping} {runtime : Runtime Exe Regs Log}
    {host : HostLayout} {instructionSize : Nat} {accountSizes : A} {fresh executor : InstructionExecutor A Exe Log}
    {executable : Exe} (constructed : Constructed runtime host instructionSize accountSizes fresh)
    (shape : SameShape fresh executor) (mapsOnly : mapping.MapsOnly (regions runtime executor executable))
    (mapsAll : mapping.MapsAll (regions runtime executor executable))
    (hostsApart : HostsApart (regions runtime executor executable))
    (fixed : runtime.dynamicStackFrames executable = false)
    (gapsEnabled : runtime.defaultConfig.enableStackFrameGaps = true)
    (framed : 0 < runtime.defaultConfig.stackFrameSize) : FixedFrames mapping runtime executor executable where
  mapsOnly := mapsOnly
  mapsAll := mapsAll
  hostsApart := hostsApart
  fixed := fixed
  stackLen := by rw [shape.stack.len, constructed.stack, shape.config, AlignedMemory.zeroFilled_len]
  callDepth := by rw [shape.config, constructed.config]
  gapsEnabled := by
    rw [shape.config, constructed.config]
    exact gapsEnabled
  framed := by
    rw [shape.config, constructed.config]
    exact framed

/-- For every program with fixed frames, in every run: the frames are sound at
every point exactly when the program makes no call. A frame is backed exactly
at depths below 32, and frames of different depths are always disjoint. -/
theorem frames_sound_iff_no_call {runtime : Runtime Exe Regs Log} {host : HostLayout} {instructionSize : Nat}
    {accountSizes : A} {fresh : InstructionExecutor A Exe Log}
    (bounded : inputLength (slotSizes accountSizes) instructionSize ≤ isizeMax)
    (built : new runtime host instructionSize accountSizes = .ok fresh) (history : List (Call T))
    (executable : Exe) (fixed : runtime.dynamicStackFrames executable = false)
    (gapsEnabled : runtime.defaultConfig.enableStackFrameGaps = true)
    (framed : 0 < runtime.defaultConfig.stackFrameSize) :
    let executor := prepared (runHistory (step runtime) history fresh)
    let mapping := executeMapping runtime executor executable
    let layout := frameLayout runtime executor executable
    mapping.MapsOnly (regions runtime executor executable) →
    mapping.MapsAll (regions runtime executor executable) →
    HostsApart (regions runtime executor executable) →
    ∀ (run : List FrameEvent) (last : Nat), depthAfter executor.config.maxCallDepth run = some last →
      ((∀ before, before <+: run → ∀ depth, depthAfter executor.config.maxCallDepth before = some depth →
          FramesSound mapping layout executor.stack depth) ↔ FrameEvent.call ∉ run) ∧
        (∀ depth, FrameBacked mapping layout executor.stack depth ↔ depth < 32) ∧
        (∀ first second, first ≠ second → FramesDisjoint mapping layout first second) := by
  intro executor mapping layout mapsOnly mapsAll hostsApart run last finished
  have constructed := new_constructed bounded built
  have shape : SameShape fresh executor :=
    (history_sameShape history constructed.laidOut).trans (sameShape_prepared _)
  have frames : FixedFrames mapping runtime executor executable :=
    .of_constructed constructed shape mapsOnly mapsAll hostsApart fixed gapsEnabled framed
  refine ⟨?_, frames.backed_iff, fun first second different => frames.disjoint different⟩
  rw [← depths_zero_iff (by rw [frames.callDepth]; decide) finished]
  simp only [layout, frames.sound_iff]

theorem frames_sound_iff_no_call_empty_run : ∃ fresh,
    new (scriptRuntime fun _ _ => .exit 0) scriptHost 0 ([] : List Nat) = .ok fresh ∧
      let runtime := scriptRuntime fun _ _ => .exit 0
      let executor := prepared fresh
      FramesSound (executeMapping runtime executor ()) (frameLayout runtime executor ()) executor.stack 0 := by
  have bounded : inputLength (slotSizes ([] : List Nat)) 0 ≤ isizeMax := by decide
  obtain ⟨fresh, built, constructed⟩ := scriptRuntime_new (fun _ _ => .exit 0) bounded
  obtain ⟨mapsOnly, mapsAll, hostsApart⟩ := scriptRuntime_maps constructed (sameShape_prepared fresh) (by decide)
  refine ⟨fresh, built, ?_⟩
  have sound := (frames_sound_iff_no_call bounded built ([] : List (Call Account)) () rfl rfl (by decide)
    mapsOnly mapsAll hostsApart [] 0 rfl).1.mpr List.not_mem_nil
  exact sound [] List.nil_prefix 0 rfl

/-- After one call the address behind the first frame is mapped; after 32 calls
the current frame is not. -/
theorem frames_not_sound_after_calls : ∃ fresh,
    new (scriptRuntime fun _ _ => .exit 0) scriptHost 0 ([] : List Nat) = .ok fresh ∧
      let runtime := scriptRuntime fun _ _ => .exit 0
      let executor := prepared fresh
      let mapping := executeMapping runtime executor ()
      let layout := frameLayout runtime executor ()
      depthAfter executor.config.maxCallDepth [.call] = some 1 ∧
        ¬ FramesSound mapping layout executor.stack 1 ∧
        depthAfter executor.config.maxCallDepth (List.replicate 32 .call) = some 32 ∧
        ¬ FrameBacked mapping layout executor.stack 32 := by
  have bounded : inputLength (slotSizes ([] : List Nat)) 0 ≤ isizeMax := by decide
  obtain ⟨fresh, built, constructed⟩ := scriptRuntime_new (fun _ _ => .exit 0) bounded
  obtain ⟨mapsOnly, mapsAll, hostsApart⟩ := scriptRuntime_maps constructed (sameShape_prepared fresh) (by decide)
  have frames := FixedFrames.of_constructed constructed (sameShape_prepared fresh) mapsOnly mapsAll hostsApart
    rfl rfl (by decide)
  refine ⟨fresh, built, ?_, ?_, ?_, ?_⟩
  · rw [frames.callDepth]
    decide
  · rw [frames.sound_iff]
    decide
  · rw [frames.callDepth]
    decide
  · rw [frames.backed_iff]
    decide

end Runs

end BpfSimulator.InstructionExecutor
