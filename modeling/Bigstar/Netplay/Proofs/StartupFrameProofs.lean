import Bigstar.Netplay.MvlLifecycle
import Bigstar.Lib.Run
import Mathlib.Tactic.Common

/-!
# Startup frames over the games of a match

A startup frame is counted from the start of a game, but it is stored as an emulator frame. Every
rematch takes it relative to the base that the one before has set, and moves it to the new game. A
restore of the boot checkpoint, taken at frame `checkpoint`, starts in the middle of the startup: a
frame that lies behind the checkpoint comes on the next frame, and from then on it counts as the one
right after the checkpoint.
-/

namespace Bigstar.Netplay.MvlLifecycle

open InputTimeline MvlRuntime

variable {N : Type}

/-- The frames that a rebase changes. -/
inductive StartupFrame where
  | localStartupRaw
  | forceGameLocalPlayerID
  | packetBridgeJitHelperPatch
  | cameraInitHoldStart
  | cameraInitHoldEnd
  deriving DecidableEq

/-- How a rematch is started. -/
inductive RematchKind where
  | hardReset
  | checkpointRestore
  deriving DecidableEq

/-- A rematch. -/
structure Rematch where
  frame : Nat
  kind : RematchKind
  deriving DecidableEq

/-- Where a startup frame of the configuration belongs in the game that this rematch starts. -/
def Rematch.startupFrame (checkpoint configured : Nat) (m : Rematch) : Nat :=
  match m.kind with
  | .hardReset => m.frame + configured
  | .checkpointRestore => m.frame + max (configured - checkpoint) 1

namespace Context

/-- The frame that is configured. -/
def startupFrame (c : Context N) : StartupFrame → Nat
  | .localStartupRaw => c.connection.localStartupRawFrame
  | .forceGameLocalPlayerID => c.packetBridge.forceGameLocalPlayerIDStartFrame
  | .packetBridgeJitHelperPatch => c.runtimePatch.packetBridgeJitHelperPatchFrame
  | .cameraInitHoldStart => c.mvl.cameraInitHold.startFrame
  | .cameraInitHoldEnd => c.mvl.cameraInitHold.endFrame

/-- The rebase of a rematch, with the boot checkpoint taken at this frame. -/
def rematch (checkpoint : Nat) (c : Context N) (m : Rematch) : Context N :=
  match m.kind with
  | .hardReset => c.rebaseStartupFrames m.frame
  | .checkpointRestore => c.rebaseStartupFramesFromCheckpoint m.frame checkpoint

/-- Every rematch of the list leaves the startup frame where it belongs. -/
def Telescopes (c : Context N) (k : StartupFrame) (checkpoint configured : Nat)
    (rematches : List Rematch) : Prop :=
  Run.Along (fun c m => some (c.rematch checkpoint m))
    (fun c m => (c.rematch checkpoint m).startupFrame k = m.startupFrame checkpoint configured) c
      rematches

variable {c : Context N} {k : StartupFrame} {checkpoint configured relative : Nat} {m : Rematch}
  {rematches : List Rematch}

theorem telescopes_cons :
    c.Telescopes k checkpoint configured (m :: rematches) ↔
      (c.rematch checkpoint m).startupFrame k = m.startupFrame checkpoint configured ∧
        (c.rematch checkpoint m).Telescopes k checkpoint configured rematches := by
  constructor
  · intro h
    exact ⟨h.1, h.2 _ rfl⟩
  · rintro ⟨hm, hrest⟩
    refine ⟨hm, fun t ht => ?_⟩
    obtain rfl := Option.some.inj ht
    exact hrest

/-! ## One rebase -/

/-- The startup frame is a frame, and this is what it is relative to the base. -/
structure Rebased (c : Context N) (k : StartupFrame) (relative : Nat) : Prop where
  ne_zero : c.startupFrame k ≠ 0
  ne_noFrame : c.startupFrame k ≠ kNoFrame
  eq_relative : c.runtime.relativeStartupFrame (c.startupFrame k) = relative

@[simp]
theorem startupFrame_mapStartupFrames (c : Context N) (f : Nat → Nat) (k : StartupFrame) :
    (c.mapStartupFrames f).startupFrame k = f (c.startupFrame k) := by
  cases k <;> rfl

@[simp]
theorem startupFrame_setStartupFrameBase (c : Context N) (frame : Nat) (k : StartupFrame) :
    (c.setStartupFrameBase frame).startupFrame k = c.startupFrame k := by
  cases k <;> rfl

/-- Before the first rematch the base is 0, and the frames are those of the configuration. -/
theorem rebased_of_base_eq_zero (hbase : c.runtime.startupFrameBase = 0)
    (hzero : c.startupFrame k ≠ 0)
    (hframe : c.startupFrame k ≠ kNoFrame) : c.Rebased k (c.startupFrame k) := by
  refine ⟨hzero, hframe, ?_⟩
  unfold MvlRuntime.Runtime.relativeStartupFrame
  rw [if_neg (by simp [hzero, hframe]), if_neg (by simp [hbase])]

/-- A frame that was stored with its base is read back. -/
theorem rebased_of_eq_add {base : Nat} (hbase : c.runtime.startupFrameBase = base) (hpos : 0 < base)
    (hvalue : c.startupFrame k = base + relative) (hbound : base + relative < kNoFrame) :
    c.Rebased k relative := by
  have hzero : c.startupFrame k ≠ 0 := by omega
  have hframe : c.startupFrame k ≠ kNoFrame := by omega
  refine ⟨hzero, hframe, ?_⟩
  unfold MvlRuntime.Runtime.relativeStartupFrame
  rw [if_neg (by simp [hzero, hframe]), if_pos (by omega), hbase, hvalue, Nat.add_sub_cancel_left]

namespace Rebased

theorem startupFrame_hardReset (h : c.Rebased k relative) (hm : m.kind = .hardReset) :
    (c.rematch checkpoint m).startupFrame k = u32 (m.frame + relative) := by
  unfold rematch
  rw [hm]
  dsimp only
  unfold rebaseStartupFrames MvlRuntime.Runtime.rebaseStartupFrame
  rw [startupFrame_setStartupFrameBase, startupFrame_mapStartupFrames,
    if_neg (by simp [h.ne_zero, h.ne_noFrame]), h.eq_relative]

theorem startupFrame_checkpointRestore (h : c.Rebased k relative) (hm : m.kind = .checkpointRestore)
    (hzero : relative ≠ 0) (hframe : relative ≠ kNoFrame) :
    (c.rematch checkpoint m).startupFrame k = u32 (m.frame + max (relative - checkpoint) 1) := by
  unfold rematch
  rw [hm]
  dsimp only
  unfold rebaseStartupFramesFromCheckpoint MvlRuntime.Runtime.rebaseStartupFrameFromCheckpoint
  rw [startupFrame_setStartupFrameBase, startupFrame_mapStartupFrames,
    if_neg (by simp [h.ne_zero, h.ne_noFrame])]
  dsimp only
  rw [h.eq_relative, if_neg (by simp [hzero, hframe])]
  by_cases hlt : checkpoint < relative
  · rw [if_pos hlt, max_eq_left (by omega)]
  · rw [if_neg hlt, max_eq_right (by omega)]

/-- A reset keeps what the frame is relative to the start of the game. -/
theorem hardReset (h : c.Rebased k relative) (hm : m.kind = .hardReset) (hpos : 0 < m.frame)
    (hbound : m.frame + relative < kNoFrame) : (c.rematch checkpoint m).Rebased k relative := by
  have hbase : (c.rematch checkpoint m).runtime.startupFrameBase = m.frame := by
    unfold rematch
    rw [hm]
    rfl
  apply rebased_of_eq_add hbase hpos _ hbound
  rw [h.startupFrame_hardReset hm]
  exact Nat.mod_eq_of_lt (lt_trans hbound (by decide))

/-- A restore of the checkpoint moves a frame before the checkpoint right behind it. -/
theorem checkpointRestore (h : c.Rebased k relative) (hm : m.kind = .checkpointRestore)
    (hafter : checkpoint < m.frame) (hzero : relative ≠ 0) (hframe : relative ≠ kNoFrame)
    (hbound : m.frame + max (relative - checkpoint) 1 < kNoFrame) :
    (c.rematch checkpoint m).Rebased k (max relative (checkpoint + 1)) := by
  have hbase : (c.rematch checkpoint m).runtime.startupFrameBase = m.frame - checkpoint := by
    unfold rematch
    rw [hm]
    exact if_pos hafter
  have hsplit : m.frame - checkpoint + max relative (checkpoint + 1)
      = m.frame + max (relative - checkpoint) 1 := by omega
  apply rebased_of_eq_add hbase (by omega) _ (by omega)
  rw [h.startupFrame_checkpointRestore hm hzero hframe, hsplit]
  exact Nat.mod_eq_of_lt (lt_trans hbound (by decide))

end Rebased

/-! ## The rematches of a match -/

/-- The rematches come at increasing frames after the checkpoint, and no startup frame leaves 32
bits. -/
structure Schedule (checkpoint configured : Nat) (rematches : List Rematch) : Prop where
  increasing : rematches.Pairwise fun m m' => m.frame < m'.frame
  after : ∀ m ∈ rematches, checkpoint < m.frame
  bound : ∀ m ∈ rematches, m.frame + configured < 2 ^ 32

namespace Schedule

theorem tail (h : Schedule checkpoint configured (m :: rematches)) :
    Schedule checkpoint configured rematches :=
  ⟨h.increasing.of_cons, fun r hr => h.after r (List.mem_cons_of_mem _ hr),
    fun r hr => h.bound r (List.mem_cons_of_mem _ hr)⟩

/-- Only the last startup frame may be the one that stands for no frame. -/
theorem lt_noFrame (h : Schedule checkpoint configured (m :: rematches)) (hne : rematches ≠ []) :
    m.frame + configured < kNoFrame := by
  obtain ⟨r, hr⟩ := List.exists_mem_of_ne_nil rematches hne
  have hlt := List.rel_of_pairwise_cons h.increasing hr
  have hbound := h.bound r (List.mem_cons_of_mem _ hr)
  unfold kNoFrame
  omega

theorem configured_lt (h : Schedule checkpoint configured (m :: rematches)) :
    configured < kNoFrame := by
  have hafter := h.after m List.mem_cons_self
  have hbound := h.bound m List.mem_cons_self
  unfold kNoFrame
  omega

theorem checkpoint_lt (h : Schedule checkpoint configured (m :: rematches))
    (hpos : configured ≠ 0) :
    checkpoint + 1 < kNoFrame := by
  have hafter := h.after m List.mem_cons_self
  have hbound := h.bound m List.mem_cons_self
  unfold kNoFrame
  omega

end Schedule

theorem u32_of_lt {n : Nat} (h : n < 2 ^ 32) : u32 n = n := Nat.mod_eq_of_lt h

namespace Rebased

/-- A startup frame behind the checkpoint comes where it belongs after every rematch. -/
theorem telescopes (h : c.Rebased k configured) (hlt : checkpoint < configured)
    (hs : Schedule checkpoint configured rematches) :
    c.Telescopes k checkpoint configured rematches := by
  induction rematches generalizing c with
  | nil => trivial
  | cons m rematches ih =>
    have hafter := hs.after m List.mem_cons_self
    have hbound := hs.bound m List.mem_cons_self
    have hnoFrame := hs.configured_lt
    rw [telescopes_cons]
    unfold Rematch.startupFrame
    cases hm : m.kind with
    | hardReset =>
      refine ⟨?_, ?_⟩
      · rw [h.startupFrame_hardReset hm]
        exact u32_of_lt hbound
      · by_cases hlast : rematches = []
        · rw [hlast]
          trivial
        · exact ih (h.hardReset hm (by omega) (hs.lt_noFrame hlast)) hs.tail
    | checkpointRestore =>
      refine ⟨?_, ?_⟩
      · rw [h.startupFrame_checkpointRestore hm (by omega) (by omega)]
        exact u32_of_lt (by omega)
      · by_cases hlast : rematches = []
        · rw [hlast]
          trivial
        · have hless := hs.lt_noFrame hlast
          have hrestored := h.checkpointRestore hm hafter (by omega) (by omega) (by omega)
          rw [max_eq_left (by omega)] at hrestored
          exact ih hrestored hs.tail

/-- Once a checkpoint has been restored, a startup frame before it counts as the one right behind
it: a reset then takes it to a wrong frame. -/
theorem telescopes_iff_of_restored (h : c.Rebased k (checkpoint + 1)) (hpos : configured ≠ 0)
    (hle : configured ≤ checkpoint) (hs : Schedule checkpoint configured rematches) :
    c.Telescopes k checkpoint configured rematches ↔
      ∀ m ∈ rematches, m.kind = .checkpointRestore := by
  induction rematches generalizing c with
  | nil => simp [Telescopes, Run.Along]
  | cons m rematches ih =>
    have hafter := hs.after m List.mem_cons_self
    have hbound := hs.bound m List.mem_cons_self
    have hcheckpoint := hs.checkpoint_lt hpos
    rw [telescopes_cons, List.forall_mem_cons]
    unfold Rematch.startupFrame
    cases hm : m.kind with
    | hardReset =>
      simp only [reduceCtorEq, false_and, iff_false, not_and]
      intro hvalue
      rw [h.startupFrame_hardReset hm] at hvalue
      unfold u32 at hvalue
      omega
    | checkpointRestore =>
      have hvalue : (c.rematch checkpoint m).startupFrame k =
          m.frame + max (configured - checkpoint) 1 := by
        rw [h.startupFrame_checkpointRestore hm (by omega) (by omega), u32_of_lt (by omega)]
        omega
      simp only [hvalue, true_and]
      by_cases hlast : rematches = []
      · rw [hlast]
        simp [Telescopes, Run.Along]
      · have hless := hs.lt_noFrame hlast
        have hrestored := h.checkpointRestore hm hafter (by omega) (by omega) (by omega)
        rw [max_self] at hrestored
        exact ih hrestored hs.tail

theorem telescopes_iff_of_le (h : c.Rebased k configured) (hpos : configured ≠ 0)
    (hle : configured ≤ checkpoint) (hs : Schedule checkpoint configured rematches) :
    c.Telescopes k checkpoint configured rematches ↔
      rematches.Pairwise fun m m' => m.kind = .checkpointRestore →
        m'.kind = .checkpointRestore := by
  induction rematches generalizing c with
  | nil => simp [Telescopes, Run.Along]
  | cons m rematches ih =>
    have hafter := hs.after m List.mem_cons_self
    have hbound := hs.bound m List.mem_cons_self
    have hnoFrame := hs.configured_lt
    rw [telescopes_cons, List.pairwise_cons]
    unfold Rematch.startupFrame
    cases hm : m.kind with
    | hardReset =>
      have hvalue : (c.rematch checkpoint m).startupFrame k = m.frame + configured := by
        rw [h.startupFrame_hardReset hm]
        exact u32_of_lt hbound
      simp only [hvalue, true_and, reduceCtorEq, false_imp_iff, implies_true]
      by_cases hlast : rematches = []
      · rw [hlast]
        simp [Telescopes, Run.Along]
      · exact ih (h.hardReset hm (by omega) (hs.lt_noFrame hlast)) hs.tail
    | checkpointRestore =>
      have hvalue : (c.rematch checkpoint m).startupFrame k =
          m.frame + max (configured - checkpoint) 1 := by
        rw [h.startupFrame_checkpointRestore hm hpos (by omega), u32_of_lt (by omega)]
      simp only [hvalue, true_and, forall_const]
      by_cases hlast : rematches = []
      · rw [hlast]
        simp [Telescopes, Run.Along]
      · have hless := hs.lt_noFrame hlast
        have hrestored := h.checkpointRestore hm hafter hpos (by omega) (by omega)
        rw [max_eq_right (by omega)] at hrestored
        rw [hrestored.telescopes_iff_of_restored hpos hle hs.tail]
        constructor
        · intro hall
          refine ⟨hall, List.pairwise_of_forall_mem_list fun r _ r' hr' _ => hall r' hr'⟩
        · exact fun hall => hall.1

end Rebased

/-- A startup frame of the configuration comes where it belongs after every rematch exactly if it
lies behind the checkpoint, or if no console is reset after a checkpoint has been restored: the base
that a restore sets does not know that a frame before the checkpoint has been moved behind it. -/
theorem startup_frames_telescope_iff (c : Context N) (k : StartupFrame) (checkpoint : Nat)
    (rematches : List Rematch)
    (hbase : c.runtime.startupFrameBase = 0) (hzero : c.startupFrame k ≠ 0)
    (hs : Schedule checkpoint (c.startupFrame k) rematches) :
    c.Telescopes k checkpoint (c.startupFrame k) rematches ↔
      checkpoint < c.startupFrame k ∨
        rematches.Pairwise fun m m' => m.kind = .checkpointRestore →
          m'.kind = .checkpointRestore := by
  by_cases hempty : rematches = []
  · subst hempty
    simp [Telescopes, Run.Along]
  · have hnoFrame : c.startupFrame k < kNoFrame := by
      obtain ⟨m, ms, rfl⟩ := List.exists_cons_of_ne_nil hempty
      exact hs.configured_lt
    have hrebased := rebased_of_base_eq_zero hbase hzero (ne_of_lt hnoFrame)
    by_cases hlt : checkpoint < c.startupFrame k
    · exact ⟨fun _ => Or.inl hlt, fun _ => hrebased.telescopes hlt hs⟩
    · rw [hrebased.telescopes_iff_of_le hzero (not_lt.mp hlt) hs]
      simp [hlt]

/-- A context whose startup frames all are this one. -/
def ofStartupFrame (frame : Nat) : Context Unit where
  mvl := { cameraInitHold := { startFrame := frame, endFrame := frame } }
  connection := { localStartupRawFrame := frame }
  packetBridge := { forceGameLocalPlayerIDStartFrame := frame }
  runtimePatch := { packetBridgeJitHelperPatchFrame := frame }
  nds := ()

/-- Two resets and two restores, with the startup frame behind the checkpoint. -/
theorem startup_frames_telescope_mixed :
    (ofStartupFrame 900).Telescopes .localStartupRaw 700 900
      [⟨5000, .hardReset⟩, ⟨8000, .checkpointRestore⟩, ⟨9000, .hardReset⟩,
        ⟨9500, .checkpointRestore⟩] :=
  (startup_frames_telescope_iff (ofStartupFrame 900) .localStartupRaw 700 _ rfl (by decide)
    ⟨by decide, by decide, by decide⟩).mpr (Or.inl (by decide))

/-- The startup frame is 3 and the checkpoint is taken at frame 5. The restore at frame 10 puts the
startup frame at 11; the reset at frame 20 puts it at 26 where 23 is due. -/
theorem reset_after_restore_late :
    let c := ofStartupFrame 3
    let rematches : List Rematch := [⟨10, .checkpointRestore⟩, ⟨20, .hardReset⟩]
    Schedule 5 (c.startupFrame .localStartupRaw) rematches ∧
      (rematches.foldl (rematch 5) c).startupFrame .localStartupRaw = 26 ∧
      ¬ c.Telescopes .localStartupRaw 5 (c.startupFrame .localStartupRaw) rematches := by
  refine ⟨⟨by decide, by decide, by decide⟩, by decide, ?_⟩
  rw [telescopes_cons, telescopes_cons]
  rintro ⟨_, hreset, _⟩
  revert hreset
  decide

end Context
end Bigstar.Netplay.MvlLifecycle
