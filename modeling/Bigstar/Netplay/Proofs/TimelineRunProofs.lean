import Bigstar.Lib.Run
import Bigstar.Netplay.Proofs.InputTimelineProofs

/-!
# Runs of the input timeline: no missed rollback

One guest drives the timeline on a single frame axis: it resolves the current frame and advances,
remote inputs arrive in any order, predictions are pruned, and a pending rollback is consumed by
replaying every frame from the pending one on. The record `used` says with which remote input each
frame was simulated last. Along every such run a frame whose record differs from its confirmation
lies at or after the pending rollback.
-/

namespace Bigstar.Netplay.InputTimeline

open OrderedMap

/-- The guest's side of the timeline. -/
structure Play where
  runtime : Runtime
  currentFrame : Nat
  /-- The remote input that each frame was last simulated with. -/
  used : InputMap

/-- What happens in a session with one remote player. -/
inductive PlayOp where
  /-- Resolve the current frame, simulate it and advance. -/
  | resolve
  /-- A remote input arrives. -/
  | storeRemote (frame : Nat) (input : InputState)
  /-- `PredictionRuntime::Prune`, for any frame and window. -/
  | prune (currentFrame window : Nat)
  /-- Consume the pending rollback; the replay may or may not include the current frame itself. -/
  | rollback (inclusive : Bool)

/-- What does not change during a run. -/
structure PlayConfig where
  localPlayer : Fin 2
  neutralInput : InputState := {}
  noFrameLimit : Nat := 0

namespace Play

/-- Replays one frame and records the remote input it was given. -/
def replayFrame (config : PlayConfig) (s : Play) (frame : Nat) : Play :=
  match resolveReplayFrameInputs s.runtime frame (config.localPlayer : Nat) config.neutralInput with
  | (runtime, some inputs) =>
    { s with runtime := runtime, used := s.used.insert frame inputs.remoteInput }
  | (runtime, none) => { s with runtime := runtime }

/-- One operation; `none` where it is not its turn. -/
def step (config : PlayConfig) (s : Play) : PlayOp → Option Play
  | .resolve =>
    let (runtime, remote) := s.runtime.resolve s.currentFrame config.neutralInput {}
    some {
      runtime := runtime
      currentFrame := u32 (s.currentFrame + 1)
      used := s.used.insert s.currentFrame remote.input }
  | .storeRemote frame input =>
    some { s with
      runtime :=
        (s.runtime.storeRemote frame input (some s.currentFrame) true config.noFrameLimit).1 }
  | .prune currentFrame window =>
    some { s with runtime := s.runtime.prunePredictions currentFrame window }
  | .rollback inclusive =>
    match s.runtime.rollbackInputs.pendingRollbackFrame with
    | none => none
    | some pending =>
      let s := { s with runtime := s.runtime.clearPendingRollback }
      let last := if inclusive then s.currentFrame + 1 else s.currentFrame
      some ((List.range' pending (last - pending)).foldl (replayFrame config) s)

end Play

/-- The confirmations of a run are those of `truth`: no frame is confirmed with two values. -/
def PlayOp.ConfirmedBy (truth : Nat → InputState) : PlayOp → Prop
  | .storeRemote frame input => input = truth frame
  | _ => True

namespace Play

/-- What every operation preserves. -/
structure Inv (truth : Nat → InputState) (s : Play) : Prop where
  sound : s.runtime.Sound (fun frame => s.used[frame]?) s.currentFrame
  confirmed : s.runtime.ConfirmedBy truth

variable {config : PlayConfig} {truth : Nat → InputState}

/-! ## The replay loop -/

theorem replayFrame_eq (config : PlayConfig) (s : Play) (frame : Nat) :
    replayFrame config s frame =
      { s with
        runtime := (s.runtime.resolve frame config.neutralInput {}).1
        used := s.used.insert frame (s.runtime.resolve frame config.neutralInput {}).2.input } := by
  unfold replayFrame
  rw [resolveReplayFrameInputs_eq]

@[simp]
theorem replayFrame_currentFrame (config : PlayConfig) (s : Play) (frame : Nat) :
    (replayFrame config s frame).currentFrame = s.currentFrame := by
  rw [replayFrame_eq]

/-- Every recorded frame in `P` is on record in the timeline. -/
def OnRecord (s : Play) (P : Nat → Prop) : Prop :=
  ∀ g u, P g → s.used[g]? = some u → s.runtime.Tracks g u

/-- Replaying a frame puts it on record and takes no other frame off it. -/
theorem OnRecord.replayFrame {s : Play} {P : Nat → Prop} (h : s.OnRecord P) (frame : Nat) :
    (replayFrame config s frame).OnRecord fun g => P g ∨ g = frame := by
  intro g u hg hu
  rw [replayFrame_eq] at hu ⊢
  dsimp only at hu ⊢
  rw [getElem?_insert_eq] at hu
  split at hu
  · next hfg =>
    subst hfg
    rw [← Option.some.inj hu]
    exact Runtime.tracks_resolve frame config.neutralInput rfl
  · next hfg =>
    have hP : P g := hg.resolve_right (Ne.symm hfg)
    exact (h g u hP hu).resolve frame config.neutralInput rfl

/-- The replay loop puts every frame it visits on record. -/
theorem OnRecord.replay {P : Nat → Prop} {s : Play} (h : s.OnRecord P) (config : PlayConfig)
    (frames : List Nat) :
    (frames.foldl (Play.replayFrame config) s).OnRecord fun g => P g ∨ g ∈ frames := by
  induction frames generalizing s P with
  | nil =>
    intro g u hg hu
    exact h g u (by simpa using hg) hu
  | cons frame frames ih =>
    intro g u hg hu
    refine ih (OnRecord.replayFrame h frame) g u ?_ hu
    rcases hg with hP | hmem
    · exact Or.inl (Or.inl hP)
    · rcases List.mem_cons.mp hmem with rfl | hmem
      · exact Or.inl (Or.inr rfl)
      · exact Or.inr hmem

theorem replay_currentFrame (frames : List Nat) (s : Play) :
    (frames.foldl (replayFrame config) s).currentFrame = s.currentFrame := by
  induction frames generalizing s with
  | nil => rfl
  | cons frame frames ih => rw [List.foldl_cons, ih, replayFrame_currentFrame]

theorem replay_remoteInputs (frames : List Nat) (s : Play) :
    (frames.foldl (replayFrame config) s).runtime.remoteInputs = s.runtime.remoteInputs := by
  induction frames generalizing s with
  | nil => rfl
  | cons frame frames ih =>
    rw [List.foldl_cons, ih, replayFrame_eq, Runtime.resolve_remoteInputs]

/-! ## Each operation preserves the invariant -/

theorem Inv.resolve {s : Play} (h : s.Inv truth) :
    Inv truth {
      runtime := (s.runtime.resolve s.currentFrame config.neutralInput {}).1
      currentFrame := u32 (s.currentFrame + 1)
      used := s.used.insert s.currentFrame
        (s.runtime.resolve s.currentFrame config.neutralInput {}).2.input } := by
  refine ⟨?_, h.confirmed⟩
  intro g u hg hu
  dsimp only at hg hu ⊢
  rw [getElem?_insert_eq] at hu
  split at hu
  · next hcur =>
    subst hcur
    rw [← Option.some.inj hu]
    exact Or.inr (Runtime.tracks_resolve _ _ rfl)
  · next hcur =>
    -- a wrapped frame counter only makes the obligation smaller
    have hle : u32 (s.currentFrame + 1) ≤ s.currentFrame + 1 := Nat.mod_le _ _
    rcases h.sound g u (by omega) hu with hcov | htr
    · exact Or.inl ((Runtime.covered_resolve_iff _ _ rfl).mpr hcov)
    · exact Or.inr (htr.resolve _ _ rfl)

theorem Inv.storeRemote {s : Play} (h : s.Inv truth) (frame : Nat) :
    Inv truth { s with
      runtime := (s.runtime.storeRemote frame (truth frame) (some s.currentFrame) true
        config.noFrameLimit).1 } := by
  refine ⟨?_, h.confirmed.storeRemote frame _ _⟩
  apply h.sound.storeRemote
  · intro c hc
    exact (h.confirmed frame c hc).symm
  · intro w _ _
    by_cases hlt : frame < s.currentFrame
    · exact Or.inr (Or.inl (by simpa [PredictionRuntime.frameAlreadySimulated] using hlt))
    · exact Or.inl (not_lt.mp hlt)

theorem Inv.prune {s : Play} (h : s.Inv truth) (currentFrame window : Nat) :
    Inv truth { s with runtime := s.runtime.prunePredictions currentFrame window } := by
  refine ⟨?_, h.confirmed⟩
  intro g u hg hu
  rcases h.sound g u hg hu with hcov | htr
  · exact Or.inl hcov
  · exact Or.inr (htr.prunePredictions currentFrame window)

theorem Inv.rollback {s : Play} (h : s.Inv truth) {pending last : Nat}
    (hp : s.runtime.rollbackInputs.pendingRollbackFrame = some pending)
    (hlast : s.currentFrame ≤ last) :
    Inv truth ((List.range' pending (last - pending)).foldl (replayFrame config)
      { s with runtime := s.runtime.clearPendingRollback }) := by
  -- before the replay, the frames below the pending one are on record
  have hbelow : Play.OnRecord { s with runtime := s.runtime.clearPendingRollback }
      fun g => g < s.currentFrame ∧ g < pending := by
    rintro g u ⟨hg, hlt⟩ hu
    rcases h.sound g u hg hu with ⟨q, hq, hqg⟩ | htr
    · rw [hp] at hq
      obtain rfl := Option.some.inj hq
      omega
    · exact Runtime.tracks_clearPendingRollback_iff.mpr htr
  have hall := hbelow.replay config (List.range' pending (last - pending))
  constructor
  · intro g u hg hu
    rw [replay_currentFrame] at hg
    refine Or.inr (hall g u ?_ hu)
    simp only [List.mem_range'_1]
    dsimp only at hg
    omega
  · intro g v hv
    rw [replay_remoteInputs] at hv
    exact h.confirmed g v hv

theorem Inv.step {s t : Play} {op : PlayOp} (h : s.Inv truth) (hop : op.ConfirmedBy truth)
    (hstep : Play.step config s op = some t) : t.Inv truth := by
  cases op with
  | resolve =>
    obtain rfl := Option.some.inj hstep
    exact h.resolve
  | storeRemote frame input =>
    obtain rfl := Option.some.inj hstep
    obtain rfl : input = truth frame := hop
    exact h.storeRemote frame
  | prune currentFrame window =>
    obtain rfl := Option.some.inj hstep
    exact h.prune currentFrame window
  | rollback inclusive =>
    simp only [Play.step] at hstep
    split at hstep
    · exact absurd hstep (by simp)
    · next pending hp =>
      obtain rfl := Option.some.inj hstep
      apply h.rollback hp
      split
      · exact Nat.le_succ _
      · exact le_refl _

/-! ## Whole runs -/

/-- No missed rollback: after any run from a state in which nothing has been simulated, a frame that
was last simulated with a remote input other than the confirmed one lies at or after the pending
rollback frame. -/
theorem no_missed_rollback (config : PlayConfig) (truth : Nat → InputState) (start : Play)
    (hstart : start.used = ∅) (hconfirmed : start.runtime.ConfirmedBy truth)
    (ops : List PlayOp) (hops : ∀ op ∈ ops, op.ConfirmedBy truth) (s : Play)
    (hrun : Run.run (Play.step config) start ops = some s)
    (frame : Nat) (hframe : frame < s.currentFrame) (u c : InputState)
    (hused : s.used[frame]? = some u) (hc : s.runtime.remoteInputs[frame]? = some c)
    (hne : u ≠ c) :
    ∃ pending, s.runtime.rollbackInputs.pendingRollbackFrame = some pending ∧ pending ≤ frame := by
  have hinit : start.Inv truth := by
    refine ⟨?_, hconfirmed⟩
    intro g u _ hu
    rw [hstart] at hu
    exact absurd hu (by simp)
  have hinv : s.Inv truth :=
    Run.run_invariant_of_forall (fun s e t => Inv.step) hinit hops hrun
  rcases hinv.sound frame u hframe hused with hcov | htr
  · exact hcov
  · exact absurd (htr.eq_of_confirmed hc) hne

/-- The input of a player who holds A. -/
def pressA : InputState := { keyMask := 0xFFE }

/-- Three frames are predicted, then the middle one is confirmed with another input. -/
theorem no_missed_rollback_late_confirmation :
    ∃ s, Run.run (Play.step { localPlayer := 0 }) { runtime := {}, currentFrame := 0, used := ∅ }
        [.resolve, .resolve, .resolve, .storeRemote 1 pressA] = some s ∧
      s.used[1]? = some ({} : InputState) ∧ s.runtime.remoteInputs[1]? = some pressA ∧
      ∃ pending, s.runtime.rollbackInputs.pendingRollbackFrame = some pending ∧ pending ≤ 1 := by
  refine ⟨_, rfl, by decide +kernel, by decide +kernel, ?_⟩
  refine no_missed_rollback { localPlayer := 0 } (fun _ => pressA) _ rfl ?_
    [.resolve, .resolve, .resolve, .storeRemote 1 pressA] ?_ _ rfl 1 (by decide +kernel) {} pressA
    (by decide +kernel) (by decide +kernel) (by decide)
  · intro frame v hv
    exact absurd hv (by simp)
  · simp [PlayOp.ConfirmedBy]

end Play

end Bigstar.Netplay.InputTimeline
