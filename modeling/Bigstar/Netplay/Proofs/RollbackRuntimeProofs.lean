import Bigstar.Netplay.RollbackRuntime
import Bigstar.Netplay.Proofs.InputTimelineProofs

/-!
# What the parts of a resimulation do

The plan made of a pending rollback, and one round of the replay, whatever the backend.
-/

namespace Bigstar.Netplay.RollbackRuntime

open OrderedMap InputTimeline RollbackStorage

variable {σ β : Type}

/-! ## Planning -/

theorem confirmPredictionProbeLocked_eq {context : Context}
    (h : context.config.predictionProbeConfirmDelayFrames = 0) (frame : Nat)
    (inputs : InputTimeline.Runtime) :
    confirmPredictionProbeLocked context frame inputs = inputs := by
  simp [confirmPredictionProbeLocked, h]

/-- Where the depth limit does not cut, a plan to resimulate is to resimulate from the pending
frame. -/
theorem planResimulation_eq_resimulate {config : RollbackConfig} {p : PredictionRuntime}
    {frame mismatchFrame : Nat} (hbackend : config.backend ≠ .romLoop)
    (hplan : planResimulation config p frame = .resimulate mismatchFrame) :
    ∃ pending, p.pendingRollbackFrame = some pending ∧ pending < frame ∧
      mismatchFrame = clampResimulationMismatch pending frame config.maxResimFrames := by
  unfold planResimulation at hplan
  cases hp : p.pendingRollbackFrame with
  | none =>
    rw [hp] at hplan
    exact absurd hplan (by simp)
  | some pending =>
    rw [hp] at hplan
    simp only [hbackend, decide_false, Bool.false_eq_true, false_and, if_false] at hplan
    split_ifs at hplan with h1 h2 h3
    cases hplan
    exact ⟨pending, rfl, by omega, rfl⟩

theorem planResimulation_ne_consume {config : RollbackConfig} {p : PredictionRuntime} {frame : Nat}
    (h : ∀ pending, p.pendingRollbackFrame = some pending → pending < frame) :
    planResimulation config p frame ≠ .consume := by
  unfold planResimulation
  cases hp : p.pendingRollbackFrame with
  | none => simp
  | some pending =>
    have hlt := h pending hp
    dsimp only
    rw [if_neg (by omega), if_neg (by omega)]
    split_ifs <;> simp

/-! ## Replaying -/

/-- A round of the replay resolves and runs the frame, and then saves or not. -/
theorem resimulateFrame_eq (console : Console σ β) (context : Context) (frame : Nat)
    (s : State σ β) (resimFrame : Nat) :
    ∃ inputs : ReplayFrameInputs,
      inputs.remoteInput =
        (s.inputs.resolve resimFrame neutralInput (replayProbe context.config)).2.input ∧
      (inputs.players = fun player =>
        if player = context.localPlayer then s.inputs.localInput resimFrame neutralInput
        else inputs.remoteInput) ∧
      resimulateFrame context console frame s resimFrame =
        let t : State σ β := { s with
          inputs := (s.inputs.resolve resimFrame neutralInput (replayProbe context.config)).1
          console := console.runFrame s.console inputs.players
          used := s.used.insert resimFrame inputs }
        if shouldSaveResimulationCheckpoint (resimFrame + 1) frame
            context.config.skipIntermediateResimCheckpoints then
          some (saveCheckpointNowLocked context console t (resimFrame + 1))
        else some t := by
  unfold resimulateFrame
  rw [resolveReplayFrameInputs_eq]
  exact ⟨_, rfl, rfl, rfl⟩

/-- The replay runs to its end. -/
theorem resimulateFrames_snd (context : Context) (console : Console σ β) (frame : Nat)
    (frames : List Nat) (s : State σ β) :
    (resimulateFrames context console frame frames s).2 = true := by
  induction frames generalizing s with
  | nil => rfl
  | cons resimFrame frames ih =>
    obtain ⟨inputs, -, -, heq⟩ := resimulateFrame_eq console context frame s resimFrame
    unfold resimulateFrames
    rw [heq]
    dsimp only
    split
    · next hnone =>
      split at hnone
      · exact absurd hnone (by simp)
      · exact absurd hnone (by simp)
    · exact ih _

/-- A resimulation leaves everything but the timeline alone, or restores a stored checkpoint and, if
that succeeds, replays from it. -/
theorem resimulateIfNeeded_cases (context : Context) (console : Console σ β) (s : State σ β)
    (frame : Nat) :
    (∃ inputs, resimulateIfNeeded context console s frame = ({ s with inputs := inputs }, false)) ∨
    ∃ inputs mismatchFrame restoreFrame stored restored success,
      s.store.latestAtOrBefore mismatchFrame = some (restoreFrame, stored) ∧
      restoreCheckpoint context console s restoreFrame stored = some (restored, success) ∧
      resimulateIfNeeded context console s frame =
        let erased : State σ β := { s with
          inputs := inputs, store := s.store.eraseAfter restoreFrame }
        if !success then ({ erased with console := restored }, false)
        else replayFrom context console erased restoreFrame frame restored := by
  unfold resimulateIfNeeded
  split
  · exact Or.inl ⟨s.inputs, rfl⟩
  · dsimp only
    cases planResimulation context.config
        (confirmPredictionProbeLocked context frame s.inputs).rollbackInputs frame with
    | wait => exact Or.inl ⟨_, rfl⟩
    | exit => exact Or.inl ⟨_, rfl⟩
    | consume => exact Or.inl ⟨_, rfl⟩
    | resimulate mismatchFrame =>
      dsimp only
      cases hlatest : s.store.latestAtOrBefore mismatchFrame with
      | none => exact Or.inl ⟨_, rfl⟩
      | some found =>
        obtain ⟨restoreFrame, stored⟩ := found
        dsimp only
        have hinputs : restoreCheckpoint context console { s with
            inputs := confirmPredictionProbeLocked context frame s.inputs } restoreFrame stored =
              restoreCheckpoint context console s restoreFrame stored := rfl
        rw [hinputs]
        cases hrestore : restoreCheckpoint context console s restoreFrame stored with
        | none => exact Or.inl ⟨_, rfl⟩
        | some result =>
          obtain ⟨restored, success⟩ := result
          exact Or.inr ⟨_, mismatchFrame, restoreFrame, stored, restored,
            success, hlatest, hrestore,
            rfl⟩

end Bigstar.Netplay.RollbackRuntime
