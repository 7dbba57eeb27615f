import Bigstar.Netplay.Proofs.RollbackRuntimeProofs
import Bigstar.Netplay.Proofs.RomLoopProofs
import Mathlib.Tactic.Common

/-!
# A correction that cannot be carried out

`ResimulateIfNeeded` may find a pending rollback and yet return false. While the resimulation delay
has not elapsed, it leaves everything as it is. Once it has, the pending frame is cleared before the
correction is known to succeed, and nothing puts it back: the correction is given up. The
predictions, the checkpoints and the guest's history are not touched on the way, except that a
restore out of the store is tried after the checkpoints behind the restored frame have been erased.
-/

namespace Bigstar.Netplay

open OrderedMap InputTimeline RollbackStorage RollbackRuntime GameRAMRollback

namespace RollbackRuntime

/-- The timeline after a failed attempt that has found this one. -/
def afterFailedCorrection (config : RollbackConfig) (frame : Nat) (found : InputTimeline.Runtime) :
    InputTimeline.Runtime :=
  if isResimulationDelayElapsed frame found.rollbackInputs.pendingRollbackObservedFrame
      config.resimulateDelayFrames then
    found.clearPendingRollback
  else found

/-- A pending rollback before the current frame ends the process, waits, or is to be corrected. -/
theorem planResimulation_of_pending {config : RollbackConfig} {p : PredictionRuntime}
    {frame pending : Nat} (hp : p.pendingRollbackFrame = some pending) (hlt : pending < frame) :
    (config.backend = .romLoop ∧ planResimulation config p frame = .exit) ∨
    ∃ mismatchFrame, planResimulation config p frame =
      if isResimulationDelayElapsed frame p.pendingRollbackObservedFrame
        config.resimulateDelayFrames then
        .resimulate mismatchFrame
      else .wait := by
  unfold planResimulation
  rw [hp]
  dsimp only
  rw [if_neg (by omega), if_neg (by omega)]
  split
  · next hexit =>
    left
    exact ⟨of_decide_eq_true hexit.1, rfl⟩
  · right
    cases isResimulationDelayElapsed frame p.pendingRollbackObservedFrame
      config.resimulateDelayFrames with
    | false => exact ⟨0, rfl⟩
    | true => exact ⟨_, rfl⟩

variable {σ β : Type}

/-- `ResimulateIfNeeded` finds a pending rollback before the current frame and returns false, with
the checkpoints in the store. -/
structure Failed (context : Context) (console : Console σ β) (s : State σ β)
    (frame : Nat) (s' : State σ β) : Prop where
  backend : context.config.backend ≠ .romLoop
  enabled : context.config.enabled = true
  resimulate : context.config.resimulate = true
  netplayOnly : context.netplayOnly = true
  pending : ∃ pending < frame,
    (confirmPredictionProbeLocked context frame s.inputs).rollbackInputs.pendingRollbackFrame =
      some pending
  returned : resimulateIfNeeded context console s frame = (s', false)

theorem replayFrom_snd (context : Context) (console : Console σ β) (s : State σ β)
    (restoreFrame frame : Nat)
    (restored : σ) : (replayFrom context console s restoreFrame frame restored).2 = true := by
  have hreplayed := resimulateFrames_snd context console frame
    (List.range' restoreFrame (frame - restoreFrame)) { s with
      console := restored
      store := refreshFrameShadowLocked context s.store restoreFrame (console.mainRAM restored) }
  unfold replayFrom
  dsimp only
  split
  · next hfalse =>
    rw [hfalse] at hreplayed
    exact hreplayed
  · rfl

/-- A failed attempt gives up, and has touched the store only if a restore out of it has failed. -/
theorem Failed.given_up {context : Context} {console : Console σ β} {s s' : State σ β} {frame : Nat}
    (h : Failed context console s frame s') :
    s'.inputs = afterFailedCorrection context.config frame
      (confirmPredictionProbeLocked context frame s.inputs) ∧
      (s'.store = s.store ∧ s'.console = s.console ∨
        ∃ mismatchFrame restoreFrame checkpoint,
          s.store.latestAtOrBefore mismatchFrame = some (restoreFrame, checkpoint) ∧
          restoreCheckpoint context console s restoreFrame checkpoint = some (s'.console, false) ∧
          s'.store = s.store.eraseAfter restoreFrame) := by
  obtain ⟨pending, hlt, hpending⟩ := h.pending
  have hreturned := h.returned
  unfold resimulateIfNeeded at hreturned
  rw [if_neg (by simp [h.enabled, h.resimulate, h.netplayOnly])] at hreturned
  dsimp only at hreturned
  generalize hfound : confirmPredictionProbeLocked context frame s.inputs = found at *
  unfold afterFailedCorrection
  obtain ⟨hromLoop, -⟩ | ⟨mismatchFrame, hplan⟩ := planResimulation_of_pending hpending hlt
  · exact absurd hromLoop h.backend
  · rw [hplan] at hreturned
    by_cases helapsed : isResimulationDelayElapsed frame
      found.rollbackInputs.pendingRollbackObservedFrame
        context.config.resimulateDelayFrames = true
    · rw [if_pos helapsed] at hreturned ⊢
      dsimp only at hreturned
      cases hlatest : s.store.latestAtOrBefore mismatchFrame with
      | none =>
        rw [hlatest] at hreturned
        cases hreturned
        exact ⟨rfl, Or.inl ⟨rfl, rfl⟩⟩
      | some stored =>
        obtain ⟨restoreFrame, checkpoint⟩ := stored
        rw [hlatest] at hreturned
        dsimp only at hreturned
        cases hrestore : restoreCheckpoint context console s restoreFrame checkpoint with
        | none =>
          have hchain : restoreCheckpoint context console
            { s with inputs := found } restoreFrame checkpoint
              = none := hrestore
          rw [hchain] at hreturned
          cases hreturned
          exact ⟨rfl, Or.inl ⟨rfl, rfl⟩⟩
        | some result =>
          have hchain : restoreCheckpoint context console
            { s with inputs := found } restoreFrame checkpoint
              = some result := hrestore
          obtain ⟨restored, success⟩ := result
          rw [hchain] at hreturned
          cases success with
          | false =>
            cases hreturned
            exact ⟨rfl, Or.inr ⟨mismatchFrame, restoreFrame, checkpoint, hlatest, hrestore, rfl⟩⟩
          | true =>
            have hsnd := congrArg Prod.snd hreturned
            dsimp only at hsnd
            rw [if_neg (by decide), replayFrom_snd] at hsnd
            cases hsnd
    · rw [if_neg helapsed] at hreturned ⊢
      cases hreturned
      exact ⟨rfl, Or.inl ⟨rfl, rfl⟩⟩

end RollbackRuntime

namespace RomLoop

variable {S : Type}

/-- The same with the checkpoints in the ring: no transaction is in flight, and no restore is
armed. -/
structure Failed (start : Started) (s : Session S) (frame : Nat)
    (beforeArm : List Arrival) (s' : Session S) : Prop where
  enabled : start.config.enabled = true
  resimulate : start.config.resimulate = true
  flight : s.nds.isRollbackTransactionInFlight = false
  pending : ∃ pending < frame,
    (confirmPredictionProbeLocked start.context frame
      s.inputs).rollbackInputs.pendingRollbackFrame = some pending
  returned : resimulateIfNeeded start s frame beforeArm = some s'
  not_armed : s'.nds.restorePending = false

/-- An attempt that arms nothing changes nothing. -/
theorem armCorrection_of_not_armed {start : Started} {s : Session S}
    {checkpoint : GameRAMCheckpoint S}
    {frame : Nat} (hflight : s.nds.isRollbackTransactionInFlight = false)
    (h : (armCorrection start s checkpoint frame).nds.restorePending = false) :
    armCorrection start s checkpoint frame = s := by
  by_cases hcan : CanArm s.nds checkpoint frame
  · cases himage : checkpoint.mainRAM with
    | none =>
      unfold armCorrection
      rw [himage]
    | some image =>
      obtain ⟨inputs, history, hresolve, -⟩ := exists_resolveHistory_eq start
        (List.range' checkpoint.displayFrame (requiredHistoryCount checkpoint.displayFrame frame))
          s.inputs
      rw [armCorrection_of_canArm hflight himage hcan hresolve] at h
      cases h
  · exact armCorrection_of_not_canArm hcan

theorem Failed.given_up {start : Started} {s s' : Session S} {frame : Nat}
    {beforeArm : List Arrival} (h : Failed start s frame beforeArm s') :
    s'.nds = s.nds ∧
      s'.inputs = pumpThread start (afterFailedCorrection start.config frame
        (confirmPredictionProbeLocked start.context frame s.inputs)) beforeArm := by
  obtain ⟨pending, hlt, hpending⟩ := h.pending
  have hreturned := h.returned
  unfold resimulateIfNeeded at hreturned
  rw [if_neg (by simp [h.enabled, h.resimulate])] at hreturned
  dsimp only at hreturned
  rw [if_neg (by simp [h.flight])] at hreturned
  generalize hfound : confirmPredictionProbeLocked start.context frame s.inputs = found at *
  unfold afterFailedCorrection
  obtain ⟨-, hplan⟩ | ⟨mismatchFrame, hplan⟩ := planResimulation_of_pending hpending hlt
  · rw [hplan] at hreturned
    cases hreturned
  · rw [hplan] at hreturned
    by_cases helapsed : isResimulationDelayElapsed frame
      found.rollbackInputs.pendingRollbackObservedFrame
        start.config.resimulateDelayFrames = true
    · rw [if_pos helapsed] at hreturned ⊢
      dsimp only at hreturned
      cases hcopy : s.nds.copyCheckpointAtOrBefore mismatchFrame with
      | none =>
        rw [hcopy] at hreturned
        cases hreturned
        exact ⟨rfl, rfl⟩
      | some checkpoint =>
        rw [hcopy] at hreturned
        obtain rfl := Option.some.inj hreturned
        have hflight : ({ s with inputs := pumpThread start found.clearPendingRollback beforeArm } :
            Session S).nds.isRollbackTransactionInFlight = false := h.flight
        rw [armCorrection_of_not_armed hflight h.not_armed]
        exact ⟨rfl, rfl⟩
    · rw [if_neg helapsed] at hreturned ⊢
      cases hreturned
      exact ⟨rfl, rfl⟩

end RomLoop
/-- A correction that cannot be carried out is given up. Of what it would have corrected from, only
a store whose checkpoint could not be restored has changed. -/
theorem failed_correction_given_up :
    (∀ {σ β : Type} (context : Context) (console : Console σ β) (s s' : State σ β) (frame : Nat),
      RollbackRuntime.Failed context console s frame s' →
        s'.inputs = afterFailedCorrection context.config frame
            (confirmPredictionProbeLocked context frame s.inputs) ∧
          (s'.store = s.store ∧ s'.console = s.console ∨
            ∃ mismatchFrame restoreFrame checkpoint,
              s.store.latestAtOrBefore mismatchFrame = some (restoreFrame, checkpoint) ∧
              restoreCheckpoint context console s restoreFrame checkpoint =
                some (s'.console, false) ∧
              s'.store = s.store.eraseAfter restoreFrame)) ∧
    ∀ {S : Type} (start : RomLoop.Started) (s s' : RomLoop.Session S) (frame : Nat)
      (beforeArm : List Arrival), RomLoop.Failed start s frame beforeArm s' →
        s'.nds = s.nds ∧
          s'.inputs = RomLoop.pumpThread start (afterFailedCorrection start.config frame
            (confirmPredictionProbeLocked start.context frame s.inputs)) beforeArm :=
  ⟨fun _ _ _ _ _ h => h.given_up, fun _ _ _ _ _ h => h.given_up⟩

/-! ## A correction that is lost -/

/-- A rollback of frame 5 is pending, and no checkpoint has been written. -/
def pendingInputs : InputTimeline.Runtime where
  rollbackInputs := { pendingRollbackFrame := some 5, pendingRollbackObservedFrame := some 6 }

/-- A session with a correction to be made and no checkpoint. -/
def pendingState : State Nat Nat where
  inputs := pendingInputs
  console := 0

/-- A context that asks for corrections. -/
def correctingContext : Context where
  config := { enabled := true, resimulate := true }
  localPlayer := 0

/-- A console that counts its frames. -/
def countingConsole : Console Nat Nat := exactConsole fun s _ => s + 1

/-- The same for the ROM loop. -/
def pendingStart : RomLoop.Started where
  config := { enabled := true, resimulate := true, backend := .romLoop }
  localPlayer := 0
  localReadyFrame := 1
  sharedLogicalEpoch := 1
  delay := 0
  ready_pos := Nat.one_pos
  epoch_pos := Nat.one_pos
  epoch_le := by decide

/-- Its session. -/
def pendingSession : RomLoop.Session Nat where
  inputs := pendingInputs
  nds := { mainRAM := 0, scratch := fun _ => {} }
  rawFrame := 10

theorem failed_store : RollbackRuntime.Failed correctingContext countingConsole pendingState 10
    { pendingState with inputs := pendingInputs.clearPendingRollback } where
  backend := by decide
  enabled := rfl
  resimulate := rfl
  netplayOnly := rfl
  pending := ⟨5, by decide, rfl⟩
  returned := rfl

theorem failed_ring : RomLoop.Failed pendingStart pendingSession 10 []
    { pendingSession with inputs := pendingInputs.clearPendingRollback } where
  enabled := rfl
  resimulate := rfl
  flight := rfl
  pending := ⟨5, by decide, rfl⟩
  returned := rfl
  not_armed := rfl

theorem failed_correction_given_up_empty :
    (({ pendingState with inputs := pendingInputs.clearPendingRollback } : State Nat Nat).inputs
      = afterFailedCorrection correctingContext.config 10
        (confirmPredictionProbeLocked correctingContext 10 pendingState.inputs)) ∧
    ({ pendingSession with inputs := pendingInputs.clearPendingRollback } : RomLoop.Session Nat).nds
      = pendingSession.nds :=
  ⟨(failed_correction_given_up.1 correctingContext countingConsole pendingState
    _ 10 failed_store).1,
    (failed_correction_given_up.2 pendingStart pendingSession _ 10 [] failed_ring).1⟩

/-- With no checkpoint to start from, the correction of frame 5 is asked for once, refused, and
forgotten. -/
theorem pending_rollback_lost :
    RollbackRuntime.Failed correctingContext countingConsole pendingState 10
        (resimulateIfNeeded correctingContext countingConsole pendingState 10).1 ∧
      pendingState.inputs.rollbackInputs.pendingRollbackFrame = some 5 ∧
      (resimulateIfNeeded correctingContext countingConsole pendingState
        10).1.inputs.rollbackInputs.pendingRollbackFrame
        = none :=
  ⟨failed_store, rfl, rfl⟩

end Bigstar.Netplay
