import Bigstar.Netplay.RomLoopMatch
import Bigstar.Netplay.Proofs.MvlLifecycleProofs
import Bigstar.Netplay.Proofs.RomLoopProofs

/-!
# Nothing of one game is left in the next

What `NDS` holds of a correction belongs to the generation that it was armed in, and so does every
image in the ring that can still be restored: the label of the epoch has invalidated all others.
While the epoch is waited for, nothing is corrected, because nothing has been predicted.
-/

namespace Bigstar.Netplay.RomLoopMatch

open OrderedMap InputTimeline RollbackStorage RollbackRuntime GameRAMRollback RomLoop MvlLifecycle

variable {S : Type} {guest : Guest S (Fin 2 → InputState)} {nds : MatchNds S}
  {generation written : Nat}

/-! ## What a console holds of one generation -/

/-- What the guest plays, or is about to play, belongs to a generation. `written` is the one in
which the history was written. -/
structure Owned (generation written : Nat) (nds : MatchNds S) : Prop where
  mainRAM : nds.mainRAM.2 = generation
  restore : nds.restorePending = true → ∀ image, nds.restoreData = some image → image.2 = generation
  history : nds.history.enabled = true → written = generation

/-- Every image in the ring that can be restored belongs to the generation. -/
def OwnedRing (generation : Nat) (nds : MatchNds S) : Prop :=
  ∀ c ∈ nds.checkpoints, c.valid = true → ∀ image, c.mainRAM = some image → image.2 = generation

/-- The label of the epoch will invalidate the ring. -/
def Outdated (epoch : Nat) (nds : MatchNds S) : Prop :=
  nds.checkpointTimeline.active = false ∨ epoch < nds.checkpointTimeline.logicalFrame

/-- Without a correction in flight, main RAM is all there is. -/
theorem Owned.idle (hram : nds.mainRAM.2 = generation)
    (hflight : nds.isRollbackTransactionInFlight = false) :
    Owned generation written nds := by
  unfold Nds.isRollbackTransactionInFlight at hflight
  simp only [Bool.or_eq_false_iff] at hflight
  obtain ⟨⟨hpending, -⟩, henabled⟩ := hflight
  refine ⟨hram, fun h => ?_, fun h => ?_⟩
  · rw [hpending] at h
    cases h
  · rw [henabled] at h
    cases h

/-! ### The ring -/

/-- A capture belongs to the generation of main RAM. -/
theorem OwnedRing.capture (h : OwnedRing generation nds) (hram : nds.mainRAM.2 = generation)
    (displayFrame : Nat) :
    OwnedRing generation (nds.captureCheckpointAtGate (ofGeneration guest) displayFrame) := by
  have hresized : OwnedRing generation nds.resizeCheckpoints := by
    unfold Nds.resizeCheckpoints
    split
    · intro c hc hvalid
      rw [List.eq_of_mem_replicate hc] at hvalid
      cases hvalid
    · exact h
  intro c hc hvalid image himage
  rcases List.mem_or_eq_of_mem_set hc with hold | rfl
  · exact hresized c hold hvalid image himage
  · obtain rfl := Option.some.inj himage
    rw [Nds.resizeCheckpoints_mainRAM]
    exact hram

/-- A discard leaves no foreign checkpoint behind. -/
theorem OwnedRing.discard (h : OwnedRing generation nds) (frame : Nat) :
    OwnedRing generation (nds.discardCheckpointsAfter frame) := by
  intro c hc hvalid image himage
  obtain ⟨d, hd, rfl⟩ := List.mem_map.mp hc
  unfold Nds.discardCheckpoint at hvalid himage
  split at hvalid
  · next hkeep =>
    rw [if_pos hkeep] at himage
    exact h d hd hvalid image himage
  · cases hvalid

/-- A label either invalidates the ring or does not go back. -/
theorem ownedRing_label (generation : Nat) (nds : MatchNds S) (frame : Nat) :
    OwnedRing generation (nds.setCheckpointFrame frame) ∨
      nds.checkpointTimeline.active = true ∧ nds.checkpointTimeline.logicalFrame ≤ frame ∧
        nds.setCheckpointFrame frame =
          { nds with checkpointTimeline := { active := true, logicalFrame := frame } } := by
  unfold Nds.setCheckpointFrame CheckpointFrameTimeline.setLogicalFrame
  cases hinvalidates : (!nds.checkpointTimeline.active
    || decide (frame < nds.checkpointTimeline.logicalFrame)) with
  | true =>
    left
    intro c hc hvalid
    obtain ⟨d, -, rfl⟩ := List.mem_map.mp hc
    cases hvalid
  | false =>
    right
    rw [Bool.or_eq_false_iff, Bool.not_eq_false', decide_eq_false_iff_not,
      Nat.not_lt] at hinvalidates
    exact ⟨hinvalidates.1, hinvalidates.2, rfl⟩

theorem OwnedRing.label (h : OwnedRing generation nds) (frame : Nat) :
    OwnedRing generation (nds.setCheckpointFrame frame) := by
  rcases ownedRing_label generation nds frame with hring | ⟨-, -, heq⟩
  · exact hring
  · rw [heq]
    exact h

/-- An outdated ring stays outdated until a label invalidates it; the epoch does at the latest. -/
theorem Outdated.label {epoch : Nat} (h : Outdated epoch nds) (frame : Nat) :
    OwnedRing generation (nds.setCheckpointFrame frame) ∨
      Outdated epoch (nds.setCheckpointFrame frame) ∧ epoch < frame := by
  rcases ownedRing_label generation nds frame with hring | ⟨hactive, hle, heq⟩
  · exact Or.inl hring
  · have hlt : epoch < frame := by
      rcases h with hinactive | hlt
      · rw [hactive] at hinactive
        cases hinactive
      · exact Nat.lt_of_lt_of_le hlt hle
    right
    rw [heq]
    exact ⟨Or.inr hlt, hlt⟩

/-- A label changes no image. -/
theorem setCheckpointFrame_owned (h : Owned generation written nds) (frame : Nat) :
    Owned generation written (nds.setCheckpointFrame frame) := by
  obtain ⟨checkpoints, next, heq⟩ := exists_setCheckpointFrame_eq nds frame
  rw [heq]
  exact ⟨h.mainRAM, h.restore, h.history⟩

/-! ### The gates -/

theorem Owned.capture (h : Owned generation written nds) (displayFrame : Nat) :
    Owned generation written (nds.captureCheckpointAtGate (ofGeneration guest) displayFrame) := by
  obtain ⟨checkpoints, next, heq⟩ :=
    Nds.exists_captureCheckpointAtGate_eq (ofGeneration guest) nds displayFrame
  rw [heq]
  exact ⟨h.mainRAM, h.restore, h.history⟩

/-- What the gate can do. -/
inductive Gated {S P : Type} (guest : Guest S P) (nds : Nds S P) : Nds S P → Prop where
  | same : Gated guest nds nds
  | capture (displayFrame : Nat) : Gated guest nds (nds.captureCheckpointAtGate guest displayFrame)
  /-- The replay is over. -/
  | leave (hpending : nds.restorePending = false) (henabled : nds.history.enabled = true) :
    Gated guest nds
      { nds with historyReachedExitGate := true, history := { nds.history with enabled := false } }
  | drop (hpending : nds.restorePending = true) :
    Gated guest nds { nds with restorePending := false }
  | restore (image : S) (hpending : nds.restorePending = true)
    (hdata : nds.restoreData = some image) :
    Gated guest nds { nds with mainRAM := image, restorePending := false, restoreData := none }

/-- What the gate can do, by cases. -/
theorem gated {S P : Type} (guest : Guest S P) (nds : Nds S P) :
    Gated guest nds (nds.applyPendingGameRAMRestore guest) := by
  unfold Nds.applyPendingGameRAMRestore
  split
  · next hpending =>
    rw [Bool.not_eq_true'] at hpending
    split
    · next henabled =>
      split
      · exact .leave hpending henabled
      · split
        · exact .capture _
        · exact .same
    · split
      · exact .capture _
      · exact .same
  · next hpending =>
    rw [Bool.not_eq_true', Bool.not_eq_false] at hpending
    split
    · exact .drop hpending
    · next image hdata => exact .restore image hpending hdata

/-- The gate keeps images of one generation. -/
theorem Gated.owned {nds' : MatchNds S} (hgate : Gated (ofGeneration guest) nds nds')
    (h : Owned generation written nds) : Owned generation written nds' := by
  cases hgate with
  | same => exact h
  | capture displayFrame => exact h.capture displayFrame
  | leave hpending henabled => exact ⟨h.mainRAM, h.restore, fun hdisabled => by cases hdisabled⟩
  | drop hpending => exact ⟨h.mainRAM, fun hcleared => (by cases hcleared), h.history⟩
  | restore image hpending hdata =>
    exact ⟨h.restore hpending image hdata, fun hcleared => (by cases hcleared), h.history⟩

/-- So it does in the ring. -/
theorem Gated.ring {nds' : MatchNds S} (hgate : Gated (ofGeneration guest) nds nds')
    (hram : nds.mainRAM.2 = generation) (h : OwnedRing generation nds) :
    OwnedRing generation nds' := by
  cases hgate with
  | same => exact h
  | capture displayFrame => exact h.capture hram displayFrame
  | leave => exact h
  | drop => exact h
  | restore => exact h

theorem Gated.timeline {S P : Type} {guest : Guest S P} {nds nds' : Nds S P}
    (hgate : Gated guest nds nds') :
    nds'.checkpointTimeline = nds.checkpointTimeline := by
  cases hgate with
  | capture displayFrame =>
    obtain ⟨checkpoints, next, heq⟩ := Nds.exists_captureCheckpointAtGate_eq guest nds displayFrame
    rw [heq]
  | _ => rfl

/-- The gate begins no correction. -/
theorem Gated.idle {S P : Type} {guest : Guest S P} {nds nds' : Nds S P}
    (hgate : Gated guest nds nds') (h : nds.isRollbackTransactionInFlight = false) :
    nds'.isRollbackTransactionInFlight = false := by
  have hidle := h
  unfold Nds.isRollbackTransactionInFlight at hidle
  simp only [Bool.or_eq_false_iff] at hidle
  obtain ⟨⟨hpending, -⟩, henabled⟩ := hidle
  cases hgate with
  | same => exact h
  | capture displayFrame =>
    obtain ⟨checkpoints, next, heq⟩ := Nds.exists_captureCheckpointAtGate_eq guest nds displayFrame
    rw [heq]
    exact h
  | leave _ henabled' =>
    rw [henabled] at henabled'
    cases henabled'
  | drop hpending' | restore _ hpending' =>
    rw [hpending] at hpending'
    cases hpending'

/-- How far a generation has come, and whether corrections are carried out in it. -/
inductive Phase where
  /-- The epoch is waited for. -/
  | waiting
  | correcting
  | passive

/-- The phase by the start of the generation. -/
def phaseOf : Option Started → Phase
  | none => .waiting
  | some start => if start.config.enabled && start.config.resimulate then .correcting else .passive

theorem phaseOf_correcting {start : Started}
    (h : (start.config.enabled && start.config.resimulate) = true) :
    phaseOf (some start) = .correcting :=
  if_pos h

/-- What the ring may hold. -/
def RingAt (phase : Phase) (epoch generation : Nat) (nds : MatchNds S) : Prop :=
  match phase with
  | .waiting => OwnedRing generation nds ∨ Outdated epoch nds
  | .correcting => OwnedRing generation nds
  | .passive => True

variable {epoch : Nat} {phase : Phase}

/-- A ring that is owned or outdated stays so. -/
theorem RingAt.imp {nds' : MatchNds S} (h : RingAt phase epoch generation nds)
    (howned : OwnedRing generation nds → OwnedRing generation nds')
    (houtdated : Outdated epoch nds → OwnedRing generation nds' ∨ Outdated epoch nds') :
    RingAt phase epoch generation nds' := by
  cases phase with
  | waiting => exact h.elim (fun hring => Or.inl (howned hring)) houtdated
  | correcting => exact howned h
  | passive => trivial

/-- What holds of the console between the steps of a frame. -/
structure Kept (phase : Phase) (epoch generation written : Nat) (nds : MatchNds S) : Prop where
  owned : Owned generation written nds
  ring : RingAt phase epoch generation nds

/-- A tick of the game keeps its generation. -/
theorem Kept.gameTick (h : Kept phase epoch generation written nds) :
    Kept phase epoch generation written (nds.gameTick (ofGeneration guest)) := by
  have hgate := gated (ofGeneration guest) nds
  have howned := hgate.owned h.owned
  have hring : RingAt phase epoch generation
      (nds.applyPendingGameRAMRestore (ofGeneration guest)) := by
    refine h.ring.imp (hgate.ring h.owned.mainRAM) fun houtdated => Or.inr ?_
    unfold Outdated
    rw [hgate.timeline]
    exact houtdated
  unfold Nds.gameTick
  dsimp only
  split
  · exact ⟨⟨howned.mainRAM, howned.restore, howned.history⟩, hring⟩
  · exact ⟨⟨howned.mainRAM, howned.restore, howned.history⟩, hring⟩

theorem gameTick_idle {S P : Type} (guest : Guest S P) {nds : Nds S P}
    (h : nds.isRollbackTransactionInFlight = false) :
    (nds.gameTick guest).isRollbackTransactionInFlight = false := by
  have hidle := (gated guest nds).idle h
  unfold Nds.gameTick
  dsimp only
  split
  · exact hidle
  · exact hidle

/-- However often the gate is called. -/
theorem Kept.gameTicks (h : Kept phase epoch generation written nds) (gates : Nat) :
    Kept phase epoch generation written (nds.gameTicks (ofGeneration guest) gates) := by
  induction gates generalizing nds with
  | zero => exact h
  | succ gates ih => exact ih h.gameTick

theorem gameTicks_idle {S P : Type} (guest : Guest S P) {nds : Nds S P}
    (h : nds.isRollbackTransactionInFlight = false) (gates : Nat) :
    (nds.gameTicks guest gates).isRollbackTransactionInFlight = false := by
  induction gates generalizing nds with
  | zero => exact h
  | succ gates ih => exact ih (gameTick_idle guest h)

/-- The end of a frame keeps the images. -/
theorem Kept.finalize (h : Kept phase epoch generation written nds) :
    Kept phase epoch generation written (nds.finalizeRollbackTransaction (ofGeneration guest)) := by
  unfold Nds.finalizeRollbackTransaction
  split
  · exact ⟨⟨h.owned.mainRAM, h.owned.restore, fun hdisabled => by cases hdisabled⟩, h.ring⟩
  · exact h

theorem finalize_idle {S P : Type} (guest : Guest S P) {nds : Nds S P}
    (h : nds.isRollbackTransactionInFlight = false) :
    (nds.finalizeRollbackTransaction guest).isRollbackTransactionInFlight = false := by
  have hidle := h
  unfold Nds.isRollbackTransactionInFlight at hidle
  simp only [Bool.or_eq_false_iff] at hidle
  unfold Nds.finalizeRollbackTransaction
  split
  · unfold Nds.isRollbackTransactionInFlight
    simp only [hidle.1.1, Bool.or_false]
  · exact h

/-! ## A timeline without predictions -/

/-- There is nothing to correct. -/
structure Quiet (inputs : InputTimeline.Runtime) : Prop where
  pending : inputs.rollbackInputs.pendingRollbackFrame = none
  predictions : ∀ f : Nat, inputs.rollbackInputs.predictions[f]? = none

variable {inputs : InputTimeline.Runtime}

theorem Quiet.of_eq {inputs' : InputTimeline.Runtime} (h : Quiet inputs)
    (heq : inputs'.rollbackInputs = inputs.rollbackInputs) : Quiet inputs' := by
  constructor
  · rw [heq]
    exact h.pending
  · rw [heq]
    exact h.predictions

theorem rollbackInputs_advanceContiguousRemoteFrame (r : InputTimeline.Runtime) :
    r.advanceContiguousRemoteFrame.rollbackInputs = r.rollbackInputs := by
  unfold InputTimeline.Runtime.advanceContiguousRemoteFrame
  split
  · rfl
  · split
    · rfl
    · rfl

/-- Without predictions there is nothing to correct. -/
theorem Quiet.confirm {p : PredictionRuntime} (hpending : p.pendingRollbackFrame = none)
    (hpredictions : ∀ f : Nat, p.predictions[f]? = none) (frame : Nat) (input : InputState)
    (localFrame : Option Nat) :
    (p.confirm frame input localFrame).1.pendingRollbackFrame = none ∧
      ∀ f : Nat, (p.confirm frame input localFrame).1.predictions[f]? = none := by
  constructor
  · rw [Option.eq_none_iff_forall_ne_some]
    intro q hq
    rcases PredictionRuntime.confirm_pendingRollbackFrame_cases hq with hold | ⟨-, w, hw⟩
    · rw [hpending] at hold
      cases hold
    · rw [hpredictions] at hw
      cases hw
  · intro f
    rw [Option.eq_none_iff_forall_ne_some]
    intro w hw
    have hold := PredictionRuntime.predictions_of_confirm hw
    rw [hpredictions] at hold
    cases hold

/-- What arrives without a prediction is never a mismatch. -/
theorem Quiet.storeRemote (h : Quiet inputs) (frame : Nat) (input : InputState)
    (localFrame : Option Nat) (confirmPrediction : Bool) (noFrameLimit : Nat) :
    Quiet (inputs.storeRemote frame input localFrame confirmPrediction noFrameLimit).1 := by
  unfold InputTimeline.Runtime.storeRemote
  dsimp only
  cases confirmPrediction with
  | false =>
    refine h.of_eq ?_
    rw [rollbackInputs_advanceContiguousRemoteFrame]
    split
    · rfl
    · rfl
  | true =>
    obtain ⟨hpending, hpredictions⟩ := Quiet.confirm h.pending h.predictions frame input localFrame
    constructor
    · rw [rollbackInputs_advanceContiguousRemoteFrame]
      split
      · exact hpending
      · exact hpending
    · rw [rollbackInputs_advanceContiguousRemoteFrame]
      split
      · exact hpredictions
      · exact hpredictions

/-- An input that arrives asks for no correction. -/
theorem Quiet.storeRemoteInputLocked (h : Quiet inputs) (epoch : Nat) (rollbackEnabled : Bool)
    (localFrame : Nat) (arrival : Arrival) :
    Quiet (RollbackRuntime.storeRemoteInputLocked epoch rollbackEnabled localFrame
      inputs arrival) := by
  unfold RollbackRuntime.storeRemoteInputLocked
  split
  · exact h
  · exact h.storeRemote _ _ _ _ _

/-- The probe confirms nothing that has not been predicted. -/
theorem Quiet.confirmPredictionProbeLocked (h : Quiet inputs) (context : RollbackRuntime.Context)
    (frame : Nat) :
    Quiet (RollbackRuntime.confirmPredictionProbeLocked context frame inputs) := by
  have hloop : ∀ (dueFrame rounds : Nat) {inputs : InputTimeline.Runtime}, Quiet inputs →
      Quiet (confirmProbeLoop frame dueFrame rounds inputs) := by
    intro dueFrame rounds
    induction rounds with
    | zero => exact fun h => h
    | succ rounds ih =>
      intro inputs h
      unfold confirmProbeLoop
      split
      · exact h
      · next rollbackInputs confirmation htaken =>
        have hkept : rollbackInputs.pendingRollbackFrame =
          inputs.rollbackInputs.pendingRollbackFrame ∧
            rollbackInputs.predictions = inputs.rollbackInputs.predictions := by
          unfold PredictionRuntime.takePredictionProbeConfirmationAtOrBefore at htaken
          split at htaken
          · cases htaken
          · split at htaken
            · cases htaken
            · obtain ⟨rfl, -⟩ := Prod.mk.inj htaken
              exact ⟨rfl, rfl⟩
        have hquiet : Quiet { inputs with rollbackInputs } :=
          ⟨hkept.1.trans h.pending, fun f => hkept.2 ▸ h.predictions f⟩
        exact ih (hquiet.storeRemote _ _ _ _ _)
  unfold RollbackRuntime.confirmPredictionProbeLocked
  dsimp only
  split
  · exact h
  · exact hloop _ _ h

theorem Quiet.pumpThread (h : Quiet inputs) (start : Started) (arrivals : List Arrival) :
    Quiet (RomLoop.pumpThread start inputs arrivals) := by
  unfold RomLoop.pumpThread
  induction arrivals generalizing inputs with
  | nil => exact h
  | cons arrival arrivals ih =>
    exact ih (h.storeRemoteInputLocked _ _ _ arrival)

theorem Quiet.pumpOnce (h : Quiet inputs) (start : Started) (rawFrame : Nat)
    (pumped : List (Arrival × Bool)) :
    Quiet (pumped.foldl (RomLoop.pumpOnce start rawFrame) inputs) := by
  induction pumped generalizing inputs with
  | nil => exact h
  | cons received pumped ih =>
    exact ih (h.storeRemoteInputLocked _ _ _ received.1)

theorem Quiet.prunePredictions (h : Quiet inputs) (currentFrame window : Nat) :
    Quiet (inputs.prunePredictions currentFrame window) := by
  refine ⟨h.pending, fun f => ?_⟩
  rw [Option.eq_none_iff_forall_ne_some]
  intro w hw
  have hold := PredictionRuntime.predictions_of_prune hw
  rw [h.predictions] at hold
  cases hold

/-- Priming the epoch asks for none. -/
theorem Quiet.primeEpoch (h : Quiet inputs) (startFrame delay : Nat) (noFrameLimit : Nat) :
    Quiet (inputs.primeEpoch startFrame delay neutralInput noFrameLimit) := by
  refine h.of_eq ?_
  unfold InputTimeline.Runtime.primeEpoch
  dsimp only
  rw [rollbackInputs_advanceContiguousRemoteFrame]
  split
  · split
    · rfl
    · rfl
  · rfl

/-- A restart forgets all predictions. -/
theorem quiet_resetForRestart (inputs : InputTimeline.Runtime) (noFrameLimit : Nat) :
    Quiet (inputs.resetForRestart noFrameLimit) := by
  constructor
  · rfl
  · intro f
    exact Std.ExtTreeMap.getElem?_empty

/-! ## The parts of a frame -/

/-- A checkpoint that is found is in the ring. -/
theorem mem_of_copy {S P : Type} {nds : Nds S P} {frame : Nat} {checkpoint : GameRAMCheckpoint S}
    (h : nds.copyCheckpointAtOrBefore frame = some checkpoint) :
    checkpoint ∈ nds.checkpoints ∧ checkpoint.valid = true := by
  unfold Nds.copyCheckpointAtOrBefore at h
  rcases (Nds.foldl_betterCheckpoint frame nds.checkpoints none).1 with
    hnone | ⟨c, hc, heligible, heq⟩
  · rw [hnone] at h
    cases h
  · rw [heq] at h
    obtain rfl := Option.some.inj h
    exact ⟨hc, heligible.1⟩

section Correction

variable {g g' : RomLoop.Session (Image S)} {start : Started} {frame : Nat}

/-- A correction is armed with the image of the checkpoint, or not at all. -/
theorem armCorrection_nds (start : Started) (frame : Nat) (checkpoint : GameRAMCheckpoint (Image S))
    (hflight : g.nds.isRollbackTransactionInFlight = false) :
    (armCorrection start g checkpoint frame).nds = g.nds ∨
      ∃ image history, checkpoint.mainRAM = some image ∧
        (armCorrection start g checkpoint frame).nds =
          armedNds g.nds checkpoint image frame history := by
  by_cases hcan : CanArm g.nds checkpoint frame
  · cases himage : checkpoint.mainRAM with
    | none =>
      left
      unfold armCorrection
      rw [himage]
    | some image =>
      right
      obtain ⟨inputs, history, hresolve, -⟩ := exists_resolveHistory_eq start
        (List.range' checkpoint.displayFrame (requiredHistoryCount checkpoint.displayFrame frame))
          g.inputs
      refine ⟨image, history, rfl, ?_⟩
      rw [armCorrection_of_canArm hflight himage hcan hresolve]
  · left
    rw [armCorrection_of_not_canArm hcan]

/-- `ResimulateIfNeeded` leaves the console as it is, or arms a correction from a checkpoint of the
ring. -/
theorem resimulateIfNeeded_nds {beforeArm : List Arrival}
    (h : resimulateIfNeeded start g frame beforeArm = some g') :
    g'.nds = g.nds ∨
      (start.config.enabled && start.config.resimulate) = true ∧
      g.nds.isRollbackTransactionInFlight = false ∧
      ∃ checkpoint ∈ g.nds.checkpoints, ∃ image history,
        checkpoint.valid = true ∧ checkpoint.mainRAM = some image ∧
          g'.nds = armedNds g.nds checkpoint image frame history := by
  unfold RomLoop.resimulateIfNeeded at h
  split at h
  · obtain rfl := Option.some.inj h
    exact Or.inl rfl
  · next henabled =>
    rw [Bool.or_eq_true, not_or, Bool.not_eq_true', Bool.not_eq_false,
      Bool.not_eq_true', Bool.not_eq_false]
      at henabled
    dsimp only at h
    split at h
    · obtain rfl := Option.some.inj h
      exact Or.inl rfl
    · next hflight =>
      rw [Bool.not_eq_true] at hflight
      split at h
      · obtain rfl := Option.some.inj h
        exact Or.inl rfl
      · cases h
      · obtain rfl := Option.some.inj h
        exact Or.inl rfl
      · split at h
        · obtain rfl := Option.some.inj h
          exact Or.inl rfl
        · next checkpoint hcopy =>
          obtain rfl := Option.some.inj h
          obtain ⟨hmem, hvalid⟩ := mem_of_copy hcopy
          have harmed := armCorrection_nds start frame checkpoint
            (g := { g with
              inputs := RomLoop.pumpThread start
                (confirmPredictionProbeLocked start.context frame g.inputs).clearPendingRollback
                  beforeArm })
            hflight
          rcases harmed with hsame | ⟨image, history, himage, heq⟩
          · exact Or.inl hsame
          · exact Or.inr ⟨Bool.and_eq_true_iff.mpr henabled, hflight, checkpoint, hmem,
              image, history, hvalid,
              himage, heq⟩

/-- A correction is armed with an image and a history of the generation. -/
theorem Kept.resimulated (h : Kept (phaseOf (some start)) epoch generation written g.nds)
    {beforeArm : List Arrival}
    (hresimulated : resimulateIfNeeded start g frame beforeArm = some g') :
    Kept (phaseOf (some start)) epoch generation
      (if !g.nds.restorePending && g'.nds.restorePending then generation else written) g'.nds := by
  rcases resimulateIfNeeded_nds hresimulated with hsame |
    ⟨hcorrects, hflight, checkpoint, hmem, image, history, hvalid, himage, heq⟩
  · rw [hsame, Bool.not_and_self]
    exact h
  · have hring := h.ring
    have hphase := phaseOf_correcting hcorrects
    rw [hphase] at hring ⊢
    have hpending : g.nds.restorePending = false := by
      unfold Nds.isRollbackTransactionInFlight at hflight
      simp only [Bool.or_eq_false_iff] at hflight
      exact hflight.1.1
    rw [heq, hpending]
    refine ⟨⟨h.owned.mainRAM, fun _ restored hrestored => ?_, fun _ => rfl⟩, ?_⟩
    · obtain rfl := Option.some.inj hrestored
      exact hring checkpoint hmem hvalid image himage
    · exact OwnedRing.discard hring checkpoint.displayFrame

end Correction

/-- The label changes, or nothing does. -/
theorem saveCheckpointIfNeeded_cases (start : Started)
    (g : RomLoop.Session (Image S)) (frame : Nat) :
    ((saveCheckpointIfNeeded start g frame).nds = g.nds ∨
      (saveCheckpointIfNeeded start g frame).nds = g.nds.setCheckpointFrame frame) ∧
    ((saveCheckpointIfNeeded start g frame).inputs = g.inputs ∨
      (saveCheckpointIfNeeded start g frame).inputs
        = g.inputs.prunePredictions frame (windowFrames start.config)) := by
  unfold RomLoop.saveCheckpointIfNeeded
  split
  · exact ⟨Or.inl rfl, Or.inl rfl⟩
  · dsimp only
    split
    · exact ⟨Or.inr rfl, Or.inl rfl⟩
    · exact ⟨Or.inr rfl, Or.inr rfl⟩

/-- From the epoch on, frames are labelled where rollback is enabled. -/
theorem saveCheckpointIfNeeded_labels {start : Started} (henabled : start.config.enabled = true)
    (hwindow : 0 < start.config.window) (g : RomLoop.Session (Image S)) :
    (saveCheckpointIfNeeded start g start.sharedLogicalEpoch).nds
      = g.nds.setCheckpointFrame start.sharedLogicalEpoch := by
  have hguard :
    ¬ (!start.config.enabled || decide (start.sharedLogicalEpoch < start.sharedLogicalEpoch)
      || decide (start.config.window ≤ 0)) = true := by
    simp only [henabled, Bool.not_true, Nat.lt_irrefl, decide_false, Bool.or_self, Bool.false_or,
      decide_eq_true_eq, not_le]
    exact hwindow
  unfold RomLoop.saveCheckpointIfNeeded
  rw [if_neg hguard]
  dsimp only
  split
  · rfl
  · rfl

/-- A label may begin a new timeline, with an empty ring. -/
theorem Kept.label (h : Kept phase epoch generation written nds) (frame : Nat) :
    Kept phase epoch generation written (nds.setCheckpointFrame frame) :=
  ⟨setCheckpointFrame_owned h.owned frame,
    h.ring.imp (fun hring => hring.label frame) fun houtdated =>
      (houtdated.label frame).imp_right And.left⟩

/-- The label of the epoch leaves nothing of another generation in the ring. -/
theorem ownedRing_label_epoch (h : RingAt .waiting epoch generation nds) :
    OwnedRing generation (nds.setCheckpointFrame epoch) := by
  rcases h with hring | houtdated
  · exact hring.label epoch
  · exact (houtdated.label epoch).resolve_right fun hlabelled => Nat.lt_irrefl _ hlabelled.2

theorem setCheckpointFrame_idle (h : nds.isRollbackTransactionInFlight = false) (frame : Nat) :
    (nds.setCheckpointFrame frame).isRollbackTransactionInFlight = false := by
  obtain ⟨checkpoints, next, heq⟩ := exists_setCheckpointFrame_eq nds frame
  rw [heq]
  exact h

/-! ## A frame of the match -/

namespace Session

variable {s t primed : Session S} {f : MatchFrame}

/-- What holds between the steps of a match. -/
structure Sound (epoch : Nat) (s : Session S) : Prop where
  kept : Kept (phaseOf s.start) epoch s.generation s.historyGeneration s.context.nds
  idle : s.start = none → s.context.nds.isRollbackTransactionInFlight = false
  quiet : s.start = none → Quiet s.context.inputs

/-- The handshake has completed, or nothing has changed. -/
theorem accept_cases (h : s.accept f = some primed) :
    primed = s ∨ ∃ start, f.accepted = some start ∧ s.start = none ∧
    start.localReadyFrame = f.rawFrame ∧
      primed = s.prime start := by
  unfold accept at h
  split at h
  · exact Or.inl (Option.some.inj h).symm
  · next start haccepted =>
    split at h
    · cases h
    · next hadmitted =>
      right
      rw [not_or, Bool.not_eq_true, Option.isSome_eq_false_iff, Option.isNone_iff_eq_none,
        not_not] at hadmitted
      exact ⟨start, haccepted, hadmitted.1, hadmitted.2, (Option.some.inj h).symm⟩

/-- The start of the generation as the frame takes it. -/
def startOf (s : Session S) (f : MatchFrame) : Started := s.start.getD f.known

/-- The start that the rollback counts from. -/
def countedOf (s : Session S) (f : MatchFrame) : Started := s.start.getD f.counted

/-- The game before the inputs of the frame are written. -/
def pumped (s : Session S) (f : MatchFrame) : RomLoop.Session (Image S) :=
  let g := RomLoop.saveCheckpointIfNeeded (s.countedOf f) (s.game f.rawFrame)
    (s.logicalFrame f.rawFrame)
  { g with inputs := f.event.pumped.foldl (RomLoop.pumpOnce (s.startOf f) f.rawFrame) g.inputs }

/-- The parts of a frame that succeeds. -/
theorem frame_eq_some (h : s.frame guest f = some t) :
    ∃ primed g armed, s.accept f = some primed ∧ primed.writeScratch (primed.pumped f) f = some g ∧
      resimulateIfNeeded (primed.startOf f)
        { g with inputs := RomLoop.pumpThread (primed.startOf f) g.inputs f.event.beforePlan }
        (primed.logicalFrame f.rawFrame) f.event.beforeArm = some armed ∧
      t = { primed.withGame (runGuest guest (primed.startOf f) armed f) with
        historyGeneration :=
          if !g.nds.restorePending && armed.nds.restorePending then primed.generation
          else primed.historyGeneration } := by
  unfold frame at h
  obtain ⟨primed, haccept, h⟩ := Option.bind_eq_some_iff.mp h
  dsimp only at h
  split at h
  · cases h
  · obtain ⟨g, hwrite, h⟩ := Option.bind_eq_some_iff.mp h
    obtain ⟨armed, hresimulate, rfl⟩ := Option.map_eq_some_iff.mp h
    exact ⟨primed, g, armed, haccept, hwrite, hresimulate, rfl⟩

/-- The frame at which the handshake completes is the epoch. -/
theorem logicalFrame_prime {start : Started} (h : start.localReadyFrame = f.rawFrame) :
    (s.prime start).logicalFrame f.rawFrame = start.sharedLogicalEpoch := by
  have hsmall : u32 start.sharedLogicalEpoch = start.sharedLogicalEpoch := by
    have hle := start.epoch_le
    unfold u32Max at hle
    unfold u32
    omega
  show start.logicalFrame f.rawFrame = start.sharedLogicalEpoch
  unfold Started.logicalFrame SessionPolicy.logicalInputFrame
  dsimp only
  rw [if_neg (by simp [h]), h, Nat.sub_self, Nat.add_zero]
  exact hsmall

/-- A handshake that completes agrees on the epoch of the match. The configuration has a positive
window. -/
def Agreed (epoch : Nat) (f : MatchFrame) : Prop :=
  ∀ start, f.accepted = some start → start.sharedLogicalEpoch = epoch ∧ 0 < start.config.window

/-- What arrives leaves the images alone. -/
theorem Sound.pumped_kept (h : Sound epoch s) (hagreed : Agreed epoch f)
    (haccept : s.accept f = some primed) :
    Kept (phaseOf primed.start) epoch primed.generation primed.historyGeneration
      (primed.pumped f).nds := by
  show Kept _ epoch _ _ (RomLoop.saveCheckpointIfNeeded _ (primed.game f.rawFrame) _).nds
  rcases accept_cases haccept with rfl | ⟨start, haccepted, hwaiting, hready, rfl⟩
  · rcases (saveCheckpointIfNeeded_cases (primed.countedOf f) (primed.game f.rawFrame)
      (primed.logicalFrame f.rawFrame)).1 with hsame | hlabel
    · rw [hsame]
      exact h.kept
    · rw [hlabel]
      exact h.kept.label _
  · obtain ⟨hepoch, hwindow⟩ := hagreed start haccepted
    have howned : Owned s.generation s.historyGeneration
        (RomLoop.saveCheckpointIfNeeded start ((s.prime start).game f.rawFrame)
          ((s.prime start).logicalFrame f.rawFrame)).nds := by
      rcases (saveCheckpointIfNeeded_cases start ((s.prime start).game f.rawFrame)
        ((s.prime start).logicalFrame f.rawFrame)).1 with hsame | hlabel
      · rw [hsame]
        exact h.kept.owned
      · rw [hlabel]
        exact setCheckpointFrame_owned h.kept.owned _
    refine ⟨howned, ?_⟩
    show RingAt (phaseOf (some start)) _ _ _
    by_cases hcorrects : (start.config.enabled && start.config.resimulate) = true
    · -- the frame of the epoch is labelled, whatever the ring holds
      have hring := h.kept.ring
      rw [hwaiting] at hring
      have hlabelled := saveCheckpointIfNeeded_labels (Bool.and_eq_true_iff.mp hcorrects).1 hwindow
        ((s.prime start).game f.rawFrame)
      have howned := ownedRing_label_epoch hring
      rw [phaseOf_correcting hcorrects, logicalFrame_prime hready]
      show OwnedRing _ (RomLoop.saveCheckpointIfNeeded start _ _).nds
      rw [hlabelled, hepoch]
      exact howned
    · have hphase : phaseOf (some start) = .passive := if_neg hcorrects
      rw [hphase]
      trivial

theorem Sound.pumped_idle (h : Sound epoch s) (hwaiting : s.start = none) :
    (s.pumped f).nds.isRollbackTransactionInFlight = false := by
  show (RomLoop.saveCheckpointIfNeeded _ (s.game f.rawFrame) _).nds.isRollbackTransactionInFlight =
    false
  rcases (saveCheckpointIfNeeded_cases (s.countedOf f) (s.game f.rawFrame)
    (s.logicalFrame f.rawFrame)).1
    with hsame | hlabel
  · rw [hsame]
    exact h.idle hwaiting
  · rw [hlabel]
    exact setCheckpointFrame_idle (h.idle hwaiting) _

/-- Before the handshake, no correction is asked for. -/
theorem Sound.pumped_quiet (h : Sound epoch s) (hwaiting : s.start = none) :
    Quiet (s.pumped f).inputs := by
  have hquiet : Quiet (RomLoop.saveCheckpointIfNeeded (s.countedOf f) (s.game f.rawFrame)
      (s.logicalFrame f.rawFrame)).inputs := by
    rcases (saveCheckpointIfNeeded_cases (s.countedOf f) (s.game f.rawFrame)
      (s.logicalFrame f.rawFrame)).2
      with hsame | hpruned
    · rw [hsame]
      exact h.quiet hwaiting
    · rw [hpruned]
      exact (h.quiet hwaiting).prunePredictions _ _
  exact hquiet.pumpOnce _ _ _

/-- A write to the scratch area changes nothing else in the console. -/
theorem writeScratch_nds {g g' : RomLoop.Session (Image S)} (h : s.writeScratch g f = some g') :
    ∃ scratch, g'.nds = { g.nds with scratch } := by
  unfold writeScratch at h
  split at h
  · obtain rfl := Option.some.inj h
    exact ⟨g.nds.scratch, rfl⟩
  · dsimp only at h
    split at h
    · obtain rfl := Option.some.inj h
      exact ⟨g.nds.scratch, rfl⟩
    · split at h
      · cases h
      · obtain rfl := Option.some.inj h
        exact ⟨_, rfl⟩

theorem Kept.runGuest (guest : Guest S (Fin 2 → InputState)) (start : Started) (f : MatchFrame)
    {g : RomLoop.Session (Image S)} (h : Kept phase epoch generation written g.nds) :
    Kept phase epoch generation written (runGuest guest start g f).nds := by
  have hticks : Kept phase epoch generation written
      (g.nds.gameTicks (ofGeneration guest) f.gates) :=
    h.gameTicks f.gates
  unfold Session.runGuest
  refine Kept.finalize ⟨⟨hticks.owned.mainRAM, hticks.owned.restore, hticks.owned.history⟩,
    hticks.ring⟩

/-- While the epoch is waited for, nothing is corrected. -/
theorem waiting_frame {g g' : RomLoop.Session (Image S)} {start : Started} {frame : Nat}
    {beforeArm : List Arrival} (hquiet : Quiet g.inputs)
    (h : resimulateIfNeeded start g frame beforeArm = some g') :
    g'.nds = g.nds ∧ Quiet g'.inputs := by
  unfold RomLoop.resimulateIfNeeded at h
  split at h
  · obtain rfl := Option.some.inj h
    exact ⟨rfl, hquiet⟩
  · have hprobed := hquiet.confirmPredictionProbeLocked start.context frame
    have hwait : planResimulation start.config
        (confirmPredictionProbeLocked start.context frame g.inputs).rollbackInputs frame =
          .wait := by
      unfold planResimulation
      rw [hprobed.pending]
    dsimp only at h
    rw [hwait] at h
    split at h
    · obtain rfl := Option.some.inj h
      exact ⟨rfl, hprobed.pumpThread _ _⟩
    · obtain rfl := Option.some.inj h
      exact ⟨rfl, hprobed.pumpThread _ _⟩

/-- Every frame keeps what belongs to a generation together. -/
theorem Sound.frame (h : Sound epoch s) (hagreed : Agreed epoch f)
    (hframe : s.frame guest f = some t) :
    Sound epoch t := by
  obtain ⟨primed, g, armed, haccept, hwrite, hresimulate, rfl⟩ := frame_eq_some hframe
  have hkept := h.pumped_kept hagreed haccept
  obtain ⟨scratch, hscratch⟩ := writeScratch_nds hwrite
  have hwritten : Kept (phaseOf primed.start) epoch primed.generation
      primed.historyGeneration g.nds := by
    rw [hscratch]
    exact ⟨⟨hkept.owned.mainRAM, hkept.owned.restore, hkept.owned.history⟩, hkept.ring⟩
  cases hstart : primed.start with
  | some start =>
    have hstarted : ¬ primed.start = none := by
      rw [hstart]
      exact Option.some_ne_none start
    have hof : primed.startOf f = start := by
      unfold startOf
      rw [hstart]
      rfl
    rw [hstart] at hwritten
    rw [hof] at hresimulate
    have harmed := Kept.resimulated
      (g := { g with inputs := RomLoop.pumpThread start g.inputs f.event.beforePlan })
        hwritten hresimulate
    have hrun := Kept.runGuest guest (primed.startOf f) f harmed
    rw [← hstart] at hrun
    exact ⟨hrun, fun hwaiting => absurd hwaiting hstarted, fun hwaiting => absurd hwaiting hstarted⟩
  | none =>
    -- nothing is written, and nothing is corrected
    have hsame : primed = s := by
      rcases accept_cases haccept with hsame | ⟨start, -, -, -, rfl⟩
      · exact hsame
      · cases hstart
    subst hsame
    have hg : g = primed.pumped f := by
      unfold writeScratch at hwrite
      rw [hstart] at hwrite
      exact (Option.some.inj hwrite).symm
    have hidle := h.pumped_idle (f := f) hstart
    have hquiet := h.pumped_quiet (f := f) hstart
    subst hg
    have hreceived : Quiet (RomLoop.pumpThread (primed.startOf f) (primed.pumped f).inputs
        f.event.beforePlan) := hquiet.pumpThread _ _
    obtain ⟨hnds, hresimulated⟩ := waiting_frame
      (g := { primed.pumped f with
        inputs := RomLoop.pumpThread (primed.startOf f)
          (primed.pumped f).inputs f.event.beforePlan })
      hreceived hresimulate
    have hunarmed : Kept (phaseOf primed.start) epoch primed.generation
        primed.historyGeneration armed.nds := by
      rw [hnds]
      exact hwritten
    have hrun := Kept.runGuest guest (primed.startOf f) f hunarmed
    refine ⟨?_, fun _ => ?_, fun _ => ?_⟩
    · dsimp only
      rw [hnds, Bool.not_and_self]
      exact hrun
    · refine finalize_idle _ (gameTicks_idle _ ?_ f.gates)
      rw [hnds]
      exact hidle
    · exact hresimulated.pumpThread _ f.event.beforeEnd

end Session

end Bigstar.Netplay.RomLoopMatch
