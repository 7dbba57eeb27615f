import Bigstar.Netplay.InputTimeline

/-!
# What the timeline operations do to a frame on record

A frame that the guest has simulated with some remote input is in one of two conditions. Either the
pending rollback starts at or before it (`Covered`), so that it will be simulated again; or the
input it was simulated with is on record (`Tracks`): it is the confirmed one, or it is still listed
as the prediction that a later confirmation will be compared with. Every operation of the timeline
gets one lemma that says how it acts on the two conditions.
-/

namespace Bigstar.Netplay

namespace InputTimeline

open OrderedMap

/-- All that is compared is all there is. -/
theorem inputsEqual_iff {left right : InputState} :
    inputsEqual left right = true ↔ left = right := by
  cases left
  cases right
  simp [inputsEqual, and_assoc]

namespace PredictionRuntime

/-! ## Confirming -/

@[simp]
theorem eraseProbeConfirmation_predictions (p : PredictionRuntime) (frame : Nat) :
    (p.eraseProbeConfirmation frame).predictions = p.predictions := rfl

@[simp]
theorem eraseProbeConfirmation_pendingRollbackFrame (p : PredictionRuntime) (frame : Nat) :
    (p.eraseProbeConfirmation frame).pendingRollbackFrame = p.pendingRollbackFrame := rfl

@[simp]
theorem raiseRollback_predictions (p : PredictionRuntime) (frame observedFrame : Nat) :
    (p.raiseRollback frame observedFrame).predictions = p.predictions := by
  unfold raiseRollback
  split
  · rfl
  · split
    · rfl
    · split <;> rfl

/-- The pending frame becomes the smaller of the old one and `frame`. -/
@[simp]
theorem raiseRollback_pendingRollbackFrame (p : PredictionRuntime) (frame observedFrame : Nat) :
    (p.raiseRollback frame observedFrame).pendingRollbackFrame =
      some (min frame (p.pendingRollbackFrame.getD frame)) := by
  unfold raiseRollback
  cases hp : p.pendingRollbackFrame with
  | none => simp
  | some pending =>
    dsimp only
    split_ifs with hlt hobs
    · simp
      omega
    · simp
      omega
    · simp [hp]
      omega

/-- The predictions from a wrong one on are dropped. -/
@[simp]
theorem dropMispredicted_predictions (p : PredictionRuntime) (frame : Nat)
    (localFrame : Option Nat) :
    (p.dropMispredicted frame localFrame).predictions = p.predictions.eraseFrom frame := by
  unfold dropMispredicted
  dsimp only
  split
  · rw [raiseRollback_predictions]
  · rfl

/-- A frame that was simulated is to be corrected from the earliest mismatch. -/
theorem dropMispredicted_pendingRollbackFrame (p : PredictionRuntime) (frame : Nat)
    (localFrame : Option Nat) :
    (p.dropMispredicted frame localFrame).pendingRollbackFrame =
      if frameAlreadySimulated frame localFrame then
        some (min frame (p.pendingRollbackFrame.getD frame))
      else p.pendingRollbackFrame := by
  unfold dropMispredicted
  dsimp only
  split
  · exact raiseRollback_pendingRollbackFrame _ _ _
  · rfl

/-- A right prediction is left alone. -/
theorem confirm_of_agree {p : PredictionRuntime} {frame : Nat} {input : InputState}
    (localFrame : Option Nat) (h : ∀ w, p.predictions[frame]? = some w → w = input) :
    (p.confirm frame input localFrame).1 = p.eraseProbeConfirmation frame := by
  unfold confirm
  cases hw : p.predictions[frame]? with
  | none => rfl
  | some w =>
    obtain rfl := h w hw
    simp only [inputsEqual_iff.mpr rfl, if_true]

/-- A wrong one is dropped. -/
theorem confirm_of_mismatch {p : PredictionRuntime} {frame : Nat} {input w : InputState}
    (localFrame : Option Nat) (hw : p.predictions[frame]? = some w) (hne : w ≠ input) :
    (p.confirm frame input localFrame).1 =
      (p.dropMispredicted frame localFrame).eraseProbeConfirmation frame := by
  unfold confirm
  rw [hw]
  simp only [inputsEqual_iff, hne, if_false]

/-- Confirming never raises the pending frame and never drops it. -/
theorem confirm_pendingRollbackFrame_le {p : PredictionRuntime} {pending : Nat}
    (frame : Nat) (input : InputState) (localFrame : Option Nat)
    (hp : p.pendingRollbackFrame = some pending) :
    ∃ q, (p.confirm frame input localFrame).1.pendingRollbackFrame = some q ∧ q ≤ pending := by
  by_cases h : ∀ w, p.predictions[frame]? = some w → w = input
  · rw [confirm_of_agree localFrame h]
    exact ⟨pending, hp, le_refl pending⟩
  · push Not at h
    obtain ⟨w, hw, hne⟩ := h
    rw [confirm_of_mismatch localFrame hw hne, eraseProbeConfirmation_pendingRollbackFrame,
      dropMispredicted_pendingRollbackFrame, hp]
    split
    · exact ⟨min frame pending, rfl, Nat.min_le_right frame pending⟩
    · exact ⟨pending, rfl, le_refl pending⟩

/-- A pending frame is the one from before, or the frame of a prediction that was wrong. -/
theorem confirm_pendingRollbackFrame_cases {p : PredictionRuntime} {frame q : Nat}
    {input : InputState} {localFrame : Option Nat}
    (h : (p.confirm frame input localFrame).1.pendingRollbackFrame = some q) :
    p.pendingRollbackFrame = some q ∨ q = frame ∧ ∃ w, p.predictions[frame]? = some w := by
  by_cases hagree : ∀ w, p.predictions[frame]? = some w → w = input
  · rw [confirm_of_agree localFrame hagree] at h
    exact Or.inl h
  · push Not at hagree
    obtain ⟨w, hw, hne⟩ := hagree
    rw [confirm_of_mismatch localFrame hw hne, eraseProbeConfirmation_pendingRollbackFrame,
      dropMispredicted_pendingRollbackFrame] at h
    split at h
    · cases hp : p.pendingRollbackFrame with
      | none =>
        rw [hp] at h
        simp only [Option.getD_none, min_self, Option.some.injEq] at h
        exact Or.inr ⟨h.symm, w, hw⟩
      | some pending =>
        rw [hp] at h
        simp only [Option.getD_some, Option.some.injEq] at h
        rcases Nat.le_total frame pending with hle | hle
        · rw [Nat.min_eq_left hle] at h
          exact Or.inr ⟨h.symm, w, hw⟩
        · rw [Nat.min_eq_right hle] at h
          exact Or.inl (by rw [h])
    · exact Or.inl h

/-- Confirming adds no prediction. -/
theorem predictions_of_confirm {p : PredictionRuntime} {frame g : Nat} {input w : InputState}
    {localFrame : Option Nat}
    (h : (p.confirm frame input localFrame).1.predictions[g]? = some w) :
    p.predictions[g]? = some w := by
  by_cases hagree : ∀ w, p.predictions[frame]? = some w → w = input
  · rw [confirm_of_agree localFrame hagree] at h
    exact h
  · push Not at hagree
    obtain ⟨w, hw, hne⟩ := hagree
    rw [confirm_of_mismatch localFrame hw hne, eraseProbeConfirmation_predictions,
      dropMispredicted_predictions, getElem?_eraseFrom] at h
    split at h
    · exact h
    · exact absurd h (by simp)

/-! ## Resolving -/

section Resolve

variable {p : PredictionRuntime} {frame : Nat} {confirmedInputs : InputMap}
  {neutralInput : InputState} {probe : PredictionProbe} (hprobe : probe.retainConfirmation = false)

include hprobe

/-- A confirmed input is used. -/
theorem resolve_of_confirmed {c : InputState} (hc : confirmedInputs[frame]? = some c) :
    p.resolve frame confirmedInputs neutralInput probe =
      (p, { input := c, predicted := false }) := by
  unfold resolve
  rw [hc]
  simp only [hprobe, Bool.and_false, Bool.false_eq_true, if_false]

omit hprobe in
/-- A prediction that was made is used again. -/
theorem resolve_of_predicted {w : InputState} (hc : confirmedInputs[frame]? = none)
    (hw : p.predictions[frame]? = some w) :
    p.resolve frame confirmedInputs neutralInput probe =
      (p, { input := w, predicted := true }) := by
  unfold resolve
  rw [hc, hw]

omit hprobe in
/-- A new prediction is recorded as it is handed out, flipped by the probe or not. -/
theorem resolve_of_new (neutralInput : InputState) (hprobe : probe.retainConfirmation = false)
    (hc : confirmedInputs[frame]? = none) (hw : p.predictions[frame]? = none) :
    ∃ input probeCount, p.resolve frame confirmedInputs neutralInput probe =
      ({ p with
          predictions := p.predictions.insertIfNew frame input
          predictionProbeCount := probeCount
          predictionCount := u32 (p.predictionCount + 1) },
        { input := input, predicted := true }) := by
  unfold resolve
  rw [hc, hw]
  simp only [hprobe, Bool.false_eq_true, if_false]
  split
  · exact ⟨_, _, rfl⟩
  · exact ⟨_, _, rfl⟩

theorem resolve_pendingRollbackFrame :
    (p.resolve frame confirmedInputs neutralInput probe).1.pendingRollbackFrame =
      p.pendingRollbackFrame := by
  cases hc : confirmedInputs[frame]? with
  | some c => rw [resolve_of_confirmed hprobe hc]
  | none =>
    cases hw : p.predictions[frame]? with
    | some w => rw [resolve_of_predicted hc hw]
    | none =>
      obtain ⟨input, probeCount, h⟩ := resolve_of_new neutralInput hprobe hc hw
      rw [h]

/-- Resolving keeps every prediction that was on record. -/
theorem resolve_predictions_of_some {g : Nat} {w : InputState} (hw : p.predictions[g]? = some w) :
    (p.resolve frame confirmedInputs neutralInput probe).1.predictions[g]? = some w := by
  cases hc : confirmedInputs[frame]? with
  | some c => rw [resolve_of_confirmed hprobe hc, hw]
  | none =>
    cases hf : p.predictions[frame]? with
    | some v => rw [resolve_of_predicted hc hf, hw]
    | none =>
      obtain ⟨input, probeCount, h⟩ := resolve_of_new neutralInput hprobe hc hf
      rw [h]
      dsimp only
      rw [getElem?_insertIfNew_eq, if_neg, hw]
      rintro ⟨rfl, -⟩
      rw [hf] at hw
      exact absurd hw (by simp)

/-- Resolving adds at most the prediction of its own frame. -/
theorem predictions_of_resolve {g : Nat} {w : InputState}
    (h : (p.resolve frame confirmedInputs neutralInput probe).1.predictions[g]? = some w) :
    p.predictions[g]? = some w ∨ g = frame := by
  cases hc : confirmedInputs[frame]? with
  | some c =>
    rw [resolve_of_confirmed hprobe hc] at h
    exact Or.inl h
  | none =>
    cases hf : p.predictions[frame]? with
    | some v =>
      rw [resolve_of_predicted hc hf] at h
      exact Or.inl h
    | none =>
      obtain ⟨input, probeCount, hres⟩ := resolve_of_new neutralInput hprobe hc hf
      rw [hres] at h
      dsimp only at h
      rw [getElem?_insertIfNew_eq] at h
      split at h
      · next heq => exact Or.inr heq.1.symm
      · exact Or.inl h

/-- Without a confirmation, the input that is handed out is on record as the prediction. -/
theorem resolve_predictions_self (hc : confirmedInputs[frame]? = none) :
    (p.resolve frame confirmedInputs neutralInput probe).1.predictions[frame]? =
      some (p.resolve frame confirmedInputs neutralInput probe).2.input := by
  cases hf : p.predictions[frame]? with
  | some v => rw [resolve_of_predicted hc hf, hf]
  | none =>
    obtain ⟨input, probeCount, h⟩ := resolve_of_new neutralInput hprobe hc hf
    rw [h]
    dsimp only
    rw [getElem?_insertIfNew_eq, if_pos ⟨rfl, hf⟩]

end Resolve

@[simp]
theorem prune_pendingRollbackFrame (p : PredictionRuntime) (currentFrame window : Nat)
    (confirmedInputs : InputMap) :
    (p.prune currentFrame window confirmedInputs).pendingRollbackFrame = p.pendingRollbackFrame :=
  rfl

/-- A prediction that is not confirmed is never pruned. -/
theorem prune_predictions_of_none (p : PredictionRuntime) (currentFrame window : Nat)
    {confirmedInputs : InputMap} {g : Nat} (hc : confirmedInputs[g]? = none) :
    (p.prune currentFrame window confirmedInputs).predictions[g]? = p.predictions[g]? := by
  unfold prune
  rw [getElem?_filter_eq, hc]
  cases p.predictions[g]? <;> simp

/-- Pruning adds no prediction. -/
theorem predictions_of_prune {p : PredictionRuntime} {currentFrame window : Nat}
    {confirmedInputs : InputMap} {g : Nat} {w : InputState}
    (h : (p.prune currentFrame window confirmedInputs).predictions[g]? = some w) :
    p.predictions[g]? = some w := by
  unfold prune at h
  rw [getElem?_filter_eq] at h
  exact (Option.filter_eq_some_iff.mp h).1

end PredictionRuntime

/-! ## The two conditions of a simulated frame -/

namespace Runtime

/-- The pending rollback starts at or before the frame. -/
def Covered (r : Runtime) (frame : Nat) : Prop :=
  ∃ pending, r.rollbackInputs.pendingRollbackFrame = some pending ∧ pending ≤ frame

/-- The remote input `used` for a frame is on record: confirmed, or else listed as prediction. -/
def Tracks (r : Runtime) (frame : Nat) (used : InputState) : Prop :=
  match r.remoteInputs[frame]? with
  | some confirmed => used = confirmed
  | none => r.rollbackInputs.predictions[frame]? = some used

/-- Every frame below `current` that was simulated, with the remote input `used` says, is covered or
on record. -/
def Sound (r : Runtime) (used : Nat → Option InputState) (current : Nat) : Prop :=
  ∀ frame u, frame < current → used frame = some u → r.Covered frame ∨ r.Tracks frame u

/-- The remote inputs received so far are those of `truth`. -/
def ConfirmedBy (r : Runtime) (truth : Nat → InputState) : Prop :=
  ∀ frame v, r.remoteInputs[frame]? = some v → v = truth frame

/-- A confirmed frame was used with the confirmed input. -/
theorem Tracks.eq_of_confirmed {r : Runtime} {frame : Nat} {u c : InputState}
    (h : r.Tracks frame u) (hc : r.remoteInputs[frame]? = some c) : u = c := by
  unfold Tracks at h
  rw [hc] at h
  exact h

/-- The confirmed input is what it should be. -/
theorem tracks_of_confirmed {r : Runtime} {frame : Nat} {c : InputState}
    (hc : r.remoteInputs[frame]? = some c) : r.Tracks frame c := by
  unfold Tracks
  rw [hc]

/-- A prediction is remembered until it is confirmed. -/
theorem tracks_of_predicted {r : Runtime} {frame : Nat} {u : InputState}
    (hc : r.remoteInputs[frame]? = none) (hu : r.rollbackInputs.predictions[frame]? = some u) :
    r.Tracks frame u := by
  unfold Tracks
  rw [hc]
  exact hu

/-- A correction from a frame covers all later ones. -/
theorem Covered.mono {r : Runtime} {f g : Nat} (h : r.Covered f) (hfg : f ≤ g) : r.Covered g := by
  obtain ⟨pending, hp, hle⟩ := h
  exact ⟨pending, hp, le_trans hle hfg⟩

/-! ### Storing a remote input -/

theorem advanceContiguousRemoteFrame_eq (r : Runtime) :
    ∃ highest, r.advanceContiguousRemoteFrame =
      { r with highestContiguousRemoteFrame := highest } := by
  unfold advanceContiguousRemoteFrame
  split
  · exact ⟨r.highestContiguousRemoteFrame, rfl⟩
  · dsimp only
    split
    · exact ⟨r.highestContiguousRemoteFrame, rfl⟩
    · exact ⟨_, rfl⟩

/-- What `storeRemote` changes, the bookkeeping of the last and the contiguous frame apart. -/
theorem storeRemote_eq (r : Runtime) (frame : Nat) (input : InputState) (localFrame : Option Nat)
    (noFrameLimit : Nat) :
    ∃ last highest, (r.storeRemote frame input localFrame true noFrameLimit).1 =
      { r with
        rollbackInputs := (r.rollbackInputs.confirm frame input localFrame).1
        remoteInputs := r.remoteInputs.insert frame input
        lastReceivedInputFrame := last
        highestContiguousRemoteFrame := highest } := by
  unfold storeRemote
  dsimp only
  obtain ⟨highest, h⟩ := advanceContiguousRemoteFrame_eq
    (if r.lastReceivedInputFrame = noFrameLimit ∨ r.lastReceivedInputFrame < frame then
      { r with
        rollbackInputs := (r.rollbackInputs.confirm frame input localFrame).1
        remoteInputs := r.remoteInputs.insert frame input
        lastReceivedInputFrame := frame }
    else
      { r with
        rollbackInputs := (r.rollbackInputs.confirm frame input localFrame).1
        remoteInputs := r.remoteInputs.insert frame input })
  refine ⟨if r.lastReceivedInputFrame = noFrameLimit ∨ r.lastReceivedInputFrame < frame then frame
    else r.lastReceivedInputFrame, highest, ?_⟩
  simp only [if_true]
  rw [h]
  split_ifs <;> rfl

section StoreRemote

variable {r : Runtime} (frame : Nat) (input : InputState) (localFrame : Option Nat)
  (noFrameLimit : Nat)

theorem storeRemote_remoteInputs :
    (r.storeRemote frame input localFrame true noFrameLimit).1.remoteInputs =
      r.remoteInputs.insert frame input := by
  obtain ⟨last, highest, h⟩ := storeRemote_eq r frame input localFrame noFrameLimit
  rw [h]

theorem storeRemote_localInputs :
    (r.storeRemote frame input localFrame true noFrameLimit).1.localInputs = r.localInputs := by
  obtain ⟨last, highest, h⟩ := storeRemote_eq r frame input localFrame noFrameLimit
  rw [h]

/-- Storing an input confirms it. -/
theorem storeRemote_rollbackInputs :
    (r.storeRemote frame input localFrame true noFrameLimit).1.rollbackInputs =
      (r.rollbackInputs.confirm frame input localFrame).1 := by
  obtain ⟨last, highest, h⟩ := storeRemote_eq r frame input localFrame noFrameLimit
  rw [h]

/-- A correction that is to come is not forgotten. -/
theorem Covered.storeRemote {g : Nat} (h : r.Covered g) :
    (r.storeRemote frame input localFrame true noFrameLimit).1.Covered g := by
  obtain ⟨pending, hp, hle⟩ := h
  obtain ⟨q, hq, hqle⟩ :=
    PredictionRuntime.confirm_pendingRollbackFrame_le frame input localFrame hp
  refine ⟨q, ?_, le_trans hqle hle⟩
  rw [storeRemote_rollbackInputs]
  exact hq

/-- A frame on record stays on record or becomes covered, provided the confirmation repeats what was
confirmed before and, if it contradicts a prediction, is either about a later frame or known to be
about a simulated one. -/
theorem Tracks.storeRemote {g : Nat} {u : InputState} (h : r.Tracks g u)
    (hsingle : ∀ c, r.remoteInputs[frame]? = some c → input = c)
    (hsim : ∀ w, r.rollbackInputs.predictions[frame]? = some w → w ≠ input →
      g < frame ∨ PredictionRuntime.frameAlreadySimulated frame localFrame = true) :
    (r.storeRemote frame input localFrame true noFrameLimit).1.Covered g ∨
      (r.storeRemote frame input localFrame true noFrameLimit).1.Tracks g u := by
  unfold Covered
  by_cases hagree : ∀ w, r.rollbackInputs.predictions[frame]? = some w → w = input
  · -- the prediction, if any, was right: nothing is dropped
    right
    by_cases hg : frame = g
    · subst hg
      have hu : u = input := by
        cases hc : r.remoteInputs[frame]? with
        | some c => rw [h.eq_of_confirmed hc, hsingle c hc]
        | none =>
          unfold Tracks at h
          rw [hc] at h
          exact hagree u h
      rw [hu]
      apply tracks_of_confirmed
      rw [storeRemote_remoteInputs, getElem?_insert_eq, if_pos rfl]
    · unfold Tracks
      rw [storeRemote_remoteInputs, storeRemote_rollbackInputs, getElem?_insert_eq, if_neg hg,
        PredictionRuntime.confirm_of_agree localFrame hagree]
      exact h
  · push Not at hagree
    obtain ⟨w, hw, hne⟩ := hagree
    rw [storeRemote_rollbackInputs, PredictionRuntime.confirm_of_mismatch localFrame hw hne]
    by_cases hlt : g < frame
    · -- the suffix that is dropped starts above `g`
      right
      unfold Tracks
      rw [storeRemote_remoteInputs, storeRemote_rollbackInputs, getElem?_insert_eq,
        if_neg (by omega), PredictionRuntime.confirm_of_mismatch localFrame hw hne]
      simp only [PredictionRuntime.eraseProbeConfirmation_predictions,
        PredictionRuntime.dropMispredicted_predictions, getElem?_eraseFrom, if_pos hlt]
      exact h
    · left
      rw [PredictionRuntime.eraseProbeConfirmation_pendingRollbackFrame,
        PredictionRuntime.dropMispredicted_pendingRollbackFrame,
        if_pos ((hsim w hw hne).resolve_left hlt)]
      refine ⟨_, rfl, ?_⟩
      exact le_trans (Nat.min_le_left _ _) (not_lt.mp hlt)

/-- Soundness survives a confirmation that repeats what was confirmed before and, if it contradicts
a prediction, is about a frame that has not been simulated, that is known to have been, or that a
pending rollback covers anyway. -/
theorem Sound.storeRemote {used : Nat → Option InputState} {current : Nat}
    (h : r.Sound used current) (hsingle : ∀ c, r.remoteInputs[frame]? = some c → input = c)
    (hseen : ∀ w, r.rollbackInputs.predictions[frame]? = some w → w ≠ input →
      current ≤ frame ∨ PredictionRuntime.frameAlreadySimulated frame localFrame = true ∨
        r.Covered frame) :
    (r.storeRemote frame input localFrame true noFrameLimit).1.Sound used current := by
  intro g u hg hu
  rcases h g u hg hu with hcov | htr
  · exact Or.inl (hcov.storeRemote frame input localFrame noFrameLimit)
  · by_cases hcov : r.Covered g
    · exact Or.inl (hcov.storeRemote frame input localFrame noFrameLimit)
    · apply htr.storeRemote frame input localFrame noFrameLimit hsingle
      intro w hw hne
      rcases hseen w hw hne with hle | hsim | hframe
      · exact Or.inl (lt_of_lt_of_le hg hle)
      · exact Or.inr hsim
      · left
        by_contra hge
        exact hcov (hframe.mono (not_lt.mp hge))

end StoreRemote

/-- True inputs stay true. -/
theorem ConfirmedBy.storeRemote {r : Runtime} {truth : Nat → InputState} (h : r.ConfirmedBy truth)
    (frame : Nat) (localFrame : Option Nat) (noFrameLimit : Nat) :
    (r.storeRemote frame (truth frame) localFrame true noFrameLimit).1.ConfirmedBy truth := by
  intro g v hv
  rw [storeRemote_remoteInputs, getElem?_insert_eq] at hv
  split at hv
  · next hfg =>
    subst hfg
    exact (Option.some.inj hv).symm
  · exact h g v hv

/-! ### Resolving, pruning, clearing -/

section Resolve

variable {r : Runtime} (frame : Nat) (neutralInput : InputState) {probe : PredictionProbe}
  (hprobe : probe.retainConfirmation = false)

@[simp]
theorem resolve_remoteInputs :
    (r.resolve frame neutralInput probe).1.remoteInputs = r.remoteInputs := rfl

@[simp]
theorem resolve_localInputs :
    (r.resolve frame neutralInput probe).1.localInputs = r.localInputs := rfl

include hprobe

theorem resolve_pendingRollbackFrame :
    (r.resolve frame neutralInput probe).1.rollbackInputs.pendingRollbackFrame =
      r.rollbackInputs.pendingRollbackFrame :=
  PredictionRuntime.resolve_pendingRollbackFrame hprobe

/-- Resolving a frame asks for no correction and drops none. -/
theorem covered_resolve_iff {g : Nat} :
    (r.resolve frame neutralInput probe).1.Covered g ↔ r.Covered g := by
  unfold Covered
  rw [resolve_pendingRollbackFrame frame neutralInput hprobe]

/-- Resolving a frame takes nothing off the record. -/
theorem Tracks.resolve {g : Nat} {u : InputState} (h : r.Tracks g u) :
    (r.resolve frame neutralInput probe).1.Tracks g u := by
  unfold Tracks at h ⊢
  rw [resolve_remoteInputs]
  cases hc : r.remoteInputs[g]? with
  | some c => rwa [hc] at h
  | none =>
    rw [hc] at h
    exact PredictionRuntime.resolve_predictions_of_some hprobe h

/-- The input handed out for a frame is on record. -/
theorem tracks_resolve :
    (r.resolve frame neutralInput probe).1.Tracks frame
      (r.resolve frame neutralInput probe).2.input := by
  cases hc : r.remoteInputs[frame]? with
  | some c =>
    have hres : r.rollbackInputs.resolve frame r.remoteInputs neutralInput probe =
        (r.rollbackInputs, { input := c, predicted := false }) :=
      PredictionRuntime.resolve_of_confirmed hprobe hc
    have hinput : (r.resolve frame neutralInput probe).2.input = c := by
      unfold Runtime.resolve
      rw [hres]
    rw [hinput]
    exact tracks_of_confirmed hc
  | none => exact tracks_of_predicted hc (PredictionRuntime.resolve_predictions_self hprobe hc)

end Resolve

/-- Pruning forgets nothing that is still needed. -/
theorem Tracks.prunePredictions {r : Runtime} (currentFrame window : Nat) {g : Nat} {u : InputState}
    (h : r.Tracks g u) : (r.prunePredictions currentFrame window).Tracks g u := by
  unfold Tracks at h ⊢
  unfold Runtime.prunePredictions
  dsimp only
  cases hc : r.remoteInputs[g]? with
  | some c => rwa [hc] at h
  | none =>
    rw [hc] at h
    dsimp only
    rw [PredictionRuntime.prune_predictions_of_none _ _ _ hc]
    exact h

theorem tracks_clearPendingRollback_iff {r : Runtime} {g : Nat} {u : InputState} :
    r.clearPendingRollback.Tracks g u ↔ r.Tracks g u := Iff.rfl

end Runtime

/-- With a player that exists, a replayed frame gets the inputs of both players. -/
theorem resolveReplayFrameInputs_eq (r : Runtime) (frame : Nat) (localPlayer : Fin 2)
    (neutralInput : InputState) (probe : PredictionProbe) :
    resolveReplayFrameInputs r frame (localPlayer : Nat) neutralInput probe =
      ((r.resolve frame neutralInput probe).1, some {
        localInput := r.localInput frame neutralInput
        remoteInput := (r.resolve frame neutralInput probe).2.input
        players := fun player =>
          if player = localPlayer then r.localInput frame neutralInput
          else (r.resolve frame neutralInput probe).2.input
        remotePredicted := (r.resolve frame neutralInput probe).2.predicted }) := by
  have hlt := localPlayer.isLt
  unfold resolveReplayFrameInputs
  rw [if_neg (by omega)]
  simp only [Int.natCast_inj, Fin.val_inj]

end InputTimeline

/-- A game that remembers the buttons of both players. -/
def buttonLog (log : List (UInt32 × UInt32)) (players : Fin 2 → InputState) :
    List (UInt32 × UInt32) :=
  ((players 0).keyMask, (players 1).keyMask) :: log

end Bigstar.Netplay
