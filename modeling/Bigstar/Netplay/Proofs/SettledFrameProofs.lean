import Bigstar.Netplay.Proofs.ContiguousFrameProofs
import Bigstar.Netplay.Proofs.RomLoopRunProofs

/-!
# Frames that no correction reaches

A frame is settled once the remote inputs of all frames before it are known and no rollback to one
of these frames is pending. Nothing that happens to the timeline afterwards unsettles it: an input
that arrives again is the one that is known, and a prediction that is still on record for a known
input was right.
-/

namespace Bigstar.Netplay.InputTimeline.Runtime

open OrderedMap RollbackRuntime

/-- Every prediction on record for a known input was right. -/
def Agreeing (r : Runtime) : Prop :=
  ∀ (f : Nat) w c, r.rollbackInputs.predictions[f]? = some w → r.remoteInputs[f]? = some c → w = c

/-- What is known about the remote inputs is what was sent, and is accounted for. -/
structure Accounts (r : Runtime) (epoch : Nat) (truth : Nat → InputState) : Prop where
  epoch_eq : r.remoteInputEpochStartFrame = some epoch
  contiguous : r.Contiguous epoch
  confirmed : r.ConfirmedBy truth
  agreeing : r.Agreeing

/-- The remote inputs of the frames from the epoch to before frame `f` are known, and the pending
rollback leaves these frames alone. -/
structure Settled (r : Runtime) (epoch f : Nat) : Prop where
  known : ∀ k, epoch ≤ k → k < f → ∃ input, r.remoteInputs[k]? = some input
  pending : ∀ p, r.rollbackInputs.pendingRollbackFrame = some p → f ≤ p

theorem Settled.mono {r : Runtime} {epoch f g : Nat} (h : r.Settled epoch f) (hg : g ≤ f) :
    r.Settled epoch g :=
  ⟨fun k hk hkg => h.known k hk (Nat.lt_of_lt_of_le hkg hg),
    fun p hp => Nat.le_trans hg (h.pending p hp)⟩

/-- From one state of the timeline to a later one, settled frames stay settled. -/
structure Leads (epoch : Nat) (truth : Nat → InputState) (r r' : Runtime) : Prop where
  accounts : r.Accounts epoch truth → r'.Accounts epoch truth
  settled : r.Accounts epoch truth → ∀ f, r.Settled epoch f → r'.Settled epoch f

section

variable {epoch : Nat} {truth : Nat → InputState} {r r' r'' : Runtime}

theorem Leads.refl (epoch : Nat) (truth : Nat → InputState) (r : Runtime) : Leads epoch truth r r :=
  ⟨id, fun _ _ => id⟩

theorem Leads.trans (h : Leads epoch truth r r') (h' : Leads epoch truth r' r'') :
    Leads epoch truth r r'' :=
  ⟨fun hr => h'.accounts (h.accounts hr), fun hr f hf =>
    h'.settled (h.accounts hr) f (h.settled hr f hf)⟩

/-- Where the remote inputs stay as they are, it is enough that no rollback is added, and no
prediction for a known input. -/
theorem leads_of_remoteInputs_eq (hremote : r'.remoteInputs = r.remoteInputs)
    (hepoch : r'.remoteInputEpochStartFrame = r.remoteInputEpochStartFrame)
    (hhighest : r'.highestContiguousRemoteFrame = r.highestContiguousRemoteFrame)
    (hpending : ∀ p, r'.rollbackInputs.pendingRollbackFrame = some p →
      r.rollbackInputs.pendingRollbackFrame = some p)
    (hpredictions : ∀ (f : Nat) w c, r.remoteInputs[f]? = some c →
      r'.rollbackInputs.predictions[f]? = some w → r.rollbackInputs.predictions[f]? = some w) :
    Leads epoch truth r r' := by
  constructor
  · intro h
    refine ⟨hepoch.trans h.epoch_eq, ?_, ?_, ?_⟩
    · intro highest hsome
      rw [hhighest] at hsome
      rw [hremote]
      exact h.contiguous highest hsome
    · intro f v hv
      rw [hremote] at hv
      exact h.confirmed f v hv
    · intro f w c hw hc
      rw [hremote] at hc
      exact h.agreeing f w c (hpredictions f w c hc hw) hc
  · intro _ f hf
    refine ⟨?_, fun p hp => hf.pending p (hpending p hp)⟩
    rw [hremote]
    exact hf.known

theorem leads_recordLocal (r : Runtime) (localInputs : InputMap) :
    Leads epoch truth r { r with localInputs := localInputs } :=
  leads_of_remoteInputs_eq rfl rfl rfl (fun _ hp => hp) fun _ _ _ _ hw => hw

theorem leads_prunePredictions (r : Runtime) (currentFrame window : Nat) :
    Leads epoch truth r (r.prunePredictions currentFrame window) :=
  leads_of_remoteInputs_eq rfl rfl rfl (fun _ hp => hp) fun _ _ _ _ hw =>
    PredictionRuntime.predictions_of_prune hw

theorem leads_clearPendingRollback (r : Runtime) : Leads epoch truth r r.clearPendingRollback := by
  refine leads_of_remoteInputs_eq rfl rfl rfl (fun p hp => ?_) fun _ _ _ _ hw => hw
  exact absurd hp (by simp [clearPendingRollback, PredictionRuntime.clearPendingRollback])

theorem leads_resolve (r : Runtime) (frame : Nat) (neutralInput : InputState)
    {probe : PredictionProbe} (hprobe : probe.retainConfirmation = false) :
    Leads epoch truth r (r.resolve frame neutralInput probe).1 := by
  refine leads_of_remoteInputs_eq rfl rfl rfl (fun p hp => ?_) fun f w c hc hw => ?_
  · rw [resolve_pendingRollbackFrame frame neutralInput hprobe] at hp
    exact hp
  · rcases PredictionRuntime.predictions_of_resolve hprobe hw with hold | rfl
    · exact hold
    · change (r.rollbackInputs.resolve f r.remoteInputs neutralInput probe).1.predictions[f]? =
        some w at hw
      rw [PredictionRuntime.resolve_of_confirmed hprobe hc] at hw
      exact hw

/-- An arrival for a known frame changes nothing about the predictions. -/
theorem Accounts.predicted_eq (h : r.Accounts epoch truth) {frame : Nat} {w input : InputState}
    (hknown : r.remoteInputs[frame]? = some input)
    (hw : r.rollbackInputs.predictions[frame]? = some w) :
    w = truth frame :=
  (h.agreeing frame w input hw hknown).trans (h.confirmed frame input hknown)

theorem leads_storeRemote (r : Runtime) {frame : Nat} {input : InputState}
    (htrue : input = truth frame)
    (hepoch : epoch ≤ frame) (localFrame : Option Nat) (noFrameLimit : Nat) :
    Leads epoch truth r (r.storeRemote frame input localFrame true noFrameLimit).1 := by
  have hstored := stored_storeRemote r frame input localFrame true noFrameLimit
  constructor
  · intro h
    refine ⟨hstored.epochStart.trans h.epoch_eq,
      hstored.contiguous epoch h.epoch_eq h.contiguous, ?_, ?_⟩
    · rw [htrue]
      exact h.confirmed.storeRemote _ _ _
    · intro f w c hw hc
      rw [storeRemote_rollbackInputs] at hw
      rw [storeRemote_remoteInputs, getElem?_insert_eq] at hc
      split at hc
      · next hf =>
        obtain rfl := Option.some.inj hc
        subst hf
        -- a prediction that was wrong has just been dropped
        by_contra hne
        have hw' := PredictionRuntime.predictions_of_confirm hw
        rw [PredictionRuntime.confirm_of_mismatch localFrame hw' hne,
          PredictionRuntime.eraseProbeConfirmation_predictions,
          PredictionRuntime.dropMispredicted_predictions, getElem?_eraseFrom,
          if_neg (Nat.lt_irrefl _)] at hw
        exact absurd hw (by simp)
      · exact h.agreeing f w c (PredictionRuntime.predictions_of_confirm hw) hc
  · intro h f hf
    refine ⟨fun k hk hkf => ?_, fun p hp => ?_⟩
    · have hpresent := hstored.present k (Option.isSome_iff_exists.mpr (hf.known k hk hkf))
      exact Option.isSome_iff_exists.mp hpresent
    · rw [storeRemote_rollbackInputs] at hp
      by_cases hagree : ∀ w, r.rollbackInputs.predictions[frame]? = some w → w = input
      · rw [PredictionRuntime.confirm_of_agree localFrame hagree] at hp
        exact hf.pending p hp
      · rcases PredictionRuntime.confirm_pendingRollbackFrame_cases hp with hold | ⟨rfl, -⟩
        · exact hf.pending p hold
        · -- the frame was known, so that its prediction was right
          by_contra hlt
          obtain ⟨c, hc⟩ := hf.known p hepoch (Nat.not_le.mp hlt)
          exact hagree fun w hw => (h.predicted_eq hc hw).trans htrue.symm

end

end Bigstar.Netplay.InputTimeline.Runtime

namespace Bigstar.Netplay.RomLoop

open OrderedMap InputTimeline RollbackStorage RollbackRuntime GameRAMRollback Runtime

variable {S : Type} {start : Started} {truth : Nat → InputState}

/-! ## The parts of a frame -/

theorem leads_arrival (henabled : start.config.enabled = true) {arrival : Arrival}
    (htrue : arrival.input = truth arrival.frame) (localFrame : Nat)
    (inputs : InputTimeline.Runtime) :
    Leads start.sharedLogicalEpoch truth inputs
      (storeRemoteInputLocked start.sharedLogicalEpoch start.config.enabled localFrame
        inputs arrival) := by
  unfold storeRemoteInputLocked
  split
  · exact Leads.refl _ _ _
  · next hnew =>
    have hepoch : start.sharedLogicalEpoch ≤ arrival.frame := by
      have hpos := start.epoch_pos
      omega
    dsimp only
    rw [henabled]
    exact leads_storeRemote inputs htrue hepoch _ _

theorem leads_pumpThread (henabled : start.config.enabled = true) {arrivals : List Arrival}
    (htrue : ∀ a ∈ arrivals, a.input = truth a.frame) (inputs : InputTimeline.Runtime) :
    Leads start.sharedLogicalEpoch truth inputs (pumpThread start inputs arrivals) := by
  unfold pumpThread
  induction arrivals generalizing inputs with
  | nil => exact Leads.refl _ _ _
  | cons a arrivals ih =>
    have hfirst := leads_arrival henabled (htrue a List.mem_cons_self) kNoFrame inputs
    exact hfirst.trans (ih (fun b hb => htrue b (List.mem_cons_of_mem _ hb)) _)

theorem leads_pumps (henabled : start.config.enabled = true) {pumped : List (Arrival × Bool)}
    (htrue : ∀ a ∈ pumped, a.1.input = truth a.1.frame) (rawFrame : Nat)
    (inputs : InputTimeline.Runtime) :
    Leads start.sharedLogicalEpoch truth inputs
      (pumped.foldl (pumpOnce start rawFrame) inputs) := by
  induction pumped generalizing inputs with
  | nil => exact Leads.refl _ _ _
  | cons a pumped ih =>
    have hfirst := leads_arrival henabled (htrue a List.mem_cons_self)
      (if a.2 then kNoFrame else rawFrame)
      inputs
    exact hfirst.trans (ih (fun b hb => htrue b (List.mem_cons_of_mem _ hb)) _)

theorem leads_resolveHistory (start : Started) (frames : List Nat)
    (inputs : InputTimeline.Runtime) :
    Leads start.sharedLogicalEpoch truth inputs (resolveHistory start frames inputs).1 := by
  induction frames generalizing inputs with
  | nil => exact Leads.refl _ _ _
  | cons frame frames ih =>
    have hfirst : Leads start.sharedLogicalEpoch truth inputs
        (inputs.resolve frame neutralInput (replayProbe start.config)).1 := leads_resolve _ _ _ rfl
    have hrest := hfirst.trans (ih _)
    unfold resolveHistory
    rw [resolveReplayFrameInputs_eq]
    dsimp only
    split
    · next heq =>
      rw [heq] at hrest
      exact hrest
    · next heq =>
      rw [heq] at hrest
      exact hrest

theorem writeHistory_inputs (s : Session S) (checkpoint : GameRAMCheckpoint S) (image : S)
    (transactionFrames : Nat) (history : List (Nat × ReplayFrameInputs)) :
    (writeHistory s checkpoint image transactionFrames history).inputs = s.inputs := by
  unfold writeHistory
  dsimp only
  split
  · rfl
  · rfl

theorem leads_armCorrection (s : Session S) (checkpoint : GameRAMCheckpoint S) (frame : Nat) :
    Leads start.sharedLogicalEpoch truth s.inputs
      (armCorrection start s checkpoint frame).inputs := by
  have hhistory : Leads start.sharedLogicalEpoch truth s.inputs _ :=
    leads_resolveHistory start (List.range' checkpoint.displayFrame
      (requiredHistoryCount checkpoint.displayFrame frame)) s.inputs
  unfold armCorrection
  dsimp only
  split
  · exact Leads.refl _ _ _
  · split
    · exact Leads.refl _ _ _
    · split
      · next heq =>
        rw [heq] at hhistory
        exact hhistory
      · next heq =>
        rw [heq] at hhistory
        rw [writeHistory_inputs]
        exact hhistory

theorem Resimulated.leads {s r : Session S} {frame : Nat} {beforeArm : List Arrival}
    (h : Resimulated start s frame beforeArm r) (henabled : start.config.enabled = true)
    (htrue : ∀ a ∈ beforeArm, a.input = truth a.frame) :
    Leads start.sharedLogicalEpoch truth s.inputs r.inputs := by
  have hpump := leads_pumpThread henabled htrue s.inputs
  have hcleared := (leads_clearPendingRollback s.inputs).trans
    (leads_pumpThread henabled htrue s.inputs.clearPendingRollback)
  cases h with
  | busy => exact hpump
  | wait => exact hpump
  | consume => exact hcleared
  | missing => exact hcleared
  | correct m checkpoint =>
    exact hcleared.trans (leads_armCorrection
      { s with inputs := pumpThread start s.inputs.clearPendingRollback beforeArm } checkpoint
        frame)

theorem leads_plannedSession (hactive : Active start.config) (s : Session S) {event : FrameEvent}
    (htrue : event.ConfirmedBy truth) :
    Leads start.sharedLogicalEpoch truth s.inputs (plannedSession start s event).inputs := by
  have hepoch : start.sharedLogicalEpoch ≤ s.frame start := Nat.le_add_right _ _
  obtain ⟨inputs, heq, hinputs⟩ := saveCheckpointIfNeeded_eq hactive s hepoch
  have hpruned : Leads start.sharedLogicalEpoch truth s.inputs inputs := by
    rcases hinputs with rfl | rfl
    · exact Leads.refl _ _ _
    · exact leads_prunePredictions _ _ _
  have hpumped := hpruned.trans (leads_pumps hactive.enabled htrue.pumped s.rawFrame inputs)
  unfold plannedSession writeScratch pumpedSession resolveLiveInputs
  dsimp only
  rw [heq]
  refine (hpumped.trans ?_).trans (leads_pumpThread hactive.enabled htrue.beforePlan _)
  exact (leads_recordLocal _ _).trans
    (leads_resolve _ _ neutralInput (predictionProbe_retainConfirmation hactive))

end Bigstar.Netplay.RomLoop
