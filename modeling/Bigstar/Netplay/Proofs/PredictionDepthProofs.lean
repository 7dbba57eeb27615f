import Bigstar.Netplay.Proofs.ContiguousAccountingProofs
import Bigstar.Netplay.Proofs.SettledFrameProofs

/-!
# The prediction horizon bounds the depth of every correction

The gate before `Resolve` lets a frame pass only while at most `predictionHorizonFrames` frames are
unconfirmed. What arrives later, wherever in a frame and in whatever order, can then contradict a
prediction at most that many frames back: everything before is settled. So the process never exits
over a rollback that is too deep, and the checkpoint of the mispredicted frame is always in the
ring. That is so for sessions whose frames no test limits: beyond them the source skips the gate.
-/

namespace Bigstar.Netplay.InputTimeline.Runtime

open OrderedMap RollbackRuntime

variable {r : Runtime} {epoch : Nat} {truth : Nat → InputState}

theorem Contiguous.exists_of_lt_firstMissing (h : r.Contiguous epoch) {f : Nat} (hf : epoch ≤ f)
    (hlt : f < r.firstMissing epoch) : ∃ input, r.remoteInputs[f]? = some input := by
  unfold firstMissing at hlt
  cases hhighest : r.highestContiguousRemoteFrame with
  | none =>
    rw [hhighest] at hlt
    exact absurd hlt (Nat.not_lt.mpr hf)
  | some highest =>
    rw [hhighest] at hlt
    exact (h highest hhighest).2 f hf (Nat.le_of_lt_succ hlt)

/-- Where no rollback is pending, a frame is settled as soon as all inputs before it are known. -/
theorem settled_of_not_pending {f : Nat}
    (hknown : ∀ k, epoch ≤ k → k < f → ∃ input, r.remoteInputs[k]? = some input)
    (hpending : r.rollbackInputs.pendingRollbackFrame = none) : r.Settled epoch f := by
  refine ⟨hknown, fun p hp => ?_⟩
  rw [hpending] at hp
  exact absurd hp (by simp)

end Bigstar.Netplay.InputTimeline.Runtime

namespace Bigstar.Netplay.RomLoop

open OrderedMap InputTimeline RollbackStorage RollbackRuntime GameRAMRollback Runtime

variable {S : Type} {guest : Guest S (Fin 2 → InputState)} {start : Started}
  {truth : Nat → InputState}
  {inputs : InputTimeline.Runtime} {nds : Nds S (Fin 2 → InputState)}

/-- The horizon is on, and within the limits of the configuration. Corrections are not put off. -/
structure Bounded (config : RollbackConfig) : Prop where
  horizon_pos : 0 < config.predictionHorizonFrames
  horizon_le : config.predictionHorizonFrames ≤ 10
  at_once : config.resimulateDelayFrames ≤ 0

/-- The first frame that a correction of frame `n` may go back to. -/
def reach (start : Started) (n : Nat) : Nat :=
  max start.sharedLogicalEpoch (n - start.config.predictionHorizonFrames.toNat)

/-! ## The gate -/

/-- A frame passes the gate only if everything beyond the reach of the next one is known. -/
theorem known_of_horizonReached (hbounded : Bounded start.config)
    (h : inputs.Accounts start.sharedLogicalEpoch truth) {n : Nat}
    (hepoch : start.sharedLogicalEpoch ≤ n)
    (hn : n < u32Max) (hgate : horizonReached start inputs n = true) {k : Nat}
    (hk : start.sharedLogicalEpoch ≤ k) (hlt : k < reach start (n + 1)) :
    ∃ input, inputs.remoteInputs[k]? = some input := by
  have hpos := hbounded.horizon_pos
  refine h.contiguous.exists_of_lt_firstMissing hk ?_
  unfold horizonReached at hgate
  rw [if_neg (by omega), unconfirmedRemoteFrameCountThrough_eq h.epoch_eq hepoch hn] at hgate
  dsimp only at hgate
  rw [decide_eq_true_eq, Nat.card_Icc] at hgate
  unfold reach at hlt
  omega

/-- Known inputs stay known, whatever the pump thread delivers. -/
theorem known_pumpThread (start : Started) (inputs : InputTimeline.Runtime)
    (arrivals : List Arrival) {f : Nat} (h : ∃ input, inputs.remoteInputs[f]? = some input) :
    ∃ input, (pumpThread start inputs arrivals).remoteInputs[f]? = some input := by
  unfold pumpThread
  induction arrivals generalizing inputs with
  | nil => exact h
  | cons a arrivals ih =>
    refine ih _ ?_
    have hstored := stored_storeRemoteInputLocked start.sharedLogicalEpoch
      start.config.enabled kNoFrame
      inputs a
    exact Option.isSome_iff_exists.mp (hstored.present f (Option.isSome_iff_exists.mpr h))

/-- What was known at the gate is known to `ResimulateIfNeeded`. -/
theorem known_plannedSession (start : Started) (s : Session S) (event : FrameEvent) {f : Nat}
    (h : ∃ input, (pumpedSession start s event).inputs.remoteInputs[f]? = some input) :
    ∃ input, (plannedSession start s event).inputs.remoteInputs[f]? = some input := by
  unfold plannedSession
  exact known_pumpThread start _ event.beforePlan h

theorem leads_pumpedSession (hactive : Active start.config) (s : Session S) {event : FrameEvent}
    (htrue : event.ConfirmedBy truth) :
    Leads start.sharedLogicalEpoch truth s.inputs (pumpedSession start s event).inputs := by
  have hepoch : start.sharedLogicalEpoch ≤ s.frame start := Nat.le_add_right _ _
  obtain ⟨inputs, heq, hinputs⟩ := saveCheckpointIfNeeded_eq hactive s hepoch
  have hpruned : Leads start.sharedLogicalEpoch truth s.inputs inputs := by
    rcases hinputs with rfl | rfl
    · exact Leads.refl _ _ _
    · exact leads_prunePredictions _ _ _
  unfold pumpedSession
  dsimp only
  rw [heq]
  exact hpruned.trans (leads_pumps hactive.enabled htrue.pumped s.rawFrame inputs)

/-! ## The invariant -/

/-- What holds before a frame: nothing beyond its reach is predicted or to be rolled back. -/
structure DepthInv (guest : Guest S (Fin 2 → InputState)) (start : Started)
    (truth : Nat → InputState) (initial : S) (s : Session S) : Prop where
  inv : Inv guest start initial true s
  accounts : s.inputs.Accounts start.sharedLogicalEpoch truth
  settled : s.inputs.Settled start.sharedLogicalEpoch (reach start (s.frame start))

/-- The event is that of a frame that passes the gate. -/
structure Passes (start : Started) (truth : Nat → InputState) (s : Session S) (event : FrameEvent) :
    Prop where
  confirmed : event.ConfirmedBy truth
  frame_lt : s.frame start < u32Max
  gate : horizonReached start (pumpedSession start s event).inputs (s.frame start) = true

section Frame

variable {initial : S} {s : Session S} {event : FrameEvent}

/-- Whatever is pending when `ResimulateIfNeeded` looks is within reach. -/
theorem DepthInv.planned (h : DepthInv guest start truth initial s) (hactive : Active start.config)
    (htrue : event.ConfirmedBy truth) :
    (plannedSession start s event).inputs.Accounts start.sharedLogicalEpoch truth ∧
    (plannedSession start s event).inputs.Settled start.sharedLogicalEpoch
      (reach start (s.frame start)) := by
  have hleads := leads_plannedSession hactive s htrue
  exact ⟨hleads.accounts h.accounts, hleads.settled h.accounts _ h.settled⟩

theorem DepthInv.known (h : DepthInv guest start truth initial s) (hactive : Active start.config)
    (hbounded : Bounded start.config) (hpasses : Passes start truth s event) {k : Nat}
    (hk : start.sharedLogicalEpoch ≤ k) (hlt : k < reach start (s.frame start + 1)) :
    ∃ input, (plannedSession start s event).inputs.remoteInputs[k]? = some input := by
  have haccounts := (leads_pumpedSession hactive s hpasses.confirmed).accounts h.accounts
  exact known_plannedSession start s event
    (known_of_horizonReached hbounded haccounts
      (Nat.le_add_right _ _) hpasses.frame_lt hpasses.gate hk hlt)

/-- The pending rollback, against the frame: no deeper than the horizon, and not before the
epoch. -/
theorem DepthInv.pending (h : DepthInv guest start truth initial s) (hactive : Active start.config)
    (htrue : event.ConfirmedBy truth) {p : Nat}
    (hp : (plannedSession start s event).inputs.rollbackInputs.pendingRollbackFrame = some p) :
    start.sharedLogicalEpoch ≤ p ∧
      s.frame start ≤ p + start.config.predictionHorizonFrames.toNat := by
  have hreach := (h.planned hactive htrue).2.pending p hp
  unfold reach at hreach
  omega

end Frame

/-! ## The plan -/

section Step

variable {initial : S} {s t : Session S} {event : FrameEvent}

/-- A frame that has run has passed the gate. -/
theorem passes_of_frame_eq_some (hready : start.localReadyFrame ≤ s.rawFrame)
    (hframe : s.frame start ≤ u32Max) (htrue : event.ConfirmedBy truth)
    (h : RomLoop.frame guest start s event = some t) : Passes start truth s event := by
  have hlt := (frame_eq_some hready hframe h).1
  refine ⟨htrue, hlt, ?_⟩
  unfold RomLoop.frame at h
  rw [logicalFrame_eq hready hframe] at h
  dsimp only at h
  rw [if_neg (Nat.not_le.mpr hlt)] at h
  split at h
  · exact absurd h (by simp)
  · next hgate => simpa [pumpedSession] using hgate

/-- After `ResimulateIfNeeded` everything beyond the reach of the next frame is settled: what was
pending has been taken up, or is about a frame still to come. -/
theorem DepthInv.resimulated {r : Session S} (h : DepthInv guest start truth initial s)
    (hactive : Active start.config) (hbounded : Bounded start.config)
    (hreliable : Reliable guest initial) (hpasses : Passes start truth s event)
    (hr : Resimulated start (plannedSession start s event) (s.frame start) event.beforeArm r) :
    r.inputs.Accounts start.sharedLogicalEpoch truth ∧
    r.inputs.Settled start.sharedLogicalEpoch (reach start (s.frame start + 1)) := by
  have hpos := hbounded.horizon_pos
  have hepoch : start.sharedLogicalEpoch ≤ s.frame start := Nat.le_add_right _ _
  have haccounts := (h.planned hactive hpasses.confirmed).1
  have hknown := fun k => h.known (k := k) hactive hbounded hpasses
  have hready := (h.inv.planned hactive event).1
  have hidle := hready.settled hreliable.counts
  have htrue := hpasses.confirmed.beforeArm
  refine ⟨(hr.leads hactive.enabled htrue).accounts haccounts, ?_⟩
  generalize plannedSession start s event = planned at *
  -- what is left of the frame leaves settled frames settled
  have hcleared : planned.inputs.clearPendingRollback.Settled start.sharedLogicalEpoch
      (reach start (s.frame start + 1)) := settled_of_not_pending hknown rfl
  have hpumped := (leads_pumpThread hactive.enabled htrue planned.inputs.clearPendingRollback)
  have hclearedAccounts := (leads_clearPendingRollback planned.inputs).accounts haccounts
  cases hr with
  | busy hflight =>
    rw [hidle] at hflight
    exact absurd hflight (by simp)
  | wait hplan =>
    refine (leads_pumpThread hactive.enabled htrue planned.inputs).settled haccounts _ ?_
    refine ⟨hknown, fun p hp => ?_⟩
    have hlt := planResimulation_wait hactive.backend hbounded.at_once hplan hp
    unfold reach
    omega
  | consume | missing => exact hpumped.settled hclearedAccounts _ hcleared
  | correct m checkpoint =>
    have harmed : Leads start.sharedLogicalEpoch truth _ _ := leads_armCorrection
      { planned with
        inputs := pumpThread start planned.inputs.clearPendingRollback event.beforeArm }
      checkpoint (s.frame start)
    exact (hpumped.trans harmed).settled hclearedAccounts _ hcleared

theorem DepthInv.frame (h : DepthInv guest start truth initial s) (hactive : Active start.config)
    (hbounded : Bounded start.config) (hreliable : Reliable guest initial)
    (htrue : event.ConfirmedBy truth) (hstep : RomLoop.frame guest start s event = some t) :
    DepthInv guest start truth initial t := by
  have hpasses := passes_of_frame_eq_some h.inv.ready_le h.inv.frame_le htrue hstep
  have hnext := frame_succ h.inv hactive hstep
  have hinv := h.inv.frame hactive hstep
  obtain ⟨hn, r, hr, rfl⟩ := frame_eq_some h.inv.ready_le h.inv.frame_le hstep
  obtain ⟨haccounts, hsettled⟩ := h.resimulated hactive hbounded hreliable hpasses
    (resimulated_of_eq_some hactive hr)
  have hend := leads_pumpThread hactive.enabled htrue.beforeEnd r.inputs
  refine ⟨hinv, hend.accounts haccounts, ?_⟩
  rw [hnext]
  exact hend.settled haccounts _ hsettled

/-! ## The correction -/

/-- The correction that a mispredicted frame `p` gets: the guest goes back to the state before that
very frame, and replays the frames from there to the present one. -/
structure Corrects (start : Started) (state : S) (p n : Nat) (r : Session S) : Prop where
  pending : r.nds.restorePending = true
  data : r.nds.restoreData = some state
  label : r.nds.replayDisplayStartFrame = p
  count : r.nds.history.count = n + 1 - p
  entries : r.nds.history.entries = (List.range' p (n + 1 - p)).map (playersOf r.used)

end Step

/-! ## Whole runs -/

/-- Where the timeline starts: the epoch is known, and what is known from there on is what was
sent. -/
structure Primed (start : Started) (truth : Nat → InputState) (inputs : InputTimeline.Runtime) :
    Prop where
  epoch_eq : inputs.remoteInputEpochStartFrame = some start.sharedLogicalEpoch
  contiguous : inputs.Contiguous start.sharedLogicalEpoch
  confirmed : inputs.ConfirmedBy truth

theorem Fresh.depthInv (h : Fresh start inputs nds) (hprimed : Primed start truth inputs)
    (hmagic : nds.history.magic = true) (guest : Guest S (Fin 2 → InputState)) :
    DepthInv guest start truth nds.mainRAM (startSession start inputs nds) := by
  have hinv := h.inv guest
  rw [hmagic] at hinv
  refine ⟨hinv, ⟨hprimed.epoch_eq, hprimed.contiguous, hprimed.confirmed, ?_⟩, ?_⟩
  · intro f w c hw _
    have hpredicted : inputs.rollbackInputs.predictions[f]? = some w := hw
    rw [h.predictions] at hpredicted
    exact absurd hpredicted (by simp)
  · refine settled_of_not_pending (fun k hk hlt => ?_) h.pending
    rw [startSession_frame] at hlt
    unfold reach at hlt
    omega

theorem primedInputs_primed (localReadyFrame : Nat) (h : 0 < localReadyFrame)
    (truth : Nat → InputState) :
    Primed (sessionFrom localReadyFrame h) truth primedInputs := by
  have hprimed : Runtime.Primed {} primedInputs 10 0 neutralInput :=
    primed_primeEpoch {} neutralInput kNoFrame (by decide)
  refine ⟨hprimed.epochStart, hprimed.contiguous, fun f v hv => ?_⟩
  rw [hprimed.remoteInputs f] at hv
  simp only [Nat.add_zero] at hv
  split_ifs at hv with h1 h2
  · omega
  · exact absurd hv (by simp)

theorem sessionFrom_bounded (localReadyFrame : Nat) (h : 0 < localReadyFrame) :
    Bounded (sessionFrom localReadyFrame h).config :=
  ⟨show (0 : Int) < 7 by decide, show (7 : Int) ≤ 10 by decide, Int.le_refl 0⟩

end Bigstar.Netplay.RomLoop
