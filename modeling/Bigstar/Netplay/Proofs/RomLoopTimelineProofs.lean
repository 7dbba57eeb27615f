import Bigstar.Netplay.Proofs.RomLoopProofs

/-!
# Which inputs the guest has been given

The record of used inputs against the timeline, through all the points of a frame at which the
network may deliver. As long as no confirmation that contradicts a used prediction is mistaken for
one about the future, or arrives for the very frame that is about to run, every recorded input is
the confirmed one, or the prediction still on record, or a rollback that covers it is pending.
-/

namespace Bigstar.Netplay.RomLoop

open OrderedMap InputTimeline RollbackStorage RollbackRuntime GameRAMRollback

variable {S : Type} {guest : Guest S (Fin 2 → InputState)} {start : Started}
  {truth : Nat → InputState}
  {inputs : InputTimeline.Runtime} {used : NatMap ReplayFrameInputs} {k current : Nat}

/-- The record and the timeline agree about the frames below `k`; the record ends before
`current`. -/
structure Tracking (start : Started) (truth : Nat → InputState) (inputs : InputTimeline.Runtime)
    (used : NatMap ReplayFrameInputs) (k current : Nat) : Prop where
  sound : inputs.Sound (remoteOf used) k
  confirmed : inputs.ConfirmedBy truth
  pending : ∀ p, inputs.rollbackInputs.pendingRollbackFrame = some p →
    start.sharedLogicalEpoch ≤ p ∧ p < current
  predicted : ∀ (f : Nat) w, inputs.rollbackInputs.predictions[f]? = some w → f < current
  used_lt : ∀ (f : Nat) i, used[f]? = some i → f < current
  players : ∀ (f : Nat) i, used[f]? = some i → i.players = fun player =>
    if player = start.localPlayer then inputs.localInput f neutralInput else i.remoteInput

/-! ## Arrivals -/

/-- An arrival does not contradict a prediction of a frame that it takes for one of the future,
unless a rollback that covers the frame is pending. -/
def Harmless (inputs : InputTimeline.Runtime) (localFrame : Nat) (arrival : Arrival) : Prop :=
  ∀ w, inputs.rollbackInputs.predictions[arrival.frame]? = some w → w ≠ arrival.input →
    localFrame = kNoFrame ∨ arrival.frame < localFrame ∨ inputs.Covered arrival.frame

theorem Tracking.arrival (h : Tracking start truth inputs used k current)
    (henabled : start.config.enabled = true) {arrival : Arrival}
    (htrue : arrival.input = truth arrival.frame) {localFrame : Nat}
    (hharmless : Harmless inputs localFrame arrival) :
    Tracking start truth (storeRemoteInputLocked start.sharedLogicalEpoch start.config.enabled
      localFrame inputs arrival) used k current := by
  unfold storeRemoteInputLocked
  split
  · exact h
  · next hnew =>
    have hepoch : start.sharedLogicalEpoch ≤ arrival.frame := by
      have := start.epoch_pos
      omega
    dsimp only
    rw [henabled]
    constructor
    · apply h.sound.storeRemote
      · intro c hc
        rw [htrue, h.confirmed _ c hc]
      · intro w hw hne
        rcases hharmless w hw hne with h0 | hlt | hcov
        · rw [if_pos h0]
          exact Or.inr (Or.inl rfl)
        · right
          left
          split
          · rfl
          · simpa [PredictionRuntime.frameAlreadySimulated] using hlt
        · exact Or.inr (Or.inr hcov)
    · rw [htrue]
      exact h.confirmed.storeRemote _ _ _
    · intro p hp
      rw [Runtime.storeRemote_rollbackInputs] at hp
      rcases PredictionRuntime.confirm_pendingRollbackFrame_cases hp with hold | ⟨rfl, w, hw⟩
      · exact h.pending p hold
      · exact ⟨hepoch, h.predicted _ w hw⟩
    · intro f w hw
      rw [Runtime.storeRemote_rollbackInputs] at hw
      exact h.predicted f w (PredictionRuntime.predictions_of_confirm hw)
    · exact h.used_lt
    · intro f i hf
      unfold Runtime.localInput
      rw [Runtime.storeRemote_localInputs]
      exact h.players f i hf

/-- The pump thread, which passes on no frame, never does harm. -/
theorem Tracking.pumpThread (h : Tracking start truth inputs used k current)
    (henabled : start.config.enabled = true) {arrivals : List Arrival}
    (htrue : ∀ a ∈ arrivals, a.input = truth a.frame) :
    Tracking start truth (RomLoop.pumpThread start inputs arrivals) used k current := by
  unfold RomLoop.pumpThread
  induction arrivals generalizing inputs with
  | nil => exact h
  | cons a arrivals ih =>
    have hharmless : Harmless inputs kNoFrame a := fun _ _ _ => Or.inl rfl
    have hstep := h.arrival henabled (htrue a List.mem_cons_self) hharmless
    exact ih hstep fun b hb => htrue b (List.mem_cons_of_mem _ hb)

/-- None of the pumps before `Resolve` does harm. -/
def HarmlessPumps (start : Started) (rawFrame : Nat) :
    InputTimeline.Runtime → List (Arrival × Bool) → Prop
  | _, [] => True
  | inputs, received :: pumped =>
    Harmless inputs (if received.2 then kNoFrame else rawFrame) received.1 ∧
      HarmlessPumps start rawFrame (pumpOnce start rawFrame inputs received) pumped

theorem Tracking.pumps (h : Tracking start truth inputs used k current)
    (henabled : start.config.enabled = true) {rawFrame : Nat} {pumped : List (Arrival × Bool)}
    (htrue : ∀ a ∈ pumped, a.1.input = truth a.1.frame)
    (hharmless : HarmlessPumps start rawFrame inputs pumped) :
    Tracking start truth (pumped.foldl (pumpOnce start rawFrame) inputs) used k current := by
  induction pumped generalizing inputs with
  | nil => exact h
  | cons received pumped ih =>
    have hstep := h.arrival henabled (htrue received List.mem_cons_self) hharmless.1
    exact ih hstep (fun b hb => htrue b (List.mem_cons_of_mem _ hb)) hharmless.2

/-- Where the main thread's frame is the logical one or lies behind it, no pump does harm. -/
theorem Tracking.harmlessPumps (h : Tracking start truth inputs used k current)
    (henabled : start.config.enabled = true) {rawFrame : Nat} {pumped : List (Arrival × Bool)}
    (htrue : ∀ a ∈ pumped, a.1.input = truth a.1.frame)
    (hraw : ∀ a ∈ pumped, a.2 = true ∨ current ≤ rawFrame) :
    HarmlessPumps start rawFrame inputs pumped := by
  induction pumped generalizing inputs with
  | nil => trivial
  | cons received pumped ih =>
    have hharmless : Harmless inputs (if received.2 then kNoFrame else rawFrame) received.1 := by
      intro w hw _
      rcases hraw received List.mem_cons_self with hthread | hcurrent
      · rw [hthread]
        exact Or.inl rfl
      · have hlt := h.predicted _ w hw
        cases received.2 with
        | true => exact Or.inl rfl
        | false => exact Or.inr (Or.inl (Nat.lt_of_lt_of_le hlt hcurrent))
    have hstep := h.arrival henabled (htrue received List.mem_cons_self) hharmless
    exact ⟨hharmless, ih hstep (fun b hb => htrue b (List.mem_cons_of_mem _ hb))
      fun b hb => hraw b (List.mem_cons_of_mem _ hb)⟩

/-! ## Resolving -/

/-- Frame `k` is resolved and recorded, for the first time or again. -/
theorem Tracking.resolve (h : Tracking start truth inputs used k current) {probe : PredictionProbe}
    (hprobe : probe.retainConfirmation = false) {i : ReplayFrameInputs}
    (hremote : i.remoteInput = (inputs.resolve k neutralInput probe).2.input)
    (hplayers : i.players = fun player =>
      if player = start.localPlayer then inputs.localInput k neutralInput else i.remoteInput) :
    Tracking start truth (inputs.resolve k neutralInput probe).1 (used.insert k i) (k + 1)
      (max current (k + 1)) := by
  constructor
  · intro g u hg hu
    unfold remoteOf at hu
    rw [getElem?_insert_eq] at hu
    by_cases hkg : k = g
    · subst hkg
      rw [if_pos rfl, Option.map_some, Option.some.injEq] at hu
      rw [← hu, hremote]
      exact Or.inr (Runtime.tracks_resolve k neutralInput hprobe)
    · rw [if_neg hkg] at hu
      rcases h.sound g u (by omega) hu with hcov | htr
      · exact Or.inl ((Runtime.covered_resolve_iff k neutralInput hprobe).mpr hcov)
      · exact Or.inr (htr.resolve k neutralInput hprobe)
  · exact h.confirmed
  · intro p hp
    rw [Runtime.resolve_pendingRollbackFrame k neutralInput hprobe] at hp
    have hlt := h.pending p hp
    omega
  · intro f w hw
    rcases PredictionRuntime.predictions_of_resolve hprobe hw with hold | rfl
    · have hlt := h.predicted f w hold
      omega
    · omega
  · intro f r hr
    rw [getElem?_insert_eq] at hr
    split at hr
    · omega
    · have hlt := h.used_lt f r hr
      omega
  · intro f r hr
    rw [getElem?_insert_eq] at hr
    split at hr
    · next hkf =>
      subst hkf
      obtain rfl := Option.some.inj hr
      exact hplayers
    · exact h.players f r hr

/-- Recording a local input for the current frame or a later one. -/
theorem Tracking.recordLocal (h : Tracking start truth inputs used k current) {frame : Nat}
    (hframe : current ≤ frame) (polled : InputState) :
    Tracking start truth { inputs with
      localInputs := inputs.localInputs.insert frame polled } used k
      current := by
  refine { h with players := ?_, sound := h.sound, confirmed := h.confirmed }
  intro f i hf
  have hlt := h.used_lt f i hf
  unfold Runtime.localInput
  dsimp only
  rw [getElem?_insert_eq, if_neg (by omega)]
  exact h.players f i hf

theorem Tracking.prunePredictions (h : Tracking start truth inputs used k current)
    (currentFrame window : Nat) :
    Tracking start truth (inputs.prunePredictions currentFrame window) used k current := by
  refine { h with sound := ?_, confirmed := h.confirmed, predicted := ?_ }
  · intro g u hg hu
    rcases h.sound g u hg hu with hcov | htr
    · exact Or.inl hcov
    · exact Or.inr (htr.prunePredictions _ _)
  · intro f w hw
    exact h.predicted f w (PredictionRuntime.predictions_of_prune hw)

/-- The history of a correction is resolved frame by frame. -/
theorem Tracking.resolveHistory (h : Tracking start truth inputs used k current)
    (hprobe : (replayProbe start.config).retainConfirmation = false) {m : Nat}
    {inputs' : InputTimeline.Runtime} {history : List (Nat × ReplayFrameInputs)}
    (hresolve : RomLoop.resolveHistory start (List.range' k m) inputs = (inputs', some history)) :
    Tracking start truth inputs' (recordHistory used history) (k + m) (max current (k + m)) := by
  induction m generalizing inputs used k current history with
  | zero =>
    unfold RomLoop.resolveHistory at hresolve
    obtain ⟨rfl, hhistory⟩ := Prod.mk.inj hresolve
    obtain rfl := Option.some.inj hhistory
    exact { h with
      pending :=
        fun p hp => ⟨(h.pending p hp).1, lt_of_lt_of_le (h.pending p hp).2 (le_max_left _ _)⟩
      predicted := fun f w hw => lt_of_lt_of_le (h.predicted f w hw) (le_max_left _ _)
      used_lt := fun f i hi => lt_of_lt_of_le (h.used_lt f i hi) (le_max_left _ _) }
  | succ m ih =>
    rw [List.range'_succ] at hresolve
    unfold RomLoop.resolveHistory at hresolve
    rw [resolveReplayFrameInputs_eq] at hresolve
    dsimp only at hresolve
    split at hresolve
    · exact absurd (Prod.mk.inj hresolve).2 (by simp)
    · next inputs'' history' heq =>
      obtain ⟨rfl, hhistory⟩ := Prod.mk.inj hresolve
      obtain rfl := Option.some.inj hhistory
      let remote := (inputs.resolve k neutralInput (replayProbe start.config)).2
      let resolved : ReplayFrameInputs := {
        localInput := inputs.localInput k neutralInput
        remoteInput := remote.input
        players := fun player =>
          if player = start.localPlayer then inputs.localInput k neutralInput else remote.input
        remotePredicted := remote.predicted }
      have hremote : resolved.remoteInput = remote.input := rfl
      have hstep := h.resolve hprobe hremote rfl
      have htrack := ih hstep heq
      rw [show max (max current (k + 1)) (k + 1 + m) = max current (k + (m + 1)) by omega,
        show k + 1 + m = k + (m + 1) by omega] at htrack
      exact htrack

theorem resolveHistory_pendingRollbackFrame (start : Started) (frames : List Nat)
    (inputs : InputTimeline.Runtime) :
    (RomLoop.resolveHistory start frames inputs).1.rollbackInputs.pendingRollbackFrame =
      inputs.rollbackInputs.pendingRollbackFrame := by
  induction frames generalizing inputs with
  | nil => rfl
  | cons frame frames ih =>
    have hprobe : (replayProbe start.config).retainConfirmation = false := rfl
    have hrest := ih (inputs.resolve frame neutralInput (replayProbe start.config)).1
    rw [Runtime.resolve_pendingRollbackFrame frame neutralInput hprobe] at hrest
    unfold RomLoop.resolveHistory
    rw [resolveReplayFrameInputs_eq, ← hrest]
    dsimp only
    split
    · next heq => rw [heq]
    · next heq => rw [heq]

/-- Taking up the pending rollback: no frame before it was covered by it. -/
theorem Tracking.clear (h : Tracking start truth inputs used k current) {p : Nat}
    (hp : inputs.rollbackInputs.pendingRollbackFrame = some p) (hpk : p ≤ k) :
    Tracking start truth inputs.clearPendingRollback used p current := by
  refine { h with sound := ?_, confirmed := h.confirmed, pending := ?_ }
  · intro g u hg hu
    rcases h.sound g u (by omega) hu with ⟨q, hq, hle⟩ | htr
    · rw [hp] at hq
      obtain rfl := Option.some.inj hq
      omega
    · exact Or.inr (Runtime.tracks_clearPendingRollback_iff.mpr htr)
  · intro q hq
    exact absurd hq (by simp [Runtime.clearPendingRollback, PredictionRuntime.clearPendingRollback])

/-! ## Up to the plan -/

/-- Every input that arrives during the frame is that of `truth`. -/
structure FrameEvent.ConfirmedBy (truth : Nat → InputState) (event : FrameEvent) : Prop where
  pumped : ∀ a ∈ event.pumped, a.1.input = truth a.1.frame
  beforePlan : ∀ a ∈ event.beforePlan, a.input = truth a.frame
  beforeArm : ∀ a ∈ event.beforeArm, a.input = truth a.frame
  beforeEnd : ∀ a ∈ event.beforeEnd, a.input = truth a.frame

theorem predictionProbe_retainConfirmation (hactive : Active start.config) :
    (predictionProbe start.config).retainConfirmation = false := by
  simp [predictionProbe, hactive.probe_off]

/-- What the main thread has received before `Resolve`. -/
theorem Tracking.pumped {s : Session S} (hactive : Active start.config)
    (h : Tracking start truth s.inputs s.used (s.frame start) (s.frame start)) {event : FrameEvent}
    (htrue : event.ConfirmedBy truth)
    (hharmless : HarmlessPumps start s.rawFrame
      (saveCheckpointIfNeeded start s (s.frame start)).inputs event.pumped) :
    Tracking start truth (pumpedSession start s event).inputs s.used (s.frame start)
      (s.frame start) := by
  have hepoch : start.sharedLogicalEpoch ≤ s.frame start := Nat.le_add_right _ _
  obtain ⟨inputs, heq, hinputs⟩ := saveCheckpointIfNeeded_eq hactive s hepoch
  rw [heq] at hharmless
  have hpruned : Tracking start truth inputs s.used (s.frame start) (s.frame start) := by
    rcases hinputs with rfl | rfl
    · exact h
    · exact h.prunePredictions _ _
  unfold pumpedSession
  dsimp only
  rw [heq]
  exact hpruned.pumps hactive.enabled htrue.pumped hharmless

/-- When `ResimulateIfNeeded` looks, the frame itself is on record too. -/
theorem Tracking.planned {s : Session S} (hactive : Active start.config) {event : FrameEvent}
    (h : Tracking start truth (pumpedSession start s event).inputs s.used (s.frame start)
      (s.frame start)) (htrue : event.ConfirmedBy truth) :
    Tracking start truth (plannedSession start s event).inputs (plannedSession start s event).used
      (s.frame start + 1) (s.frame start + 1) := by
  have hused : (pumpedSession start s event).used = s.used := by
    have hepoch : start.sharedLogicalEpoch ≤ s.frame start := Nat.le_add_right _ _
    obtain ⟨inputs, heq, -⟩ := saveCheckpointIfNeeded_eq hactive s hepoch
    unfold pumpedSession
    dsimp only
    rw [heq]
  unfold plannedSession writeScratch
  dsimp only
  rw [hused]
  refine Tracking.pumpThread ?_ hactive.enabled htrue.beforePlan
  have hlocal := h.recordLocal (Nat.le_add_right (s.frame start) start.delay) event.polled
  have hresolved := hlocal.resolve (predictionProbe_retainConfirmation hactive)
    (i := (resolveLiveInputs start.context start.delay (pumpedSession start s event).inputs
      (s.frame start) event.polled).2) rfl rfl
  rw [Nat.max_eq_right (Nat.le_succ _)] at hresolved
  exact hresolved

/-! ## The plan and the correction -/

/-- What a plan of the ROM-loop backend says about the pending rollback. -/
theorem planResimulation_romLoop {config : RollbackConfig} (hbackend : config.backend = .romLoop)
    {p : PredictionRuntime} {frame m : Nat} (h : planResimulation config p frame = .resimulate m) :
    ∃ pending, p.pendingRollbackFrame = some pending ∧ pending < frame ∧
      (0 < config.predictionHorizonFrames →
        frame - pending ≤ config.predictionHorizonFrames.toNat) ∧
      (frame - pending ≤ romLoopMaxRollbackDepth → m = pending) := by
  unfold planResimulation at h
  cases hp : p.pendingRollbackFrame with
  | none =>
    rw [hp] at h
    exact absurd h (by simp)
  | some pending =>
    rw [hp] at h
    simp only [hbackend, decide_true, true_and, if_true] at h
    split_ifs at h with h1 h2 h3 h4 h5
    · cases h
      exact ⟨_, rfl, by omega, fun hpos => by omega, fun _ => rfl⟩
    · cases h
      refine ⟨pending, rfl, by omega, fun hpos => absurd hpos h5, fun hdepth => ?_⟩
      unfold clampResimulationMismatch romLoopMaxRollbackDepth at *
      rw [if_neg (by omega)]
      dsimp only
      rw [if_neg (by omega)]

theorem planResimulation_consume {config : RollbackConfig} {p : PredictionRuntime} {frame : Nat}
    (h : planResimulation config p frame = .consume) : p.pendingRollbackFrame = some frame := by
  unfold planResimulation at h
  cases hp : p.pendingRollbackFrame with
  | none =>
    rw [hp] at h
    exact absurd h (by simp)
  | some pending =>
    rw [hp] at h
    dsimp only at h
    split_ifs at h with h1
    rw [h1]

/-- A correction from the pending frame can be armed: its checkpoint is in the ring. -/
theorem canArm_of_ready {play : Playthrough S (Fin 2 → InputState)}
    {nds : Nds S (Fin 2 → InputState)} {n p : Nat} (h : Ready play nds n) (hcounts : play.Counts)
    (hgame : play.guest.gameFrame play.initial ≠ kNoFrame) (hmagic : nds.history.magic = true)
    (hepoch : 0 < play.epoch) (hn : n < u32Max) (hp : play.epoch ≤ p) (hpn : p < n)
    (hdepth : n - p ≤ romLoopMaxRollbackDepth) :
    ∃ checkpoint image, nds.copyCheckpointAtOrBefore p = some checkpoint ∧
      checkpoint.mainRAM = some image ∧ checkpoint.displayFrame = p ∧ CanArm nds checkpoint n := by
  unfold romLoopMaxRollbackDepth at hdepth
  obtain ⟨held, hholds, hheld, hcomplete⟩ := h.rings
  obtain ⟨checkpoint, hmem, rfl⟩ := hcomplete hcounts p (by unfold oldestFrame capacity; omega) hpn
  have hcount := requiredHistoryCount_eq (Nat.le_of_lt hpn) hn (Nat.lt_of_lt_of_le hepoch hp)
  refine ⟨checkpoint, _, hholds.copy_eq hmem, (hheld checkpoint hmem).1.mainRAM_eq, rfl, ?_⟩
  constructor
  · omega
  · unfold historyCapacity
    omega
  · rw [(hheld checkpoint hmem).1.gameFrame_eq, hcounts.gameFrame_stateAt (Nat.le_refl _) hp]
    unfold Playthrough.stateAt
    rw [Run.stateAt_self]
    unfold kNoFrame at hgame ⊢
    omega
  · exact hmagic

/-- An armed correction resolves the frames from its checkpoint on again. -/
theorem Tracking.armCorrection {s : Session S} {checkpoint : GameRAMCheckpoint S}
    {image : S} {n : Nat} (h : Tracking start truth s.inputs s.used checkpoint.displayFrame (n + 1))
    (hflight : s.nds.isRollbackTransactionInFlight = false)
    (himage : checkpoint.mainRAM = some image) (hcan : CanArm s.nds checkpoint n)
    (hcount : requiredHistoryCount checkpoint.displayFrame n = n + 1 - checkpoint.displayFrame)
    (hle : checkpoint.displayFrame ≤ n) :
    Tracking start truth (armCorrection start s checkpoint n).inputs
      (armCorrection start s checkpoint n).used (n + 1) (n + 1) := by
  obtain ⟨inputs, history, hresolve, -⟩ := exists_resolveHistory_eq start
    (List.range' checkpoint.displayFrame (requiredHistoryCount checkpoint.displayFrame n)) s.inputs
  rw [armCorrection_of_canArm hflight himage hcan hresolve]
  rw [hcount] at hresolve
  have hreplayed := h.resolveHistory rfl hresolve
  rw [show checkpoint.displayFrame + (n + 1 - checkpoint.displayFrame) = n + 1 by omega,
    Nat.max_self] at hreplayed
  exact hreplayed

/-- What a correction needs of the plan: the pending rollback is not of the current frame, and not
deeper than the history reaches. -/
structure Planned (start : Started) (p : PredictionRuntime) (frame : Nat) : Prop where
  not_current : planResimulation start.config p frame ≠ .consume
  depth_le : ∀ m, planResimulation start.config p frame = .resimulate m →
    p.pendingRollbackFrame = some m ∧ frame - m ≤ romLoopMaxRollbackDepth

/-- The guest that the corrections rely on. -/
structure Reliable (guest : Guest S (Fin 2 → InputState)) (initial : S) : Prop where
  /-- Every tick counts the game's frame counter up by one. -/
  counts : ∀ s p, guest.gameFrame (guest.tick s p) = guest.gameFrame s + 1
  gameFrame_ne : guest.gameFrame initial ≠ kNoFrame

/-- A frame keeps the record and the timeline in agreement. -/
theorem Inv.tracking {initial : S} {s r : Session S} (h : Inv guest start initial true s)
    (hactive : Active start.config) (hreliable : Reliable guest initial) {event : FrameEvent}
    (hn : s.frame start < u32Max) (htrue : event.ConfirmedBy truth)
    (htrack : Tracking start truth (plannedSession start s event).inputs
      (plannedSession start s event).used (s.frame start + 1) (s.frame start + 1))
    (hplanned : Planned start (plannedSession start s event).inputs.rollbackInputs (s.frame start))
    (hr : Resimulated start (plannedSession start s event) (s.frame start) event.beforeArm r) :
    Tracking start truth r.inputs r.used (s.frame start + 1) (s.frame start + 1) := by
  obtain ⟨hready, -, hmagic, -, -⟩ := h.planned hactive event
  generalize plannedSession start s event = planned at *
  cases hr with
  | busy | wait => exact htrack.pumpThread hactive.enabled htrue.beforeArm
  | consume hplan => exact absurd hplan hplanned.not_current
  | missing m hplan hcopy =>
    obtain ⟨hpending, hdepth⟩ := hplanned.depth_le m hplan
    obtain ⟨hepoch, -⟩ := htrack.pending m hpending
    obtain ⟨q, hq, hlt, -⟩ := planResimulation_romLoop hactive.backend hplan
    obtain rfl : m = q := Option.some.inj (hpending.symm.trans hq)
    obtain ⟨checkpoint, image, hfound, -⟩ := canArm_of_ready hready hreliable.counts
      hreliable.gameFrame_ne hmagic start.epoch_pos hn hepoch hlt hdepth
    rw [hcopy] at hfound
    exact absurd hfound (by simp)
  | correct m checkpoint hflight hplan hcopy =>
    obtain ⟨hpending, hdepth⟩ := hplanned.depth_le m hplan
    obtain ⟨hepoch, -⟩ := htrack.pending m hpending
    obtain ⟨q, hq, hlt, -⟩ := planResimulation_romLoop hactive.backend hplan
    obtain rfl : m = q := Option.some.inj (hpending.symm.trans hq)
    obtain ⟨found, image, hfound, himage, hlabel, hcan⟩ := canArm_of_ready hready hreliable.counts
      hreliable.gameFrame_ne hmagic start.epoch_pos hn hepoch hlt hdepth
    obtain rfl : found = checkpoint := Option.some.inj (hfound.symm.trans hcopy)
    subst hlabel
    -- the rollback is taken up, more may arrive, and then its frames are resolved again
    have hcleared := (htrack.clear hpending (Nat.le_succ_of_le (Nat.le_of_lt hlt))).pumpThread
      hactive.enabled htrue.beforeArm
    have hcount := requiredHistoryCount_eq (Nat.le_of_lt hlt) hn
      (Nat.lt_of_lt_of_le start.epoch_pos hepoch)
    refine Tracking.armCorrection ?_ ?_ himage ?_ hcount (Nat.le_of_lt hlt)
    · exact hcleared
    · exact hflight
    · exact hcan

end Bigstar.Netplay.RomLoop
