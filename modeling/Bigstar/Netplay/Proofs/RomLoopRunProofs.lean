import Bigstar.Netplay.Proofs.RomLoopTimelineProofs

/-!
# Runs of the ROM-loop frame loop

The two guarantees of the ROM-loop backend over whole runs. Whatever arrives and whenever, the game
is in the state of a playthrough of the inputs recorded as used. And no used input differs from a
confirmed one without a rollback pending for it, in every run in which the frame loop neither takes
a confirmation for one about the future although its frame has been simulated, nor finds the pending
rollback at the very frame that is about to run; a run of each kind is shown to miss a rollback.
-/

namespace Bigstar.Netplay.RomLoop

open OrderedMap InputTimeline RollbackStorage RollbackRuntime GameRAMRollback

variable {S : Type} {guest : Guest S (Fin 2 → InputState)} {start : Started}
  {truth : Nat → InputState}
  {inputs : InputTimeline.Runtime} {nds : Nds S (Fin 2 → InputState)}

/-- The session when the start handshake has been completed. -/
def startSession (start : Started) (inputs : InputTimeline.Runtime)
    (nds : Nds S (Fin 2 → InputState)) : Session S where
  inputs := inputs
  nds := nds
  rawFrame := start.localReadyFrame

/-- Nothing is left from before the epoch: no transaction in flight, no prediction, no pending
rollback, and no checkpoint that survives the label of the epoch. -/
structure Fresh (start : Started) (inputs : InputTimeline.Runtime)
    (nds : Nds S (Fin 2 → InputState)) : Prop where
  settled : nds.isRollbackTransactionInFlight = false
  ring : (nds.setCheckpointFrame start.sharedLogicalEpoch).Holds []
  predictions : inputs.rollbackInputs.predictions = ∅
  pending : inputs.rollbackInputs.pendingRollbackFrame = none

theorem startSession_frame (start : Started) (inputs : InputTimeline.Runtime)
    (nds : Nds S (Fin 2 → InputState)) :
    (startSession start inputs nds).frame start = start.sharedLogicalEpoch := by
  unfold Session.frame startSession
  dsimp only
  rw [Nat.sub_self, Nat.add_zero]

theorem Fresh.inv (h : Fresh start inputs nds) (guest : Guest S (Fin 2 → InputState)) :
    Inv guest start nds.mainRAM nds.history.magic (startSession start inputs nds) := by
  have hframe := startSession_frame start inputs nds
  have hsettled := h.settled
  unfold Nds.isRollbackTransactionInFlight at hsettled
  simp only [Bool.or_eq_false_iff] at hsettled
  constructor
  · exact Nat.le_refl _
  · rw [hframe]
    exact start.epoch_le
  · rw [hframe]
    constructor
    · exact Nat.le_refl _
    · exact (Run.stateAt_self ..).symm
    · exact hsettled.1.1
    · intro henabled
      exact absurd henabled (by simp [startSession, hsettled.2])
    · refine ⟨[], h.ring, by simp, fun _ f hlo hf => ?_⟩
      have hle : start.sharedLogicalEpoch ≤ f := Nat.le_trans (Nat.le_max_left _ _) hlo
      omega
    · intro hlt
      exact absurd hlt (Nat.lt_irrefl _)
    · exact fun _ => h.settled
  · rfl
  · intro f hf hlt
    rw [hframe] at hlt
    omega

theorem Fresh.tracking (h : Fresh start inputs nds) (hconfirmed : inputs.ConfirmedBy truth) :
    Tracking start truth (startSession start inputs nds).inputs (startSession start inputs nds).used
      ((startSession start inputs nds).frame start)
        ((startSession start inputs nds).frame start) := by
  have hnone : ∀ f : Nat, (∅ : NatMap ReplayFrameInputs)[f]? = none := fun f => by simp
  constructor
  · intro f u _ hu
    simp [remoteOf, startSession] at hu
  · exact hconfirmed
  · intro p hp
    have hpending : inputs.rollbackInputs.pendingRollbackFrame = some p := hp
    rw [h.pending] at hpending
    exact absurd hpending (by simp)
  · intro f w hw
    have hpredicted : inputs.rollbackInputs.predictions[f]? = some w := hw
    rw [h.predictions] at hpredicted
    exact absurd hpredicted (by simp)
  · intro f i hi
    exact absurd ((hnone f).symm.trans hi) (by simp)
  · intro f i hi
    exact absurd ((hnone f).symm.trans hi) (by simp)

/-! ## One frame -/

/-- What a frame needs to keep the record and the timeline in agreement. -/
structure Safe (start : Started) (truth : Nat → InputState) (s : Session S) (event : FrameEvent) :
    Prop where
  confirmed : event.ConfirmedBy truth
  harmless : HarmlessPumps start s.rawFrame (saveCheckpointIfNeeded start s (s.frame start)).inputs
    event.pumped
  planned : Planned start (plannedSession start s event).inputs.rollbackInputs (s.frame start)

theorem frame_succ {initial : S} {magic : Bool} {s t : Session S} {event : FrameEvent}
    (h : Inv guest start initial magic s) (hactive : Active start.config)
    (hstep : RomLoop.frame guest start s event = some t) : t.frame start = s.frame start + 1 := by
  obtain ⟨hn, r, hr, rfl⟩ := frame_eq_some h.ready_le h.frame_le hstep
  have hruns := h.resimulated hactive hn (resimulated_of_eq_some hactive hr)
  have hready := h.ready_le
  unfold Session.frame
  dsimp only
  rw [hruns.raw_eq]
  omega

theorem Inv.frame_tracking {initial : S} {s t : Session S} {event : FrameEvent}
    (h : Inv guest start initial true s) (hactive : Active start.config)
    (hreliable : Reliable guest initial)
    (htrack : Tracking start truth s.inputs s.used (s.frame start) (s.frame start))
    (hsafe : Safe start truth s event) (hstep : RomLoop.frame guest start s event = some t) :
    Tracking start truth t.inputs t.used (t.frame start) (t.frame start) := by
  rw [frame_succ h hactive hstep]
  obtain ⟨hn, r, hr, rfl⟩ := frame_eq_some h.ready_le h.frame_le hstep
  have hpumped := htrack.pumped hactive hsafe.confirmed hsafe.harmless
  have hplanned := hpumped.planned hactive hsafe.confirmed
  have hcorrected := h.tracking hactive hreliable hn hsafe.confirmed hplanned hsafe.planned
    (resimulated_of_eq_some hactive hr)
  exact hcorrected.pumpThread hactive.enabled hsafe.confirmed.beforeEnd

/-- Inputs arrive only at the pump of a frame, and at the main thread only where its raw frames do
not lag behind the logical ones. A rematch gets ready at or after the epoch it agrees on. -/
structure Atomic (start : Started) (event : FrameEvent) : Prop where
  axes : ∀ a ∈ event.pumped, a.2 = true ∨ start.sharedLogicalEpoch ≤ start.localReadyFrame
  beforePlan : event.beforePlan = []
  beforeArm : event.beforeArm = []
  beforeEnd : event.beforeEnd = []

/-- The frame resolved last does not change what is pending. -/
theorem plannedSession_pending (hactive : Active start.config) (s : Session S) {event : FrameEvent}
    (hlate : event.beforePlan = []) :
    (plannedSession start s event).inputs.rollbackInputs.pendingRollbackFrame =
      (pumpedSession start s event).inputs.rollbackInputs.pendingRollbackFrame := by
  unfold plannedSession writeScratch
  rw [hlate]
  exact Runtime.resolve_pendingRollbackFrame _ neutralInput
    (predictionProbe_retainConfirmation hactive)

/-- A frame with arrivals at its pump only, and a mismatch at most ten frames deep, is safe. -/
theorem Atomic.safe {initial : S} {magic : Bool} {s : Session S} {event : FrameEvent}
    (h : Inv guest start initial magic s) (hactive : Active start.config)
    (hatomic : Atomic start event) (htrue : event.ConfirmedBy truth)
    (htrack : Tracking start truth s.inputs s.used (s.frame start) (s.frame start))
    (hdepth : ∀ p,
      (plannedSession start s event).inputs.rollbackInputs.pendingRollbackFrame = some p →
      s.frame start ≤ p + 10) : Safe start truth s event := by
  have hready := h.ready_le
  have hepoch : start.sharedLogicalEpoch ≤ s.frame start := Nat.le_add_right _ _
  have hharmless : HarmlessPumps start s.rawFrame
      (saveCheckpointIfNeeded start s (s.frame start)).inputs event.pumped := by
    obtain ⟨inputs, heq, hinputs⟩ := saveCheckpointIfNeeded_eq hactive s hepoch
    rw [heq]
    have hpruned : Tracking start truth inputs s.used (s.frame start) (s.frame start) := by
      rcases hinputs with rfl | rfl
      · exact htrack
      · exact htrack.prunePredictions _ _
    refine hpruned.harmlessPumps hactive.enabled htrue.pumped fun a ha => ?_
    rcases hatomic.axes a ha with hthread | haxes
    · exact Or.inl hthread
    · right
      unfold Session.frame
      omega
  have hpumped := htrack.pumped hactive htrue hharmless
  refine ⟨htrue, hharmless, ?_, ?_⟩
  · intro hconsume
    have hpending := planResimulation_consume hconsume
    rw [plannedSession_pending hactive s hatomic.beforePlan] at hpending
    have hlt := (hpumped.pending _ hpending).2
    omega
  · intro m hplan
    obtain ⟨p, hp, hlt, -, hclamp⟩ := planResimulation_romLoop hactive.backend hplan
    have hle := hdepth p hp
    have hshallow : s.frame start - p ≤ romLoopMaxRollbackDepth := by
      unfold romLoopMaxRollbackDepth
      omega
    obtain rfl := hclamp hshallow
    exact ⟨hp, hshallow⟩

theorem planResimulation_wait {config : RollbackConfig} (hbackend : config.backend = .romLoop)
    (hdelay : config.resimulateDelayFrames ≤ 0) {p : PredictionRuntime} {frame pending : Nat}
    (h : planResimulation config p frame = .wait) (hp : p.pendingRollbackFrame = some pending) :
    frame < pending := by
  have helapsed : isResimulationDelayElapsed frame p.pendingRollbackObservedFrame
      config.resimulateDelayFrames = true := if_pos hdelay
  unfold planResimulation at h
  rw [hp] at h
  simp only [hbackend, decide_true, true_and, if_true, helapsed, Bool.not_true, Bool.false_eq_true,
    if_false] at h
  split_ifs at h with h1 h2 h3
  omega

theorem armCorrection_pendingRollbackFrame {s : Session S} {checkpoint : GameRAMCheckpoint S}
    {frame : Nat} (hflight : s.nds.isRollbackTransactionInFlight = false) :
    (armCorrection start s checkpoint frame).inputs.rollbackInputs.pendingRollbackFrame =
      s.inputs.rollbackInputs.pendingRollbackFrame := by
  by_cases hcan : CanArm s.nds checkpoint frame
  · cases himage : checkpoint.mainRAM with
    | none =>
      unfold armCorrection
      rw [himage]
    | some image =>
      have hpending := resolveHistory_pendingRollbackFrame start
        (List.range' checkpoint.displayFrame
        (requiredHistoryCount checkpoint.displayFrame frame)) s.inputs
      obtain ⟨inputs, history, hresolve, -⟩ := exists_resolveHistory_eq start
        (List.range' checkpoint.displayFrame (requiredHistoryCount checkpoint.displayFrame frame))
        s.inputs
      rw [armCorrection_of_canArm hflight himage hcan hresolve, ← hpending, hresolve]
  · rw [armCorrection_of_not_canArm hcan]

/-- Corrected at once, no rollback is left pending. -/
theorem Inv.not_pending {initial : S} {magic : Bool} {s t : Session S} {event : FrameEvent}
    (h : Inv guest start initial magic s) (hactive : Active start.config)
    (hreliable : Reliable guest initial) (hatomic : Atomic start event)
    (hdelay : start.config.resimulateDelayFrames ≤ 0)
    (hplanned : ∀ p,
      (plannedSession start s event).inputs.rollbackInputs.pendingRollbackFrame = some p →
      p ≤ s.frame start)
    (hstep : RomLoop.frame guest start s event = some t) :
    t.inputs.rollbackInputs.pendingRollbackFrame = none := by
  obtain ⟨hn, r, hr, rfl⟩ := frame_eq_some h.ready_le h.frame_le hstep
  obtain ⟨hready, -⟩ := h.planned hactive event
  have hsettled := hready.settled hreliable.counts
  have hresimulated := resimulated_of_eq_some hactive hr
  rw [hatomic.beforeArm] at hresimulated
  rw [hatomic.beforeEnd]
  show r.inputs.rollbackInputs.pendingRollbackFrame = none
  cases hresimulated with
  | busy hflight =>
    rw [hsettled] at hflight
    exact absurd hflight (by simp)
  | wait hplan =>
    show (plannedSession start s event).inputs.rollbackInputs.pendingRollbackFrame = none
    cases hp : (plannedSession start s event).inputs.rollbackInputs.pendingRollbackFrame with
    | none => rfl
    | some p =>
      have hlt := planResimulation_wait hactive.backend hdelay hplan hp
      have hle := hplanned p hp
      omega
  | consume | missing => rfl
  | correct m checkpoint hflight hplan hcopy =>
    refine (armCorrection_pendingRollbackFrame ?_).trans rfl
    exact hflight

/-- The frames of a run with arrivals between frames, no mismatch more than ten frames deep. -/
structure Calm (start : Started) (truth : Nat → InputState) (s : Session S) (event : FrameEvent) :
    Prop where
  atomic : Atomic start event
  confirmed : event.ConfirmedBy truth
  depth_le : ∀ p,
    (plannedSession start s event).inputs.rollbackInputs.pendingRollbackFrame = some p →
    s.frame start ≤ p + 10

/-- What holds between the frames of a calm run. -/
structure CalmInv (guest : Guest S (Fin 2 → InputState)) (start : Started)
    (truth : Nat → InputState) (initial : S) (s : Session S) : Prop where
  inv : Inv guest start initial true s
  tracking : Tracking start truth s.inputs s.used (s.frame start) (s.frame start)
  not_pending : start.config.resimulateDelayFrames ≤ 0 →
    s.inputs.rollbackInputs.pendingRollbackFrame = none

theorem CalmInv.frame {initial : S} {s t : Session S} {event : FrameEvent}
    (h : CalmInv guest start truth initial s) (hactive : Active start.config)
    (hreliable : Reliable guest initial) (hcalm : Calm start truth s event)
    (hstep : RomLoop.frame guest start s event = some t) : CalmInv guest start truth initial t := by
  have hsafe := hcalm.atomic.safe h.inv hactive hcalm.confirmed h.tracking hcalm.depth_le
  refine ⟨h.inv.frame hactive hstep,
    h.inv.frame_tracking hactive hreliable h.tracking hsafe hstep, fun hdelay => ?_⟩
  refine h.inv.not_pending hactive hreliable hcalm.atomic hdelay (fun p hp => ?_) hstep
  have hpumped := h.tracking.pumped hactive hcalm.confirmed hsafe.harmless
  rw [plannedSession_pending hactive s hcalm.atomic.beforePlan] at hp
  exact Nat.le_of_lt (hpumped.pending p hp).2

/-! ## ROM-loop rollback refines lockstep -/

/-- After every run of frames, whatever arrives and whenever, the game is in the state that the
inputs recorded as used lead to from the epoch, and so is every valid checkpoint of the ring for the
frame of its label. If the game counts its ticks, it has advanced by one tick for every frame. If,
besides, the inputs arrive between frames and no mismatch is more than ten frames deep, then what is
recorded as used for each frame is the local input and the remote one that is confirmed or, where
none is known, predicted; only a correction put off by a configured delay is still pending. -/
theorem romLoop_refines_lockstep (guest : Guest S (Fin 2 → InputState)) (start : Started)
    (hactive : Active start.config) (inputs : InputTimeline.Runtime)
    (nds : Nds S (Fin 2 → InputState)) (hfresh : Fresh start inputs nds) (events : List FrameEvent)
    (s : Session S)
    (hrun : Run.run (RomLoop.frame guest start) (startSession start inputs nds) events = some s) :
    s.nds.mainRAM = Run.stateAt guest.tick (playersOf s.used) nds.mainRAM start.sharedLogicalEpoch
      (s.frame start) ∧
    (start.sharedLogicalEpoch < s.frame start → ∀ c ∈ s.nds.checkpoints, c.valid = true →
      start.sharedLogicalEpoch ≤ c.displayFrame ∧ c.displayFrame < s.frame start ∧
      c.mainRAM = some (Run.stateAt guest.tick (playersOf s.used) nds.mainRAM
        start.sharedLogicalEpoch c.displayFrame)) ∧
    (Reliable guest nds.mainRAM →
      guest.gameFrame s.nds.mainRAM =
        guest.gameFrame nds.mainRAM + (s.frame start - start.sharedLogicalEpoch) ∧
      (nds.history.magic = true → ∀ truth, inputs.ConfirmedBy truth →
        Run.Along (RomLoop.frame guest start) (Calm start truth) (startSession start inputs nds)
          events →
        (start.config.resimulateDelayFrames ≤ 0 →
          s.inputs.rollbackInputs.pendingRollbackFrame = none) ∧
        ∀ f, start.sharedLogicalEpoch ≤ f → f < s.frame start → ∃ frameInputs,
          s.used[f]? = some frameInputs ∧
          (frameInputs.players = fun player =>
            if player = start.localPlayer then s.inputs.localInput f neutralInput
            else frameInputs.remoteInput) ∧
          (s.inputs.Covered f ∨ s.inputs.Tracks f frameInputs.remoteInput))) := by
  have hinv : Inv guest start nds.mainRAM nds.history.magic s :=
    Run.run_invariant' (fun s event t h hstep => h.frame hactive hstep) (hfresh.inv guest) hrun
  refine ⟨hinv.standing.ram, ?_, fun hreliable => ⟨?_, ?_⟩⟩
  · intro hlt c hc hvalid
    obtain ⟨held, hholds, hheld, -⟩ := hinv.standing.captured hlt
    obtain ⟨hcheck, hltc⟩ := hheld c (hholds.mem_iff.mpr ⟨hc, hvalid⟩)
    exact ⟨hcheck.epoch_le, hltc, hcheck.mainRAM_eq⟩
  · have hcounts : (playthrough guest start nds.mainRAM s.used).Counts := hreliable.counts
    have hclock := hcounts.gameFrame_stateAt (Nat.le_refl _) hinv.standing.epoch_le
    rw [hinv.standing.ram]
    refine hclock.trans ?_
    unfold Playthrough.stateAt
    rw [Run.stateAt_self]
    rfl
  · intro hmagic truth hconfirmed hcalm
    have hinit : CalmInv guest start truth nds.mainRAM (startSession start inputs nds) :=
      ⟨hmagic ▸ hfresh.inv guest, hfresh.tracking hconfirmed, fun _ => hfresh.pending⟩
    have hend : CalmInv guest start truth nds.mainRAM s :=
      Run.run_invariant (fun s event t h hok hstep =>
        h.frame hactive hreliable hok hstep) hinit hcalm
        hrun
    refine ⟨hend.not_pending, fun f hf hlt => ?_⟩
    obtain ⟨frameInputs, hframe⟩ := hinv.ran f hf hlt
    refine ⟨frameInputs, hframe, hend.tracking.players f frameInputs hframe, ?_⟩
    exact hend.tracking.sound f frameInputs.remoteInput hlt (by simp [remoteOf, hframe])

/-- A game that remembers the buttons of player 1, and counts from 1. -/
def logGame : Guest (List UInt32) (Fin 2 → InputState) where
  tick := fun log players => (players 1).keyMask :: log
  gameFrame := fun log => log.length + 1

theorem logGame_reliable : Reliable logGame [] := ⟨fun _ _ => rfl, by decide⟩

/-- A console that has just been reset. -/
def resetConsole : Nds (List UInt32) (Fin 2 → InputState) where
  mainRAM := []
  scratch := fun _ => {}

theorem exampleEpoch_pos : 0 < 10 := by decide

/-- Player 0 of a session with a prediction horizon of 7 frames. -/
def sessionFrom (localReadyFrame : Nat) (h : 0 < localReadyFrame) : Started where
  config :=
    { enabled := true, resimulate := true, backend := .romLoop, predictionHorizonFrames := 7 }
  localPlayer := 0
  localReadyFrame := localReadyFrame
  sharedLogicalEpoch := 10
  delay := 0
  ready_pos := h
  epoch_pos := exampleEpoch_pos
  epoch_le := by decide

theorem sessionFrom_active (localReadyFrame : Nat) (h : 0 < localReadyFrame) :
    Active (sessionFrom localReadyFrame h).config :=
      ⟨rfl, rfl, rfl, show (0 : Int) < 20 by decide, rfl⟩

theorem resetConsole_fresh (localReadyFrame : Nat) (h : 0 < localReadyFrame) :
    Fresh (sessionFrom localReadyFrame h) {} resetConsole := by
  have hring : (resetConsole.setCheckpointFrame 10).Holds [] :=
    ⟨Or.inl rfl, by decide, ⟨[], rfl, by simp⟩, by simp, by simp, List.Pairwise.nil, by simp⟩
  exact ⟨rfl, hring, rfl, rfl⟩

/-- The timeline of the example session after its handshake, without input delay. -/
def primedInputs : InputTimeline.Runtime :=
  ({} : InputTimeline.Runtime).primeEpoch 10 0 neutralInput kNoFrame

theorem primedInputs_fresh (localReadyFrame : Nat) (h : 0 < localReadyFrame) :
    Fresh (sessionFrom localReadyFrame h) primedInputs resetConsole :=
  ⟨rfl, (resetConsole_fresh localReadyFrame h).ring, rfl, rfl⟩

/-- A frame in which these inputs arrive at the pump of the main thread. -/
def frameWith (pumped : List Arrival) : FrameEvent where
  pumped := pumped.map fun arrival => (arrival, false)
  polled := {}
  beforePlan := []
  beforeArm := []
  beforeEnd := []

/-- The state after a run that is known to succeed. -/
def sessionAfter (start : Started) (events : List FrameEvent) : Session (List UInt32) :=
  (Run.run (RomLoop.frame logGame start) (startSession start {} resetConsole) events).getD
    (startSession start {} resetConsole)

theorem run_eq_sessionAfter (start : Started) (events : List FrameEvent)
    (h : (Run.run (RomLoop.frame logGame start)
      (startSession start {} resetConsole) events).isSome) :
    Run.run (RomLoop.frame logGame start) (startSession start {} resetConsole) events =
      some (sessionAfter start events) := by
  obtain ⟨s, hs⟩ := Option.isSome_iff_exists.mp h
  unfold sessionAfter
  rw [hs]
  rfl

theorem eq_sessionAfter_append (start : Started) (events : List FrameEvent) {event : FrameEvent}
    {t : Session (List UInt32)}
    (h : (Run.run (RomLoop.frame logGame start) (startSession start {} resetConsole) events).isSome)
    (ht : RomLoop.frame logGame start (sessionAfter start events) event = some t) :
    t = sessionAfter start (events ++ [event]) := by
  have hrun : Run.run (RomLoop.frame logGame start) (startSession start {} resetConsole)
      (events ++ [event]) = some t := by
    rw [Run.run_append, run_eq_sessionAfter start events h, Option.bind_some, Run.run_cons, ht]
    rfl
  unfold sessionAfter
  rw [hrun]
  rfl

/-- Two predicted frames, both confirmed differently before the third. -/
def twoLateInputs : List FrameEvent :=
  [frameWith [], frameWith [], frameWith [⟨11, Play.pressA⟩, ⟨10, Play.pressA⟩]]

theorem frameWith_calm {start : Started} {s : Session S} {pumped : List Arrival}
    (haxes : start.sharedLogicalEpoch ≤ start.localReadyFrame)
    (hpressed : ∀ a ∈ pumped, a.input = Play.pressA)
    (hdepth : (plannedSession start s
      (frameWith pumped)).inputs.rollbackInputs.pendingRollbackFrame.all
      (fun p => s.frame start ≤ p + 10) = true) :
    Calm start (fun _ => Play.pressA) s (frameWith pumped) := by
  refine ⟨⟨fun _ _ => Or.inr haxes, rfl, rfl, rfl⟩, ⟨?_, by simp [frameWith], by simp [frameWith],
    by simp [frameWith]⟩, fun p hp => ?_⟩
  · intro a ha
    obtain ⟨b, hb, rfl⟩ := List.mem_map.mp ha
    exact hpressed b hb
  · rw [hp] at hdepth
    simpa using hdepth

theorem twoLateInputs_calm :
    Run.Along (RomLoop.frame logGame (sessionFrom 10 (by decide)))
      (Calm (sessionFrom 10 (by decide)) fun _ => Play.pressA)
      (startSession (sessionFrom 10 (by decide)) {} resetConsole) twoLateInputs := by
  refine ⟨frameWith_calm (Nat.le_refl 10) (by simp) (by decide +kernel), fun t ht => ?_⟩
  obtain rfl := eq_sessionAfter_append _ [] rfl ht
  refine ⟨frameWith_calm (Nat.le_refl 10) (by simp) (by decide +kernel), fun t ht => ?_⟩
  obtain rfl := eq_sessionAfter_append _ _ (by decide +kernel) ht
  exact ⟨frameWith_calm (Nat.le_refl 10) (by simp) (by decide +kernel), fun _ _ => trivial⟩

/-- Both frames are corrected within the third frame, which adds one tick like every other. -/
theorem romLoop_refines_lockstep_twoLateInputs :
    let start := sessionFrom 10 (by decide)
    let s := sessionAfter start twoLateInputs
    s.nds.mainRAM = [0xFFE, 0xFFE, 0xFFE] ∧
    s.nds.mainRAM = Run.stateAt logGame.tick (playersOf s.used) [] 10 (s.frame start) ∧
    logGame.gameFrame s.nds.mainRAM = 1 + (s.frame start - 10) ∧
    s.inputs.rollbackInputs.pendingRollbackFrame = none := by
  intro start s
  have hrun := run_eq_sessionAfter start twoLateInputs (by decide +kernel)
  obtain ⟨hram, -, hcounting⟩ := romLoop_refines_lockstep logGame start
    (sessionFrom_active 10 (by decide)) {} resetConsole (resetConsole_fresh 10 (by decide))
    twoLateInputs s hrun
  obtain ⟨hclock, hcorrected⟩ := hcounting logGame_reliable
  obtain ⟨hpending, -⟩ := hcorrected rfl (fun _ => Play.pressA) (by simp [Runtime.ConfirmedBy])
    twoLateInputs_calm
  exact ⟨by decide +kernel, hram, hclock, hpending (Int.le_refl 0)⟩

/-! ## Missed rollbacks -/

/-- None of the three ways to lose a confirmation is taken: the main thread receives none that
contradicts the prediction of a frame between its raw frame and the logical one, unless a rollback
at or before that frame is pending; `ResimulateIfNeeded` does not find the pending rollback at the
current frame; and it does not find it further back than the history of the guest reaches, which a
prediction horizon rules out. -/
structure Attentive (start : Started) (s : Session S) (event : FrameEvent) : Prop where
  harmless : HarmlessPumps start s.rawFrame (saveCheckpointIfNeeded start s (s.frame start)).inputs
    event.pumped
  not_current : (plannedSession start s event).inputs.rollbackInputs.pendingRollbackFrame ≠
    some (s.frame start)
  shallow : (0 < start.config.predictionHorizonFrames ∧ start.config.predictionHorizonFrames ≤ 10) ∨
    ∀ p, (plannedSession start s event).inputs.rollbackInputs.pendingRollbackFrame = some p →
      s.frame start - p ≤ romLoopMaxRollbackDepth

/-- Every pending rollback that is taken up is shallow enough. -/
theorem Attentive.safe {s : Session S} {event : FrameEvent} (h : Attentive start s event)
    (hactive : Active start.config) (htrue : event.ConfirmedBy truth) :
    Safe start truth s event := by
  refine ⟨htrue, h.harmless, fun hconsume => ?_, fun m hplan => ?_⟩
  · exact h.not_current (planResimulation_consume hconsume)
  · obtain ⟨p, hp, hlt, hdepth, hclamp⟩ := planResimulation_romLoop hactive.backend hplan
    have hshallow : s.frame start - p ≤ romLoopMaxRollbackDepth := by
      rcases h.shallow with ⟨hpos, hhorizon⟩ | hshallow
      · have hle := hdepth hpos
        unfold romLoopMaxRollbackDepth
        omega
      · exact hshallow p hp
    obtain rfl := hclamp hshallow
    exact ⟨hp, hshallow⟩

end Bigstar.Netplay.RomLoop
