import Bigstar.Netplay.RomLoop
import Bigstar.Netplay.Proofs.GameRAMRollbackProofs
import Bigstar.Netplay.Proofs.LockstepRefinementProofs

/-!
# ROM-loop rollback refines lockstep

The game of a session is compared with a playthrough of the inputs recorded as used. The first part
needs nothing from the network: whatever the timeline hands out and whenever inputs arrive, the
guest is where that playthrough stands after every frame, and so is every checkpoint of its ring.
The second part says which inputs are recorded as used.
-/

namespace Bigstar.Netplay.RomLoop

open OrderedMap InputTimeline RollbackStorage RollbackRuntime GameRAMRollback

variable {S : Type} {guest : Guest S (Fin 2 → InputState)} {start : Started}

/-- The ROM-loop backend is configured and corrections are carried out. -/
structure Active (config : RollbackConfig) : Prop where
  backend : config.backend = .romLoop
  enabled : config.enabled = true
  resimulate : config.resimulate = true
  window_pos : 0 < config.window
  /-- The probe that injects wrong inputs and confirms them later is off. -/
  probe_off : config.predictionProbeConfirmDelayFrames = 0

/-- The playthrough of the recorded inputs. -/
def playthrough (guest : Guest S (Fin 2 → InputState)) (start : Started) (initial : S)
    (used : NatMap ReplayFrameInputs) : Playthrough S (Fin 2 → InputState) where
  guest := guest
  inputs := playersOf used
  initial := initial
  epoch := start.sharedLogicalEpoch

/-! ## The history of a correction -/

/-- Every frame of the history is resolved. -/
theorem exists_resolveHistory_eq (start : Started) (frames : List Nat)
    (inputs : InputTimeline.Runtime) :
    ∃ inputs' history, resolveHistory start frames inputs = (inputs', some history) ∧
      history.map (·.1) = frames := by
  induction frames generalizing inputs with
  | nil => exact ⟨inputs, [], rfl, rfl⟩
  | cons frame frames ih =>
    unfold resolveHistory
    rw [resolveReplayFrameInputs_eq]
    dsimp only
    obtain ⟨inputs', history, heq, hframes⟩ :=
      ih (inputs.resolve frame neutralInput (replayProbe start.config)).1
    rw [heq]
    exact ⟨inputs', _, rfl, by rw [List.map_cons, hframes]⟩

/-- The frames outside the history keep their record. -/
theorem getElem?_recordHistory {used : NatMap ReplayFrameInputs}
    {history : List (Nat × ReplayFrameInputs)} {r m k : Nat}
    (hframes : history.map (·.1) = List.range' r m) (hk : k < r ∨ r + m ≤ k) :
    (recordHistory used history)[k]? = used[k]? := by
  induction history generalizing used r m with
  | nil => rfl
  | cons entry history ih =>
    cases m with
    | zero => exact absurd hframes (by simp)
    | succ m =>
      rw [List.range'_succ, List.map_cons, List.cons.injEq] at hframes
      show (recordHistory (used.insert entry.1 entry.2) history)[k]? = _
      rw [ih hframes.2 (by omega), getElem?_insert_eq, if_neg (by omega)]

/-- The frames of the history get a record. -/
theorem exists_getElem?_recordHistory {used : NatMap ReplayFrameInputs}
    {history : List (Nat × ReplayFrameInputs)} {r m k : Nat}
    (hframes : history.map (·.1) = List.range' r m) (hr : r ≤ k) (hk : k < r + m) :
    ∃ inputs, (recordHistory used history)[k]? = some inputs := by
  induction history generalizing used r m with
  | nil =>
    have hm : m = 0 := by simpa using congrArg List.length hframes.symm
    omega
  | cons entry history ih =>
    cases m with
    | zero => omega
    | succ m =>
      rw [List.range'_succ, List.map_cons, List.cons.injEq] at hframes
      show ∃ inputs, (recordHistory (used.insert entry.1 entry.2) history)[k]? = some inputs
      by_cases hkr : k = r
      · rw [getElem?_recordHistory hframes.2 (Or.inl (by omega)),
          getElem?_insert_eq, if_pos (by omega)]
        exact ⟨entry.2, rfl⟩
      · exact ih hframes.2 (by omega) (by omega)

/-- What is written to the guest is what is recorded. -/
theorem map_playersOf_recordHistory {used : NatMap ReplayFrameInputs}
    {history : List (Nat × ReplayFrameInputs)} {r m : Nat}
    (hframes : history.map (·.1) = List.range' r m) :
    history.map (·.2.players) = (List.range' r m).map (playersOf (recordHistory used history)) := by
  induction history generalizing used r m with
  | nil =>
    rw [← hframes]
    rfl
  | cons entry history ih =>
    cases m with
    | zero => exact absurd hframes (by simp)
    | succ m =>
      rw [List.range'_succ, List.map_cons, List.cons.injEq] at hframes
      have hhead : playersOf (recordHistory used (entry :: history)) r = entry.2.players := by
        have hrecord : (recordHistory used (entry :: history))[r]? = some entry.2 := by
          show (recordHistory (used.insert entry.1 entry.2) history)[r]? = some entry.2
          rw [getElem?_recordHistory hframes.2 (Or.inl (Nat.lt_succ_self r)), getElem?_insert_eq,
            if_pos hframes.1]
        unfold playersOf
        rw [hrecord]
      rw [List.map_cons, List.range'_succ, List.map_cons, hhead, ih hframes.2]
      rfl

/-! ## Arming -/

theorem requiredHistoryCount_eq {r n : Nat} (hle : r ≤ n) (hn : n < u32Max) (hr : 0 < r) :
    requiredHistoryCount r n = n + 1 - r := by
  unfold u32Max at hn
  unfold requiredHistoryCount
  rw [if_neg (by omega)]
  dsimp only
  rw [if_neg (by omega)]
  omega

/-- The checks that a correction from a checkpoint has to pass. -/
structure CanArm (nds : Nds S (Fin 2 → InputState))
    (checkpoint : GameRAMCheckpoint S) (frame : Nat) : Prop where
  count_pos : requiredHistoryCount checkpoint.displayFrame frame ≠ 0
  count_le : requiredHistoryCount checkpoint.displayFrame frame ≤ historyCapacity
  gameFrame_ne : checkpoint.gameFrame ≠ kNoFrame
  magic : nds.history.magic = true

/-- The console once the correction is armed. -/
def armedNds (nds : Nds S (Fin 2 → InputState)) (checkpoint : GameRAMCheckpoint S) (image : S)
    (frame : Nat) (history : List (Nat × ReplayFrameInputs)) : Nds S (Fin 2 → InputState) :=
  let scratch := (history.getLast?.map (·.2.players)).getD nds.scratch
  let discarded := nds.discardCheckpointsAfter checkpoint.displayFrame
  { nds with
    checkpoints := discarded.checkpoints
    nextCheckpoint := discarded.nextCheckpoint
    scratch := scratch
    restoreData := some image
    historyReachedExitGate := false
    replayDisplayStartFrame := checkpoint.displayFrame
    restorePending := true
    history := { nds.history with
      enabled := true, index := 0, count := requiredHistoryCount checkpoint.displayFrame frame
      target := 1, startFrame := checkpoint.gameFrame, entries := history.map (·.2.players) } }

theorem armCorrection_of_canArm {s : Session S} {checkpoint : GameRAMCheckpoint S} {image : S}
    {frame : Nat} (hflight : s.nds.isRollbackTransactionInFlight = false)
    (himage : checkpoint.mainRAM = some image) (h : CanArm s.nds checkpoint frame)
    {inputs : InputTimeline.Runtime} {history : List (Nat × ReplayFrameInputs)}
    (hresolve : resolveHistory start (List.range' checkpoint.displayFrame
      (requiredHistoryCount checkpoint.displayFrame frame)) s.inputs = (inputs, some history)) :
    armCorrection start s checkpoint frame = { s with
      inputs := inputs
      nds := armedNds s.nds checkpoint image frame history
      used := recordHistory s.used history } := by
  have hcount := h.count_le
  unfold armCorrection
  dsimp only
  rw [himage]
  dsimp only
  rw [if_neg (by
    rintro (h0 | hgt | hgame | hmagic)
    · exact h.count_pos h0
    · omega
    · exact h.gameFrame_ne hgame
    · simp [h.magic] at hmagic), hresolve]
  dsimp only
  unfold writeHistory Nds.scheduleGameRAMRestore
  dsimp only
  rw [if_neg (by
    rw [Bool.not_eq_true]
    exact hflight)]
  rfl

theorem armCorrection_of_not_canArm {s : Session S} {checkpoint : GameRAMCheckpoint S} {frame : Nat}
    (h : ¬ CanArm s.nds checkpoint frame) : armCorrection start s checkpoint frame = s := by
  unfold armCorrection
  dsimp only
  split
  · rfl
  · rw [if_pos]
    by_contra hcheck
    simp only [not_or, Nat.not_lt, Bool.not_eq_true', Bool.not_eq_false] at hcheck
    exact h ⟨hcheck.1, hcheck.2.1, hcheck.2.2.1, by simpa using hcheck.2.2.2⟩

/-- A correction that is armed from a checkpoint of the ring replays the recorded inputs. -/
theorem armed_of_ready {play : Playthrough S (Fin 2 → InputState)}
    {nds : Nds S (Fin 2 → InputState)}
    {n : Nat} (h : Ready play nds n) (hepoch : 0 < play.epoch) (hn : n < u32Max) {m : Nat}
    {checkpoint : GameRAMCheckpoint S} (hcopy : nds.copyCheckpointAtOrBefore m = some checkpoint)
    {history : List (Nat × ReplayFrameInputs)} {inputs : Nat → Fin 2 → InputState}
    (heq : ∀ k, play.epoch ≤ k → k < checkpoint.displayFrame → play.inputs k = inputs k)
    (hhistory : history.map (·.2.players) = (List.range' checkpoint.displayFrame
      (requiredHistoryCount checkpoint.displayFrame n)).map inputs) :
    ∃ image, checkpoint.mainRAM = some image ∧
      checkpoint.displayFrame < n ∧
      Armed { play with inputs := inputs } (armedNds nds checkpoint image n history)
        checkpoint.displayFrame n := by
  obtain ⟨held, hholds, hheld, -⟩ := id h.rings
  obtain ⟨hmem, -⟩ := hholds.copy_mem hcopy
  obtain ⟨hcheck, hlt⟩ := hheld checkpoint hmem
  have hepoch_le := hcheck.epoch_le
  have hcount : requiredHistoryCount checkpoint.displayFrame n = n + 1 - checkpoint.displayFrame :=
    requiredHistoryCount_eq (Nat.le_of_lt hlt) hn (by omega)
  have hcheck' := hcheck.congr heq
  refine ⟨_, hcheck.mainRAM_eq, hlt, ?_⟩
  rw [hcount] at hhistory
  exact {
    epoch_le := hepoch_le, le_current := Nat.le_of_lt hlt, enabled := rfl, index_eq := rfl
    count_eq := hcount, start_eq := hcheck'.gameFrame_eq, entries_eq := hhistory, display_eq := rfl
    gate := rfl, label := h.label, pending := rfl
    data := hcheck.mainRAM_eq.symm.trans hcheck'.mainRAM_eq
    rings := by
      have hkept := h.rings.discard hlt
      obtain ⟨kept, hkholds, hkheld, hkcomplete⟩ := hkept
      refine ⟨kept, hkholds.of_slots_eq rfl rfl, fun c hc => ?_, hkcomplete⟩
      refine ⟨(hkheld c hc).1.congr fun k hk hklt => heq k hk ?_, (hkheld c hc).2⟩
      have := (hkheld c hc).2
      omega }

/-! ## The parts of a frame -/

/-- The logical number of the next frame. -/
def Session.frame (start : Started) (s : Session S) : Nat :=
  start.sharedLogicalEpoch + (s.rawFrame - start.localReadyFrame)

theorem logicalFrame_eq {s : Session S} (hready : start.localReadyFrame ≤ s.rawFrame)
    (hframe : s.frame start ≤ u32Max) : start.logicalFrame s.rawFrame = s.frame start := by
  have hsmall : u32 (s.frame start) = s.frame start := by
    unfold u32Max at hframe
    unfold u32
    omega
  rw [← hsmall]
  unfold Started.logicalFrame SessionPolicy.logicalInputFrame
  dsimp only
  rw [if_neg (by simpa using hready)]
  rfl

/-- The session after the pumps that precede `Resolve`. -/
def pumpedSession (start : Started) (s : Session S) (event : FrameEvent) : Session S :=
  let s := saveCheckpointIfNeeded start s (s.frame start)
  { s with inputs := event.pumped.foldl (pumpOnce start s.rawFrame) s.inputs }

/-- The session as `ResimulateIfNeeded` finds it. -/
def plannedSession (start : Started) (s : Session S) (event : FrameEvent) : Session S :=
  let written := writeScratch start (pumpedSession start s event) (s.frame start) event.polled
  { written with inputs := pumpThread start written.inputs event.beforePlan }

theorem frame_eq_some {s t : Session S} {event : FrameEvent}
    (hready : start.localReadyFrame ≤ s.rawFrame) (hframe : s.frame start ≤ u32Max)
    (h : RomLoop.frame guest start s event = some t) :
    s.frame start < u32Max ∧ ∃ r,
      resimulateIfNeeded start (plannedSession start s event)
        (s.frame start) event.beforeArm = some r ∧
      t = { r with
        inputs := pumpThread start r.inputs event.beforeEnd
        nds := (r.nds.runFrame guest).finalizeRollbackTransaction guest
        rawFrame := r.rawFrame + 1 } := by
  unfold RomLoop.frame at h
  rw [logicalFrame_eq hready hframe] at h
  dsimp only at h
  split at h
  · exact absurd h (by simp)
  · next hlt =>
    refine ⟨Nat.not_le.mp hlt, ?_⟩
    split at h
    · exact absurd h (by simp)
    · split at h
      · exact absurd h (by simp)
      · next r hr => exact ⟨r, hr, (Option.some.inj h).symm⟩

/-- What `ResimulateIfNeeded` can do. -/
inductive Resimulated (start : Started) (s : Session S) (frame : Nat) (beforeArm : List Arrival) :
    Session S → Prop where
  /-- A transaction is in flight. -/
  | busy (hflight : s.nds.isRollbackTransactionInFlight = true) :
    Resimulated start s frame beforeArm
      { s with inputs := pumpThread start s.inputs beforeArm }
  | wait (hplan : planResimulation start.config s.inputs.rollbackInputs frame = .wait) :
    Resimulated start s frame beforeArm
      { s with inputs := pumpThread start s.inputs beforeArm }
  | consume (hplan : planResimulation start.config s.inputs.rollbackInputs frame = .consume) :
    Resimulated start s frame beforeArm
      { s with inputs := pumpThread start s.inputs.clearPendingRollback beforeArm }
  /-- There is no checkpoint to start from. -/
  | missing (mismatchFrame : Nat)
    (hplan : planResimulation start.config s.inputs.rollbackInputs frame =
      .resimulate mismatchFrame)
    (hcopy : s.nds.copyCheckpointAtOrBefore mismatchFrame = none) :
    Resimulated start s frame beforeArm
      { s with inputs := pumpThread start s.inputs.clearPendingRollback beforeArm }
  | correct (mismatchFrame : Nat) (checkpoint : GameRAMCheckpoint S)
    (hflight : s.nds.isRollbackTransactionInFlight = false)
    (hplan : planResimulation start.config s.inputs.rollbackInputs frame =
      .resimulate mismatchFrame)
    (hcopy : s.nds.copyCheckpointAtOrBefore mismatchFrame = some checkpoint) :
    Resimulated start s frame beforeArm
      (armCorrection start { s with
        inputs := pumpThread start s.inputs.clearPendingRollback beforeArm } checkpoint frame)

theorem resimulated_of_eq_some (hactive : Active start.config) {s t : Session S} {frame : Nat}
    {beforeArm : List Arrival} (h : resimulateIfNeeded start s frame beforeArm = some t) :
    Resimulated start s frame beforeArm t := by
  have hprobe : confirmPredictionProbeLocked start.context frame s.inputs = s.inputs :=
    confirmPredictionProbeLocked_eq hactive.probe_off frame s.inputs
  unfold resimulateIfNeeded at h
  rw [if_neg (by simp [hactive.enabled, hactive.resimulate])] at h
  dsimp only at h
  rw [hprobe] at h
  split at h
  · next hflight =>
    obtain rfl := Option.some.inj h
    exact .busy hflight
  · next hflight =>
    split at h
    · next hplan =>
      obtain rfl := Option.some.inj h
      exact .wait hplan
    · exact absurd h (by simp)
    · next hplan =>
      obtain rfl := Option.some.inj h
      exact .consume hplan
    · next mismatchFrame hplan =>
      split at h
      · next hcopy =>
        obtain rfl := Option.some.inj h
        exact .missing mismatchFrame hplan hcopy
      · next checkpoint hcopy =>
        obtain rfl := Option.some.inj h
        exact .correct mismatchFrame checkpoint (Bool.eq_false_iff.mpr hflight) hplan hcopy

theorem saveCheckpointIfNeeded_eq (hactive : Active start.config) (s : Session S) {frame : Nat}
    (hframe : start.sharedLogicalEpoch ≤ frame) :
    ∃ inputs, saveCheckpointIfNeeded start s frame =
        { s with nds := s.nds.setCheckpointFrame frame, inputs := inputs } ∧
      (inputs = s.inputs ∨ inputs = s.inputs.prunePredictions frame
        (windowFrames start.config)) := by
  have hwindow := hactive.window_pos
  unfold saveCheckpointIfNeeded
  rw [if_neg (by simp [hactive.enabled]; omega)]
  dsimp only
  split
  · exact ⟨s.inputs, rfl, Or.inl rfl⟩
  · exact ⟨_, rfl, Or.inr rfl⟩

/-- Up to `ResimulateIfNeeded` the console gets a label and a scratch input, and the frame a
record. -/
theorem plannedSession_eq (hactive : Active start.config) (s : Session S) (event : FrameEvent) :
    ∃ frameInputs inputs, plannedSession start s event = { s with
      nds := { s.nds.setCheckpointFrame (s.frame start) with scratch := frameInputs.players }
      used := s.used.insert (s.frame start) frameInputs
      inputs := inputs } := by
  have hepoch : start.sharedLogicalEpoch ≤ s.frame start := Nat.le_add_right _ _
  obtain ⟨inputs, heq, -⟩ := saveCheckpointIfNeeded_eq hactive s hepoch
  unfold plannedSession pumpedSession
  dsimp only
  rw [heq]
  exact ⟨_, _, rfl⟩

/-! ## The guest is where the playthrough stands -/

/-- What holds between two frames, whatever has arrived and whenever. -/
structure Inv (guest : Guest S (Fin 2 → InputState)) (start : Started) (initial : S) (magic : Bool)
    (s : Session S) : Prop where
  ready_le : start.localReadyFrame ≤ s.rawFrame
  frame_le : s.frame start ≤ u32Max
  standing : Standing (playthrough guest start initial s.used) s.nds (s.frame start)
  magic_eq : s.nds.history.magic = magic
  /-- Every frame so far has a record. -/
  ran : ∀ f, start.sharedLogicalEpoch ≤ f → f < s.frame start → ∃ inputs, s.used[f]? = some inputs

variable {initial : S} {magic : Bool}

/-- Before `ResimulateIfNeeded` the guest is ready to run the frame normally. -/
theorem Inv.planned {s : Session S} (h : Inv guest start initial magic s)
    (hactive : Active start.config) (event : FrameEvent) :
    Ready (playthrough guest start initial (plannedSession start s event).used)
      (plannedSession start s event).nds (s.frame start) ∧
    (plannedSession start s event).nds.scratch =
      playersOf (plannedSession start s event).used (s.frame start) ∧
    (plannedSession start s event).nds.history.magic = magic ∧
    (plannedSession start s event).rawFrame = s.rawFrame ∧
    ∀ f, start.sharedLogicalEpoch ≤ f → f < s.frame start + 1 →
      ∃ inputs, (plannedSession start s event).used[f]? = some inputs := by
  obtain ⟨frameInputs, inputs, heq⟩ := plannedSession_eq hactive s event
  obtain ⟨checkpoints, next, hlabel⟩ := exists_setCheckpointFrame_eq s.nds (s.frame start)
  rw [heq]
  refine ⟨h.standing.label.write ?_ _, ?_, ?_, rfl, ?_⟩
  · intro k _ hk
    exact (playersOf_insert_of_lt frameInputs hk).symm
  · exact (playersOf_insert_self s.used _ frameInputs).symm
  · dsimp only
    rw [hlabel]
    exact h.magic_eq
  · intro f hf hlt
    dsimp only
    rw [getElem?_insert_eq]
    split
    · exact ⟨frameInputs, rfl⟩
    · exact h.ran f hf (by omega)

/-- The console and the record are ready for frame `n` to run, whichever way. -/
structure Runs (guest : Guest S (Fin 2 → InputState)) (start : Started) (initial : S) (magic : Bool)
    (s : Session S) (rawFrame n : Nat) : Prop where
  ran : Ran (playthrough guest start initial s.used) (s.nds.runFrame guest) n
  magic_eq : s.nds.history.magic = magic
  raw_eq : s.rawFrame = rawFrame
  recorded : ∀ f, start.sharedLogicalEpoch ≤ f → f < n + 1 → ∃ inputs, s.used[f]? = some inputs

/-- Armed or not, the guest runs the frame as the playthrough does. -/
theorem Runs.armCorrection {s : Session S} {rawFrame n m : Nat} {checkpoint : GameRAMCheckpoint S}
    (h : Runs guest start initial magic s rawFrame n) (hn : n < u32Max)
    (hready : Ready (playthrough guest start initial s.used) s.nds n)
    (hflight : s.nds.isRollbackTransactionInFlight = false)
    (hcopy : s.nds.copyCheckpointAtOrBefore m = some checkpoint) :
    Runs guest start initial magic (armCorrection start s checkpoint n) rawFrame n := by
  by_cases hcan : CanArm s.nds checkpoint n
  · obtain ⟨inputs, history, hresolve, hframes⟩ := exists_resolveHistory_eq start
      (List.range' checkpoint.displayFrame (requiredHistoryCount checkpoint.displayFrame n))
        s.inputs
    have hkeep : ∀ k, start.sharedLogicalEpoch ≤ k → k < checkpoint.displayFrame →
        playersOf s.used k = playersOf (recordHistory s.used history) k := by
      intro k _ hk
      unfold playersOf
      rw [getElem?_recordHistory hframes (Or.inl hk)]
    obtain ⟨image, himage, hlt, harmed⟩ := armed_of_ready hready start.epoch_pos hn hcopy hkeep
      (map_playersOf_recordHistory hframes)
    rw [armCorrection_of_canArm hflight himage hcan hresolve]
    refine ⟨harmed.ran hn, h.magic_eq, h.raw_eq, ?_⟩
    intro f hf hfn
    dsimp only
    by_cases hout : f < checkpoint.displayFrame
    · rw [getElem?_recordHistory hframes (Or.inl hout)]
      exact h.recorded f hf hfn
    · have hcount := requiredHistoryCount_eq (Nat.le_of_lt hlt) hn
        (Nat.lt_of_lt_of_le start.epoch_pos harmed.epoch_le)
      exact exists_getElem?_recordHistory hframes (Nat.not_lt.mp hout) (by omega)
  · rw [armCorrection_of_not_canArm hcan]
    exact h

theorem Inv.resimulated {s r : Session S} (h : Inv guest start initial magic s)
    (hactive : Active start.config) {event : FrameEvent} (hn : s.frame start < u32Max)
    (hr : Resimulated start (plannedSession start s event) (s.frame start) event.beforeArm r) :
    Runs guest start initial magic r s.rawFrame (s.frame start) := by
  obtain ⟨hready, hscratch, hmagic, hraw, hran⟩ := h.planned hactive event
  have hnormal := hready.ran hscratch hn
  cases hr with
  | busy | wait | consume | missing => exact ⟨hnormal, hmagic, hraw, hran⟩
  | correct mismatchFrame checkpoint hflight hplan hcopy =>
    refine Runs.armCorrection ?_ hn hready hflight hcopy
    exact ⟨hnormal, hmagic, hraw, hran⟩

/-- Every frame takes the guest to where the playthrough stands after it. -/
theorem Inv.frame {s t : Session S} (h : Inv guest start initial magic s)
    (hactive : Active start.config) {event : FrameEvent}
    (hstep : RomLoop.frame guest start s event = some t) : Inv guest start initial magic t := by
  obtain ⟨hn, r, hr, rfl⟩ := frame_eq_some h.ready_le h.frame_le hstep
  have hruns := h.resimulated hactive hn (resimulated_of_eq_some hactive hr)
  have hready := h.ready_le
  have hnext : start.sharedLogicalEpoch + (r.rawFrame + 1 - start.localReadyFrame) =
      s.frame start + 1 := by
    rw [hruns.raw_eq]
    unfold Session.frame
    omega
  constructor
  · dsimp only
    rw [hruns.raw_eq]
    omega
  · unfold Session.frame
    dsimp only
    omega
  · unfold Session.frame
    dsimp only
    rw [hnext]
    exact hruns.ran.standing
  · dsimp only
    rw [finalizeRollbackTransaction_magic]
    unfold Nds.runFrame
    dsimp only
    rw [gameTicks_magic]
    exact hruns.magic_eq
  · intro f hf hlt
    unfold Session.frame at hlt
    dsimp only at hlt
    exact hruns.recorded f hf (by omega)

end Bigstar.Netplay.RomLoop
