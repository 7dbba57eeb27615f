import Bigstar.Lib.Run
import Bigstar.Netplay.FrameLoop
import Bigstar.Netplay.Proofs.RollbackRuntimeProofs
import Bigstar.Netplay.Proofs.RollbackStoreProofs
import Bigstar.Netplay.Proofs.TimelineRunProofs

/-!
# Rollback refines lockstep

The backends whose checkpoints are complete savestates. The console is any deterministic step
function, and a savestate is the state itself. The abstract machine is a console that plays the same
inputs frame by frame and never looks back (`Run.stateAt`); the frame loop is shown to stay in the
state that this machine reaches on the inputs currently recorded as used, and every stored
checkpoint to be such a state of an earlier frame.
-/

namespace Bigstar.Netplay.RollbackRuntime

open OrderedMap InputTimeline RollbackStorage

variable {σ : Type}

/-- A console whose savestates are its states. -/
def exactConsole (tick : σ → (Fin 2 → InputState) → σ) : Console σ σ where
  ramLength := 0
  mainRAM := fun _ => []
  setMainRAM := fun s _ => s
  saveCheckpointBuffer := fun s _ _ => some s
  restoreCheckpointBuffer := fun _ buffer _ => (buffer, true)
  runFrame := tick
  mainRAM_length := fun _ => rfl
  mainRAM_setMainRAM := fun _ _ h => (List.eq_nil_of_length_eq_zero h).symm

/-- The backends whose checkpoints stand on their own. -/
def SavestateStyle (config : RollbackConfig) : Prop :=
  config.backend = .savestate ∨ config.backend = .coreLite ∨ config.backend = .coreSparse

/-- The inputs of both players that the record holds for a frame. -/
def playersOf (used : NatMap ReplayFrameInputs) (frame : Nat) : Fin 2 → InputState :=
  match used[frame]? with
  | some inputs => inputs.players
  | none => fun _ => neutralInput

/-- The remote input that the record holds for a frame. -/
def remoteOf (used : NatMap ReplayFrameInputs) (frame : Nat) : Option InputState :=
  used[frame]?.map (·.remoteInput)

/-- The inputs of both players that are final: the local ones, and the confirmed remote ones. -/
def confirmedPlayers (localPlayer : Fin 2) (inputs : InputTimeline.Runtime) (frame : Nat) :
    Fin 2 → InputState := fun player =>
  if player = localPlayer then inputs.localInput frame neutralInput
  else inputs.remoteInputs[frame]?.getD neutralInput

/-- The console stands before frame `k`; the frames from there up to `current` have run before and
are still to be replayed. Between two frames `k` is the current frame. -/
structure Refines (tick : σ → (Fin 2 → InputState) → σ) (localPlayer : Fin 2)
    (truth : Nat → InputState) (start : Nat) (initial : σ) (s : State σ σ) (current k : Nat) :
    Prop where
  start_le : start ≤ k
  le_current : k ≤ current
  /-- Every frame so far has a record. -/
  ran : ∀ f, start ≤ f → f < current → ∃ inputs, s.used[f]? = some inputs
  used_lt : ∀ (f : Nat) inputs, s.used[f]? = some inputs → f < current
  players_eq : ∀ (f : Nat) inputs, s.used[f]? = some inputs → inputs.players = fun player =>
    if player = localPlayer then s.inputs.localInput f neutralInput else inputs.remoteInput
  /-- The console is where a machine without rollback is on the recorded inputs. -/
  console_eq : s.console = Run.stateAt tick (playersOf s.used) initial start k
  /-- So is every checkpoint, for its own frame. -/
  checkpoint : ∀ (f : Nat) stored, s.store.states[f]? = some stored →
    start ≤ f ∧ f ≤ k ∧ stored.mainRAMDelta = false ∧
      stored.buffer = some (Run.stateAt tick (playersOf s.used) initial start f)
  sound : s.inputs.Sound (remoteOf s.used) k
  confirmed : s.inputs.ConfirmedBy truth
  pending_lt : ∀ p, s.inputs.rollbackInputs.pendingRollbackFrame = some p → p < current
  predicted_lt : ∀ (f : Nat) w, s.inputs.rollbackInputs.predictions[f]? = some w → f < current

section

variable {tick : σ → (Fin 2 → InputState) → σ} {localPlayer : Fin 2} {truth : Nat → InputState}
  {start : Nat} {initial : σ} {s : State σ σ} {current k : Nat}

theorem playersOf_insert_of_lt {used : NatMap ReplayFrameInputs} {f g : Nat}
    (inputs : ReplayFrameInputs) (h : g < f) :
    playersOf (used.insert f inputs) g = playersOf used g := by
  unfold playersOf
  rw [getElem?_insert_eq, if_neg (by omega)]

theorem playersOf_insert_self (used : NatMap ReplayFrameInputs) (f : Nat)
    (inputs : ReplayFrameInputs) : playersOf (used.insert f inputs) f = inputs.players := by
  unfold playersOf
  rw [getElem?_insert_eq, if_pos rfl]

/-- A record of frame `f` says nothing about the states up to `f`. -/
theorem stateAt_insert {used : NatMap ReplayFrameInputs} {f g : Nat} (inputs : ReplayFrameInputs)
    (h : g ≤ f) :
    Run.stateAt tick (playersOf (used.insert f inputs)) initial start g =
      Run.stateAt tick (playersOf used) initial start g := by
  apply Run.stateAt_congr
  intro j _ hj
  exact playersOf_insert_of_lt inputs (by omega)

/-! ## Arrivals -/

theorem Refines.storeArrival (h : Refines tick localPlayer truth start initial s current k)
    {arrival : Arrival} (harrival : arrival.input = truth arrival.frame) {localFrame : Option Nat}
    (hlocal : ∀ n, localFrame = some n → n = current) :
    Refines tick localPlayer truth start initial
      { s with inputs := storeArrival localFrame s.inputs arrival } current k := by
  unfold RollbackRuntime.storeArrival
  constructor
  · exact h.start_le
  · exact h.le_current
  · exact h.ran
  · exact h.used_lt
  · intro f inputs hf
    unfold Runtime.localInput
    dsimp only
    rw [Runtime.storeRemote_localInputs]
    exact h.players_eq f inputs hf
  · exact h.console_eq
  · exact h.checkpoint
  · -- the frame is simulated, or above `k`, whichever pump delivers
    apply h.sound.storeRemote
    · intro c hc
      rw [harrival, h.confirmed _ c hc]
    · intro w _ _
      cases hl : localFrame with
      | none => exact Or.inr (Or.inl rfl)
      | some n =>
        obtain rfl := hlocal n hl
        by_cases hlt : arrival.frame < n
        · exact Or.inr (Or.inl (by simpa [PredictionRuntime.frameAlreadySimulated] using hlt))
        · have hle := h.le_current
          exact Or.inl (by omega)
  · rw [harrival]
    exact h.confirmed.storeRemote _ _ _
  · intro p hp
    rw [Runtime.storeRemote_rollbackInputs] at hp
    rcases PredictionRuntime.confirm_pendingRollbackFrame_cases hp with hold | ⟨rfl, w, hw⟩
    · exact h.pending_lt p hold
    · exact h.predicted_lt _ w hw
  · intro f w hw
    rw [Runtime.storeRemote_rollbackInputs] at hw
    exact h.predicted_lt f w (PredictionRuntime.predictions_of_confirm hw)

theorem Refines.storeArrivals (late : List Arrival)
    (hlate : ∀ arrival ∈ late, arrival.input = truth arrival.frame)
    (h : Refines tick localPlayer truth start initial s current k) :
    Refines tick localPlayer truth start initial
      { s with inputs := late.foldl (RollbackRuntime.storeArrival none) s.inputs } current k := by
  induction late generalizing s with
  | nil => exact h
  | cons arrival late ih =>
    have harrival := hlate arrival List.mem_cons_self
    have hrest : ∀ a ∈ late, a.input = truth a.frame := fun a ha =>
      hlate a (List.mem_cons_of_mem _ ha)
    have hnone : ∀ n, (none : Option Nat) = some n → n = current := by simp
    have hstep := h.storeArrival harrival hnone
    exact ih hrest hstep

/-! ## Running a frame -/

/-- Frame `k` is resolved and run, for the first time or again. -/
theorem Refines.runFrame (h : Refines tick localPlayer truth start initial s current k)
    {probe : PredictionProbe} (hprobe : probe.retainConfirmation = false)
    {inputs : ReplayFrameInputs}
    (hremote : inputs.remoteInput = (s.inputs.resolve k neutralInput probe).2.input)
    (hplayers : inputs.players = fun player =>
      if player = localPlayer then s.inputs.localInput k neutralInput else inputs.remoteInput) :
    Refines tick localPlayer truth start initial
      { s with
        inputs := (s.inputs.resolve k neutralInput probe).1
        console := tick s.console inputs.players
        used := s.used.insert k inputs } (max current (k + 1)) (k + 1) := by
  have hstart := h.start_le
  have hcur := h.le_current
  constructor
  · omega
  · exact Nat.le_max_right _ _
  · intro f hf hlt
    dsimp only
    rw [getElem?_insert_eq]
    split
    · exact ⟨inputs, rfl⟩
    · exact h.ran f hf (by omega)
  · intro f r hr
    dsimp only at hr
    rw [getElem?_insert_eq] at hr
    split at hr
    · omega
    · exact lt_of_lt_of_le (h.used_lt f r hr) (Nat.le_max_left _ _)
  · intro f r hr
    dsimp only at hr
    rw [getElem?_insert_eq] at hr
    split at hr
    · next hkf =>
      subst hkf
      obtain rfl := Option.some.inj hr
      exact hplayers
    · exact h.players_eq f r hr
  · dsimp only
    rw [Run.stateAt_succ _ _ _ hstart, stateAt_insert inputs (le_refl k), playersOf_insert_self,
      h.console_eq]
  · intro f stored hf
    obtain ⟨h1, h2, h3, h4⟩ := h.checkpoint f stored hf
    refine ⟨h1, by omega, h3, ?_⟩
    rw [h4, stateAt_insert inputs h2]
  · intro g u hg hu
    unfold remoteOf at hu
    dsimp only at hu
    rw [getElem?_insert_eq] at hu
    by_cases hkg : k = g
    · subst hkg
      rw [if_pos rfl, Option.map_some, Option.some.injEq] at hu
      rw [← hu, hremote]
      exact Or.inr (Runtime.tracks_resolve k neutralInput hprobe)
    · rw [if_neg hkg] at hu
      rcases h.sound g u (by omega) hu with hcov | htr
      · exact Or.inl ((Runtime.covered_resolve_iff k neutralInput hprobe).mpr hcov)
      · exact Or.inr (htr.resolve k neutralInput hprobe)
  · exact h.confirmed
  · intro p hp
    dsimp only at hp
    rw [Runtime.resolve_pendingRollbackFrame k neutralInput hprobe] at hp
    exact lt_of_lt_of_le (h.pending_lt p hp) (Nat.le_max_left _ _)
  · intro f w hw
    rcases PredictionRuntime.predictions_of_resolve hprobe hw with hold | rfl
    · exact lt_of_lt_of_le (h.predicted_lt f w hold) (Nat.le_max_left _ _)
    · omega

/-- Recording a local input for the current frame or a later one. -/
theorem Refines.recordLocal (h : Refines tick localPlayer truth start initial s current k)
    {frame : Nat} (hframe : current ≤ frame) (polled : InputState) :
    Refines tick localPlayer truth start initial
      { s with inputs := { s.inputs with
          localInputs := s.inputs.localInputs.insert frame polled } } current k := by
  refine { h with players_eq := ?_, sound := h.sound, confirmed := h.confirmed }
  intro f inputs hf
  have hlt := h.used_lt f inputs hf
  unfold Runtime.localInput
  dsimp only
  rw [getElem?_insert_eq, if_neg (by omega)]
  exact h.players_eq f inputs hf

/-! ## Saving and restoring -/

theorem SavestateStyle.deltaMode_eq {context : Context} (h : SavestateStyle context.config) :
    deltaMode context = .none := by
  rcases h with h | h | h <;> simp [deltaMode, isPreimageBackend, h]

theorem SavestateStyle.not_preimage {config : RollbackConfig} (h : SavestateStyle config) :
    isPreimageBackend config = false := by
  rcases h with h | h | h <;> simp [isPreimageBackend, h]

theorem SavestateStyle.refreshFrameShadowLocked_eq {β : Type} {context : Context}
    (h : SavestateStyle context.config) (store : Store β) (frame : Nat) (mainRAM : List UInt8) :
    refreshFrameShadowLocked context store frame mainRAM = store := by
  unfold refreshFrameShadowLocked
  rw [if_pos]
  refine ⟨?_, by simp [h.not_preimage]⟩
  rcases h with h | h | h <;> simp [h]

theorem SavestateStyle.encodeCheckpoint_eq {context : Context} (h : SavestateStyle context.config)
    (s : State σ σ) (frame : Nat) :
    encodeCheckpoint context (exactConsole tick) s frame = some { buffer := some s.console } := by
  have hdelta : context.config.backend ≠ .coreDelta := by
    rcases h with h | h | h <;> simp [h]
  simp [encodeCheckpoint, prepareDeltaSaveLocked, h.deltaMode_eq, Store.prepareSave,
    captureFramePreimage, exactConsole, hdelta]

theorem Refines.prune (h : Refines tick localPlayer truth start initial s current k)
    (context : Context) (frame : Nat) :
    Refines tick localPlayer truth start initial
      (pruneHistoryLocked context s frame) current k := by
  refine { h with checkpoint := ?_, sound := ?_, confirmed := h.confirmed, predicted_lt := ?_ }
  · intro f stored hf
    exact h.checkpoint f stored (Store.getElem?_of_prune hf)
  · intro g u hg hu
    rcases h.sound g u hg hu with hcov | htr
    · exact Or.inl hcov
    · exact Or.inr (htr.prunePredictions _ _)
  · intro f w hw
    exact h.predicted_lt f w (PredictionRuntime.predictions_of_prune hw)

/-- A checkpoint of the frame the console stands before is right. -/
theorem Refines.writeCheckpoint (h : Refines tick localPlayer truth start initial s current k)
    {context : Context} (hstyle : SavestateStyle context.config) :
    Refines tick localPlayer truth start initial
      (writeCheckpoint context (exactConsole tick) s k) current k := by
  unfold RollbackRuntime.writeCheckpoint
  rw [hstyle.encodeCheckpoint_eq]
  dsimp only
  rw [hstyle.refreshFrameShadowLocked_eq]
  apply Refines.prune
  refine { h with checkpoint := ?_, sound := h.sound, confirmed := h.confirmed }
  intro f stored hf
  rw [Store.getElem?_put] at hf
  split at hf
  · next hkf =>
    subst hkf
    obtain rfl := Option.some.inj hf
    exact ⟨h.start_le, le_refl k, rfl, by rw [h.console_eq]⟩
  · exact h.checkpoint f stored hf

theorem Refines.saveCheckpointNowLocked
    (h : Refines tick localPlayer truth start initial s current k)
    {context : Context} (hstyle : SavestateStyle context.config) :
    Refines tick localPlayer truth start initial
      (saveCheckpointNowLocked context (exactConsole tick) s k) current k := by
  unfold RollbackRuntime.saveCheckpointNowLocked
  split
  · exact h
  · split
    · exact h
    · exact h.writeCheckpoint hstyle

theorem Refines.saveCheckpointIfNeeded
    (h : Refines tick localPlayer truth start initial s current k)
    {context : Context} (hstyle : SavestateStyle context.config) :
    Refines tick localPlayer truth start initial
      (saveCheckpointIfNeeded context (exactConsole tick) s k) current k := by
  unfold RollbackRuntime.saveCheckpointIfNeeded
  split
  · exact h
  · split
    · exact h
    · exact h.writeCheckpoint hstyle

/-- Restoring a checkpoint at or before the pending frame: what is left to do is to replay. -/
theorem Refines.restore (h : Refines tick localPlayer truth start initial s current current)
    {pending restoreFrame : Nat} {stored : StoredState σ} {restored : σ}
    (hp : s.inputs.rollbackInputs.pendingRollbackFrame = some pending)
    (hle : restoreFrame ≤ pending) (hstored : s.store.states[restoreFrame]? = some stored)
    (hrestored : stored.buffer = some restored) :
    Refines tick localPlayer truth start initial
      { s with
        inputs := s.inputs.clearPendingRollback
        store := s.store.eraseAfter restoreFrame
        console := restored } current restoreFrame := by
  obtain ⟨hstart, hcur, -, hbuffer⟩ := h.checkpoint restoreFrame stored hstored
  refine { h with
    start_le := hstart, le_current := hcur, console_eq := ?_, checkpoint := ?_, sound := ?_,
    confirmed := h.confirmed, pending_lt := ?_ }
  · rw [hrestored] at hbuffer
    exact Option.some.inj hbuffer
  · intro f other hf
    rw [Store.getElem?_eraseAfter] at hf
    split at hf
    · next hfr =>
      obtain ⟨h1, -, h3, h4⟩ := h.checkpoint f other hf
      exact ⟨h1, hfr, h3, h4⟩
    · exact absurd hf (by simp)
  · -- below the restored frame nothing is covered, so everything is on record
    intro g u hg hu
    rcases h.sound g u (by omega) hu with ⟨q, hq, hqg⟩ | htr
    · rw [hp] at hq
      obtain rfl := Option.some.inj hq
      omega
    · exact Or.inr (Runtime.tracks_clearPendingRollback_iff.mpr htr)
  · intro p hpend
    exact absurd hpend
      (by simp [Runtime.clearPendingRollback, PredictionRuntime.clearPendingRollback])

/-! ## The replay loop -/

theorem Refines.resimulateFrame (h : Refines tick localPlayer truth start initial s current k)
    {context : Context} (hstyle : SavestateStyle context.config)
    (hplayer : context.localPlayer = localPlayer) (hk : k < current) :
    ∃ t, resimulateFrame context (exactConsole tick) current s k = some t ∧
      Refines tick localPlayer truth start initial t current (k + 1) := by
  obtain ⟨inputs, hremote, hplayers, heq⟩ :=
    resimulateFrame_eq (exactConsole tick) context current s k
  rw [hplayer] at hplayers
  have hretain : (replayProbe context.config).retainConfirmation = false := rfl
  have hrun := h.runFrame hretain hremote hplayers
  rw [show max current (k + 1) = current by omega] at hrun
  rw [heq]
  dsimp only
  split
  · exact ⟨_, rfl, hrun.saveCheckpointNowLocked hstyle⟩
  · exact ⟨_, rfl, hrun⟩

/-- The whole replay brings the console back to the current frame. -/
theorem Refines.resimulateFrames {context : Context} (hstyle : SavestateStyle context.config)
    (hplayer : context.localPlayer = localPlayer) (count : Nat)
    (h : Refines tick localPlayer truth start initial s current k) (hcount : k + count = current) :
    ∃ t, resimulateFrames context (exactConsole tick) current (List.range' k count) s = (t, true) ∧
      Refines tick localPlayer truth start initial t current current := by
  induction count generalizing s k with
  | zero =>
    obtain rfl : k = current := by omega
    exact ⟨s, rfl, h⟩
  | succ count ih =>
    obtain ⟨t, ht, hinv⟩ := h.resimulateFrame hstyle hplayer (by omega)
    obtain ⟨t', ht', hinv'⟩ := ih hinv (by omega)
    refine ⟨t', ?_, hinv'⟩
    rw [List.range'_succ]
    unfold RollbackRuntime.resimulateFrames
    rw [ht]
    exact ht'

theorem Refines.replayFrom {context : Context} (hstyle : SavestateStyle context.config)
    (hplayer : context.localPlayer = localPlayer) {restored : σ}
    (h : Refines tick localPlayer truth start initial { s with console := restored } current k) :
    Refines tick localPlayer truth start initial
      (replayFrom context (exactConsole tick) s k current restored).1 current current := by
  obtain ⟨t, ht, hinv⟩ := Refines.resimulateFrames hstyle hplayer (current - k) h
    (by have := h.le_current; omega)
  unfold RollbackRuntime.replayFrom
  rw [hstyle.refreshFrameShadowLocked_eq]
  dsimp only
  rw [ht]
  dsimp only
  rw [hstyle.refreshFrameShadowLocked_eq]
  exact hinv

/-! ## Resimulation as a whole -/

/-- A pending rollback can be carried out as it stands: the depth limit does not cut it short, and a
checkpoint at or before it is stored. -/
def CanRollBack {β : Type} (context : Context) (s : State σ β) (frame : Nat) : Prop :=
  ∀ pending, s.inputs.rollbackInputs.pendingRollbackFrame = some pending → pending < frame →
    clampResimulationMismatch pending frame context.config.maxResimFrames = pending ∧
      (s.store.latestAtOrBefore pending).isSome

theorem SavestateStyle.ne_romLoop {config : RollbackConfig} (h : SavestateStyle config) :
    config.backend ≠ .romLoop := by
  rcases h with h | h | h <;> simp [h]

theorem Refines.resimulateIfNeeded
    (h : Refines tick localPlayer truth start initial s current current)
    {context : Context} (hstyle : SavestateStyle context.config)
    (hplayer : context.localPlayer = localPlayer)
    (hdelay : context.config.predictionProbeConfirmDelayFrames = 0)
    (hcan : CanRollBack context s current) :
    Refines tick localPlayer truth start initial
      (resimulateIfNeeded context (exactConsole tick) s current).1 current current := by
  unfold RollbackRuntime.resimulateIfNeeded
  split
  · exact h
  · simp only [confirmPredictionProbeLocked_eq hdelay]
    split
    · exact h
    · exact h
    · next hplan => exact absurd hplan (planResimulation_ne_consume h.pending_lt)
    · next mismatchFrame hplan =>
      obtain ⟨pending, hp, hlt, hmis⟩ := planResimulation_eq_resimulate hstyle.ne_romLoop hplan
      obtain ⟨hclamp, hsome⟩ := hcan pending hp hlt
      rw [hclamp] at hmis
      subst hmis
      obtain ⟨⟨restoreFrame, stored⟩, hlatest⟩ := Option.isSome_iff_exists.mp hsome
      obtain ⟨hstored, hle⟩ := Store.latestAtOrBefore_eq_some hlatest
      obtain ⟨-, -, hdeltaFlag, hbuffer⟩ := h.checkpoint restoreFrame stored hstored
      have hrestore : restoreCheckpoint context (exactConsole tick) s restoreFrame stored =
          some (Run.stateAt tick (playersOf s.used) initial start restoreFrame, true) := by
        unfold restoreCheckpoint
        rw [hstyle.not_preimage, Store.buildRestoreChain_of_keyframe hstored hdeltaFlag]
        simp [restoreStoredStates, restoreDeltas, restoreBuffer, hdeltaFlag, hbuffer, exactConsole]
      rw [hlatest]
      dsimp only
      rw [hrestore]
      dsimp only
      simp only [Bool.not_true, Bool.false_eq_true, if_false]
      exact Refines.replayFrom hstyle hplayer (h.restore hp hle hstored hbuffer)

end

/-! ## Whole runs -/

namespace Session

/-- What a run may do: no remote frame is confirmed with two values, and a pending rollback finds
its checkpoint when it is served. -/
def Permitted {β : Type} (context : Context) (truth : Nat → InputState) (s : Session σ β) :
    SessionOp → Prop
  | .resimulate => CanRollBack context s.state s.currentFrame
  | .saveCheckpoint => True
  | .storeRemote arrival _ => arrival.input = truth arrival.frame
  | .runFrame _ late => ∀ arrival ∈ late, arrival.input = truth arrival.frame

/-- Between two operations the console is before the current frame. -/
def Inv (tick : σ → (Fin 2 → InputState) → σ) (localPlayer : Fin 2) (truth : Nat → InputState)
    (start : Nat) (initial : σ) (s : Session σ σ) : Prop :=
  Refines tick localPlayer truth start initial s.state s.currentFrame s.currentFrame

theorem inv_step {tick : σ → (Fin 2 → InputState) → σ} {truth : Nat → InputState} {start : Nat}
    {initial : σ} {context : Context} {delay : Nat} (hstyle : SavestateStyle context.config)
    (hprobe : context.config.predictionProbeConfirmDelayFrames = 0)
    (s : Session σ σ) (op : SessionOp)
    (t : Session σ σ) (h : s.Inv tick context.localPlayer truth start initial)
    (hop : s.Permitted context truth op)
    (hstep : some (s.step context (exactConsole tick) delay op) = some t) :
    t.Inv tick context.localPlayer truth start initial := by
  obtain rfl := Option.some.inj hstep
  unfold Inv at h ⊢
  cases op with
  | resimulate => exact h.resimulateIfNeeded hstyle rfl hprobe hop
  | saveCheckpoint => exact h.saveCheckpointIfNeeded hstyle
  | storeRemote arrival fromPumpThread =>
    refine h.storeArrival hop ?_
    intro n hn
    split at hn
    · exact absurd hn (by simp)
    · exact (Option.some.inj hn).symm
  | runFrame polled late =>
    have hrecord := h.recordLocal (Nat.le_add_right s.currentFrame delay) polled
    have hretain : (predictionProbe context.config).retainConfirmation = false := by
      simp [predictionProbe, hprobe]
    have hrun := hrecord.runFrame hretain rfl
      (rfl : (resolveLiveInputs context delay s.state.inputs s.currentFrame polled).2.players = _)
    rw [show max s.currentFrame (s.currentFrame + 1) = s.currentFrame + 1 by omega] at hrun
    exact hrun.storeArrivals late hop

theorem inv_start (tick : σ → (Fin 2 → InputState) → σ) (localPlayer : Fin 2)
    {truth : Nat → InputState} {inputs : InputTimeline.Runtime}
    (hconfirmed : inputs.ConfirmedBy truth)
    (hfresh : inputs.rollbackInputs = {}) (start : Nat) (initial : σ) :
    Inv tick localPlayer truth start initial
      { state := { inputs := inputs, console := initial }, currentFrame := start } := by
  constructor
  · exact le_refl start
  · exact le_refl start
  · intro f h1 h2
    dsimp only at h2
    omega
  · simp
  · simp
  · rw [Run.stateAt_self]
  · simp
  · intro f u _ hu
    simp [remoteOf] at hu
  · exact hconfirmed
  · simp [hfresh]
  · simp [hfresh]

/-- Once everything is confirmed and nothing is pending, the recorded inputs are the final ones. -/
theorem Inv.playersOf_eq {tick : σ → (Fin 2 → InputState) → σ} {localPlayer : Fin 2}
    {truth : Nat → InputState} {start : Nat} {initial : σ} {s : Session σ σ}
    (h : s.Inv tick localPlayer truth start initial)
    (hpending : s.state.inputs.rollbackInputs.pendingRollbackFrame = none) {f : Nat}
    (hf : start ≤ f) (hlt : f < s.currentFrame) (hsome : (s.state.inputs.remoteInputs[f]?).isSome) :
    playersOf s.state.used f = confirmedPlayers localPlayer s.state.inputs f := by
  obtain ⟨r, hr⟩ := h.ran f hf hlt
  obtain ⟨c, hc⟩ := Option.isSome_iff_exists.mp hsome
  have hremote : r.remoteInput = c := by
    have hused : remoteOf s.state.used f = some r.remoteInput := by simp [remoteOf, hr]
    rcases h.sound f r.remoteInput hlt hused with ⟨p, hp, -⟩ | htr
    · rw [hpending] at hp
      exact absurd hp (by simp)
    · exact htr.eq_of_confirmed hc
  unfold playersOf confirmedPlayers
  rw [hr, hc]
  dsimp only
  rw [h.players_eq f r hr, hremote]
  rfl

/-- Rollback refines lockstep. Every stored checkpoint is the state reached on the inputs recorded
as used before it; and once every remote input below the current frame is confirmed and no rollback
is pending, the console is in the state of a run that had the confirmed inputs of both players from
the beginning. The probe that injects wrong inputs and confirms them later is off. -/
theorem rollback_refines_lockstep (tick : σ → (Fin 2 → InputState) → σ) (context : Context)
    (hstyle : SavestateStyle context.config)
    (hprobe : context.config.predictionProbeConfirmDelayFrames = 0) (delay : Nat)
    (truth : Nat → InputState) (inputs : InputTimeline.Runtime)
    (hconfirmed : inputs.ConfirmedBy truth)
    (hfresh : inputs.rollbackInputs = {}) (start : Nat) (initial : σ) (ops : List SessionOp)
    (s : Session σ σ)
    (hops : Run.Along (fun s op => some (step context (exactConsole tick) delay s op))
      (Permitted context truth)
      { state := { inputs := inputs, console := initial }, currentFrame := start } ops)
    (hrun : Run.run (fun s op => some (step context (exactConsole tick) delay s op))
      { state := { inputs := inputs, console := initial }, currentFrame := start } ops = some s) :
    (∀ (f : Nat) stored, s.state.store.states[f]? = some stored →
      stored.buffer = some (Run.stateAt tick (playersOf s.state.used) initial start f)) ∧
    ((∀ f, start ≤ f → f < s.currentFrame → (s.state.inputs.remoteInputs[f]?).isSome) →
      s.state.inputs.rollbackInputs.pendingRollbackFrame = none →
      s.state.console = Run.stateAt tick (confirmedPlayers context.localPlayer s.state.inputs)
        initial start s.currentFrame) := by
  have hinit := inv_start tick context.localPlayer hconfirmed hfresh start initial
  have hinv : s.Inv tick context.localPlayer truth start initial :=
    Run.run_invariant (inv_step hstyle hprobe) hinit hops hrun
  constructor
  · intro f stored hf
    exact (hinv.checkpoint f stored hf).2.2.2
  · intro hall hpending
    rw [hinv.console_eq]
    apply Run.stateAt_congr
    intro f hf hlt
    exact hinv.playersOf_eq hpending hf hlt (hall f hf hlt)

/-- Two predicted frames, both confirmed differently, and one resimulation from the first. -/
def lateConfirmations : List SessionOp :=
  [.saveCheckpoint, .runFrame {} [], .saveCheckpoint, .runFrame {} [],
    .storeRemote ⟨2, Play.pressA⟩ false, .storeRemote ⟨1, Play.pressA⟩ true, .resimulate]

theorem rollback_refines_lockstep_lateConfirmations :
    let context : Context := { config := { enabled := true, resimulate := true }, localPlayer := 0 }
    ∃ s : Session (List (UInt32 × UInt32)) (List (UInt32 × UInt32)),
      Run.run (fun s op => some (step context (exactConsole buttonLog) 0 s op))
        { state := { console := [] }, currentFrame := 1 } lateConfirmations = some s ∧
      s.state.console = [(0xFFF, 0xFFE), (0xFFF, 0xFFE)] ∧
      s.state.console =
        Run.stateAt buttonLog (confirmedPlayers 0 s.state.inputs) [] 1 s.currentFrame := by
  intro context
  refine ⟨_, rfl, by decide +kernel, ?_⟩
  refine (rollback_refines_lockstep buttonLog context (Or.inl rfl) rfl 0 (fun _ => Play.pressA) {}
    (by simp [Runtime.ConfirmedBy]) rfl 1 [] lateConfirmations _ ?_ rfl).2 ?_ (by decide +kernel)
  · simp only [lateConfirmations, Run.Along, Permitted, Option.some.injEq,
      forall_eq', List.not_mem_nil, false_implies, implies_true, true_and, and_true]
    intro pending hp _
    obtain rfl : pending = 1 := Option.some.inj (hp.symm.trans (by decide +kernel))
    exact ⟨by decide +kernel, by decide +kernel⟩
  · intro f h1 h2
    have hlast : f < 3 := h2
    obtain rfl | rfl : f = 1 ∨ f = 2 := by omega
    · decide +kernel
    · decide +kernel

end Session

end Bigstar.Netplay.RollbackRuntime
