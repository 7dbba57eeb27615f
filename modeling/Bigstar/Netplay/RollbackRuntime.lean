import Bigstar.Lib.Pages
import Bigstar.Netplay.InputTimeline
import Bigstar.Netplay.RollbackStore

/-!
# Saving, restoring and resimulating

`NsmbRollbackRuntime.cpp` for every backend that writes its checkpoints into the store, that is, for
every backend but the ROM loop (`RomLoop.lean`). The emulated console is a parameter: it runs one
frame on the inputs of both players and serialises itself; the store only ever sees its main RAM and
its savestates.

Two records that the source does not keep are carried along for the proofs: the inputs that each
frame was last run with, and the console as it was when a checkpoint was written.
-/

namespace Bigstar.Netplay.RollbackRuntime

open OrderedMap InputTimeline RollbackStorage

/-- `RollbackBackend`: where checkpoints are kept and how main RAM is encoded in them. -/
inductive RollbackBackend where
  /-- A whole savestate of the console. -/
  | savestate
  /-- The core alone, with all of main RAM. -/
  | coreLite
  /-- The core, and the pages of main RAM that are not zero. -/
  | coreSparse
  /-- The core, and the pages that differ from the last keyframe. -/
  | coreDelta
  /-- The core, and the pages that differ from the checkpoint before. -/
  | coreFrameDelta
  /-- The core, and what changed pages held at the checkpoint before. -/
  | corePreimage
  /-- The same with a smaller core. -/
  | tinyCorePreimage
  /-- Main RAM alone, which the patched game restores and replays itself. -/
  | romLoop
  deriving DecidableEq

/-- `Config.Rollback`. -/
structure RollbackConfig where
  /-- Missing inputs are predicted. -/
  enabled : Bool := false
  /-- A wrong prediction is corrected. -/
  resimulate : Bool := false
  /-- A replay writes no checkpoints. -/
  skipIntermediateResimCheckpoints : Bool := false
  /-- The probe mispredicts every so many frames on purpose; 0 switches it off. -/
  predictionProbeModulo : Int := 0
  /-- Which of these frames. -/
  predictionProbeOffset : Int := 0
  /-- How often at most; negative for no limit. -/
  predictionProbeLimit : Int := -1
  /-- The first frame of the probe. -/
  predictionProbeStartFrame : Nat := 0
  /-- Its last frame, or 0 where it has none. -/
  predictionProbeEndFrame : Nat := 0
  /-- The keys that it gets wrong. -/
  predictionProbeKeyMask : UInt32 := 1
  /-- For how many frames it holds the confirmation back. -/
  predictionProbeConfirmDelayFrames : Int := 0
  /-- The backend. -/
  backend : RollbackBackend := .savestate
  /-- For how many frames checkpoints and predictions are kept. -/
  window : Int := 20
  /-- How many frames lie between two checkpoints. -/
  checkpointInterval : Int := 1
  /-- How many frames lie between two keyframes. -/
  deltaKeyframeInterval : Int := 10
  /-- The length of a page of main RAM. -/
  mainRAMPageSize : Int := 4096
  /-- How long a correction is put off. -/
  resimulateDelayFrames : Int := 0
  /-- How many frames a correction replays at most; 0 for no limit. -/
  maxResimFrames : Int := 0
  /-- How many frames may run on predictions; 0 for no limit. -/
  predictionHorizonFrames : Int := 0

/-- What the rollback functions read of the session. -/
structure Context where
  /-- `Config.Rollback`. -/
  config : RollbackConfig
  /-- `InputConfig::NetplayOnly`. -/
  netplayOnly : Bool := true
  /-- The frame from which the rollback counts. -/
  netplayStartFrame : Nat := 0
  /-- `CurrentLocalPlayer()`, which is 0 or 1. -/
  localPlayer : Fin 2

/-- How a savestate encodes main RAM. -/
inductive MainRAMMode where
  /-- All of it. -/
  | full
  /-- The pages that are not zero. -/
  | sparse
  /-- The pages that differ from the base. -/
  | delta
  /-- Nothing. -/
  | skip
  deriving DecidableEq

/-- The emulated console. The savestate functions are `SaveCheckpointBuffer` and
`RestoreCheckpointBuffer`, whose last argument is the main RAM a delta is taken against; restoring
says whether it succeeded. -/
structure Console (σ β : Type) where
  /-- `MainRAMMask + 1`. -/
  ramLength : Nat
  /-- Main RAM. -/
  mainRAM : σ → List UInt8
  /-- Replaces main RAM. -/
  setMainRAM : σ → List UInt8 → σ
  /-- `SaveCheckpointBuffer`, which may fail. -/
  saveCheckpointBuffer : σ → MainRAMMode → Option (List UInt8) → Option β
  /-- `RestoreCheckpointBuffer`; where it fails, the console may have changed. -/
  restoreCheckpointBuffer : σ → β → Option (List UInt8) → σ × Bool
  /-- Runs one frame on the inputs of both players. -/
  runFrame : σ → (Fin 2 → InputState) → σ
  /-- Main RAM always has its length. -/
  mainRAM_length : ∀ s, (mainRAM s).length = ramLength
  /-- What is written is what is read. -/
  mainRAM_setMainRAM : ∀ s ram, ram.length = ramLength → mainRAM (setMainRAM s ram) = ram

/-- The session as the rollback functions see it. -/
structure State (σ β : Type) where
  /-- The inputs. -/
  inputs : InputTimeline.Runtime := {}
  /-- The checkpoints. -/
  store : Store β := {}
  /-- The console. -/
  console : σ
  /-- The inputs that each frame was last run with. -/
  used : NatMap ReplayFrameInputs := ∅
  /-- The console when the checkpoint of a frame was last written. -/
  saved : NatMap σ := ∅

/-- No key is pressed. -/
def neutralInput : InputState := {}

/-- Checkpoints hold what main RAM was before. -/
def isPreimageBackend (config : RollbackConfig) : Bool :=
  config.backend == .corePreimage || config.backend == .tinyCorePreimage

/-- The probe as it is configured. -/
def predictionProbe (config : RollbackConfig) : PredictionProbe where
  modulo := config.predictionProbeModulo
  offset := config.predictionProbeOffset
  limit := config.predictionProbeLimit
  startFrame := config.predictionProbeStartFrame
  endFrame :=
    if config.predictionProbeEndFrame ≠ kNoFrame then some config.predictionProbeEndFrame else none
  keyMask := config.predictionProbeKeyMask
  retainConfirmation := config.predictionProbeConfirmDelayFrames > 0

/-- The probe of a replay, which must not inject its error a second time. -/
def replayProbe (config : RollbackConfig) : PredictionProbe :=
  { predictionProbe config with retainConfirmation := false }

/-- The window as the pruning functions take it. -/
def windowFrames (config : RollbackConfig) : Nat :=
  if config.window > 0 then config.window.toNat else 0

/-! ## The prediction probe -/

/-- The loop of `ConfirmPredictionProbeLocked`. Every round takes one confirmation out of the map,
so as many rounds as it has entries are enough. -/
def confirmProbeLoop (frame dueFrame : Nat) : Nat → InputTimeline.Runtime → InputTimeline.Runtime
  | 0, inputs => inputs
  | rounds + 1, inputs =>
    match inputs.rollbackInputs.takePredictionProbeConfirmationAtOrBefore dueFrame with
    | (_, none) => inputs
    | (rollbackInputs, some confirmation) =>
      let inputs := { inputs with rollbackInputs := rollbackInputs }
      confirmProbeLoop frame dueFrame rounds
        (inputs.storeRemote confirmation.1 confirmation.2 (some frame) true kNoFrame).1

/-- The confirmations that were held back long enough arrive. -/
def confirmPredictionProbeLocked (context : Context) (frame : Nat)
    (inputs : InputTimeline.Runtime) : InputTimeline.Runtime :=
  let confirmationDelay := (context.config.predictionProbeConfirmDelayFrames % 2 ^ 32).toNat
  if confirmationDelay = 0 ∨ frame < confirmationDelay then inputs
  else
    confirmProbeLoop frame (frame - confirmationDelay)
      inputs.rollbackInputs.predictionProbeConfirmations.size inputs

/-! ## Saving -/

section Save

variable {σ β : Type} (context : Context) (console : Console σ β)

/-- What a checkpoint of this backend is a delta of. -/
def deltaMode : DeltaMode :=
  if isPreimageBackend context.config then .preimage
  else if context.config.backend = .coreFrameDelta then .frameDelta
  else if context.config.backend = .coreDelta then .keyframeDelta
  else .none

/-- The header of the checkpoint, and the main RAM that it is encoded against. -/
def prepareDeltaSaveLocked (store : Store β) (frame : Nat) : StoredState β × List UInt8 :=
  let keyframeInterval :=
    if context.config.deltaKeyframeInterval > 0 then
      context.config.deltaKeyframeInterval.toNat else 0
  store.prepareSave frame (deltaMode context) keyframeInterval context.netplayStartFrame

/-- One round of the loop of `CaptureFramePreimage`: a page that differs is stored as it was. -/
def capturePage (pageSize : Nat) (mainRAM baseMainRAM : List UInt8) (checkpoint : StoredState β)
    (k : Nat) : StoredState β :=
  if Pages.page pageSize k mainRAM = Pages.page pageSize k baseMainRAM then checkpoint
  else
    { checkpoint with
      mainRAMPreimagePages := checkpoint.mainRAMPreimagePages ++ [k]
      mainRAMPreimage := checkpoint.mainRAMPreimage ++ Pages.page pageSize k baseMainRAM }

/-- Records in the checkpoint what the pages that changed since the frame shadow held before. -/
def captureFramePreimage (checkpoint : StoredState β) (mainRAM baseMainRAM : List UInt8) :
    Option (StoredState β) :=
  if !checkpoint.mainRAMFramePreimage then some checkpoint
  else if baseMainRAM.length ≠ mainRAM.length then none
  else
    let pageSize := context.config.mainRAMPageSize.toNat
    some ((List.range (Pages.pageCount pageSize mainRAM.length)).foldl
      (capturePage pageSize mainRAM baseMainRAM) checkpoint)

/-- Backends that encode against the frame before keep the main RAM of this one. -/
def refreshFrameShadowLocked (store : Store β) (frame : Nat) (mainRAM : List UInt8) : Store β :=
  if context.config.backend ≠ .coreFrameDelta ∧ !isPreimageBackend context.config then store
  else store.updateFrameShadow frame mainRAM

/-- Checkpoints and predictions before the window are dropped. -/
def pruneHistoryLocked (s : State σ β) (frame : Nat) : State σ β :=
  { s with
    store := s.store.prune frame (windowFrames context.config)
    inputs := s.inputs.prunePredictions frame (windowFrames context.config) }

/-- How the savestate of this checkpoint encodes main RAM. -/
def mainRAMMode (checkpoint : StoredState β) : MainRAMMode :=
  if isPreimageBackend context.config then .skip
  else if checkpoint.mainRAMDelta then .delta
  else if context.config.backend = .coreSparse then .sparse
  else .full

/-- The checkpoint of the console as it is now; `none` where the source gives up. -/
def encodeCheckpoint (s : State σ β) (frame : Nat) : Option (StoredState β) :=
  let mainRAM := console.mainRAM s.console
  let (checkpoint, deltaBaseMainRAM) := prepareDeltaSaveLocked context s.store frame
  if checkpoint.mainRAMDelta ∧ deltaBaseMainRAM.length ≠ mainRAM.length then none
  else
    match captureFramePreimage context checkpoint mainRAM deltaBaseMainRAM with
    | none => none
    | some checkpoint =>
      let base := if checkpoint.mainRAMDelta then some deltaBaseMainRAM else none
      match console.saveCheckpointBuffer s.console (mainRAMMode context checkpoint) base with
      | none => none
      | some buffer =>
        let mainRAMCopy :=
          if context.config.backend = .coreDelta ∧ !checkpoint.mainRAMDelta then mainRAM else []
        some { checkpoint with buffer := some buffer, mainRAMCopy := mainRAMCopy }

/-- The common body of `SaveCheckpointIfNeeded` and `SaveCheckpointNowLocked`. -/
def writeCheckpoint (s : State σ β) (frame : Nat) : State σ β :=
  match encodeCheckpoint context console s frame with
  | none => s
  | some checkpoint =>
    let store := s.store.put frame checkpoint
    let store := refreshFrameShadowLocked context store frame (console.mainRAM s.console)
    pruneHistoryLocked context
      { s with store := store, saved := s.saved.insert frame s.console } frame

/-- The checkpoint of a replayed frame. -/
def saveCheckpointNowLocked (s : State σ β) (frame : Nat) : State σ β :=
  if context.config.window ≤ 0 then s
  else if !shouldSaveCheckpoint frame context.config.checkpointInterval
    context.netplayStartFrame then s
  else writeCheckpoint context console s frame

/-- The checkpoint at the beginning of a frame. -/
def saveCheckpointIfNeeded (s : State σ β) (frame : Nat) : State σ β :=
  if !context.config.enabled || !context.netplayOnly
      || (context.netplayStartFrame ≠ 0 && decide (frame < context.netplayStartFrame))
      || context.config.window ≤ 0 then s
  else if !shouldSaveCheckpoint frame context.config.checkpointInterval
    context.netplayStartFrame then s
  else writeCheckpoint context console s frame

end Save

/-! ## Restoring -/

section Restore

variable {σ β : Type} (context : Context) (console : Console σ β)

/-- `RestoreCheckpointBuffer` of a stored savestate. -/
def restoreBuffer (s : σ) (state : StoredState β) (base : Option (List UInt8)) : σ × Bool :=
  match state.buffer with
  | none => (s, false)
  | some buffer => console.restoreCheckpointBuffer s buffer base

/-- The loop of `RestoreStoredStates` over the deltas that follow the keyframe. -/
def restoreDeltas : List (StoredState β) → σ → σ × Bool
  | [], s => (s, true)
  | state :: chain, s =>
    if !state.mainRAMDelta then (s, false)
    else
      match restoreBuffer console s state (some (console.mainRAM s)) with
      | (s, false) => (s, false)
      | (s, true) => restoreDeltas chain s

/-- A keyframe and the deltas after it are loaded in turn. -/
def restoreStoredStates (s : σ) (chain : List (StoredState β)) : σ × Bool :=
  match chain with
  | [] => (s, false)
  | front :: chain =>
    if front.mainRAMDelta then (s, false)
    else
      match restoreBuffer console s front none with
      | (s, false) => (s, false)
      | (s, true) => restoreDeltas console chain s

/-- The loop of `RestorePreimageState` over the pages of one checkpoint. It stops, with what it has
written so far, at a page that the stored bytes do not cover. -/
def undoPages (pageSize : Nat) (preimage : List UInt8) :
    List Nat → Nat → List UInt8 → List UInt8 × Bool
  | [], inputOffset, mainRAM => (mainRAM, inputOffset == preimage.length)
  | page :: pages, inputOffset, mainRAM =>
    let offset := page * pageSize
    if offset ≥ mainRAM.length then (mainRAM, false)
    else
      let pageBytes := min pageSize (mainRAM.length - offset)
      if inputOffset + pageBytes > preimage.length then (mainRAM, false)
      else
        undoPages pageSize preimage pages (inputOffset + pageBytes)
          (Pages.writeAt mainRAM offset ((preimage.drop inputOffset).take pageBytes))

/-- The loop of `RestorePreimageState` over the checkpoints, newest first. -/
def undoStates (pageSize : Nat) : List (StoredState β) → List UInt8 → List UInt8 × Bool
  | [], mainRAM => (mainRAM, true)
  | state :: states, mainRAM =>
    match undoPages pageSize state.mainRAMPreimage state.mainRAMPreimagePages 0 mainRAM with
    | (mainRAM, false) => (mainRAM, false)
    | (mainRAM, true) => undoStates pageSize states mainRAM

/-- Main RAM is led back from the frame shadow, then the core is loaded. -/
def restorePreimageState (s : σ) (checkpoint : StoredState β)
    (reverseStates : List (StoredState β)) (latestMainRAM : List UInt8) : σ × Bool :=
  if latestMainRAM.length ≠ (console.mainRAM s).length then (s, false)
  else
    match undoStates context.config.mainRAMPageSize.toNat reverseStates latestMainRAM with
    | (mainRAM, false) => (console.setMainRAM s mainRAM, false)
    | (mainRAM, true) => restoreBuffer console (console.setMainRAM s mainRAM) checkpoint none

end Restore

/-! ## Resimulating -/

/-- What the checks at the head of `ResimulateIfNeeded` make of the pending rollback. -/
inductive ResimulationPlan where
  /-- Nothing to correct now. -/
  | wait
  /-- The pending frame is the current one; the request is dropped. -/
  | consume
  /-- A correction deeper than the prediction horizon allows: the process exits. -/
  | exit
  /-- Simulate again from a checkpoint at or before this frame. -/
  | resimulate (mismatchFrame : Nat)
  deriving DecidableEq

/-- `MaxRollbackDepthForHistory(kRomLoopHistoryCapacity)`. -/
def romLoopMaxRollbackDepth : Nat := 11

/-- The checks before a correction: whether, and from which frame. -/
def planResimulation (config : RollbackConfig) (p : PredictionRuntime) (frame : Nat) :
    ResimulationPlan :=
  match p.pendingRollbackFrame with
  | none => .wait
  | some pendingFrame =>
    if pendingFrame = frame then .consume
    else if pendingFrame ≥ frame then .wait
    else
      let romLoopBackend : Bool := config.backend = .romLoop
      if romLoopBackend ∧ config.predictionHorizonFrames > 0
          ∧ frame - pendingFrame > config.predictionHorizonFrames.toNat then .exit
      else
        let mismatchFrame :=
          if romLoopBackend ∧ config.predictionHorizonFrames > 0 then pendingFrame
          else
            let maxResimFrames : Int :=
              if romLoopBackend then romLoopMaxRollbackDepth else config.maxResimFrames
            clampResimulationMismatch pendingFrame frame maxResimFrames
        if !isResimulationDelayElapsed frame p.pendingRollbackObservedFrame
            config.resimulateDelayFrames then .wait
        else .resimulate mismatchFrame

section Resimulate

variable {σ β : Type} (context : Context) (console : Console σ β)

/-- One round of the replay: the inputs of the frame are resolved anew, the frame is run, and the
checkpoint of the frame after it is written again unless it is the current one. -/
def resimulateFrame (frame : Nat) (s : State σ β) (resimFrame : Nat) : Option (State σ β) :=
  match resolveReplayFrameInputs s.inputs resimFrame (context.localPlayer : Nat) neutralInput
      (replayProbe context.config) with
  | (_, none) => none
  | (inputs, some replayInputs) =>
    let s := { s with
      inputs := inputs
      console := console.runFrame s.console replayInputs.players
      used := s.used.insert resimFrame replayInputs }
    if shouldSaveResimulationCheckpoint (resimFrame + 1) frame
        context.config.skipIntermediateResimCheckpoints then
      some (saveCheckpointNowLocked context console s (resimFrame + 1))
    else some s

/-- The replay of the frames from the restored one up to the current one. -/
def resimulateFrames (frame : Nat) : List Nat → State σ β → State σ β × Bool
  | [], s => (s, true)
  | resimFrame :: frames, s =>
    match resimulateFrame context console frame s resimFrame with
    | none => (s, false)
    | some s => resimulateFrames frame frames s

/-- The second half of `ResimulateIfNeeded`: `restored` is the console after the restore. -/
def replayFrom (s : State σ β) (restoreFrame frame : Nat) (restored : σ) : State σ β × Bool :=
  let s := { s with
    console := restored
    store := refreshFrameShadowLocked context s.store restoreFrame (console.mainRAM restored) }
  match resimulateFrames context console frame
    (List.range' restoreFrame (frame - restoreFrame)) s with
  | (s, false) => (s, false)
  | (s, true) =>
    ({ s with
        store := refreshFrameShadowLocked context s.store frame (console.mainRAM s.console) }, true)

/-- Restores the checkpoint of a frame; `none` if the store has no complete chain for it. -/
def restoreCheckpoint (s : State σ β) (restoreFrame : Nat) (checkpoint : StoredState β) :
    Option (σ × Bool) :=
  if isPreimageBackend context.config then
    match s.store.buildPreimageRestore restoreFrame with
    | none => none
    | some (reverseStates, latestMainRAM) =>
      some (restorePreimageState context console s.console checkpoint reverseStates latestMainRAM)
  else
    match s.store.buildRestoreChain restoreFrame with
    | none => none
    | some restoreChain => some (restoreStoredStates console s.console restoreChain)

/-- `ResimulateIfNeeded` for the backends that keep their checkpoints in the store; says whether a
correction was carried out. -/
def resimulateIfNeeded (s : State σ β) (frame : Nat) : State σ β × Bool :=
  if !context.config.enabled || !context.config.resimulate || !context.netplayOnly then (s, false)
  else
    let s := { s with inputs := confirmPredictionProbeLocked context frame s.inputs }
    match planResimulation context.config s.inputs.rollbackInputs frame with
    | .wait => (s, false)
    | .exit => (s, false)
    | .consume => ({ s with inputs := s.inputs.clearPendingRollback }, false)
    | .resimulate mismatchFrame =>
      let cleared := { s with inputs := s.inputs.clearPendingRollback }
      match s.store.latestAtOrBefore mismatchFrame with
      | none => (cleared, false)
      | some (restoreFrame, checkpoint) =>
        match restoreCheckpoint context console s restoreFrame checkpoint with
        | none => (cleared, false)
        | some (restored, success) =>
          let s := { cleared with store := s.store.eraseAfter restoreFrame }
          if !success then ({ s with console := restored }, false)
          else replayFrom context console s restoreFrame frame restored

end Resimulate

end Bigstar.Netplay.RollbackRuntime
