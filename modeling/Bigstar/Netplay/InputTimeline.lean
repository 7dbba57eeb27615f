import Bigstar.Lib.OrderedMap
import Bigstar.Lib.TwoParty
import Mathlib.Algebra.Ring.Int.Defs
import Mathlib.Algebra.Ring.Nat

/-!
# The input timeline

`NsmbInputTimeline.cpp`: the inputs of both players by frame, the predictions made for remote frames
that have not arrived, and the frame from which the guest has to be simulated again.

Frames are `melonDS::u32` in the source. Here they are natural numbers, and every sum that the
source computes in 32 bits is reduced by `u32`. Counters and time stamps that only feed the trace
output are left out.
-/

namespace Bigstar.Netplay

open OrderedMap

/-- The value of a 32-bit unsigned sum. -/
def u32 (n : Nat) : Nat := n % 2 ^ 32

/-- The value of an `int`: a conversion to one, or a sum that wraps around (the build passes
`-fwrapv`). -/
def i32 (n : Int) : Int := n.bmod (2 ^ 32)

theorem i32_of_bounds {n : Int} (hlow : -2 ^ 31 ≤ n) (hhigh : n < 2 ^ 31) : i32 n = n := by
  unfold i32
  exact Int.bmod_eq_of_le (by omega) (by omega)

theorem i32_of_lt {n : Nat} (h : n < 2 ^ 31) : i32 n = n := i32_of_bounds (by omega) (by omega)

theorem i32_lt (n : Int) : i32 n < 2 ^ 31 := by
  unfold i32
  have := Int.bmod_lt (x := n) (m := 2 ^ 32) (by decide)
  omega

/-- Where a value does not fit, it comes back smaller by a multiple of 2^32. -/
theorem i32_le_of_le {n : Int} (h : 2 ^ 31 ≤ n) : i32 n ≤ n - 2 ^ 32 := by
  unfold i32
  have := Int.bmod_emod (x := n) (m := 2 ^ 32)
  have := Int.bmod_lt (x := n) (m := 2 ^ 32) (by decide)
  omega

/-- `std::numeric_limits<melonDS::u32>::max()`. -/
def u32Max : Nat := 0xFFFFFFFF

/-- The buttons (active low) and the touch screen of one player in one frame. -/
structure InputState where
  /-- A bit is clear where its button is pressed. -/
  keyMask : UInt32 := 0xFFF
  /-- The screen is touched. -/
  touching : Bool := false
  /-- Where, from the left. -/
  touchX : UInt16 := 0
  /-- Where, from the top. -/
  touchY : UInt16 := 0
  deriving DecidableEq, Repr

/-- `SelectPlayerInput`: the input of a player, as one of the two consoles has it. -/
def selectPlayerInput (player localPlayer : Fin 2) (localInput remoteInput : InputState)
    (hasRemoteInput : Bool) : InputState :=
  if player = localPlayer then localInput else if hasRemoteInput then remoteInput else {}

/-- Inputs by frame. -/
abbrev InputMap := NatMap InputState

namespace InputTimeline

/-- `InputsEqual`: the position counts only where the screen is touched. -/
def inputsEqual (left right : InputState) : Bool :=
  left.keyMask == right.keyMask
    && left.touching == right.touching
    && left.touchX == right.touchX
    && left.touchY == right.touchY

/-- A fault injection that flips buttons in some of the predictions. The default is off. -/
structure PredictionProbe where
  /-- Every so many frames a wrong prediction is made, none for 0. -/
  modulo : Int := 0
  /-- Which one of them. -/
  offset : Int := 0
  /-- How many are made at most, a negative number for no limit. -/
  limit : Int := -1
  /-- The first frame of the probe. -/
  startFrame : Nat := 0
  /-- The last frame of the probe. -/
  endFrame : Option Nat := none
  /-- The buttons that are predicted wrongly. -/
  keyMask : UInt32 := 1
  /-- The true input is held back until the prediction has been used. -/
  retainConfirmation : Bool := false

/-- An input with its origin. -/
structure PredictedInput where
  /-- The input. -/
  input : InputState
  /-- It is a prediction. -/
  predicted : Bool := false
  deriving DecidableEq

/-- What the arrival of an input has shown. -/
structure ConfirmedInputResult where
  /-- The prediction was wrong. -/
  mismatch : Bool := false
  /-- The frame was run with it. -/
  frameAlreadySimulated : Bool := false
  /-- The prediction. -/
  predictedInput : InputState := {}

/-! ## Predictions -/

/-- The predictions that have been made, and the rollback that they need. -/
structure PredictionRuntime where
  /-- By their frames. -/
  predictions : InputMap := ∅
  /-- The true inputs that the probe holds back. -/
  predictionProbeConfirmations : InputMap := ∅
  /-- The first frame that was run with a wrong prediction. -/
  pendingRollbackFrame : Option Nat := none
  /-- The frame in which that was found out. -/
  pendingRollbackObservedFrame : Option Nat := none
  /-- How many predictions have been made. -/
  predictionCount : Nat := 0
  /-- How many of them by the probe. -/
  predictionProbeCount : Nat := 0
  /-- How many were wrong. -/
  mismatchCount : Nat := 0

namespace PredictionRuntime

/-- The part of `Confirm` that lowers the pending frame to `frame`. -/
def raiseRollback (p : PredictionRuntime) (frame observedFrame : Nat) : PredictionRuntime :=
  match p.pendingRollbackFrame with
  | none =>
    { p with
      pendingRollbackFrame := some frame, pendingRollbackObservedFrame := some observedFrame }
  | some pending =>
    if frame < pending then
      { p with
        pendingRollbackFrame := some frame, pendingRollbackObservedFrame := some observedFrame }
    else if p.pendingRollbackObservedFrame.isNone then
      { p with pendingRollbackObservedFrame := some observedFrame }
    else p

/-- `!localFrame || frame < *localFrame`: without a local frame, every frame counts as simulated. -/
def frameAlreadySimulated (frame : Nat) : Option Nat → Bool
  | none => true
  | some localFrame => frame < localFrame

/-- The branch of `Confirm` for a prediction that was wrong: every prediction from there on is
dropped, and a frame that has been simulated asks for a rollback. -/
def dropMispredicted (p : PredictionRuntime) (frame : Nat) (localFrame : Option Nat) :
    PredictionRuntime :=
  let p := { p with mismatchCount := u32 (p.mismatchCount + 1) }
  let p :=
    if frameAlreadySimulated frame localFrame then p.raiseRollback frame (localFrame.getD frame)
    else p
  { p with
    predictions := p.predictions.eraseFrom frame
    predictionProbeConfirmations := p.predictionProbeConfirmations.eraseFrom frame }

/-- `PredictionProbeConfirmations_.erase(frame)`. -/
def eraseProbeConfirmation (p : PredictionRuntime) (frame : Nat) : PredictionRuntime :=
  { p with predictionProbeConfirmations := p.predictionProbeConfirmations.erase frame }

/-- A remote input has arrived: compares it with the prediction for its frame, if there is one. -/
def confirm (p : PredictionRuntime) (frame : Nat) (input : InputState) (localFrame : Option Nat) :
    PredictionRuntime × ConfirmedInputResult :=
  match p.predictions[frame]? with
  | none => (p.eraseProbeConfirmation frame, {})
  | some predicted =>
    if inputsEqual predicted input then (p.eraseProbeConfirmation frame, {})
    else
      ((p.dropMispredicted frame localFrame).eraseProbeConfirmation frame,
        { mismatch := true
          frameAlreadySimulated := frameAlreadySimulated frame localFrame
          predictedInput := predicted })

/-- Whether the probe flips the prediction of a frame. -/
def applyProbe (p : PredictionRuntime) (frame : Nat) (probe : PredictionProbe) : Bool :=
  let belowProbeLimit := probe.limit < 0 || p.predictionProbeCount < probe.limit.toNat
  let insideProbeRange := probe.startFrame ≤ frame &&
    match probe.endFrame with
    | none => true
    | some endFrame => frame ≤ endFrame
  probe.modulo > 0 && belowProbeLimit && insideProbeRange
    && frame % probe.modulo.toNat == (probe.offset % 2 ^ 32).toNat

/-- The input that `Resolve` repeats where a frame has neither a confirmation nor a prediction: the
prediction of the frame before, else the last confirmed input before it, else the neutral one. -/
def guess (p : PredictionRuntime) (frame : Nat) (confirmedInputs : InputMap)
    (neutralInput : InputState) : InputState :=
  let previous := if frame > 0 then p.predictions[frame - 1]? else none
  match previous with
  | some previous => previous
  | none =>
    match confirmedInputs.entryBefore frame with
    | some priorConfirmed => priorConfirmed.2
    | none => neutralInput

/-- `input.KeyMask ^= probe.KeyMask & 0xFFFu`. -/
def flip (probe : PredictionProbe) (input : InputState) : InputState :=
  { input with keyMask := input.keyMask ^^^ (probe.keyMask &&& 0xFFF) }

/-- The remote input of a frame: confirmed if it has arrived, else predicted. -/
def resolve (p : PredictionRuntime) (frame : Nat) (confirmedInputs : InputMap)
    (neutralInput : InputState) (probe : PredictionProbe) : PredictionRuntime × PredictedInput :=
  let applyProbe := p.applyProbe frame probe
  match confirmedInputs[frame]? with
  | some confirmed =>
    if applyProbe && probe.retainConfirmation then
      let input := flip probe confirmed
      ({ p with
          predictionProbeConfirmations := p.predictionProbeConfirmations.insert frame confirmed
          predictions := p.predictions.insert frame input
          predictionProbeCount := u32 (p.predictionProbeCount + 1)
          predictionCount := u32 (p.predictionCount + 1) },
        { input, predicted := true })
    else (p, { input := confirmed, predicted := false })
  | none =>
    match p.predictions[frame]? with
    | some existing => (p, { input := existing, predicted := true })
    | none =>
      let input := p.guess frame confirmedInputs neutralInput
      let (p, input) :=
        if applyProbe then
          let p := if probe.retainConfirmation then
              { p with predictionProbeConfirmations :=
                  p.predictionProbeConfirmations.insertIfNew frame input }
            else p
          ({ p with predictionProbeCount := u32 (p.predictionProbeCount + 1) }, flip probe input)
        else (p, input)
      ({ p with
          predictions := p.predictions.insertIfNew frame input
          predictionCount := u32 (p.predictionCount + 1) },
        { input, predicted := true })

/-- Forgets the predictions that left the window and have been confirmed. -/
def prune (p : PredictionRuntime) (currentFrame window : Nat) (confirmedInputs : InputMap) :
    PredictionRuntime :=
  let keepFrom := if currentFrame > window then currentFrame - window else 0
  { p with predictions := p.predictions.filter fun frame _ =>
      !(decide (frame < keepFrom) && confirmedInputs[frame]?.isSome) }

/-- Nothing is predicted any more. -/
def clearPredictions (p : PredictionRuntime) : PredictionRuntime :=
  { p with predictions := ∅, predictionProbeConfirmations := ∅ }

/-- No rollback is due any more. -/
def clearPendingRollback (p : PredictionRuntime) : PredictionRuntime :=
  { p with pendingRollbackFrame := none, pendingRollbackObservedFrame := none }

/-- Before the next game. -/
def resetForRestart (p : PredictionRuntime) : PredictionRuntime :=
  p.clearPredictions.clearPendingRollback

/-- The first input that the probe holds back, if its frame has come. -/
def takePredictionProbeConfirmationAtOrBefore (p : PredictionRuntime) (frame : Nat) :
    PredictionRuntime × Option (Nat × InputState) :=
  match p.predictionProbeConfirmations.toList.head? with
  | none => (p, none)
  | some confirmation =>
    if confirmation.1 > frame then (p, none)
    else (p.eraseProbeConfirmation confirmation.1, some confirmation)

end PredictionRuntime

/-! ## The timeline of both players -/

/-- What the arrival of an input has changed. -/
structure RemoteInputStoreResult where
  /-- The newest frame before. -/
  previousLastReceived : Nat := 0
  /-- What it has shown about a prediction. -/
  confirmation : ConfirmedInputResult := {}

/-- The inputs of a frame. -/
structure ReplayFrameInputs where
  /-- The input of this side. -/
  localInput : InputState
  /-- The input of the peer, possibly predicted. -/
  remoteInput : InputState
  /-- Both, by the players. -/
  players : Fin 2 → InputState
  /-- The second one is a prediction. -/
  remotePredicted : Bool := false

/-- The inputs of both sides. -/
structure Runtime where
  /-- The predictions. -/
  rollbackInputs : PredictionRuntime := {}
  /-- The inputs of this side, by their frames. -/
  localInputs : InputMap := ∅
  /-- The inputs of the peer that have arrived, by their frames. -/
  remoteInputs : InputMap := ∅
  /-- The newest frame of the peer. -/
  lastReceivedInputFrame : Nat := 0
  /-- The newest frame that was sent to the peer. -/
  lastSentInputFrame : Nat := 0
  /-- The first frame of the game, once it is known. -/
  remoteInputEpochStartFrame : Option Nat := none
  /-- The last frame up to which nothing of the peer is missing. -/
  highestContiguousRemoteFrame : Option Nat := none

namespace Runtime

/-- Before the next game. -/
def resetForRestart (r : Runtime) (noFrameLimit : Nat) : Runtime :=
  { r with
    localInputs := ∅
    remoteInputs := ∅
    rollbackInputs := r.rollbackInputs.resetForRestart
    lastReceivedInputFrame := noFrameLimit
    lastSentInputFrame := noFrameLimit
    remoteInputEpochStartFrame := none
    highestContiguousRemoteFrame := none }

/-- The loop of `AdvanceContiguousRemoteFrame`. Each round finds a frame that no round before found,
so one more round than there are remote inputs is enough. -/
def advanceLoop (remoteInputs : InputMap) : Nat → Nat → Option Nat → Option Nat
  | 0, _, highest => highest
  | rounds + 1, nextFrame, highest =>
    if remoteInputs[nextFrame]?.isSome then
      if nextFrame = u32Max then some nextFrame
      else advanceLoop remoteInputs rounds (nextFrame + 1) (some nextFrame)
    else highest

/-- The contiguous inputs are followed as far as they reach. -/
def advanceContiguousRemoteFrame (r : Runtime) : Runtime :=
  match r.remoteInputEpochStartFrame with
  | none => r
  | some epochStart =>
    if r.highestContiguousRemoteFrame = some u32Max then r
    else
      let nextFrame :=
        match r.highestContiguousRemoteFrame with
        | some highest => highest + 1
        | none => epochStart
      let rounds := r.remoteInputs.size + 1
      { r with
        highestContiguousRemoteFrame :=
          advanceLoop r.remoteInputs rounds nextFrame r.highestContiguousRemoteFrame }

/-- `StoreRemote`: an input arrives, and a prediction may be found to be wrong. -/
def storeRemote (r : Runtime) (frame : Nat) (input : InputState) (localFrame : Option Nat)
    (confirmPrediction : Bool) (noFrameLimit : Nat) : Runtime × RemoteInputStoreResult :=
  let previousLastReceived := r.lastReceivedInputFrame
  let (rollbackInputs, confirmation) :=
    if confirmPrediction then r.rollbackInputs.confirm frame input localFrame
    else (r.rollbackInputs, {})
  let r := { r with
    rollbackInputs := rollbackInputs
    remoteInputs := r.remoteInputs.insert frame input }
  let r :=
    if r.lastReceivedInputFrame = noFrameLimit ∨ r.lastReceivedInputFrame < frame then
      { r with lastReceivedInputFrame := frame }
    else r
  (r.advanceContiguousRemoteFrame, { previousLastReceived, confirmation })

/-- Inputs before a frame are not needed any more. -/
def pruneHistory (r : Runtime) (keepFromFrame : Nat) : Runtime :=
  { r with
    localInputs := r.localInputs.eraseBelow keepFromFrame
    remoteInputs := r.remoteInputs.eraseBelow keepFromFrame }

/-- `emplace` of the neutral input for `count` frames from `startFrame` on. -/
def primeFrames (inputs : InputMap) (neutralInput : InputState) (startFrame count : Nat) :
    InputMap :=
  (List.range' startFrame count).foldl (fun m frame => m.insertIfNew frame neutralInput) inputs

/-- Starts an epoch: what lies before it is forgotten, and the first `delay` frames, for which no
local input can be sampled in time, are neutral on both sides. -/
def primeEpoch (r : Runtime) (startFrame delay : Nat) (neutralInput : InputState)
    (noFrameLimit : Nat) : Runtime :=
  let r := r.pruneHistory startFrame
  let firstInputFrame := u32 (startFrame + delay)
  let r := { r with
    remoteInputEpochStartFrame := some startFrame
    highestContiguousRemoteFrame := none
    localInputs := primeFrames r.localInputs neutralInput startFrame (firstInputFrame - startFrame)
    remoteInputs := primeFrames r.remoteInputs neutralInput startFrame
      (firstInputFrame - startFrame) }
  let r :=
    if delay > 0 then
      let primedThrough := u32 (firstInputFrame + u32Max)
      if r.lastReceivedInputFrame = noFrameLimit ∨ r.lastReceivedInputFrame < primedThrough then
        { r with lastReceivedInputFrame := primedThrough }
      else r
    else r
  r.advanceContiguousRemoteFrame

/-- How many frames up to this one have no confirmed input of the peer. -/
def unconfirmedRemoteFrameCountThrough (r : Runtime) (frame : Nat) : Option Nat :=
  match r.remoteInputEpochStartFrame with
  | none => none
  | some epochStart =>
    if frame < epochStart then none
    else
      match r.highestContiguousRemoteFrame with
      | some highest => if frame ≤ highest then some 0 else some (u32 (frame - (highest + 1) + 1))
      | none => some (u32 (frame - epochStart + 1))

/-- The local input of a frame, neutral where none was recorded. -/
def localInput (r : Runtime) (frame : Nat) (neutralInput : InputState) : InputState :=
  r.localInputs[frame]?.getD neutralInput

/-- `Resolve` of the timeline's own predictions against its own confirmations. -/
def resolve (r : Runtime) (frame : Nat) (neutralInput : InputState) (probe : PredictionProbe) :
    Runtime × PredictedInput :=
  let (rollbackInputs, remote) :=
    r.rollbackInputs.resolve frame r.remoteInputs neutralInput probe
  ({ r with rollbackInputs := rollbackInputs }, remote)

/-- `PredictionRuntime::Prune` against the timeline's own confirmations. -/
def prunePredictions (r : Runtime) (currentFrame window : Nat) : Runtime :=
  { r with rollbackInputs := r.rollbackInputs.prune currentFrame window r.remoteInputs }

/-- No rollback is due any more. -/
def clearPendingRollback (r : Runtime) : Runtime :=
  { r with rollbackInputs := r.rollbackInputs.clearPendingRollback }

end Runtime

/-- The inputs of both players for a frame that is simulated again. -/
def resolveReplayFrameInputs (r : Runtime) (frame : Nat) (localPlayer : Int)
    (neutralInput : InputState) (probe : PredictionProbe := {}) :
    Runtime × Option ReplayFrameInputs :=
  if localPlayer < 0 ∨ localPlayer > 1 then (r, none)
  else
    let localInput := r.localInput frame neutralInput
    let (r, remote) := r.resolve frame neutralInput probe
    (r, some {
      localInput := localInput
      remoteInput := remote.input
      players := fun player => if (player : Int) = localPlayer then localInput else remote.input
      remotePredicted := remote.predicted })

end InputTimeline

end Bigstar.Netplay
