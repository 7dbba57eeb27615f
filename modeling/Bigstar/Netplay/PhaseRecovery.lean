import Bigstar.Netplay.InputTimeline
import Mathlib.Data.List.Sort

/-!
# Phase recovery

`NsmbPhaseRecovery.cpp`: how far this console is behind the other one is estimated from the arrival
of remote inputs and acknowledgements, and made up for by a small change of speed and by frames that
skip the frame limit. Points in time are counted in nanoseconds from the epoch of the clock,
durations in microseconds. A `double` is a `Float`.
-/

namespace Bigstar.Netplay.PhaseRecovery

open OrderedMap

/-- A frame lasts the sixtieth part of a second. -/
def kFrameDurationUs : Int := 1000000 / 60
/-- How many samples are kept. -/
def kSampleWindow : Nat := 30
/-- How many are needed for an evaluation. -/
def kMinimumSamples : Nat := 10
/-- How many frames lie between two evaluations. -/
def kEvaluationIntervalFrames : Nat := 30
/-- Before this frame nothing is skipped. -/
def kRecoveryStartFrame : Nat := 120
/-- The limit is not skipped more often than this. -/
def kAdvanceSpacingFrames : Nat := 5
/-- For how many frames an evaluation has the limit skipped at most. -/
def kMaxAdvanceFrames : Int := 3
/-- How far behind this side has to be for frames to be skipped. -/
def kAdvanceThresholdUs : Int := 26683
/-- Over which time the speed makes up for an offset. -/
def kCorrectionPeriodUs : Int := 30000000
/-- A longer round trip is not believed. -/
def kMaximumRttUs : Int := 10000000
/-- 500 milliseconds. -/
def kObservationFreshness : Int := 500000000
/-- For how many frames the times of sending are kept. -/
def kSendTimestampHistoryFrames : Nat := 1024

/-- What the main loop is told. -/
structure PacingDecision where
  /-- The speed of the emulation. -/
  speedRatio : Float := 1.0
  /-- The next frame is run without waiting. -/
  skipFrameLimit : Bool := false
  /-- The samples were looked at in this call. -/
  evaluated : Bool := false
  /-- By how much this side is ahead; negative if it is behind. -/
  offsetUs : Int := 0
  /-- The round trip. -/
  rttUs : Int := 0
  /-- For how many frames the limit is still to be skipped. -/
  pendingAdvanceFrames : Int := 0
  /-- For how many it was skipped in this generation. -/
  totalAdvanceFrames : Nat := 0
  /-- How many offsets were sampled. -/
  offsetSamples : Nat := 0
  /-- How many round trips were sampled. -/
  rttSamples : Nat := 0

/-- The state of the pacing, which belongs to one generation. -/
structure Runtime where
  /-- It is switched on. -/
  enabled : Bool := false
  /-- The generation that the samples belong to. -/
  generation : Option Nat := none
  /-- The last frame that this side has sent. -/
  lastLocalFrame : Option Nat := none
  /-- The last frame that arrived. -/
  lastObservedRemoteFrame : Option Nat := none
  /-- The last frame that the other side has acknowledged. -/
  lastRemoteAckFrame : Option Nat := none
  /-- When the samples were last looked at. -/
  lastEvaluationFrame : Option Nat := none
  /-- When a frame was last skipped. -/
  lastAdvanceFrame : Option Nat := none
  /-- The time at which `lastLocalFrame` was sent. -/
  lastLocalSendAt : Int := 0
  /-- The time of the last arrival. -/
  lastRemoteObservationAt : Int := 0
  /-- When the frames were sent that can still be acknowledged. -/
  localSendTimes : NatMap Int := ∅
  /-- By how much this side was ahead, newest last. -/
  offsetSamples : List Int := []
  /-- The measured round trips, newest last. -/
  rttSamples : List Int := []
  /-- What the last evaluation came to, as in the next three fields. -/
  speedRatio : Float := 1.0
  /-- The average offset. -/
  offsetUs : Int := 0
  /-- The average round trip. -/
  rttUs : Int := 0
  /-- For how many frames the limit is still to be skipped. -/
  pendingAdvanceFrames : Int := 0
  /-- For how many it was skipped in this generation. -/
  totalAdvanceFrames : Nat := 0

/-- `duration_cast<microseconds>`. -/
def microseconds (nanoseconds : Int) : Int := nanoseconds.tdiv 1000

/-- The difference of two frames in 32 bits. -/
def frameDifference (frame earlier : Nat) : Nat := u32 (frame + 2 ^ 32 - earlier)

/-- The mean of the middle third of the samples, rounded towards zero. -/
def robustAverage (samples : List Int) : Int :=
  if samples.isEmpty then 0
  else
    let sorted := samples.insertionSort (· ≤ ·)
    let third := if sorted.length ≥ 3 then sorted.length / 3 else 0
    let first := third
    let last := sorted.length - third
    let sum := ((sorted.drop first).take (last - first)).sum
    sum.tdiv ((last - first : Nat) : Int)

/-- A full window loses its oldest sample. -/
def pushSample (samples : List Int) (value : Int) (capacity : Nat) : List Int :=
  (if samples.length = capacity then samples.tail else samples) ++ [value]

/-- `std::clamp(1.0 - correction, 0.995, 1.01)`. -/
def clampedSpeedRatio (offsetUs : Int) : Float :=
  let ratio := 1.0 - Float.ofInt offsetUs / Float.ofInt kCorrectionPeriodUs
  if ratio < 0.995 then 0.995 else if 1.01 < ratio then 1.01 else ratio

/-- The frames that the offset stands for, as an `int`. -/
def neededFrames (offsetUs : Int) : Int :=
  max 1 (Float.ofInt (-offsetUs) / Float.ofInt kFrameDurationUs).round.toInt64.toInt32.toInt

namespace Runtime

/-- Nothing is known. -/
def reset (r : Runtime) : Runtime := { enabled := r.enabled }
/-- Another generation starts with nothing. -/
def ensureGeneration (generation : Nat) (r : Runtime) : Runtime :=
  if r.generation = some generation then r else { r.reset with generation := some generation }

/-- The input of a frame is sent now. -/
def recordLocalInput (generation frame : Nat) (now : Int) (r : Runtime) : Runtime :=
  if !r.enabled then r
  else
    let r := r.ensureGeneration generation
    let sendTimes : NatMap Int := r.localSendTimes.insertIfNew frame now
    { r with
      lastLocalFrame := some frame
      lastLocalSendAt := now
      localSendTimes := sendTimes.eraseBelow (frame - kSendTimestampHistoryFrames) }

/-- The other side has acknowledged a frame: a round trip is measured. -/
def recordRemoteAck (ackFrame : Nat) (now : Int) (r : Runtime) : Runtime :=
  if !r.enabled || r.lastRemoteAckFrame.any (fun last => ackFrame ≤ last) then r
  else
    let r := { r with lastRemoteAckFrame := some ackFrame }
    match r.localSendTimes[ackFrame]? with
    | none => r
    | some sent =>
      if now ≤ sent then r
      else
        let rttUs := microseconds (now - sent)
        if rttUs ≤ 0 ∨ rttUs > kMaximumRttUs then r
        else
          let samples := pushSample r.rttSamples rttUs kSampleWindow
          { r with rttSamples := samples, rttUs := robustAverage samples }

/-- An input arrives: how far this side is ahead is measured. -/
def observeRemoteInput (generation frame : Nat) (now : Int) (r : Runtime) : Runtime :=
  if !r.enabled then r
  else
    let r := r.ensureGeneration generation
    match r.lastLocalFrame with
    | none => r
    | some lastLocalFrame =>
      if r.rttSamples.length < 3 || r.lastObservedRemoteFrame.any (fun last => frame ≤ last) then r
      else
        let elapsedUs := microseconds (now - r.lastLocalSendAt)
        let frameDelta := (lastLocalFrame : Int) - frame
        let offsetUs := elapsedUs - r.rttUs.tdiv 2 + frameDelta * kFrameDurationUs
        { r with
          offsetSamples := pushSample r.offsetSamples offsetUs kSampleWindow
          lastObservedRemoteFrame := some frame
          lastRemoteObservationAt := now }

/-- What is known, without a decision. -/
def snapshot (r : Runtime) : PacingDecision where
  speedRatio := r.speedRatio
  offsetUs := r.offsetUs
  rttUs := r.rttUs
  pendingAdvanceFrames := r.pendingAdvanceFrames
  totalAdvanceFrames := r.totalAdvanceFrames
  offsetSamples := r.offsetSamples.length
  rttSamples := r.rttSamples.length

/-- Speed and skips are derived from the samples. -/
def evaluate (localFrame : Nat) (r : Runtime) : Runtime :=
  let offsetUs := robustAverage r.offsetSamples
  let r := { r with offsetUs := offsetUs, speedRatio := clampedSpeedRatio offsetUs }
  if localFrame < kRecoveryStartFrame ∨ offsetUs ≥ -kAdvanceThresholdUs then
    { r with pendingAdvanceFrames := 0 }
  else
    { r with
      pendingAdvanceFrames := max r.pendingAdvanceFrames
        (min kMaxAdvanceFrames (neededFrames offsetUs)) }

/-- The samples are due to be evaluated. -/
def evaluationDue (localFrame : Nat) (r : Runtime) : Bool :=
  decide (r.offsetSamples.length ≥ kMinimumSamples)
    && r.lastEvaluationFrame.all fun last =>
      frameDifference localFrame last ≥ kEvaluationIntervalFrames

/-- A frame may skip the frame limit. -/
def advanceDue (localFrame : Nat) (r : Runtime) : Bool :=
  decide (r.pendingAdvanceFrames > 0)
    && r.lastAdvanceFrame.all fun last => frameDifference localFrame last ≥ kAdvanceSpacingFrames

/-- The main loop asks before a frame. -/
def consume (localFrame : Nat) (now : Int) (r : Runtime) : Runtime × PacingDecision :=
  if !r.enabled then (r, r.snapshot)
  else if r.lastRemoteObservationAt = 0 ∨
    now - r.lastRemoteObservationAt > kObservationFreshness then
    let r := { r with speedRatio := 1.0, pendingAdvanceFrames := 0 }
    (r, r.snapshot)
  else
    let evaluated := r.evaluationDue localFrame
    let r := if evaluated then
      { r.evaluate localFrame with lastEvaluationFrame := some localFrame } else r
    let skipFrameLimit := r.advanceDue localFrame
    let r :=
      if skipFrameLimit then
        { r with
          pendingAdvanceFrames := r.pendingAdvanceFrames - 1
          lastAdvanceFrame := some localFrame
          totalAdvanceFrames := r.totalAdvanceFrames + 1 }
      else r
    (r, { r.snapshot with evaluated := evaluated, skipFrameLimit := skipFrameLimit })

end Runtime

/-! ## A run -/

/-- A call of one of the four functions that change the state. -/
inductive PacingCall where
  /-- `RecordLocalInput`. -/
  | recordLocalInput (generation frame : Nat) (now : Int)
  /-- `RecordRemoteAck`. -/
  | recordRemoteAck (ackFrame : Nat) (now : Int)
  /-- `ObserveRemoteInput`. -/
  | observeRemoteInput (generation frame : Nat) (now : Int)
  /-- `Consume`. -/
  | consume (localFrame : Nat) (now : Int)
  deriving DecidableEq

namespace PacingCall

/-- The state after the call. -/
def apply (r : Runtime) : PacingCall → Runtime
  | .recordLocalInput generation frame now => r.recordLocalInput generation frame now
  | .recordRemoteAck ackFrame now => r.recordRemoteAck ackFrame now
  | .observeRemoteInput generation frame now => r.observeRemoteInput generation frame now
  | .consume localFrame now => (r.consume localFrame now).1

/-- The generation that a call belongs to, if it says so. -/
def generation? : PacingCall → Option Nat
  | .recordLocalInput generation .. | .observeRemoteInput generation .. => some generation
  | .recordRemoteAck .. | .consume .. => none

end PacingCall

/-- A decision, with the number of generation changes before it. -/
structure Consumed where
  /-- How often the generation had changed by then. -/
  change : Nat
  /-- The frame that was asked for. -/
  localFrame : Nat
  /-- The answer. -/
  decision : PacingDecision

/-- A run of the runtime and the decisions it has made. -/
structure PacingRun where
  /-- The state. -/
  runtime : Runtime
  /-- How often the generation has changed. -/
  changes : Nat := 0
  /-- The answers so far. -/
  consumed : List Consumed := []

namespace PacingRun

/-- One call. -/
def step (run : PacingRun) (call : PacingCall) : PacingRun :=
  { runtime := call.apply run.runtime
    changes := if (call.apply run.runtime).generation = run.runtime.generation then
      run.changes else run.changes + 1
    consumed :=
      match call with
      | .consume localFrame now =>
        run.consumed ++ [⟨run.changes, localFrame, (run.runtime.consume localFrame now).2⟩]
      | _ => run.consumed }

/-- The calls made one after the other on a fresh state. -/
def after (enabled : Bool) (calls : List PacingCall) : PacingRun :=
  calls.foldl step { runtime := { enabled } }

end PacingRun

end Bigstar.Netplay.PhaseRecovery
