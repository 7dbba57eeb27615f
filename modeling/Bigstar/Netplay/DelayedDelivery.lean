import Bigstar.Netplay.InputDelivery

/-!
# The simulated network

`NsmbInputDelivery.cpp`: a packet of inputs may be dropped, or held back in a queue until a frame or
a point in time is reached. Time is counted in nanoseconds. Delays are `int`s, whose sums and
products wrap around.

Every call of `Prepare` gets a ticket, which the source does not have: the number of the calls
before it. What a call hands over is listed in the order in which it does so.
-/

namespace Bigstar.Netplay.InputDelivery

/-- What is to be done with the packets that are sent: the delays and drops are for tests. -/
structure SendConfig where
  /-- Older inputs are sent along. -/
  useHistoryBundle : Bool := false
  /-- How many older inputs. -/
  bundleHistory : Int := 0
  /-- Of so many frames one is dropped, none for 0. -/
  dropModulo : Int := 0
  /-- Which one of them. -/
  dropOffset : Int := 0
  /-- The first frame that may be dropped. -/
  dropStartFrame : Nat := 0
  /-- The last frame that may be dropped, 0 for no end. -/
  dropEndFrame : Nat := 0
  /-- So many frames a packet is held back. -/
  delayFrames : Int := 0
  /-- So many more at most, by the frame number. -/
  jitterFrames : Int := 0
  /-- The first frame that is delayed. -/
  delayStartFrame : Nat := 0
  /-- The last frame that is delayed, 0 for no end. -/
  delayEndFrame : Nat := 0
  deriving DecidableEq

/-- What is done with one packet. -/
structure SendDecision where
  /-- It is not sent. -/
  drop : Bool := false
  /-- Older inputs are sent along. -/
  bundle : Bool := false
  /-- How many. -/
  bundleHistory : Int := 0
  /-- How long it is held back. -/
  delayFrames : Int := 0
  deriving DecidableEq

/-- `DecideSend`. -/
def decideSend (frame : Nat) (config : SendConfig) : SendDecision :=
  let dropByModulo :=
    config.dropModulo > 0 && frame % config.dropModulo.toNat == (config.dropOffset % 2 ^ 32).toNat
  let dropByRange :=
    config.dropStartFrame > 0 && decide (frame ≥ config.dropStartFrame)
      && (config.dropEndFrame == 0 || decide (frame ≤ config.dropEndFrame))
  let bundleHistory := min (max config.bundleHistory 0) 31
  let delayActive :=
    decide (frame ≥ config.delayStartFrame)
      && (config.delayEndFrame == 0 || decide (frame ≤ config.delayEndFrame))
  let jitterFrames : Int :=
    if delayActive && config.jitterFrames > 0 then
      (frame % (config.jitterFrames.toNat + 1) : Nat) else 0
  { drop := dropByModulo || dropByRange
    bundle := config.useHistoryBundle && bundleHistory > 0
    bundleHistory := bundleHistory
    delayFrames := if delayActive then i32 (max 0 config.delayFrames + jitterFrames) else 0 }

/-- `ShouldReleaseDelayedInput`: the frame or the time of the release has come. -/
def shouldReleaseDelayedInput (currentFrame : Nat) (now : Int) (releaseFrame : Nat)
    (releaseTime : Int) : Bool :=
  releaseFrame ≤ currentFrame || now ≥ releaseTime

/-- A packet that is held back. -/
structure PendingPayload where
  /-- The frame from which on it is sent. -/
  releaseFrame : Nat
  /-- The time from which on it is sent in any case, in nanoseconds. -/
  releaseTime : Int
  /-- The packet. -/
  payload : Payload
  /-- The number of the call that made it, which only the proofs look at. -/
  ticket : Nat
  deriving DecidableEq

/-- The queue, and what the peer has acknowledged. -/
structure Runtime where
  /-- In the order in which they were prepared. -/
  pending : List PendingPayload := []
  /-- The newest frame that the peer has acknowledged. -/
  remoteAckFrame : Option Nat := none
  deriving DecidableEq

/-- The arguments of `Prepare`. -/
structure SendRequest where
  /-- The game that the input belongs to. -/
  generation : Nat
  /-- The frame of the input. -/
  frame : Nat
  /-- The input. -/
  input : InputState
  /-- The injected losses and delays. -/
  config : SendConfig
  /-- The inputs of older frames. -/
  localInputs : InputMap
  /-- The time of the call. -/
  now : Int
  /-- What this side acknowledges, if anything. -/
  ackFrameToSend : Option Nat := none

namespace SendRequest

/-- What `Prepare` decides about the request. -/
def decision (request : SendRequest) : SendDecision := decideSend request.frame request.config

end SendRequest

/-- `std::chrono::milliseconds`. -/
def milliseconds (n : Int) : Int := n * 1000000

/-! ## What a delay stands for -/

namespace SendRequest

/-- The delay that the configuration asks for, in frames, however large it is. -/
def delay (request : SendRequest) : Int :=
  if request.config.delayStartFrame ≤ request.frame ∧
      (request.config.delayEndFrame = 0 ∨ request.frame ≤ request.config.delayEndFrame) then
    max 0 request.config.delayFrames +
      if request.config.jitterFrames > 0 then
        (request.frame % (request.config.jitterFrames.toNat + 1) : Nat)
      else 0
  else 0

/-- The frame that a payload with this delay waits for. -/
def dueFrame (request : SendRequest) : Nat := request.frame + request.delay.toNat

/-- The time that a payload with this delay waits for: 60 frames are a second, rounded up. -/
def dueTime (request : SendRequest) : Int :=
  request.now + milliseconds ((request.delay * 1000 + 59) / 60)

/-- Both can be computed in 32 bits. The delay is then at most 2147483 frames, ten hours. -/
def Fits (request : SendRequest) : Prop :=
  request.dueFrame < 2 ^ 32 ∧ request.delay * 1000 + 59 < 2 ^ 31

instance (request : SendRequest) : Decidable request.Fits :=
  inferInstanceAs (Decidable (_ ∧ _))

end SendRequest

namespace Runtime

/-- What `Prepare` builds for a request it does not drop. A payload that is not delayed is due at
once. -/
def preparedPayload (ticket : Nat) (request : SendRequest) (r : Runtime) : PendingPayload :=
  let decision := request.decision
  let delayFrames := decision.delayFrames
  { payload :=
      if decision.bundle then
        buildPayload request.generation request.frame request.input
          decision.bundleHistory request.localInputs
          r.remoteAckFrame request.ackFrameToSend
      else
        .input { generation := request.generation, frame := request.frame, input := request.input }
    releaseFrame := u32 (request.frame + delayFrames.toNat)
    releaseTime := request.now + milliseconds ((i32 (delayFrames * 1000 + 59)).tdiv 60)
    ticket := ticket }

/-- `Prepare` returns the payload that is to be sent at once, if there is one. -/
def prepare (ticket : Nat) (request : SendRequest) (r : Runtime) :
    Runtime × Option PendingPayload :=
  let decision := request.decision
  if decision.drop then (r, none)
  else
    let prepared := r.preparedPayload ticket request
    if decision.delayFrames ≤ 0 then (r, some prepared)
    else ({ r with pending := r.pending ++ [prepared] }, none)

/-- The loop of `DrainDue`: what stays in the queue, and what is sent. -/
def drainLoop (currentFrame : Nat) (now : Int) : List PendingPayload →
    List PendingPayload × List PendingPayload
  | [] => ([], [])
  | pending :: rest =>
    let (kept, sent) := drainLoop currentFrame now rest
    if shouldReleaseDelayedInput currentFrame now pending.releaseFrame pending.releaseTime then
      (kept, pending :: sent)
    else (pending :: kept, sent)

/-- `DrainDue`: what is due is handed over and leaves the queue. -/
def drainDue (currentFrame : Nat) (now : Int) (r : Runtime) : Runtime × List PendingPayload :=
  let (kept, sent) := drainLoop currentFrame now r.pending
  ({ r with pending := kept }, sent)

/-- `DrainAll`: the queue is emptied, whatever is due. -/
def drainAll (r : Runtime) : Runtime × List PendingPayload := ({ r with pending := [] }, r.pending)

/-- `Clear`, and what it discards. -/
def clear (r : Runtime) : Runtime × List PendingPayload :=
  ({ r with pending := [], remoteAckFrame := none }, r.pending)

/-- `RecordRemoteAck`. -/
def recordAck (ackFrame lastSentInputFrame noFrame : Nat) (r : Runtime) : Runtime :=
  { r with
    remoteAckFrame := (recordRemoteAck r.remoteAckFrame ackFrame lastSentInputFrame noFrame).1 }

end Runtime

/-! ## A run -/

/-- A call on the queue. -/
inductive QueueCall where
  /-- A packet is made. -/
  | prepare (request : SendRequest)
  /-- What is due is sent. -/
  | drainDue (currentFrame : Nat) (now : Int)
  /-- Everything is sent. -/
  | drainAll
  /-- The queue is dropped. -/
  | clear
  /-- The peer acknowledges a frame. -/
  | recordAck (ackFrame lastSentInputFrame noFrame : Nat)

namespace QueueCall

/-- The call is one of `Prepare` and does not drop its payload. -/
def accepted : QueueCall → Bool
  | .prepare request => !request.decision.drop
  | _ => false

/-- The call itself, and what it hands to `send` or discards. -/
def apply (ticket : Nat) (r : Runtime) : QueueCall → Runtime × List PendingPayload
  | .prepare request =>
    let (r, immediate) := r.prepare ticket request
    (r, immediate.toList)
  | .drainDue currentFrame now => r.drainDue currentFrame now
  | .drainAll => r.drainAll
  | .clear => r.clear
  | .recordAck ackFrame lastSentInputFrame noFrame =>
    (r.recordAck ackFrame lastSentInputFrame noFrame, [])

end QueueCall

/-- A run of the queue: the calls with what each of them has handed over, and the payloads that
calls of `Prepare` have built and not dropped. -/
structure QueueRun where
  /-- The queue. -/
  runtime : Runtime := {}
  /-- The calls, each with what it handed to the network. -/
  calls : List (QueueCall × List PendingPayload) := []
  /-- Everything that has been prepared. -/
  prepared : List PendingPayload := []

namespace QueueRun

/-- One call; its number is the ticket of what it prepares. -/
def step (run : QueueRun) (call : QueueCall) : QueueRun :=
  let ticket := run.calls.length
  let (runtime, handed) := call.apply ticket run.runtime
  { runtime := runtime
    calls := run.calls ++ [(call, handed)]
    prepared :=
      match call with
      | .prepare request =>
        if request.decision.drop then run.prepared
        else run.prepared ++ [run.runtime.preparedPayload ticket request]
      | _ => run.prepared }

/-- Every payload that a call so far has handed over. -/
def handed (run : QueueRun) : List PendingPayload := run.calls.flatMap (·.2)

end QueueRun

end Bigstar.Netplay.InputDelivery
