import Bigstar.Netplay.FrameLoop

/-!
# Input packets

`NsmbInputDelivery.cpp` and the receiving half of `NsmbNetplaySession.cpp`: which local inputs go
into a packet, how the acknowledgement of the other side is recorded, and what a peer does with a
packet that arrives. A packet is represented by what its decoder returns. The configured loss and
delay of outgoing packets (`Prepare`) only chooses when a payload that has been built goes out.
-/

namespace Bigstar.Netplay.InputDelivery

open OrderedMap InputTimeline RollbackRuntime RollbackStorage

/-- `InputProtocol::FramedInput`. -/
structure FramedInput where
  /-- The game that the input belongs to. -/
  generation : Nat
  /-- The frame of the input. -/
  frame : Nat
  /-- The input. -/
  input : InputState
  deriving DecidableEq, Repr

/-- `InputProtocol::kMaxInputBundleEntries`. -/
def kMaxInputBundleEntries : Nat := 32

/-- The two packets that carry inputs. -/
inductive Payload where
  /-- One input. -/
  | input (packet : FramedInput)
  /-- Several inputs, with an acknowledgement. -/
  | bundle (entries : List FramedInput) (ackFrame : Option Nat)
  deriving DecidableEq, Repr

namespace Payload

/-- The inputs of a packet. -/
def entries : Payload → List FramedInput
  | .input packet => [packet]
  | .bundle entries _ => entries

/-- What a packet acknowledges. -/
def ackFrame : Payload → Option Nat
  | .input _ => none
  | .bundle _ ackFrame => ackFrame

end Payload

/-! ## Building a packet -/

/-- The loop of `SelectUnackedInputs` from `entryFrame` on, with room for `rounds` more entries. -/
def selectLoop (generation frame : Nat) (currentInput : InputState) (localInputs : InputMap) :
    Nat → Nat → List FramedInput
  | 0, _ => []
  | rounds + 1, entryFrame =>
    if entryFrame ≤ frame then
      { generation, frame := entryFrame, input := localInputs[entryFrame]?.getD currentInput } ::
        (if entryFrame = u32Max then []
          else selectLoop generation frame currentInput localInputs rounds (entryFrame + 1))
    else []

/-- The frame the oldest entry of a bundle is for. -/
def firstUnackedFrame (frame : Nat) (localInputs : InputMap) (remoteAckFrame : Option Nat) : Nat :=
  let firstFrame :=
    match remoteAckFrame, localInputs.firstKey with
    | some ack, _ => if ack < frame then ack + 1 else frame
    | none, some begin => min frame begin
    | none, none => frame
  let firstFrame :=
    match localInputs.firstKey with
    | some begin => max firstFrame begin
    | none => firstFrame
  if firstFrame > frame then frame else firstFrame

/-- `SelectUnackedInputs`: the newest inputs that the peer may not have. -/
def selectUnackedInputs (generation frame : Nat) (currentInput : InputState) (maxEntries : Int)
    (localInputs : InputMap) (remoteAckFrame : Option Nat) : List FramedInput :=
  let maxEntries := (min (max maxEntries 1) kMaxInputBundleEntries).toNat
  selectLoop generation frame currentInput localInputs maxEntries
    (firstUnackedFrame frame localInputs remoteAckFrame)

/-- The acknowledgement as it comes out of the decoder: 0xFFFFFFFF stands for none on the wire. -/
def wireAckFrame (ackFrame : Option Nat) : Option Nat :=
  if ackFrame = some u32Max then none else ackFrame

/-- The packet of a frame, alone or with older inputs. -/
def buildPayload (generation frame : Nat) (input : InputState) (bundleHistory : Int)
    (localInputs : InputMap) (remoteAckFrame ackFrameToSend : Option Nat) : Payload :=
  if bundleHistory ≤ 0 then .input { generation, frame, input }
  else
    .bundle
      (selectUnackedInputs generation frame input kMaxInputBundleEntries localInputs remoteAckFrame)
      (wireAckFrame ackFrameToSend)

/-! ## Acknowledgements -/

/-- What an acknowledgement says. -/
inductive AckUpdate where
  /-- More has arrived. -/
  | advanced
  /-- Nothing new. -/
  | stale
  /-- A frame that has not been sent. -/
  | future
  deriving DecidableEq, Repr

/-- `RecordRemoteAck`. -/
def recordRemoteAck (remoteAckFrame : Option Nat) (ackFrame lastSentInputFrame noFrame : Nat) :
    Option Nat × AckUpdate :=
  if lastSentInputFrame = noFrame ∨ ackFrame > lastSentInputFrame then (remoteAckFrame, .future)
  else
    match remoteAckFrame with
    | none => (some ackFrame, .advanced)
    | some current =>
      if ackFrame ≤ current then (remoteAckFrame, .stale) else (some ackFrame, .advanced)

/-! ## One side of the connection -/

/-- What the delivery of inputs reads and writes on one side. -/
structure Peer where
  /-- The inputs of both sides. -/
  inputs : InputTimeline.Runtime := {}
  /-- `RemoteAckFrame_`: what the other side is known to have received. -/
  remoteAckFrame : Option Nat := none
  /-- `Connection.SharedLogicalEpoch`, 0 until it is known. -/
  sharedLogicalEpoch : Nat := 0

namespace Peer

/-- `StoreRemoteInputLocked` of one entry. -/
def storeRemoteInput (rollbackEnabled : Bool) (localFrame : Nat) (p : Peer) (packet : FramedInput) :
    Peer :=
  let arrival : Arrival := { frame := packet.frame, input := packet.input }
  let inputs :=
    storeRemoteInputLocked p.sharedLogicalEpoch rollbackEnabled localFrame p.inputs arrival
  { p with inputs }

/-- The acknowledgement of a bundle, if it has one. -/
def recordAck (p : Peer) : Option Nat → Peer
  | none => p
  | some ackFrame =>
    let recorded := recordRemoteAck p.remoteAckFrame ackFrame p.inputs.lastSentInputFrame kNoFrame
    { p with remoteAckFrame := recorded.1 }

/-- `HandleReceivedInputLocked` and `HandleReceivedInputBundleLocked`: a packet of another
generation is ignored. The frame of the emulator is 0 when the pump thread delivers. -/
def receive (generation : Nat) (rollbackEnabled : Bool) (localFrame : Nat) (p : Peer) :
    Payload → Peer
  | .input packet =>
    if packet.generation = generation then
      p.storeRemoteInput rollbackEnabled localFrame packet else p
  | .bundle entries ackFrame =>
    if ∀ first ∈ entries.head?, first.generation = generation then
      entries.foldl (storeRemoteInput rollbackEnabled localFrame) (p.recordAck ackFrame)
    else p

/-- `PrimeInputEpochLocked`, once per epoch. -/
def primeInputEpoch (epoch delay : Nat) (p : Peer) : Peer :=
  { p with
    sharedLogicalEpoch := epoch
    inputs := p.inputs.primeEpoch epoch delay neutralInput kNoFrame }

/-- The sampled input is recorded for the frame it will be sent for. -/
def recordLocalInput (p : Peer) (sendFrame : Nat) (input : InputState) : Peer :=
  { p with inputs := { p.inputs with localInputs := p.inputs.localInputs.insert sendFrame input } }

/-- `SendInputLocked` of a connected peer: the packet it builds. -/
def sendInput (generation : Nat) (bundleHistory : Int) (p : Peer) (frame : Nat)
    (input : InputState) :
    Peer × Payload :=
  let p := { p with inputs := { p.inputs with lastSentInputFrame := frame } }
  (p, buildPayload generation frame input bundleHistory p.inputs.localInputs p.remoteAckFrame
    p.inputs.highestContiguousRemoteFrame)

/-- `MaybeResendLatestInputForFrameLeadLocked`: the newest packet once more, if there was one. -/
def resendLatestInput (generation : Nat) (bundleHistory : Int) (p : Peer) : Option Payload :=
  if p.inputs.lastSentInputFrame = kNoFrame then none
  else
    (p.inputs.localInputs[p.inputs.lastSentInputFrame]?).map fun input =>
      buildPayload generation p.inputs.lastSentInputFrame input bundleHistory p.inputs.localInputs
        p.remoteAckFrame p.inputs.highestContiguousRemoteFrame

end Peer

end Bigstar.Netplay.InputDelivery
