import Bigstar.Netplay.InputDelivery
import Bigstar.Netplay.StartHandshake

/-!
# The session of two peers over a connection that can be lost

`NsmbNetplaySession.cpp`: what the pump does with the events of the transport (`PumpLocked`), the
`Resume` messages by which two peers find out after a reconnect what the other one has received, and
everything that is sent in between: the seed of the match, the start handshake, the inputs.

The connection delivers reliable packets in the order in which they were sent. The periodic `Resume`
messages are unsequenced: they may overtake anything, arrive several times, or never. A connection
that is lost takes everything in flight with it. One peer notices that before the other one; what
the other one still sends is lost, and since a host has room for one peer only, there is no new
connection until both have noticed.

Inputs travel in single packets (`BundleHistory` 0) without injected loss or delay. Peer 0 is the
host.
-/

namespace Bigstar.Netplay.NetplaySession

open OrderedMap InputTimeline InputDelivery RollbackRuntime RollbackStorage SessionProtocol TwoParty

/-- The configuration of the two peers, which may differ in their nonces and seeds only. -/
structure Config where
  /-- The configuration of the start handshake. -/
  start : StartHandshake.Config
  /-- `Connection.Delay`. -/
  delay : Nat
  /-- The first input has a frame number. -/
  fits : start.startFrame + delay ≤ u32Max
  /-- No second console runs in the process. -/
  netplayOnly : Bool
  /-- `Rollback.Enabled`. -/
  rollbackEnabled : Bool
  /-- `Rollback.Backend` is `RomLoop`. -/
  romLoop : Bool
  /-- `Rollback.PredictionHorizonFrames`. -/
  predictionHorizonFrames : Int
  /-- `SessionNonce`, which is made odd when it is chosen. -/
  sessionNonce : Fin 2 → Nat
  /-- No nonce is 0, which would mean an old peer. -/
  sessionNonce_pos : ∀ p, 0 < sessionNonce p
  /-- The seed that is configured when the program starts; a host always has one. -/
  matchSeed : Fin 2 → Option Nat

/-- A lost connection may be taken up again (`ConnectionRecoveryEnabled`). -/
def Config.recoveryEnabled (config : Config) : Bool :=
  config.netplayOnly &&
    (!config.rollbackEnabled || config.romLoop && decide (config.predictionHorizonFrames > 0))

/-- What is sent over the connection. -/
inductive Packet where
  /-- A message of the session protocol. -/
  | session (message : Message)
  /-- An input with its frame and generation. -/
  | input (packet : FramedInput)
  deriving DecidableEq

/-- One of the two processes. -/
structure Peer where
  /-- Its start handshake. -/
  start : StartHandshake.Peer
  /-- Its inputs and those of the other one. -/
  inputs : InputTimeline.Runtime := {}
  /-- The logical frame of the next emulated frame, once the start has been accepted. -/
  nextFrame : Option Nat := none
  /-- `Transport.IsConnected()`. -/
  connected : Bool := false
  /-- It has been connected before, so that the next connection is a reconnect. -/
  connectedOnce : Bool := false
  /-- The other one is known to be the one from before. -/
  resumeValidated : Bool := true
  /-- The nonce of the other one, 0 as long as it is unknown. -/
  remoteSessionNonce : Nat := 0
  /-- `Mvl.MatchSeed`, once it is configured. -/
  matchSeed : Option Nat := none
  /-- `FailRecovery` has ended the process. -/
  recoveryFailed : Bool := false

namespace Peer

/-- The generation of the game that runs. -/
def generation (a : Peer) : Nat := a.start.handshake.generation

/-- The process has ended. -/
def stopped (a : Peer) : Bool := a.recoveryFailed || a.start.stopped

/-- The process ends with an error. -/
def failRecovery (a : Peer) : Peer := { a with recoveryFailed := true }

/-- The part of the peer that `InputDelivery` works on. -/
def delivery (a : Peer) : InputDelivery.Peer :=
  { inputs := a.inputs, sharedLogicalEpoch := a.start.sharedLogicalEpoch }

variable (config : Config)

/-! ## Sending -/

/-- The message of `SendResumeLocked`. -/
def resume (p : Fin 2) (a : Peer) : Message :=
  { kind := .resume
    generation := a.generation
    sharedLogicalEpoch := a.start.handshake.sharedLogicalEpoch
    value := a.inputs.highestContiguousRemoteFrame.getD 0
    rawReadyFrame := a.inputs.localInputs.lastKey.getD 0
    semanticHash := config.sessionNonce p }

/-- `SendMatchSeedIfReadyLocked`: the host sends its seed if it has not done so. -/
def sendMatchSeed (host : Bool) (a : Peer) : Option (Peer × Message) :=
  match a.matchSeed with
  | none => none
  | some seed =>
    if a.connected && host && !a.start.handshake.matchSeedSent then
      let handshake := { a.start.handshake with matchSeedSent := true }
      some ({ a with start := { a.start with handshake } }, { kind := .matchSeed, value := seed })
    else none

/-- `SendStartReadyLocked`. -/
def sendStartReady (force : Bool) (a : Peer) : Option (Peer × Message) :=
  if a.connected then
    (a.start.sendStartReady force).map fun (start, message) => ({ a with start }, message)
  else none

/-- The input of the next frame is recorded. `SendInputLocked` sends it if it can. -/
def sample (input : InputState) (a : Peer) : Option (Peer × List Packet) :=
  match a.nextFrame with
  | none => none
  | some frame =>
    let sendFrame := frame + config.delay
    if sendFrame > u32Max then none
    else
      let recorded := { a.inputs with localInputs := a.inputs.localInputs.insert sendFrame input }
      let nextFrame := some (frame + 1)
      if a.connected && a.resumeValidated then
        let inputs := { recorded with lastSentInputFrame := sendFrame }
        let packet := { generation := a.generation, frame := sendFrame, input }
        some ({ a with inputs, nextFrame }, [.input packet])
      else some ({ a with inputs := recorded, nextFrame }, [])

/-- `MaybeResendLatestInputForFrameLeadLocked`. It does not look at `ResumeValidated`. -/
def resendLatestInput (a : Peer) : Option Packet :=
  if a.connected && a.inputs.lastSentInputFrame != kNoFrame then
    (a.inputs.localInputs[a.inputs.lastSentInputFrame]?).map fun input =>
      .input { generation := a.generation, frame := a.inputs.lastSentInputFrame, input }
  else none

/-! ## Receiving -/

/-- The replay of `ReceiveResumeLocked`: every local input after the frame `value`. -/
def replay (value : Nat) (a : Peer) : List Packet :=
  (a.inputs.localInputs.entriesAfter value).map fun (frame, input) =>
    .input { generation := a.generation, frame, input }

/-- The last part of `ReceiveResumeLocked`, for a peer that has just validated the other one. -/
def resumeFrom (value : Nat) (a : Peer) : Peer × List Packet :=
  let entries := a.inputs.localInputs.entriesAfter value
  if a.inputs.localInputs.lastKey.any fun last => decide (last < value) then (a.failRecovery, [])
  else if value ≠ 0 ∧ entries.head?.any fun first => first.1 != u32 (value + 1) then
    (a.failRecovery, [])
  else
    let lastSentInputFrame :=
      entries.foldl (fun _ entry => entry.1) a.inputs.lastSentInputFrame
    ({ a with inputs := { a.inputs with lastSentInputFrame } }, a.replay value)

/-- `ReceiveResumeLocked`: the nonce is checked, then what the other one misses is sent again. -/
def receiveResume (a : Peer) (message : Message) : Peer × List Packet :=
  if !config.recoveryEnabled || message.semanticHash == 0 then (a, [])
  else if a.remoteSessionNonce ≠ 0 ∧ a.remoteSessionNonce ≠ message.semanticHash then
    (a.failRecovery, [])
  else
    let a := { a with remoteSessionNonce := message.semanticHash }
    if message.generation ≠ a.generation then (a, [])
    else if a.resumeValidated then (a, [])
    else if a.start.handshake.logicalEpochEstablished ∧ message.sharedLogicalEpoch ≠ 0 ∧
        message.sharedLogicalEpoch ≠ a.start.handshake.sharedLogicalEpoch then
      (a.failRecovery, [])
    else { a with resumeValidated := true }.resumeFrom message.value

/-- `HandleReceivedSessionLocked`. Its answer is what it sends. -/
def receiveSession (host : Bool) (a : Peer) (message : Message) : Peer × List Packet :=
  match message.kind with
  | .resume => a.receiveResume config message
  | .matchSeed =>
    if a.resumeValidated then ({ a with matchSeed := some message.value }, []) else (a, [])
  | .startReady =>
    if a.resumeValidated then ({ a with start := a.start.receiveStartReady host message }, [])
    else (a, [])

/-- The `RECEIVE` event: until the other peer is validated, only session messages are looked at. The
frame of the emulator is 0 when the pump thread delivers. -/
def receive (host : Bool) (localFrame : Nat) (a : Peer) : Packet → Peer × List Packet
  | .session message => a.receiveSession config host message
  | .input packet =>
    if a.resumeValidated then
      let delivery := a.delivery.receive a.generation config.rollbackEnabled localFrame
        (.input packet)
      ({ a with inputs := delivery.inputs }, [])
    else (a, [])

/-! ## The connection -/

/-- The `CONNECT` event. It ends with a forced `SendResumeLocked`. -/
def connect (p : Fin 2) (a : Peer) : Peer × List Packet :=
  let a :=
    if a.connectedOnce && config.recoveryEnabled then { a with resumeValidated := false }
    else
      { a with start := { a.start with handshake := a.start.handshake.onPeerConnected } }
  let a := { a with connected := true, connectedOnce := true }
  (a, if config.recoveryEnabled then [.session (a.resume config p)] else [])

/-- The `DISCONNECT` event. -/
def disconnect (a : Peer) : Peer :=
  let a := { a with connected := false }
  if a.connectedOnce && config.recoveryEnabled then { a with resumeValidated := false } else a

/-! ## Generations -/

/-- A round of `WaitForRemoteStartReady`. Accepting the start primes the input epoch. -/
def waitRound (a : Peer) : Option Peer :=
  (a.start.waitRound a.inputs.lastReceivedInputFrame config.delay).map fun start =>
    if start.handshake.waitedForPeerAtStart then
      { a with
        start
        inputs := a.inputs.primeEpoch start.sharedLogicalEpoch config.delay neutralInput kNoFrame
        nextFrame := some start.sharedLogicalEpoch }
    else { a with start }

/-- `ResetSyncStateForRestart`. -/
def beginGeneration (host : Bool) (a : Peer) : Peer :=
  { a with
    start := a.start.beginGeneration config.start host (a.generation + 1)
    inputs := a.inputs.resetForRestart kNoFrame
    nextFrame := none }

end Peer

/-- Both peers, and the reliable packets in flight on the current connection. -/
structure State extends Net Peer Packet where
  /-- The periodic `Resume` messages that were sent on the current connection. -/
  unsequenced : Fin 2 → List Message := fun _ => []
  /-- One of the peers has not noticed yet that the connection is lost. -/
  broken : Bool := false

/-- What can happen to the session. -/
inductive Op where
  /-- The transport reports a connection. -/
  | connect (p : Fin 2)
  /-- The transport reports that the connection is lost. -/
  | disconnect (p : Fin 2)
  /-- The oldest reliable packet arrives. -/
  | receive (p : Fin 2) (localFrame : Nat)
  /-- A periodic `Resume` arrives. -/
  | receiveUnsequenced (p : Fin 2) (index : Nat)
  /-- The periodic `Resume` is sent. -/
  | sendResume (p : Fin 2)
  /-- The seed is sent if it is due. -/
  | sendMatchSeed (p : Fin 2)
  /-- A start message is sent if it is due. -/
  | sendStartReady (p : Fin 2) (force : Bool)
  /-- A peer has reached its start frame and waits. -/
  | beginWait (p : Fin 2) (snapshot : Message) (syncFrame : Nat)
  /-- The waiting peer looks again. -/
  | waitRound (p : Fin 2)
  /-- The wait has lasted too long. -/
  | timeout (p : Fin 2)
  /-- A rematch starts. -/
  | beginGeneration (p : Fin 2)
  /-- The frame's input is read. -/
  | sample (p : Fin 2) (input : InputState)
  /-- The last input is sent again while the peer is throttled. -/
  | resendLatestInput (p : Fin 2)
  /-- The 60 seconds of `BeginRecovery` are over. -/
  | deadlineExceeded (p : Fin 2)

namespace State

/-- Peer 0 is the host. -/
def isHost (p : Fin 2) : Bool := p == 0

/-- Both processes have just started. -/
def init (config : Config) : State :=
  { side := fun p =>
      { start := ({} : StartHandshake.Peer).beginGeneration config.start (isHost p) 0
        matchSeed := config.matchSeed p }
    sent := fun _ => [] }

/-- Peer `p` has become `a` and sends reliable packets, which a broken connection loses. -/
def act (s : State) (p : Fin 2) (a : Peer) (packets : List Packet := []) : State :=
  { s with toNet := s.toNet.put p a (if s.broken then [] else packets) }

/-- The peer that an event happens to. -/
def peerOf : Op → Fin 2
  | .connect p | .disconnect p | .receive p _ | .receiveUnsequenced p _ | .sendResume p
  | .sendMatchSeed p | .sendStartReady p _ | .beginWait p _ _ | .waitRound p | .timeout p
  | .beginGeneration p | .sample p _ | .resendLatestInput p | .deadlineExceeded p => p

variable (config : Config) (s : State)

/-- The transport connects, but not as long as the other peer has not noticed the loss. -/
def connect (p : Fin 2) : Option State :=
  if (s.side p).connected || s.broken then none
  else
    let (a, packets) := (s.side p).connect config p
    some (s.act p a packets)

/-- The peer notices the loss; everything in flight is gone. -/
def disconnect (p : Fin 2) : Option State :=
  if (s.side p).connected then
    some {
      toNet := s.toNet.drop.put p ((s.side p).disconnect config)
      broken := (s.side (other p)).connected }
  else none

/-- The oldest reliable packet arrives. -/
def receive (p : Fin 2) (localFrame : Nat) : Option State :=
  match s.sent (other p) with
  | [] => none
  | packet :: rest =>
    if (s.side p).connected then
      let (a, packets) := (s.side p).receive config (isHost p) localFrame packet
      some ({ s with toNet := s.toNet.remain (other p) rest }.act p a packets)
    else none

/-- Any of the unsequenced messages arrives, and may arrive again. -/
def receiveUnsequenced (p : Fin 2) (index : Nat) : Option State :=
  if (s.side p).connected then
    (s.unsequenced (other p))[index]?.map fun message =>
      let (a, packets) := (s.side p).receiveResume config message
      s.act p a packets
  else none

/-- `SendResumeLocked` at the end of a pump. -/
def sendResume (p : Fin 2) : Option State :=
  if (s.side p).connected && config.recoveryEnabled && !s.broken then
    let messages := s.unsequenced p ++ [(s.side p).resume config p]
    some { s with unsequenced := Function.update s.unsequenced p messages }
  else none

/-- One event of a process that runs. -/
def run : Op → Option State
  | .connect p => s.connect config p
  | .disconnect p => s.disconnect config p
  | .receive p localFrame => s.receive config p localFrame
  | .receiveUnsequenced p index => s.receiveUnsequenced config p index
  | .sendResume p => s.sendResume config p
  | .sendMatchSeed p =>
    ((s.side p).sendMatchSeed (isHost p)).map fun (a, message) => s.act p a [.session message]
  | .sendStartReady p force =>
    ((s.side p).sendStartReady force).map fun (a, message) => s.act p a [.session message]
  | .beginWait p snapshot syncFrame =>
    ((s.side p).start.beginWait snapshot syncFrame).map fun start => s.act p { s.side p with start }
  | .waitRound p => ((s.side p).waitRound config).map fun a => s.act p a
  | .timeout p => (s.side p).start.timeout.map fun start => s.act p { s.side p with start }
  | .beginGeneration p => some (s.act p ((s.side p).beginGeneration config (isHost p)))
  | .sample p input =>
    ((s.side p).sample config input).map fun (a, packets) => s.act p a packets
  | .resendLatestInput p =>
    (s.side p).resendLatestInput.map fun packet => s.act p (s.side p) [packet]
  | .deadlineExceeded p =>
    if config.recoveryEnabled then some (s.act p (s.side p).failRecovery) else none

/-- A process that has ended does nothing any more. -/
def step (op : Op) : Option State :=
  if (s.side (peerOf op)).stopped then none else s.run config op

end State

end Bigstar.Netplay.NetplaySession
