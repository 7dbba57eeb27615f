import Bigstar.Netplay.InputTimeline

/-!
# Session messages and the start handshake of one peer

`SessionProtocol` and `SessionPolicy` of `NsmbNetplayProtocol.cpp`. A message is represented by what
its decoder returns. The time stamps and the count that only pace the repetition of a message are
left out.
-/

namespace Bigstar.Netplay

namespace SessionProtocol

/-- The kinds of session messages. -/
inductive MessageKind where
  /-- The host tells the seed. -/
  | matchSeed
  /-- A game is ready to start. -/
  | startReady
  /-- A peer is back. -/
  | resume
  deriving DecidableEq, Repr

/-- A session message. Each kind uses some of the fields. -/
structure Message where
  /-- What it is about. -/
  kind : MessageKind := .matchSeed
  /-- The seed, or the last input that was received. -/
  value : Nat := 0
  /-- The generation of the sender. -/
  generation : Nat := 0
  /-- The raw frame that was ready, or the last local input. -/
  rawReadyFrame : Nat := 0
  /-- The epoch as the sender knows it. -/
  sharedLogicalEpoch : Nat := 0
  /-- The stage, as the game knows it. -/
  stageID : Nat := 0
  /-- Its group. -/
  stageGroup : Nat := 0
  /-- The seed that the game was started with. -/
  matchSeed : Nat := 0
  /-- The tick of the game's packets. -/
  packetTick : Nat := 0
  /-- The state of the game's random numbers. -/
  rngValue : Nat := 0
  /-- How often they have been used. -/
  rngCallCount : Nat := 0
  /-- From where they were used last. -/
  rngBranchAddress : Nat := 0
  /-- A hash of the game's state, or the nonce of a session. -/
  semanticHash : Nat := 0
  deriving DecidableEq, Repr

end SessionProtocol

namespace SessionPolicy

open SessionProtocol

/-! ## Policy -/

/-- The first frame whose input is not primed. -/
def firstGameplayInputFrame (netplayStartFrame : Nat) (inputDelay : Int) : Nat :=
  u32 (netplayStartFrame + (max 0 inputDelay).toNat)

/-- An input from after the start has been received, so the other peer has started. -/
def hasPostStartRemoteInput (hasReceivedInputFrame : Bool) (lastReceivedInputFrame : Nat)
    (netplayStartFrame : Nat) (inputDelay : Int) : Bool :=
  hasReceivedInputFrame &&
    decide (firstGameplayInputFrame netplayStartFrame inputDelay ≤ lastReceivedInputFrame)

/-- How two snapshots compare. -/
inductive StartReadyValidation where
  /-- They agree. -/
  | match
  /-- They are of different games. -/
  | generationMismatch
  /-- Somebody knows no epoch. -/
  | epochMissing
  /-- The epochs differ. -/
  | epochMismatch
  /-- The stages differ. -/
  | stageMismatch
  /-- The seeds differ. -/
  | seedMismatch
  /-- The ticks differ. -/
  | packetTickMismatch
  /-- The random numbers differ. -/
  | rngMismatch
  /-- The states of the game differ. -/
  | semanticStateMismatch
  deriving DecidableEq, Repr

/-- The first difference, in the order of the checks. -/
def validateStartReady (localReady remote : Message) (expectedGeneration sharedLogicalEpoch : Nat) :
    StartReadyValidation :=
  if localReady.generation ≠ expectedGeneration ∨ remote.generation ≠ expectedGeneration then
    .generationMismatch
  else if sharedLogicalEpoch = 0 ∨ localReady.sharedLogicalEpoch = 0 ∨
      remote.sharedLogicalEpoch = 0 then .epochMissing
  else if localReady.sharedLogicalEpoch ≠ sharedLogicalEpoch ∨
      remote.sharedLogicalEpoch ≠ sharedLogicalEpoch then .epochMismatch
  else if localReady.stageID ≠ remote.stageID ∨ localReady.stageGroup ≠ remote.stageGroup then
    .stageMismatch
  else if localReady.matchSeed ≠ remote.matchSeed then .seedMismatch
  else if localReady.packetTick ≠ remote.packetTick then .packetTickMismatch
  else if localReady.rngValue ≠ remote.rngValue ∨ localReady.rngCallCount ≠ remote.rngCallCount ∨
      localReady.rngBranchAddress ≠ remote.rngBranchAddress then .rngMismatch
  else if localReady.semanticHash ≠ remote.semanticHash then .semanticStateMismatch
  else .match

/-- The other one is ready, and knows or has shown that this one is. -/
def shouldAcceptStartReady
    (hasRemoteReadyFrame remoteReadyAfterLocal hasPostStartRemoteInput : Bool) : Bool :=
  hasRemoteReadyFrame && (remoteReadyAfterLocal || hasPostStartRemoteInput)

/-- Frames are counted from the epoch once the game is ready. -/
def logicalInputFrame (inputNetplayOnly : Bool) (localReadyFrame : Option Nat)
    (netplayStartFrame rawFrame : Nat) : Nat :=
  match localReadyFrame with
  | none => rawFrame
  | some ready =>
    if !inputNetplayOnly || decide (rawFrame < ready) then rawFrame
    else u32 (netplayStartFrame + (rawFrame - ready))

/-! ## The handshake of one peer -/

/-- The handshake as a peer knows it. -/
structure Runtime where
  /-- The seed has been sent. -/
  matchSeedSent : Bool := false
  /-- The start has been accepted. -/
  waitedForPeerAtStart : Bool := false
  /-- The snapshot has been sent. -/
  startReadySent : Bool := false
  /-- The raw frame of the local snapshot. -/
  localReadyFrame : Option Nat := none
  /-- The raw frame of the remote snapshot. -/
  remoteReadyFrame : Option Nat := none
  /-- The local snapshot. -/
  localReady : Option Message := none
  /-- The remote snapshot that was received last. -/
  remoteReady : Option Message := none
  /-- The game. -/
  generation : Nat := 0
  /-- The epoch, 0 as long as it is unknown. -/
  sharedLogicalEpoch : Nat := 0
  /-- It is known. -/
  logicalEpochEstablished : Bool := false
  /-- What the last comparison said. -/
  validation : StartReadyValidation := .generationMismatch
  /-- A remote snapshot has come in since the local one was taken. -/
  remoteReadyAfterLocal : Bool := false
  /-- The epoch for which the inputs have been primed. -/
  inputEpochPrimedStartFrame : Option Nat := none
  deriving DecidableEq

namespace Runtime

/-- Nothing is known of a start. -/
def resetStartHandshake (r : Runtime) : Runtime :=
  { r with
    waitedForPeerAtStart := false
    startReadySent := false
    localReadyFrame := none
    remoteReadyFrame := none
    localReady := none
    remoteReady := none
    remoteReadyAfterLocal := false
    inputEpochPrimedStartFrame := none
    validation := .generationMismatch }

/-- A new game; its epoch is the host's. -/
def beginGeneration (r : Runtime) (generation sharedLogicalEpoch : Nat) (host : Bool) : Runtime :=
  { r.resetStartHandshake with
    generation
    sharedLogicalEpoch := if host then sharedLogicalEpoch else 0
    logicalEpochEstablished := host && sharedLogicalEpoch != 0 }

/-- A new connection: everything is sent again, and what was received is forgotten. -/
def onPeerConnected (r : Runtime) : Runtime :=
  { r with
    matchSeedSent := false
    startReadySent := false
    remoteReadyFrame := none
    remoteReady := none
    remoteReadyAfterLocal := false }

/-- The frame is forgotten; the message of the last wait is not. -/
def resetReadyWaitAfterTimeout (r : Runtime) : Runtime :=
  { r with localReadyFrame := none, remoteReadyAfterLocal := false, startReadySent := false }

/-- Once, unless it is forced. -/
def canSendStartReady (r : Runtime) (force : Bool) : Bool := !r.startReadySent || force

/-- The snapshot has been sent. -/
def markStartReadySent (r : Runtime) : Runtime := { r with startReadySent := true }

/-- The first snapshot of a wait is kept; raw frame 0 is none. -/
def beginLocalReady (r : Runtime) (message : Message) : Runtime :=
  if r.localReadyFrame.isSome then r
  else if message.rawReadyFrame = 0 then
    { r with localReadyFrame := none, localReady := none, remoteReadyAfterLocal := false }
  else
    { r with
      localReadyFrame := some message.rawReadyFrame
      localReady := some message
      remoteReadyAfterLocal := false }

/-- A remote snapshot replaces the one before. -/
def receiveRemoteReady (r : Runtime) (message : Message) : Runtime :=
  let r :=
    if message.rawReadyFrame = 0 then { r with remoteReadyFrame := none, remoteReady := none }
    else { r with remoteReadyFrame := some message.rawReadyFrame, remoteReady := some message }
  if r.localReadyFrame.isSome then { r with remoteReadyAfterLocal := true } else r

/-- The client takes the host's epoch. -/
def adoptHostLogicalEpoch (r : Runtime) (epoch : Nat) : Runtime :=
  { r with sharedLogicalEpoch := epoch, logicalEpochEstablished := epoch != 0 }

/-- Keeps the result of a comparison. -/
def markStartReadyValidation (r : Runtime) (validation : StartReadyValidation) : Runtime :=
  { r with validation }

/-- The wait is over. -/
def markWaitedForPeerAtStart (r : Runtime) : Runtime := { r with waitedForPeerAtStart := true }

/-- The inputs have been primed for an epoch. -/
def markInputEpochPrimed (r : Runtime) (startFrame : Nat) : Runtime :=
  { r with inputEpochPrimedStartFrame := if startFrame = 0 then none else some startFrame }

/-- The snapshots agree. -/
def startReadyValidated (r : Runtime) : Bool := r.validation == .match

end Runtime

end SessionPolicy

end Bigstar.Netplay
