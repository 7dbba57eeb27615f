import Bigstar.Lib.Run
import Bigstar.Lib.TwoParty
import Bigstar.Netplay.SessionPolicy

/-!
# The start handshake of two peers

`WaitForRemoteStartReady` and the messages around it (`NsmbNetplaySession.cpp`). Each peer takes a
snapshot of its game when that is ready to start, sends it to the other one, and waits until a
matching snapshot has come in. The wait may time out, after which the peer takes another snapshot; a
mismatch ends the process. Peer 0 is the host, whose epoch the client adopts.

A message that was sent may arrive at any later time or never, which covers every connection that
delivers in order and loses what is in flight when it breaks.
-/

namespace Bigstar.Netplay.StartHandshake

open SessionProtocol SessionPolicy TwoParty

/-- `Connection.StartFrame` of the host. -/
structure Config where
  /-- The epoch of every game. -/
  startFrame : Nat
  /-- It is a 32-bit number. -/
  fits : startFrame ≤ u32Max

/-- A peer has left the wait by accepting. -/
structure Acceptance where
  /-- The local snapshot, with the epoch that was agreed on. -/
  ready : Message
  /-- The logical frame of the raw frame in which the snapshot was taken. -/
  logicalFrame : Nat
  deriving DecidableEq

/-- One of the two processes. -/
structure Peer where
  /-- What it knows of the start. -/
  handshake : SessionPolicy.Runtime := {}
  /-- `Connection.SharedLogicalEpoch`. -/
  sharedLogicalEpoch : Nat := 0
  /-- The process has ended. -/
  stopped : Bool := false
  /-- All local snapshots so far. -/
  readies : List Message := []
  /-- All acceptances so far. -/
  accepted : List Acceptance := []

namespace Peer

/-- `normalizedLocal`: the snapshot with the epoch that is shared by now. -/
def normalized (a : Peer) (localReady : Message) : Message :=
  { localReady with sharedLogicalEpoch := a.handshake.sharedLogicalEpoch }

/-- A local snapshot is compared with the message that was received last. -/
def validate (a : Peer) (localReady remote : Message) : Peer :=
  let validation := validateStartReady (a.normalized localReady) remote a.handshake.generation
    a.handshake.sharedLogicalEpoch
  { a with handshake := a.handshake.markStartReadyValidation validation }

/-- `WaitForRemoteStartReady` up to its loop. Raw frame 0 comes before the startup frame. -/
def beginWait (snapshot : Message) (syncFrame : Nat) (a : Peer) : Option Peer :=
  if a.stopped ∨ a.handshake.waitedForPeerAtStart ∨ a.handshake.localReadyFrame.isSome ∨
      syncFrame = 0 then none
  else
    let localReady : Message := { snapshot with
      kind := .startReady
      generation := a.handshake.generation
      rawReadyFrame := syncFrame
      sharedLogicalEpoch := a.handshake.sharedLogicalEpoch }
    let a := { a with
      handshake := a.handshake.beginLocalReady localReady
      readies := a.readies ++ [localReady] }
    match a.handshake.remoteReady with
    | none => some a
    | some remote => some (a.validate localReady remote)

/-- `SendStartReadyLocked` in the loop, and `MaybeResendStartReadyLocked` when it is time to. -/
def sendStartReady (force : Bool) (a : Peer) : Option (Peer × Message) :=
  match a.handshake.localReadyFrame, a.handshake.localReady with
  | some frame, some localReady =>
    let resend := force && a.handshake.startReadySent
    let first := !force && !a.handshake.waitedForPeerAtStart
    if !a.stopped && (resend || first) && a.handshake.canSendStartReady force &&
        a.handshake.logicalEpochEstablished then
      let message := { localReady with
        generation := a.handshake.generation
        rawReadyFrame := frame
        sharedLogicalEpoch := a.handshake.sharedLogicalEpoch }
      some ({ a with handshake := a.handshake.markStartReadySent }, message)
    else none
  | _, _ => none

/-- `HandleReceivedSessionLocked` of a start-ready message. -/
def receiveStartReady (host : Bool) (a : Peer) (message : Message) : Peer :=
  if message.generation ≠ a.handshake.generation then a
  else
    let a :=
      if host then a
      else
        { a with
          handshake := a.handshake.adoptHostLogicalEpoch message.sharedLogicalEpoch
          sharedLogicalEpoch := message.sharedLogicalEpoch }
    let a := { a with handshake := a.handshake.receiveRemoteReady message }
    match a.handshake.localReady with
    | none => a
    | some localReady => a.validate localReady message

/-- `LogicalFrame`. -/
def logicalFrame (a : Peer) (rawFrame : Nat) : Nat :=
  logicalInputFrame true a.handshake.localReadyFrame a.sharedLogicalEpoch rawFrame

/-- The end of a round of the loop: a mismatch ends the process, a match may end the wait. -/
def waitRound (lastReceivedInputFrame : Nat) (delay : Int) (a : Peer) : Option Peer :=
  match a.handshake.localReadyFrame, a.handshake.localReady with
  | some frame, some localReady =>
    if a.stopped ∨ a.handshake.waitedForPeerAtStart then none
    else if a.handshake.remoteReadyFrame.isSome ∧ a.handshake.validation ≠ .match then
      some { a with stopped := true }
    else
      let postStart := hasPostStartRemoteInput (lastReceivedInputFrame != 0) lastReceivedInputFrame
        a.sharedLogicalEpoch delay
      if shouldAcceptStartReady a.handshake.remoteReadyFrame.isSome
        a.handshake.remoteReadyAfterLocal
          postStart && a.handshake.startReadyValidated then
        let handshake := a.handshake.markWaitedForPeerAtStart.markInputEpochPrimed
          a.sharedLogicalEpoch
        let acceptance := { ready := a.normalized localReady, logicalFrame := a.logicalFrame frame }
        some { a with handshake, accepted := a.accepted ++ [acceptance] }
      else some a
  | _, _ => none

/-- The wait has taken too long. -/
def timeout (a : Peer) : Option Peer :=
  if a.stopped ∨ a.handshake.waitedForPeerAtStart ∨ a.handshake.localReadyFrame.isNone then none
  else some { a with handshake := a.handshake.resetReadyWaitAfterTimeout }

/-- `ResetSyncStateForRestart`: the next generation. -/
def beginGeneration (config : Config) (host : Bool) (generation : Nat) (a : Peer) : Peer :=
  let sharedLogicalEpoch := if host then config.startFrame else 0
  { a with
    sharedLogicalEpoch
    handshake := a.handshake.beginGeneration generation sharedLogicalEpoch host }

end Peer

/-- Both peers and all messages they have sent. -/
abbrev State := TwoParty.Net Peer Message

/-- What can happen to the two peers. -/
inductive Op where
  /-- A peer starts the next game. -/
  | beginGeneration (p : Fin 2)
  /-- A game is ready: its snapshot is taken. -/
  | beginWait (p : Fin 2) (snapshot : Message) (syncFrame : Nat)
  /-- The snapshot is sent, or sent again. -/
  | send (p : Fin 2) (force : Bool)
  /-- Any of the messages that were sent arrives. -/
  | receive (p : Fin 2) (index : Nat)
  /-- A new connection. -/
  | onPeerConnected (p : Fin 2)
  /-- A round of the wait. -/
  | waitRound (p : Fin 2) (lastReceivedInputFrame : Nat) (delay : Int)
  /-- The wait has lasted too long. -/
  | timeout (p : Fin 2)

namespace State

/-- Peer 0 is the host. -/
def isHost (p : Fin 2) : Bool := p == 0

/-- Both begin their first game. -/
def init (config : Config) : State :=
  { side := fun p => ({} : Peer).beginGeneration config (isHost p) 0
    sent := fun _ => [] }

/-- One of these, where it is possible. -/
def step (config : Config) (s : State) : Op → Option State
  | .beginGeneration p =>
    let a := s.side p
    some (s.put p (a.beginGeneration config (isHost p) (a.handshake.generation + 1)))
  | .beginWait p snapshot syncFrame =>
    ((s.side p).beginWait snapshot syncFrame).map fun a => s.put p a
  | .send p force => ((s.side p).sendStartReady force).map fun (a, message) => s.put p a [message]
  | .receive p index =>
    (s.sent (other p))[index]?.map fun message =>
      s.put p ((s.side p).receiveStartReady (isHost p) message)
  | .onPeerConnected p =>
    some (s.put p { s.side p with handshake := (s.side p).handshake.onPeerConnected })
  | .waitRound p lastReceivedInputFrame delay =>
    ((s.side p).waitRound lastReceivedInputFrame delay).map fun a => s.put p a
  | .timeout p => (s.side p).timeout.map fun a => s.put p a

end State

/-- A later snapshot of a generation carries a larger packet tick. -/
def TicksIncrease (s : State) : Op → Prop
  | .beginWait p snapshot _ =>
    ∀ ready ∈ (s.side p).readies, ready.generation = (s.side p).handshake.generation →
      ready.packetTick < snapshot.packetTick
  | _ => True

/-- There are finitely many snapshots to compare with. -/
instance decidableTicksIncrease (s : State) : (op : Op) → Decidable (TicksIncrease s op)
  | .beginWait p snapshot _ =>
    inferInstanceAs (Decidable (∀ ready ∈ (s.side p).readies,
      ready.generation = (s.side p).handshake.generation → ready.packetTick < snapshot.packetTick))
  | .beginGeneration _ => inferInstanceAs (Decidable True)
  | .send _ _ => inferInstanceAs (Decidable True)
  | .receive _ _ => inferInstanceAs (Decidable True)
  | .onPeerConnected _ => inferInstanceAs (Decidable True)
  | .waitRound _ _ _ => inferInstanceAs (Decidable True)
  | .timeout _ => inferInstanceAs (Decidable True)

end Bigstar.Netplay.StartHandshake
