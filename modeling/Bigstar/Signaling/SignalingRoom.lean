import Mathlib.Logic.Function.Basic
import Mathlib.Tactic.Common

/-!
# The signaling room

The durable object `SignalingRoom` of `bigstar-signaling-server`, as far as it relays between two
websockets. A handler runs to its end without another one in between, also across its storage
operations. The one exception is the call of the lobby in `markConnected`, so `fetch` comes in two
parts.

Fields that neither side reads (the counts of peers, the ICE servers, the settings, the tokens) are
left out. The checks of `fetch` on the room record decide only whether a request is refused.
-/

namespace Bigstar.Signaling

/-- `SignalRole`: the host offers a connection, and the guest answers. -/
inductive Role where
  /-- The host. -/
  | offer
  /-- The guest. -/
  | answer
  deriving DecidableEq, Repr

/-- The role on the other side. -/
def peerRole : Role → Role
  | .offer => .answer
  | .answer => .offer

@[simp]
theorem peerRole_peerRole (r : Role) : peerRole (peerRole r) = r := by
  cases r <;> rfl

/-- `WsClientMessage`. -/
inductive ClientMessage where
  /-- A session description; the id is absent where the client knows no recovery. -/
  | sdp (sdpType : Role) (sdp : String) (connectionId : Option Nat)
  /-- A candidate of the connection, which is relayed as it is. -/
  | candidate (candidate : String)
  /-- Answered with `pong`. -/
  | ping
  /-- The connection with this id is lost, and the client asks for the next one. -/
  | restart (connectionId : Nat)
  deriving DecidableEq, Repr

/-- `WsServerMessage`. A relayed message carries the role that it comes from. -/
inductive ServerMessage where
  /-- The first message on every socket. -/
  | hello (recoveryVersion : Nat)
  /-- Both roles are there: the connection with this id is to be made. -/
  | readyForOffer (connectionId : Nat)
  /-- The other role has connected. -/
  | peerJoined (role : Role)
  /-- The other role's socket is gone. -/
  | peerLeft (role : Role)
  /-- The answer to a ping. -/
  | pong
  /-- The answer to a message that cannot be read. Such messages are no events here, so it is never
  sent. -/
  | error
  /-- A relayed session description. -/
  | sdp (sender : Role) (sdpType : Role) (sdp : String) (connectionId : Option Nat)
  /-- A relayed candidate. -/
  | candidate (sender : Role) (candidate : String)
  deriving DecidableEq, Repr

/-- What the server keeps with a socket that it has accepted. -/
structure Attachment where
  /-- The role that the socket speaks for. -/
  role : Role
  /-- The room has no record: the client has not created it by HTTP. -/
  legacy : Bool
  /-- The client asked for recovery when it connected. -/
  recovery : Bool
  deriving DecidableEq, Repr

/-- A websocket with what is on the way in both directions. -/
structure Socket where
  /-- `deserializeAttachment`, which is null before the socket is accepted and after it was
  replaced. -/
  attachment : Option Attachment := none
  /-- `readyState === WebSocket.OPEN`. -/
  isOpen : Bool := true
  /-- The messages that the client has not received yet. -/
  toClient : List ServerMessage := []
  /-- The messages that no handler has seen yet. -/
  toServer : List ClientMessage := []

/-- A message that waits for a role that is not connected. -/
structure QueuedSignalMessage where
  /-- What is to be sent. -/
  message : ServerMessage
  /-- The role that it waits for. -/
  targetRole : Role
  deriving DecidableEq, Repr

/-- The durable object, with the sockets of its websockets. -/
structure SignalingRoom where
  /-- The server sides of all websockets, accepted or not. -/
  sockets : Nat → Socket
  /-- `ctx.getWebSockets()`. -/
  webSockets : List Nat := []
  /-- The entry `connection-id` of the storage. -/
  connectionId : Option Nat := none
  /-- The entry `queued-signals` of the storage. -/
  queuedSignals : List QueuedSignalMessage := []

namespace SignalingRoom

/-- One socket changes. -/
def setSocket (o : SignalingRoom) (ws : Nat) (socket : Socket) : SignalingRoom :=
  { o with sockets := Function.update o.sockets ws socket }

/-- What is sent to a socket that is not open is lost. -/
def send (o : SignalingRoom) (ws : Nat) (message : ServerMessage) : SignalingRoom :=
  let socket := o.sockets ws
  if socket.isOpen then o.setSocket ws { socket with toClient := socket.toClient ++ [message] }
  else o

/-- The server closes a socket; what is on the way stays there. -/
def close (o : SignalingRoom) (ws : Nat) : SignalingRoom :=
  o.setSocket ws { o.sockets ws with isOpen := false }

/-- The first accepted socket that speaks for the role. -/
def getSocketByRole (o : SignalingRoom) (role : Role) : Option Nat :=
  o.webSockets.find? fun ws => (o.sockets ws).attachment.map Attachment.role = some role

/-- One socket of `broadcast`. -/
def broadcastTo (message : ServerMessage) (except : Option Nat) (o : SignalingRoom) (ws : Nat) :
    SignalingRoom :=
  if some ws ≠ except ∧ (o.sockets ws).attachment.isSome ∧ (o.sockets ws).isOpen then
    o.send ws message
  else o

/-- A message to every accepted socket that is open, except one. -/
def broadcast (o : SignalingRoom) (message : ServerMessage) (except : Option Nat) : SignalingRoom :=
  o.webSockets.foldl (broadcastTo message except) o

/-- An SDP with a connection id belongs to one recovery. -/
def ofRecovery : ServerMessage → Bool
  | .sdp _ _ _ (some _) => true
  | _ => false

/-- Announces the next connection id, or the current one if another than the expected one is
current. -/
def startConnection (o : SignalingRoom) (expectedId : Option Nat) : SignalingRoom :=
  let current := o.connectionId.getD 0
  let stored :=
    if expectedId.any (· != current) then (o, current)
    else ({ o with connectionId := some (current + 1) }, current + 1)
  let o := stored.1
  -- keeps early offers of legacy peers, but never delivers an SDP of a previous recovery
  let o := { o with queuedSignals := o.queuedSignals.filter fun entry => !ofRecovery entry.message }
  o.broadcast (.readyForOffer stored.2) none

/-- A message is kept until its role connects. -/
def queueSignal (o : SignalingRoom) (targetRole : Role) (message : ServerMessage) : SignalingRoom :=
  { o with queuedSignals := o.queuedSignals ++ [{ message, targetRole }] }

/-- One entry of the loop of `flushQueuedSignals`. -/
def flushEntry (role : Role) (target : Nat) (o : SignalingRoom) (entry : QueuedSignalMessage) :
    SignalingRoom :=
  if entry.targetRole = role then o.send target entry.message else o

/-- What has waited for a role is sent to its socket. -/
def flushQueuedSignals (o : SignalingRoom) (role : Role) : SignalingRoom :=
  match o.getSocketByRole role with
  | none => o
  | some target =>
    { o.queuedSignals.foldl (flushEntry role target) o with
      queuedSignals := o.queuedSignals.filter fun entry => entry.targetRole != role }

/-- `fetch` from the acceptance of the socket to the call of the lobby. The result says whether both
roles are connected. -/
def acceptWebSocket (o : SignalingRoom) (server : Nat) (attachment : Attachment) :
    SignalingRoom × Bool :=
  let o := o.setSocket server { o.sockets server with attachment := some attachment }
  let o := { o with webSockets := o.webSockets ++ [server] }
  let o := o.send server (.hello 1)
  let o := o.broadcast (.peerJoined attachment.role) (some server)
  if (o.getSocketByRole .offer).isSome && (o.getSocketByRole .answer).isSome then (o, true)
  else (o.flushQueuedSignals attachment.role, false)

/-- `fetch` up to the call of the lobby, once the checks on the room record have passed. A request
for a role that is taken is refused, unless it replaces the socket of a recovery. -/
def fetch (o : SignalingRoom) (server : Nat) (attachment : Attachment) :
    Option (SignalingRoom × Bool) :=
  match o.getSocketByRole attachment.role with
  | none => some (o.acceptWebSocket server attachment)
  | some existing =>
    if !attachment.legacy && attachment.recovery &&
        (o.sockets existing).attachment.any Attachment.recovery then
      -- late events of the replaced socket find no attachment
      let o := o.setSocket existing { o.sockets existing with attachment := none }
      some ((o.close existing).acceptWebSocket server attachment)
    else none

/-- `fetch` after the lobby has answered. -/
def fetchConnected (o : SignalingRoom) (role : Role) : SignalingRoom :=
  (o.startConnection none).flushQueuedSignals role

/-- The last part of `webSocketMessage`. -/
def relay (o : SignalingRoom) (role : Role) (message : ServerMessage) : SignalingRoom :=
  match o.getSocketByRole (peerRole role) with
  | none => o.queueSignal (peerRole role) message
  | some target => o.send target message

/-- The handler of a message. The answer to one that cannot be read is left out. -/
def webSocketMessage (o : SignalingRoom) (ws : Nat) (message : ClientMessage) : SignalingRoom :=
  match (o.sockets ws).attachment with
  | none => o.close ws
  | some attachment =>
    match message with
    | .ping => o.send ws .pong
    | .restart id =>
      let current := o.connectionId.getD 0
      if !attachment.recovery then o
      else if id = current ∧ (o.getSocketByRole .offer).isSome ∧
          (o.getSocketByRole .answer).isSome then
        o.startConnection (some id)
      else if id < current then o.send ws (.readyForOffer current)
      else o
    | .sdp sdpType sdp id =>
      if attachment.recovery ∧ (id ≠ o.connectionId ∨ sdpType ≠ attachment.role) then o
      else o.relay attachment.role (.sdp attachment.role sdpType sdp id)
    | .candidate candidate => o.relay attachment.role (.candidate attachment.role candidate)

/-- The socket is gone, and `webSocketClose` has run. -/
def webSocketClose (o : SignalingRoom) (ws : Nat) : SignalingRoom :=
  let closed := o.close ws
  let closed := { closed with webSockets := closed.webSockets.filter (· != ws) }
  match (o.sockets ws).attachment with
  | none => closed
  | some attachment => closed.broadcast (.peerLeft attachment.role) (some ws)

end SignalingRoom

end Bigstar.Signaling
