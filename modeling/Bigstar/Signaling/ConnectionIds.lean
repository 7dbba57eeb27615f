import Bigstar.Signaling.RoomObject
import Mathlib.Algebra.Ring.Nat

/-!
# The connection ids of a room

The events of one room in any order: websocket requests, the answers of the lobby that some of them
wait for, messages and closes of the sockets, and the two HTTP handlers that change the record. A
handler runs to its end, except that other events may come while it awaits the lobby.
-/

namespace Bigstar.Signaling

/-- One room with the handlers that wait for the lobby. -/
structure RoomRun where
  /-- The durable object. -/
  object : RoomObject
  /-- The roles of the `fetch` handlers that await the lobby. -/
  awaiting : List Role := []
  /-- The messages other than session descriptions that participants have handed in for their
  peer. -/
  handedIn : List ServerMessage := []

/-- What can happen to one room. -/
inductive RoomEvent where
  /-- A websocket request, up to the call of the lobby. -/
  | join (server : Nat) (request : FetchRequest) (now : Nat)
  /-- The lobby has answered one of the waiting handlers. -/
  | lobbyAnswered (index : Nat)
  /-- A message arrives on a socket. -/
  | message (ws : Nat) (message : ClientMessage)
  /-- A socket is gone. -/
  | closed (ws now : Nat)
  /-- The room is joined by HTTP. -/
  | reserveJoin (params : ReserveJoinParams)
  /-- The room is closed by HTTP. -/
  | closeRoom (now : Nat)

namespace RoomRun

/-- The message that a relay of `message` makes of it. -/
def relayed (o : SignalingRoom) (ws : Nat) : ClientMessage → List ServerMessage
  | .candidate candidate =>
    match (o.sockets ws).attachment with
    | some attachment => [.candidate attachment.role candidate]
    | none => []
  | _ => []

/-- The server side of a new `WebSocketPair`. -/
def isNew (s : RoomRun) (server : Nat) : Bool :=
  (s.object.requests server).isNone && (s.object.room.sockets server).isOpen &&
    decide (server ∉ s.object.room.webSockets)

/-- `none` for an event that cannot happen. -/
def step (s : RoomRun) : RoomEvent → Option RoomRun
  | .join server request now =>
    if !s.isNew server then none
    else
      match s.object.fetch server request now with
      | .error _ => some s
      | .ok (object, none) => some { s with object }
      | .ok (object, some _) => some { s with object, awaiting := s.awaiting ++ [request.role] }
  | .lobbyAnswered index =>
    match s.awaiting[index]? with
    | none => none
    | some role =>
      some { s with object := s.object.fetchConnected role, awaiting := s.awaiting.eraseIdx index }
  | .message ws message =>
    if ws ∈ s.object.room.webSockets then
      some { s with
        object := s.object.webSocketMessage ws message
        handedIn := s.handedIn ++ relayed s.object.room ws message }
    else none
  | .closed ws now =>
    if ws ∈ s.object.room.webSockets then
      some { s with object := (s.object.webSocketClose ws now).1 }
    else none
  | .reserveJoin params =>
    match s.object.reserveJoin params with
    | .error _ => some s
    | .ok (object, _) => some { s with object }
  | .closeRoom now => some { s with object := s.object.closeRoom now }

/-- A room with its record and without any socket. -/
def start (record : Option RoomRecord) : RoomRun where
  object := { record, room := { sockets := fun _ => {} } }

end RoomRun

/-- Both participants use recovery. -/
def RoomEvent.usesRecovery : RoomEvent → Bool
  | .join _ request _ => request.recovery
  | _ => true

/-- The id of an announcement. -/
def ServerMessage.readyId : ServerMessage → Option Nat
  | .readyForOffer connectionId => some connectionId
  | _ => none

/-- The id that was announced last. -/
def lastReady (messages : List ServerMessage) : Option Nat :=
  (messages.filterMap ServerMessage.readyId).getLast?

/-- Between `o` and `o'` the socket is sent `m`, after everything in `before`. -/
def Delivers (o o' : SignalingRoom) (ws : Nat) (before : List ServerMessage) (m : ServerMessage) :
    Prop :=
  (o.sockets ws).toClient.length ≤ before.length ∧
    ∃ after, (o'.sockets ws).toClient = before ++ m :: after

/-- How often the first `n` sockets were sent `m`. -/
def deliveries (o : SignalingRoom) (n : Nat) (m : ServerMessage) : Nat :=
  ((List.range n).map fun ws => (o.sockets ws).toClient.count m).sum

end Bigstar.Signaling
