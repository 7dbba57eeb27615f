import Bigstar.Signaling.RoomObject

/-!
# Rooms and the lobby

The durable object `LobbyObject`, the HTTP handlers of rooms in `app.ts`, and all rooms of the
server together with the handlers that are under way. A handler stops only where it calls another
object: the HTTP join between `getRoom` and `reserveJoin`, and every handler while it awaits the
lobby. Calls of the lobby are applied in any order.

The id of a room is random and is not known before `POST /rooms` has answered or the lobby lists the
room. So the creation of a room and its entry in the lobby are one event, and nothing else happens
to a room before it.
-/

namespace Bigstar.Signaling

/-- The entry `rooms` of the lobby's storage, by room id. -/
structure LobbyObject where
  /-- In the order of their insertion. -/
  rooms : List (String × RoomSummary) := []

namespace LobbyObject

/-- The rooms that the list shows at a time. -/
def joinable (now : Nat) (room : RoomSummary) : Bool :=
  room.status != .closed && decide (now < room.expiresAt) && room.canJoin

/-- An entry that exists keeps its place. -/
def upsertRoom (o : LobbyObject) (room : RoomSummary) : LobbyObject :=
  if o.rooms.any fun entry => entry.1 == room.roomId then
    { o with
      rooms := o.rooms.map fun entry => if entry.1 = room.roomId then (entry.1, room) else entry }
  else { o with rooms := o.rooms ++ [(room.roomId, room)] }

/-- The entry of a room is dropped. -/
def removeRoom (o : LobbyObject) (roomId : String) : LobbyObject :=
  { o with rooms := o.rooms.filter fun entry => entry.1 != roomId }

/-- The newest room comes first. -/
def sortedJoinableRooms (o : LobbyObject) (now : Nat) : List RoomSummary :=
  ((o.rooms.map Prod.snd).filter (joinable now)).mergeSort fun a b => b.createdAt ≤ a.createdAt

/-- `freshRooms` drops for good what cannot be joined any more. -/
def freshRooms (o : LobbyObject) (now : Nat) : LobbyObject :=
  { o with rooms := o.rooms.filter fun entry => joinable now entry.2 }

/-- `GET /rooms`: the list, and the lobby without what has expired. -/
def listRooms (o : LobbyObject) (now : Nat) : LobbyObject × List RoomSummary :=
  (o.freshRooms now, (o.freshRooms now).sortedJoinableRooms now)

end LobbyObject

/-- A handler that waits for another object. -/
inductive Handler where
  /-- `POST /rooms/:roomId/join` before `reserveJoin`. -/
  | join (roomId : String) (params : ReserveJoinParams)
  /-- A handler that has changed a room and tells the lobby. -/
  | upsertRoom (room : RoomSummary)
  /-- A handler that has closed a room and tells the lobby. -/
  | removeRoom (roomId : String)
  /-- `fetch` in `markConnected`. -/
  | markConnected (roomId : String) (role : Role) (room : RoomSummary)
  /-- `fetch` after the lobby has answered. -/
  | fetchConnected (roomId : String) (role : Role)

/-- All objects of the server. -/
structure Server where
  /-- The rooms, by their ids. -/
  objects : String → RoomObject := fun _ => { room := { sockets := fun _ => {} } }
  /-- The one object of the lobby. -/
  lobby : LobbyObject := {}
  /-- The handlers under way, in the order in which they began to wait. -/
  handlers : List Handler := []
  /-- The join tokens that were issued, with their rooms. -/
  issued : List (String × String) := []
  /-- The rooms whose entries the lobby has dropped as expired. -/
  dropped : List String := []

/-- The requests and websocket events of all rooms, with the clock of their handlers. -/
inductive ServerEvent where
  /-- `POST /rooms`. -/
  | createRoom (params : CreateRoomParams)
  /-- `POST /rooms/:roomId/join`, up to its first wait. -/
  | join (roomId romPairId joinToken : String) (now : Nat)
  /-- `POST /rooms/:roomId/close`. -/
  | close (roomId : String) (now : Nat)
  /-- The room of a websocket is its session. -/
  | fetch (server : Nat) (request : FetchRequest) (now : Nat)
  /-- A message arrives on an accepted socket. -/
  | message (roomId : String) (ws : Nat) (message : ClientMessage)
  /-- An accepted socket is gone. -/
  | closed (roomId : String) (ws now : Nat)
  /-- A handler that waits goes on. -/
  | resume (index : Nat)
  /-- `GET /rooms`. -/
  | listRooms (now : Nat)

namespace Server

/-- One room changes. -/
def setObject (s : Server) (roomId : String) (o : RoomObject) : Server :=
  { s with objects := Function.update s.objects roomId o }

/-- A handler begins to wait. -/
def wait (s : Server) (handler : Handler) : Server := { s with handlers := s.handlers ++ [handler] }

/-- The server side of a new `WebSocketPair`. -/
def isNew (o : RoomObject) (server : Nat) : Bool :=
  (o.requests server).isNone && (o.room.sockets server).isOpen &&
    decide (server ∉ o.room.webSockets)

/-- A waiting handler, taken out of the list, goes on. -/
def resume (s : Server) : Handler → Server
  | .join roomId params =>
    match (s.objects roomId).reserveJoin params with
    | .error _ => s
    | .ok (o, record) =>
      { (s.setObject roomId o).wait (.upsertRoom (publicRoom record 0)) with
        issued := s.issued ++ [(roomId, params.joinToken)] }
  | .upsertRoom room => { s with lobby := s.lobby.upsertRoom room }
  | .removeRoom roomId => { s with lobby := s.lobby.removeRoom roomId }
  | .markConnected roomId role room =>
    { s with lobby := s.lobby.upsertRoom room }.wait (.fetchConnected roomId role)
  | .fetchConnected roomId role => s.setObject roomId ((s.objects roomId).fetchConnected role)

/-- `none` for an event that cannot happen; a request that is refused changes nothing. -/
def step (s : Server) : ServerEvent → Option Server
  | .createRoom params =>
    if (s.objects params.roomId).record.isSome then none
    else
      match (s.objects params.roomId).createRoom params with
      | .error _ => some s
      | .ok (o, record) =>
        some { s.setObject params.roomId o with lobby := s.lobby.upsertRoom (publicRoom record 0) }
  | .join roomId romPairId joinToken now =>
    match (s.objects roomId).getRoom now with
    | none => some s
    | some current =>
      if current.romPairId ≠ romPairId then some s
      else some (s.wait (.join roomId { joinToken, now }))
  | .close roomId now =>
    if (s.objects roomId).record.isNone then none
    else some ((s.setObject roomId ((s.objects roomId).closeRoom now)).wait (.removeRoom roomId))
  | .fetch server request now =>
    let o := s.objects request.session
    if o.record.isNone || !isNew o server then none
    else
      match o.fetch server request now with
      | .error _ => some s
      | .ok (o, none) => some (s.setObject request.session o)
      | .ok (o, some room) =>
        some ((s.setObject request.session o).wait
          (.markConnected request.session request.role room))
  | .message roomId ws message =>
    if ws ∈ (s.objects roomId).room.webSockets then
      some (s.setObject roomId ((s.objects roomId).webSocketMessage ws message))
    else none
  | .closed roomId ws now =>
    if ws ∈ (s.objects roomId).room.webSockets then
      match (s.objects roomId).webSocketClose ws now with
      | (o, none) => some (s.setObject roomId o)
      | (o, some session) => some ((s.setObject roomId o).wait (.removeRoom session))
    else none
  | .resume index =>
    match s.handlers[index]? with
    | none => none
    | some handler => some ({ s with handlers := s.handlers.eraseIdx index }.resume handler)
  | .listRooms now =>
    let expired := s.lobby.rooms.filter fun entry => entry.2.expiresAt ≤ now
    some { s with lobby := (s.lobby.listRooms now).1, dropped := s.dropped ++ expired.map Prod.fst }

end Server

end Bigstar.Signaling
