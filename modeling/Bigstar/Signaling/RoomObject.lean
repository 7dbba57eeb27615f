import Bigstar.Signaling.SignalingRoom

/-!
# The record of a room

The durable object `SignalingRoom` as a whole: the room record in its storage beside the sockets,
with the handlers that change it. A call of the lobby is not part of a handler: the handler up to it
returns what the lobby is called with.

Of a record only the fields that some handler compares or sets are kept; the names, the profiles and
the settings are passed on as they are.
-/

namespace Bigstar.Signaling

/-- The states of a room, in the order in which it goes through them. -/
inductive RoomStatus where
  /-- Created, and nobody has joined yet. -/
  | «open»
  /-- A join token has been issued. -/
  | joining
  /-- Both roles have been connected. -/
  | connected
  /-- Closed by HTTP, or because a participant without recovery has left. -/
  | closed
  deriving DecidableEq, Repr

/-- The record of a room in the storage of its object. Points in time are milliseconds. -/
structure RoomRecord where
  /-- The random id under which the object is found. -/
  roomId : String
  /-- The token that the host connects with. -/
  hostToken : String
  /-- The token of the guest, once the room has been joined. -/
  joinToken : Option String
  /-- How far the room has come. -/
  status : RoomStatus
  /-- The ROM of the host; a guest has to have the same one. -/
  romPairId : String
  /-- When the room was created. -/
  createdAt : Nat
  /-- When the record was written last. -/
  updatedAt : Nat
  /-- From then on the room can be neither joined nor connected to. -/
  expiresAt : Nat
  /-- Whether the lobby shows the room. -/
  canJoin : Bool
  deriving DecidableEq, Repr

/-- What everybody may see of a room. -/
structure RoomSummary where
  /-- The id of the room. -/
  roomId : String
  /-- How far the room has come. -/
  status : RoomStatus
  /-- The ROM of the host. -/
  romPairId : String
  /-- When the room was created. -/
  createdAt : Nat
  /-- When its record was written last. -/
  updatedAt : Nat
  /-- When the room ends. -/
  expiresAt : Nat
  /-- Whether a guest can still join. -/
  canJoin : Bool
  /-- How many roles are connected. -/
  peerCount : Nat
  deriving DecidableEq, Repr

/-- The summary of a record. -/
def publicRoom (record : RoomRecord) (peerCount : Nat) : RoomSummary where
  roomId := record.roomId
  status := record.status
  romPairId := record.romPairId
  createdAt := record.createdAt
  updatedAt := record.updatedAt
  expiresAt := record.expiresAt
  canJoin := record.status == .«open»
  peerCount := peerCount

/-- The parameters of `createRoom`, with the id and the token that `POST /rooms` has drawn. -/
structure CreateRoomParams where
  /-- The random id. -/
  roomId : String
  /-- The random token of the host. -/
  hostToken : String
  /-- The ROM of the host. -/
  romPairId : String
  /-- The time of the request. -/
  now : Nat
  /-- When the room will end. -/
  expiresAt : Nat

/-- The parameters of `reserveJoin`, with the token that the HTTP handler has drawn. -/
structure ReserveJoinParams where
  /-- The random token of the guest. -/
  joinToken : String
  /-- The time of the request. -/
  now : Nat

/-- The query of a websocket request. -/
structure FetchRequest where
  /-- The id of the room. -/
  session : String
  /-- The role that the socket is to speak for. -/
  role : Role
  /-- The token of that role, if the client sends one. -/
  token : Option String
  /-- The client can recover a lost connection. -/
  recovery : Bool
  deriving DecidableEq, Repr

/-- A websocket request that is refused. -/
inductive FetchError where
  /-- The token is not the one of the role. -/
  | invalidToken
  /-- The room is closed or has expired. -/
  | roomClosed
  /-- The role has a socket, which is not to be replaced. -/
  | alreadyConnected
  deriving DecidableEq, Repr

/-- The durable object as a whole. -/
structure RoomObject where
  /-- The entry `room` of the storage. -/
  record : Option RoomRecord := none
  /-- Its websockets and the relay between them. -/
  room : SignalingRoom
  /-- The request that a socket was opened with; the attachment holds its session and its token. -/
  requests : Nat → Option FetchRequest := fun _ => none

namespace RoomObject

/-- A room whose id is taken is refused, unless it is closed. -/
def createRoom (o : RoomObject) (params : CreateRoomParams) :
    Except String (RoomObject × RoomRecord) :=
  if o.record.any fun existing => existing.status != .closed then .error "room already exists"
  else
    let room : RoomRecord := {
      roomId := params.roomId
      hostToken := params.hostToken
      joinToken := none
      status := .«open»
      romPairId := params.romPairId
      createdAt := params.now
      updatedAt := params.now
      expiresAt := params.expiresAt
      canJoin := true }
    .ok ({ o with record := some room }, room)

/-- The record of a room that is neither closed nor expired. -/
def getRoom (o : RoomObject) (now : Nat) : Option RoomRecord :=
  o.record.filter fun room => room.status != .closed && decide (now < room.expiresAt)

/-- Issues the join token of an open room; the second join finds it reserved. -/
def reserveJoin (o : RoomObject) (params : ReserveJoinParams) :
    Except String (RoomObject × RoomRecord) :=
  match o.getRoom params.now with
  | none => .error "room not found"
  | some room =>
    if room.status ≠ .«open» then .error "room is not joinable"
    else
      let next := { room with
        status := .joining
        joinToken := some params.joinToken
        updatedAt := params.now
        canJoin := false }
      .ok ({ o with record := some next }, next)

/-- Closes the room, in whatever state it is. -/
def closeRoom (o : RoomObject) (now : Nat) : RoomObject :=
  { o with record := o.record.map fun room =>
      { room with status := .closed, updatedAt := now, canJoin := false } }

/-- `markConnected`, with the call of the lobby if it makes one. -/
def markConnected (o : RoomObject) (now : Nat) : RoomObject × Option RoomSummary :=
  match o.record with
  | none => (o, none)
  | some room =>
    if room.status = .connected then (o, none)
    else
      let next := { room with status := .connected, updatedAt := now, canJoin := false }
      ({ o with record := some next }, some (publicRoom next 2))

/-- The token that a role has to show. -/
def expectedToken (room : RoomRecord) : Role → Option String
  | .offer => some room.hostToken
  | .answer => room.joinToken

/-- The checks of `fetch` on the record. -/
def checkRecord (o : RoomObject) (request : FetchRequest) (now : Nat) : Option FetchError :=
  match o.record with
  | none => none
  | some room =>
    let expected := expectedToken room request.role
    if expected = none ∨ expected = some "" ∨ request.token ≠ expected then some .invalidToken
    else if room.status = .closed ∨ room.expiresAt ≤ now then some .roomClosed
    else none

/-- `fetch`; the handler awaits the lobby if there is something to call it with. -/
def fetch (o : RoomObject) (server : Nat) (request : FetchRequest) (now : Nat) :
    Except FetchError (RoomObject × Option RoomSummary) :=
  match o.checkRecord request now with
  | some error => .error error
  | none =>
    let legacy := o.record.isNone
    match o.room.fetch server { role := request.role, legacy, recovery := request.recovery } with
    | none => .error .alreadyConnected
    | some (room, both) =>
      let o := { o with room, requests := Function.update o.requests server (some request) }
      if !both then .ok (o, none)
      else
        match o.markConnected now with
        | (o, some summary) => .ok (o, some summary)
        | (o, none) => .ok ({ o with room := o.room.fetchConnected request.role }, none)

/-- The rest of `fetch`, after the lobby has answered. -/
def fetchConnected (o : RoomObject) (role : Role) : RoomObject :=
  { o with room := o.room.fetchConnected role }

/-- A message touches the relay only. -/
def webSocketMessage (o : RoomObject) (ws : Nat) (message : ClientMessage) : RoomObject :=
  { o with room := o.room.webSocketMessage ws message }

/-- `webSocketClose`, with the room that the lobby is told to remove. -/
def webSocketClose (o : RoomObject) (ws now : Nat) : RoomObject × Option String :=
  let closed := { o with room := o.room.webSocketClose ws }
  match (o.room.sockets ws).attachment with
  | none => (closed, none)
  | some attachment =>
    if !attachment.legacy && !attachment.recovery then
      (closed.closeRoom now, (o.requests ws).map FetchRequest.session)
    else (closed, none)

end RoomObject

end Bigstar.Signaling
