import Bigstar.Signaling.SignalingRoom

/-!
# Two bridges that recover their connection

The reconnect loop of `webrtc/recovery.rs`, and the composition of the two bridges with the room. A
bridge waits for an id on its websocket, negotiates the connection of that id, and runs the tunnel
until it ends or a newer id is announced. The local variables `ws`, `pending_id` and `last_id` are
the fields of `Bridge`; `negotiate` is always called with `last_id`.

A websocket delivers in order what was sent on it. It may fail at any time, which a bridge notices
as an error and the room as a close, in either order or not at all. The texts of session
descriptions, the time at which a timeout fires and the order of everything else are chosen by the
actions.
-/

namespace Bigstar.Signaling

/-- One call of `negotiate`, with what it has done so far. -/
structure Negotiation where
  /-- The connection id that is negotiated. -/
  id : Nat
  /-- The description of the local endpoint, once it was handed to `send_sdp`. -/
  made : Option String := none
  /-- The description passed to `set_remote_description`. -/
  applied : Option String := none
  /-- The call has returned the endpoint. -/
  finished : Bool := false
  deriving DecidableEq, Repr

/-- Where the loop waits. -/
inductive Phase where
  /-- The top of the loop. -/
  | attempt
  /-- `connect_async` and `wait_signal_hello` on a socket that is not in `ws` yet. -/
  | hello (socket : Nat)
  /-- The socket is connected, and the server has not announced a connection yet. -/
  | waitReady
  /-- `create_endpoint`, with the offer if that has come in. -/
  | createEndpoint (offer : Option String)
  /-- The own description is sent, the other one is awaited. -/
  | waitSdp
  /-- The offer is applied and the answer is about to be sent. -/
  | sendAnswer
  /-- Both descriptions are exchanged. -/
  | waitConnected
  /-- `run_webrtc_udp_tunnel_on_socket` beside `monitor_signal`. -/
  | tunnel
  /-- `run` has returned. -/
  | ended
  deriving DecidableEq, Repr

/-- One side of the recovery loop. -/
structure Bridge where
  /-- Where the loop stands. -/
  phase : Phase := .attempt
  /-- The websocket that is kept over attempts. -/
  ws : Option Nat := none
  /-- An id that was announced during another phase. -/
  pendingId : Option Nat := none
  /-- The newest connection id that was negotiated. -/
  lastId : Nat := 0
  /-- The calls of `negotiate` so far, the newest first. -/
  history : List Negotiation := []
  deriving DecidableEq, Repr

namespace Bridge

/-- The socket that the bridge reads from. -/
def socket (b : Bridge) : Option Nat :=
  match b.phase with
  | .hello socket => some socket
  | _ => b.ws

/-- Changes the newest negotiation. -/
def update (b : Bridge) (f : Negotiation → Negotiation) : Bridge :=
  match b.history with
  | [] => b
  | n :: rest => { b with history := f n :: rest }

/-- The loop has its id, and calls `negotiate`. -/
def negotiate (role : Role) (b : Bridge) (id : Nat) : Bridge :=
  { b with
    pendingId := none
    lastId := id
    history := { id } :: b.history
    phase := match role with
      | .offer => .createEndpoint none
      | .answer => .waitSdp }

/-- An error of the attempt other than a timeout. -/
def retry (b : Bridge) : Bridge := { b with ws := none, phase := .attempt }

/-- `NewConnection`, or the id that `monitor_signal` returns. -/
def supersede (b : Bridge) (id : Nat) : Bridge := { b with pendingId := some id, phase := .attempt }

/-- The phases inside of `negotiate`. -/
def negotiating (b : Bridge) : Bool :=
  match b.phase with
  | .createEndpoint _ | .waitSdp | .sendAnswer | .waitConnected => true
  | _ => false

/-- `request_restart`, which drops the socket if it cannot send. -/
def requestRestart (b : Bridge) (sent : Bool) : Bridge × List ClientMessage :=
  if sent then ({ b with phase := .attempt }, [.restart b.lastId]) else (b.retry, [])

/-- `negotiate` after `wait_sdp`. -/
def takeSdp (role : Role) (b : Bridge) (sdp : String) : Bridge :=
  match role with
  | .answer => { b with phase := .createEndpoint (some sdp) }
  | .offer => { b.update (fun n => { n with applied := some sdp }) with phase := .waitConnected }

/-- `message` and what the waiting function does with its result. -/
def receive (role : Role) (b : Bridge) (message : ServerMessage) : Option Bridge :=
  match b.phase with
  | .hello socket =>
    match message with
    | .hello version =>
      if version ≠ 1 then some { b with phase := .ended }
      else some { b with ws := some socket, lastId := 0, phase := .attempt }
    | .error => some b.retry
    | _ => some b
  | .waitReady =>
    match message with
    | .readyForOffer id => some (if b.lastId < id then b.negotiate role id else b)
    | .error => some b.retry
    | _ => some b
  | .waitSdp =>
    match message with
    | .readyForOffer id => some (if b.lastId < id then b.supersede id else b)
    | .sdp _ sdpType sdp id =>
      some (if sdpType = peerRole role ∧ id = some b.lastId then b.takeSdp role sdp else b)
    | .error => some b.retry
    | _ => some b
  | .tunnel =>
    match message with
    | .readyForOffer id => some (if b.lastId < id then b.supersede id else b)
    | .error => some b.retry
    | _ => some b
  | _ => none

end Bridge

/-- What can happen at a bridge besides the arrival of a message. -/
inductive BridgeAction where
  /-- The top of the loop with a socket. -/
  | goOn
  /-- The endpoint was created, and has this description of itself. -/
  | created (sdp : String)
  /-- The description of the endpoint after the offer was applied. -/
  | answered (sdp : String)
  /-- `wait_connected` succeeds. -/
  | connected
  /-- The negotiation takes longer than twelve seconds. -/
  | timeout (sent : Bool)
  /-- Any other error of the attempt. -/
  | fail
  /-- The deadline of all attempts, or an error of the UDP socket. -/
  | stop
  /-- The tunnel has ended, and the request for the next connection may not get through. -/
  | tunnelEnded (sent : Bool)
  /-- `monitor_signal` fails. -/
  | signalLost
  /-- `monitor_signal` sends a ping. -/
  | ping
  deriving DecidableEq, Repr

namespace Bridge

/-- The bridge after an action, and what it has sent on its socket. -/
def act (role : Role) (b : Bridge) : BridgeAction → Option (Bridge × List ClientMessage)
  | .goOn =>
    match b.phase, b.ws, b.pendingId with
    | .attempt, some _, some id => some (b.negotiate role id, [])
    | .attempt, some _, none => some ({ b with phase := .waitReady }, [])
    | _, _, _ => none
  | .created sdp =>
    match b.phase with
    | .createEndpoint none =>
      some ({ b.update (fun n => { n with made := some sdp }) with phase := .waitSdp },
        [.sdp .offer sdp (some b.lastId)])
    | .createEndpoint (some offer) =>
      -- the endpoint's own offer is rolled back
      some ({ b.update (fun n => { n with applied := some offer }) with phase := .sendAnswer }, [])
    | _ => none
  | .answered sdp =>
    match b.phase with
    | .sendAnswer =>
      some ({ b.update (fun n => { n with made := some sdp }) with phase := .waitConnected },
        [.sdp .answer sdp (some b.lastId)])
    | _ => none
  | .connected =>
    match b.phase with
    | .waitConnected =>
      some ({ b.update (fun n => { n with finished := true }) with phase := .tunnel }, [])
    | _ => none
  | .timeout sent => if b.negotiating then some (b.requestRestart sent) else none
  | .fail =>
    match b.phase with
    | .attempt | .tunnel | .ended => none
    | _ => some (b.retry, [])
  | .stop => if b.phase = .tunnel then none else some ({ b with phase := .ended }, [])
  | .tunnelEnded sent => if b.phase = .tunnel then some (b.requestRestart sent) else none
  | .signalLost => if b.phase = .tunnel then some (b.retry, []) else none
  | .ping => if b.phase = .tunnel then some (b, [.ping]) else none

end Bridge

/-! ## The bridges and the room together -/

/-- Both bridges and the room between them. -/
structure World where
  /-- The signaling room. -/
  room : SignalingRoom := { sockets := fun _ => {} }
  /-- The two sides, by role. -/
  bridges : Role → Bridge := fun _ => {}
  /-- The number of websockets that were opened so far. -/
  opened : Nat := 0
  /-- Requests for a websocket that the room has not handled. -/
  requests : List (Nat × Role) := []
  /-- Calls of `fetch` that wait for the lobby. -/
  joining : List Role := []

/-- A step of one party or of the network. -/
inductive Action where
  /-- The top of the loop without a socket. -/
  | connect (role : Role)
  /-- A bridge goes on by itself. -/
  | bridge (role : Role) (action : BridgeAction)
  /-- A bridge takes the next message from its socket. -/
  | receive (role : Role)
  /-- The room handles a request. -/
  | fetch (socket : Nat) (legacy : Bool)
  /-- The room refuses a request, or never gets it. -/
  | refuse (socket : Nat)
  /-- The lobby answers one of the waiting calls. -/
  | lobbyAnswered (index : Nat)
  /-- The room handles the next message from a socket. -/
  | deliver (socket : Nat)
  /-- A socket leaves the open state on the side of the room. -/
  | close (socket : Nat)
  /-- The server finds that a socket is gone. -/
  | webSocketClose (socket : Nat)
  deriving DecidableEq, Repr

namespace World

/-- One bridge changes. -/
def setBridge (w : World) (role : Role) (b : Bridge) : World :=
  { w with bridges := Function.update w.bridges role b }

/-- Puts what a bridge sends on its way. -/
def post (w : World) (socket : Option Nat) (messages : List ClientMessage) : World :=
  match socket with
  | none => w
  | some ws =>
    { w with room := w.room.setSocket ws { w.room.sockets ws with
        toServer := (w.room.sockets ws).toServer ++ messages } }

/-- A new websocket request of the bridge. -/
def connect (w : World) (role : Role) : Option World :=
  let b := w.bridges role
  if b.phase = .attempt ∧ b.ws = none then
    some { w.setBridge role { b with phase := .hello w.opened } with
      room := w.room.setSocket w.opened {}
      opened := w.opened + 1
      requests := w.requests ++ [(w.opened, role)] }
  else none

/-- The bridge takes the next message of its socket. -/
def receive (w : World) (role : Role) : Option World :=
  (w.bridges role).socket.bind fun ws =>
    match (w.room.sockets ws).toClient with
    | [] => none
    | message :: rest =>
      ((w.bridges role).receive role message).map fun b =>
        { w.setBridge role b with
          room := w.room.setSocket ws { w.room.sockets ws with toClient := rest } }

/-- The requests of bridges are for a recovery. -/
def fetch (w : World) (socket : Nat) (legacy : Bool) : Option World :=
  (w.requests.find? fun request => request.1 = socket).map fun request =>
    let w := { w with requests := w.requests.filter fun other => other.1 != socket }
    match w.room.fetch socket { role := request.2, legacy, recovery := true } with
    | none => w
    | some (room, false) => { w with room }
    | some (room, true) => { w with room, joining := w.joining ++ [request.2] }

/-- A waiting `fetch` handler goes on. -/
def lobbyAnswered (w : World) (index : Nat) : Option World :=
  w.joining[index]?.map fun role =>
    { w with room := w.room.fetchConnected role, joining := w.joining.eraseIdx index }

/-- The server handles the next message of a socket. -/
def deliver (w : World) (socket : Nat) : Option World :=
  match (w.room.sockets socket).toServer with
  | [] => none
  | message :: rest =>
    let room := w.room.setSocket socket { w.room.sockets socket with toServer := rest }
    some { w with room := room.webSocketMessage socket message }

/-- `none` for an action that cannot happen. -/
def step (w : World) : Action → Option World
  | .connect role => w.connect role
  | .bridge role action =>
    ((w.bridges role).act role action).map fun (b, sent) =>
      (w.post (w.bridges role).ws sent).setBridge role b
  | .receive role => w.receive role
  | .fetch socket legacy => w.fetch socket legacy
  | .refuse socket => some { w with requests := w.requests.filter fun other => other.1 != socket }
  | .lobbyAnswered index => w.lobbyAnswered index
  | .deliver socket => w.deliver socket
  | .close socket => some { w with room := w.room.close socket }
  | .webSocketClose socket => some { w with room := w.room.webSocketClose socket }

end World

end Bigstar.Signaling
