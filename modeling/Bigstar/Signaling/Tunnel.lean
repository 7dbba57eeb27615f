import Bigstar.Lib.Run
import Bigstar.Lib.TwoParty
import Mathlib.Data.List.Basic

/-!
# The tunnel between the data channel and the local emulator

`run_webrtc_udp_tunnel_on_socket` of `webrtc.rs`: a bridge passes the datagrams of the local
emulator to the peer's bridge, and what comes from there to the emulator. What arrives before the
emulator listens is sent again until the emulator is heard. One step is one arm of the `select!`.
What an arm reads from its surroundings (clocks, whether the test outage file exists, whether a send
succeeded) comes with the event. A time is a number of nanoseconds.

The reconnect loop of `webrtc/recovery.rs` runs one tunnel after another on the same socket and the
same `target`, and drops a tunnel that waits in the middle of an arm when a newer connection is
announced. To the tunnel this is a send that fails, or `cancelled` between two arms.
-/

namespace Bigstar.Signaling

/-- `LOCAL_APP_REPLAY_INTERVAL`, 100 milliseconds in nanoseconds. -/
def localAppReplayInterval : Nat := 100000000

/-- `LOCAL_APP_REPLAY_TTL`, 8 seconds. -/
def localAppReplayTtl : Nat := 8000000000

/-- `LOCAL_APP_REPLAY_LIMIT`, in datagrams. -/
def localAppReplayLimit : Nat := 64

/-- The time without a message from the peer after which a tunnel ends. -/
def peerTimeout : Nat := 5000000000

/-- `HEARTBEAT`, the bytes of `\0BIGSTAR-KEEPALIVE-v1\0`. -/
def heartbeat : List UInt8 :=
  [0, 66, 73, 71, 83, 84, 65, 82, 45, 75, 69, 69, 80, 65, 76, 73, 86, 69, 45, 118, 49, 0]

/-! ## The impairment of a test -/

/-- The impairment that the environment asks for. The numbers are `u64`, and a sum of two of them
wraps, as it does in a release build; a jitter of `u64::MAX`, for which the source divides by zero,
is not one here. -/
structure ImpairmentConfig where
  /-- The delay of every datagram. -/
  baseDelayMs : Nat := 0
  /-- The most that is added to the delay. -/
  jitterMs : Nat := 0
  /-- Every datagram with a multiple of this number is dropped, none for 0. -/
  dropModulo : Nat := 0
  /-- The distance between bursts of dropped datagrams, 0 for none. -/
  dropBurstModulo : Nat := 0
  /-- The length of a burst. -/
  dropBurstLen : Nat := 0
  deriving DecidableEq

/-- The impairment of one tunnel: the generator of the jitter, and how many messages it has seen and
dropped in each direction. -/
structure ImpairmentState where
  /-- What is to be impaired. -/
  config : ImpairmentConfig
  /-- The state of the generator of the jitter. -/
  rng : Nat := 0x9E3779B97F4A7C15
  /-- The datagrams of the local emulator so far. -/
  appToWebrtcSeq : Nat := 0
  /-- The datagrams of the peer so far. -/
  webrtcToAppSeq : Nat := 0
  /-- How many of the first were dropped. -/
  appToWebrtcDropped : Nat := 0
  /-- How many of the second were dropped. -/
  webrtcToAppDropped : Nat := 0
  deriving DecidableEq

namespace ImpairmentState

/-- Every so many messages are dropped, or a burst of them. -/
def shouldDrop (s : ImpairmentState) (seq : Nat) : Bool :=
  if decide (s.config.dropModulo > 0) && seq % s.config.dropModulo == 0 then true
  else
    decide (s.config.dropBurstModulo > 0) && decide (s.config.dropBurstLen > 0) &&
      decide ((seq + 2 ^ 64 - 1) % 2 ^ 64 % s.config.dropBurstModulo < s.config.dropBurstLen)

/-- The next jitter of the generator. -/
def nextJitterMs (s : ImpairmentState) : Nat × ImpairmentState :=
  if s.config.jitterMs = 0 then (0, s)
  else
    let rng := (s.rng * 6364136223846793005 + 1442695040888963407) % 2 ^ 64
    (rng % (s.config.jitterMs + 1), { s with rng := rng })

/-- The milliseconds that `delay` sleeps at least. -/
def delay (s : ImpairmentState) : Nat × ImpairmentState :=
  let (jitter, s) := s.nextJitterMs
  ((s.config.baseDelayMs + jitter) % 2 ^ 64, s)

/-- `none` where the datagram is dropped, the delay before it is sent otherwise. -/
def beforeAppToWebrtcSend (s : ImpairmentState) : Option Nat × ImpairmentState :=
  let s := { s with appToWebrtcSeq := (s.appToWebrtcSeq + 1) % 2 ^ 64 }
  if s.shouldDrop s.appToWebrtcSeq then
    (none, { s with appToWebrtcDropped := (s.appToWebrtcDropped + 1) % 2 ^ 64 })
  else (some s.delay.1, s.delay.2)

/-- The same for what goes to the local emulator. -/
def beforeWebrtcToAppSend (s : ImpairmentState) : Option Nat × ImpairmentState :=
  let s := { s with webrtcToAppSeq := (s.webrtcToAppSeq + 1) % 2 ^ 64 }
  if s.shouldDrop s.webrtcToAppSeq then
    (none, { s with webrtcToAppDropped := (s.webrtcToAppDropped + 1) % 2 ^ 64 })
  else (some s.delay.1, s.delay.2)

end ImpairmentState

/-! ## The tunnel -/

/-- A counter of type `u64`. -/
def count64 (n more : Nat) : Nat := (n + more) % 2 ^ 64

/-- The counters of the report, which go on from one tunnel to the next. -/
structure PacketStats where
  /-- Datagrams of the local emulator that were sent to the peer. -/
  appToWebrtcPackets : Nat := 0
  /-- Their bytes. -/
  appToWebrtcBytes : Nat := 0
  /-- Datagrams of the peer that were handed to the local emulator. -/
  webrtcToAppPackets : Nat := 0
  /-- Their bytes. -/
  webrtcToAppBytes : Nat := 0
  /-- Datagrams of the peer that came before the emulator had been seen. -/
  droppedNoLocalTarget : Nat := 0
  deriving DecidableEq

/-- A datagram of the peer that is sent again until the emulator answers. -/
structure PendingLocalDatagram (Addr : Type) where
  /-- The datagram. -/
  payload : List UInt8
  /-- Where it was sent to. -/
  target : Addr
  /-- When it was sent first. -/
  firstSent : Nat
  /-- When it was sent last. -/
  lastSent : Nat
  /-- How often it has been sent. -/
  attempts : Nat
  deriving DecidableEq

/-- The state of the loop over one connection. -/
structure Tunnel (Addr : Type) where
  /-- The address of the emulator is configured, not learnt. -/
  fixedLocalTarget : Bool
  /-- The address of the emulator, if known. -/
  localTarget : Option Addr
  /-- The impairment of this connection. -/
  impairment : ImpairmentState
  /-- The emulator has sent something over this connection. -/
  localAppSeen : Bool := false
  /-- What is sent again, the oldest first. -/
  pendingLocalReplays : List (PendingLocalDatagram Addr) := []
  /-- When the peer was heard last. -/
  lastPeerActivity : Nat
  /-- The counters, which go on over all connections. -/
  stats : PacketStats
  deriving DecidableEq

/-- `RTCPeerConnectionState`. -/
inductive ConnectionState where
  /-- Before the negotiation. -/
  | new
  /-- The negotiation is under way. -/
  | connecting
  /-- The connection stands. -/
  | connected
  /-- The peer has not been heard for some time. -/
  | disconnected
  /-- The connection is given up. -/
  | failed
  /-- This side has closed the connection. -/
  | closed
  deriving DecidableEq

/-- The arms of the `select!` loop, with what they find out on the way. -/
inductive TunnelEvent (Addr : Type) where
  /-- The heartbeat is due; `sent` says whether it gets through. -/
  | heartbeatTick (now : Nat) (outage sent : Bool)
  /-- A datagram of the local emulator. The arm ends at `now`. -/
  | localReceived (payload : List UInt8) (source : Addr) (arrived now : Nat) (outage sent : Bool)
  /-- The socket reports a reset, as Windows does where nobody listens. -/
  | localReset
  /-- The socket reports another error. -/
  | localFailed
  /-- A message of the peer, with the number of bytes that the socket took. -/
  | peerReceived (msg : List UInt8) (arrived now : Nat) (outage : Bool) (sent : Option Nat)
  /-- The data channel has ended. -/
  | channelClosed
  /-- The connection reports its state. -/
  | connectionStateChange (state : ConnectionState)
  /-- The peer connection reports something else. -/
  | otherPeerEvent
  /-- Nothing more is reported. -/
  | eventStreamClosed
  /-- The send number `failing` of this tick fails, if there is one. -/
  | localReplayTick (now : Nat) (failing : Option Nat)
  /-- The bridge is stopped. -/
  | cancelled
  deriving DecidableEq

/-- Why the loop has ended. -/
inductive TunnelError where
  /-- The peer has been silent for `peerTimeout`. -/
  | heartbeatTimedOut
  /-- The socket to the emulator is broken. -/
  | localSocketFailed
  /-- The data channel does not take a datagram. -/
  | sendFailed
  /-- The data channel has ended. -/
  | channelClosed
  /-- The peer connection is gone. -/
  | eventStreamClosed
  /-- The connection is in one of the final states. -/
  | connectionEnded (state : ConnectionState)
  /-- The bridge was stopped. -/
  | cancelled
  deriving DecidableEq

/-- What the local emulator and the history of a bridge see of a tunnel. -/
inductive Entry (Addr : Type) where
  /-- A connection has begun. -/
  | connected
  /-- A datagram of the emulator came in. -/
  | heard (payload : List UInt8)
  /-- A message of the peer was sent to the emulator. -/
  | sent (payload : List UInt8) (target : Addr) (time : Nat)
  /-- A datagram was sent again. -/
  | replayed (payload : List UInt8) (target : Addr) (time : Nat)
  deriving DecidableEq

/-- How an arm ends: without an error the loop goes on. -/
structure Arm (Addr : Type) where
  /-- The tunnel after the arm. -/
  tunnel : Tunnel Addr
  /-- What happened on the way. -/
  entries : List (Entry Addr) := []
  /-- What was given to the data channel. -/
  toPeer : List (List UInt8) := []
  /-- Why the loop ends, if it does. -/
  error : Option TunnelError := none
  deriving DecidableEq

namespace Tunnel

variable {Addr : Type}

/-- The heartbeat arm. -/
def heartbeatTick (t : Tunnel Addr) (now : Nat) (outage sent : Bool) : Arm Addr :=
  if now - t.lastPeerActivity ≥ peerTimeout then { tunnel := t, error := some .heartbeatTimedOut }
  else if outage then { tunnel := t }
  else if sent then { tunnel := t, toPeer := [heartbeat] }
  else { tunnel := t, error := some .sendFailed }

/-- The emulator has been heard, at an address that is learned if there is none. -/
def hear (t : Tunnel Addr) (source : Addr) : Tunnel Addr :=
  { t with
    localAppSeen := true
    pendingLocalReplays := if t.localAppSeen then t.pendingLocalReplays else []
    localTarget := some (t.localTarget.getD source) }

/-- The arm of a datagram from the local emulator. -/
def localReceived (t : Tunnel Addr) (payload : List UInt8) (source : Addr) (outage sent : Bool) :
    Arm Addr :=
  if outage then { tunnel := t }
  else
    let t := t.hear source
    let t' := { t with impairment := t.impairment.beforeAppToWebrtcSend.2 }
    match t.impairment.beforeAppToWebrtcSend.1 with
    | none => { tunnel := t', entries := [.heard payload] }
    | some _ =>
      if sent then
        { tunnel := { t' with stats := { t'.stats with
            appToWebrtcPackets := count64 t'.stats.appToWebrtcPackets 1
            appToWebrtcBytes := count64 t'.stats.appToWebrtcBytes payload.length } }
          entries := [.heard payload]
          toPeer := [payload] }
      else { tunnel := t', entries := [.heard payload], error := some .sendFailed }

/-- A datagram sent to an emulator that has not been heard is kept, the oldest given up for it. -/
def remember (t : Tunnel Addr) (msg : List UInt8) (target : Addr) (now : Nat) : Tunnel Addr :=
  if t.fixedLocalTarget && !t.localAppSeen then
    let pending :=
      if t.pendingLocalReplays.length ≥ localAppReplayLimit then t.pendingLocalReplays.tail
      else t.pendingLocalReplays
    { t with
      pendingLocalReplays := pending ++
        [{ payload := msg, target := target, firstSent := now, lastSent := now, attempts := 1 }] }
  else t

/-- The arm of a datagram from the peer. -/
def peerReceived (t : Tunnel Addr) (msg : List UInt8) (arrived now : Nat) (outage : Bool)
    (sent : Option Nat) : Arm Addr :=
  if outage then { tunnel := t }
  else
    let t := { t with lastPeerActivity := arrived }
    if msg = heartbeat then { tunnel := t }
    else
      match t.localTarget with
      | none =>
        { tunnel := { t with stats := { t.stats with
            droppedNoLocalTarget := count64 t.stats.droppedNoLocalTarget 1 } } }
      | some target =>
        let t' := { t with impairment := t.impairment.beforeWebrtcToAppSend.2 }
        match t.impairment.beforeWebrtcToAppSend.1, sent with
        | none, _ => { tunnel := t' }
        | some _, none => { tunnel := t', error := some .sendFailed }
        | some _, some _ =>
          let t' := t'.remember msg target now
          { tunnel := { t' with stats := { t'.stats with
              webrtcToAppPackets := count64 t'.stats.webrtcToAppPackets 1
              webrtcToAppBytes := count64 t'.stats.webrtcToAppBytes msg.length } }
            entries := [.sent msg target now] }

/-- The arm of a state that the connection reports. -/
def connectionStateChange (t : Tunnel Addr) (state : ConnectionState) : Arm Addr :=
  match state with
  | .disconnected | .failed | .closed => { tunnel := t, error := some (.connectionEnded state) }
  | _ => { tunnel := t }

/-- What was first sent too long ago is given up, from the front. -/
def dropExpired (now : Nat) : List (PendingLocalDatagram Addr) → List (PendingLocalDatagram Addr)
  | [] => []
  | p :: ps => if now - p.firstSent > localAppReplayTtl then dropExpired now ps else p :: ps

/-- A datagram has been sent once more. -/
def touch (now : Nat) (p : PendingLocalDatagram Addr) : PendingLocalDatagram Addr :=
  { p with lastSent := now, attempts := min (p.attempts + 1) (2 ^ 32 - 1) }

/-- The loop over the pending datagrams: those afterwards, what was sent, and whether a send
failed. -/
def replayPending (now : Nat) : Option Nat → List (PendingLocalDatagram Addr) →
    List (PendingLocalDatagram Addr) × List (Entry Addr) × Bool
  | _, [] => ([], [], false)
  | failing, p :: ps =>
    if now - p.lastSent < localAppReplayInterval then
      let (ps, entries, failed) := replayPending now failing ps
      (p :: ps, entries, failed)
    else if failing = some 0 then (p :: ps, [], true)
    else
      let (ps, entries, failed) := replayPending now (failing.map (· - 1)) ps
      (touch now p :: ps, .replayed p.payload p.target now :: entries, failed)

/-- The replay arm; `failing` is the index of the first datagram that cannot be sent. -/
def localReplayTick (t : Tunnel Addr) (now : Nat) (failing : Option Nat) : Arm Addr :=
  if t.localAppSeen || t.pendingLocalReplays.isEmpty then { tunnel := t }
  else
    let (pending, entries, failed) :=
      replayPending now failing (dropExpired now t.pendingLocalReplays)
    { tunnel := { t with pendingLocalReplays := pending }
      entries := entries
      error := if failed then some .sendFailed else none }

/-- The arm that an event belongs to. -/
def arm (t : Tunnel Addr) : TunnelEvent Addr → Arm Addr
  | .heartbeatTick now outage sent => t.heartbeatTick now outage sent
  | .localReceived payload source _ _ outage sent => t.localReceived payload source outage sent
  | .localReset => { tunnel := t }
  | .localFailed => { tunnel := t, error := some .localSocketFailed }
  | .peerReceived msg arrived now outage sent => t.peerReceived msg arrived now outage sent
  | .channelClosed => { tunnel := t, error := some .channelClosed }
  | .connectionStateChange state => t.connectionStateChange state
  | .otherPeerEvent => { tunnel := t }
  | .eventStreamClosed => { tunnel := t, error := some .eventStreamClosed }
  | .localReplayTick now failing => t.localReplayTick now failing
  | .cancelled => { tunnel := t, error := some .cancelled }

/-- The delay that the impairment puts into an arm, in milliseconds. -/
def delayMs (t : Tunnel Addr) : TunnelEvent Addr → Nat
  | .localReceived _ _ _ _ false true => t.impairment.beforeAppToWebrtcSend.1.getD 0
  | .peerReceived _ _ _ false (some _) => t.impairment.beforeWebrtcToAppSend.1.getD 0
  | _ => 0

end Tunnel

/-! ## One bridge, from tunnel to tunnel -/

namespace TunnelEvent

variable {Addr : Type}

/-- When an arm begins and ends, where the event says. -/
def span : TunnelEvent Addr → Option (Nat × Nat)
  | .heartbeatTick now _ _ => some (now, now)
  | .localReceived _ _ arrived now _ _ => some (arrived, now)
  | .peerReceived _ arrived now _ _ => some (arrived, now)
  | .localReplayTick now _ => some (now, now)
  | _ => none

end TunnelEvent

/-- The tunnel that runs, if one does; `target` of `run_signaling_webrtc`, the counters of its
reporter, the time of the last arm that knew its time, and what has happened at the socket of the
emulator. -/
structure TunnelHost (Addr : Type) where
  /-- The configuration of the impairment. -/
  config : ImpairmentConfig
  /-- As in each of its tunnels. -/
  fixedLocalTarget : Bool
  /-- The address of the emulator, kept between connections. -/
  target : Option Addr
  /-- The tunnel that is running, if any. -/
  tunnel : Option (Tunnel Addr) := none
  /-- The counters of all connections so far. -/
  stats : PacketStats := {}
  /-- The time of the last event. -/
  clock : Nat := 0
  /-- The log of all connections. -/
  entries : List (Entry Addr) := []

namespace TunnelHost

variable {Addr : Type}

/-- What happens to a host of tunnels. -/
inductive Event (Addr : Type) where
  /-- A new connection stands, and its tunnel starts. -/
  | connect (now : Nat)
  /-- An arm of the running tunnel. -/
  | arm (event : TunnelEvent Addr)
  deriving DecidableEq

/-- `run_signaling_webrtc`, before the first connection. -/
def start (config : ImpairmentConfig) (localTarget : Option Addr) : TunnelHost Addr where
  config := config
  fixedLocalTarget := localTarget.isSome
  target := localTarget

/-- A new tunnel on the socket and the target of the ones before. -/
def connect (h : TunnelHost Addr) (now : Nat) : TunnelHost Addr :=
  { h with
    tunnel := some {
      fixedLocalTarget := h.fixedLocalTarget
      localTarget := h.target
      impairment := { config := h.config }
      lastPeerActivity := now
      stats := h.stats }
    clock := now
    entries := h.entries ++ [.connected] }

/-- The clock never goes back, and an arm that sends has waited for the impairment. -/
def timely (h : TunnelHost Addr) (t : Tunnel Addr) (event : TunnelEvent Addr) : Bool :=
  match event.span with
  | none => true
  | some (arrived, now) =>
    decide (h.clock ≤ arrived) && decide (arrived + t.delayMs event * 1000000 ≤ now)

/-- The host after an arm: the log grows, and the tunnel goes on or is dropped. -/
def finish (h : TunnelHost Addr) (event : TunnelEvent Addr) (arm : Arm Addr) : TunnelHost Addr :=
  { h with
    target := arm.tunnel.localTarget
    tunnel := if arm.error.isSome then none else some arm.tunnel
    stats := arm.tunnel.stats
    clock := (event.span.map Prod.snd).getD h.clock
    entries := h.entries ++ arm.entries }

/-- A step, with what the bridge puts into the data channel. -/
def act (h : TunnelHost Addr) : Event Addr → Option (TunnelHost Addr × List (List UInt8))
  | .connect now =>
    if h.tunnel.isNone && decide (h.clock ≤ now) then some (h.connect now, []) else none
  | .arm event =>
    match h.tunnel with
    | none => none
    | some t =>
      if h.timely t event then some (h.finish event (t.arm event), (t.arm event).toPeer) else none

/-- `none` for an event that cannot happen. -/
def step (h : TunnelHost Addr) (event : Event Addr) : Option (TunnelHost Addr) :=
  (h.act event).map Prod.fst

end TunnelHost

/-! ## Two bridges -/

/-- Two bridges, and what each of them has put into the data channel that is still on its way. The
channel is unordered, sends nothing again and delivers no message twice. -/
abbrev TunnelPair (Addr : Type) := TwoParty.Net (TunnelHost Addr) (List UInt8)

namespace TunnelPair

open TwoParty

variable {Addr : Type}

/-- What happens to two hosts and the data channel between them. -/
inductive Event (Addr : Type) where
  /-- A new connection stands on one side. -/
  | connect (p : Fin 2) (now : Nat)
  /-- An arm that takes nothing from the data channel. -/
  | arm (p : Fin 2) (event : TunnelEvent Addr)
  /-- Bridge `p` takes a message of the other one. -/
  | deliver (p : Fin 2) (msg : List UInt8) (arrived now : Nat) (outage : Bool) (sent : Option Nat)
  /-- A message of bridge `p` is lost. -/
  | lose (p : Fin 2) (msg : List UInt8)
  deriving DecidableEq

/-- Both sides before their first connection. -/
def start (config : Fin 2 → ImpairmentConfig) (localTarget : Fin 2 → Option Addr) :
    TunnelPair Addr where
  side p := .start (config p) (localTarget p)
  sent _ := []

/-- Bridge `p` takes a step. -/
def actAs (s : TunnelPair Addr) (p : Fin 2) (event : TunnelHost.Event Addr) :
    Option (TunnelPair Addr) :=
  ((s.side p).act event).map fun (h, messages) => s.put p h messages

/-- `none` for an event that cannot happen. -/
def step (s : TunnelPair Addr) : Event Addr → Option (TunnelPair Addr)
  | .connect p now => actAs s p (.connect now)
  | .arm p event =>
    match event with
    | .peerReceived _ _ _ _ _ => none
    | event => actAs s p (.arm event)
  | .deliver p msg arrived now outage sent =>
    if msg ∈ s.sent (other p) then
      actAs (s.remain (other p) ((s.sent (other p)).erase msg)) p
        (.arm (.peerReceived msg arrived now outage sent))
    else none
  | .lose p msg => if msg ∈ s.sent p then some (s.remain p ((s.sent p).erase msg)) else none

end TunnelPair

end Bigstar.Signaling
