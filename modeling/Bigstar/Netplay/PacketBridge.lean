import Bigstar.Lib.Arm
import Bigstar.Lib.TwoParty
import Bigstar.Netplay.JitScratch
import Bigstar.Netplay.WireProtocol

/-!
# The packet bridge

Two consoles that exchange the packets of the game itself (`NsmbPacketBridgeRuntime.cpp`,
`NsmbPacketBridgeIntegration.cpp` and the packet store of `ARM.cpp`). At the end of a frame a
console takes the packet that its game has built, puts the buttons and the tick of the frame into
it, keeps it for its own game and sends it. Packets are kept by tick, which has 16 bits; where the
game asks for the packet of a player, the store is searched. A console that is too far ahead waits.

The model is a console in a frame loop that runs the bridge only (`PacketBridge.Only`), from the
frame on in which the bridge may use the network, within one generation. Frames are `melonDS::u32`.
-/

namespace Bigstar.Netplay.PacketBridge

open OrderedMap LittleEndian Arm TwoParty
open JitScratch (keysOf)

/-- The value of `kUnsetProgress`. -/
def kUnsetProgress : Nat := 0xFFFFFFFF

/-- The fields of `PacketBridgeConfig` that are used here. -/
structure BridgeConfig where
  /-- `PacketBridge.Enabled`. -/
  enabled : Bool := false
  /-- The bridge works before the game has begun, too. -/
  allowPreGame : Bool := false
  /-- The local player, where it is 0 or 1. -/
  localPlayerOverride : Int := -1
  /-- The packet is read from the game's memory. -/
  directCaptureEnabled : Bool := false
  /-- Ticks are counted by frames. -/
  forceTickEnabled : Bool := false
  /-- From which frame, where no epoch is shared. -/
  forceTickStartFrame : Nat := 0
  /-- The tick of that frame; negative when ticks are not forced. -/
  forceTickBase : Int := -1
  /-- How many frames the bridge may be ahead; negative for no limit. -/
  maxFrameLead : Int := -1
  /-- How long the throttle waits at most. -/
  throttleTimeoutMs : Int := 5000
  /-- The game does not see the keys; it gets them from the packets. -/
  neutralizeLocalInput : Bool := false
  /-- By how many frames an outgoing packet is delayed. -/
  sendDelayFrames : Int := 0
  /-- How much is added to the delay at most. -/
  sendJitterFrames : Int := 0
  deriving DecidableEq

/-! ## Packets of the game -/

/-- The tick of a packet is its first halfword, the buttons are the second one. -/
def packetTick (packet : List UInt8) : Nat := readLE 2 packet 0

/-- The keys in a packet. -/
def packetKeys (packet : List UInt8) : Nat := readLE 2 packet 2

/-- Overwrites the halfword at an offset. -/
def withHalfword (packet : List UInt8) (offset value : Nat) : List UInt8 :=
  (packet.set offset (UInt8.ofNat value)).set (offset + 1) (UInt8.ofNat (value / 256))

/-- The tick of the packet that the game is about to send. -/
def kNetPacketTickAddr : Nat := 0x020888E0
/-- Its keys. -/
def kNetPacketKeysAddr : Nat := 0x020888E2
/-- Its action. -/
def kNetPacketActionAddr : Nat := 0x020888E4
/-- Its payload. -/
def kNetPacketPayloadAddr : Nat := 0x020888E8
/-- The packet-bit byte, which is copied into the payload. -/
def kNetPacketBitAddr : Nat := 0x02088A4C

/-- The bytes that `BuildNSMLMarioVsLuigiPacket` collects. -/
def buildBytes (mem : Memory) : List UInt8 :=
  toBytes 2 (load 2 mem kNetPacketTickAddr) ++ toBytes 2 (load 2 mem kNetPacketKeysAddr) ++
    (List.range 4).map (fun i => mem (kNetPacketActionAddr + i)) ++
    (List.range 44).map fun i =>
      if 8 + i = 0x29 then mem kNetPacketBitAddr else mem (kNetPacketPayloadAddr + i)

theorem length_buildBytes (mem : Memory) : (buildBytes mem).length = kPacketBytes := by
  simp [buildBytes, kPacketBytes]

theorem packetTick_buildBytes (mem : Memory) :
    packetTick (buildBytes mem) = load 2 mem kNetPacketTickAddr := by
  have htake : ((buildBytes mem).drop 0).take 2 = toBytes 2 (load 2 mem kNetPacketTickAddr) := by
    unfold buildBytes
    rw [List.drop_zero, List.append_assoc, List.append_assoc,
      List.take_append_of_le_length (by simp),
      List.take_of_length_le (by simp)]
  exact readLE_of_take htake (load_lt 2 mem _)

/-- A packet that the game of a console has built, with its tick. -/
structure LocalPacket where
  /-- The bytes. -/
  packet : List UInt8
  /-- The tick under which it is sent. -/
  tick : Nat
  /-- It has the length of the game's packets. -/
  length_packet : packet.length = kPacketBytes
  /-- The tick is the one in the bytes. -/
  packetTick_eq : packetTick packet = tick

/-- `BuildNSMLMarioVsLuigiPacket`. -/
def buildNSMLMarioVsLuigiPacket (mem : Memory) : LocalPacket where
  packet := buildBytes mem
  tick := load 2 mem kNetPacketTickAddr
  length_packet := length_buildBytes mem
  packetTick_eq := packetTick_buildBytes mem

/-! ## The packet store of the core -/

/-- `NSMLPacketReplayEntry`: the packets of the players that are valid. -/
structure NSMLPacketReplayEntry where
  /-- The packet of each player. -/
  packet : Nat → Option (List UInt8) := fun _ => none

/-- `NSMLLiveReplayPackets` of one console. -/
abbrev LiveReplayPackets := NatMap NSMLPacketReplayEntry

namespace LiveReplayPackets

/-- `NSML_PushMarioVsLuigiRemotePacket`. -/
def push (packets : LiveReplayPackets) (player : Nat) (packet : List UInt8) : LiveReplayPackets :=
  if 1 < player then packets
  else
    let tick := packetTick packet
    let entry := packets[tick]?.getD {}
    let packets : NatMap NSMLPacketReplayEntry :=
      packets.insert tick { packet := Function.update entry.packet player (some packet) }
    if 512 < packets.size then
      packets.eraseBelow (if 256 < tick then tick - 256 else 0) else packets

/-- The store after some pushes, each for a player. -/
def ofPushes (pushes : List (Nat × List UInt8)) : LiveReplayPackets :=
  pushes.foldl (fun packets e => packets.push e.1 e.2) ∅

/-- The valid packet of a player for exactly this tick. -/
def packetAt (packets : LiveReplayPackets) (player tick : Nat) : Option (List UInt8) :=
  packets[tick]?.bind fun entry => entry.packet player

/-- How many ticks before `tick` a packet is, modulo 16 bits. -/
def ageOf (tick packetTick : Nat) : Nat := (tick + 2 ^ 32 - packetTick) % 0x10000

/-- One round of the loops over all packets, which remember the least age so far. -/
def considerEntry (player tick limit : Nat) (best : Nat × Option (List UInt8))
    (e : Nat × NSMLPacketReplayEntry) : Nat × Option (List UInt8) :=
  match e.2.packet player with
  | none => best
  | some packet =>
    let age := ageOf tick e.1
    if age = 0 ∨ 0x7FFF < age ∨ best.1 ≤ age then best
    else if limit < age then best
    else (age, some packet)

/-- The newest packet from before a tick, of those within a limit. -/
def latestBefore (packets : LiveReplayPackets) (player tick limit : Nat) : Option (List UInt8) :=
  (packets.toList.foldl (considerEntry player tick limit) (0x8000, none)).2

/-- The walk back from a tick, one tick after the other. -/
def walkBack (packets : LiveReplayPackets) (player tick window : Nat) : Option (List UInt8) :=
  (List.range' 1 (min window 4096)).findSome? fun age =>
    packets.packetAt player ((tick + 2 ^ 32 - age) % 0x10000)

/-- `NSMLFindLiveReplayPacketLocked`. -/
def find (latestBeforeEnabled : Bool) (fallbackWindow : Nat) (packets : LiveReplayPackets)
    (player tick : Nat) : Option (List UInt8) :=
  if 1 < player then none
  else
    (packets.packetAt player tick).or <|
      if fallbackWindow = 0 then
        if latestBeforeEnabled then packets.latestBefore player tick 0x7FFF else none
      else
        (if latestBeforeEnabled then packets.latestBefore player tick fallbackWindow else none).or
          (packets.walkBack player tick fallbackWindow)

end LiveReplayPackets

/-- The environment variables that the core reads for its searches. -/
structure CoreConfig where
  /-- Packets are replayed to the game. -/
  bridgeEnabled : Bool
  /-- The player of this console. -/
  localPlayer : Nat
  /-- How many older ticks are searched. -/
  fallbackWindow : Nat := 0
  /-- The newest packet from before the tick is good, too. -/
  latestBefore : Bool := false
  /-- The packet is handed over with the tick that was asked for. -/
  returnLookupTick : Bool := false

/-- `NSMLSelectBridgePacketForPlayer`: the packet that the game of a console is handed for a
player. -/
def selectBridgePacketForPlayer (core : CoreConfig) (inContext : Bool) (mem : Memory)
    (packets : LiveReplayPackets) (player tick : Nat) : Option (List UInt8) :=
  if 1 < player ∨ !core.bridgeEnabled ∨ !inContext then none
  else
    let found := packets.find core.latestBefore core.fallbackWindow player tick
    let found := if core.returnLookupTick then found.map (withHalfword · 0 tick) else found
    found.or
      (if player = core.localPlayer then some (buildNSMLMarioVsLuigiPacket mem).packet else none)

/-! ## The queues of the bridge -/

/-- How far a player's packets have come. -/
structure ReceivedProgress where
  /-- The tick of the last packet. -/
  tick : Nat := kUnsetProgress
  /-- The frame in which it was captured. -/
  frame : Nat := kUnsetProgress
  deriving DecidableEq

/-- A packet to be sent from a frame on, or from a time on. -/
structure DelayedPacket where
  /-- It is due from this frame on, -/
  releaseFrame : Nat
  /-- or from this time on. -/
  releaseTime : Int
  /-- The packet. -/
  packet : WireNSMLPacket
  deriving DecidableEq

/-- The state of the bridge. -/
structure Runtime where
  /-- The inputs of the local player by frame. -/
  packetInputs : InputMap := ∅
  /-- Packets that arrived and have not been given to the game's replay yet. -/
  pendingPackets : List WireNSMLPacket := []
  /-- Outgoing packets that are held back. -/
  delayedPackets : List DelayedPacket := []
  /-- How far the packets of each player have come. -/
  receivedProgress : Nat → ReceivedProgress := fun _ => {}

/-- The tick under which a packet is sent: the observed one, or the one that its frame should
have. -/
def canonicalTick (config : BridgeConfig) (sharedLogicalEpoch frame observedTick : Nat) : Nat :=
  let startFrame := if sharedLogicalEpoch ≠ 0 then sharedLogicalEpoch else
    config.forceTickStartFrame
  if !config.forceTickEnabled ∨ frame < startFrame ∨ config.forceTickBase < 0 then observedTick
  else (config.forceTickBase.toNat + (frame - startFrame)) % 0x10000

/-- How many frames the packet of a frame is held back: a constant and a share that varies. -/
def sendDelayFrames (config : BridgeConfig) (frame : Nat) : Int :=
  let jitterFrames : Int :=
    if config.sendJitterFrames > 0 then frame % (config.sendJitterFrames + 1) else 0
  i32 (config.sendDelayFrames + jitterFrames)

/-- The delay as a time, in nanoseconds. The milliseconds are computed in an `int`. -/
def delayTime (delay : Int) : Int := 1000000 * (i32 (delay * 1000 + 59)).tdiv 60

namespace Runtime

/-- Keeps the input of a frame. -/
def storePacketInput (r : Runtime) (frame : Nat) (input : InputState) : Runtime :=
  { r with packetInputs := r.packetInputs.insert frame input }

/-- The input for a packet of this frame: that of the frame, or of the one before. -/
def packetInput (r : Runtime) (frame : Nat) : Option InputState :=
  r.packetInputs[frame]?.or (if 0 < frame then r.packetInputs[frame - 1]? else none)

/-- Forgets the inputs of old frames. -/
def prunePacketInputs (r : Runtime) (frame historyFrames : Nat) : Runtime :=
  { r with
    packetInputs := r.packetInputs.eraseBelow
      (if historyFrames < frame then frame - historyFrames else 0) }

/-- A packet has arrived. -/
def queuePendingPacket (r : Runtime) (packet : WireNSMLPacket) : Runtime :=
  { r with pendingPackets := r.pendingPackets ++ [packet] }

/-- `PrepareOutgoingPacket`: the packet to be sent at once, if it is not put off. -/
def prepareOutgoingPacket (r : Runtime) (config : BridgeConfig) (now : Nat)
    (packet : WireNSMLPacket) : Runtime × Option WireNSMLPacket :=
  let delay := sendDelayFrames config packet.frame
  if delay ≤ 0 then (r, some packet)
  else
    let delayed : DelayedPacket :=
      { releaseFrame := u32 (packet.frame + delay.toNat),
        releaseTime := (now : Int) + delayTime delay, packet }
    ({ r with delayedPackets := r.delayedPackets ++ [delayed] }, none)

/-- The test in `TakeDueOutgoingPackets`. -/
def isDue (frame now : Nat) (delayed : DelayedPacket) : Bool :=
  decide (delayed.releaseFrame ≤ frame ∨ delayed.releaseTime ≤ now)

/-- The packets whose delay is over, and what stays. -/
def takeDueOutgoingPackets (r : Runtime) (frame now : Nat) : Runtime × List WireNSMLPacket :=
  ({ r with delayedPackets := r.delayedPackets.filter fun delayed => !isDue frame now delayed },
    (r.delayedPackets.filter (isDue frame now)).map DelayedPacket.packet)

/-- Notes the last packet of a player. -/
def recordReceivedPacket (r : Runtime) (player tick frame : Nat) : Runtime :=
  if 2 ≤ player then r
  else { r with receivedProgress := Function.update r.receivedProgress player { tick, frame } }

/-- What is known of a player. -/
def receivedPacketProgress (r : Runtime) (player : Nat) : ReceivedProgress :=
  if 2 ≤ player then {} else r.receivedProgress player

end Runtime

/-! ## A console -/

/-- The group of the stage that is played. -/
def kGameStageGroupAddr : Nat := 0x02085A18
/-- The player that the game takes this console for. -/
def kGameLocalPlayerIDAddr : Nat := 0x02085A7C
/-- Whether two players play against each other. -/
def kGameVsModeAddr : Nat := 0x02085A84

/-- A game between two players runs. -/
def isMarioVsLuigiGameplay (mem : Memory) : Bool :=
  load 4 mem kGameStageGroupAddr == 9 && load 4 mem kGameVsModeAddr == 1

/-- What the bridge knows of the session. -/
structure IntegrationContext where
  /-- Its configuration. -/
  config : BridgeConfig
  /-- The generation of the game that runs. -/
  generation : UInt32
  /-- The frame from which both consoles count, or 0. -/
  sharedLogicalEpoch : Nat
  /-- The instance that is played here. -/
  localInstance : Nat

/-- The player of this console: configured, read from the game, or the instance. -/
def localPlayerID (c : IntegrationContext) (mem : Memory) : Nat :=
  if c.config.enabled ∧ 0 ≤ c.config.localPlayerOverride ∧ c.config.localPlayerOverride ≤ 1 then
    c.config.localPlayerOverride.toNat
  else if c.config.enabled ∧ c.config.allowPreGame ∧ !isMarioVsLuigiGameplay mem then
    c.localInstance % 2
  else load 4 mem kGameLocalPlayerIDAddr % 2

/-- Where a console is in its frame loop. -/
inductive FramePhase where
  /-- The frame has not begun. -/
  | before
  /-- The game runs. -/
  | running
  /-- The frame is over, and the console may have to wait. -/
  | throttling
  deriving DecidableEq

/-- A console with its bridge. -/
structure Console where
  /-- The state of the bridge. -/
  runtime : Runtime := {}
  /-- The packets that the core replays to the game. -/
  live : LiveReplayPackets := ∅
  /-- The frame that runs. -/
  frame : Nat
  /-- How far it has come. -/
  phase : FramePhase := .before
  /-- The last reading of the clock. -/
  now : Nat := 0
  /-- The inputs that were stored for the frames; nothing of this is ever erased. -/
  polled : InputMap := ∅
  /-- The packets of this console and those it has received, the oldest one first. -/
  captured : List WireNSMLPacket := []
  /-- What has come over the connection and was not looked at yet. -/
  received : List WireNSMLPacket := []

namespace Console

variable (c : IntegrationContext)

/-- `ReceivePacketLocked`, called with or without a console. -/
def receivePacketLocked (hasNds : Bool) (s : Console) (data : List UInt8) : Console :=
  match receivePacket c.generation.toNat data with
  | none => s
  | some packet =>
    let s :=
      if c.config.enabled && hasNds then { s with live := s.live.push packet.player packet.packet }
      else { s with runtime := s.runtime.queuePendingPacket packet }
    { s with
      runtime := s.runtime.recordReceivedPacket packet.player packet.tick packet.frame
      received := s.received ++ [packet] }

/-- The packets that have arrived are given to the core. -/
def applyPendingPacketsLocked (s : Console) : Console :=
  if !c.config.enabled then s
  else
    { s with
      live := s.runtime.pendingPackets.foldl
        (fun live packet => live.push packet.player packet.packet) s.live
      runtime := { s.runtime with pendingPackets := [] } }

/-- `FlushDelayedPacketsLocked`, with what it sends. -/
def flushDelayedPacketsLocked (connected : Bool) (now : Nat) (s : Console) :
    Console × List (List UInt8) :=
  if !c.config.enabled ∨ !connected then (s, [])
  else
    let (runtime, packets) := s.runtime.takeDueOutgoingPackets s.frame now
    ({ s with runtime }, packets.map WireNSMLPacket.image)

/-- `PumpLocked`, where `arrived` is what the network hands over meanwhile. -/
def pumpLocked (connected : Bool) (now : Nat) (arrived : List (List UInt8)) (s : Console) :
    Console × List (List UInt8) :=
  let (s, sent) := { s with now }.flushDelayedPacketsLocked c connected now
  ((arrived.foldl (receivePacketLocked c true) s).applyPendingPacketsLocked c, sent)

/-- `SendPacketLocked`. -/
def sendPacketLocked (connected : Bool) (now : Nat) (s : Console) (packet : WireNSMLPacket) :
    Console × List (List UInt8) :=
  if !c.config.enabled ∨ !connected then (s, [])
  else
    let (runtime, immediate) := s.runtime.prepareOutgoingPacket c.config now packet
    ({ s with runtime }, (immediate.map WireNSMLPacket.image).toList)

/-- The packet that `CaptureAndSendPacketLocked` takes: one that the core has kept when the game
sent it, or a new one. -/
def captureLocalPacket (inContext : Bool) (mem : Memory) (taken : Option LocalPacket) :
    Option LocalPacket :=
  taken.or
    (if c.config.directCaptureEnabled && inContext then
      some (buildNSMLMarioVsLuigiPacket mem) else none)

/-- The buttons of the frame override those in the packet. -/
def overrideInput (s : Console) (packet : List UInt8) : List UInt8 :=
  match s.runtime.packetInput s.frame with
  | none => packet
  | some input => withHalfword packet 2 (keysOf input)

/-- The tick of the frame, and the packet with it. -/
def forceTick (s : Console) (tick : Nat) (packet : List UInt8) : Nat × List UInt8 :=
  if c.config.forceTickEnabled ∧ c.sharedLogicalEpoch ≤ s.frame ∧ 0 ≤ c.config.forceTickBase then
    let tick := canonicalTick c.config c.sharedLogicalEpoch s.frame tick
    (tick, withHalfword packet 0 tick)
  else (tick, packet)

/-- What a console sends of a packet of its game. -/
def outgoingPacket (mem : Memory) (s : Console) (captured : LocalPacket) : Option WireNSMLPacket :=
  let (tick, packet) := s.forceTick c captured.tick (s.overrideInput captured.packet)
  PacketBridge.prepareOutgoingPacket c.generation.toNat s.frame (localPlayerID c mem) tick packet

/-- The rest of `CaptureAndSendPacketLocked`, for a packet that was captured. -/
def keepAndSend (connected : Bool) (now : Nat) (s : Console) (packet : WireNSMLPacket) :
    Console × List (List UInt8) :=
  let s :=
    { s with live := s.live.push packet.player packet.packet, captured := s.captured ++ [packet] }
  let (s, sent) := s.sendPacketLocked c connected now packet
  ({ s with runtime := s.runtime.prunePacketInputs s.frame 240 }, sent)

/-- The packet of the frame is taken from the game, kept for the local replay, and sent or
delayed. -/
def captureAndSendPacketLocked (connected : Bool) (now : Nat) (inContext : Bool) (mem : Memory)
    (taken : Option LocalPacket) (s : Console) : Console × List (List UInt8) :=
  if !c.config.enabled then (s, [])
  else
    match (captureLocalPacket c inContext mem taken).bind (s.outgoingPacket c mem) with
    | none => (s, [])
    | some packet => s.keepAndSend c connected now packet

/-- The frame begins; an input that is kept from the game is stored for the packet of the frame. -/
def beginFrame (input : InputState) (s : Console) : Console :=
  let s := { s with phase := .running }
  if c.config.neutralizeLocalInput then
    { s with
      runtime := s.runtime.storePacketInput s.frame input
      polled := s.polled.insert s.frame input }
  else s

/-- The frame is over: a pump and a capture. -/
def endFrame (connected : Bool) (now : Nat) (inContext : Bool) (mem : Memory)
    (taken : Option LocalPacket) (arrived : List (List UInt8)) (s : Console) :
    Console × List (List UInt8) :=
  let (s, flushed) := { s with phase := .throttling }.pumpLocked c connected now arrived
  let (s, sent) := s.captureAndSendPacketLocked c connected now inContext mem taken
  (s, flushed ++ sent)

/-- `static_cast<int>` of a frame. -/
def toInt (frame : Nat) : Int := if frame < 2 ^ 31 then frame else frame - 2 ^ 32

/-- Whether the loop of `ThrottleFrameLead` ends in this round. -/
def mayGoOn (mem : Memory) (timedOut : Bool) (s : Console) : Bool :=
  if c.config.maxFrameLead < 0 ∨ s.frame < c.sharedLogicalEpoch then true
  else
    let remoteFrame := (s.runtime.receivedPacketProgress ((localPlayerID c mem) ^^^ 1)).frame
    if remoteFrame = kUnsetProgress ∨ remoteFrame < c.sharedLogicalEpoch then true
    else if toInt s.frame - toInt remoteFrame ≤ c.config.maxFrameLead then true
    else decide (0 < c.config.throttleTimeoutMs) && timedOut

end Console

/-- What can happen to a console. -/
inductive FrameEvent where
  /-- `BeforeRunFrame`, with the polled input. -/
  | beforeFrame (input : InputState) (connected : Bool) (now : Nat)
  /-- `RunAfterFramePacketBridgePhase`. -/
  | afterFrame (connected : Bool) (now : Nat) (inContext : Bool) (mem : Memory)
      (taken : Option LocalPacket)
  /-- A round of `ThrottleFrameLead` in which the console has to wait. -/
  | throttle (connected : Bool) (now : Nat)
  /-- Other code pumps the network, which has no console at hand. -/
  | receive
  /-- The next frame may begin. -/
  | nextFrame (mem : Memory) (timedOut : Bool)

namespace Console

/-- The console after an event, and what it has sent. -/
def step (c : IntegrationContext) (s : Console) (arrived : List (List UInt8)) :
    FrameEvent → Option (Console × List (List UInt8))
  | .beforeFrame input connected now =>
    if s.phase = .before ∧ s.now ≤ now then
      some ((s.beginFrame c input).pumpLocked c connected now arrived)
    else none
  | .afterFrame connected now inContext mem taken =>
    if s.phase = .running ∧ s.now ≤ now then
      some (s.endFrame c connected now inContext mem taken arrived)
    else none
  | .throttle connected now =>
    if s.phase = .throttling ∧ s.now ≤ now then
      some (s.pumpLocked c connected now arrived) else none
  | .receive => some (arrived.foldl (receivePacketLocked c false) s, [])
  | .nextFrame mem timedOut =>
    if s.phase = .throttling ∧ arrived = [] ∧ s.mayGoOn c mem timedOut then
      some ({ s with frame := u32 (s.frame + 1), phase := .before }, [])
    else none

end Console

/-! ## Two consoles -/

/-- Two consoles, and what is in flight between them. The connection delivers in order. -/
abbrev BridgePair := Net Console (List UInt8)

/-- What happens to two consoles and the connection between them. -/
inductive BridgeEvent where
  /-- Something happens to a console, which takes `arrived` of what is in flight to it. -/
  | frame (p : Fin 2) (e : FrameEvent) (arrived : Nat)
  /-- The connection is lost, with all that is in flight. -/
  | drop

namespace BridgePair

/-- The stores may hold packets that were pushed in an earlier generation. -/
def init (start : Fin 2 → Nat) (leftover : Fin 2 → List (Nat × List UInt8)) : BridgePair where
  side p := { frame := start p, live := .ofPushes (leftover p) }
  sent _ := []

/-- One event, which is impossible where the console cannot do it. -/
def step (c : Fin 2 → IntegrationContext) (s : BridgePair) : BridgeEvent → Option BridgePair
  | .frame p e arrived =>
    ((s.side p).step (c p) ((s.sent (other p)).take arrived) e).map fun r =>
      (s.remain (other p) ((s.sent (other p)).drop arrived)).put p r.1 r.2
  | .drop => some s.drop

end BridgePair

end Bigstar.Netplay.PacketBridge
