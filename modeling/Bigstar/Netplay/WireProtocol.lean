import Bigstar.Netplay.GameState
import Bigstar.Netplay.InputDelivery
import Bigstar.Netplay.SessionPolicy

/-!
# The wire format

The byte images of the packets the peers exchange and the dispatch of a received packet by its
length: `NsmbInputProtocol.cpp`, `SessionProtocol` and `PacketClassifier` of
`NsmbNetplayProtocol.cpp`, the packets of `NsmbPacketBridgeRuntime.cpp`, and the game state packet
of `GameState`. A packet is a struct of fixed layout that is copied to and from a buffer on a
little-endian host.
-/

namespace Bigstar.Netplay

open LittleEndian

namespace InputProtocol

open InputDelivery

/-- `kMagic`, "NSML". -/
def kMagic : Nat := 0x4C4D534E

/-- The version of single inputs. -/
def kInputVersion : Nat := 2

/-- The version of bundles. -/
def kInputBundleVersion : Nat := 3

/-- `kInputBundleKind`, "INPB". -/
def kInputBundleKind : Nat := 0x42504E49

/-- `kNoAckFrame`. -/
def kNoAckFrame : Nat := 0xFFFFFFFF

/-- `sizeof(WireInput)`. -/
def kInputPacketSize : Nat := 28

/-- `sizeof(WireInputBundleHeader)`. -/
def kInputBundleHeaderSize : Nat := 24

/-- `sizeof(WireInputBundleEntry)`. -/
def kInputBundleEntrySize : Nat := 16

/-- `WireInput`, without its reserved bytes. -/
@[ext]
structure WireInput where
  /-- `kMagic`. -/
  magic : Nat
  /-- `kInputVersion`. -/
  version : Nat
  /-- The generation of the sender. -/
  generation : Nat
  /-- The frame of the input. -/
  frame : Nat
  /-- The keys. -/
  keyMask : Nat
  /-- Where the screen is touched, from the left. -/
  touchX : Nat
  /-- And from above. -/
  touchY : Nat
  /-- Not 0 if it is touched. -/
  touching : Nat

namespace WireInput

/-- The bytes of the struct. -/
def image (wire : WireInput) : List UInt8 :=
  toBytes 4 wire.magic ++ toBytes 4 wire.version ++ toBytes 4 wire.generation ++
    toBytes 4 wire.frame ++ toBytes 4 wire.keyMask ++ toBytes 2 wire.touchX ++
    toBytes 2 wire.touchY ++ toBytes 1 wire.touching ++ [0, 0, 0]

/-- The struct that has these bytes. -/
def ofImage (bytes : List UInt8) : WireInput where
  magic := readLE 4 bytes 0
  version := readLE 4 bytes 4
  generation := readLE 4 bytes 8
  frame := readLE 4 bytes 12
  keyMask := readLE 4 bytes 16
  touchX := readLE 2 bytes 20
  touchY := readLE 2 bytes 22
  touching := readLE 1 bytes 24

end WireInput

/-- The struct for an input. -/
def toWireInput (input : FramedInput) : WireInput where
  magic := kMagic
  version := kInputVersion
  generation := input.generation
  frame := input.frame
  keyMask := input.input.keyMask.toNat
  touchX := input.input.touchX.toNat
  touchY := input.input.touchY.toNat
  touching := if input.input.touching then 1 else 0

/-- The input in a struct. -/
def fromWireInput (wire : WireInput) : FramedInput where
  generation := wire.generation
  frame := wire.frame
  input :=
    { keyMask := UInt32.ofNat wire.keyMask
      touching := decide (wire.touching ≠ 0)
      touchX := UInt16.ofNat wire.touchX
      touchY := UInt16.ofNat wire.touchY }

/-- `EncodeInput`. -/
def encodeInput (input : FramedInput) : List UInt8 := (toWireInput input).image

/-- `DecodeInput`. -/
def decodeInput (bytes : List UInt8) : Option FramedInput :=
  if bytes.length ≠ kInputPacketSize then none
  else
    let wire := WireInput.ofImage bytes
    if wire.magic ≠ kMagic ∨ wire.version ≠ kInputVersion then none else some (fromWireInput wire)

/-- `WireInputBundleHeader`. -/
@[ext]
structure WireInputBundleHeader where
  /-- `kMagic`. -/
  magic : Nat
  /-- `kInputBundleVersion`. -/
  version : Nat
  /-- `kInputBundleKind`. -/
  kind : Nat
  /-- The generation of all inputs. -/
  generation : Nat
  /-- How many entries follow. -/
  count : Nat
  /-- The acknowledged frame, or `kNoAckFrame`. -/
  ackFrame : Nat

namespace WireInputBundleHeader

/-- The bytes of the struct. -/
def image (header : WireInputBundleHeader) : List UInt8 :=
  toBytes 4 header.magic ++ toBytes 4 header.version ++ toBytes 4 header.kind ++
    toBytes 4 header.generation ++ toBytes 4 header.count ++ toBytes 4 header.ackFrame

/-- The struct that has these bytes. -/
def ofImage (bytes : List UInt8) : WireInputBundleHeader where
  magic := readLE 4 bytes 0
  version := readLE 4 bytes 4
  kind := readLE 4 bytes 8
  generation := readLE 4 bytes 12
  count := readLE 4 bytes 16
  ackFrame := readLE 4 bytes 20

end WireInputBundleHeader

/-- `WireInputBundleEntry` of an input, without its reserved bytes. -/
@[ext]
structure WireInputBundleEntry where
  /-- The frame of the input. -/
  frame : Nat
  /-- The keys. -/
  keyMask : Nat
  /-- Where the screen is touched, from the left. -/
  touchX : Nat
  /-- And from above. -/
  touchY : Nat
  /-- Not 0 if it is touched. -/
  touching : Nat

namespace WireInputBundleEntry

/-- The bytes of the struct. -/
def image (entry : WireInputBundleEntry) : List UInt8 :=
  toBytes 4 entry.frame ++ toBytes 4 entry.keyMask ++ toBytes 2 entry.touchX ++
    toBytes 2 entry.touchY ++ toBytes 1 entry.touching ++ [0, 0, 0]

/-- The struct that has these bytes. -/
def ofImage (bytes : List UInt8) : WireInputBundleEntry where
  frame := readLE 4 bytes 0
  keyMask := readLE 4 bytes 4
  touchX := readLE 2 bytes 8
  touchY := readLE 2 bytes 10
  touching := readLE 1 bytes 12

end WireInputBundleEntry

/-- The entry for an input. -/
def toBundleEntry (input : FramedInput) : WireInputBundleEntry where
  frame := input.frame
  keyMask := input.input.keyMask.toNat
  touchX := input.input.touchX.toNat
  touchY := input.input.touchY.toNat
  touching := if input.input.touching then 1 else 0

/-- The input in an entry; the generation is in the header. -/
def fromBundleEntry (generation : Nat) (entry : WireInputBundleEntry) : FramedInput where
  generation := generation
  frame := entry.frame
  input :=
    { keyMask := UInt32.ofNat entry.keyMask
      touching := decide (entry.touching ≠ 0)
      touchX := UInt16.ofNat entry.touchX
      touchY := UInt16.ofNat entry.touchY }

/-- `EncodeInputBundle`: empty where the inputs do not form a bundle. -/
def encodeInputBundle (inputs : List FramedInput) (ackFrame : Option Nat) : List UInt8 :=
  match inputs with
  | [] => []
  | first :: _ =>
    if kMaxInputBundleEntries < inputs.length then []
    else if ¬ ∀ input ∈ inputs, input.generation = first.generation then []
    else
      let header : WireInputBundleHeader :=
        { magic := kMagic
          version := kInputBundleVersion
          kind := kInputBundleKind
          generation := first.generation
          count := inputs.length
          ackFrame := ackFrame.getD kNoAckFrame }
      header.image ++ inputs.flatMap fun input => (toBundleEntry input).image

/-- `DecodeInputBundle`: the inputs and the acknowledged frame. -/
def decodeInputBundle (bytes : List UInt8) : Option (List FramedInput × Option Nat) :=
  if bytes.length < kInputBundleHeaderSize then none
  else
    let header := WireInputBundleHeader.ofImage bytes
    if header.magic ≠ kMagic ∨ header.version ≠ kInputBundleVersion ∨
        header.kind ≠ kInputBundleKind ∨ header.count = 0 ∨ kMaxInputBundleEntries < header.count ∨
        bytes.length ≠ kInputBundleHeaderSize + kInputBundleEntrySize * header.count then none
    else
      let entries := (List.range header.count).map fun index =>
        fromBundleEntry header.generation
          (.ofImage (bytes.drop (kInputBundleHeaderSize + kInputBundleEntrySize * index)))
      some (entries, if header.ackFrame ≠ kNoAckFrame then some header.ackFrame else none)

end InputProtocol

namespace SessionProtocol

/-- `kMagic`, "NSML". -/
def kMagic : Nat := 0x4C4D534E

/-- The version of session messages and game packets. -/
def kVersion : Nat := 2

/-- `kMatchSeedKind`, "SEED". -/
def kMatchSeedKind : Nat := 0x44454553

/-- `kStartReadyKind`, "STRT". -/
def kStartReadyKind : Nat := 0x54525453

/-- `kResumeKind`, "RSUM". -/
def kResumeKind : Nat := 0x4D555352

/-- `sizeof(WireMessage)`. -/
def kSessionPacketSize : Nat := 64

/-- The number of a kind. -/
def toWireKind : MessageKind → Nat
  | .matchSeed => kMatchSeedKind
  | .startReady => kStartReadyKind
  | .resume => kResumeKind

/-- The kind of a number, if it has one. -/
def fromWireKind (kind : Nat) : Option MessageKind :=
  if kind = kMatchSeedKind then some .matchSeed
  else if kind = kStartReadyKind then some .startReady
  else if kind = kResumeKind then some .resume
  else none

/-- The sixteen words of `WireMessage`. -/
def wireWords (message : Message) : List Nat :=
  [kMagic, kVersion, toWireKind message.kind, message.value, message.generation,
    message.rawReadyFrame, message.sharedLogicalEpoch, message.stageID, message.stageGroup,
    message.matchSeed, message.packetTick, message.rngValue, message.rngCallCount,
    message.rngBranchAddress, message.semanticHash % 2 ^ 32, message.semanticHash / 2 ^ 32]

/-- `Encode`. -/
def encode (message : Message) : List UInt8 := (wireWords message).flatMap (toBytes 4)

/-- `Decode`. -/
def decode (bytes : List UInt8) : Option Message :=
  if bytes.length ≠ kSessionPacketSize then none
  else if readLE 4 bytes 0 ≠ kMagic ∨ readLE 4 bytes 4 ≠ kVersion then none
  else
    (fromWireKind (readLE 4 bytes 8)).map fun kind =>
      { kind
        value := readLE 4 bytes 12
        generation := readLE 4 bytes 16
        rawReadyFrame := readLE 4 bytes 20
        sharedLogicalEpoch := readLE 4 bytes 24
        stageID := readLE 4 bytes 28
        stageGroup := readLE 4 bytes 32
        matchSeed := readLE 4 bytes 36
        packetTick := readLE 4 bytes 40
        rngValue := readLE 4 bytes 44
        rngCallCount := readLE 4 bytes 48
        rngBranchAddress := readLE 4 bytes 52
        semanticHash := readLE 4 bytes 60 * 2 ^ 32 + readLE 4 bytes 56 }

end SessionProtocol

namespace PacketBridge

/-- `kWireKindPacket`, "PACK". -/
def kWireKindPacket : Nat := 0x4B434150

/-- `sizeof(WireNSMLPacket)`. -/
def kNSMLPacketSize : Nat := 80

/-- The length of `WireNSMLPacket::Packet`. -/
def kPacketBytes : Nat := 52

/-- `WireNSMLPacket`. -/
@[ext]
structure WireNSMLPacket where
  /-- `kMagic`. -/
  magic : Nat
  /-- `kVersion`. -/
  version : Nat
  /-- `kWireKindPacket`. -/
  kind : Nat
  /-- The generation of the sender. -/
  generation : Nat
  /-- The frame in which it was captured. -/
  frame : Nat
  /-- The player whose packet it is. -/
  player : Nat
  /-- The tick under which it is sent. -/
  tick : Nat
  /-- The bytes of the game's packet. -/
  packet : List UInt8
  deriving DecidableEq, Repr

namespace WireNSMLPacket

/-- The bytes of the struct. -/
def image (wire : WireNSMLPacket) : List UInt8 :=
  toBytes 4 wire.magic ++ toBytes 4 wire.version ++ toBytes 4 wire.kind ++
    toBytes 4 wire.generation ++ toBytes 4 wire.frame ++ toBytes 4 wire.player ++
    toBytes 4 wire.tick ++ wire.packet

/-- The struct that has these bytes. -/
def ofImage (bytes : List UInt8) : WireNSMLPacket where
  magic := readLE 4 bytes 0
  version := readLE 4 bytes 4
  kind := readLE 4 bytes 8
  generation := readLE 4 bytes 12
  frame := readLE 4 bytes 16
  player := readLE 4 bytes 20
  tick := readLE 4 bytes 24
  packet := (bytes.drop 28).take kPacketBytes

end WireNSMLPacket

/-- The packet that `PrepareOutgoingPacket` builds, sent at once or after the configured delay. -/
def prepareOutgoingPacket (generation frame player tick : Nat) (packetBytes : List UInt8) :
    Option WireNSMLPacket :=
  if 1 < player then none
  else some
    { magic := SessionProtocol.kMagic
      version := SessionProtocol.kVersion
      kind := kWireKindPacket
      generation
      frame
      player
      tick
      packet := packetBytes }

/-- `IsAcceptedIncomingPacket`. -/
def isAcceptedIncomingPacket (packet : WireNSMLPacket) (expectedGeneration : Nat) : Bool :=
  if packet.magic ≠ SessionProtocol.kMagic ∨ packet.version ≠ SessionProtocol.kVersion ∨
      packet.kind ≠ kWireKindPacket ∨ 1 < packet.player then false
  else decide (packet.generation = expectedGeneration)

/-- The packet that `ReceivePacketLocked` takes from a buffer. -/
def receivePacket (expectedGeneration : Nat) (bytes : List UInt8) : Option WireNSMLPacket :=
  if bytes.length ≠ kNSMLPacketSize then none
  else
    let packet := WireNSMLPacket.ofImage bytes
    if isAcceptedIncomingPacket packet expectedGeneration then some packet else none

end PacketBridge

namespace GameStateModel

/-- The packet `Sync` sends. -/
def encodeGameState (state : DecodedGameState) : List UInt8 :=
  WireGameState.image
    (encodeWireGameState state.frame state.instance_ state.generation state.sample state.hashes)

/-- The state `HandleReceivedPacketLocked` decodes, before it looks at the generation. -/
def decodeGameState (bytes : List UInt8) : Option DecodedGameState :=
  decodeWireGameState (WireGameState.ofImage bytes)

end GameStateModel

namespace PacketClassifier

/-- `PacketClass`. -/
inductive PacketClass where
  /-- Of no known length. -/
  | unknown
  /-- A single input. -/
  | input
  /-- Longer than an input and of no other known length. -/
  | inputBundleCandidate
  /-- A session message. -/
  | session
  /-- A packet of the game. -/
  | nsmlPacket
  /-- A report of the game's state. -/
  | gameState
  deriving DecidableEq, Repr

/-- `KnownPacketSizes`. -/
structure KnownPacketSizes where
  /-- The length of a single input. -/
  input : Nat := 0
  /-- The length of a session message. -/
  session : Nat := 0
  /-- The length of a packet of the game. -/
  nsmlPacket : Nat := 0
  /-- The length of a report. -/
  gameState : Nat := 0

/-- The two lengths that are asked for before bundles are. -/
def isGamePacketSize (size : Nat) (known : KnownPacketSizes) : Bool :=
  decide (size = known.nsmlPacket ∨ size = known.gameState)

/-- `Classify`. -/
def classify (packetSize : Nat) (sizes : KnownPacketSizes) : PacketClass :=
  if packetSize = sizes.input then .input
  else if packetSize = sizes.session then .session
  else if packetSize = sizes.nsmlPacket then .nsmlPacket
  else if packetSize = sizes.gameState then .gameState
  else if sizes.input < packetSize ∧ ¬ isGamePacketSize packetSize sizes then .inputBundleCandidate
  else .unknown

/-- The sizes the session passes to `Classify`. -/
def knownPacketSizes : KnownPacketSizes where
  input := InputProtocol.kInputPacketSize
  session := SessionProtocol.kSessionPacketSize
  nsmlPacket := PacketBridge.kNSMLPacketSize
  gameState := GameStateModel.kGameStateSize

end PacketClassifier

/-! ## Dispatch -/

namespace WireProtocol

open InputDelivery PacketClassifier

/-- What a peer can send. -/
inductive Packet where
  /-- A single input. -/
  | input (packet : FramedInput)
  /-- A bundle with its acknowledgement. -/
  | inputBundle (inputs : List FramedInput) (ackFrame : Option Nat)
  /-- A session message. -/
  | session (message : SessionProtocol.Message)
  /-- A packet of the game. -/
  | nsml (packet : PacketBridge.WireNSMLPacket)
  /-- A report of the game's state. -/
  | gameState (state : GameStateModel.DecodedGameState)

namespace Packet

/-- How a packet is to be classified. -/
def packetClass : Packet → PacketClass
  | .input _ => .input
  | .inputBundle .. => .inputBundleCandidate
  | .session _ => .session
  | .nsml _ => .nsmlPacket
  | .gameState _ => .gameState

/-- The bytes of a packet. -/
def encode : Packet → List UInt8
  | .input packet => InputProtocol.encodeInput packet
  | .inputBundle inputs ackFrame => InputProtocol.encodeInputBundle inputs ackFrame
  | .session message => SessionProtocol.encode message
  | .nsml packet => packet.image
  | .gameState state => GameStateModel.encodeGameState state

end Packet

/-- The decoder of a class, at a peer that is in the given generation. -/
def decodeAs (generation : Nat) (bytes : List UInt8) : PacketClass → Option Packet
  | .unknown => none
  | .input => (InputProtocol.decodeInput bytes).map .input
  | .inputBundleCandidate =>
    (InputProtocol.decodeInputBundle bytes).map fun bundle => .inputBundle bundle.1 bundle.2
  | .session => (SessionProtocol.decode bytes).map .session
  | .nsmlPacket => (PacketBridge.receivePacket generation bytes).map .nsml
  | .gameState => (GameStateModel.decodeGameState bytes).map .gameState

/-- The `ENET_EVENT_TYPE_RECEIVE` branch of `PumpNetwork`: the length chooses the decoder. -/
def receive (generation : Nat) (bytes : List UInt8) : Option Packet :=
  decodeAs generation bytes (classify bytes.length knownPacketSizes)

end WireProtocol

end Bigstar.Netplay
