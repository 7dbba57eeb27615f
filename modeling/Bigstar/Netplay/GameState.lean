import Mathlib.Data.Fintype.Basic
import Bigstar.Lib.LittleEndian

/-!
# The sampled game state

`NsmbGameState.cpp`: the words a peer reads from the console's memory, the hashes of them that the
peers compare, and the packet in which a sample travels. A sample is a table from field names to
words; the fields are those that some function below reads, the others of `GameStateSample` are left
out.
-/

namespace Bigstar.Netplay.GameStateModel

open LittleEndian

/-! ## Samples -/

/-- The word fields of `GameStateSample`: first those that travel, then those that are only
hashed. -/
inductive GameStateField where
  | stageID | stageGroup | vsMode | localPlayerID | ggid | netRandomValue | netRandomCallCount
  | netRandomBranchAddress | vsStarFound | vsStarGUID | vsStarBase | vsStarSettings
  | vsStarStateType | vsStarFlags | vsStarPosX | vsStarPosY | vsStarPosZ | vsStarActorFound
  | vsStarActorGUID | vsStarActorBase | vsStarActorSettings | vsStarActorStateType
  | vsStarActorFlags | vsStarActorPosX | vsStarActorPosY | vsStarActorPosZ | playerActor0Found
  | playerActor0GUID | playerActor0Settings | playerActor0PosX | playerActor0PosY
  | playerActor0PosZ | playerActor0PrevX | playerActor0PrevY | playerActor0PrevZ | playerActor0VelX
  | playerActor0VelY | playerActor0VelZ | playerActor1Found | playerActor1GUID
  | playerActor1Settings | playerActor1PosX | playerActor1PosY | playerActor1PosZ
  | playerActor1PrevX | playerActor1PrevY | playerActor1PrevZ | playerActor1VelX | playerActor1VelY
  | playerActor1VelZ | playerCount | player0BattleStars | player1BattleStars | player0Coins
  | player1Coins | player0Score | player1Score | player0DisplayedStars | player1DisplayedStars
  | player0Deaths | player1Deaths | player0CollectedStars | player1CollectedStars | vsCoinCount
  | stageCameraFound | stageCameraWord190 | stageCameraWord194 | stageCameraWord19C
  | stageCameraWord1A0 | stageSceneFound | stageSceneWord154 | stageSceneWord160
  | movingHazardFound | movingHazardGUID | movingHazardSettings | movingHazardStateType
  | movingHazardFlags | movingHazardPosX | movingHazardPosY | movingHazardPosZ | movingHazardVelX
  | movingHazardVelY
  | netState14 | netState1C | netState20 | netState24 | netState5C | netPacketTick | netPacketKeys
  | netPacketAction | netPacketByte5 | netPacketByte6 | netPacketByte7 | inputConsole0Held
  | inputConsole0Pressed | inputConsole1Held | inputConsole1Pressed | inputPlayer0Held
  | inputPlayer1Held | inputPlayer0Pressed | inputPlayer1Pressed | stageActorFreezeFlag
  | player0Powerup | player1Powerup | player0InventoryPowerup | player1InventoryPowerup
  | player0Dead | player1Dead | player0Character | player1Character | player0Lives | player1Lives
  | vsConnectFound | vsConnectWord078 | vsConnectWord07C | vsConnectWord114 | vsConnectWord118
  | vsConnectWord120 | vsConnectWord128 | vsConnectWord144 | vsConnectWord148 | vsConnectWord154
  | courseSelectFound | courseSelectSettings | courseSelectWord060 | courseSelectWord064
  | courseSelectWord068 | courseSelectWord06C | courseSelectWord070 | courseSelectWord074
  | courseSelectWord078 | courseSelectWord07C | courseSelectWord080 | courseSelectWord084
  | courseSelectWord088 | courseSelectWord08C | courseSelectWord090 | stageActorManagerFound
  | stageActorManagerStateType | stageControllerFound | stageControllerStateType
  | mvlObject267Found | mvlObject267StateType
  deriving DecidableEq

/-- `GameStateSample`. -/
structure GameStateSample where
  /-- The words, by their fields. -/
  word : GameStateField → UInt32 := fun _ => 0
  /-- The hash over all of them. -/
  hash : UInt64 := 0

/-- `GameStateSyncHashes`. -/
structure GameStateSyncHashes where
  /-- Over the fields that have to agree. -/
  basic : UInt64 := 0
  /-- Over the memory of the players. -/
  playerGlobal : UInt64 := 0
  /-- Over the memory of the wireless protocol. -/
  wifiCandidate : UInt64 := 0
  /-- Over the memory of the renderer. -/
  renderCandidate : UInt64 := 0
  deriving DecidableEq, Repr

/-- `DecodedGameState`. -/
structure DecodedGameState where
  /-- The game that it belongs to. -/
  generation : UInt32 := 0
  /-- The frame of the sample. -/
  frame : UInt32 := 0
  /-- The instance of the emulator. -/
  instance_ : UInt32 := 0
  /-- The sample. -/
  sample : GameStateSample := {}
  /-- Its hashes. -/
  hashes : GameStateSyncHashes := {}

open GameStateField in
/-- `NSMB_GAME_STATE_WIRE_FIELDS`, in the order of the macro. -/
def wireFields : List GameStateField := [
  stageID, stageGroup, vsMode, localPlayerID, ggid, netRandomValue, netRandomCallCount,
  netRandomBranchAddress, vsStarFound, vsStarGUID, vsStarBase, vsStarSettings, vsStarStateType,
  vsStarFlags, vsStarPosX, vsStarPosY, vsStarPosZ, vsStarActorFound, vsStarActorGUID,
  vsStarActorBase, vsStarActorSettings, vsStarActorStateType, vsStarActorFlags, vsStarActorPosX,
  vsStarActorPosY, vsStarActorPosZ, playerActor0Found, playerActor0GUID, playerActor0Settings,
  playerActor0PosX, playerActor0PosY, playerActor0PosZ, playerActor0PrevX, playerActor0PrevY,
  playerActor0PrevZ, playerActor0VelX, playerActor0VelY, playerActor0VelZ, playerActor1Found,
  playerActor1GUID, playerActor1Settings, playerActor1PosX, playerActor1PosY, playerActor1PosZ,
  playerActor1PrevX, playerActor1PrevY, playerActor1PrevZ, playerActor1VelX, playerActor1VelY,
  playerActor1VelZ, playerCount, player0BattleStars, player1BattleStars, player0Coins,
  player1Coins, player0Score, player1Score, player0DisplayedStars, player1DisplayedStars,
  player0Deaths, player1Deaths, player0CollectedStars, player1CollectedStars, vsCoinCount,
  stageCameraFound, stageCameraWord190, stageCameraWord194, stageCameraWord19C, stageCameraWord1A0,
  stageSceneFound, stageSceneWord154, stageSceneWord160, movingHazardFound, movingHazardGUID,
  movingHazardSettings, movingHazardStateType, movingHazardFlags, movingHazardPosX,
  movingHazardPosY, movingHazardPosZ, movingHazardVelX, movingHazardVelY]

/-! ## Hashes -/

/-- One byte of `MixGameStateValue`. -/
def mixByte (hash : UInt64) (byte : UInt64) : UInt64 := (hash ^^^ byte) * 1099511628211

/-- `MixGameStateValue`: the four bytes of a word, lowest first. -/
def mixGameStateValue (hash : UInt64) (value : UInt32) : UInt64 :=
  ([0, 8, 16, 24] : List UInt32).foldl
    (fun hash shift => mixByte hash ((value >>> shift) &&& 0xFF).toUInt64) hash

open GameStateField in
/-- The fields `ComputeBasicGameStateHash` mixes, in its order. -/
def basicHashFields : List GameStateField := [
  stageID, stageGroup, vsMode, localPlayerID, ggid, netState14, netState1C, netState20, netState24,
  netState5C, netPacketTick, netPacketKeys, netPacketAction, netPacketByte5, netPacketByte6,
  netPacketByte7, netRandomValue, netRandomCallCount, netRandomBranchAddress, inputConsole0Held,
  inputConsole0Pressed, inputConsole1Held, inputConsole1Pressed, inputPlayer0Held,
  inputPlayer1Held, inputPlayer0Pressed, inputPlayer1Pressed, stageActorFreezeFlag, vsStarFound,
  vsStarGUID, vsStarSettings, vsStarStateType, vsStarFlags, vsStarPosX, vsStarPosY, vsStarPosZ,
  vsStarActorFound, vsStarActorGUID, vsStarActorSettings, vsStarActorStateType, vsStarActorFlags,
  vsStarActorPosX, vsStarActorPosY, vsStarActorPosZ, playerActor0Found, playerActor0GUID,
  playerActor0Settings, playerActor0PosX, playerActor0PosY, playerActor0PosZ, playerActor0PrevX,
  playerActor0PrevY, playerActor0PrevZ, playerActor0VelX, playerActor0VelY, playerActor0VelZ,
  playerActor1Found, playerActor1GUID, playerActor1Settings, playerActor1PosX, playerActor1PosY,
  playerActor1PosZ, playerActor1PrevX, playerActor1PrevY, playerActor1PrevZ, playerActor1VelX,
  playerActor1VelY, playerActor1VelZ, playerCount, player0Powerup, player1Powerup,
  player0InventoryPowerup, player1InventoryPowerup, player0Dead, player1Dead, player0Character,
  player1Character, player0Lives, player1Lives, player0BattleStars, player1BattleStars,
  player0Coins, player1Coins, player0Score, player1Score, player0DisplayedStars,
  player1DisplayedStars, player0Deaths, player1Deaths, player0CollectedStars,
  player1CollectedStars, vsCoinCount, stageCameraFound, stageCameraWord190, stageCameraWord194,
  stageCameraWord19C, stageCameraWord1A0, stageSceneFound, stageSceneWord154, stageSceneWord160,
  vsConnectFound, vsConnectWord078, vsConnectWord07C, vsConnectWord114, vsConnectWord118,
  vsConnectWord120, vsConnectWord128, vsConnectWord144, vsConnectWord148, vsConnectWord154,
  courseSelectFound, courseSelectSettings, courseSelectWord060, courseSelectWord064,
  courseSelectWord068, courseSelectWord06C, courseSelectWord070, courseSelectWord074,
  courseSelectWord078, courseSelectWord07C, courseSelectWord080, courseSelectWord084,
  courseSelectWord088, courseSelectWord08C, courseSelectWord090, stageActorManagerFound,
  stageActorManagerStateType, stageControllerFound, stageControllerStateType, mvlObject267Found,
  mvlObject267StateType, movingHazardFound, movingHazardGUID, movingHazardSettings,
  movingHazardStateType, movingHazardFlags, movingHazardPosX, movingHazardPosY, movingHazardPosZ,
  movingHazardVelX, movingHazardVelY]

/-- `ComputeBasicGameStateHash`. -/
def computeBasicGameStateHash (sample : GameStateSample) : UInt64 :=
  basicHashFields.foldl (fun hash field => mixGameStateValue hash (sample.word field))
    1469598103934665603

/-! ## The packet -/

/-- `WireProtocol::kMagic`, "NSML". -/
def kMagic : UInt32 := 0x4C4D534E

/-- `WireProtocol::kVersion`. -/
def kVersion : UInt32 := 2

/-- `WireProtocol::kWireKindState`, "STAT". -/
def kWireKindState : UInt32 := 0x54415453

/-- The members of `WireGameState`, all of them words. -/
inductive WireField where
  | magic | version | kind | generation | frame | instance_
  /-- A word of the sample. -/
  | sample (field : GameStateField)
  | basicHashLo | basicHashHi | playerGlobalHashLo | playerGlobalHashHi
  | wifiCandidateHashLo | wifiCandidateHashHi | renderCandidateHashLo | renderCandidateHashHi
  deriving DecidableEq

/-- The order in which the members of `WireGameState` lie in memory. -/
def wireLayout : List WireField :=
  [.magic, .version, .kind, .generation, .frame, .instance_] ++ wireFields.map .sample ++
    [.basicHashLo, .basicHashHi, .playerGlobalHashLo, .playerGlobalHashHi,
      .wifiCandidateHashLo, .wifiCandidateHashHi, .renderCandidateHashLo, .renderCandidateHashHi]

/-- `WireGameState`; a member that the struct does not have reads as zero. -/
abbrev WireGameState := WireField → UInt32

/-- The low word of a double word. -/
def lo (value : UInt64) : UInt32 := (value &&& 0xFFFFFFFF).toUInt32

/-- The high word of a double word. -/
def hi (value : UInt64) : UInt32 := (value >>> 32).toUInt32

/-- The double word put together from its halves. -/
def join (high low : UInt32) : UInt64 := (high.toUInt64 <<< 32) ||| low.toUInt64

/-- `EncodeWireGameState`. -/
def encodeWireGameState (frame instance_ generation : UInt32) (sample : GameStateSample)
    (hashes : GameStateSyncHashes) : WireGameState
  | .magic => kMagic
  | .version => kVersion
  | .kind => kWireKindState
  | .generation => generation
  | .frame => frame
  | .instance_ => instance_
  | .sample field => if field ∈ wireFields then sample.word field else 0
  | .basicHashLo => lo hashes.basic
  | .basicHashHi => hi hashes.basic
  | .playerGlobalHashLo => lo hashes.playerGlobal
  | .playerGlobalHashHi => hi hashes.playerGlobal
  | .wifiCandidateHashLo => lo hashes.wifiCandidate
  | .wifiCandidateHashHi => hi hashes.wifiCandidate
  | .renderCandidateHashLo => lo hashes.renderCandidate
  | .renderCandidateHashHi => hi hashes.renderCandidate

/-- `DecodeWireGameState`: the fields that do not travel keep their default. -/
def decodeWireGameState (packet : WireGameState) : Option DecodedGameState :=
  if packet .magic ≠ kMagic ∨ packet .version ≠ kVersion ∨ packet .kind ≠ kWireKindState then none
  else
    let hashes : GameStateSyncHashes :=
      { basic := join (packet .basicHashHi) (packet .basicHashLo)
        playerGlobal := join (packet .playerGlobalHashHi) (packet .playerGlobalHashLo)
        wifiCandidate := join (packet .wifiCandidateHashHi) (packet .wifiCandidateHashLo)
        renderCandidate := join (packet .renderCandidateHashHi) (packet .renderCandidateHashLo) }
    some
      { generation := packet .generation
        frame := packet .frame
        instance_ := packet .instance_
        sample :=
          { word := fun field => if field ∈ wireFields then packet (.sample field) else 0
            hash := hashes.basic }
        hashes }

/-- The bytes of the struct, as `Transport.Send` reads them. -/
def WireGameState.image (packet : WireGameState) : List UInt8 :=
  wireLayout.flatMap fun field => toBytes 4 (packet field).toNat

/-- The struct that `memcpy` fills from a buffer. -/
def WireGameState.ofImage (bytes : List UInt8) : WireGameState :=
  fun field => UInt32.ofNat (readLE 4 bytes (4 * wireLayout.idxOf field))

/-- `sizeof(WireGameState)`. -/
def kGameStateSize : Nat := 384

end Bigstar.Netplay.GameStateModel
