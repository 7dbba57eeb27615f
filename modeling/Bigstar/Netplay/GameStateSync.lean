import Bigstar.Lib.OrderedMap
import Bigstar.Lib.TwoParty
import Bigstar.Netplay.WireProtocol

/-!
# The exchange of game states

The second half of `NsmbGameState.cpp` (`RemoteStateStore`, `StateSyncRuntime`) and the functions of
`NsmbGameStateSync.cpp` that use it. Every `GameInterval` frames each peer hashes what it reads from
the console and sends the sample along with the hashes. Whichever of the two comes second, the
peer's own hashes or those of the other one, is compared with what is there, and a difference is
reported. Between two games of a match everything is forgotten, and the packets carry the number of
the game they belong to.

A process runs one instance. What an instance reads from its console is a parameter. The network may
deliver any packet that was ever sent, at any time and any number of times.
-/

namespace Bigstar.Netplay.GameStateModel

open OrderedMap

/-- `GameStateKey`: the instance in the upper half, the frame in the lower one. -/
def gameStateKey (instance_ frame : UInt32) : Nat := (join instance_ frame).toNat

/-- A frame in which the hashes of the two peers differ. -/
structure GameStateHashMismatch where
  /-- The instance. -/
  instance_ : UInt32
  /-- The frame. -/
  frame : UInt32
  /-- The hashes of this peer. -/
  local_ : GameStateSyncHashes
  /-- The hashes of the other peer. -/
  remote : GameStateSyncHashes
  deriving DecidableEq

/-- The game states of the other peer. -/
structure RemoteStateStore where
  /-- Their hashes, by instance and frame. -/
  gameStateHashes : NatMap GameStateSyncHashes := ∅
  /-- Their samples, by instance and frame. -/
  gameStates : NatMap GameStateSample := ∅

namespace RemoteStateStore

/-- `StoreGameState`. -/
def storeGameState (store : RemoteStateStore) (state : DecodedGameState) : RemoteStateStore :=
  let key := gameStateKey state.instance_ state.frame
  { gameStateHashes := store.gameStateHashes.insert key state.hashes
    gameStates := store.gameStates.insert key state.sample }

/-- `FindGameStateHashes`. -/
def findGameStateHashes (store : RemoteStateStore) (instance_ frame : UInt32) :
    Option GameStateSyncHashes :=
  store.gameStateHashes[gameStateKey instance_ frame]?

/-- The newest state of the instance up to the frame, and its frame. The entry before `upper_bound`
may belong to an instance with a smaller number, which is none. -/
def findLatestGameState (store : RemoteStateStore) (instance_ frame : UInt32) :
    Option (GameStateSample × UInt32) :=
  match store.gameStates.entryAtOrBefore (gameStateKey instance_ frame) with
  | none => none
  | some (key, state) =>
    if key < gameStateKey instance_ 0 then none else some (state, UInt32.ofNat key)

end RemoteStateStore

/-- The hashes of both peers. -/
structure StateSyncRuntime where
  /-- What the other peer has sent. -/
  remoteState : RemoteStateStore := {}
  /-- The own hashes, by instance and frame. -/
  localGameStateHashes : NatMap GameStateSyncHashes := ∅
  /-- The source has sixteen instances; a negative number is one beyond them here. -/
  lastSentGameStateFrame : UInt32 → UInt32 := fun _ => 0

/-- The number of instances. -/
def kInstances : UInt32 := 16

namespace StateSyncRuntime

/-- A frame is sampled once in a row. -/
def beginGameStateSync (r : StateSyncRuntime) (instance_ frame : UInt32) :
    Option StateSyncRuntime :=
  if instance_ ≥ kInstances ∨ r.lastSentGameStateFrame instance_ = frame then none
  else
    some { r with
      lastSentGameStateFrame := Function.update r.lastSentGameStateFrame instance_ frame }

/-- A mismatch, if both sides are known and differ. -/
def compareGameStateHashes (r : StateSyncRuntime) (instance_ frame : UInt32) :
    Option GameStateHashMismatch :=
  match r.localGameStateHashes[gameStateKey instance_ frame]?,
    r.remoteState.findGameStateHashes instance_ frame with
  | some lhs, some remote =>
    if lhs.basic = remote.basic ∧ lhs.playerGlobal = remote.playerGlobal ∧
        lhs.wifiCandidate = remote.wifiCandidate ∧
        lhs.renderCandidate = remote.renderCandidate then none
    else some { instance_, frame, local_ := lhs, remote }
  | _, _ => none

/-- `RecordLocalGameStateHashes`, with the comparison. -/
def recordLocalGameStateHashes (r : StateSyncRuntime) (instance_ frame : UInt32)
    (hashes : GameStateSyncHashes) : StateSyncRuntime × Option GameStateHashMismatch :=
  let r := { r with
    localGameStateHashes := r.localGameStateHashes.insert (gameStateKey instance_ frame) hashes }
  (r, r.compareGameStateHashes instance_ frame)

/-- `RecordRemoteGameState`, with the comparison. -/
def recordRemoteGameState (r : StateSyncRuntime) (state : DecodedGameState) :
    StateSyncRuntime × Option GameStateHashMismatch :=
  let r := { r with remoteState := r.remoteState.storeGameState state }
  (r, r.compareGameStateHashes state.instance_ state.frame)

/-- What belongs to the instance is forgotten before its next game. -/
def resetForRestart (r : StateSyncRuntime) (instance_ : UInt32) : StateSyncRuntime :=
  if instance_ ≥ kInstances then r
  else
    { remoteState := {}
      localGameStateHashes := ∅
      lastSentGameStateFrame := Function.update r.lastSentGameStateFrame instance_ 0 }

end StateSyncRuntime

end Bigstar.Netplay.GameStateModel

namespace Bigstar.Netplay.GameStateSync

open GameStateModel TwoParty

/-- Which states are exchanged. -/
structure Config where
  /-- Netplay is on. -/
  enabled : Bool
  /-- Game states are exchanged. -/
  gameEnabled : Bool
  /-- The hashes of whole parts of the memory are taken too. -/
  gameExtended : Bool
  /-- The state of the peer is written into the own game. -/
  gameApplyEnabled : Bool
  /-- Of that state only what concerns the peer's player. -/
  gameApplyRemotePlayerOnly : Bool
  /-- A state is sent every so many frames. -/
  gameInterval : UInt32
  /-- The configuration clamps it to one at least. -/
  interval_pos : 0 < gameInterval

/-- What is read from the console: the words of the sample and the hashes of three ranges. -/
structure Reading where
  /-- The words of the sample. -/
  word : GameStateField → UInt32 := fun _ => 0
  /-- The hash over the memory of the players. -/
  playerGlobal : UInt64 := 0
  /-- The hash over the memory of the wireless protocol. -/
  wifiCandidate : UInt64 := 0
  /-- The hash over the memory of the renderer. -/
  renderCandidate : UInt64 := 0

/-- `ReadSample`. -/
def Reading.sample (reading : Reading) : GameStateSample :=
  { word := reading.word, hash := computeBasicGameStateHash { word := reading.word } }

/-- The hashes of `Sync`. -/
def Reading.hashes (config : Config) (reading : Reading) : GameStateSyncHashes :=
  if config.gameExtended then
    { basic := reading.sample.hash, playerGlobal := reading.playerGlobal
      wifiCandidate := reading.wifiCandidate, renderCandidate := reading.renderCandidate }
  else { basic := reading.sample.hash }

/-- What `Sync` records and sends. -/
def Reading.state (config : Config) (generation instance_ frame : UInt32) (reading : Reading) :
    DecodedGameState :=
  { generation, frame, instance_, sample := reading.sample, hashes := reading.hashes config }

/-- One side of the comparison. -/
structure Peer where
  /-- The hashes that it knows. -/
  runtime : StateSyncRuntime := {}
  /-- `Handshake.Generation()`. -/
  generation : UInt32 := 0
  /-- The start of this generation has been waited for and validated. -/
  sessionReady : Bool := false
  /-- The first frame of the game. -/
  sharedLogicalEpoch : UInt32 := 0
  /-- It can send. -/
  connected : Bool := false
  /-- Everything that was sampled so far, and everything that was reported, with its generation. -/
  sampled : List DecodedGameState := []
  /-- The mismatches that it has reported, with the generation at the time. -/
  reports : List (UInt32 × GameStateHashMismatch) := []

namespace Peer

/-- `ReportMismatchLocked`. -/
def report (a : Peer) : Option GameStateHashMismatch → Peer
  | none => a
  | some mismatch => { a with reports := a.reports ++ [(a.generation, mismatch)] }

/-- `Sync`. -/
def sync (config : Config) (instance_ frame : UInt32) (reading : Reading) (a : Peer) :
    Peer × List (List UInt8) :=
  if !config.enabled || !config.gameEnabled || !a.sessionReady || decide (instance_ ≥ kInstances)
      || decide (frame < a.sharedLogicalEpoch)
      || decide (frame % config.gameInterval ≠ 0) then (a, [])
  else
    match a.runtime.beginGameStateSync instance_ frame with
    | none => (a, [])
    | some runtime =>
      let state := reading.state config a.generation instance_ frame
      let (runtime, mismatch) := runtime.recordLocalGameStateHashes instance_ frame state.hashes
      let a := { a with runtime, sampled := a.sampled ++ [state] }.report mismatch
      (a, if a.connected then [encodeGameState state] else [])

/-- `HandleReceivedPacketLocked`. -/
def handleReceivedPacketLocked (bytes : List UInt8) (a : Peer) : Peer :=
  match decodeGameState bytes with
  | none => a
  | some decoded =>
    if !a.sessionReady || decoded.generation != a.generation then a
    else
      let (runtime, mismatch) := a.runtime.recordRemoteGameState decoded
      { a with runtime }.report mismatch

/-- The state of the other peer that `ApplyRemote` writes to the console. -/
def applyRemote (config : Config) (client : Bool) (instance_ frame : UInt32) (a : Peer) :
    Option (GameStateSample × UInt32) :=
  if !config.enabled || !config.gameApplyEnabled || (!config.gameApplyRemotePlayerOnly && !client)
      || decide (instance_ ≥ kInstances) || !a.sessionReady
      || decide (frame < a.sharedLogicalEpoch) then none
  else a.runtime.remoteState.findLatestGameState instance_ frame

/-- The part of `ResetSyncStateForRestart` that is about game states: the next generation. -/
def resetSyncStateForRestart (instance_ : UInt32) (a : Peer) : Peer :=
  if instance_ ≥ kInstances then a
  else
    { a with
      runtime := a.runtime.resetForRestart instance_
      generation := a.generation + 1
      sessionReady := false }

end Peer

/-- Both peers, and the packets that each of them has sent. -/
abbrev State := Net Peer (List UInt8)

/-- A step of one peer or of the network. -/
inductive Op where
  /-- A frame is over: its state is hashed, compared and sent. -/
  | sync (p : Fin 2) (instance_ frame : UInt32) (reading : Reading)
  /-- One of the packets of the other peer arrives. -/
  | receive (p : Fin 2) (index : Nat)
  /-- The start handshake of the generation is over. -/
  | ready (p : Fin 2) (sharedLogicalEpoch : UInt32)
  /-- The next game begins. -/
  | restart (p : Fin 2) (instance_ : UInt32)
  /-- The connection comes or goes. -/
  | connection (p : Fin 2) (connected : Bool)

namespace State

/-- Both peers before anything was sent. -/
def init : State := { side := fun _ => {}, sent := fun _ => [] }

/-- The count of restarts is an `int`, which does not overflow. -/
def maxRestartCount : UInt32 := 0x7FFFFFFF

/-- `none` for a step that cannot happen. -/
def step (config : Config) (s : State) : Op → Option State
  | .sync p instance_ frame reading =>
    let (a, packets) := (s.side p).sync config instance_ frame reading
    some (s.put p a packets)
  | .receive p index =>
    (s.sent (other p))[index]?.map fun bytes =>
      s.put p ((s.side p).handleReceivedPacketLocked bytes)
  | .ready p sharedLogicalEpoch =>
    some (s.put p { s.side p with sessionReady := true, sharedLogicalEpoch })
  | .restart p instance_ =>
    if (s.side p).generation ≥ maxRestartCount then none
    else some (s.put p ((s.side p).resetSyncStateForRestart instance_))
  | .connection p connected => some (s.put p { s.side p with connected })

end State

end Bigstar.Netplay.GameStateSync
