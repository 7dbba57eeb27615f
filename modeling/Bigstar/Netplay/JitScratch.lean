import Bigstar.Lib.Arm
import Bigstar.Netplay.GameRAMRollback
import Bigstar.Netplay.RollbackStore

/-!
# The scratch area of the guest

`WriteJitScratchInputs` puts the inputs of one frame where the patched game reads them.
`ResimulateIfNeeded` runs the same function once for every frame that a ROM-loop correction replays
and copies the result into the history of the guest.

The hook `ApplyAutomatedInput` lets a computer player (off unless configured) replace an input; what
it does depends on its own memory and on the game, so it is given anew for every call.
-/

namespace Bigstar.Netplay.JitScratch

open Arm LittleEndian GameRAMRollback RollbackStorage

/-- The tick of the packet that the guest assembles. -/
def kNetPacketTickAddr : Nat := 0x020888E0
/-- The action of that packet. -/
def kNetPacketActionAddr : Nat := 0x020888E4
/-- The tick of the inputs in the scratch memory. -/
def scratchTickAddr : Nat := 0x023C1200
/-- Their action. -/
def scratchActionAddr : Nat := 0x023C1204
/-- The pressed keys of both players. -/
def scratchKeysAddr : Nat := 0x023C1208
/-- The packets of both players. -/
def scratchPacketsAddr : Nat := 0x023C1240

/-- The bit of the X button. -/
def kInputKeyXMask : UInt32 := 0x400
/-- Where the stock item is on the touch screen, from the left. -/
def kMvlStockItemTouchX : UInt16 := 217
/-- Where it is, from the top. -/
def kMvlStockItemTouchY : UInt16 := 153

/-- `ConvertStockXToTouch`, the hook `PrepareRuntimeInput`. -/
def convertStockXToTouch (input : InputState) : InputState :=
  if input.keyMask &&& kInputKeyXMask ≠ 0 then input
  else
    let input := { input with keyMask := input.keyMask ||| kInputKeyXMask }
    if !input.touching then
      { input with touching := true, touchX := kMvlStockItemTouchX, touchY := kMvlStockItemTouchY }
    else input

/-- The configuration that the scratch write reads. -/
structure ScratchConfig where
  /-- Only the inputs come from the network. -/
  inputNetplayOnly : Bool
  /-- The first frame of the game. -/
  sharedLogicalEpoch : Nat

/-- The frame determines the packet tick. -/
def ScratchConfig.canonical (config : ScratchConfig) (frame : Nat) : Bool :=
  config.inputNetplayOnly && config.sharedLogicalEpoch != 0 &&
    decide (config.sharedLogicalEpoch ≤ frame)

/-- `ApplyAutomatedInput` in one call. -/
abbrev Automation := Fin 2 → InputState → InputState

/-- The buttons as the game reads them, active high. -/
def keysOf (input : InputState) : Nat := (~~~input.keyMask &&& 0xFFF).toNat

/-- The action and the touch screen in a packet, at offset 4. -/
def metadataBytes (action : UInt8) (input : InputState) : List UInt8 :=
  [action, if input.touching then 1 else 0, UInt8.ofNat (min input.touchX.toNat 255),
    UInt8.ofNat (min input.touchY.toNat 191)]

/-- A packet of 52 bytes; what follows the inputs is copied from the game. -/
def packet (mem : Memory) (tick : Nat) (action : UInt8) (input : InputState) : List UInt8 :=
  toBytes 2 tick ++ toBytes 2 (keysOf input) ++ metadataBytes action input ++
    (List.range 44).map fun index =>
      if 8 + index = 0x29 then mem 0x02088A4C else mem (0x020888E8 + index)

/-- The body of the loop over the players. -/
def writePlayer (tick : Nat) (action : UInt8) (input : Fin 2 → InputState) (mem : Memory)
    (player : Fin 2) : Memory :=
  let mem := store 2 mem (scratchKeysAddr + player * 2) (keysOf (input player))
  storeBytes mem (scratchPacketsAddr + player * 0x40) (packet mem tick action (input player))

/-- `WriteJitScratchInputs`: the inputs of a frame, where the patched game reads them. -/
def writeJitScratchInputs (config : ScratchConfig) (automated : Automation)
    (frame : Nat) (mem : Memory)
    (localPlayer : Fin 2) (localInput remoteInput : InputState) (hasRemoteInput : Bool) : Memory :=
  let (tick, mem) :=
    if config.canonical frame then
      let tick := (frame - config.sharedLogicalEpoch) % 0x10000
      (tick, store 2 mem kNetPacketTickAddr tick)
    else (load 2 mem kNetPacketTickAddr, mem)
  let action := mem kNetPacketActionAddr
  let mem := store 2 mem scratchTickAddr tick
  let mem := store 1 mem scratchActionAddr action.toNat
  let input := fun player => automated player
    (convertStockXToTouch
      (selectPlayerInput player localPlayer localInput remoteInput hasRemoteInput))
  writePlayer tick action input (writePlayer tick action input mem 0) 1

/-! ## The history of a correction -/

/-- An entry of the history; the scratch area presents one to the game. -/
structure ReplayInput where
  /-- The tick of the frame. -/
  tick : Nat
  /-- The keys of player 0. -/
  keys0 : Nat
  /-- The keys of player 1. -/
  keys1 : Nat
  /-- The touch and the action of player 0. -/
  player0Metadata : Nat
  /-- The touch and the action of player 1. -/
  player1Metadata : Nat
  deriving DecidableEq

/-- What the scratch area holds. -/
def readScratch (mem : Memory) : ReplayInput where
  tick := load 2 mem scratchTickAddr
  keys0 := load 2 mem scratchKeysAddr
  keys1 := load 2 mem (scratchKeysAddr + 2)
  player0Metadata := load 4 mem (scratchPacketsAddr + 4)
  player1Metadata := load 4 mem (scratchPacketsAddr + 0x40 + 4)

/-- Where the patched ROM has its magic word. -/
def kRomLoopMagicAddress : Nat := 0x02001AC8
/-- The magic word. -/
def kRomLoopMagic : Nat := 0x32505447
/-- Whether frames are to be replayed. -/
def kRomLoopHistoryEnabledAddress : Nat := 0x02001ACC
/-- The next entry that is replayed. -/
def kRomLoopHistoryIndexAddress : Nat := 0x02001AD0
/-- How many entries there are. -/
def kRomLoopHistoryCountAddress : Nat := 0x02001AD4
/-- The frame that the replay leads to. -/
def kRomLoopHistoryTargetAddress : Nat := 0x02001AD8
/-- The frame of the first entry. -/
def kRomLoopHistoryStartFrameAddress : Nat := 0x02001ADC
/-- The first entry. -/
def kRomLoopHistoryAddress : Nat := 0x023C1300
/-- The size of an entry in bytes. -/
def kRomLoopHistoryEntrySize : Nat := 16
/-- The most entries. -/
def kRomLoopHistoryCapacity : Nat := 12

/-- The scratch area is written and read once for each replayed frame. -/
def replayInputs (config : ScratchConfig) (automated : Nat → Automation) (localPlayer : Fin 2) :
    Nat → List InputTimeline.ReplayFrameInputs → Memory → List ReplayInput × Memory
  | _, [], mem => ([], mem)
  | replayFrame, inputs :: resolvedInputs, mem =>
    let mem := writeJitScratchInputs config (automated replayFrame) replayFrame mem localPlayer
      inputs.localInput inputs.remoteInput true
    let (entries, last) := replayInputs config automated localPlayer
      (replayFrame + 1) resolvedInputs mem
    (readScratch mem :: entries, last)

/-- The address of an entry. -/
def entryAddress (index : Nat) : Nat := kRomLoopHistoryAddress + index * kRomLoopHistoryEntrySize

/-- One entry is written. -/
def writeEntry (mem : Memory) (index : Nat) (entry : ReplayInput) : Memory :=
  let mem := store 2 mem (entryAddress index) entry.tick
  let mem := store 2 mem (entryAddress index + 2) entry.keys0
  let mem := store 2 mem (entryAddress index + 4) entry.keys1
  let mem := store 2 mem (entryAddress index + 6) 0
  let mem := store 4 mem (entryAddress index + 8) entry.player0Metadata
  store 4 mem (entryAddress index + 12) entry.player1Metadata

/-- The entry as the gate of the guest reads it. -/
def readEntry (mem : Memory) (index : Nat) : ReplayInput where
  tick := load 2 mem (entryAddress index)
  keys0 := load 2 mem (entryAddress index + 2)
  keys1 := load 2 mem (entryAddress index + 4)
  player0Metadata := load 4 mem (entryAddress index + 8)
  player1Metadata := load 4 mem (entryAddress index + 12)

/-- Entries are written one after the other. -/
def writeEntries : Nat → List ReplayInput → Memory → Memory
  | _, [], mem => mem
  | index, entry :: entries, mem => writeEntries (index + 1) entries (writeEntry mem index entry)

/-- A correction of the frames from a checkpoint to the current one, with the inputs that are
resolved for them. -/
structure Correction where
  /-- The configuration of the scratch memory. -/
  config : ScratchConfig
  /-- The automated actions of a frame. -/
  automated : Nat → Automation
  /-- The player of this side. -/
  localPlayer : Fin 2
  /-- The frame that is restored. -/
  restoreFrame : Nat
  /-- The frame that is to be reached again. -/
  frame : Nat
  /-- The game frame of the checkpoint. -/
  gameFrame : Nat
  /-- The inputs of the frames between them. -/
  resolvedInputs : List InputTimeline.ReplayFrameInputs
  /-- There is one for each frame. -/
  length_resolvedInputs : resolvedInputs.length = requiredHistoryCount restoreFrame frame

/-- The guest's memory when the correction is armed, if it is; the restore itself is scheduled. -/
def Correction.arm (c : Correction) (mem : Memory) : Option Memory :=
  let transactionFrames := requiredHistoryCount c.restoreFrame c.frame
  if transactionFrames = 0 ∨ transactionFrames > kRomLoopHistoryCapacity ∨ c.gameFrame = kNoFrame
      ∨ load 4 mem kRomLoopMagicAddress ≠ kRomLoopMagic then none
  else
    let (entries, mem) := replayInputs c.config c.automated c.localPlayer c.restoreFrame
      c.resolvedInputs mem
    let mem := store 4 mem kRomLoopHistoryIndexAddress 0
    let mem := store 4 mem kRomLoopHistoryCountAddress transactionFrames
    let mem := store 4 mem kRomLoopHistoryTargetAddress 1
    let mem := store 4 mem kRomLoopHistoryStartFrameAddress c.gameFrame
    let mem := writeEntries 0 entries mem
    let mem := store 4 mem kRomLoopHistoryEnabledAddress 1
    let mem := store 4 mem 0x02001AC4 0
    some (store 4 mem 0x02001AC0 0)

/-- What the scratch area presents when a frame is executed once, with the memory and the computer
players of its own time. -/
def presented (c : Correction) (mem : Memory) (automated : Automation) (frame : Nat)
    (inputs : InputTimeline.ReplayFrameInputs) : ReplayInput :=
  readScratch (writeJitScratchInputs c.config automated frame mem c.localPlayer inputs.localInput
    inputs.remoteInput true)

end Bigstar.Netplay.JitScratch
