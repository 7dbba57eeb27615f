import Bigstar.Netplay.InputTimeline

/-!
# Rolling back the game from inside the guest

`NSMLGameRAMRollback.h` and its users in `NDS.cpp`. The patched game calls into the emulator once
per game tick, just before it reads its input (the *gate*). There the emulator captures main RAM
into a ring of 16 checkpoints, or, when a correction has been armed, puts an older image back; the
guest then replays a short history of inputs within the same emulated frame.

Main RAM stands for the part of it that a restore rewinds, which is all of it but the control words
of the replay, the history itself and the data of the operating system. The game is a parameter: how
a tick changes main RAM, and where its frame counter is.
-/

namespace Bigstar.Netplay.GameRAMRollback

/-- `0xFFFFFFFF`, the display frame of no replay. -/
def noDisplayFrame : Nat := 0xFFFFFFFF

/-- A checkpoint precedes the input of `restoreFrame`, and the replay ends with the current
frame. -/
def requiredHistoryCount (restoreFrame currentFrame : Nat) : Nat :=
  if currentFrame < restoreFrame ∨ currentFrame = 0xFFFFFFFF then 0
  else
    let rollbackDepth := currentFrame - restoreFrame
    if rollbackDepth > 0xFFFFFFFD then 0 else rollbackDepth + 1

/-! ## The labels of the checkpoints -/

/-- The frame number that checkpoints are labelled with. -/
structure CheckpointFrameTimeline where
  /-- The labels are logical frames, not those of the emulator. -/
  active : Bool := false
  /-- The current logical frame. -/
  logicalFrame : Nat := 0

namespace CheckpointFrameTimeline

/-- Says whether the checkpoints so far belong to another timeline. -/
def setLogicalFrame (t : CheckpointFrameTimeline) (frame : Nat) : CheckpointFrameTimeline × Bool :=
  ({ active := true, logicalFrame := frame }, !t.active || decide (frame < t.logicalFrame))

/-- The label of a checkpoint that is captured now. -/
def captureFrame (t : CheckpointFrameTimeline) (rawFrame : Nat) : Nat :=
  if t.active then t.logicalFrame else rawFrame

end CheckpointFrameTimeline

/-- A rollback is over once its history has been replayed up to the gate behind the tick. -/
def canFinalizeTransaction (restorePending historyReachedExitGate historyEnabled : Bool)
    (historyIndex historyCount gameFrame historyStartFrame : Nat) : Bool :=
  if restorePending || historyCount == 0 then false
  else if !historyReachedExitGate && !historyEnabled then false
  else if historyIndex < historyCount || gameFrame < historyStartFrame then false
  else decide (historyCount ≤ gameFrame - historyStartFrame)

/-! ## The console -/

/-- The game: what one tick on an input of type `P` makes of main RAM, and the word of main RAM that
counts the ticks (`0x0208B668`). -/
structure Guest (S P : Type) where
  /-- One tick of the game with a packet of inputs. -/
  tick : S → P → S
  /-- The counter of ticks in the game's memory. -/
  gameFrame : S → Nat

/-- The memory of the game at a gate, with the pages that have changed since. -/
structure GameRAMCheckpoint (S : Type) where
  /-- It may be restored. -/
  valid : Bool := false
  /-- The frame that it is labelled with. -/
  displayFrame : Nat := 0
  /-- The counter of ticks in it. -/
  gameFrame : Nat := 0
  /-- `none` before the slot is first used. -/
  mainRAM : Option S := none

/-- The control words of the replay and its inputs, which live in guest memory. -/
structure History (P : Type) where
  /-- The magic word of the patched game is in place. -/
  magic : Bool := true
  /-- Ticks take their inputs from here. -/
  enabled : Bool := false
  /-- The next entry. -/
  index : Nat := 0
  /-- How many entries there are. -/
  count : Nat := 0
  /-- The frame that the replay leads to. -/
  target : Nat := 0
  /-- The counter of ticks at the first entry. -/
  startFrame : Nat := 0
  /-- The inputs of the ticks. -/
  entries : List P := []

/-- The fields of `NDS` that the rollback uses. -/
structure Nds (S P : Type) where
  /-- The memory of the game. -/
  mainRAM : S
  /-- The input that the guest reads when it is not replaying. -/
  scratch : P
  /-- The block that the patched game reads. -/
  history : History P := {}
  /-- A checkpoint is to be restored at the next gate. -/
  restorePending : Bool := false
  /-- What is to be restored. -/
  restoreData : Option S := none
  /-- The last tick of the history is over. -/
  historyReachedExitGate : Bool := false
  /-- The frame at which the replay began. -/
  replayDisplayStartFrame : Nat := noDisplayFrame
  /-- The slots of the ring. -/
  checkpoints : List (GameRAMCheckpoint S) := []
  /-- The slot that is filled next. -/
  nextCheckpoint : Nat := 0
  /-- How checkpoints are labelled. -/
  checkpointTimeline : CheckpointFrameTimeline := {}
  /-- The frames of the emulator so far. -/
  numFrames : Nat := 0

/-- The capacity of the ring. -/
def capacity : Nat := 16

namespace Nds

variable {S P : Type} (guest : Guest S P)

/-! ## The ring -/

/-- `NSMLGameRAMCheckpoints` is empty until the first capture. -/
def resizeCheckpoints (nds : Nds S P) : Nds S P :=
  if nds.checkpoints.length ≠ capacity then
    { nds with checkpoints := List.replicate capacity {}, nextCheckpoint := 0 }
  else nds

/-- The memory at the gate goes into the next slot. -/
def captureCheckpointAtGate (nds : Nds S P) (displayFrame : Nat) : Nds S P :=
  let nds := nds.resizeCheckpoints
  let checkpoint : GameRAMCheckpoint S := {
    valid := true
    displayFrame := displayFrame
    gameFrame := guest.gameFrame nds.mainRAM
    mainRAM := some nds.mainRAM }
  { nds with
    checkpoints := nds.checkpoints.set nds.nextCheckpoint checkpoint
    nextCheckpoint := (nds.nextCheckpoint + 1) % capacity }

/-- Labels the captures to come; a frame before the last one starts a new timeline. -/
def setCheckpointFrame (nds : Nds S P) (logicalFrame : Nat) : Nds S P :=
  match nds.checkpointTimeline.setLogicalFrame logicalFrame with
  | (timeline, false) => { nds with checkpointTimeline := timeline }
  | (timeline, true) =>
    { nds with
      checkpointTimeline := timeline
      checkpoints := nds.checkpoints.map fun checkpoint => { checkpoint with valid := false }
      nextCheckpoint := 0 }

/-- One round of the search for the latest checkpoint up to a frame. -/
def betterCheckpoint (frame : Nat) (best : Option (GameRAMCheckpoint S))
    (checkpoint : GameRAMCheckpoint S) : Option (GameRAMCheckpoint S) :=
  if !checkpoint.valid || checkpoint.mainRAM.isNone || decide (frame < checkpoint.displayFrame) then
    best
  else
    match best with
    | none => some checkpoint
    | some found => if found.displayFrame < checkpoint.displayFrame then some checkpoint else best

/-- The latest valid checkpoint at or before a frame. -/
def copyCheckpointAtOrBefore (nds : Nds S P) (frame : Nat) : Option (GameRAMCheckpoint S) :=
  nds.checkpoints.foldl (betterCheckpoint frame) none

/-- The locals of the loop of `DiscardNSMLGameRAMCheckpointsAfter`. -/
structure DiscardScan where
  /-- How many checkpoints have been discarded. -/
  discarded : Nat := 0
  /-- The slot of the earliest of them. -/
  firstDiscarded : Nat
  /-- The frame of that slot. -/
  firstDiscardedFrame : Nat := 0xFFFFFFFF

/-- The part of one round that picks the slot of the smallest discarded label. -/
def DiscardScan.visit (frame : Nat) (scan : DiscardScan) (index : Nat)
    (checkpoint : GameRAMCheckpoint S) : DiscardScan :=
  if !checkpoint.valid || decide (checkpoint.displayFrame ≤ frame) then scan
  else if checkpoint.displayFrame < scan.firstDiscardedFrame then
    { discarded := scan.discarded + 1
      firstDiscarded := index
      firstDiscardedFrame := checkpoint.displayFrame }
  else { scan with discarded := scan.discarded + 1 }

/-- The part of one round that invalidates the slot. -/
def discardCheckpoint (frame : Nat) (checkpoint : GameRAMCheckpoint S) : GameRAMCheckpoint S :=
  if !checkpoint.valid || decide (checkpoint.displayFrame ≤ frame) then checkpoint
  else { checkpoint with valid := false }

/-- The loop over the slots, from slot `index` on. -/
def discardLoop (frame : Nat) : List (GameRAMCheckpoint S) → Nat → DiscardScan → DiscardScan
  | [], _, scan => scan
  | checkpoint :: checkpoints, index, scan =>
    discardLoop frame checkpoints (index + 1) (scan.visit frame index checkpoint)

/-- Invalidates the checkpoints after a frame; the next capture takes the slot of the first of
them. -/
def discardCheckpointsAfter (nds : Nds S P) (frame : Nat) : Nds S P :=
  let scan := discardLoop frame nds.checkpoints 0 { firstDiscarded := nds.nextCheckpoint }
  { nds with
    checkpoints := nds.checkpoints.map (discardCheckpoint frame)
    nextCheckpoint := if scan.discarded ≠ 0 then scan.firstDiscarded else nds.nextCheckpoint }

/-! ## Transactions -/

/-- What the gate does: it carries out an armed restore, or captures a checkpoint. -/
def applyPendingGameRAMRestore (nds : Nds S P) : Nds S P :=
  if !nds.restorePending then
    if nds.history.enabled then
      if nds.history.index ≥ nds.history.count then
        { nds with
          historyReachedExitGate := true
          history := { nds.history with enabled := false } }
      -- the checkpoints that the correction discarded are rebuilt, but not the one it started from
      else if nds.history.index ≠ 0 ∧ nds.replayDisplayStartFrame ≠ noDisplayFrame then
        nds.captureCheckpointAtGate guest (u32 (nds.replayDisplayStartFrame + nds.history.index))
      else nds
    else if !nds.historyReachedExitGate then
      nds.captureCheckpointAtGate guest (nds.checkpointTimeline.captureFrame nds.numFrames)
    else nds
  else
    match nds.restoreData with
    | none => { nds with restorePending := false }
    | some image => { nds with mainRAM := image, restorePending := false, restoreData := none }

/-- A rollback has begun and is not over. -/
def isRollbackTransactionInFlight (nds : Nds S P) : Bool :=
  nds.restorePending || nds.historyReachedExitGate || nds.history.enabled

/-- `FinalizeNSMLGameRAMRollbackTransaction`, at the end of every emulated frame. -/
def finalizeRollbackTransaction (nds : Nds S P) : Nds S P :=
  if canFinalizeTransaction nds.restorePending nds.historyReachedExitGate nds.history.enabled
      nds.history.index nds.history.count (guest.gameFrame nds.mainRAM) nds.history.startFrame then
    { nds with
      history := { nds.history with
        enabled := false, index := 0, count := 0, target := 0, startFrame := 0 }
      historyReachedExitGate := false
      replayDisplayStartFrame := noDisplayFrame }
  else nds

/-- Arms a restore; refused while another transaction is in flight. -/
def scheduleGameRAMRestore (nds : Nds S P) (image : S) (displayStartFrame : Nat) :
    Option (Nds S P) :=
  if nds.isRollbackTransactionInFlight then none
  else
    some { nds with
      restoreData := some image
      historyReachedExitGate := false
      replayDisplayStartFrame := displayStartFrame
      restorePending := true }

/-! ## The guest -/

/-- One game tick: the gate, then the tick on the input of the replay or on the scratch input. The
guest counts the history up after each gate it passes in a replay. -/
def gameTick (nds : Nds S P) : Nds S P :=
  let nds := nds.applyPendingGameRAMRestore guest
  if nds.history.enabled then
    let input := nds.history.entries[nds.history.index]?.getD nds.scratch
    { nds with
      mainRAM := guest.tick nds.mainRAM input
      history := { nds.history with index := nds.history.index + 1 } }
  else { nds with mainRAM := guest.tick nds.mainRAM nds.scratch }

/-- How many ticks the guest runs in the coming frame: what is left of the history, else one. -/
def ticksInFrame (nds : Nds S P) : Nat :=
  if nds.history.enabled ∧ nds.history.index < nds.history.count then
    nds.history.count - nds.history.index
  else 1

/-- So many passages of the loop of the game. -/
def gameTicks : Nat → Nds S P → Nds S P
  | 0, nds => nds
  | rounds + 1, nds => gameTicks rounds (nds.gameTick guest)

/-- One emulated frame of the guest. -/
def runFrame (nds : Nds S P) : Nds S P :=
  let nds := nds.gameTicks guest nds.ticksInFrame
  { nds with numFrames := u32 (nds.numFrames + 1) }

end Nds

end Bigstar.Netplay.GameRAMRollback
