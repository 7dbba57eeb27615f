import Bigstar.Netplay.RomLoop

/-!
# The trace of confirmed game ticks

`PrepareRollbackTickTrace` and `FlushRollbackTickTrace` of `NsmbMvlNetplayRuntime.cpp`: at every
capture of a checkpoint a callback takes a sample of the game, and samples are written out once the
inputs that they depend on are confirmed. A correction drops the samples after the checkpoint that
it starts from.

What a sample holds is a parameter. The environment variable that names the file is set here.
-/

namespace Bigstar.Netplay.RollbackTickTrace

open OrderedMap InputTimeline RollbackRuntime GameRAMRollback

/-- `GameStateTraceWriter` for one instance, with the rows of the open file. -/
structure Writer (T : Type) where
  /-- A file is open. -/
  isOpen : Bool := false
  /-- The frame of the last row. -/
  lastWrittenFrame : Nat := 0
  /-- The rows of the file. -/
  rows : List (Nat × T) := []

/-- The file is truncated. -/
def Writer.openFile (T : Type) (canOpen : Bool) : Writer T where
  isOpen := canOpen

/-- One row for each frame. -/
def Writer.write {T : Type} (writer : Writer T) (frame : Nat) (sample : T) : Writer T :=
  if !writer.isOpen || writer.lastWrittenFrame == frame then writer
  else { writer with lastWrittenFrame := frame, rows := writer.rows ++ [(frame, sample)] }

/-- `RollbackTickTrace`, with the callback of the console. -/
structure Trace (T : Type) where
  /-- The generation that is traced. -/
  generation : Nat := 0xFFFFFFFF
  /-- The last frame that was written. -/
  writtenThrough : Nat := 0
  /-- The samples that are not confirmed. -/
  pending : NatMap T := ∅
  /-- The file. -/
  writer : Writer T := {}
  /-- The generation that `NSMLGameRAMCheckpointCallback` was made for, if there is a callback. -/
  callback : Option Nat := none

namespace Trace

variable {T : Type}

/-- A new generation, or a console without callback, starts a new file. -/
def prepare (trace : Trace T) (generation : Nat) (canOpen : Bool) : Trace T :=
  if trace.generation ≠ generation ∨ trace.callback = none then
    { generation := generation
      writer := Writer.openFile T canOpen
      callback := some generation }
  else trace

/-- The callback. -/
def capture (trace : Trace T) (generation frame : Nat) (sample : T) : Trace T :=
  match trace.callback with
  | none => trace
  | some made =>
    if generation ≠ made ∨ frame ≤ trace.writtenThrough then trace
    else { trace with pending := trace.pending.insert frame sample }

/-- What `BeforeRunFrame` does after `ResimulateIfNeeded`. -/
def invalidateSuffix {S P : Type} (trace : Trace T) (nds : Nds S P) : Trace T :=
  if nds.restorePending then
    { trace with pending := trace.pending.eraseAfter nds.replayDisplayStartFrame }
  else trace

/-- A sample depends on the inputs before its frame only; a mismatch that is still to be corrected
makes those after it wrong. -/
def publishableThrough (inputs : InputTimeline.Runtime) : Option Nat :=
  inputs.highestContiguousRemoteFrame.map fun confirmed =>
    match inputs.rollbackInputs.pendingRollbackFrame with
    | some mismatch => min (u32 (confirmed + 1)) mismatch
    | none => u32 (confirmed + 1)

/-- One round of the loop of `FlushRollbackTickTrace`. -/
def publish (trace : Trace T) (row : Nat × T) : Trace T :=
  { trace with
    writer := trace.writer.write row.1 row.2
    writtenThrough := row.1
    pending := trace.pending.erase row.1 }

/-- The samples that are confirmed by now are written. -/
def flush (trace : Trace T) (generation : Nat) (inFlight : Bool) (inputs : InputTimeline.Runtime) :
    Trace T :=
  if !trace.writer.isOpen || trace.generation != generation || inFlight then trace
  else
    match publishableThrough inputs with
    | none => trace
    | some through => (trace.pending.eraseAfter through).toList.foldl publish trace

end Trace

/-! ## The gates of a frame -/

section Gate

variable {S P T : Type} (guest : Guest S P) (readGameStateSample : S → T) (generation : Nat)

/-- The frame under which the gate captures a checkpoint, if it does. -/
def capturedFrame (nds : Nds S P) : Option Nat :=
  if nds.restorePending then none
  else if nds.history.enabled then
    if nds.history.index ≥ nds.history.count then none
    else if nds.history.index ≠ 0 ∧ nds.replayDisplayStartFrame ≠ noDisplayFrame then
      some (u32 (nds.replayDisplayStartFrame + nds.history.index))
    else none
  else if nds.historyReachedExitGate then none
  else some (nds.checkpointTimeline.captureFrame nds.numFrames)

/-- The callback at one gate. -/
def gate (nds : Nds S P) (trace : Trace T) : Trace T :=
  match capturedFrame nds with
  | none => trace
  | some frame => trace.capture generation frame (readGameStateSample nds.mainRAM)

/-- The callbacks at the gates of the coming game ticks. -/
def gates : Nat → Nds S P → Trace T → Trace T
  | 0, _, trace => trace
  | rounds + 1, nds, trace =>
    gates rounds (nds.gameTick guest) (gate readGameStateSample generation nds trace)

end Gate

/-! ## The frame loop with the trace -/

section Step

variable {S T : Type} (guest : Guest S (Fin 2 → InputState)) (readGameStateSample : S → T)
  (start : RomLoop.Started) (generation : Nat)

/-- `RomLoop.frame` up to `ResimulateIfNeeded`. -/
def beforeRunFrame (s : RomLoop.Session S) (event : RomLoop.FrameEvent) :
    Option (RomLoop.Session S) :=
  let frame := start.logicalFrame s.rawFrame
  if frame ≥ u32Max then none
  else
    let s := RomLoop.saveCheckpointIfNeeded start s frame
    let s := { s with inputs := event.pumped.foldl (RomLoop.pumpOnce start s.rawFrame) s.inputs }
    if !RomLoop.horizonReached start s.inputs frame then none
    else
      let s := RomLoop.writeScratch start s frame event.polled
      let s := { s with inputs := RomLoop.pumpThread start s.inputs event.beforePlan }
      RomLoop.resimulateIfNeeded start s frame event.beforeArm

/-- The rest of `RomLoop.frame`. -/
def afterRunFrame (s : RomLoop.Session S) (event : RomLoop.FrameEvent) : RomLoop.Session S :=
  { s with
    inputs := RomLoop.pumpThread start s.inputs event.beforeEnd
    nds := (s.nds.runFrame guest).finalizeRollbackTransaction guest
    rawFrame := s.rawFrame + 1 }

/-- A game whose ticks are traced. -/
structure Session (S T : Type) where
  /-- The game. -/
  game : RomLoop.Session S
  /-- The trace. -/
  trace : Trace T

/-- What can happen between two frames, and the frames. -/
inductive Op where
  /-- One frame. The flag says whether a file could be opened. -/
  | frame (event : RomLoop.FrameEvent) (canOpen : Bool)
  /-- The pump thread receives inputs between two frames. -/
  | receive (arrivals : List Arrival)
  /-- A further call of `FlushRollbackTickTrace`. -/
  | flush

namespace Session

/-- `FlushRollbackTickTrace`. -/
def flush (s : Session S T) : Session S T :=
  { s with
    trace := s.trace.flush generation s.game.nds.isRollbackTransactionInFlight s.game.inputs }

/-- A frame, with the trace prepared before it, led back after a correction, and written at its
end. -/
def frame (s : Session S T) (event : RomLoop.FrameEvent) (canOpen : Bool) : Option (Session S T) :=
  let trace := s.trace.prepare generation canOpen
  (beforeRunFrame start s.game event).map fun game =>
    let trace := trace.invalidateSuffix game.nds
    let trace := gates guest readGameStateSample generation game.nds.ticksInFrame game.nds trace
    flush generation { game := afterRunFrame guest start game event, trace := trace }

/-- One frame, or inputs that arrive between two. -/
def step (s : Session S T) : Op → Option (Session S T)
  | .frame event canOpen => s.frame guest readGameStateSample start generation event canOpen
  | .receive arrivals =>
    some { s with game := { s.game with
      inputs := RomLoop.pumpThread start s.game.inputs arrivals } }
  | .flush => some (s.flush generation)

end Session

end Step

end Bigstar.Netplay.RollbackTickTrace
