import Bigstar.Netplay.FrameLoop
import Bigstar.Netplay.GameRAMRollback
import Bigstar.Netplay.SessionPolicy

/-!
# The frame loop with the ROM-loop backend

What happens around one emulated frame when corrections are replayed inside the guest:
`SaveCheckpointIfNeeded`, the scratch write (`WritePacketBridgeJitScratchIfNeeded`),
`ResimulateIfNeeded`, the frame itself and the finalisation in `AfterRunFrame`.

The emulator counts raw frames, the packets logical ones; the start handshake fixes which raw frame
is the shared logical epoch. Remote inputs reach the timeline through the pumps of the main thread,
which pass on the raw frame, and through the pump thread, which passes on no frame and may run
whenever the mutex is free. A frame number never reaches `0xFFFFFFFF` here.
-/

namespace Bigstar.Netplay.RomLoop

open OrderedMap InputTimeline RollbackStorage RollbackRuntime GameRAMRollback

/-- A session after its start handshake, which leaves neither the ready frame nor the epoch zero. -/
structure Started where
  /-- `Config.Rollback`. -/
  config : RollbackConfig
  /-- The player of this console. -/
  localPlayer : Fin 2
  /-- The raw frame in which the game was ready. -/
  localReadyFrame : Nat
  /-- The logical frame that this raw frame is. -/
  sharedLogicalEpoch : Nat
  /-- The input delay. -/
  delay : Nat
  /-- Frame 0 means that there was no handshake. -/
  ready_pos : 0 < localReadyFrame
  /-- Epoch 0 means that none is known. -/
  epoch_pos : 0 < sharedLogicalEpoch
  /-- The epoch is a 32-bit number. -/
  epoch_le : sharedLogicalEpoch ≤ u32Max

namespace Started

/-- What the rollback functions read of it. -/
def context (start : Started) : Context where
  config := start.config
  netplayStartFrame := start.sharedLogicalEpoch
  localPlayer := start.localPlayer

/-- `LogicalFrame`. -/
def logicalFrame (start : Started) (rawFrame : Nat) : Nat :=
  SessionPolicy.logicalInputFrame true
    (some start.localReadyFrame) start.sharedLogicalEpoch rawFrame

end Started

/-- What the pump thread delivers at some point where the mutex is free. -/
def pumpThread (start : Started) (inputs : InputTimeline.Runtime) (arrivals : List Arrival) :
    InputTimeline.Runtime :=
  arrivals.foldl (storeRemoteInputLocked start.sharedLogicalEpoch start.config.enabled kNoFrame)
    inputs

/-- A console in a game that has started. -/
structure Session (S : Type) where
  /-- The inputs. -/
  inputs : InputTimeline.Runtime := {}
  /-- The console, with what the backend keeps in it. -/
  nds : Nds S (Fin 2 → InputState)
  /-- The next raw frame. -/
  rawFrame : Nat
  /-- The inputs that the guest was last given for each frame. -/
  used : NatMap ReplayFrameInputs := ∅

/-- What happens to the timeline from outside in the course of one frame. -/
structure FrameEvent where
  /-- The inputs received before `Resolve`, each by the main thread or by the pump thread. -/
  pumped : List (Arrival × Bool)
  /-- The local input. -/
  polled : InputState
  /-- The inputs received by the pump thread between `Resolve` and the first lock of
  `ResimulateIfNeeded`, between its two locks, and from there to the end of the frame. -/
  beforePlan : List Arrival
  /-- Between the two locks of `ResimulateIfNeeded`. -/
  beforeArm : List Arrival
  /-- From there to the end of the frame. -/
  beforeEnd : List Arrival

/-- `kRomLoopHistoryCapacity`. -/
def historyCapacity : Nat := 12

section Step

variable {S : Type} (guest : Guest S (Fin 2 → InputState)) (start : Started)

/-- `SaveCheckpointIfNeeded`: the gate captures the checkpoint, here it gets its label. -/
def saveCheckpointIfNeeded (s : Session S) (frame : Nat) : Session S :=
  if !start.config.enabled || decide (frame < start.sharedLogicalEpoch)
      || decide (start.config.window ≤ 0) then s
  else
    let s := { s with nds := s.nds.setCheckpointFrame frame }
    if !shouldSaveCheckpoint frame start.config.checkpointInterval start.sharedLogicalEpoch then s
    else { s with inputs := s.inputs.prunePredictions frame (windowFrames start.config) }

/-- A pump before `Resolve`. -/
def pumpOnce (rawFrame : Nat) (inputs : InputTimeline.Runtime) (received : Arrival × Bool) :
    InputTimeline.Runtime :=
  storeRemoteInputLocked start.sharedLogicalEpoch start.config.enabled
    (if received.2 then kNoFrame else rawFrame) inputs received.1

/-- `WaitForRollbackPredictionHorizon` lets the frame pass. The source also lets every frame pass
whose input is beyond the frames of a test (`IsPastTestInputRange`); no test limits the frames
here. -/
def horizonReached (inputs : InputTimeline.Runtime) (frame : Nat) : Bool :=
  if start.config.predictionHorizonFrames ≤ 0 then true
  else
    match inputs.unconfirmedRemoteFrameCountThrough frame with
    | none => true
    | some unconfirmed => unconfirmed ≤ start.config.predictionHorizonFrames.toNat

/-- The inputs of the frame are resolved and written to the guest's scratch area. -/
def writeScratch (s : Session S) (frame : Nat) (polled : InputState) : Session S :=
  let (inputs, frameInputs) := resolveLiveInputs start.context start.delay s.inputs frame polled
  { s with
    inputs := inputs
    nds := { s.nds with scratch := frameInputs.players }
    used := s.used.insert frame frameInputs }

/-- The inputs of the frames to replay, resolved one after the other. -/
def resolveHistory : List Nat → InputTimeline.Runtime →
    InputTimeline.Runtime × Option (List (Nat × ReplayFrameInputs))
  | [], inputs => (inputs, some [])
  | replayFrame :: frames, inputs =>
    match resolveReplayFrameInputs inputs replayFrame (start.localPlayer : Nat) neutralInput
        (replayProbe start.config) with
    | (inputs, none) => (inputs, none)
    | (inputs, some resolved) =>
      match resolveHistory frames inputs with
      | (inputs, none) => (inputs, none)
      | (inputs, some history) => (inputs, some ((replayFrame, resolved) :: history))

/-- The replay inputs as they are recorded. -/
def recordHistory (used : NatMap ReplayFrameInputs) (history : List (Nat × ReplayFrameInputs)) :
    NatMap ReplayFrameInputs :=
  history.foldl (fun used entry => used.insert entry.1 entry.2) used

/-- Schedules the restore, discards the checkpoints after it and writes the history to the guest. -/
def writeHistory (s : Session S) (checkpoint : GameRAMCheckpoint S) (image : S)
    (transactionFrames : Nat) (history : List (Nat × ReplayFrameInputs)) : Session S :=
  -- the replay inputs pass through the scratch area on their way into the history
  let scratch := (history.getLast?.map (·.2.players)).getD s.nds.scratch
  let nds := { s.nds with scratch := scratch }
  match nds.scheduleGameRAMRestore image checkpoint.displayFrame with
  | none => { s with nds := nds }
  | some nds =>
    let nds := nds.discardCheckpointsAfter checkpoint.displayFrame
    let control := { nds.history with
      enabled := true, index := 0, count := transactionFrames, target := 1
      startFrame := checkpoint.gameFrame, entries := history.map (·.2.players) }
    { s with nds := { nds with history := control }, used := recordHistory s.used history }

/-- The second half of the ROM-loop arm of `ResimulateIfNeeded`. -/
def armCorrection (s : Session S) (checkpoint : GameRAMCheckpoint S) (frame : Nat) : Session S :=
  let restoreFrame := checkpoint.displayFrame
  let transactionFrames := requiredHistoryCount restoreFrame frame
  match checkpoint.mainRAM with
  | none => s
  | some image =>
    if transactionFrames = 0 ∨ transactionFrames > historyCapacity ∨ checkpoint.gameFrame = kNoFrame
        ∨ !s.nds.history.magic then s
    else
      match resolveHistory start (List.range' restoreFrame transactionFrames) s.inputs with
      | (inputs, none) => { s with inputs := inputs }
      | (inputs, some history) =>
        writeHistory { s with inputs := inputs } checkpoint image transactionFrames history

/-- `ResimulateIfNeeded`; `none` where the process exits. -/
def resimulateIfNeeded (s : Session S) (frame : Nat) (beforeArm : List Arrival) :
    Option (Session S) :=
  if !start.config.enabled || !start.config.resimulate then some s
  else
    let s := { s with inputs := confirmPredictionProbeLocked start.context frame s.inputs }
    if s.nds.isRollbackTransactionInFlight then
      some { s with inputs := pumpThread start s.inputs beforeArm }
    else
      match planResimulation start.config s.inputs.rollbackInputs frame with
      | .wait => some { s with inputs := pumpThread start s.inputs beforeArm }
      | .exit => none
      | .consume =>
        some { s with inputs := pumpThread start s.inputs.clearPendingRollback beforeArm }
      | .resimulate mismatchFrame =>
        let cleared :=
          { s with inputs := pumpThread start s.inputs.clearPendingRollback beforeArm }
        match s.nds.copyCheckpointAtOrBefore mismatchFrame with
        | none => some cleared
        | some checkpoint => some (armCorrection start cleared checkpoint frame)

/-- One frame from `BeforeRunFrame` to `AfterRunFrame`. -/
def frame (s : Session S) (event : FrameEvent) : Option (Session S) :=
  let frame := start.logicalFrame s.rawFrame
  if frame ≥ u32Max then none
  else
    let s := saveCheckpointIfNeeded start s frame
    let s := { s with inputs := event.pumped.foldl (pumpOnce start s.rawFrame) s.inputs }
    if !horizonReached start s.inputs frame then none
    else
      let s := writeScratch start s frame event.polled
      let s := { s with inputs := pumpThread start s.inputs event.beforePlan }
      match resimulateIfNeeded start s frame event.beforeArm with
      | none => none
      | some s =>
        some { s with
          inputs := pumpThread start s.inputs event.beforeEnd
          nds := (s.nds.runFrame guest).finalizeRollbackTransaction guest
          rawFrame := s.rawFrame + 1 }

end Step

end Bigstar.Netplay.RomLoop
