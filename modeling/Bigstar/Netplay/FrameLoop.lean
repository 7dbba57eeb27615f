import Bigstar.Netplay.RollbackRuntime

/-!
# The frame loop over a checkpoint store

What `BeforeRunFrame` does around one emulated frame for a backend that keeps its checkpoints in the
store, with the frame number of the emulator and the logical frame number of the input packets being
the same. The network may deliver a remote input at any point: through a pump of the main thread,
which knows the current frame, or through the pump thread, which does not.

The frame counter does not wrap here.
-/

namespace Bigstar.Netplay.RollbackRuntime

open OrderedMap InputTimeline RollbackStorage

/-- A remote input on its way to the timeline. -/
structure Arrival where
  /-- The frame of the input. -/
  frame : Nat
  /-- The input of the peer. -/
  input : InputState

/-- `StoreRemoteInputLocked` once the epoch has been checked. -/
def storeArrival (localFrame : Option Nat) (inputs : InputTimeline.Runtime) (arrival : Arrival) :
    InputTimeline.Runtime :=
  (inputs.storeRemote arrival.frame arrival.input localFrame true kNoFrame).1

/-- `StoreRemoteInputLocked`: inputs from before the shared epoch are ignored once it is known, and
a local frame of 0 is none. -/
def storeRemoteInputLocked (sharedLogicalEpoch : Nat) (rollbackEnabled : Bool) (localFrame : Nat)
    (inputs : InputTimeline.Runtime) (arrival : Arrival) : InputTimeline.Runtime :=
  if sharedLogicalEpoch ≠ 0 ∧ arrival.frame < sharedLogicalEpoch then inputs
  else
    let localFrame := if localFrame = kNoFrame then none else some localFrame
    (inputs.storeRemote arrival.frame arrival.input localFrame rollbackEnabled kNoFrame).1

/-- The inputs of both players for a frame that is run for the first time
(`WritePacketBridgeJitScratchIfNeeded`): the polled input is recorded `delay` frames ahead, and the
remote one is resolved. -/
def resolveLiveInputs (context : Context) (delay : Nat)
    (inputs : InputTimeline.Runtime) (frame : Nat)
    (polled : InputState) : InputTimeline.Runtime × ReplayFrameInputs :=
  let inputs := { inputs with localInputs := inputs.localInputs.insert (frame + delay) polled }
  let localInput := inputs.localInput frame neutralInput
  let (inputs, remote) := inputs.resolve frame neutralInput (predictionProbe context.config)
  (inputs, {
    localInput := localInput
    remoteInput := remote.input
    players := fun player => if player = context.localPlayer then localInput else remote.input
    remotePredicted := remote.predicted })

/-- The rollback runtime and the frame that is to be run. -/
structure Session (σ β : Type) where
  /-- The state of the rollback. -/
  state : State σ β
  /-- The frame that is run next. -/
  currentFrame : Nat

/-- The parts of a frame, in the order of `Run`. -/
inductive SessionOp where
  /-- `ResimulateIfNeeded` of the current frame. -/
  | resimulate
  /-- `SaveCheckpointIfNeeded` of the current frame. -/
  | saveCheckpoint
  /-- A remote input arrives between two frames. -/
  | storeRemote (arrival : Arrival) (fromPumpThread : Bool)
  /-- The current frame is resolved and run; the pump thread may deliver inputs in between. -/
  | runFrame (polled : InputState) (late : List Arrival)

namespace Session

variable {σ β : Type} (context : Context) (console : Console σ β) (delay : Nat)

/-- The inputs are resolved and recorded, late ones arrive, and the console runs the frame. -/
def runFrame (s : Session σ β) (polled : InputState) (late : List Arrival) : Session σ β :=
  let (inputs, frameInputs) :=
    resolveLiveInputs context delay s.state.inputs s.currentFrame polled
  { state := { s.state with
      inputs := late.foldl (storeArrival none) inputs
      console := console.runFrame s.state.console frameInputs.players
      used := s.state.used.insert s.currentFrame frameInputs }
    currentFrame := s.currentFrame + 1 }

/-- One part of a frame. -/
def step (s : Session σ β) : SessionOp → Session σ β
  | .resimulate => { s with state := (resimulateIfNeeded context console s.state s.currentFrame).1 }
  | .saveCheckpoint =>
    { s with state := saveCheckpointIfNeeded context console s.state s.currentFrame }
  | .storeRemote arrival fromPumpThread =>
    let localFrame := if fromPumpThread then none else some s.currentFrame
    { s with state := { s.state with
        inputs := storeArrival localFrame s.state.inputs arrival } }
  | .runFrame polled late => s.runFrame context console delay polled late

end Session

end Bigstar.Netplay.RollbackRuntime
