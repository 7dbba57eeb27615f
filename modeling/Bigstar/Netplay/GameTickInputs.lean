import Bigstar.Netplay.InputExchange

/-!
# Inputs per game tick

`NsmbPacketBridgeRuntime.cpp` and `QueueGameTickInputs`: without rollback, an emulated frame does
not write its inputs to the guest. It queues them, once the remote input has arrived, and the guest
takes one entry of the queue in each of its game ticks. Frames and ticks are independent: a tick may
take longer than a frame, and several ticks may fit into one.

What cannot go on ends the process.
-/

namespace Bigstar.Netplay.PacketBridge

open OrderedMap InputTimeline InputExchange

/-- The inputs of one tick of the game. -/
structure GameTickInput where
  /-- The frame of the tick. -/
  frame : Nat
  /-- The input of this side. -/
  localInput : InputState
  /-- The input of the peer. -/
  remoteInput : InputState
  /-- The input of the peer is known. -/
  hasRemote : Bool
  deriving DecidableEq

/-- The inputs that wait for the ticks of the game. -/
structure GameTickInputQueue where
  /-- The game that they belong to. -/
  generation : Nat := u32Max
  /-- In the order of their frames. -/
  inputs : List GameTickInput := []
  /-- The newest frame that was queued. -/
  lastQueuedFrame : Option Nat := none
  /-- The newest frame that a tick has taken. -/
  appliedFrame : Option Nat := none
  deriving DecidableEq

namespace GameTickInputQueue

/-- The most inputs that wait. -/
def capacity : Nat := 2048

/-- An empty queue for a game. -/
def reset (generation : Nat) : GameTickInputQueue := { generation }

/-- Refuses an entry that is not for the frame after the last one, and any entry when full. -/
def enqueue (queue : GameTickInputQueue) (input : GameTickInput) : Option GameTickInputQueue :=
  if queue.inputs.length ≥ capacity ∨
      (∃ last ∈ queue.lastQueuedFrame, input.frame ≠ u32 (last + 1)) then none
  else some { queue with inputs := queue.inputs ++ [input], lastQueuedFrame := some input.frame }

/-- The next tick takes the first input. -/
def consume (queue : GameTickInputQueue) : GameTickInputQueue × Option GameTickInput :=
  match queue.inputs with
  | [] => (queue, none)
  | input :: inputs => ({ queue with inputs, appliedFrame := some input.frame }, some input)

end GameTickInputQueue

/-! ## The guest of one peer -/

/-- One peer's queue and guest. -/
structure Game where
  /-- The inputs that wait. -/
  queue : GameTickInputQueue
  /-- The generation for which `NSMLGameStageCallback` was installed, if it is. -/
  callback : Option Nat
  /-- The frame whose inputs are being collected, with its local input. -/
  waiting : Option (Nat × InputState) := none
  /-- The inputs of both players that the game ticks of this generation were given. -/
  applied : List (Fin 2 → InputState) := []
  /-- The results scene has been reached; it is left by way of the next generation. -/
  paused : Bool := false
  /-- The process has ended. -/
  stopped : Bool := false

namespace Game

/-- `FailGameTickInputs`. -/
def fail (g : Game) : Game := { g with stopped := true }

/-- `QueueGameTickInputs`. What an earlier generation left in the queue is thrown away. -/
def queueGameTickInputs (generation : Nat) (gateSupported : Bool) (g : Game)
    (input : GameTickInput) : Game :=
  let restart := g.queue.generation ≠ generation ∨ g.callback = none
  if restart ∧ !gateSupported then g.fail
  else
    let queue := if restart then GameTickInputQueue.reset generation else g.queue
    match queue.enqueue input with
    | none => { g with queue := queue }.fail
    | some queue => { g with queue := queue, callback := some generation }

/-- The callback for the marker that opens a game tick. -/
def gameTick (generation : Nat) (localPlayer : Fin 2) (g : Game) : Game :=
  if g.callback = some generation then
    let (queue, input) := g.queue.consume
    let g := { g with queue }
    match input with
    | none => g.fail
    | some input =>
      let players := fun player =>
        selectPlayerInput player localPlayer input.localInput input.remoteInput input.hasRemote
      { g with applied := g.applied ++ [players] }
  else g

/-- `pauseInputNetplayForRestart`. -/
def pause (g : Game) : Game := { g with callback := none, paused := true }

end Game

/-! ## Both peers -/

/-- Two consoles with their exchange of inputs. -/
structure Session where
  /-- The exchange. -/
  net : InputExchange.State
  /-- The two games. -/
  game : Fin 2 → Game

/-- A step of one console or of the network. -/
inductive SessionOp where
  /-- The network, and the start handshake: everything but the sampling of inputs. -/
  | network (op : InputExchange.Op)
  /-- An emulated frame begins: its input is sampled, recorded and sent. -/
  | beginFrame (p : Fin 2) (input : InputState) (bundleHistory : Int) (connected : Bool)
  /-- The remote input of the frame is there, and the inputs of both players are queued. -/
  | queueFrame (p : Fin 2) (gateSupported : Bool)
  /-- The guest of a peer begins a game tick. -/
  | gameTick (p : Fin 2)
  /-- The console runs a frame without a tick of the game. -/
  | pause (p : Fin 2)

/-- What the generations before have left behind on one peer. -/
structure Leftover (m : Match) where
  /-- The queue. -/
  queue : GameTickInputQueue
  /-- The game that the callback was installed for. -/
  callback : Option Nat
  /-- The queue belongs to another game. -/
  queue_old : queue.generation ≠ m.generation
  /-- So does the callback. -/
  callback_old : callback ≠ some m.generation

namespace Session

/-- Before the game, with what an earlier one may have left. -/
def init {m : Match} (leftover : Fin 2 → Leftover m) : Session :=
  { net := InputExchange.State.init
    game := fun p => { queue := (leftover p).queue, callback := (leftover p).callback } }

/-- Puts the guest of peer `p` in state `g`. -/
def put (s : Session) (p : Fin 2) (g : Game) : Session :=
  { s with game := Function.update s.game p g }

/-- A peer runs while neither its process has ended nor its game. -/
def running (s : Session) (p : Fin 2) : Bool := !(s.game p).stopped && !(s.game p).paused

/-- The peer with local player `p` is peer `p`. -/
def step (m : Match) (s : Session) : SessionOp → Option Session
  | .network op =>
    match op with
    | .sample .. => none
    | op => (s.net.step m op).map fun net => { s with net }
  | .beginFrame p input bundleHistory connected =>
    if s.running p ∧ (s.game p).waiting = none then
      match (s.net.side p).nextFrame with
      | none => none
      | some logicalFrame =>
        (s.net.step m (.sample p input bundleHistory connected)).map fun net =>
          let effectiveLocalInput :=
            (net.side p).inputs.localInput logicalFrame RollbackRuntime.neutralInput
          { s with net }.put p { s.game p with waiting := some (logicalFrame, effectiveLocalInput) }
    else none
  | .queueFrame p gateSupported =>
    if s.running p then
      match (s.game p).waiting with
      | none => none
      | some (logicalFrame, localInput) =>
        -- `TryGetRemoteInputLocked` and `WaitForRemoteInput`
        (s.net.side p).inputs.remoteInputs[logicalFrame]?.map fun remoteInput =>
          let g := { s.game p with waiting := none }
          s.put p (g.queueGameTickInputs m.generation gateSupported
            { frame := logicalFrame, localInput, remoteInput, hasRemote := true })
    else none
  | .gameTick p =>
    if (s.game p).stopped then none else some (s.put p ((s.game p).gameTick m.generation p))
  | .pause p => if (s.game p).stopped then none else some (s.put p (s.game p).pause)

end Session

end Bigstar.Netplay.PacketBridge
