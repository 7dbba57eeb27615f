import Bigstar.Netplay.InputExchange

/-!
# Lockstep

Two peers without rollback. In each frame a peer records its input, for the frame `delay` frames
ahead, and sends it (the first part of `WritePacketBridgeJitScratchIfNeeded`); then it waits until
the input of the other player for the frame itself is there (`WaitForRemoteInput`, which pumps the
network), writes both inputs to the guest and runs the frame. Meanwhile anything may happen to the
packets.

The game is any function of its state and the inputs of both players. The wait has no timeout
outside of tests. The peers are the players.
-/

namespace Bigstar.Netplay.Lockstep

open OrderedMap InputTimeline RollbackRuntime InputExchange TwoParty

variable {σ : Type}

/-- Two consoles with the exchange of inputs between them. -/
structure State (σ : Type) where
  /-- The exchange. -/
  net : InputExchange.State
  /-- The states of the two games. -/
  game : Fin 2 → σ
  /-- The frame of a peer that waits for the input of the other player. -/
  waiting : Fin 2 → Option Nat

/-- A step of one console or of the network. -/
inductive Op where
  /-- Packets are delivered and sent again, epochs are adopted and primed. -/
  | exchange (op : InputExchange.Op)
  /-- A frame begins. -/
  | beginFrame (p : Fin 2) (input : InputState) (bundleHistory : Int) (connected : Bool)
  /-- A frame has its inputs and runs. -/
  | runFrame (p : Fin 2)

/-- What happens outside of the frames. Nothing is predicted in lockstep. -/
def IsBetweenFrames : InputExchange.Op → Prop
  | .adoptEpoch _ | .prime _ | .resend _ _ | .deliverForeign _ _ false _ | .deliver _ _ false _ =>
    True
  | .sample _ _ _ _ | .predict _ _ | .deliverForeign _ _ true _ | .deliver _ _ true _ => False

instance decidableIsBetweenFrames : (op : InputExchange.Op) → Decidable (IsBetweenFrames op)
  | .adoptEpoch _ | .prime _ | .resend _ _ | .deliverForeign _ _ false _ | .deliver _ _ false _ =>
    isTrue trivial
  | .sample _ _ _ _ | .predict _ _ | .deliverForeign _ _ true _ | .deliver _ _ true _ => isFalse id

namespace State

/-- Both games begin alike. -/
def init (initial : σ) : State σ :=
  { net := InputExchange.State.init, game := fun _ => initial, waiting := fun _ => none }

/-- The inputs of a frame that is ready to run. -/
def frameInputs (s : State σ) (p : Fin 2) : Option (Fin 2 → InputState) :=
  match s.waiting p with
  | none => none
  | some frame =>
    match (s.net.side p).inputs.remoteInputs[frame]? with
    | none => none
    | some remoteInput =>
      let localInput := (s.net.side p).inputs.localInput frame neutralInput
      some fun player => selectPlayerInput player p localInput remoteInput true

/-- `none` for a step that cannot happen. -/
def step (m : Match) (tick : σ → (Fin 2 → InputState) → σ) (s : State σ) : Op → Option (State σ)
  | .exchange op =>
    if IsBetweenFrames op then (s.net.step m op).map fun net => { s with net } else none
  | .beginFrame p input bundleHistory connected =>
    match s.waiting p with
    | some _ => none
    | none =>
      (s.net.step m (.sample p input bundleHistory connected)).map fun net =>
        { s with net, waiting := Function.update s.waiting p (s.net.side p).nextFrame }
  | .runFrame p =>
    (s.frameInputs p).map fun inputs =>
      { s with
        game := Function.update s.game p (tick (s.game p) inputs)
        waiting := Function.update s.waiting p none }

/-- The next frame that peer `p` runs. -/
def frame (m : Match) (s : State σ) (p : Fin 2) : Nat :=
  match s.waiting p, (s.net.side p).nextFrame with
  | some frame, _ => frame
  | none, some frame => frame
  | none, none => m.epoch

/-- The inputs that the players have recorded for a frame. -/
def players (s : State σ) (frame : Nat) (player : Fin 2) : InputState :=
  (s.net.side player).inputs.localInput frame neutralInput

end State

end Bigstar.Netplay.Lockstep
