import Bigstar.Lib.Run
import Bigstar.Lib.TwoParty
import Bigstar.Netplay.InputDelivery

/-!
# Two peers exchanging inputs

The two sides of one generation and everything they have put on the wire. A packet that was sent may
be delivered at any later time, any number of times and in any order, or never. Packets of other
generations may still arrive in between.

Inputs are sampled once per emulated frame, from the frame on in which the side accepted the start
of the game and primed its input epoch. Both sides use the epoch of the host and the input delay of
the room. The frame counter does not wrap.
-/

namespace Bigstar.Netplay.InputExchange

open OrderedMap InputTimeline InputDelivery TwoParty

/-- What the two peers of a generation have in common. -/
structure Match where
  /-- The number of the game. -/
  generation : Nat
  /-- `SharedLogicalEpoch`; 0 is no epoch. -/
  epoch : Nat
  /-- `Connection.Delay`. -/
  delay : Nat
  /-- Frame 0 is never the first one of a game. -/
  epoch_pos : 0 < epoch
  /-- No frame before the first inputs overflows. -/
  fits : epoch + delay ≤ u32Max

/-- One peer. -/
structure Side extends Peer where
  /-- The logical frame of the next emulated frame, once the start has been accepted. -/
  nextFrame : Option Nat := none

/-- Both sides, with all packets they have sent in flight for ever. -/
abbrev State := TwoParty.Net Side Payload

/-- Before anything was sent. -/
def State.init : State := { side := fun _ => {}, sent := fun _ => [] }

/-- A step of one peer or of the network. -/
inductive Op where
  /-- The client learns the epoch from the host's start-ready message. -/
  | adoptEpoch (p : Fin 2)
  /-- The start is accepted and the input epoch primed. -/
  | prime (p : Fin 2)
  /-- An emulated frame records its input and, while connected, sends it. -/
  | sample (p : Fin 2) (input : InputState) (bundleHistory : Int) (connected : Bool)
  /-- The newest packet is sent again. -/
  | resend (p : Fin 2) (bundleHistory : Int)
  /-- A packet that the other side has sent arrives. -/
  | deliver (p : Fin 2) (index : Nat) (rollbackEnabled : Bool) (localFrame : Nat)
  /-- A packet of another generation arrives. -/
  | deliverForeign (p : Fin 2) (payload : Payload) (rollbackEnabled : Bool) (localFrame : Nat)
  /-- In rollback mode, the predictions change in any way. -/
  | predict (p : Fin 2) (rollbackInputs : PredictionRuntime)

namespace Side

variable (m : Match)

/-- A packet is handled. -/
def receive (rollbackEnabled : Bool) (localFrame : Nat) (a : Side) (payload : Payload) : Side :=
  { a with toPeer := a.toPeer.receive m.generation rollbackEnabled localFrame payload }

/-- The epoch is primed once. -/
def prime (a : Side) : Option Side :=
  match a.nextFrame with
  | some _ => none
  | none =>
    some { toPeer := a.toPeer.primeInputEpoch m.epoch m.delay, nextFrame := some m.epoch }

/-- The input of the next frame, and the packet if there is a connection. -/
def sample (input : InputState) (bundleHistory : Int) (connected : Bool) (a : Side) :
    Option (Side × List Payload) :=
  match a.nextFrame with
  | none => none
  | some frame =>
    let sendFrame := frame + m.delay
    if sendFrame > u32Max then none
    else
      let peer := a.toPeer.recordLocalInput sendFrame input
      let nextFrame := some (frame + 1)
      if connected then
        let (peer, payload) := peer.sendInput m.generation bundleHistory sendFrame input
        some ({ toPeer := peer, nextFrame }, [payload])
      else some ({ toPeer := peer, nextFrame }, [])

end Side

namespace State

/-- `none` for a step that cannot happen. -/
def step (m : Match) (s : State) : Op → Option State
  | .adoptEpoch p => some (s.put p { s.side p with sharedLogicalEpoch := m.epoch })
  | .prime p => ((s.side p).prime m).map fun a => s.put p a
  | .sample p input bundleHistory connected =>
    ((s.side p).sample m input bundleHistory connected).map fun (a, payloads) => s.put p a payloads
  | .resend p bundleHistory =>
    ((s.side p).resendLatestInput m.generation bundleHistory).map fun payload =>
      s.put p (s.side p) [payload]
  | .deliver p index rollbackEnabled localFrame =>
    (s.sent (other p))[index]?.map fun payload =>
      s.put p ((s.side p).receive m rollbackEnabled localFrame payload)
  | .deliverForeign p payload rollbackEnabled localFrame =>
    if ∃ entry ∈ payload.entries.head?, entry.generation ≠ m.generation then
      some (s.put p ((s.side p).receive m rollbackEnabled localFrame payload))
    else none
  | .predict p rollbackInputs =>
    let inputs := { (s.side p).inputs with rollbackInputs }
    some (s.put p { s.side p with inputs })

end State

end Bigstar.Netplay.InputExchange
