import Bigstar.Netplay.MvlLifecycle
import Bigstar.Netplay.RomLoop

/-!
# The ROM-loop backend from game to game

The frames of a game, the restart in the results scene, and the start of the next generation. A
correction is partly in the memory of the guest, which a savestate replaces, and partly in fields of
`NDS` beside it, which only `NDS::Reset` clears.

How often the guest calls the gate in a frame is up to the guest. Every image of main RAM carries
the generation that it belongs to, and the history the one in which it was written; the source keeps
neither. The generation is the number of the restarts so far. Neither a frame nor an input has the
number 0 here.
-/

namespace Bigstar.Netplay.RomLoopMatch

open OrderedMap InputTimeline RollbackRuntime GameRAMRollback RomLoop MvlLifecycle

/-- The memory of the guest: main RAM, and what the model of the rollback keeps apart from it. -/
structure GuestMemory (S : Type) where
  /-- Main RAM. -/
  mainRAM : S
  /-- The scratch area, with the inputs of the frame. -/
  scratch : Fin 2 → InputState := fun _ => {}
  /-- The history of a correction. -/
  history : History (Fin 2 → InputState) := {}
  /-- The frames that the console has counted. -/
  numFrames : Nat := 0

/-- An image of main RAM with the generation that it belongs to. -/
abbrev Image (S : Type) := S × Nat

/-- The console of a match. -/
abbrev MatchNds (S : Type) := Nds (Image S) (Fin 2 → InputState)

/-- A tick keeps the generation. -/
def ofGeneration {S : Type} (guest : Guest S (Fin 2 → InputState)) :
    Guest (Image S) (Fin 2 → InputState) where
  tick := fun image players => (guest.tick image.1 players, image.2)
  gameFrame := fun image => guest.gameFrame image.1

/-! ## The console -/

/-- What a restart uses of the console. -/
structure Hardware (S : Type) where
  /-- Loads a byte. -/
  read8 : Nat → S → Nat
  /-- Loads a half word. -/
  read16 : Nat → S → Nat
  /-- Loads a word. -/
  read32 : Nat → S → Nat
  /-- Stores a byte, given after the address. -/
  write8 : Nat → Nat → S → S
  /-- Stores a half word. -/
  write16 : Nat → Nat → S → S
  /-- Stores a word. -/
  write32 : Nat → Nat → S → S
  /-- The memory that a savestate holds, and whether the savestate can be loaded. -/
  decode : List UInt8 → GuestMemory S × Bool
  /-- A cartridge is inserted. -/
  hasNDSCart : Bool
  /-- The memory after a reset. -/
  cleared : GuestMemory S
  /-- The memory after the game has been booted. -/
  boot : S → GuestMemory S
  /-- The patched game is booted without a replay. -/
  boot_idle : ∀ ram, (boot ram).history.enabled = false

section Console

variable {S : Type}

/-- The memory of the guest is replaced; its generation stays. -/
def loadMemory (nds : MatchNds S) (memory : GuestMemory S) : MatchNds S :=
  { nds with
    mainRAM := (memory.mainRAM, nds.mainRAM.2)
    scratch := memory.scratch
    history := memory.history
    numFrames := memory.numFrames }

/-- The fields of `NDS` that `NDS::Reset` clears. -/
def clearRollback (nds : MatchNds S) : MatchNds S :=
  { nds with
    restorePending := false
    restoreData := none
    historyReachedExitGate := false
    replayDisplayStartFrame := noDisplayFrame
    checkpoints := []
    nextCheckpoint := 0
    checkpointTimeline := {} }

/-- Main RAM is changed within its generation. -/
def mapMainRAM (f : S → S) (nds : MatchNds S) : MatchNds S :=
  { nds with mainRAM := (f nds.mainRAM.1, nds.mainRAM.2) }

/-- The console as a restart uses it. -/
def Hardware.console (hardware : Hardware S) : Console (MatchNds S) where
  arm9Read8 := fun address nds => hardware.read8 address nds.mainRAM.1
  arm9Read16 := fun address nds => hardware.read16 address nds.mainRAM.1
  arm9Read32 := fun address nds => hardware.read32 address nds.mainRAM.1
  arm9Write8 := fun address value => mapMainRAM (hardware.write8 address value)
  arm9Write16 := fun address value => mapMainRAM (hardware.write16 address value)
  arm9Write32 := fun address value => mapMainRAM (hardware.write32 address value)
  doSavestate := fun buffer nds =>
    (loadMemory nds (hardware.decode buffer).1, (hardware.decode buffer).2)
  hasNDSCart := fun _ => hardware.hasNDSCart
  reset := fun nds => loadMemory (clearRollback nds) hardware.cleared
  directBoot := fun nds => loadMemory nds (hardware.boot nds.mainRAM.1)

end Console

/-! ## The match -/

/-- A match. -/
structure Session (S : Type) where
  /-- Configuration, console and inputs. -/
  context : MvlLifecycle.Context (MatchNds S)
  /-- The start of the current generation, once its input epoch has been primed. -/
  start : Option Started := none
  /-- The games that were started before this one. -/
  generation : Nat := 0
  /-- The inputs that the guest was last given for each frame. -/
  used : NatMap ReplayFrameInputs := ∅
  /-- The generation in which the history was written last. -/
  historyGeneration : Nat := 0

/-- One frame of the match. -/
structure MatchFrame where
  /-- The frame as the console counts it. -/
  rawFrame : Nat
  /-- The start by which received inputs are told from old ones before the input epoch has been
  primed: that of the shared epoch. One that is not known yet counts as 1. -/
  known : Started
  /-- The start that the rollback counts from (`NetplayStartFrame`) before the input epoch has been
  primed: that of the shared epoch or, while it is not known, of the raw frame of the local
  startup. -/
  counted : Started
  /-- The start of the generation, if the handshake completes at the beginning of this frame. -/
  accepted : Option Started := none
  /-- What happens to the inputs. -/
  event : RomLoop.FrameEvent
  /-- The results scene pauses the inputs. -/
  paused : Bool := false
  /-- How often the guest calls the gate. -/
  gates : Nat

/-- What a match consists of. -/
inductive MatchOp where
  /-- A frame. -/
  | frame (f : MatchFrame)
  /-- `RestartAfterResultIfNeeded`. -/
  | restart (frame : Nat)
  /-- Something else than the console and the inputs changes, such as the checkpoints of the
  match. -/
  | prepare (runtime : MvlRuntime.Runtime)

namespace Session

variable {S : Type} (hardware : Hardware S) (guest : Guest S (Fin 2 → InputState)) (i : Fin 16)

/-- The session of one game. -/
def game (s : Session S) (rawFrame : Nat) : RomLoop.Session (Image S) where
  inputs := s.context.inputs
  nds := s.context.nds
  rawFrame := rawFrame
  used := s.used

/-- The session with the game as it is after a frame. -/
def withGame (s : Session S) (g : RomLoop.Session (Image S)) : Session S :=
  { s with context := { s.context with inputs := g.inputs, nds := g.nds }, used := g.used }

/-- The end of `WaitForRemoteStartReady`: the handshake is complete, and the input epoch is
primed. -/
def prime (s : Session S) (start : Started) : Session S :=
  { s with
    context :=
      { s.context with
        inputs := s.context.inputs.primeEpoch start.sharedLogicalEpoch start.delay neutralInput
          RollbackStorage.kNoFrame
        handshake :=
          s.context.handshake.markWaitedForPeerAtStart.markInputEpochPrimed
            start.sharedLogicalEpoch }
    start := some start }

/-- The handshake completes once in a generation, at the frame from which the logical ones are
counted. -/
def accept (s : Session S) (f : MatchFrame) : Option (Session S) :=
  match f.accepted with
  | none => some s
  | some start =>
    if s.start.isSome ∨ start.localReadyFrame ≠ f.rawFrame then none else some (s.prime start)

/-- `LogicalFrame`: without a start, frames are counted as they are. -/
def logicalFrame (s : Session S) (rawFrame : Nat) : Nat :=
  match s.start with
  | none => rawFrame
  | some start => start.logicalFrame rawFrame

/-- Nothing is written to the scratch area before the epoch is primed, nor while the inputs are
paused. -/
def writeScratch (s : Session S) (g : RomLoop.Session (Image S)) (f : MatchFrame) :
    Option (RomLoop.Session (Image S)) :=
  match s.start with
  | none => some g
  | some start =>
    let logicalFrame := start.logicalFrame f.rawFrame
    if f.paused then some g
    else if !horizonReached start g.inputs logicalFrame then none
    else some (RomLoop.writeScratch start g logicalFrame f.event.polled)

/-- The gates of the frame, and its end. -/
def runGuest (start : Started) (g : RomLoop.Session (Image S)) (f : MatchFrame) :
    RomLoop.Session (Image S) :=
  let nds := g.nds.gameTicks (ofGeneration guest) f.gates
  let nds := { nds with numFrames := u32 (nds.numFrames + 1) }
  { g with
    inputs := pumpThread start g.inputs f.event.beforeEnd
    nds := nds.finalizeRollbackTransaction (ofGeneration guest) }

/-- One frame, before and after the handshake. -/
def frame (s : Session S) (f : MatchFrame) : Option (Session S) :=
  (s.accept f).bind fun s =>
    let start := s.start.getD f.known
    let counted := s.start.getD f.counted
    let logicalFrame := s.logicalFrame f.rawFrame
    if logicalFrame ≥ u32Max then none
    else
      let g := saveCheckpointIfNeeded counted (s.game f.rawFrame) logicalFrame
      let g := { g with inputs := f.event.pumped.foldl (pumpOnce start f.rawFrame) g.inputs }
      (s.writeScratch g f).bind fun g =>
        let g := { g with inputs := pumpThread start g.inputs f.event.beforePlan }
        (resimulateIfNeeded start g logicalFrame f.event.beforeArm).map fun armed =>
          { s.withGame (runGuest guest start armed f) with
            historyGeneration :=
              if !g.nds.restorePending && armed.nds.restorePending then s.generation else
                s.historyGeneration }

/-- What the restart has put into the memory of the guest belongs to the next generation. -/
def restart (s : Session S) (frame : Nat) : Session S :=
  match s.context.restartAfterResultIfNeeded hardware.console i frame with
  | (context, .restarted _) =>
    { s with
      context :=
        { context with nds := { context.nds with
          mainRAM := (context.nds.mainRAM.1, s.generation + 1) } }
      start := none
      generation := s.generation + 1 }
  | (context, _) => { s with context }

/-- One operation; `none` where the process exits. -/
def step (s : Session S) : MatchOp → Option (Session S)
  | .frame f => s.frame guest f
  | .restart frame => some (s.restart hardware i frame)
  | .prepare runtime => some { s with context := { s.context with runtime } }

end Session

end Bigstar.Netplay.RomLoopMatch
