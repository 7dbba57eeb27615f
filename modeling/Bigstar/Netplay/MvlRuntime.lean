import Bigstar.Netplay.NetplayConfig

/-!
# The games of a match

`NsmbMvlRuntime.cpp`: the score of a match, the stage and the seed of each of its games, and the
frames that are counted from the start of a game. There are 16 instances of the emulator; the checks
that an instance is one of them are left out.
-/

namespace Bigstar.Netplay.MvlRuntime

open Config

/-- The frame number that stands for none. -/
def kNoFrame : Nat := 0xFFFFFFFF

/-- A savestate of the console, empty where there is none. -/
structure Checkpoint where
  /-- The savestate; empty when there is no checkpoint. -/
  buffer : List UInt8 := []
  /-- The frame in which it was saved. -/
  frame : Nat := 0
  /-- The stage that was played. -/
  stage : Int := 0

/-- What one console remembers from game to game. -/
structure InstanceState where
  /-- The results scene is shown. -/
  inResult : Bool := false
  /-- Its result has been counted. -/
  resultScored : Bool := false
  /-- That it has no winner has been printed. -/
  resultUnresolvedLogged : Bool := false
  /-- The hold of the camera has been cleared. -/
  clearCameraInitHoldApplied : Bool := false
  /-- The seed has been written. -/
  netRandomPatchApplied : Bool := false
  /-- When the results scene was entered. -/
  resultFrame : Nat := 0
  /-- When the last game was started. -/
  lastRestartFrame : Nat := 0
  /-- How many games have been started after the first. -/
  restartCount : Int := 0
  /-- The games that each player has won. -/
  wins : Fin 2 → Int := fun _ => 0
  /-- The checkpoint of the boot. -/
  bootstrapCheckpoint : Checkpoint := {}
  /-- The checkpoint of the first game. -/
  gameplayCheckpoint : Checkpoint := {}

/-! ## The winner of a game -/

/-- The counters of both players in the results scene. -/
structure ResultSnapshot where
  /-- The stars that count for the win. -/
  battleStars : Fin 2 → Nat
  /-- The stars on the screen. -/
  displayedStars : Fin 2 → Nat
  /-- All stars that were picked up. -/
  collectedStars : Fin 2 → Nat
  /-- The lives that are left. -/
  lives : Fin 2 → Nat
  /-- How often a player has died. -/
  deaths : Fin 2 → Nat
  /-- Not 0 for a player that is dead. -/
  dead : Fin 2 → Nat

/-- The player with the higher counter wins, nobody in a tie. -/
def higherWins (counter : Fin 2 → Nat) : Option (Fin 2) :=
  if counter 0 = counter 1 then none else some (if counter 0 > counter 1 then 0 else 1)

/-- The player with the lower counter wins, nobody in a tie. -/
def lowerWins (counter : Fin 2 → Nat) : Option (Fin 2) :=
  if counter 0 = counter 1 then none else some (if counter 0 < counter 1 then 0 else 1)

/-- The winner, `none` where the source returns -1. -/
def resolveResultWinner (result : ResultSnapshot) : Option (Fin 2) :=
  let player0Dead := result.dead 0 ≠ 0
  let player1Dead := result.dead 1 ≠ 0
  if decide player0Dead ≠ decide player1Dead then some (if player0Dead then 1 else 0)
  else
    (higherWins result.battleStars).or <| (higherWins result.displayedStars).or <|
      (higherWins result.collectedStars).or <| (higherWins result.lives).or <|
        lowerWins result.deaths

/-! ## The runtime -/

/-- The match as the process knows it. -/
structure Runtime where
  /-- The state of each console. -/
  instances : Fin 16 → InstanceState := fun _ => {}
  /-- The frame from which the startup frames are counted. -/
  startupFrameBase : Nat := 0

namespace Runtime

/-- Changes the state of one console. -/
def updateInstance (r : Runtime) (i : Fin 16) (f : InstanceState → InstanceState) : Runtime :=
  { r with instances := Function.update r.instances i (f (r.instances i)) }

/-- The number of the game in the match, from 0. -/
def gameIndex (r : Runtime) (i : Fin 16) : Nat := (r.instances i).restartCount.toNat

/-- The stage of the game: from the configured sequence, whose last entry stays, from the seed of
the match, or the current one. -/
def stageForGame (r : Runtime) (i : Fin 16) (config : MvlConfig) (currentStage : Int) : Int :=
  let index := r.gameIndex i
  if config.stageSequence ≠ [] then
    config.stageSequence.getD (min index (config.stageSequence.length - 1)) 0
  else if config.courseMode = .random ∧ config.matchSeedConfigured then
    ((u32 (config.matchSeed + index) % 5 : Nat) : Int)
  else max 0 (min currentStage 4)

/-- The seed of the game: from the configured sequence, or counted on from the seed of the match. -/
def matchSeedForGame (r : Runtime) (i : Fin 16) (config : MvlConfig) : Nat :=
  let index := r.gameIndex i
  if config.matchSeedSequence ≠ [] then
    config.matchSeedSequence.getD (min index (config.matchSeedSequence.length - 1)) 0
  else u32 (config.matchSeed + index)

/-- The hold of the camera is to be cleared again. -/
def resetStartupHookState (r : Runtime) (i : Fin 16) : Runtime :=
  r.updateInstance i fun s => { s with clearCameraInitHoldApplied := false }

/-! ## Startup frames -/

/-- A frame as counted from the base; 0 and no frame stay what they are. -/
def relativeStartupFrame (r : Runtime) (value : Nat) : Nat :=
  if value = 0 ∨ value = kNoFrame then value
  else if r.startupFrameBase ≠ 0 ∧ r.startupFrameBase ≤ value then value - r.startupFrameBase
  else value

/-- The frame moved to a game that starts in `restartFrame`. -/
def rebaseStartupFrame (r : Runtime) (restartFrame value : Nat) : Nat :=
  if value = 0 ∨ value = kNoFrame then value
  else u32 (restartFrame + r.relativeStartupFrame value)

/-- The frame moved to a game that goes on from a checkpoint. -/
def rebaseStartupFrameFromCheckpoint (r : Runtime) (restoreFrame checkpointFrame value : Nat) :
    Nat :=
  if value = 0 ∨ value = kNoFrame then value
  else
    let relative := r.relativeStartupFrame value
    if relative = 0 ∨ relative = kNoFrame then relative
    else u32 (restoreFrame + if checkpointFrame < relative then relative - checkpointFrame else 1)

/-- The base for the next time. -/
def setStartupFrameBase (r : Runtime) (frame : Nat) : Runtime :=
  { r with startupFrameBase := frame }

end Runtime

end Bigstar.Netplay.MvlRuntime
