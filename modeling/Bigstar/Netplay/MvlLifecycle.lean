import Bigstar.Netplay.MvlRuntime
import Bigstar.Netplay.SessionPolicy

/-!
# From one game of a match to the next

`NsmbMvlLifecycle.cpp`: in the results scene the game is scored, and when the match is not decided
the next game is started, from the checkpoint of the boot, from the checkpoint of the first game, or
by a reset of the console.

The console is a parameter. What belongs to the network (the coordinator, the queues of the packet
bridge, the input delivery) and to diagnostics is left out, and so is the invalidation of compiled
code.
-/

namespace Bigstar.Netplay.MvlLifecycle

open Config InputTimeline MvlRuntime

/-- The operations of `NDS` that are used here. A memory access has the address first. -/
structure Console (N : Type) where
  /-- Loads a byte. -/
  arm9Read8 : Nat → N → Nat
  /-- Loads a half word. -/
  arm9Read16 : Nat → N → Nat
  /-- Loads a word. -/
  arm9Read32 : Nat → N → Nat
  /-- Stores a byte, given after the address. -/
  arm9Write8 : Nat → Nat → N → N
  /-- Stores a half word. -/
  arm9Write16 : Nat → Nat → N → N
  /-- Stores a word. -/
  arm9Write32 : Nat → Nat → N → N
  /-- Loads a savestate and says whether it succeeded. A load that fails may have changed the
  console. -/
  doSavestate : List UInt8 → N → N × Bool
  /-- A cartridge is inserted. -/
  hasNDSCart : N → Bool
  /-- `NDS::Reset`. -/
  reset : N → N
  /-- `SetupDirectBoot` and `Start`. -/
  directBoot : N → N

/-- The group of the stage that is played. -/
def kGameStageGroupAddr : Nat := 0x02085A18
/-- Whether two players play against each other. -/
def kGameVsModeAddr : Nat := 0x02085A84
/-- The number of this console in the game's own network. -/
def kNetLocalAidAddr : Nat := 0x020887F0
/-- The first of two bytes, one for each player. -/
def kGamePlayerDeadAddr : Nat := 0x0208B328
/-- The first of two words, one for each player, as in the next four counters. -/
def kGamePlayerLivesAddr : Nat := 0x0208B364
/-- The stars that count for the win. -/
def kGamePlayerBattleStarsAddr : Nat := 0x0208B36C
/-- The stars on the screen. -/
def kGamePlayerDisplayedStarsAddr : Nat := 0x0208B38C
/-- How often a player has died. -/
def kGamePlayerDeathsAddr : Nat := 0x0208B394
/-- All stars that a player has picked up. -/
def kGamePlayerCollectedStarsAddr : Nat := 0x0208B39C
/-- The scene before the current one. -/
def kScenePreviousSceneIDAddr : Nat := 0x0203BD2C
/-- The scene that has been asked for. -/
def kSceneNextSceneIDAddr : Nat := 0x0203BD30
/-- The scene that runs. -/
def kSceneCurrentSceneIDAddr : Nat := 0x0203BD34
/-- The settings that the next scene starts with. -/
def kSceneNextSceneSettingsAddr : Nat := 0x02088F38
/-- The scene that shows the result of a game. -/
def kResultsScene : Nat := 0x000A

/-- The fields of the packet bridge configuration that are used here. -/
structure PacketBridgeConfig where
  /-- From which frame the number of the local player is written into the game. -/
  forceGameLocalPlayerIDStartFrame : Nat := 0
  deriving DecidableEq

/-- The fields of the patch configuration that are used here. -/
structure RuntimePatchConfig where
  /-- The hook is to be put into the compiled code. -/
  packetBridgeJitHelperPatchEnabled : Bool := false
  /-- In which frame that is done. -/
  packetBridgeJitHelperPatchFrame : Nat := 0
  deriving DecidableEq

/-- The hook of the packet bridge in one instance. -/
structure JitHook where
  /-- The hook is in place. -/
  applied : Bool := false
  /-- The frame in which it is put back after a restore, or 0. -/
  resumeFrame : Nat := 0
  /-- The last frame whose tick was forced. -/
  lastForcedTickFrame : Nat := 0
  deriving DecidableEq

/-- What the functions of this file have at hand: configuration, state and the console. -/
structure Context (N : Type) where
  /-- `Config.Mvl`. -/
  mvl : MvlConfig
  /-- `Config.Connection`, with the epoch that the peers share. -/
  connection : ConnectionConfig
  /-- `Config.PacketBridge`. -/
  packetBridge : PacketBridgeConfig := {}
  /-- `Config.RuntimePatch`. -/
  runtimePatch : RuntimePatchConfig := {}
  /-- The games that were played, for each instance. -/
  runtime : MvlRuntime.Runtime := {}
  /-- The hook of each instance. -/
  packetBridgeRuntime : Fin 16 → JitHook := fun _ => {}
  /-- The generation and its start. -/
  handshake : SessionPolicy.Runtime := {}
  /-- The inputs of the game that runs. -/
  inputs : InputTimeline.Runtime := {}
  /-- The stage of the game that runs. -/
  currentStage : Int := 0
  /-- The same in the form in which a scene takes it. -/
  currentStageSceneSettings : Nat := 0x00B4FF00
  /-- This process is the host of the session. -/
  host : Bool := false
  /-- This process is the guest of the session. -/
  client : Bool := false
  /-- The console. -/
  nds : N

/-- The source subtracts frames in 32 bits. -/
def framesSince (frame start : Nat) : Nat := u32 (frame + 2 ^ 32 - start)

namespace Context

variable {N : Type} (console : Console N)

/-- Changes the record of one instance. -/
def updateInstance (c : Context N) (i : Fin 16) (f : InstanceState → InstanceState) : Context N :=
  { c with runtime := c.runtime.updateInstance i f }

/-- Changes the console. -/
def mapNds (c : Context N) (f : N → N) : Context N := { c with nds := f c.nds }

/-! ## The guest -/

/-- Where the patched game finds its configuration. -/
def kMvlRuntimeConfigAddr : Nat := 0x020C5360
/-- The word that marks the configuration as valid. -/
def kMvlRuntimeConfigMagic : Nat := 0x434C564D
/-- How often the random numbers of the network have been used. -/
def kNetRandomCallCountAddr : Nat := 0x02088A48
/-- The state of the random numbers of the network. -/
def kNetRandomValueAddr : Nat := 0x02088A68
/-- How often the random numbers of the game have been used. -/
def kGameRandomCallCountAddr : Nat := 0x02085A54
/-- The state of the random numbers of the game. -/
def kGameRandomValueAddr : Nat := 0x02085A70

/-- `MvlGameHooks::WriteRandomSeed`. -/
def writeRandomSeed (seed : Nat) (nds : N) : N :=
  let nds := console.arm9Write32 kNetRandomValueAddr seed nds
  let nds := console.arm9Write8 kNetRandomCallCountAddr 0 nds
  let nds := console.arm9Write32 kGameRandomValueAddr seed nds
  console.arm9Write8 kGameRandomCallCountAddr 0 nds

/-- `MvlGameHooks::ApplyRuntimeConfig`. -/
def applyRuntimeConfig (c : Context N) : Context N :=
  if c.mvl.runtimeConfigEnabled then
    c.mapNds fun nds =>
      let nds := console.arm9Write32 kMvlRuntimeConfigAddr kMvlRuntimeConfigMagic nds
      let nds := console.arm9Write32 (kMvlRuntimeConfigAddr + 0x04) c.currentStage.toNat nds
      let nds := console.arm9Write32 (kMvlRuntimeConfigAddr + 0x08) c.currentStageSceneSettings nds
      let nds := console.arm9Write32 (kMvlRuntimeConfigAddr + 0x0C) c.mvl.initialLives nds
      let nds := console.arm9Write32 (kMvlRuntimeConfigAddr + 0x10) c.mvl.lifeModeSelector nds
      console.arm9Write32 (kMvlRuntimeConfigAddr + 0x14) c.mvl.bigStarSelector nds
  else c

/-! ## Startup frames -/

/-- The five frames that are counted from the start of a game. -/
def mapStartupFrames (c : Context N) (f : Nat → Nat) : Context N :=
  { c with
    connection := { c.connection with localStartupRawFrame := f c.connection.localStartupRawFrame }
    packetBridge :=
      { c.packetBridge with
        forceGameLocalPlayerIDStartFrame := f c.packetBridge.forceGameLocalPlayerIDStartFrame }
    runtimePatch :=
      { c.runtimePatch with
        packetBridgeJitHelperPatchFrame := f c.runtimePatch.packetBridgeJitHelperPatchFrame }
    mvl :=
      { c.mvl with
        cameraInitHold :=
          { c.mvl.cameraInitHold with
            startFrame := f c.mvl.cameraInitHold.startFrame
            endFrame := f c.mvl.cameraInitHold.endFrame } } }

/-- The startup frames are counted from this frame. -/
def setStartupFrameBase (c : Context N) (frame : Nat) : Context N :=
  { c with runtime := c.runtime.setStartupFrameBase frame }

/-- The startup frames are moved to a game that starts in the given frame. -/
def rebaseStartupFrames (c : Context N) (restartFrame : Nat) : Context N :=
  (c.mapStartupFrames (c.runtime.rebaseStartupFrame restartFrame)).setStartupFrameBase restartFrame

/-- The startup frames are moved to a game that goes on from a checkpoint. -/
def rebaseStartupFramesFromCheckpoint (c : Context N) (restoreFrame checkpointFrame : Nat) :
    Context N :=
  (c.mapStartupFrames
    (c.runtime.rebaseStartupFrameFromCheckpoint restoreFrame checkpointFrame)).setStartupFrameBase
    (if restoreFrame > checkpointFrame then restoreFrame - checkpointFrame else restoreFrame)

/-- What has been done once for a game is to be done again. -/
def resetStartupHookState (c : Context N) (i : Fin 16) : Context N :=
  { c with
    runtime := c.runtime.resetStartupHookState i
    packetBridgeRuntime := Function.update c.packetBridgeRuntime i {}
    handshake := c.handshake.resetStartHandshake }

/-- `ScheduleJitHookAfterRestore` of the packet bridge. -/
def scheduleJitHelperPatchAfterRestore (c : Context N) (i : Fin 16)
    (restoreFrame checkpointFrame : Nat) : Context N :=
  let hook := c.packetBridgeRuntime i
  let patchFrame := c.runtimePatch.packetBridgeJitHelperPatchFrame
  let hook :=
    if !c.runtimePatch.packetBridgeJitHelperPatchEnabled then
      { hook with applied := false, resumeFrame := 0 }
    else if checkpointFrame ≥ patchFrame then { hook with applied := true, resumeFrame := 0 }
    else
      let delay := patchFrame - checkpointFrame
      { hook with
        applied := false
        resumeFrame := u32 (restoreFrame + if delay > 6 then delay - 6 else delay) }
  { c with packetBridgeRuntime := Function.update c.packetBridgeRuntime i hook }

/-! ## Three ways to the next game -/

/-- The seed is to be written into the guest by the next patch of its random numbers. -/
def requestSeed (c : Context N) (i : Fin 16) (requestedSeed : Nat) : Context N :=
  { c with
    runtime := c.runtime.updateInstance i fun s => { s with netRandomPatchApplied := false }
    mvl :=
      { c.mvl with netRandom := { c.mvl.netRandom with
        value := requestedSeed, enabled := true, auto := true } } }

/-- The source has rebased the startup frames before it knows whether the savestate can be
loaded. -/
def restoreBootstrapCheckpoint (c : Context N) (i : Fin 16) (frame requestedSeed : Nat) :
    Context N × Bool :=
  let checkpoint := (c.runtime.instances i).bootstrapCheckpoint
  if checkpoint.buffer = [] then (c, false)
  else
    let c := (c.resetStartupHookState i).rebaseStartupFramesFromCheckpoint frame checkpoint.frame
    let loaded := console.doSavestate checkpoint.buffer c.nds
    let c := { c with nds := loaded.1 }
    if !loaded.2 then (c, false)
    else
      let c := c.requestSeed i requestedSeed
      let c :=
        if c.host then c.mapNds (console.arm9Write32 kNetLocalAidAddr 0)
        else if c.client then c.mapNds (console.arm9Write32 kNetLocalAidAddr 1)
        else c
      ((c.mapNds (writeRandomSeed console requestedSeed)).applyRuntimeConfig console, true)

/-- The checkpoint of the first game. -/
def restoreGameplayCheckpoint (c : Context N) (i : Fin 16) (frame requestedSeed : Nat) :
    Context N × Bool :=
  let checkpoint := (c.runtime.instances i).gameplayCheckpoint
  let loaded := console.doSavestate checkpoint.buffer c.nds
  let c := { c with nds := loaded.1 }
  if !loaded.2 then (c, false)
  else
    let c := c.scheduleJitHelperPatchAfterRestore i frame checkpoint.frame
    let c := c.mapNds fun nds =>
      let nds := console.arm9Write32 kGameStageGroupAddr 9 nds
      let nds := console.arm9Write32 kGameVsModeAddr 1 nds
      console.arm9Write32 kSceneNextSceneSettingsAddr c.currentStageSceneSettings nds
    ((c.applyRuntimeConfig console).mapNds (writeRandomSeed console requestedSeed), true)

/-- The console is booted again, with configuration and seed written before and after the boot. -/
def resetConsoleForNextMatch (c : Context N) (i : Fin 16) (frame requestedSeed : Nat) :
    Context N × Bool :=
  if !console.hasNDSCart c.nds then (c, false)
  else
    let c := (c.resetStartupHookState i).rebaseStartupFrames frame
    let c := (c.mapNds console.reset).applyRuntimeConfig console
    let c := (c.mapNds (writeRandomSeed console requestedSeed)).mapNds console.directBoot
    let c := (c.applyRuntimeConfig console).mapNds (writeRandomSeed console requestedSeed)
    (c.requestSeed i requestedSeed, true)

/-! ## After a game -/

/-- The way that was taken, 0 where none was. -/
abbrev RestartPath := Nat

/-- The attempt to start the next game, up to the decision whether it has succeeded. -/
def startNextGame (c : Context N) (i : Fin 16) (frame : Nat) (requestedStage : Int)
    (requestedSeed : Nat) :
    Context N × RestartPath :=
  match c.restoreBootstrapCheckpoint console i frame requestedSeed with
  | (c, true) => (c, 3)
  | (c, false) =>
    let checkpoint := (c.runtime.instances i).gameplayCheckpoint
    if checkpoint.buffer ≠ [] ∧ checkpoint.stage = requestedStage then
      match c.restoreGameplayCheckpoint console i frame requestedSeed with
      | (c, true) => (c, 1)
      | (c, false) => (c, 0)
    else
      match c.resetConsoleForNextMatch console i frame requestedSeed with
      | (c, true) => (c, 4)
      | (c, false) => (c, 0)

/-- Inputs and handshake begin the generation of the new game; the client learns its epoch later. -/
def resetSyncStateForRestart (c : Context N) (i : Fin 16) : Context N :=
  let generation := (c.runtime.instances i).restartCount.toNat
  let epoch := if c.host then c.connection.startFrame else 0
  { c with
    inputs := c.inputs.resetForRestart 0
    connection := { c.connection with sharedLogicalEpoch := epoch }
    handshake := c.handshake.beginGeneration generation epoch c.host }

/-- What a call of `RestartAfterResultIfNeeded` comes to. It returns true in the last case only. -/
inductive RestartOutcome where
  /-- No attempt was made. -/
  | none
  /-- The attempt failed: `no-compatible-checkpoint`. -/
  | failed
  /-- The next game has been started. -/
  | restarted (path : RestartPath)
  deriving DecidableEq

/-- The stage of the next game, as the code computes it after it has raised the restart count. -/
def nextStage (c : Context N) (i : Fin 16) : Int :=
  let runtime := c.runtime.updateInstance i fun s => { s with restartCount := s.restartCount + 1 }
  max 0 (min (runtime.stageForGame i c.mvl c.currentStage) 4)

/-- The seed of the next game, computed likewise. -/
def nextSeed (c : Context N) (i : Fin 16) : Nat :=
  (c.runtime.updateInstance i fun s =>
    { s with restartCount := s.restartCount + 1 }).matchSeedForGame i c.mvl

/-- The next game is counted, its stage is selected, and its seed is given to the guest. -/
def selectNextGame (c : Context N) (i : Fin 16) : Context N :=
  { c with
    runtime := c.runtime.updateInstance i fun s => { s with restartCount := s.restartCount + 1 }
    currentStage := c.nextStage i
    currentStageSceneSettings := composeSceneSettingsForStage (c.nextStage i)
    nds := writeRandomSeed console (c.nextSeed i) c.nds }

/-- The end of `RestartAfterResultIfNeeded`: the result has been scored, and another game is due. -/
def restart (c : Context N) (i : Fin 16) (frame : Nat) : Context N × RestartOutcome :=
  match (c.selectNextGame console i).startNextGame console i frame
    (c.nextStage i) (c.nextSeed i) with
  | (c, 0) => (c.updateInstance i fun s => { s with restartCount := s.restartCount - 1 }, .failed)
  | (c, path) =>
    let c := c.updateInstance i fun s => { s with lastRestartFrame := frame }
    let c := c.resetSyncStateForRestart i
    (c.updateInstance i fun s =>
      { s with inResult := false, resultScored := false, resultUnresolvedLogged := false },
      .restarted path)

/-- The counters of the guest. A dead player has no lives left, whatever the counter says. -/
def readResultSnapshot (c : Context N) : ResultSnapshot :=
  let counter := fun base (player : Fin 2) => console.arm9Read32 (base + 4 * player) c.nds
  let dead := fun player : Fin 2 => console.arm9Read8 (kGamePlayerDeadAddr + player) c.nds
  let counted := fun player : Fin 2 => c.mvl.lifeModeSelector ≠ 2 ∧ dead player ≠ 0
  { battleStars := counter kGamePlayerBattleStarsAddr
    displayedStars := counter kGamePlayerDisplayedStarsAddr
    collectedStars := counter kGamePlayerCollectedStarsAddr
    lives := fun player => if counted player then 0 else counter kGamePlayerLivesAddr player
    deaths := fun player =>
      if counted player then max (counter kGamePlayerDeathsAddr player) c.mvl.initialLives
      else counter kGamePlayerDeathsAddr player
    dead := dead }

/-- The scene is not the results scene. -/
def leaveResult (c : Context N) (i : Fin 16) (frame : Nat) : Context N :=
  let s := c.runtime.instances i
  let c :=
    if s.restartCount > 0 ∧ console.arm9Read16 kSceneCurrentSceneIDAddr c.nds = 3 ∧
        console.arm9Read16 kScenePreviousSceneIDAddr c.nds = kResultsScene ∧
        console.arm9Read16 kSceneNextSceneIDAddr c.nds = 3 ∧
        framesSince frame s.lastRestartFrame ≥ 30 then
      c.mapNds (console.arm9Write16 kSceneNextSceneIDAddr 0x0181)
    else c
  c.updateInstance i fun s =>
    { s with inResult := false, resultScored := false, resultUnresolvedLogged := false }

/-- The result is scored once; the flag says whether it has been scored by now. -/
def scoreResult (c : Context N) (i : Fin 16) (frame : Nat) : Context N × Bool :=
  if (c.runtime.instances i).resultScored then (c, true)
  else
    match resolveResultWinner (c.readResultSnapshot console) with
    | none =>
      (c.updateInstance i fun s =>
        { s with
          resultUnresolvedLogged := s.resultUnresolvedLogged
            || decide (framesSince frame s.resultFrame ≥ c.mvl.autoRestartDelayFrames) }, false)
    | some winner =>
      (c.updateInstance i fun s =>
        { s with wins := Function.update s.wins winner (s.wins winner + 1), resultScored := true },
        true)

/-- Called in every frame: the result is scored, and after the delay the next game is started. -/
def restartAfterResultIfNeeded (c : Context N) (i : Fin 16) (frame : Nat) :
    Context N × RestartOutcome :=
  if !c.mvl.autoRestartAfterResult || decide (c.mvl.targetWins < 1) then (c, .none)
  else if console.arm9Read16 kSceneCurrentSceneIDAddr c.nds ≠ kResultsScene then
    (c.leaveResult console i frame, .none)
  else if !(c.runtime.instances i).inResult then
    (c.updateInstance i fun s =>
      { s with inResult := true, resultUnresolvedLogged := false, resultFrame := frame }, .none)
  else
    match c.scoreResult console i frame with
    | (c, false) => (c, .none)
    | (c, true) =>
      let s := c.runtime.instances i
      if max (s.wins 0) (s.wins 1) ≥ c.mvl.targetWins ∨
          framesSince frame s.resultFrame < c.mvl.autoRestartDelayFrames then (c, .none)
      else c.restart console i frame

end Context

end Bigstar.Netplay.MvlLifecycle
