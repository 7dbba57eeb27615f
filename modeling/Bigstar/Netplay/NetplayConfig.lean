import Bigstar.Lib.CText
import Bigstar.Netplay.RollbackRuntime

/-!
# The configuration of the emulator

`NsmbNetplayConfig.cpp`: the environment of the process is parsed into the configuration of the
connection, of the inputs, of the rollback and of the match. Numbers are read by `strtol` and
`strtoul` with base detection.

Of the rollback configuration only the fields that `RollbackConfig` has are loaded.
-/

namespace Bigstar.Netplay.Config

open CText RollbackRuntime

/-- The variables that are read here, without `MELONDS_NSML_` in front of their names. -/
inductive Variable where
  /-- `ROLE`. -/
  | role
  /-- `LAN_ROLE`. -/
  | lanRole
  /-- `DELAY`. -/
  | delay
  /-- `NETPLAY_WARMUP_FRAMES`. -/
  | netplayWarmupFrames
  /-- `PORT`. -/
  | port
  /-- `LOCAL_INSTANCE`. -/
  | localInstance
  /-- `NETPLAY_START_FRAME`. -/
  | netplayStartFrame
  /-- `NO_LOCAL_WAIT`. -/
  | noLocalWait
  /-- `REMOTE_INPUT_TIMEOUT_FATAL`. -/
  | remoteInputTimeoutFatal
  /-- `PEER`. -/
  | peer
  /-- `INPUT_SEND_DELAY_FRAMES`. -/
  | inputSendDelayFrames
  /-- `INPUT_SEND_JITTER_FRAMES`. -/
  | inputSendJitterFrames
  /-- `INPUT_SEND_DELAY_START_FRAME`. -/
  | inputSendDelayStartFrame
  /-- `INPUT_SEND_DELAY_END_FRAME`. -/
  | inputSendDelayEndFrame
  /-- `INPUT_UNRELIABLE`. -/
  | inputUnreliable
  /-- `INPUT_BUNDLE_HISTORY`. -/
  | inputBundleHistory
  /-- `INPUT_MAX_FRAME_LEAD`. -/
  | inputMaxFrameLead
  /-- `INPUT_NETPLAY_ONLY`. -/
  | inputNetplayOnly
  /-- `INPUT_NETPLAY_TRACE`. -/
  | inputNetplayTrace
  /-- `INPUT_HEALTH_TRACE`. -/
  | inputHealthTrace
  /-- `INPUT_HEALTH_TRACE_INTERVAL`. -/
  | inputHealthTraceInterval
  /-- `INPUT_HEALTH_TRACE_WAIT_THRESHOLD_MS`. -/
  | inputHealthTraceWaitThresholdMs
  /-- `INPUT_WAIT_POLL_US`. -/
  | inputWaitPollUs
  /-- `ROLLBACK`. -/
  | rollback
  /-- `ROLLBACK_RESIMULATE`. -/
  | rollbackResimulate
  /-- `ROLLBACK_RESIM_SKIP_INTERMEDIATE_CHECKPOINTS`. -/
  | rollbackResimSkipIntermediateCheckpoints
  /-- `ROLLBACK_PREDICTION_PROBE_MODULO`. -/
  | rollbackPredictionProbeModulo
  /-- `ROLLBACK_PREDICTION_PROBE_OFFSET`. -/
  | rollbackPredictionProbeOffset
  /-- `ROLLBACK_PREDICTION_PROBE_LIMIT`. -/
  | rollbackPredictionProbeLimit
  /-- `ROLLBACK_PREDICTION_PROBE_START_FRAME`. -/
  | rollbackPredictionProbeStartFrame
  /-- `ROLLBACK_PREDICTION_PROBE_END_FRAME`. -/
  | rollbackPredictionProbeEndFrame
  /-- `ROLLBACK_PREDICTION_PROBE_KEY_MASK`. -/
  | rollbackPredictionProbeKeyMask
  /-- `ROLLBACK_PREDICTION_PROBE_CONFIRM_DELAY_FRAMES`. -/
  | rollbackPredictionProbeConfirmDelayFrames
  /-- `ROLLBACK_PREDICTION_PROBE_CONFIRM_AFTER_ONE_FRAME`. -/
  | rollbackPredictionProbeConfirmAfterOneFrame
  /-- `ROLLBACK_BACKEND`. -/
  | rollbackBackend
  /-- `ROLLBACK_WINDOW`. -/
  | rollbackWindow
  /-- `ROLLBACK_CHECKPOINT_INTERVAL`. -/
  | rollbackCheckpointInterval
  /-- `ROLLBACK_DELTA_KEYFRAME_INTERVAL`. -/
  | rollbackDeltaKeyframeInterval
  /-- `ROLLBACK_MAIN_RAM_PAGE_SIZE`. -/
  | rollbackMainRAMPageSize
  /-- `ROLLBACK_RESIMULATE_DELAY_FRAMES`. -/
  | rollbackResimulateDelayFrames
  /-- `ROLLBACK_MAX_RESIM_FRAMES`. -/
  | rollbackMaxResimFrames
  /-- `ROLLBACK_PREDICTION_HORIZON_FRAMES`. -/
  | rollbackPredictionHorizonFrames
  /-- `MVL_STAGE`. -/
  | mvlStage
  /-- `MVL_STAGE_SEQUENCE`. -/
  | mvlStageSequence
  /-- `MVL_SCENE_SETTINGS`. -/
  | mvlSceneSettings
  /-- `MVL_COURSE_MODE`. -/
  | mvlCourseMode
  /-- `MVL_WINS`. -/
  | mvlWins
  /-- `MVL_BIG_STARS`. -/
  | mvlBigStars
  /-- `MVL_LIVES`. -/
  | mvlLives
  /-- `MVL_AUTO_RESTART_AFTER_RESULT`. -/
  | mvlAutoRestartAfterResult
  /-- `MVL_AUTO_RESTART_DELAY_FRAMES`. -/
  | mvlAutoRestartDelayFrames
  /-- `MVL_AUTO_RESTART_BOOTSTRAP_FRAME`. -/
  | mvlAutoRestartBootstrapFrame
  /-- `CLEAR_MVL_CAMERA_INIT_HOLD`. -/
  | clearMvlCameraInitHold
  /-- `CLEAR_MVL_CAMERA_INIT_HOLD_HOST_ONLY`. -/
  | clearMvlCameraInitHoldHostOnly
  /-- `CLEAR_MVL_CAMERA_INIT_HOLD_CLIENT_ONLY`. -/
  | clearMvlCameraInitHoldClientOnly
  /-- `CLEAR_MVL_CAMERA_INIT_HOLD_START_FRAME`. -/
  | clearMvlCameraInitHoldStartFrame
  /-- `CLEAR_MVL_CAMERA_INIT_HOLD_END_FRAME`. -/
  | clearMvlCameraInitHoldEndFrame
  /-- `NET_RANDOM_VALUE`. -/
  | netRandomValue
  /-- `NET_RANDOM_AUTO`. -/
  | netRandomAuto
  /-- `NET_RANDOM_FRAME`. -/
  | netRandomFrame
  /-- `MATCH_SEED`. -/
  | matchSeed
  /-- `MATCH_SEED_SEQUENCE`. -/
  | matchSeedSequence
  deriving DecidableEq, Repr

/-- `Environment::Get`. -/
abbrev Environment := Variable → Option Text

/-! ## Parsing a value -/

/-- `value && value[0]`. -/
def hasValue (value : Option Text) : Bool := value.any (· ≠ [])

/-- `ParseFlag`: neither empty nor `0`. -/
def parseFlag (value : Option Text) : Bool := value.any fun text => text ≠ [] ∧ text ≠ "0".toList

/-- `ValueOr`. -/
def valueOr (value : Option Text) (fallback : Text) : Text :=
  match value with
  | none => fallback
  | some text => if text = [] then fallback else text

/-- `ParseInt`: text without a number gives the fallback. -/
def parseInt (m : DataModel) (value : Option Text) (fallback : Int) : Int :=
  match value with
  | none => fallback
  | some text =>
    if text = [] then fallback
    else match strtol m text with
      | none => fallback
      | some parsed => i32 parsed

/-- `ParseU32`, likewise. -/
def parseU32 (m : DataModel) (value : Option Text) (fallback : Nat) : Nat :=
  match value with
  | none => fallback
  | some text => if text = [] then fallback else u32 (strtoul m text).1

/-- `ParseU32List`. -/
def parseU32List (m : DataModel) (value : Option Text) : List Nat :=
  match value with
  | none => []
  | some text =>
    (((getlines ',' text).map fun token => token.filter fun c => !isSpace c).filter
      (· ≠ [])).map fun token => u32 (strtoul m token).1

section Readers

variable (m : DataModel) (environment : Environment)

/-- `ReadFlag`. -/
def readFlag (name : Variable) : Bool := parseFlag (environment name)

/-- `ReadCString`. -/
def readCString (name : Variable) (fallback : Text) : Text := valueOr (environment name) fallback

/-- `ReadInt`. -/
def readInt (name : Variable) (fallback : Int) : Int := parseInt m (environment name) fallback

/-- `ReadU32`. -/
def readU32 (name : Variable) (fallback : Nat) : Nat := parseU32 m (environment name) fallback

/-- `ReadHasValue`. -/
def readHasValue (name : Variable) : Bool := hasValue (environment name)

/-- `ReadU32List`. -/
def readU32List (name : Variable) : List Nat := parseU32List m (environment name)

/-- `std::clamp(ReadInt(environment, name, fallback), low, high)`. -/
def readClamped (name : Variable) (fallback low high : Int) : Int :=
  max low (min (readInt m environment name fallback) high)

/-- `std::max(0, ReadInt(environment, name, fallback))`. -/
def readNatural (name : Variable) (fallback : Int) : Nat :=
  (readInt m environment name fallback).toNat

end Readers

/-! ## The connection and the inputs -/

/-- `ConnectionConfig`. -/
structure ConnectionConfig where
  /-- This process is the guest of the session. -/
  client : Bool := false
  /-- The input delay in frames. -/
  delay : Nat := 6
  /-- For so many frames no remote input is waited for. -/
  warmupFrames : Nat := 0
  /-- The port of the host. -/
  port : Int := 8065
  /-- The instance that is played here. -/
  localInstance : Int := 0
  /-- The configured baseline, which never changes. -/
  startFrame : Nat := 0
  /-- The raw frame at which the start handshake begins. -/
  localStartupRawFrame : Nat := 0
  /-- The frame from which both peers count, or 0. -/
  sharedLogicalEpoch : Nat := 0
  /-- A frame waits for the other player's input. -/
  localWaitsForRemote : Bool := true
  /-- The process ends when the input does not come. -/
  remoteInputTimeoutFatal : Bool := false
  /-- The address of the host. -/
  peerHost : Text := "127.0.0.1".toList
  deriving DecidableEq

/-- `LoadConnectionConfig`. -/
def loadConnectionConfig (m : DataModel) (environment : Environment) (testEnabled : Bool) :
    ConnectionConfig :=
  let role := if hasValue (environment .role) then environment .role else environment .lanRole
  let client := hasValue role && role == some "client".toList
  let delay := readNatural m environment .delay 6
  let startFrame := readNatural m environment .netplayStartFrame 0
  { client
    delay
    warmupFrames := readNatural m environment .netplayWarmupFrames
      (if testEnabled then delay * 2 else 0)
    port := readInt m environment .port 8065
    localInstance := readInt m environment .localInstance (if client then 1 else 0)
    startFrame
    localStartupRawFrame := startFrame
    sharedLogicalEpoch := startFrame
    localWaitsForRemote := !readFlag environment .noLocalWait
    remoteInputTimeoutFatal := readFlag environment .remoteInputTimeoutFatal
    peerHost := readCString environment .peer "127.0.0.1".toList }

/-- `InputConfig`, without what drops and traces packets. -/
structure InputConfig where
  /-- By how many frames a sent input is delayed, -/
  sendDelayFrames : Nat := 0
  /-- and how much is added to that at most. -/
  sendJitterFrames : Nat := 0
  /-- The first frame that is delayed. -/
  sendDelayStartFrame : Int := 0
  /-- The last one, or 0. -/
  sendDelayEndFrame : Int := 0
  /-- Inputs are sent in bundles. -/
  useHistoryBundle : Bool := false
  /-- How many older inputs a bundle repeats. -/
  bundleHistory : Int := 0
  /-- How many frames a peer may be ahead; negative for no limit. -/
  maxFrameLead : Int := -1
  /-- No second console runs in the process. -/
  netplayOnly : Bool := false
  /-- How long a wait sleeps between two looks. -/
  waitPollUs : Int := 100
  deriving DecidableEq

/-- `LoadInputConfig`. -/
def loadInputConfig (m : DataModel) (environment : Environment)
    (netplayOnlyForMaxFrameLeadDefault : Bool) : InputConfig :=
  let sendDelayStartFrame := readClamped m environment .inputSendDelayStartFrame 0 0 1000000
  let sendDelayEndFrame := readClamped m environment .inputSendDelayEndFrame 0 0 1000000
  { sendDelayFrames := readNatural m environment .inputSendDelayFrames 0
    sendJitterFrames := readNatural m environment .inputSendJitterFrames 0
    sendDelayStartFrame
    sendDelayEndFrame :=
      if sendDelayEndFrame ≠ 0 ∧ sendDelayEndFrame < sendDelayStartFrame then sendDelayStartFrame
      else sendDelayEndFrame
    useHistoryBundle := readFlag environment .inputUnreliable
    bundleHistory := readClamped m environment .inputBundleHistory 0 0 31
    maxFrameLead := readInt m environment .inputMaxFrameLead
      (if netplayOnlyForMaxFrameLeadDefault then 2 else -1)
    netplayOnly := readFlag environment .inputNetplayOnly
    waitPollUs := readClamped m environment .inputWaitPollUs 100 50 5000 }

/-! ## The rollback -/

/-- The name of a backend; any other text leaves the default. -/
def rollbackBackend (backend : Text) : RollbackBackend :=
  if backend = "corelite".toList ∨ backend = "core-lite".toList then .coreLite
  else if backend = "coresparse".toList ∨ backend = "core-sparse".toList then .coreSparse
  else if backend = "coredelta".toList ∨ backend = "core-delta".toList then .coreDelta
  else if backend = "coreframedelta".toList ∨
    backend = "core-frame-delta".toList then .coreFrameDelta
  else if backend = "corepreimage".toList ∨ backend = "core-preimage".toList then .corePreimage
  else if backend = "tinycorepreimage".toList ∨ backend = "tiny-core-preimage".toList then
    .tinyCorePreimage
  else if backend = "romloop".toList ∨ backend = "rom-loop".toList ∨
    backend = "slippi".toList then .romLoop
  else .savestate

/-- `LoadRollbackConfig`. -/
def loadRollbackConfig (m : DataModel) (environment : Environment) : RollbackConfig :=
  let modulo := readClamped m environment .rollbackPredictionProbeModulo 0 0 600
  let startFrame := readClamped m environment .rollbackPredictionProbeStartFrame 0 0 1000000
  let endFrame := readClamped m environment .rollbackPredictionProbeEndFrame 0 0 1000000
  let confirmDelay := readClamped m environment .rollbackPredictionProbeConfirmDelayFrames 0 0 180
  let pageSize := readClamped m environment .rollbackMainRAMPageSize 4096 256 4096
  { enabled := readFlag environment .rollback
    resimulate := readFlag environment .rollbackResimulate
    skipIntermediateResimCheckpoints :=
      readFlag environment .rollbackResimSkipIntermediateCheckpoints
    predictionProbeModulo := modulo
    predictionProbeOffset := readClamped m environment .rollbackPredictionProbeOffset 0 0
      (max 0 (modulo - 1))
    predictionProbeLimit := readClamped m environment .rollbackPredictionProbeLimit (-1) (-1) 10000
    predictionProbeStartFrame := startFrame.toNat
    predictionProbeEndFrame :=
      (if endFrame ≠ 0 ∧ endFrame < startFrame then startFrame else endFrame).toNat
    predictionProbeKeyMask :=
      UInt32.ofNat (readClamped m environment .rollbackPredictionProbeKeyMask 1 1 0xFFF).toNat
    predictionProbeConfirmDelayFrames :=
      if confirmDelay = 0 ∧ readFlag environment .rollbackPredictionProbeConfirmAfterOneFrame then 1
      else confirmDelay
    backend := rollbackBackend (readCString environment .rollbackBackend "savestate".toList)
    window := readClamped m environment .rollbackWindow 20 1 180
    checkpointInterval := readClamped m environment .rollbackCheckpointInterval 1 1 30
    deltaKeyframeInterval := readClamped m environment .rollbackDeltaKeyframeInterval 10 1 60
    mainRAMPageSize := if pageSize.toNat &&& (pageSize.toNat - 1) ≠ 0 then 4096 else pageSize
    resimulateDelayFrames := readClamped m environment .rollbackResimulateDelayFrames 0 0 30
    maxResimFrames := readClamped m environment .rollbackMaxResimFrames 0 0 30
    predictionHorizonFrames := readClamped m environment .rollbackPredictionHorizonFrames 0 0 10 }

/-! ## The match -/

/-- `MvlCameraInitHoldConfig`: when the hold of the camera is cleared. -/
structure MvlCameraInitHoldConfig where
  /-- It is cleared at all. -/
  enabled : Bool := false
  /-- On the host only. -/
  hostOnly : Bool := false
  /-- On the client only. -/
  clientOnly : Bool := false
  /-- From this frame on. -/
  startFrame : Nat := 840
  /-- Up to this one; 0 for no end. -/
  endFrame : Nat := 0
  deriving DecidableEq

/-- `MvlNetRandomConfig`: when a seed is written into the guest. -/
structure MvlNetRandomConfig where
  /-- It is written at all. -/
  enabled : Bool := false
  /-- When a game between two players begins, -/
  auto : Bool := false
  /-- or else in this frame. -/
  frame : Nat := 0
  /-- The seed. -/
  value : Nat := 0
  deriving DecidableEq

/-- How the stages of a match are chosen. -/
inductive CourseMode where
  /-- They are configured. -/
  | fixed
  /-- The seed of the match decides. -/
  | random
  /-- The players have selected them. -/
  | select
  deriving DecidableEq, Repr

/-- `MvlConfig`. -/
structure MvlConfig where
  /-- The first stage. -/
  stage : Int := 0
  /-- The stages of all games, if they are configured. -/
  stageSequence : List Int := []
  /-- The settings of the scene for the first stage. -/
  stageSceneSettings : Nat := 0x00B4FF00
  /-- How stages are chosen. -/
  courseMode : CourseMode := .fixed
  /-- The text that was none of the course modes. -/
  invalidCourseMode : Text := []
  /-- How many games win the match. -/
  targetWins : Int := 2
  /-- How many stars win a game. -/
  bigStarTarget : Int := 5
  /-- The configuration is written into the guest. -/
  runtimeConfigEnabled : Bool := false
  /-- The lives at the start of a game. -/
  initialLives : Nat := 3
  /-- Whether lives are counted, as the game knows it. -/
  lifeModeSelector : Nat := 2
  /-- How many stars win, as the game knows it. -/
  bigStarSelector : Nat := 1
  /-- The next game is started by the emulator. -/
  autoRestartAfterResult : Bool := false
  /-- For how many frames the result is shown. -/
  autoRestartDelayFrames : Nat := 120
  /-- When the checkpoint of the boot is saved. -/
  autoRestartBootstrapFrame : Nat := 120
  /-- When the hold of the camera is cleared. -/
  cameraInitHold : MvlCameraInitHoldConfig := {}
  /-- When the seed is written into the guest. -/
  netRandom : MvlNetRandomConfig := {}
  /-- There is a seed. -/
  matchSeedConfigured : Bool := false
  /-- The seed of the match. -/
  matchSeed : Nat := 0
  /-- The seeds of all games, if they are configured. -/
  matchSeedSequence : List Nat := []

/-- `ComposeMvlSceneSettingsForStage`. -/
def composeSceneSettingsForStage (stage : Int) : Nat :=
  ((0xB4 + (max 0 (min stage 4)).toNat) <<< 16) ||| 0xFF00

/-- The course mode of a text, if it is one. -/
def courseModeOf (text : Text) : Option CourseMode :=
  if text = "fixed".toList then some .fixed
  else if text = "random".toList then some .random
  else if text = "select".toList then some .select
  else none

/-- The three variables of the seed. -/
def loadNetRandom (m : DataModel) (environment : Environment) : MvlNetRandomConfig :=
  if readHasValue environment .netRandomValue then
    { enabled := true
      auto := readFlag environment .netRandomAuto
      value := readU32 m environment .netRandomValue 0
      frame := readNatural m environment .netRandomFrame 0 }
  else {}

/-- The seed of `NET_RANDOM_VALUE`, replaced by `MATCH_SEED`, replaced by the first of the
sequence. -/
def loadSeeds (m : DataModel) (environment : Environment) (config : MvlConfig) : MvlConfig :=
  let netRandom := loadNetRandom m environment
  let config := { config with
    netRandom
    matchSeed := netRandom.value
    matchSeedConfigured := netRandom.enabled }
  let config :=
    if readHasValue environment .matchSeed then
      { config with matchSeed := readU32 m environment .matchSeed 0, matchSeedConfigured := true }
    else config
  match readU32List m environment .matchSeedSequence with
  | [] => config
  | seed :: seeds =>
    { config with
      matchSeedSequence := seed :: seeds
      matchSeed := seed
      matchSeedConfigured := true
      netRandom := { netRandom with value := seed } }

/-- `LoadMvlConfig`. -/
def loadMvlConfig (m : DataModel) (environment : Environment) : MvlConfig :=
  let stageSequence := (readU32List m environment .mvlStageSequence).map fun (stage : Nat) =>
    max 0 (min (i32 stage) 4)
  let courseMode := readCString environment .mvlCourseMode "fixed".toList
  let bigStarTarget := readClamped m environment .mvlBigStars 5 3 10
  let lives := readCString environment .mvlLives "endless".toList
  loadSeeds m environment
    { stage := stageSequence.headD (readClamped m environment .mvlStage 0 0 4)
      stageSequence
      stageSceneSettings :=
        if readHasValue environment .mvlSceneSettings then
          readU32 m environment .mvlSceneSettings 0x00B4FF00
        else composeSceneSettingsForStage (i32 (readU32 m environment .mvlStage 0))
      courseMode := (courseModeOf courseMode).getD .fixed
      invalidCourseMode := if (courseModeOf courseMode).isNone then courseMode else []
      targetWins := readClamped m environment .mvlWins 2 1 3
      bigStarTarget
      runtimeConfigEnabled := readHasValue environment .mvlStage ||
        readHasValue environment .mvlSceneSettings
        || readHasValue environment .mvlBigStars || readHasValue environment .mvlLives
      initialLives := if lives = "5".toList then 5 else 3
      lifeModeSelector := if lives = "endless".toList ∨ lives = "Endless".toList then 2 else 0
      bigStarSelector := if bigStarTarget = 3 then 0 else if bigStarTarget = 10 then 2 else 1
      autoRestartAfterResult := readFlag environment .mvlAutoRestartAfterResult
      autoRestartDelayFrames := (max 1 (readInt m environment .mvlAutoRestartDelayFrames 120)).toNat
      autoRestartBootstrapFrame :=
        (readClamped m environment .mvlAutoRestartBootstrapFrame 120 0 1000000).toNat
      cameraInitHold :=
        { enabled := readFlag environment .clearMvlCameraInitHold
          hostOnly := readFlag environment .clearMvlCameraInitHoldHostOnly
          clientOnly := readFlag environment .clearMvlCameraInitHoldClientOnly
          startFrame := readNatural m environment .clearMvlCameraInitHoldStartFrame 840
          endFrame := readNatural m environment .clearMvlCameraInitHoldEndFrame 0 } }

end Bigstar.Netplay.Config
