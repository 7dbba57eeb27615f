import Bigstar.Launcher.Settings
import Bigstar.Netplay.NetplayConfig

/-!
# The environment of the emulator

`melon_env` of `processes.rs`: the variables that the launcher starts the emulator with. Variables
of the launcher itself are removed from the environment, so that these are all that the emulator
sees.

The variables that no modelled configuration reads are left out: the paths of logs, diagnostics, the
watchdog and the recovery, and switches of the console.
-/

namespace Bigstar.Launcher

open CText Netplay.Config

/-- The two sides of a match. -/
inductive Role where
  /-- The side that plays Mario and decides the settings. -/
  | host
  /-- The side that plays Luigi. -/
  | client
  deriving DecidableEq, Repr

/-- The fields of a request that `melon_env` reads. -/
structure LaunchRequest where
  /-- Whether the launcher hosts the match. -/
  role : Role
  /-- The UDP port of the emulator. -/
  port : UInt16
  /-- The settings of the match. -/
  settings : GameSettings
  /-- Whether the emulator is told to log more. -/
  detailedLogsEnabled : Bool := false

/-- `NETPLAY_START_FRAME`. -/
def netplayStartFrame : Nat := 840

/-- `ROM_LOOP_PREDICTION_HORIZON_FRAMES`. -/
def romLoopPredictionHorizonFrames : Nat := 7

/-- The text of a course mode in the environment. -/
def courseModeValue : CourseMode → Text
  | .random => "random".toList
  | .select => "select".toList

/-- The text of the lives in the environment. -/
def livesValue : Lives → Text
  | .three => "3".toList
  | .five => "5".toList
  | .endless => "endless".toList

/-- `join(",")`. -/
def joinComma (parts : List Text) : Text := [','].intercalate parts

/-- `melon_env`: the environment that the emulator is started with. -/
def melonEnv (request : LaunchRequest) : Environment
  | .role => match request.role with
    | .host => some "host".toList
    | .client => some "client".toList
  | .port => some (decimal request.port.toNat)
  | .localInstance => match request.role with
    | .host => some "0".toList
    | .client => some "1".toList
  | .inputNetplayOnly => some "1".toList
  | .remoteInputTimeoutFatal => some "1".toList
  | .delay => some (decimal request.settings.inputDelayFrames.toNat)
  | .inputMaxFrameLead =>
    if request.settings.rollbackEnabled then some "-1".toList
    else some (decimal request.settings.inputMaxFrameLead.toNat)
  | .inputUnreliable => some "1".toList
  | .inputBundleHistory =>
    if request.settings.rollbackEnabled then some "11".toList else some "8".toList
  | .inputNetplayTrace => if request.detailedLogsEnabled then some "1".toList else none
  | .inputHealthTrace => some "1".toList
  | .inputHealthTraceInterval =>
    if request.detailedLogsEnabled then some "30".toList else some "120".toList
  | .inputHealthTraceWaitThresholdMs =>
    if request.detailedLogsEnabled then some "1".toList else some "16".toList
  | .rollback => if request.settings.rollbackEnabled then some "1".toList else none
  | .rollbackBackend => if request.settings.rollbackEnabled then some "romloop".toList else none
  | .rollbackWindow => if request.settings.rollbackEnabled then some "16".toList else none
  | .rollbackCheckpointInterval =>
    if request.settings.rollbackEnabled then some "1".toList else none
  | .rollbackResimulate => if request.settings.rollbackEnabled then some "1".toList else none
  | .rollbackMaxResimFrames =>
    if request.settings.rollbackEnabled then some (decimal romLoopPredictionHorizonFrames) else none
  | .rollbackPredictionHorizonFrames =>
    if request.settings.rollbackEnabled then some (decimal romLoopPredictionHorizonFrames) else none
  | .rollbackDeltaKeyframeInterval =>
    if request.settings.rollbackEnabled then some "30".toList else none
  | .rollbackMainRAMPageSize => if request.settings.rollbackEnabled then some "256".toList else none
  | .netplayStartFrame => some (decimal netplayStartFrame)
  | .clearMvlCameraInitHold => some "1".toList
  | .clearMvlCameraInitHoldStartFrame => some (decimal netplayStartFrame)
  | .mvlStage => some (decimal ((selectedStage request.settings 0).getD 0))
  | .mvlStageSequence =>
    some (joinComma (request.settings.courseStages.map fun stage => decimal stage.toNat))
  | .peer => match request.role with
    | .host => none
    | .client => some "127.0.0.1".toList
  | .mvlCourseMode => some (courseModeValue request.settings.courseMode)
  | .mvlWins => some (decimal request.settings.wins.toNat)
  | .mvlBigStars => some (decimal request.settings.bigStars.toNat)
  | .mvlLives => some (livesValue request.settings.lives)
  | .mvlAutoRestartAfterResult => some "1".toList
  | .mvlAutoRestartDelayFrames => some "120".toList
  | .matchSeedSequence =>
    if request.settings.rngSeeds = [] then none
    else some (joinComma (request.settings.rngSeeds.map Trim))
  | .matchSeed =>
    if Trim request.settings.matchSeed = [] then none else some (Trim request.settings.matchSeed)
  | _ => none

end Bigstar.Launcher
