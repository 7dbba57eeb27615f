import Bigstar.Lib.Listing
import Bigstar.Rom.Stubs

/-!
# What the stubs are meant to be

The listing of each stub for the address that it starts at: its instructions in their order, the
values of its literals, and the addresses that its branches and calls lead to.
-/

namespace Bigstar.Rom

open Arm

/-- Argument `i` and those after it are stored on the stack, from register 12. -/
def stackListing (i : Nat) (current : Option Nat) : List Nat → Listing
  | [] => []
  | value :: values =>
    (if current ≠ some value then [.imm 12 value] else []) ++
      .op 14 (.str 4 12 13 (i * 4)) :: stackListing (i + 1) (some value) values

/-- The stub that loads the level. -/
def directLoadlevelListing (loadLevel loadMvlFilesAfter : Nat) (config : DirectMvlConfig) :
    Listing :=
  .op 14 (.push 0x4010) :: .op 14 (.movReg 4 0) :: .op 14 (.ldr 4 12 4 0x16c) ::
    .op 14 (.cmp 12 0x77) ::
    .op 0 (.mov 0 1) :: .op 0 (.pop 0x8010) :: .op 14 (.mov 12 0x77) :: .op 14
      (.str 4 12 4 0x16c) ::
    .op 14 (.sub 13 13 0x38) :: .lit 4 MVL_RUNTIME_CONFIG_ADDR :: .op 14 (.ldr 4 12 4 0) ::
    .lit 0 MVL_RUNTIME_CONFIG_MAGIC :: .op 14 (.cmpReg 12 0) :: .op 14 (.mov 0 15) ::
      .op 14 (.mov 1 1) ::
    .op 14 (.mov 2 9) :: .op 14 (.mov 3 config.stage.toNat) :: .op 0 (.ldr 4 3 4 4) ::
    (stackListing 0 none (stackValues config) ++
    [.branch 14 true loadLevel, .branch 14 true loadMvlFilesAfter, .op 14 (.ldr 4 12 4 0),
      .lit 2 MVL_RUNTIME_CONFIG_MAGIC, .op 14 (.cmpReg 12 2),
      .lit 0 0x02088F38, .lit 1 config.sceneSettings.toNat, .op 0 (.ldr 4 1 4 8),
      .op 14 (.str 4 1 0 0), .lit 0 MVL_NATIVE_COURSE_SELECTOR_ADDR,
      .op 14 (.mov 1 config.stage.toNat), .op 0 (.ldr 4 1 4 4), .op 14 (.str 1 1 0 0),
      .lit 0 0x0208B364, .imm 1 config.initialLives.toNat, .op 0 (.ldr 4 1 4 12),
      .op 14 (.str 4 1 0 0), .op 14 (.str 4 1 0 4), .lit 0 0x0215C89C,
      .op 14 (.mov 1 config.lifeModeSelector.toNat), .op 0 (.ldr 4 1 4 16),
      .op 14 (.str 1 1 0 0),
      .lit 0 0x0215C88C, .op 14 (.mov 1 config.bigStarSelector.toNat), .op 0 (.ldr 4 1 4 20),
      .op 14 (.str 1 1 0 0),
      .lit 0 0x0208B094, .op 14 (.mov 1 0), .op 14 (.str 1 1 0 0), .op 14 (.mov 1 1),
      .op 14 (.str 1 1 0 1), .lit 0 0x0208B098, .op 14 (.mov 1 0), .op 14 (.str 1 1 0 0),
      .op 14 (.str 1 1 0 1), .lit 0 GAME_PLAYER_INVENTORY_POWERUP_ADDR, .op 14 (.mov 1 0),
      .op 14 (.str 1 1 0 0), .op 14 (.str 1 1 0 1), .lit 0 0x0208B0A0, .op 14 (.ldr 4 1 0 0),
      .op 14 (.add 2 1 20), .op 14 (.str 4 2 0 4), .lit 0 0x020887F0,
      .op 14 (.mov 1 (config.playerId.toNat &&& 3)), .op 14 (.str 4 1 0 0),
      .op 14 (.add 13 13 0x38), .op 14 (.mov 0 1), .op 14 (.pop 0x8010)])

/-- Register 2 gets a marker for each return address. -/
def markerListing (markers : List (Nat × Nat)) : Listing :=
  markers.flatMap fun (returnAddr, marker) =>
    [.lit 3 returnAddr, .op 14 (.cmpReg 2 3), .op 0 (.mov 2 marker)]

/-- The gate of the process lists. -/
def processStageListing : Listing :=
  .op 14 (.push 0x500F) :: .lit 1 STAGE_MARKER_ADDR :: .op 14 (.ldr 4 2 13 20) ::
    (markerListing [(DELETE_RETURN_ADDR, 7), (CREATE_RETURN_ADDR, 9), (UPDATE_RETURN_ADDR, 11)] ++
    .op 14 (.str 4 2 1 0) :: .op 14 (.ldr 4 0 13 0) :: .branch 14 true PROCESS_LIST_EXECUTE_ADDR ::
    .lit 1 STAGE_MARKER_ADDR :: .op 14 (.ldr 4 2 13 20) ::
    (markerListing [(DELETE_RETURN_ADDR, 8), (CREATE_RETURN_ADDR, 10), (UPDATE_RETURN_ADDR, 12)] ++
    [.op 14 (.str 4 2 1 0), .op 14 (.pop 0x900F)]))

/-- The gate at the start of the loop. -/
def inputGateListing (start inputUpdate : Nat) : Listing :=
  [.lit 3 HISTORY_ENABLED_ADDR, .op 14 (.ldr 4 12 3 0), .op 14 (.cmp 12 0),
    .branch 0 false (start + 73 * 4),
    .lit 3 HISTORY_INDEX_ADDR, .op 14 (.ldr 4 12 3 0), .lit 2 HISTORY_COUNT_ADDR,
    .op 14 (.ldr 4 2 2 0), .op 14 (.cmpReg 12 2), .branch 2 false (start + 79 * 4),
    .op 14 (.cmp 12 0), .branch 1 false (start + 21 * 4),
    .lit 2 HISTORY_START_FRAME_ADDR, .op 14 (.ldr 4 1 2 0), .lit 2 GAME_FRAME_ADDR,
    .op 14 (.ldr 4 2 2 0), .op 14 (.cmpReg 2 1), .branch 1 false (start + 73 * 4),
    .lit 2 STAGE_MARKER_ADDR, .op 14 (.mov 1 1), .op 14 (.str 4 1 2 0),
    -- 21: the target of the replay
    .lit 2 HISTORY_TARGET_ADDR, .op 14 (.ldr 4 1 2 0), .op 14 (.cmp 1 0),
    .branch 0 false (start + 47 * 4), .op 14 (.cmp 12 0), .branch 1 false (start + 35 * 4),
    .lit 1 ACTIVE_ADDR, .op 14 (.mov 0 1), .op 14 (.str 4 0 1 0), .lit 1 REQUEST_ADDR,
    .lit 0 HISTORY_COUNT_ADDR, .op 14 (.ldr 4 0 0 0), .op 14 (.sub 0 0 1), .op 14 (.str 4 0 1 0),
    -- 35: the last entry is rendered
    .lit 0 HISTORY_TARGET_ADDR, .op 14 (.ldr 4 0 0 0), .op 14 (.cmp 0 0),
    .branch 0 false (start + 47 * 4), .lit 0 HISTORY_COUNT_ADDR, .op 14 (.ldr 4 0 0 0),
    .op 14 (.sub 0 0 1), .op 14 (.cmpReg 12 0), .branch 1 false (start + 47 * 4),
    .lit 0 ACTIVE_ADDR, .op 14 (.mov 1 0), .op 14 (.str 4 1 0 0),
    -- 47: the entry is presented
    .lit 2 STAGE_MARKER_ADDR, .op 14 (.mov 1 2), .op 14 (.str 4 1 2 0), .lit 2 HISTORY_ADDR,
    .op 14 (.addLsl 2 2 12 4), .op 14 (.ldr 2 0 2 0), .op 14 (.ldr 2 1 2 2), .op 14 (.ldr 2 12 2 4),
    .op 14 (.ldr 4 3 2 8), .op 14 (.ldr 4 2 2 12), .lit 14 JIT_SCRATCH_TICK_ADDR,
    .op 14 (.str 2 0 14 0), .op 14 (.str 2 1 14 8), .op 14 (.str 2 12 14 10),
    .op 14 (.str 2 0 14 64), .op 14 (.str 2 1 14 66), .op 14 (.str 4 3 14 68),
    .op 14 (.str 2 0 14 128), .op 14 (.str 2 12 14 130), .op 14 (.str 4 2 14 132),
    .lit 2 PACKET_TICK_ADDR, .op 14 (.str 2 0 2 0), .lit 3 HISTORY_INDEX_ADDR,
    .op 14 (.ldr 4 2 3 0), .op 14 (.add 2 2 1), .op 14 (.str 4 2 3 0),
    -- 73: the call, and the way back to the loop
    .branch 14 true inputUpdate, .lit 2 STAGE_MARKER_ADDR, .op 14 (.mov 1 3), .op 14 (.str 4 1 2 0),
    .lit 14 0x02004ECC, .branch 14 false 0x02004ECC,
    -- 79: the history is exhausted
    .branch 14 false start]

/-- The stub for a camera that is not there. -/
def cameraFallbackListing : Listing :=
  [.op 14 (.push 0x4010), .lit 3 0x020CAD8C, .op 14 (.ldrLsl 12 3 2 2), .op 14 (.cmp 12 0),
    .op 0 (.mov 2 0), .lit 12 0x020CAD94, .op 14 (.ldr 4 14 1 4), .lit 3 0x020CAD8C,
    .op 14 (.ldr 4 4 0 100), .op 14 (.ldrLsl 12 12 2 2), .op 14 (.ldrLsl 0 3 2 2),
    .op 14 (.addLsl 2 4 14 0), .op 14 (.addLsl 0 12 0 0), .op 14 (.ldr 4 1 1 12),
    .op 14 (.add 2 2 0x18000), .op 14 (.addLsl 1 2 1 0), .op 14 (.rsb 0 0 0), .op 14 (.cmpReg 1 0),
    .op 11 (.mov 0 1), .op 10 (.mov 0 0), .op 14 (.pop 0x8010)]

/-- The stub that plays a sound for eight coins. -/
def eightCoinListing (getPlayer playSfx : Nat) : Listing :=
  [.op 14 (.push 0x4010), .op 14 (.movReg 0 5), .branch 14 true getPlayer, .op 14 (.add 1 0 0x5c),
    .lit 0 EIGHT_COIN_SFX_ID, .branch 14 true playSfx, .op 14 (.pop 0x8010)]

/-- The stubs that are generated for an address, with the addresses and values that they are
given. -/
inductive Stub where
  /-- The stub that loads the level. -/
  | directLoadlevel (loadLevel loadMvlFilesAfter : Nat) (config : DirectMvlConfig)
  /-- The gate of the process lists. -/
  | processStageGate
  /-- The gate at the start of the loop. -/
  | inputGate (inputUpdate : Nat)
  /-- The stub for a camera that is not there. -/
  | cameraFallback
  /-- The stub that plays a sound for eight coins. -/
  | eightCoin (getPlayer playSfx : Nat)

namespace Stub

/-- Its words, as the source builds them. -/
def build (start : Nat) : Stub → Except EncodeError (List Nat)
  | directLoadlevel loadLevel loadMvlFilesAfter config =>
    Build.words (buildDirectLoadlevelStub start loadLevel loadMvlFilesAfter config)
  | processStageGate => Build.words (buildGameTickProcessStageGate start)
  | inputGate inputUpdate => Build.words (buildGameTickInputGate start inputUpdate)
  | cameraFallback => Build.words (buildIsOutOfViewVerticalCameraFallbackStub start)
  | eightCoin getPlayer playSfx => buildEightCoinRewardPositionalSfxStub start getPlayer playSfx

/-- What it is meant to be. -/
def listing (start : Nat) : Stub → Listing
  | directLoadlevel loadLevel loadMvlFilesAfter config =>
    directLoadlevelListing loadLevel loadMvlFilesAfter config
  | processStageGate => processStageListing
  | inputGate inputUpdate => inputGateListing start inputUpdate
  | cameraFallback => cameraFallbackListing
  | eightCoin getPlayer playSfx => eightCoinListing getPlayer playSfx

end Stub

end Bigstar.Rom
