import Bigstar.Rom.GameTickGates

/-!
# The stubs of the match loader

The other code that is generated for the patched binary: the stub that loads the level of a match,
the gate of the process lists, the fallback for the vertical camera and the sound of the eighth
coin. Each one is built for the address that it starts at, and ends with its literals.
-/

namespace Bigstar.Rom

/-! ## Encoders -/

/-- `encode_load_imm`: the value, or its complement, as an immediate. -/
def encodeLoadImm (rd imm : Nat) : Except EncodeError Nat :=
  match encodeMovImm rd imm with
  | .ok word => .ok word
  | .error _ => do
    -- the complement of the complement
    return 0xE3E00000 ||| rd <<< 12 ||| (← encodeArmImm12 (0xffffffff - imm))

/-- `encode_add_sp_imm`. -/
def encodeAddSpImm (imm : Nat) : Except EncodeError Nat := do
  return 0xE28DD000 ||| (← encodeArmImm12 imm)

/-- `encode_sub_sp_imm`. -/
def encodeSubSpImm (imm : Nat) : Except EncodeError Nat := do
  return 0xE24DD000 ||| (← encodeArmImm12 imm)

/-- `encode_rsb_imm`. -/
def encodeRsbImm (rd rn imm : Nat) : Except EncodeError Nat := do
  return 0xE2600000 ||| rn <<< 16 ||| rd <<< 12 ||| (← encodeArmImm12 imm)

/-- `encode_strb_imm`. -/
def encodeStrbImm := encodeWordAccess "STRB" 0xE5C00000

/-- `encode_ldr_reg_lsl`. -/
def encodeLdrRegLsl (rd rn rm shift : Nat) : Except EncodeError Nat :=
  if shift > 31 then .error (.shift shift)
  else .ok (0xE7900000 ||| rn <<< 16 ||| rd <<< 12 ||| shift <<< 7 ||| rm)

/-- `encode_mov_reg`. -/
def encodeMovReg (rd rm : Nat) : Nat := 0xE1A00000 ||| rd <<< 12 ||| rm

/-- `encode_add_reg`. -/
def encodeAddReg (rd rn rm : Nat) : Nat := 0xE0800000 ||| rn <<< 16 ||| rd <<< 12 ||| rm

/-- `encode_push`. -/
def encodePush (regmask : Nat) : Nat := 0xE92D0000 ||| regmask

/-- Takes the program counter from the stack; other registers are added. -/
def POP_PC : Nat := 0xE8BD8000

namespace Build

/-- An instruction under another condition. -/
def pushCond (word : Except EncodeError Nat) (cond : Nat) : Build Unit :=
  push (do return withCond (← word) cond)

/-- A call of a function from the next word. -/
def call (start dst : Nat) : Build Unit := do
  let index ← next
  push (encodeBl (start + index * 4) dst)

/-- The words of a stub. -/
def words (build : Build Unit) : Except EncodeError (List Nat) := do
  let (_, gate) ← build.run {}
  return gate.words

end Build

/-! ## The stub that loads the level -/

/-- The configuration that a stub is built with. -/
structure DirectMvlConfig where
  /-- The stage. -/
  stage : UInt8
  /-- The local player. -/
  playerId : UInt8
  /-- The settings of the scene. -/
  sceneSettings : UInt32
  /-- The lives at the start. -/
  initialLives : UInt32
  /-- Whether lives are counted. -/
  lifeModeSelector : UInt32
  /-- How many stars win. -/
  bigStarSelector : UInt32

/-- Where the emulator writes the configuration of a match. -/
def MVL_RUNTIME_CONFIG_ADDR : Nat := 0x020C5360
/-- "MVLC" -/
def MVL_RUNTIME_CONFIG_MAGIC : Nat := 0x434C564D
/-- The stage in the block, as in the next four offsets. -/
def MVL_RUNTIME_CONFIG_STAGE_OFFSET : Nat := 0x04
/-- The settings of the scene. -/
def MVL_RUNTIME_CONFIG_SCENE_SETTINGS_OFFSET : Nat := 0x08
/-- The lives at the start. -/
def MVL_RUNTIME_CONFIG_INITIAL_LIVES_OFFSET : Nat := 0x0C
/-- Whether lives are counted. -/
def MVL_RUNTIME_CONFIG_LIFE_MODE_SELECTOR_OFFSET : Nat := 0x10
/-- How many stars win. -/
def MVL_RUNTIME_CONFIG_BIG_STAR_SELECTOR_OFFSET : Nat := 0x14
/-- The stage as the game's menu knows it. -/
def MVL_NATIVE_COURSE_SELECTOR_ADDR : Nat := 0x0215C890
/-- What both players keep in reserve. -/
def GAME_PLAYER_INVENTORY_POWERUP_ADDR : Nat := 0x0208B32C

/-- The arguments of `loadLevel` on the stack, from `act` to `rngSeed`. -/
def stackValues (config : DirectMvlConfig) : List Nat :=
  [0, config.playerId.toNat, 3, 0, 1, 0, 0xff, 1, 1, 0xff, 0, 0, 0xffffffff]

open Build

/-- The loop over the arguments on the stack, from argument `i` on. A value that register 12 already
has is not loaded again. -/
def pushStackValues (i : Nat) (current : Option Nat) : List Nat → Build Unit
  | [] => pure ()
  | value :: values => do
    if current ≠ some value then push (encodeLoadImm 12 value)
    push (encodeStrImm 12 13 (i * 4))
    pushStackValues (i + 1) (some value) values

/-- `build_direct_loadlevel_stub`. -/
def buildDirectLoadlevelStub (start loadLevel loadMvlFilesAfter : Nat) (config : DirectMvlConfig) :
    Build Unit := do
  push (.ok (encodePush (1 <<< 4 ||| 1 <<< 14)))
  push (.ok (encodeMovReg 4 0))
  push (encodeLdrImm 12 4 0x16c)
  push (encodeCmpImm 12 0x77)
  pushCond (encodeMovImm 0 1) 0
  pushCond (.ok (POP_PC ||| 1 <<< 4)) 0
  push (encodeMovImm 12 0x77)
  push (encodeStrImm 12 4 0x16c)
  push (encodeSubSpImm 0x38)
  emit 4 MVL_RUNTIME_CONFIG_ADDR
  push (encodeLdrImm 12 4 0)
  emit 0 MVL_RUNTIME_CONFIG_MAGIC
  push (.ok (encodeCmpReg 12 0))
  push (encodeMovImm 0 0x0f)
  push (encodeMovImm 1 1)
  push (encodeMovImm 2 9)
  push (encodeMovImm 3 config.stage.toNat)
  pushCond (encodeLdrImm 3 4 MVL_RUNTIME_CONFIG_STAGE_OFFSET) 0
  pushStackValues 0 none (stackValues config)
  call start loadLevel
  call start loadMvlFilesAfter
  push (encodeLdrImm 12 4 0)
  emit 2 MVL_RUNTIME_CONFIG_MAGIC
  push (.ok (encodeCmpReg 12 2))
  emit 0 0x02088F38
  emit 1 config.sceneSettings.toNat
  pushCond (encodeLdrImm 1 4 MVL_RUNTIME_CONFIG_SCENE_SETTINGS_OFFSET) 0
  push (encodeStrImm 1 0 0)
  emit 0 MVL_NATIVE_COURSE_SELECTOR_ADDR
  push (encodeMovImm 1 config.stage.toNat)
  pushCond (encodeLdrImm 1 4 MVL_RUNTIME_CONFIG_STAGE_OFFSET) 0
  push (encodeStrbImm 1 0 0)
  emit 0 0x0208B364
  push (encodeLoadImm 1 config.initialLives.toNat)
  pushCond (encodeLdrImm 1 4 MVL_RUNTIME_CONFIG_INITIAL_LIVES_OFFSET) 0
  push (encodeStrImm 1 0 0)
  push (encodeStrImm 1 0 4)
  emit 0 0x0215C89C
  push (encodeMovImm 1 config.lifeModeSelector.toNat)
  pushCond (encodeLdrImm 1 4 MVL_RUNTIME_CONFIG_LIFE_MODE_SELECTOR_OFFSET) 0
  push (encodeStrbImm 1 0 0)
  emit 0 0x0215C88C
  push (encodeMovImm 1 config.bigStarSelector.toNat)
  pushCond (encodeLdrImm 1 4 MVL_RUNTIME_CONFIG_BIG_STAR_SELECTOR_OFFSET) 0
  push (encodeStrbImm 1 0 0)
  emit 0 0x0208B094
  push (encodeMovImm 1 0)
  push (encodeStrbImm 1 0 0)
  push (encodeMovImm 1 1)
  push (encodeStrbImm 1 0 1)
  emit 0 0x0208B098
  push (encodeMovImm 1 0)
  push (encodeStrbImm 1 0 0)
  push (encodeStrbImm 1 0 1)
  emit 0 GAME_PLAYER_INVENTORY_POWERUP_ADDR
  push (encodeMovImm 1 0)
  push (encodeStrbImm 1 0 0)
  push (encodeStrbImm 1 0 1)
  emit 0 0x0208B0A0
  push (encodeLdrImm 1 0 0)
  push (encodeAddImm 2 1 0x14)
  push (encodeStrImm 2 0 4)
  emit 0 0x020887F0
  push (encodeMovImm 1 (config.playerId.toNat &&& 3))
  push (encodeStrImm 1 0 0)
  push (encodeAddSpImm 0x38)
  push (encodeMovImm 0 1)
  push (.ok (POP_PC ||| 1 <<< 4))
  link start

/-! ## The gate of the process lists -/

/-- The return address of the call for the list of what is deleted. -/
def DELETE_RETURN_ADDR : Nat := 0x0204D5B4
/-- For the list of what is created. -/
def CREATE_RETURN_ADDR : Nat := 0x0204D5C8
/-- For the list of what is updated. -/
def UPDATE_RETURN_ADDR : Nat := 0x0204D5DC

/-- Register 2 gets the marker of the return address that it has. -/
def selectMarker : List (Nat × Nat) → Build Unit
  | [] => pure ()
  | (returnAddr, marker) :: rest => do
    emit 3 returnAddr
    push (.ok (encodeCmpReg 2 3))
    pushCond (encodeMovImm 2 marker) 0
    selectMarker rest

/-- `build_game_tick_process_stage_gate`. -/
def buildGameTickProcessStageGate (start : Nat) : Build Unit := do
  -- six registers keep the stack aligned
  push (.ok (encodePush (1 <<< 0 ||| 1 <<< 1 ||| 1 <<< 2 ||| 1 <<< 3 ||| 1 <<< 12 ||| 1 <<< 14)))
  emit 1 STAGE_MARKER_ADDR
  push (encodeLdrImm 2 13 20)
  selectMarker [(DELETE_RETURN_ADDR, 7), (CREATE_RETURN_ADDR, 9), (UPDATE_RETURN_ADDR, 11)]
  push (encodeStrImm 2 1 0)
  push (encodeLdrImm 0 13 0)
  call start PROCESS_LIST_EXECUTE_ADDR
  emit 1 STAGE_MARKER_ADDR
  push (encodeLdrImm 2 13 20)
  selectMarker [(DELETE_RETURN_ADDR, 8), (CREATE_RETURN_ADDR, 10), (UPDATE_RETURN_ADDR, 12)]
  push (encodeStrImm 2 1 0)
  push (.ok 0xE8BD900F)
  link start

/-! ## The camera and the sound of the eighth coin -/

/-- `build_is_out_of_view_vertical_camera_fallback_stub`. -/
def buildIsOutOfViewVerticalCameraFallbackStub (start : Nat) : Build Unit := do
  push (.ok (encodePush (1 <<< 4 ||| 1 <<< 14)))
  emit 3 0x020CAD8C
  push (encodeLdrRegLsl 12 3 2 2)
  push (encodeCmpImm 12 0)
  pushCond (encodeMovImm 2 0) 0
  emit 12 0x020CAD94
  push (encodeLdrImm 14 1 4)
  emit 3 0x020CAD8C
  push (encodeLdrImm 4 0 0x64)
  push (encodeLdrRegLsl 12 12 2 2)
  push (encodeLdrRegLsl 0 3 2 2)
  push (.ok (encodeAddReg 2 4 14))
  push (.ok (encodeAddReg 0 12 0))
  push (encodeLdrImm 1 1 0x0c)
  push (encodeAddImm 2 2 0x18000)
  push (.ok (encodeAddReg 1 2 1))
  push (encodeRsbImm 0 0 0)
  push (.ok 0xE1510000)
  pushCond (encodeMovImm 0 1) 0xB
  pushCond (encodeMovImm 0 0) 0xA
  push (.ok (POP_PC ||| 1 <<< 4))
  link start

/-- The sound of eight coins. -/
def EIGHT_COIN_SFX_ID : Nat := 0x017E

/-- This stub is written out, its literal is at a fixed offset. -/
def buildEightCoinRewardPositionalSfxStub (start getPlayer playSfx : Nat) :
    Except EncodeError (List Nat) :=
  let literal := start + 0x1c
  assemble
    [.ok (encodePush (1 <<< 4 ||| 1 <<< 14)),
      .ok (encodeMovReg 0 5),
      encodeBl (start + 0x08) getPlayer,
      encodeAddImm 1 0 0x5c,
      encodeLdrPcLiteral 0 (start + 0x10) literal 0xE,
      encodeBl (start + 0x14) playSfx,
      .ok (POP_PC ||| 1 <<< 4),
      .ok EIGHT_COIN_SFX_ID]

end Bigstar.Rom
