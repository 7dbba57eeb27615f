import Bigstar.Lib.Arm

/-!
# The gates of the game tick

The instruction encoders of `binary.rs` and the code that `patch_game_tick_probe` puts into the ARM9
binary. Four hooks of the main loop branch to gates, which replay a history of inputs: the input
gate copies one entry into the packets of the game, the font gate and the render gate skip their
calls while more ticks are to come, and the loop gate goes back to the start of the loop instead of
waiting for the next frame.
-/

namespace Bigstar.Rom

/-! ## Encoders -/

/-- The errors of the encoders and of the builders of gates. -/
inductive EncodeError where
  /-- No rotation of eight bits is the value. -/
  | immediate (imm : Nat)
  /-- The offset of a load or store is too large. -/
  | offset (name : String) (off : Nat)
  /-- The shift is too large. -/
  | shift (shift : Nat)
  /-- A branch leads to no instruction. -/
  | unalignedBranch (dst src : Nat)
  /-- A branch leads too far. -/
  | branchRange (dst src : Nat)
  /-- A literal lies before the instruction that loads it. -/
  | literalBefore
  /-- A literal lies too far behind it, or is not aligned. -/
  | literalRange (literal instruction : Nat)
  /-- The entries of the history have another size. -/
  | entrySize (bytes : Nat)
  /-- The history does not fit into main RAM. -/
  | historyEnd (historyEnd : Nat)
  /-- A gate reaches into what comes after it. -/
  | overlap (gateEnd limit : Nat)
  deriving DecidableEq, Repr

/-- `u32::rotate_left`. -/
def rotateLeft (value count : Nat) : Nat :=
  value <<< count % 0x100000000 ||| value >>> (32 - count)

/-- `encode_arm_imm12`: an immediate of eight bits, rotated. -/
def encodeArmImm12 (imm : Nat) : Except EncodeError Nat :=
  match (List.range 16).find? fun rot => rotateLeft imm (rot * 2) ≤ 0xff with
  | some rot => .ok (rot <<< 8 ||| rotateLeft imm (rot * 2))
  | none => .error (.immediate imm)

/-- `encode_mov_imm`. -/
def encodeMovImm (rd imm : Nat) : Except EncodeError Nat := do
  return 0xE3A00000 ||| rd <<< 12 ||| (← encodeArmImm12 imm)

/-- `encode_add_imm`. -/
def encodeAddImm (rd rn imm : Nat) : Except EncodeError Nat := do
  return 0xE2800000 ||| rn <<< 16 ||| rd <<< 12 ||| (← encodeArmImm12 imm)

/-- `encode_sub_imm`. -/
def encodeSubImm (rd rn imm : Nat) : Except EncodeError Nat := do
  return 0xE2400000 ||| rn <<< 16 ||| rd <<< 12 ||| (← encodeArmImm12 imm)

/-- Loads and stores of words, with an offset of twelve bits. -/
def encodeWordAccess (name : String) (opcode rd rn off : Nat) : Except EncodeError Nat :=
  if off > 0xfff then .error (.offset name off)
  else .ok (opcode ||| rn <<< 16 ||| rd <<< 12 ||| off)

/-- Loads and stores of halfwords, with an offset of eight bits in two parts. -/
def encodeHalfAccess (name : String) (opcode rd rn off : Nat) : Except EncodeError Nat :=
  if off > 0xff then .error (.offset name off)
  else .ok (opcode ||| rn <<< 16 ||| rd <<< 12 ||| (off &&& 0xf0) <<< 4 ||| off &&& 0x0f)

/-- `encode_str_imm`. -/
def encodeStrImm := encodeWordAccess "STR" 0xE5800000
/-- `encode_ldr_imm`. -/
def encodeLdrImm := encodeWordAccess "LDR" 0xE5900000
/-- `encode_strh_imm`. -/
def encodeStrhImm := encodeHalfAccess "STRH" 0xE1C000B0
/-- `encode_ldrh_imm`. -/
def encodeLdrhImm := encodeHalfAccess "LDRH" 0xE1D000B0

/-- `encode_cmp_imm`. -/
def encodeCmpImm (rn imm : Nat) : Except EncodeError Nat := do
  return 0xE3500000 ||| rn <<< 16 ||| (← encodeArmImm12 imm)

/-- `encode_cmp_reg`. -/
def encodeCmpReg (rn rm : Nat) : Nat := 0xE1500000 ||| rn <<< 16 ||| rm

/-- `encode_add_reg_lsl`. -/
def encodeAddRegLsl (rd rn rm shift : Nat) : Except EncodeError Nat :=
  if shift > 31 then .error (.shift shift)
  else .ok (0xE0800000 ||| rn <<< 16 ||| rd <<< 12 ||| shift <<< 7 ||| rm)

/-- `with_cond`: the word under another condition. -/
def withCond (word cond : Nat) : Nat := word &&& 0x0fffffff ||| (cond &&& 0xf) <<< 28

/-- The offset of a branch counts words from two instructions on. -/
def encodeBranch (opcode src dst : Nat) : Except EncodeError Nat :=
  let diff : Int := dst - (src + 8)
  if diff % 4 ≠ 0 then .error (.unalignedBranch dst src)
  else
    let off := diff / 4
    if off < -0x800000 ∨ 0x800000 ≤ off then .error (.branchRange dst src)
    else .ok (opcode ||| (off % 0x1000000).toNat)

/-- `encode_bl`. -/
def encodeBl (src dst : Nat) : Except EncodeError Nat := encodeBranch 0xEB000000 src dst
/-- `encode_b`. -/
def encodeB (src dst : Nat) : Except EncodeError Nat := encodeBranch 0xEA000000 src dst

/-- `encode_ldr_pc_literal`: a load relative to the instruction. -/
def encodeLdrPcLiteral (rd instruction literal cond : Nat) : Except EncodeError Nat :=
  let pc := instruction + 8
  if literal < pc then .error .literalBefore
  else
    let off := literal - pc
    if off > 0xfff ∨ off % 4 ≠ 0 then .error (.literalRange literal instruction)
    else .ok (cond <<< 28 ||| 0x059F0000 ||| rd <<< 12 ||| off)

/-! ## Addresses -/

/-- How many more ticks the loop is to run. -/
def REQUEST_ADDR : Nat := 0x02001AC0
/-- Not 0 while there are ticks to come in this frame. -/
def ACTIVE_ADDR : Nat := 0x02001AC4
/-- Not 0 while inputs are taken from the history. -/
def HISTORY_ENABLED_ADDR : Nat := 0x02001ACC
/-- The next entry. -/
def HISTORY_INDEX_ADDR : Nat := 0x02001AD0
/-- How many entries there are. -/
def HISTORY_COUNT_ADDR : Nat := 0x02001AD4
/-- Not 0 if all of them are to be run at once. -/
def HISTORY_TARGET_ADDR : Nat := 0x02001AD8
/-- The game frame of the first entry. -/
def HISTORY_START_FRAME_ADDR : Nat := 0x02001ADC
/-- The entries. -/
def HISTORY_ADDR : Nat := 0x023C1300
/-- There is room for so many. -/
def HISTORY_CAPACITY : Nat := 12
/-- The size of each. -/
def HISTORY_ENTRY_BYTES : Nat := 16
/-- The tick of the game's packets. -/
def PACKET_TICK_ADDR : Nat := 0x020888E0
/-- The scratch area, with the packets of both players. -/
def JIT_SCRATCH_TICK_ADDR : Nat := 0x023C1200
/-- The frames that the game counts. -/
def GAME_FRAME_ADDR : Nat := 0x0208B668
/-- Where the gates leave a mark of how far the frame has come. -/
def STAGE_MARKER_ADDR : Nat := 0x04FFFA28
/-- Not 0 if replayed ticks are rendered, too. -/
def REPLAY_RENDER_ADDR : Nat := 0x04FFFA2C

/-- The hook at the start of the loop. -/
def LOOP_START_ADDR : Nat := 0x02004EC8
/-- The hook at the update of the font. -/
def FONT_HOOK_ADDR : Nat := 0x02004EEC
/-- The hook at the end of the loop. -/
def COUNTER_TAIL_HOOK_ADDR : Nat := 0x02004EFC
/-- What comes after it. -/
def COUNTER_TAIL_RETURN_ADDR : Nat := 0x02004F00
/-- The hook where the render list is executed. -/
def RENDER_HOOK_ADDR : Nat := 0x0204D5EC
/-- What comes after it. -/
def RENDER_RETURN_ADDR : Nat := 0x0204D5F0
/-- The function at the font hook. -/
def FONT_UPDATE_ADDR : Nat := 0x02014A44
/-- The function at the render hook. -/
def PROCESS_LIST_EXECUTE_ADDR : Nat := 0x0204D46C
/-- The function at the end of the loop. -/
def OS_TICK_ADDR : Nat := 0x01FF9010
/-- The gate at the end of the loop. -/
def LOOP_GATE_ADDR : Nat := 0x020019C0
/-- The gate at the font hook. -/
def FONT_GATE_ADDR : Nat := 0x02001A20
/-- The gate at the render hook. -/
def RENDER_GATE_ADDR : Nat := 0x02001A60
/-- The gate at the start of the loop. -/
def INPUT_GATE_ADDR : Nat := 0x02001B40
/-- The gate of the other process lists. -/
def PROCESS_STAGE_GATE_ADDR : Nat := 0x02001D00
/-- The function at the start of the loop. -/
def INPUT_UPDATE_ADDR : Nat := 0x02005230

/-! ## The input gate -/

/-- A gate while it is built: its words, the literals that follow them, and the words that load a
literal, each with its register, the index of the literal and its condition. -/
structure Gate where
  /-- The words so far. -/
  words : List Nat := []
  /-- The values of the literals. -/
  literals : List Nat := []
  /-- The loads that refer to them. -/
  refs : List (Nat × Nat × Nat × Nat) := []

/-- A part of a builder, which may fail. -/
abbrev Build := StateT Gate (Except EncodeError)

namespace Build

/-- Appends a word. -/
def push (word : Except EncodeError Nat) : Build Unit := do
  let word ← word
  modify fun g => { g with words := g.words ++ [word] }

/-- The index of the next word. -/
def next : Build Nat := do
  return (← get).words.length

/-- A word that is filled in later. -/
def hole : Build Nat := do
  let index ← next
  push (.ok 0)
  return index

/-- The closure `emit`: a load of a literal. -/
def emit (rd value : Nat) : Build Unit :=
  modify fun g =>
    { words := g.words ++ [0]
      literals := g.literals ++ [value]
      refs := g.refs ++ [(g.words.length, rd, g.literals.length, 0xE)] }

/-- Fills a word in. -/
def fill (index : Nat) (word : Except EncodeError Nat) : Build Unit := do
  let word ← word
  modify fun g => { g with words := g.words.set index word }

/-- A conditional branch from one word of the gate to another. -/
def branch (start index target cond : Nat) : Build Unit :=
  fill index (do return withCond (← encodeB (start + index * 4) (start + target * 4)) cond)

/-- The loads of literals are encoded, and the literals appended. -/
def link (start : Nat) : Build Unit := do
  let g ← get
  let literalStart := start + g.words.length * 4
  for ref in g.refs do
    fill ref.1 (encodeLdrPcLiteral ref.2.1 (start + ref.1 * 4)
      (literalStart + ref.2.2.1 * 4) ref.2.2.2)
  modify fun g => { g with words := g.words ++ g.literals }

end Build

open Build in
/-- `build_game_tick_input_gate`. -/
def buildGameTickInputGate (start inputUpdate : Nat) : Build Unit := do
  if HISTORY_ENTRY_BYTES ≠ 16 then throw (.entrySize HISTORY_ENTRY_BYTES)
  let historyEnd := HISTORY_ADDR + HISTORY_CAPACITY * HISTORY_ENTRY_BYTES
  if historyEnd > 0x02400000 then throw (.historyEnd historyEnd)
  emit 3 HISTORY_ENABLED_ADDR
  push (encodeLdrImm 12 3 0)
  push (encodeCmpImm 12 0)
  let inactiveBranch ← hole
  emit 3 HISTORY_INDEX_ADDR
  push (encodeLdrImm 12 3 0)
  emit 2 HISTORY_COUNT_ADDR
  push (encodeLdrImm 2 2 0)
  push (.ok (encodeCmpReg 12 2))
  let exhaustedBranch ← hole
  push (encodeCmpImm 12 0)
  let transactionStartedBranch ← hole
  emit 2 HISTORY_START_FRAME_ADDR
  push (encodeLdrImm 1 2 0)
  emit 2 GAME_FRAME_ADDR
  push (encodeLdrImm 2 2 0)
  push (.ok (encodeCmpReg 2 1))
  let wrongFrameBranch ← hole
  emit 2 STAGE_MARKER_ADDR
  push (encodeMovImm 1 1)
  push (encodeStrImm 1 2 0)
  let targetCheckIndex ← next
  emit 2 HISTORY_TARGET_ADDR
  push (encodeLdrImm 1 2 0)
  push (encodeCmpImm 1 0)
  let nonTargetBranch ← hole
  push (encodeCmpImm 12 0)
  let alreadyStartedBranch ← hole
  emit 1 ACTIVE_ADDR
  push (encodeMovImm 0 1)
  push (encodeStrImm 0 1 0)
  emit 1 REQUEST_ADDR
  emit 0 HISTORY_COUNT_ADDR
  push (encodeLdrImm 0 0 0)
  push (encodeSubImm 0 0 1)
  push (encodeStrImm 0 1 0)
  let finalRenderCheckIndex ← next
  emit 0 HISTORY_TARGET_ADDR
  push (encodeLdrImm 0 0 0)
  push (encodeCmpImm 0 0)
  let finalRenderNonTargetBranch ← hole
  emit 0 HISTORY_COUNT_ADDR
  push (encodeLdrImm 0 0 0)
  push (encodeSubImm 0 0 1)
  push (.ok (encodeCmpReg 12 0))
  let finalRenderNotLastBranch ← hole
  emit 0 ACTIVE_ADDR
  push (encodeMovImm 1 0)
  push (encodeStrImm 1 0 0)
  let historyLoadIndex ← next
  emit 2 STAGE_MARKER_ADDR
  push (encodeMovImm 1 2)
  push (encodeStrImm 1 2 0)
  emit 2 HISTORY_ADDR
  push (encodeAddRegLsl 2 2 12 4)
  push (encodeLdrhImm 0 2 0)
  push (encodeLdrhImm 1 2 2)
  push (encodeLdrhImm 12 2 4)
  -- each metadata word is the packet's action, touch, x and y byte
  push (encodeLdrImm 3 2 8)
  push (encodeLdrImm 2 2 12)
  emit 14 JIT_SCRATCH_TICK_ADDR
  push (encodeStrhImm 0 14 0)
  push (encodeStrhImm 1 14 8)
  push (encodeStrhImm 12 14 10)
  push (encodeStrhImm 0 14 0x40)
  push (encodeStrhImm 1 14 0x42)
  push (encodeStrImm 3 14 0x44)
  push (encodeStrhImm 0 14 0x80)
  push (encodeStrhImm 12 14 0x82)
  push (encodeStrImm 2 14 0x84)
  emit 2 PACKET_TICK_ADDR
  push (encodeStrhImm 0 2 0)
  emit 3 HISTORY_INDEX_ADDR
  push (encodeLdrImm 2 3 0)
  push (encodeAddImm 2 2 1)
  push (encodeStrImm 2 3 0)
  let callIndex ← next
  push (encodeBl (start + callIndex * 4) inputUpdate)
  emit 2 STAGE_MARKER_ADDR
  push (encodeMovImm 1 3)
  push (encodeStrImm 1 2 0)
  emit 14 0x02004ECC
  push (encodeB (start + (← next) * 4) 0x02004ECC)
  let spinIndex ← next
  push (encodeB (start + spinIndex * 4) start)
  branch start inactiveBranch callIndex 0
  branch start exhaustedBranch spinIndex 2
  branch start wrongFrameBranch callIndex 1
  branch start transactionStartedBranch targetCheckIndex 1
  branch start nonTargetBranch historyLoadIndex 0
  branch start alreadyStartedBranch finalRenderCheckIndex 1
  branch start finalRenderNonTargetBranch historyLoadIndex 0
  branch start finalRenderNotLastBranch historyLoadIndex 1
  link start

/-! ## The other gates -/

/-- The words of a gate, if all of them could be encoded. -/
def assemble (words : List (Except EncodeError Nat)) : Except EncodeError (List Nat) :=
  words.mapM id

/-- A conditional branch of a gate that is written out. -/
def condB (src dst cond : Nat) : Except EncodeError Nat := do
  return withCond (← encodeB src dst) cond

/-- The gate at the end of the loop: back to the start as long as ticks are requested. -/
def loopGate : Except EncodeError (List Nat) :=
  assemble
    [encodeLdrPcLiteral 3 LOOP_GATE_ADDR (LOOP_GATE_ADDR + 0x58) 0xE,
      encodeMovImm 12 6,
      encodeStrImm 12 3 0,
      encodeLdrPcLiteral 3 (LOOP_GATE_ADDR + 0x0C) (LOOP_GATE_ADDR + 0x4C) 0xE,
      encodeLdrImm 12 3 0,
      encodeCmpImm 12 0,
      condB (LOOP_GATE_ADDR + 0x18) (LOOP_GATE_ADDR + 0x34) 0,
      encodeSubImm 12 12 1,
      encodeStrImm 12 3 0,
      encodeLdrPcLiteral 3 (LOOP_GATE_ADDR + 0x24) (LOOP_GATE_ADDR + 0x50) 0xE,
      encodeMovImm 12 1,
      encodeStrImm 12 3 0,
      encodeB (LOOP_GATE_ADDR + 0x30) LOOP_START_ADDR,
      encodeLdrPcLiteral 3 (LOOP_GATE_ADDR + 0x34) (LOOP_GATE_ADDR + 0x50) 0xE,
      encodeMovImm 12 0,
      encodeStrImm 12 3 0,
      encodeBl (LOOP_GATE_ADDR + 0x40) OS_TICK_ADDR,
      encodeLdrPcLiteral 14 (LOOP_GATE_ADDR + 0x44) (LOOP_GATE_ADDR + 0x54) 0xE,
      encodeB (LOOP_GATE_ADDR + 0x48) COUNTER_TAIL_RETURN_ADDR,
      .ok REQUEST_ADDR,
      .ok ACTIVE_ADDR,
      .ok COUNTER_TAIL_RETURN_ADDR,
      .ok STAGE_MARKER_ADDR]

/-- The gate at the font hook. -/
def fontGate : Except EncodeError (List Nat) :=
  assemble
    [encodeLdrPcLiteral 12 FONT_GATE_ADDR (FONT_GATE_ADDR + 0x1C) 0xE,
      encodeLdrImm 12 12 0,
      encodeCmpImm 12 0,
      condB (FONT_GATE_ADDR + 0x0C) (FONT_GATE_ADDR + 0x14) 1,
      encodeBl (FONT_GATE_ADDR + 0x10) FONT_UPDATE_ADDR,
      encodeLdrPcLiteral 14 (FONT_GATE_ADDR + 0x14) (FONT_GATE_ADDR + 0x20) 0xE,
      encodeB (FONT_GATE_ADDR + 0x18) (FONT_HOOK_ADDR + 4),
      .ok ACTIVE_ADDR,
      .ok (FONT_HOOK_ADDR + 4)]

/-- The gate at the render hook. -/
def renderGate : Except EncodeError (List Nat) :=
  assemble
    [encodeLdrPcLiteral 3 RENDER_GATE_ADDR (RENDER_GATE_ADDR + 0x44) 0xE,
      encodeMovImm 12 4,
      encodeStrImm 12 3 0,
      encodeLdrPcLiteral 12 (RENDER_GATE_ADDR + 0x0C) (RENDER_GATE_ADDR + 0x48) 0xE,
      encodeLdrImm 12 12 0,
      encodeCmpImm 12 0,
      condB (RENDER_GATE_ADDR + 0x18) (RENDER_GATE_ADDR + 0x2C) 0,
      encodeLdrPcLiteral 12 (RENDER_GATE_ADDR + 0x1C) (RENDER_GATE_ADDR + 0x4C) 0xE,
      encodeLdrImm 12 12 0,
      encodeCmpImm 12 0,
      condB (RENDER_GATE_ADDR + 0x28) (RENDER_GATE_ADDR + 0x30) 0,
      encodeBl (RENDER_GATE_ADDR + 0x2C) PROCESS_LIST_EXECUTE_ADDR,
      encodeLdrPcLiteral 3 (RENDER_GATE_ADDR + 0x30) (RENDER_GATE_ADDR + 0x44) 0xE,
      encodeMovImm 12 5,
      encodeStrImm 12 3 0,
      encodeLdrPcLiteral 14 (RENDER_GATE_ADDR + 0x3C) (RENDER_GATE_ADDR + 0x50) 0xE,
      encodeB (RENDER_GATE_ADDR + 0x40) RENDER_RETURN_ADDR,
      .ok STAGE_MARKER_ADDR,
      .ok ACTIVE_ADDR,
      .ok REPLAY_RENDER_ADDR,
      .ok RENDER_RETURN_ADDR]

/-- The gate at the start of the loop, which must end before what comes after it. -/
def inputGate : Except EncodeError (List Nat) := do
  let (_, gate) ← (buildGameTickInputGate INPUT_GATE_ADDR INPUT_UPDATE_ADDR).run {}
  let gateEnd := INPUT_GATE_ADDR + gate.words.length * 4
  if gateEnd > PROCESS_STAGE_GATE_ADDR then throw (.overlap gateEnd PROCESS_STAGE_GATE_ADDR)
  return gate.words

/-- The words that `patch_game_tick_probe` writes for the four gates and their hooks. The gate of
the process lists only writes the stage marker, and belongs to the body of the game here. -/
def patchGameTickProbe : Except EncodeError Arm.Image := do
  let hook (src dst : Nat) : Except EncodeError (Nat × List Nat) := do
    return (src, [← encodeB src dst])
  return [(LOOP_GATE_ADDR, ← loopGate), (FONT_GATE_ADDR, ← fontGate),
    (RENDER_GATE_ADDR, ← renderGate), (INPUT_GATE_ADDR, ← inputGate),
    ← hook LOOP_START_ADDR INPUT_GATE_ADDR, ← hook FONT_HOOK_ADDR FONT_GATE_ADDR,
    ← hook COUNTER_TAIL_HOOK_ADDR LOOP_GATE_ADDR, ← hook RENDER_HOOK_ADDR RENDER_GATE_ADDR]

end Bigstar.Rom
