import Bigstar.Rom.GameTickReplay
import Bigstar.Rom.StubListings

/-!
# The level is loaded

The stub that loads the level, run by the processor. It stands in memory beside the scene, its own
frame on the stack and the words that it writes, and calls two functions of the game, which return
by the calling convention. The block of the runtime configuration, if its magic word is there,
replaces the values that the stub was built with.
-/

namespace Bigstar.Rom

open Arm

/-- The word of a scene that the stub marks. -/
def sceneState (scene : Nat) : Nat := scene + 0x16c

/-- The block of the runtime configuration, and what the stub reads and writes beside it. -/
def stubData : List (Nat × Nat) :=
  [(MVL_RUNTIME_CONFIG_ADDR, 0x18), (0x02088F38, 4),
    (MVL_NATIVE_COURSE_SELECTOR_ADDR, 1), (0x0208B364, 8), (0x0215C89C, 1), (0x0215C88C, 1),
    (0x0208B094, 2), (0x0208B098, 2), (GAME_PLAYER_INVENTORY_POWERUP_ADDR, 2),
    (0x0208B0A0, 8), (0x020887F0, 4)]

/-- Two ranges of addresses have nothing in common. -/
def Apart (addr length addr' length' : Nat) : Prop := addr + length ≤ addr' ∨ addr' + length' ≤ addr

instance (addr length addr' length' : Nat) : Decidable (Apart addr length addr' length') :=
  inferInstanceAs (Decidable (_ ∨ _))

/-- Where the stub, the scene and the stack are, and the functions that are called. -/
structure LoadLayout (start : Nat) (words : List Nat) (loadLevel loadMvlFilesAfter scene sp : Nat) :
    Prop where
  /-- The code is a multiple of words from the start of memory. -/
  start_aligned : start % 4 = 0
  /-- The scene is aligned. -/
  scene_aligned : scene % 4 = 0
  /-- Its word is within the address space. -/
  scene_lt : sceneState scene + 4 ≤ 0x100000000
  /-- The stack is aligned. -/
  sp_aligned : sp % 4 = 0
  /-- There is room for the frame of the stub. -/
  frame_le : 0x40 ≤ sp
  /-- The stack pointer is an address. -/
  sp_lt : sp < 0x100000000
  /-- The code is apart from the frame, -/
  code_frame : Apart start (4 * words.length) (sp - 0x40) 0x40
  /-- from the scene, -/
  code_scene : Apart start (4 * words.length) (sceneState scene) 4
  /-- and from the data. -/
  code_data : ∀ d ∈ stubData, Apart start (4 * words.length) d.1 d.2
  /-- The frame is apart from the scene, -/
  frame_scene : Apart (sp - 0x40) 0x40 (sceneState scene) 4
  /-- and from the data. -/
  frame_data : ∀ d ∈ stubData, Apart (sp - 0x40) 0x40 d.1 d.2
  /-- The scene is apart from the data. -/
  scene_data : ∀ d ∈ stubData, Apart (sceneState scene) 4 d.1 d.2
  /-- The functions that are called have addresses, -/
  entries_lt : ∀ entry ∈ [loadLevel, loadMvlFilesAfter], entry < 0x100000000
  /-- which are not in the stub. -/
  entries_outside : ∀ entry ∈ [loadLevel, loadMvlFilesAfter],
    entry < start ∨ start + 4 * words.length ≤ entry

/-! ## The functions that are called -/

/-- The function at an entry, up to its return, by the number of the calls before. -/
abbrev Callees := Nat → Nat → Cpu → Cpu

/-- The calling convention: a function returns to its caller with the saved registers, and leaves
the frame of its caller alone behind the arguments. The code and the runtime configuration stay. -/
structure Callees.Contract (call : Callees) (start : Nat) (words : List Nat) : Prop where
  /-- A function returns to its caller. -/
  returns : ∀ time entry s, (call time entry s).pc = s.reg 14
  /-- It hands the saved registers back. -/
  saved : ∀ time entry s, ∀ r ∈ savedRegs, (call time entry s).reg r = s.reg r
  /-- It leaves the caller's frame alone, behind the arguments. -/
  frame : ∀ time entry s addr, s.reg 13 + 0x34 ≤ addr → addr < s.reg 13 + 0x40 →
    (call time entry s).mem addr = s.mem addr
  /-- It does not write over the stub, -/
  code : ∀ time entry s addr, start ≤ addr → addr < start + 4 * words.length →
    (call time entry s).mem addr = s.mem addr
  /-- nor over the runtime configuration. -/
  config : ∀ time entry s addr, MVL_RUNTIME_CONFIG_ADDR ≤ addr →
    addr < MVL_RUNTIME_CONFIG_ADDR + 0x18 →
    (call time entry s).mem addr = s.mem addr

/-- The functions leave the mark of the scene alone. -/
def Callees.KeepMark (call : Callees) (scene : Nat) : Prop :=
  ∀ time entry s, Arm.load 4 (call time entry s).mem (sceneState scene) =
    Arm.load 4 s.mem (sceneState scene)

/-! ## The run of the stub -/

/-- The processor in the stub. -/
structure LoadRun where
  /-- Its state. -/
  cpu : Cpu
  /-- The functions that were called, with the state at the call. -/
  calls : List (Nat × Cpu) := []

/-- One instruction, or one of the two functions. -/
def LoadRun.step (entries : List Nat) (call : Callees) (x : LoadRun) : Option LoadRun :=
  if x.cpu.pc ∈ entries then
    some { cpu := call x.calls.length x.cpu.pc x.cpu, calls := x.calls ++ [(x.cpu.pc, x.cpu)] }
  else (Arm.step plain x.cpu).map fun cpu => { x with cpu }

/-- The stub gets from one state to another. -/
def LoadRun.Reaches (entries : List Nat) (call : Callees) : LoadRun → LoadRun → Prop :=
  Relation.ReflTransGen fun x x' => x.step entries call = some x'

/-- A value of the configuration: that of the runtime block if its magic word is there, else the one
that the stub was built with. -/
def chosen (m : Memory) (off baked : Nat) : Nat :=
  if Arm.load 4 m MVL_RUNTIME_CONFIG_ADDR = MVL_RUNTIME_CONFIG_MAGIC then
    Arm.load 4 m (MVL_RUNTIME_CONFIG_ADDR + off)
  else baked

/-- The stub has returned 1 to its caller, with the saved registers. -/
structure Returned (s t : Cpu) : Prop where
  /-- It is back at the caller. -/
  pc : t.pc = s.reg 14
  /-- It returns 1. -/
  result : t.reg 0 = 1
  /-- The saved registers are the caller's. -/
  saved : ∀ r ∈ savedRegs, t.reg r = s.reg r

/-- The arguments of `loadLevel`. -/
structure LevelArguments (config : DirectMvlConfig) (m : Memory) (t : Cpu) : Prop where
  /-- The scene. -/
  r0 : t.reg 0 = 0xf
  /-- The mode for two players. -/
  r1 : t.reg 1 = 1
  /-- The group of the stage. -/
  r2 : t.reg 2 = 9
  /-- The stage that was chosen. -/
  stage : t.reg 3 = chosen m MVL_RUNTIME_CONFIG_STAGE_OFFSET config.stage.toNat
  /-- The other arguments are on the stack. -/
  stack : ∀ i value, (stackValues config)[i]? = some value →
    Arm.load 4 t.mem (t.reg 13 + 4 * i) = value

/-- The settings of the game are those of the configuration that was chosen. Selectors are bytes. -/
structure Configured (config : DirectMvlConfig) (m : Memory) (m' : Memory) : Prop where
  /-- The settings of the next scene. -/
  sceneSettings : Arm.load 4 m' 0x02088F38 =
    chosen m MVL_RUNTIME_CONFIG_SCENE_SETTINGS_OFFSET config.sceneSettings.toNat
  /-- The selector of the course. -/
  course : Arm.load 1 m' MVL_NATIVE_COURSE_SELECTOR_ADDR =
    chosen m MVL_RUNTIME_CONFIG_STAGE_OFFSET config.stage.toNat % 0x100
  /-- The lives of both players. -/
  lives : ∀ player < 2, Arm.load 4 m' (0x0208B364 + 4 * player) =
    chosen m MVL_RUNTIME_CONFIG_INITIAL_LIVES_OFFSET config.initialLives.toNat
  /-- The selector of the life mode. -/
  lifeMode : Arm.load 1 m' 0x0215C89C =
    chosen m MVL_RUNTIME_CONFIG_LIFE_MODE_SELECTOR_OFFSET config.lifeModeSelector.toNat % 0x100
  /-- The selector of the stars to win. -/
  bigStars : Arm.load 1 m' 0x0215C88C =
    chosen m MVL_RUNTIME_CONFIG_BIG_STAR_SELECTOR_OFFSET config.bigStarSelector.toNat % 0x100

/-- The level was loaded once, with one configuration. -/
structure LevelLoaded (loadLevel loadMvlFilesAfter : Nat) (config : DirectMvlConfig)
    (s : Cpu) (x : LoadRun) : Prop where
  /-- The stub has returned. -/
  returned : Returned s x.cpu
  /-- The level was loaded, and then its files. -/
  calls : ∃ t t', x.calls = [(loadLevel, t), (loadMvlFilesAfter, t')] ∧
    LevelArguments config s.mem t
  /-- The game is configured. -/
  configured : Configured config s.mem x.cpu.mem

/-- Nothing was called, and nothing but the frame was written. -/
structure Idle (s : Cpu) (x : LoadRun) : Prop where
  /-- The stub has returned. -/
  returned : Returned s x.cpu
  /-- No function was called. -/
  calls : x.calls = []
  /-- Memory is what it was, but for the frame. -/
  mem : ∀ addr, addr < s.reg 13 - 8 ∨ s.reg 13 ≤ addr → x.cpu.mem addr = s.mem addr

end Bigstar.Rom
