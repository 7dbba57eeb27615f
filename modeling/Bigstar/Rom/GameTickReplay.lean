import Bigstar.Rom.GameTickGates
import Mathlib.Logic.Relation

/-!
# The patched main loop

The gates run in the middle of a game that is known only by its manners: functions return to the
link register and keep the saved registers, the body of the loop comes from one hook to the next,
counts the game frame once, and nothing outside of the gates touches the control words, the history
or the gates themselves. The game may do something else each time it runs. The machine remembers in
which state the game came to a hook and in which states it was entered again, so that the two can be
compared.
-/

namespace Bigstar.Rom

open Arm

/-- The control words. -/
structure Control where
  /-- How many more ticks are to be run. -/
  request : Nat
  /-- There are ticks to come in this frame. -/
  active : Nat
  /-- Inputs are taken from the history. -/
  enabled : Nat
  /-- The next entry. -/
  index : Nat
  /-- How many entries there are. -/
  count : Nat
  /-- All of them are to be run at once. -/
  target : Nat
  /-- The game frame of the first entry. -/
  startFrame : Nat
  /-- Replayed ticks are rendered, too. -/
  replayRender : Nat
  deriving DecidableEq, Repr

/-- The control words in a memory. -/
def controlOf (m : Memory) : Control where
  request := load 4 m REQUEST_ADDR
  active := load 4 m ACTIVE_ADDR
  enabled := load 4 m HISTORY_ENABLED_ADDR
  index := load 4 m HISTORY_INDEX_ADDR
  count := load 4 m HISTORY_COUNT_ADDR
  target := load 4 m HISTORY_TARGET_ADDR
  startFrame := load 4 m HISTORY_START_FRAME_ADDR
  replayRender := load 4 m REPLAY_RENDER_ADDR

/-- The fields of an entry of the history. -/
structure Entry where
  /-- The tick. -/
  tick : Nat
  /-- The keys of player 0. -/
  keys0 : Nat
  /-- The keys of player 1. -/
  keys1 : Nat
  /-- Action and touch of player 0. -/
  metadata0 : Nat
  /-- Action and touch of player 1. -/
  metadata1 : Nat
  deriving DecidableEq, Repr

/-- An entry of the history in a memory. -/
def entryAt (m : Memory) (index : Nat) : Entry where
  tick := load 2 m (HISTORY_ADDR + 16 * index)
  keys0 := load 2 m (HISTORY_ADDR + 16 * index + 2)
  keys1 := load 2 m (HISTORY_ADDR + 16 * index + 4)
  metadata0 := load 4 m (HISTORY_ADDR + 16 * index + 8)
  metadata1 := load 4 m (HISTORY_ADDR + 16 * index + 12)

/-- The scratch packets and the packet tick hold the entry. -/
structure Sees (m : Memory) (e : Entry) : Prop where
  /-- The tick of the scratch area. -/
  tick : load 2 m JIT_SCRATCH_TICK_ADDR = e.tick
  /-- The keys of player 0. -/
  keys0 : load 2 m (JIT_SCRATCH_TICK_ADDR + 8) = e.keys0
  /-- The keys of player 1. -/
  keys1 : load 2 m (JIT_SCRATCH_TICK_ADDR + 10) = e.keys1
  /-- The packet of player 0: its tick, -/
  packetTick0 : load 2 m (JIT_SCRATCH_TICK_ADDR + 0x40) = e.tick
  /-- its keys, -/
  packetKeys0 : load 2 m (JIT_SCRATCH_TICK_ADDR + 0x42) = e.keys0
  /-- its action and touch. -/
  packetMetadata0 : load 4 m (JIT_SCRATCH_TICK_ADDR + 0x44) = e.metadata0
  /-- The packet of player 1: its tick, -/
  packetTick1 : load 2 m (JIT_SCRATCH_TICK_ADDR + 0x80) = e.tick
  /-- its keys, -/
  packetKeys1 : load 2 m (JIT_SCRATCH_TICK_ADDR + 0x82) = e.keys1
  /-- its action and touch. -/
  packetMetadata1 : load 4 m (JIT_SCRATCH_TICK_ADDR + 0x84) = e.metadata1
  /-- The tick of the game's packets. -/
  packetTick : load 2 m PACKET_TICK_ADDR = e.tick

/-- The frame that the game counts. -/
def gameFrame (m : Memory) : Nat := load 4 m GAME_FRAME_ADDR

/-- The registers that a called function hands back unchanged. -/
def savedRegs : List Nat := [4, 5, 6, 7, 8, 9, 10, 11, 13]

/-! ## The game -/

/-- The two hooks between the start and the end of the loop. -/
inductive Hook where
  /-- Where the render list is executed. -/
  | render
  /-- Where the font is updated. -/
  | font
  deriving DecidableEq, Repr

namespace Hook

/-- The address of the hook. -/
def addr : Hook → Nat
  | render => RENDER_HOOK_ADDR
  | font => FONT_HOOK_ADDR

/-- Where the body goes on after the hook. -/
def ret : Hook → Nat
  | render => RENDER_RETURN_ADDR
  | font => FONT_HOOK_ADDR + 4

/-- The function that is called there. -/
def callee : Hook → Nat
  | render => PROCESS_LIST_EXECUTE_ADDR
  | font => FONT_UPDATE_ADDR

/-- There are two of them. -/
def other : Hook → Hook
  | render => font
  | font => render

end Hook

/-- The code outside of the gates. Its effects depend on the number of times that it has run. -/
structure Game where
  /-- The function at an entry, up to its return. -/
  call : Nat → Nat → Cpu → Cpu
  /-- The body of the loop, up to the next hook. -/
  body : Nat → Cpu → Cpu
  /-- The hook that the body comes to first. -/
  first : Hook
  /-- The stretch of the body in which the game frame is counted, by its address. -/
  counter : Nat

/-- The addresses that only the gates and the emulator write. -/
def Protected (image : Image) (addr : Nat) : Prop :=
  (∃ seg ∈ image, seg.1 ≤ addr ∧ addr < seg.1 + 4 * seg.2.length) ∨
    (REQUEST_ADDR ≤ addr ∧ addr < HISTORY_START_FRAME_ADDR + 4) ∨
    (REPLAY_RENDER_ADDR ≤ addr ∧ addr < REPLAY_RENDER_ADDR + 4) ∨
    (HISTORY_ADDR ≤ addr ∧ addr < HISTORY_ADDR + HISTORY_CAPACITY * HISTORY_ENTRY_BYTES)

/-- The protected memory is the same. -/
def Keeps (image : Image) (m m' : Memory) : Prop := ∀ addr, Protected image addr → m' addr = m addr

/-- The hook that the body reaches from the address at which it is entered. -/
def Game.next (g : Game) (addr : Nat) : Nat :=
  if addr = LOOP_START_ADDR + 4 then g.first.addr
  else if addr = g.first.ret then g.first.other.addr
  else COUNTER_TAIL_HOOK_ADDR

/-- What is known of the game. -/
structure Game.Contract (g : Game) (image : Image) : Prop where
  /-- A function returns to its caller. -/
  call_returns : ∀ time entry s, (g.call time entry s).pc = s.reg 14
  /-- It hands the saved registers back. -/
  call_saved : ∀ time entry s, ∀ r ∈ savedRegs, (g.call time entry s).reg r = s.reg r
  /-- It leaves the protected memory alone. -/
  call_keeps : ∀ time entry s, Keeps image s.mem (g.call time entry s).mem
  /-- It does not count frames. -/
  call_frame : ∀ time entry s, gameFrame (g.call time entry s).mem = gameFrame s.mem
  /-- The body comes to the next hook. -/
  body_next : ∀ time s, s.pc ∈ [LOOP_START_ADDR + 4, g.first.ret, g.first.other.ret] →
    (g.body time s).pc = g.next s.pc
  /-- It leaves the protected memory alone. -/
  body_keeps : ∀ time s, Keeps image s.mem (g.body time s).mem
  /-- It counts the frame in one of its stretches. -/
  body_frame : ∀ time s, gameFrame (g.body time s).mem =
    if s.pc = g.counter then (gameFrame s.mem + 1) % 0x100000000 else gameFrame s.mem
  /-- That is one of the three. -/
  counter_mem : g.counter ∈ [LOOP_START_ADDR + 4, g.first.ret, g.first.other.ret]

/-! ## The machine -/

/-- An entry into the game: at a function that is called, or where the body goes on. -/
structure Passage where
  /-- The state in which the game came to the hook. -/
  hook : Cpu
  /-- The state in which the function that was called at the hook came back, once one was called. -/
  returned : Option Cpu
  /-- The state in which the game is entered. -/
  enter : Cpu

/-- The registers that take the arguments of a call. -/
def argRegs : List Nat := [0, 1, 2]

/-- The functions of the hooks that take arguments from the game. -/
def takesArgs : List Nat := [PROCESS_LIST_EXECUTE_ADDR, FONT_UPDATE_ADDR, OS_TICK_ADDR]

/-- The game is entered as if there were only the call at the hook: the saved registers are those of
the hook, so are the arguments of a call (the update of the input takes none), the result of the
call is handed on, and outside of `writes` the memory is that of the hook or of the function that
came back. -/
structure Passage.Faithful (writes : Nat → Prop) (p : Passage) : Prop where
  /-- `r4` to `r11` and the stack pointer are the game's. -/
  saved : ∀ r ∈ savedRegs, p.enter.reg r = p.hook.reg r
  /-- A function of the hooks gets the arguments of the game. -/
  args : p.enter.pc ∈ takesArgs → ∀ r ∈ argRegs, p.enter.reg r = p.hook.reg r
  /-- The game gets the result of the function. -/
  result : ∀ t, p.returned = some t → p.enter.reg 0 = t.reg 0
  /-- Nothing else is written in between. -/
  mem : ∀ addr, ¬ writes addr → p.enter.mem addr = (p.returned.getD p.hook).mem addr

/-- The processor in the loop, with what it has done so far. -/
structure Machine where
  /-- The state of the processor. -/
  cpu : Cpu
  /-- How often the game has run. -/
  time : Nat := 0
  /-- The state in which the game came to the last hook. -/
  hook : Cpu
  /-- The state in which the function that was called at that hook came back. -/
  returned : Option Cpu := none
  /-- The entries into the game so far. -/
  trace : List Passage := []

namespace Machine

/-- The machine at the start of the loop, which is the first hook. -/
def start (s : Cpu) : Machine := { cpu := s, hook := s }

/-- The entry into the game, if it is entered now. -/
def passage (m : Machine) : Passage := ⟨m.hook, m.returned, m.cpu⟩

/-- The functions that are called at the hooks. -/
def callees : List Nat :=
  [INPUT_UPDATE_ADDR, PROCESS_LIST_EXECUTE_ADDR, FONT_UPDATE_ADDR, OS_TICK_ADDR]

/-- One instruction of the words in `image`, or one run of the game in between. Behind the hook at
the end of the loop the loop is left. -/
def step (image : Image) (g : Game) (m : Machine) : Option Machine :=
  let pc := m.cpu.pc
  if pc = COUNTER_TAIL_RETURN_ADDR then none
  else if pc ∈ callees then
    let cpu := g.call m.time pc m.cpu
    some { m with cpu, time := m.time + 1, returned := some cpu, trace := m.trace ++ [m.passage] }
  else if (image.word pc).isSome then (Arm.step plain m.cpu).map fun cpu => { m with cpu }
  else
    let cpu := g.body m.time m.cpu
    some { cpu, time := m.time + 1, hook := cpu, returned := none, trace := m.trace ++ [m.passage] }

/-- The machine gets from one state to another. -/
def Reaches (image : Image) (g : Game) : Machine → Machine → Prop :=
  Relation.ReflTransGen fun m m' => step image g m = some m'

/-- The loop is left. -/
def left (m : Machine) : Prop := m.cpu.pc = COUNTER_TAIL_RETURN_ADDR

/-- Where the game was entered, in order. -/
def places (m : Machine) : List Nat := m.trace.map fun p => p.enter.pc

/-- The game was entered faithfully each time, and so it is where it is now. -/
def Faithful (writes : Nat → Prop) (m : Machine) : Prop :=
  ∀ p ∈ m.trace ++ [m.passage], p.Faithful writes

end Machine

/-! ## Ticks -/

namespace Game

/-- Where a tick enters the game when each hook calls its function. -/
def fullTick (g : Game) : List Nat :=
  [INPUT_UPDATE_ADDR, LOOP_START_ADDR + 4, g.first.callee, g.first.ret, g.first.other.callee,
    g.first.other.ret, OS_TICK_ADDR]

/-- Where a tick enters the game when only the input is updated. -/
def shortTick (g : Game) : List Nat :=
  [INPUT_UPDATE_ADDR, LOOP_START_ADDR + 4, g.first.ret, g.first.other.ret]

end Game

/-- An address of the `width` bytes at `base`. -/
def within (base width addr : Nat) : Prop := base ≤ addr ∧ addr < base + width

/-- The original loop writes nothing itself. -/
def noWrites (_ : Nat) : Prop := False

/-- What the gates write in a tick without a replay: the marker of the stage, and the word that they
clear at the end of the loop. -/
def tickWrites (addr : Nat) : Prop := within STAGE_MARKER_ADDR 4 addr ∨ within ACTIVE_ADDR 4 addr

/-- What the gates write in a replay: also the control words that count, the packets and their
tick. -/
def replayWrites (addr : Nat) : Prop :=
  tickWrites addr ∨ within REQUEST_ADDR 4 addr ∨ within HISTORY_INDEX_ADDR 4 addr ∨
    within JIT_SCRATCH_TICK_ADDR 0x88 addr ∨ within PACKET_TICK_ADDR 2 addr

/-- The loop was left after `n` ticks, each with its entry of the history at the update of the
input. Only in the last of them the functions behind the other hooks were called. -/
structure Replayed (g : Game) (m : Memory) (n : Nat) (x : Machine) : Prop where
  /-- The loop was left. -/
  left : x.left
  /-- Where the game was entered. -/
  places : x.places = (List.replicate (n - 1) g.shortTick).flatten ++ g.fullTick
  /-- Each time as if there were only the call. -/
  faithful : x.Faithful replayWrites
  /-- Each tick had its entry of the history. -/
  sees : ∀ k < n, ∃ p, x.trace[g.shortTick.length * k]? = some p ∧ Sees p.enter.mem (entryAt m k)
  /-- The history is at its end, and nothing is requested. -/
  control : controlOf x.cpu.mem = { controlOf m with index := n, request := 0, active := 0 }
  /-- The entries are still there. -/
  entries : ∀ i < HISTORY_CAPACITY, entryAt x.cpu.mem i = entryAt m i
  /-- The frames were counted. -/
  frame : gameFrame x.cpu.mem = (gameFrame m + n) % 0x100000000

/-- The loop was left after one tick, which called the functions of the hooks as the game does, and
left the control words and the history alone. -/
structure TickedOnce (g : Game) (m : Memory) (x : Machine) : Prop where
  /-- The loop was left. -/
  left : x.left
  /-- Where the game was entered. -/
  places : x.places = g.fullTick
  /-- Each time as if there were only the call. -/
  faithful : x.Faithful tickWrites
  /-- The control words are what they were. -/
  control : controlOf x.cpu.mem = controlOf m
  /-- So is the history. -/
  entries : ∀ i < HISTORY_CAPACITY, entryAt x.cpu.mem i = entryAt m i
  /-- One frame was counted. -/
  frame : gameFrame x.cpu.mem = (gameFrame m + 1) % 0x100000000

/-- The words that the hooks replace. -/
def originalHooks : Except EncodeError Image := do
  let hook (src dst : Nat) : Except EncodeError (Nat × List Nat) := do
    return (src, [← encodeBl src dst])
  return [← hook LOOP_START_ADDR INPUT_UPDATE_ADDR, ← hook FONT_HOOK_ADDR FONT_UPDATE_ADDR,
    ← hook COUNTER_TAIL_HOOK_ADDR OS_TICK_ADDR, ← hook RENDER_HOOK_ADDR PROCESS_LIST_EXECUTE_ADDR]

end Bigstar.Rom
