import Bigstar.Rom.GameTickReplay
import Mathlib.Tactic.FinCases

/-!
# What each gate does

The words of the gates are computed once, and each gate is then executed instruction by instruction.
A gate is described by the registers that it keeps and by what it stores.
-/

namespace Bigstar.Rom

open Arm

/-- The words of the gate at the start of the loop. -/
def inputGateWords : List Nat :=
  [0xe59f3138, 0xe593c000, 0xe35c0000, 0x0a000044, 0xe59f312c, 0xe593c000, 0xe59f2128, 0xe5922000,
    0xe15c0002, 0x2a000044, 0xe35c0000, 0x1a000008, 0xe59f2114, 0xe5921000, 0xe59f2110, 0xe5922000,
    0xe1520001, 0x1a000036, 0xe59f2104, 0xe3a01001, 0xe5821000, 0xe59f20fc, 0xe5921000, 0xe3510000,
    0x0a000015, 0xe35c0000, 0x1a000007, 0xe59f10e8, 0xe3a00001, 0xe5810000, 0xe59f10e0, 0xe59f00e0,
    0xe5900000, 0xe2400001, 0xe5810000, 0xe59f00d4, 0xe5900000, 0xe3500000, 0x0a000007, 0xe59f00c8,
    0xe5900000, 0xe2400001, 0xe15c0000, 0x1a000002, 0xe59f00b8, 0xe3a01000, 0xe5801000, 0xe59f20b0,
    0xe3a01002, 0xe5821000, 0xe59f20a8, 0xe082220c, 0xe1d200b0, 0xe1d210b2, 0xe1d2c0b4, 0xe5923008,
    0xe592200c, 0xe59fe090, 0xe1ce00b0, 0xe1ce10b8, 0xe1cec0ba, 0xe1ce04b0, 0xe1ce14b2, 0xe58e3044,
    0xe1ce08b0, 0xe1cec8b2, 0xe58e2084, 0xe59f206c, 0xe1c200b0, 0xe59f3068, 0xe5932000, 0xe2822001,
    0xe5832000, 0xeb000d71, 0xe59f2058, 0xe3a01003, 0xe5821000, 0xe59fe050, 0xea000c93, 0xeaffffaf,
    0x02001acc, 0x02001ad0, 0x02001ad4, 0x02001adc, 0x0208b668, 0x04fffa28, 0x02001ad8, 0x02001ac4,
    0x02001ac0, 0x02001ad4, 0x02001ad8, 0x02001ad4, 0x02001ac4, 0x04fffa28, 0x023c1300, 0x023c1200,
    0x020888e0, 0x02001ad0, 0x04fffa28, 0x02004ecc]

/-- All words that are patched. -/
def gateImage : Image :=
  [(LOOP_GATE_ADDR, [0xe59f3050, 0xe3a0c006, 0xe583c000, 0xe59f3038, 0xe593c000,
    0xe35c0000, 0x0a000005,
      0xe24cc001, 0xe583c000, 0xe59f3024, 0xe3a0c001, 0xe583c000, 0xea000d34,
      0xe59f3014, 0xe3a0c000, 0xe583c000, 0xebffdd82, 0xe59fe008, 0xea000d3c, 0x02001ac0,
      0x02001ac4, 0x02004f00, 0x04fffa28]),
    (FONT_GATE_ADDR, [0xe59fc014, 0xe59cc000, 0xe35c0000, 0x1a000000, 0xeb004c03,
      0xe59fe004, 0xea000d2c, 0x02001ac4, 0x02004ef0]),
    (RENDER_GATE_ADDR, [0xe59f303c, 0xe3a0c004, 0xe583c000, 0xe59fc034, 0xe59cc000, 0xe35c0000,
      0x0a000003, 0xe59fc028, 0xe59cc000, 0xe35c0000, 0x0a000000, 0xeb012e76,
      0xe59f300c, 0xe3a0c005, 0xe583c000, 0xe59fe00c, 0xea012ed2, 0x04fffa28, 0x02001ac4,
      0x04fffa2c, 0x0204d5f0]),
    (INPUT_GATE_ADDR, inputGateWords), (LOOP_START_ADDR, [0xeafff31c]),
    (FONT_HOOK_ADDR, [0xeafff2cb]), (COUNTER_TAIL_HOOK_ADDR, [0xeafff2af]),
    (RENDER_HOOK_ADDR, [0xeafed11b])]

theorem patchGameTickProbe_eq : patchGameTickProbe = .ok gateImage := by
  decide +kernel

/-- `t` is at an address, with the saved registers of `s` and the result of a call. -/
structure At (s : Cpu) (addr : Nat) (t : Cpu) : Prop where
  pc : t.pc = addr
  kept : ∀ r ∈ 0 :: savedRegs, t.reg r = s.reg r

/-- `t` is at the entry of a function, with the arguments of `s` and a return address. -/
structure Calls (s : Cpu) (entry ret : Nat) (t : Cpu) : Prop where
  pc : t.pc = entry
  saved : ∀ r ∈ savedRegs, t.reg r = s.reg r
  link : t.reg 14 = ret
  args : ∀ r ∈ argRegs, t.reg r = s.reg r

/-! ## The font gate -/

/-- While more ticks are to come, the font gate goes on without the call. -/
theorem fontGate_skips (s : Cpu) (hpc : s.pc = FONT_HOOK_ADDR)
    (hactive : load 4 s.mem ACTIVE_ADDR ≠ 0) :
    Leads gateImage s fun t => At s (FONT_HOOK_ADDR + 4) t ∧ t.mem = s.mem := by
  obtain ⟨reg, pc, n, z, c, v, mem⟩ := s
  cases hpc
  dsimp only
  refine Leads.b 14 FONT_GATE_ADDR rfl rfl ?_
  refine Leads.lit 12 20 ACTIVE_ADDR rfl rfl ?_
  refine Leads.ldr 4 12 12 0 ACTIVE_ADDR rfl rfl rfl ?_
  refine Leads.cmp 12 0 (load 4 mem ACTIVE_ADDR) rfl rfl ?_
  intro n v
  refine Leads.b 1 (FONT_GATE_ADDR + 0x14) rfl (congrArg not (decide_eq_false hactive)) ?_
  refine Leads.lit 14 4 (FONT_HOOK_ADDR + 4) rfl rfl ?_
  refine Leads.b 14 (FONT_HOOK_ADDR + 4) rfl rfl ?_
  refine Leads.done ⟨⟨rfl, ?_⟩, rfl⟩
  intro r hr
  fin_cases hr <;> rfl

theorem fontGate_calls (s : Cpu) (hpc : s.pc = FONT_HOOK_ADDR)
    (hactive : load 4 s.mem ACTIVE_ADDR = 0) :
    Leads gateImage s fun t =>
      Calls s FONT_UPDATE_ADDR (FONT_GATE_ADDR + 0x14) t ∧ t.mem = s.mem := by
  obtain ⟨reg, pc, n, z, c, v, mem⟩ := s
  cases hpc
  dsimp only
  refine Leads.b 14 FONT_GATE_ADDR rfl rfl ?_
  refine Leads.lit 12 20 ACTIVE_ADDR rfl rfl ?_
  refine Leads.ldr 4 12 12 0 ACTIVE_ADDR rfl rfl rfl ?_
  refine Leads.cmp 12 0 (load 4 mem ACTIVE_ADDR) rfl rfl ?_
  intro n v
  refine Leads.notTaken 1 (FONT_GATE_ADDR + 0x14) rfl (congrArg not (decide_eq_true hactive)) ?_
  refine Leads.bl FONT_UPDATE_ADDR rfl ?_
  refine Leads.done ⟨⟨rfl, ?_, rfl, ?_⟩, rfl⟩
  · intro r hr
    fin_cases hr <;> rfl
  · intro r hr
    fin_cases hr <;> rfl

theorem fontGate_returns (s : Cpu) (hpc : s.pc = FONT_GATE_ADDR + 0x14) :
    Leads gateImage s fun t => At s (FONT_HOOK_ADDR + 4) t ∧ t.mem = s.mem := by
  obtain ⟨reg, pc, n, z, c, v, mem⟩ := s
  cases hpc
  dsimp only
  refine Leads.lit 14 4 (FONT_HOOK_ADDR + 4) rfl rfl ?_
  refine Leads.b 14 (FONT_HOOK_ADDR + 4) rfl rfl ?_
  refine Leads.done ⟨⟨rfl, ?_⟩, rfl⟩
  intro r hr
  fin_cases hr <;> rfl

/-! ## The render gate -/

/-- A store of the stage marker leaves the other words alone. -/
theorem load_marked (m : Memory) (marker : Nat) {addr : Nat}
    (h : addr + 4 ≤ STAGE_MARKER_ADDR ∨ STAGE_MARKER_ADDR + 4 ≤ addr) :
    load 4 (store 4 m STAGE_MARKER_ADDR marker) addr = load 4 m addr :=
  load_store_apart m marker h.symm

theorem renderGate_skips (s : Cpu) (hpc : s.pc = RENDER_HOOK_ADDR)
    (hactive : load 4 s.mem ACTIVE_ADDR ≠ 0) (hreplay : load 4 s.mem REPLAY_RENDER_ADDR = 0) :
    Leads gateImage s fun t => At s RENDER_RETURN_ADDR t ∧
      t.mem = store 4 (store 4 s.mem STAGE_MARKER_ADDR 4) STAGE_MARKER_ADDR 5 := by
  obtain ⟨reg, pc, n, z, c, v, mem⟩ := s
  cases hpc
  rw [← load_marked mem 4 (by decide)] at hactive hreplay
  refine Leads.b 14 RENDER_GATE_ADDR rfl rfl ?_
  refine Leads.lit 3 60 STAGE_MARKER_ADDR rfl rfl ?_
  refine Leads.mov 12 4 rfl ?_
  refine Leads.str 4 12 3 0 STAGE_MARKER_ADDR 4 rfl rfl rfl rfl ?_
  refine Leads.lit 12 52 ACTIVE_ADDR rfl rfl ?_
  refine Leads.ldr 4 12 12 0 ACTIVE_ADDR rfl rfl rfl ?_
  refine Leads.cmp 12 0 (load 4 (store 4 mem STAGE_MARKER_ADDR 4) ACTIVE_ADDR) rfl rfl ?_
  intro n v
  refine Leads.notTaken 0 (RENDER_GATE_ADDR + 0x2C) rfl (decide_eq_false hactive) ?_
  refine Leads.lit 12 40 REPLAY_RENDER_ADDR rfl rfl ?_
  refine Leads.ldr 4 12 12 0 REPLAY_RENDER_ADDR rfl rfl rfl ?_
  refine Leads.cmp 12 0 (load 4 (store 4 mem STAGE_MARKER_ADDR 4) REPLAY_RENDER_ADDR) rfl rfl ?_
  intro n v
  refine Leads.b 0 (RENDER_GATE_ADDR + 0x30) rfl (decide_eq_true hreplay) ?_
  refine Leads.lit 3 12 STAGE_MARKER_ADDR rfl rfl ?_
  refine Leads.mov 12 5 rfl ?_
  refine Leads.str 4 12 3 0 STAGE_MARKER_ADDR 5 rfl rfl rfl rfl ?_
  refine Leads.lit 14 12 RENDER_RETURN_ADDR rfl rfl ?_
  refine Leads.b 14 RENDER_RETURN_ADDR rfl rfl ?_
  refine Leads.done ⟨⟨rfl, ?_⟩, rfl⟩
  intro r hr
  fin_cases hr <;> rfl

theorem renderGate_calls (s : Cpu) (hpc : s.pc = RENDER_HOOK_ADDR)
    (hactive : load 4 s.mem ACTIVE_ADDR = 0) :
    Leads gateImage s fun t =>
      Calls s PROCESS_LIST_EXECUTE_ADDR (RENDER_GATE_ADDR + 0x30) t ∧
        t.mem = store 4 s.mem STAGE_MARKER_ADDR 4 := by
  obtain ⟨reg, pc, n, z, c, v, mem⟩ := s
  cases hpc
  rw [← load_marked mem 4 (by decide)] at hactive
  refine Leads.b 14 RENDER_GATE_ADDR rfl rfl ?_
  refine Leads.lit 3 60 STAGE_MARKER_ADDR rfl rfl ?_
  refine Leads.mov 12 4 rfl ?_
  refine Leads.str 4 12 3 0 STAGE_MARKER_ADDR 4 rfl rfl rfl rfl ?_
  refine Leads.lit 12 52 ACTIVE_ADDR rfl rfl ?_
  refine Leads.ldr 4 12 12 0 ACTIVE_ADDR rfl rfl rfl ?_
  refine Leads.cmp 12 0 (load 4 (store 4 mem STAGE_MARKER_ADDR 4) ACTIVE_ADDR) rfl rfl ?_
  intro n v
  refine Leads.b 0 (RENDER_GATE_ADDR + 0x2C) rfl (decide_eq_true hactive) ?_
  refine Leads.bl PROCESS_LIST_EXECUTE_ADDR rfl ?_
  refine Leads.done ⟨⟨rfl, ?_, rfl, ?_⟩, rfl⟩
  · intro r hr
    fin_cases hr <;> rfl
  · intro r hr
    fin_cases hr <;> rfl

theorem renderGate_returns (s : Cpu) (hpc : s.pc = RENDER_GATE_ADDR + 0x30) :
    Leads gateImage s fun t => At s RENDER_RETURN_ADDR t ∧
      t.mem = store 4 s.mem STAGE_MARKER_ADDR 5 := by
  obtain ⟨reg, pc, n, z, c, v, mem⟩ := s
  cases hpc
  dsimp only
  refine Leads.lit 3 12 STAGE_MARKER_ADDR rfl rfl ?_
  refine Leads.mov 12 5 rfl ?_
  refine Leads.str 4 12 3 0 STAGE_MARKER_ADDR 5 rfl rfl rfl rfl ?_
  refine Leads.lit 14 12 RENDER_RETURN_ADDR rfl rfl ?_
  refine Leads.b 14 RENDER_RETURN_ADDR rfl rfl ?_
  refine Leads.done ⟨⟨rfl, ?_⟩, rfl⟩
  intro r hr
  fin_cases hr <;> rfl

/-! ## The loop gate -/

/-- One requested tick is taken, and the loop starts again. -/
theorem loopGate_loops (s : Cpu) (hpc : s.pc = COUNTER_TAIL_HOOK_ADDR)
    (hrequest : load 4 s.mem REQUEST_ADDR ≠ 0) :
    Leads gateImage s fun t => At s LOOP_START_ADDR t ∧
      t.mem = store 4 (store 4 (store 4 s.mem STAGE_MARKER_ADDR 6) REQUEST_ADDR
        ((load 4 s.mem REQUEST_ADDR + 0x100000000 - 1) % 0x100000000)) ACTIVE_ADDR 1 := by
  obtain ⟨reg, pc, n, z, c, v, mem⟩ := s
  cases hpc
  dsimp only at hrequest ⊢
  rw [← load_marked mem 6 (by decide)] at hrequest ⊢
  refine Leads.b 14 LOOP_GATE_ADDR rfl rfl ?_
  refine Leads.lit 3 80 STAGE_MARKER_ADDR rfl rfl ?_
  refine Leads.mov 12 6 rfl ?_
  refine Leads.str 4 12 3 0 STAGE_MARKER_ADDR 6 rfl rfl rfl rfl ?_
  refine Leads.lit 3 56 REQUEST_ADDR rfl rfl ?_
  refine Leads.ldr 4 12 3 0 REQUEST_ADDR rfl rfl rfl ?_
  refine Leads.cmp 12 0 (load 4 (store 4 mem STAGE_MARKER_ADDR 6) REQUEST_ADDR) rfl rfl ?_
  intro n v
  refine Leads.notTaken 0 (LOOP_GATE_ADDR + 0x34) rfl (decide_eq_false hrequest) ?_
  refine Leads.sub 12 12 1 (load 4 (store 4 mem STAGE_MARKER_ADDR 6) REQUEST_ADDR) rfl rfl ?_
  refine Leads.str 4 12 3 0 REQUEST_ADDR
    ((load 4 (store 4 mem STAGE_MARKER_ADDR 6) REQUEST_ADDR + 0x100000000 - 1) % 0x100000000)
    rfl rfl rfl (set_self _ _ _) ?_
  refine Leads.lit 3 36 ACTIVE_ADDR rfl rfl ?_
  refine Leads.mov 12 1 rfl ?_
  refine Leads.str 4 12 3 0 ACTIVE_ADDR 1 rfl rfl rfl rfl ?_
  refine Leads.b 14 LOOP_START_ADDR rfl rfl ?_
  refine Leads.done ⟨⟨rfl, ?_⟩, rfl⟩
  intro r hr
  fin_cases hr <;> rfl

theorem loopGate_calls (s : Cpu) (hpc : s.pc = COUNTER_TAIL_HOOK_ADDR)
    (hrequest : load 4 s.mem REQUEST_ADDR = 0) :
    Leads gateImage s fun t => Calls s OS_TICK_ADDR (LOOP_GATE_ADDR + 0x44) t ∧
      t.mem = store 4 (store 4 s.mem STAGE_MARKER_ADDR 6) ACTIVE_ADDR 0 := by
  obtain ⟨reg, pc, n, z, c, v, mem⟩ := s
  cases hpc
  rw [← load_marked mem 6 (by decide)] at hrequest
  refine Leads.b 14 LOOP_GATE_ADDR rfl rfl ?_
  refine Leads.lit 3 80 STAGE_MARKER_ADDR rfl rfl ?_
  refine Leads.mov 12 6 rfl ?_
  refine Leads.str 4 12 3 0 STAGE_MARKER_ADDR 6 rfl rfl rfl rfl ?_
  refine Leads.lit 3 56 REQUEST_ADDR rfl rfl ?_
  refine Leads.ldr 4 12 3 0 REQUEST_ADDR rfl rfl rfl ?_
  refine Leads.cmp 12 0 (load 4 (store 4 mem STAGE_MARKER_ADDR 6) REQUEST_ADDR) rfl rfl ?_
  intro n v
  refine Leads.b 0 (LOOP_GATE_ADDR + 0x34) rfl (decide_eq_true hrequest) ?_
  refine Leads.lit 3 20 ACTIVE_ADDR rfl rfl ?_
  refine Leads.mov 12 0 rfl ?_
  refine Leads.str 4 12 3 0 ACTIVE_ADDR 0 rfl rfl rfl rfl ?_
  refine Leads.bl OS_TICK_ADDR rfl ?_
  refine Leads.done ⟨⟨rfl, ?_, rfl, ?_⟩, rfl⟩
  · intro r hr
    fin_cases hr <;> rfl
  · intro r hr
    fin_cases hr <;> rfl

theorem loopGate_returns (s : Cpu) (hpc : s.pc = LOOP_GATE_ADDR + 0x44) :
    Leads gateImage s fun t => At s COUNTER_TAIL_RETURN_ADDR t ∧ t.mem = s.mem := by
  obtain ⟨reg, pc, n, z, c, v, mem⟩ := s
  cases hpc
  dsimp only
  refine Leads.lit 14 8 COUNTER_TAIL_RETURN_ADDR rfl rfl ?_
  refine Leads.b 14 COUNTER_TAIL_RETURN_ADDR rfl rfl ?_
  refine Leads.done ⟨⟨rfl, ?_⟩, rfl⟩
  intro r hr
  fin_cases hr <;> rfl

/-! ## The input gate -/

/-- `t` is inside of the input gate, with the index of the history in register 12. -/
structure Inside (s : Cpu) (addr index : Nat) (t : Cpu) : Prop where
  pc : t.pc = addr
  saved : ∀ r ∈ savedRegs, t.reg r = s.reg r
  index : t.reg 12 = index

/-- `t` is at the entry of the function that the gate replaces a call of. -/
structure CallsInput (s t : Cpu) : Prop where
  pc : t.pc = INPUT_UPDATE_ADDR
  saved : ∀ r ∈ savedRegs, t.reg r = s.reg r
  link : t.reg 14 = INPUT_GATE_ADDR + 0x128

/-- Without a history the input is updated as it is. -/
theorem inputGate_disabled (s : Cpu) (hpc : s.pc = LOOP_START_ADDR)
    (henabled : load 4 s.mem HISTORY_ENABLED_ADDR = 0) :
    Leads gateImage s fun t => CallsInput s t ∧ t.mem = s.mem := by
  obtain ⟨reg, pc, n, z, c, v, mem⟩ := s
  cases hpc
  dsimp only
  refine Leads.b 14 INPUT_GATE_ADDR rfl rfl ?_
  refine Leads.lit 3 312 HISTORY_ENABLED_ADDR rfl rfl ?_
  refine Leads.ldr 4 12 3 0 HISTORY_ENABLED_ADDR rfl rfl rfl ?_
  refine Leads.cmp 12 0 (load 4 mem HISTORY_ENABLED_ADDR) rfl rfl ?_
  intro n v
  refine Leads.b 0 (INPUT_GATE_ADDR + 0x124) rfl (decide_eq_true henabled) ?_
  refine Leads.bl INPUT_UPDATE_ADDR rfl ?_
  refine Leads.done ⟨⟨rfl, ?_, rfl⟩, rfl⟩
  intro r hr
  fin_cases hr <;> rfl

/-- The history has an entry left. -/
theorem inputGate_enabled (s : Cpu) (hpc : s.pc = LOOP_START_ADDR)
    (henabled : load 4 s.mem HISTORY_ENABLED_ADDR ≠ 0)
    (hindex : load 4 s.mem HISTORY_INDEX_ADDR < load 4 s.mem HISTORY_COUNT_ADDR) :
    Leads gateImage s fun t =>
      Inside s (INPUT_GATE_ADDR + 0x28) (load 4 s.mem HISTORY_INDEX_ADDR) t ∧ t.mem = s.mem := by
  obtain ⟨reg, pc, n, z, c, v, mem⟩ := s
  cases hpc
  dsimp only
  refine Leads.b 14 INPUT_GATE_ADDR rfl rfl ?_
  refine Leads.lit 3 312 HISTORY_ENABLED_ADDR rfl rfl ?_
  refine Leads.ldr 4 12 3 0 HISTORY_ENABLED_ADDR rfl rfl rfl ?_
  refine Leads.cmp 12 0 (load 4 mem HISTORY_ENABLED_ADDR) rfl rfl ?_
  intro n v
  refine Leads.notTaken 0 (INPUT_GATE_ADDR + 0x124) rfl (decide_eq_false henabled) ?_
  refine Leads.lit 3 300 HISTORY_INDEX_ADDR rfl rfl ?_
  refine Leads.ldr 4 12 3 0 HISTORY_INDEX_ADDR rfl rfl rfl ?_
  refine Leads.lit 2 296 HISTORY_COUNT_ADDR rfl rfl ?_
  refine Leads.ldr 4 2 2 0 HISTORY_COUNT_ADDR rfl rfl rfl ?_
  refine Leads.cmpReg 12 2 (load 4 mem HISTORY_INDEX_ADDR)
    (load 4 mem HISTORY_COUNT_ADDR) rfl rfl rfl ?_
  intro n v
  refine Leads.notTaken 2 (INPUT_GATE_ADDR + 0x13c) rfl (decide_eq_false (Nat.not_le.mpr hindex)) ?_
  refine Leads.done ⟨⟨rfl, ?_, rfl⟩, rfl⟩
  intro r hr
  fin_cases hr <;> rfl

/-- The first entry belongs to another frame. -/
theorem inputGate_wrongFrame (s : Cpu) (hpc : s.pc = INPUT_GATE_ADDR + 0x28) (hindex : s.reg 12 = 0)
    (hframe : load 4 s.mem GAME_FRAME_ADDR ≠ load 4 s.mem HISTORY_START_FRAME_ADDR) :
    Leads gateImage s fun t => CallsInput s t ∧ t.mem = s.mem := by
  obtain ⟨reg, pc, n, z, c, v, mem⟩ := s
  cases hpc
  dsimp only at hindex ⊢
  refine Leads.cmp 12 0 0 rfl hindex ?_
  intro n v
  refine Leads.notTaken 1 (INPUT_GATE_ADDR + 0x54) rfl rfl ?_
  refine Leads.lit 2 276 HISTORY_START_FRAME_ADDR rfl rfl ?_
  refine Leads.ldr 4 1 2 0 HISTORY_START_FRAME_ADDR rfl rfl rfl ?_
  refine Leads.lit 2 272 GAME_FRAME_ADDR rfl rfl ?_
  refine Leads.ldr 4 2 2 0 GAME_FRAME_ADDR rfl rfl rfl ?_
  refine Leads.cmpReg 2 1 (load 4 mem GAME_FRAME_ADDR)
    (load 4 mem HISTORY_START_FRAME_ADDR) rfl rfl rfl ?_
  intro n v
  refine Leads.b 1 (INPUT_GATE_ADDR + 0x124) rfl (congrArg not (decide_eq_false hframe)) ?_
  refine Leads.bl INPUT_UPDATE_ADDR rfl ?_
  refine Leads.done ⟨⟨rfl, ?_, rfl⟩, rfl⟩
  intro r hr
  fin_cases hr <;> rfl

theorem inputGate_firstEntry (s : Cpu) (hpc : s.pc = INPUT_GATE_ADDR + 0x28) (hindex : s.reg 12 = 0)
    (hframe : load 4 s.mem GAME_FRAME_ADDR = load 4 s.mem HISTORY_START_FRAME_ADDR) :
    Leads gateImage s fun t => Inside s (INPUT_GATE_ADDR + 0x54) 0 t ∧
      t.mem = store 4 s.mem STAGE_MARKER_ADDR 1 := by
  obtain ⟨reg, pc, n, z, c, v, mem⟩ := s
  cases hpc
  dsimp only at hindex ⊢
  refine Leads.cmp 12 0 0 rfl hindex ?_
  intro n v
  refine Leads.notTaken 1 (INPUT_GATE_ADDR + 0x54) rfl rfl ?_
  refine Leads.lit 2 276 HISTORY_START_FRAME_ADDR rfl rfl ?_
  refine Leads.ldr 4 1 2 0 HISTORY_START_FRAME_ADDR rfl rfl rfl ?_
  refine Leads.lit 2 272 GAME_FRAME_ADDR rfl rfl ?_
  refine Leads.ldr 4 2 2 0 GAME_FRAME_ADDR rfl rfl rfl ?_
  refine Leads.cmpReg 2 1 (load 4 mem GAME_FRAME_ADDR)
    (load 4 mem HISTORY_START_FRAME_ADDR) rfl rfl rfl ?_
  intro n v
  refine Leads.notTaken 1 (INPUT_GATE_ADDR + 0x124) rfl (congrArg not (decide_eq_true hframe)) ?_
  refine Leads.lit 2 260 STAGE_MARKER_ADDR rfl rfl ?_
  refine Leads.mov 1 1 rfl ?_
  refine Leads.str 4 1 2 0 STAGE_MARKER_ADDR 1 rfl rfl rfl rfl ?_
  refine Leads.done ⟨⟨rfl, ?_, hindex⟩, rfl⟩
  intro r hr
  fin_cases hr <;> rfl

theorem inputGate_laterEntry (s : Cpu) (hpc : s.pc = INPUT_GATE_ADDR + 0x28) {index : Nat}
    (hindex : s.reg 12 = index) (hpos : index ≠ 0) :
    Leads gateImage s fun t => Inside s (INPUT_GATE_ADDR + 0x54) index t ∧ t.mem = s.mem := by
  obtain ⟨reg, pc, n, z, c, v, mem⟩ := s
  cases hpc
  dsimp only at hindex ⊢
  refine Leads.cmp 12 0 index rfl hindex ?_
  intro n v
  refine Leads.b 1 (INPUT_GATE_ADDR + 0x54) rfl (congrArg not (decide_eq_false hpos)) ?_
  exact Leads.done ⟨⟨rfl, fun _ _ => rfl, hindex⟩, rfl⟩

/-- At the first entry the remaining ticks are requested. -/
theorem inputGate_requests (s : Cpu) (hpc : s.pc = INPUT_GATE_ADDR + 0x54) (hindex : s.reg 12 = 0)
    (htarget : load 4 s.mem HISTORY_TARGET_ADDR ≠ 0) :
    Leads gateImage s fun t => Inside s (INPUT_GATE_ADDR + 0x8c) 0 t ∧
      t.mem = store 4 (store 4 s.mem ACTIVE_ADDR 1) REQUEST_ADDR
        ((load 4 (store 4 s.mem ACTIVE_ADDR 1) HISTORY_COUNT_ADDR + 0x100000000 - 1) %
          0x100000000) := by
  obtain ⟨reg, pc, n, z, c, v, mem⟩ := s
  cases hpc
  dsimp only at hindex ⊢
  refine Leads.lit 2 252 HISTORY_TARGET_ADDR rfl rfl ?_
  refine Leads.ldr 4 1 2 0 HISTORY_TARGET_ADDR rfl rfl rfl ?_
  refine Leads.cmp 1 0 (load 4 mem HISTORY_TARGET_ADDR) rfl rfl ?_
  intro n v
  refine Leads.notTaken 0 (INPUT_GATE_ADDR + 0xbc) rfl (decide_eq_false htarget) ?_
  refine Leads.cmp 12 0 0 rfl hindex ?_
  intro n v
  refine Leads.notTaken 1 (INPUT_GATE_ADDR + 0x8c) rfl rfl ?_
  refine Leads.lit 1 232 ACTIVE_ADDR rfl rfl ?_
  refine Leads.mov 0 1 rfl ?_
  refine Leads.str 4 0 1 0 ACTIVE_ADDR 1 rfl rfl rfl rfl ?_
  refine Leads.lit 1 224 REQUEST_ADDR rfl rfl ?_
  refine Leads.lit 0 224 HISTORY_COUNT_ADDR rfl rfl ?_
  refine Leads.ldr 4 0 0 0 HISTORY_COUNT_ADDR rfl rfl rfl ?_
  refine Leads.sub 0 0 1 (load 4 (store 4 mem ACTIVE_ADDR 1) HISTORY_COUNT_ADDR) rfl rfl ?_
  refine Leads.str 4 0 1 0 REQUEST_ADDR
    ((load 4 (store 4 mem ACTIVE_ADDR 1) HISTORY_COUNT_ADDR + 0x100000000 - 1) % 0x100000000)
      rfl rfl rfl
    (set_self _ _ _) ?_
  refine Leads.done ⟨⟨rfl, ?_, hindex⟩, rfl⟩
  intro r hr
  fin_cases hr <;> rfl

theorem inputGate_continues (s : Cpu) (hpc : s.pc = INPUT_GATE_ADDR + 0x54) {index : Nat}
    (hindex : s.reg 12 = index) (hpos : index ≠ 0)
    (htarget : load 4 s.mem HISTORY_TARGET_ADDR ≠ 0) :
    Leads gateImage s fun t => Inside s (INPUT_GATE_ADDR + 0x8c) index t ∧ t.mem = s.mem := by
  obtain ⟨reg, pc, n, z, c, v, mem⟩ := s
  cases hpc
  dsimp only at hindex ⊢
  refine Leads.lit 2 252 HISTORY_TARGET_ADDR rfl rfl ?_
  refine Leads.ldr 4 1 2 0 HISTORY_TARGET_ADDR rfl rfl rfl ?_
  refine Leads.cmp 1 0 (load 4 mem HISTORY_TARGET_ADDR) rfl rfl ?_
  intro n v
  refine Leads.notTaken 0 (INPUT_GATE_ADDR + 0xbc) rfl (decide_eq_false htarget) ?_
  refine Leads.cmp 12 0 index rfl hindex ?_
  intro n v
  refine Leads.b 1 (INPUT_GATE_ADDR + 0x8c) rfl (congrArg not (decide_eq_false hpos)) ?_
  refine Leads.done ⟨⟨rfl, ?_, hindex⟩, rfl⟩
  intro r hr
  fin_cases hr <;> rfl

theorem inputGate_notLast (s : Cpu) (hpc : s.pc = INPUT_GATE_ADDR + 0x8c) {index last : Nat}
    (hindex : s.reg 12 = index) (htarget : load 4 s.mem HISTORY_TARGET_ADDR ≠ 0)
    (hlast : (load 4 s.mem HISTORY_COUNT_ADDR + 0x100000000 - 1) % 0x100000000 = last)
    (hne : index ≠ last) :
    Leads gateImage s fun t => Inside s (INPUT_GATE_ADDR + 0xbc) index t ∧ t.mem = s.mem := by
  obtain ⟨reg, pc, n, z, c, v, mem⟩ := s
  cases hpc
  dsimp only at hindex ⊢
  refine Leads.lit 0 212 HISTORY_TARGET_ADDR rfl rfl ?_
  refine Leads.ldr 4 0 0 0 HISTORY_TARGET_ADDR rfl rfl rfl ?_
  refine Leads.cmp 0 0 (load 4 mem HISTORY_TARGET_ADDR) rfl rfl ?_
  intro n v
  refine Leads.notTaken 0 (INPUT_GATE_ADDR + 0xbc) rfl (decide_eq_false htarget) ?_
  refine Leads.lit 0 200 HISTORY_COUNT_ADDR rfl rfl ?_
  refine Leads.ldr 4 0 0 0 HISTORY_COUNT_ADDR rfl rfl rfl ?_
  refine Leads.sub 0 0 1 (load 4 mem HISTORY_COUNT_ADDR) rfl rfl ?_
  refine Leads.cmpReg 12 0 index last rfl hindex ((set_self _ _ _).trans hlast) ?_
  intro n v
  refine Leads.b 1 (INPUT_GATE_ADDR + 0xbc) rfl (congrArg not (decide_eq_false hne)) ?_
  refine Leads.done ⟨⟨rfl, ?_, hindex⟩, rfl⟩
  intro r hr
  fin_cases hr <;> rfl

/-- At the last entry the calls of the other gates are switched on again. -/
theorem inputGate_last (s : Cpu) (hpc : s.pc = INPUT_GATE_ADDR + 0x8c) {index last : Nat}
    (hindex : s.reg 12 = index) (htarget : load 4 s.mem HISTORY_TARGET_ADDR ≠ 0)
    (hlast : (load 4 s.mem HISTORY_COUNT_ADDR + 0x100000000 - 1) % 0x100000000 = last)
    (heq : index = last) :
    Leads gateImage s fun t => Inside s (INPUT_GATE_ADDR + 0xbc) index t ∧
      t.mem = store 4 s.mem ACTIVE_ADDR 0 := by
  obtain ⟨reg, pc, n, z, c, v, mem⟩ := s
  cases hpc
  dsimp only at hindex ⊢
  refine Leads.lit 0 212 HISTORY_TARGET_ADDR rfl rfl ?_
  refine Leads.ldr 4 0 0 0 HISTORY_TARGET_ADDR rfl rfl rfl ?_
  refine Leads.cmp 0 0 (load 4 mem HISTORY_TARGET_ADDR) rfl rfl ?_
  intro n v
  refine Leads.notTaken 0 (INPUT_GATE_ADDR + 0xbc) rfl (decide_eq_false htarget) ?_
  refine Leads.lit 0 200 HISTORY_COUNT_ADDR rfl rfl ?_
  refine Leads.ldr 4 0 0 0 HISTORY_COUNT_ADDR rfl rfl rfl ?_
  refine Leads.sub 0 0 1 (load 4 mem HISTORY_COUNT_ADDR) rfl rfl ?_
  refine Leads.cmpReg 12 0 index last rfl hindex ((set_self _ _ _).trans hlast) ?_
  intro n v
  refine Leads.notTaken 1 (INPUT_GATE_ADDR + 0xbc) rfl (congrArg not (decide_eq_true heq)) ?_
  refine Leads.lit 0 184 ACTIVE_ADDR rfl rfl ?_
  refine Leads.mov 1 0 rfl ?_
  refine Leads.str 4 1 0 0 ACTIVE_ADDR 0 rfl rfl rfl rfl ?_
  refine Leads.done ⟨⟨rfl, ?_, hindex⟩, rfl⟩
  intro r hr
  fin_cases hr <;> rfl

/-- The memory after an entry was written to the scratch packets and the packet tick. -/
def present (m : Memory) (e : Entry) : Memory :=
  let m := store 2 m JIT_SCRATCH_TICK_ADDR e.tick
  let m := store 2 m (JIT_SCRATCH_TICK_ADDR + 8) e.keys0
  let m := store 2 m (JIT_SCRATCH_TICK_ADDR + 10) e.keys1
  let m := store 2 m (JIT_SCRATCH_TICK_ADDR + 0x40) e.tick
  let m := store 2 m (JIT_SCRATCH_TICK_ADDR + 0x42) e.keys0
  let m := store 4 m (JIT_SCRATCH_TICK_ADDR + 0x44) e.metadata0
  let m := store 2 m (JIT_SCRATCH_TICK_ADDR + 0x80) e.tick
  let m := store 2 m (JIT_SCRATCH_TICK_ADDR + 0x82) e.keys1
  let m := store 4 m (JIT_SCRATCH_TICK_ADDR + 0x84) e.metadata1
  store 2 m PACKET_TICK_ADDR e.tick

theorem entry_data {index : Nat} (h : index < HISTORY_CAPACITY) :
    gateImage.data 2 (HISTORY_ADDR + 16 * index) = true ∧
      gateImage.data 2 (HISTORY_ADDR + 16 * index + 2) = true ∧
      gateImage.data 2 (HISTORY_ADDR + 16 * index + 4) = true ∧
      gateImage.data 4 (HISTORY_ADDR + 16 * index + 8) = true ∧
      gateImage.data 4 (HISTORY_ADDR + 16 * index + 12) = true := by
  have hall : ∀ index < 12, gateImage.data 2 (HISTORY_ADDR + 16 * index) = true ∧
      gateImage.data 2 (HISTORY_ADDR + 16 * index + 2) = true ∧
      gateImage.data 2 (HISTORY_ADDR + 16 * index + 4) = true ∧
      gateImage.data 4 (HISTORY_ADDR + 16 * index + 8) = true ∧
      gateImage.data 4 (HISTORY_ADDR + 16 * index + 12) = true := by
    decide +kernel
  exact hall index h

/-- The entry is presented, the index goes on, and the input is updated. -/
theorem inputGate_presents (s : Cpu) (hpc : s.pc = INPUT_GATE_ADDR + 0xbc) {index : Nat}
    (hindex : s.reg 12 = index) (hlt : index < HISTORY_CAPACITY) {m m' : Memory}
    (hm : m = store 4 s.mem STAGE_MARKER_ADDR 2) (hm' : m' = present m (entryAt m index)) :
    Leads gateImage s fun t => CallsInput s t ∧
      t.mem = store 4 m' HISTORY_INDEX_ADDR ((load 4 m' HISTORY_INDEX_ADDR + 1) % 0x100000000) := by
  obtain ⟨reg, pc, n, z, c, v, mem⟩ := s
  cases hpc
  dsimp only at hindex hm ⊢
  obtain ⟨hdata₀, hdata₂, hdata₄, hdata₈, hdata₁₂⟩ := entry_data hlt
  have hcapacity : index < 12 := hlt
  obtain ⟨entry, hentry⟩ : ∃ entry, HISTORY_ADDR + 16 * index = entry := ⟨_, rfl⟩
  have hvalue : (HISTORY_ADDR + index <<< 4 % 0x100000000) % 0x100000000 = entry := by
    rw [← hentry, Nat.shiftLeft_eq, HISTORY_ADDR]
    omega
  have hbound : entry < 0x023C13C0 := by
    rw [← hentry, HISTORY_ADDR]
    omega
  have haddr : ∀ off ≤ 12, (entry + off) % 0x100000000 = entry + off :=
    fun off hoff => Nat.mod_eq_of_lt (by omega)
  unfold entryAt at hm'
  rw [hentry] at hdata₀ hdata₂ hdata₄ hdata₈ hdata₁₂ hm'
  refine Leads.lit 2 176 STAGE_MARKER_ADDR rfl rfl ?_
  refine Leads.mov 1 2 rfl ?_
  refine Leads.str 4 1 2 0 STAGE_MARKER_ADDR 2 rfl rfl rfl rfl ?_
  rw [← hm]
  refine Leads.lit 2 168 HISTORY_ADDR rfl rfl ?_
  refine Leads.addLsl 2 2 12 4 HISTORY_ADDR index rfl rfl hindex ?_
  rw [hvalue]
  refine Leads.ldr 2 0 2 0 entry rfl (haddr 0 (by decide)) hdata₀ ?_
  refine Leads.ldr 2 1 2 2 (entry + 2) rfl (haddr 2 (by decide)) hdata₂ ?_
  refine Leads.ldr 2 12 2 4 (entry + 4) rfl (haddr 4 (by decide)) hdata₄ ?_
  refine Leads.ldr 4 3 2 8 (entry + 8) rfl (haddr 8 (by decide)) hdata₈ ?_
  refine Leads.ldr 4 2 2 12 (entry + 12) rfl (haddr 12 (by decide)) hdata₁₂ ?_
  refine Leads.lit 14 144 JIT_SCRATCH_TICK_ADDR rfl rfl ?_
  refine Leads.str 2 0 14 0 JIT_SCRATCH_TICK_ADDR (load 2 m entry) rfl rfl rfl rfl ?_
  refine Leads.str 2 1 14 8 (JIT_SCRATCH_TICK_ADDR + 8) (load 2 m (entry + 2)) rfl rfl rfl rfl ?_
  refine Leads.str 2 12 14 10 (JIT_SCRATCH_TICK_ADDR + 10) (load 2 m (entry + 4)) rfl rfl rfl rfl ?_
  refine Leads.str 2 0 14 64 (JIT_SCRATCH_TICK_ADDR + 0x40) (load 2 m entry) rfl rfl rfl rfl ?_
  refine Leads.str 2 1 14 66 (JIT_SCRATCH_TICK_ADDR + 0x42)
    (load 2 m (entry + 2)) rfl rfl rfl rfl ?_
  refine Leads.str 4 3 14 68 (JIT_SCRATCH_TICK_ADDR + 0x44)
    (load 4 m (entry + 8)) rfl rfl rfl rfl ?_
  refine Leads.str 2 0 14 128 (JIT_SCRATCH_TICK_ADDR + 0x80) (load 2 m entry) rfl rfl rfl rfl ?_
  refine Leads.str 2 12 14 130 (JIT_SCRATCH_TICK_ADDR + 0x82)
    (load 2 m (entry + 4)) rfl rfl rfl rfl ?_
  refine Leads.str 4 2 14 132 (JIT_SCRATCH_TICK_ADDR + 0x84)
    (load 4 m (entry + 12)) rfl rfl rfl rfl ?_
  refine Leads.lit 2 108 PACKET_TICK_ADDR rfl rfl ?_
  refine Leads.str 2 0 2 0 PACKET_TICK_ADDR (load 2 m entry) rfl rfl rfl rfl ?_
  change Leads gateImage ⟨_, _, n, z, c, v, present m ⟨load 2 m entry, load 2 m (entry + 2),
    load 2 m (entry + 4), load 4 m (entry + 8), load 4 m (entry + 12)⟩⟩ _
  rw [← hm']
  refine Leads.lit 3 104 HISTORY_INDEX_ADDR rfl rfl ?_
  refine Leads.ldr 4 2 3 0 HISTORY_INDEX_ADDR rfl rfl rfl ?_
  refine Leads.add 2 2 1 (load 4 m' HISTORY_INDEX_ADDR) rfl rfl ?_
  refine Leads.str 4 2 3 0 HISTORY_INDEX_ADDR ((load 4 m' HISTORY_INDEX_ADDR + 1) % 0x100000000)
    rfl rfl rfl (set_self _ _ _) ?_
  refine Leads.bl INPUT_UPDATE_ADDR rfl ?_
  refine Leads.done ⟨⟨rfl, ?_, rfl⟩, rfl⟩
  intro r hr
  fin_cases hr <;> rfl

theorem inputGate_returns (s : Cpu) (hpc : s.pc = INPUT_GATE_ADDR + 0x128) :
    Leads gateImage s fun t => At s (LOOP_START_ADDR + 4) t ∧
      t.mem = store 4 s.mem STAGE_MARKER_ADDR 3 := by
  obtain ⟨reg, pc, n, z, c, v, mem⟩ := s
  cases hpc
  dsimp only
  refine Leads.lit 2 88 STAGE_MARKER_ADDR rfl rfl ?_
  refine Leads.mov 1 3 rfl ?_
  refine Leads.str 4 1 2 0 STAGE_MARKER_ADDR 3 rfl rfl rfl rfl ?_
  refine Leads.lit 14 80 (LOOP_START_ADDR + 4) rfl rfl ?_
  refine Leads.b 14 (LOOP_START_ADDR + 4) rfl rfl ?_
  refine Leads.done ⟨⟨rfl, ?_⟩, rfl⟩
  intro r hr
  fin_cases hr <;> rfl

end Bigstar.Rom
