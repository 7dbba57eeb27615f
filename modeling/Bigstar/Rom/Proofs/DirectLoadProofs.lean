import Bigstar.Rom.DirectLoad
import Bigstar.Rom.Proofs.StubProofs
import Mathlib.Tactic.FinCases

/-!
# One configuration is loaded

The stub is followed item by item: to the check of the scene, to the first call and, after the
second one, to its return. One comparison decides all values before the calls, and the same
comparison all values after them, because the functions leave the block of the runtime configuration
alone.
-/

namespace Bigstar.Rom

open Arm

variable {start loadLevel loadMvlFilesAfter scene sp : Nat} {words : List Nat}
  {config : DirectMvlConfig}

/-! ## Places in memory -/

namespace LoadLayout

variable (h : LoadLayout start words loadLevel loadMvlFilesAfter scene sp)
include h

/-- A word of the frame. -/
theorem data_frame {addr : Nat} (haligned : addr % 4 = 0) (hle : sp - 0x40 ≤ addr)
    (hlt : addr + 4 ≤ sp) :
    Image.data [(start, words)] 4 addr = true := by
  refine Assembled.data_of_apart haligned ?_
  rcases h.code_frame with hbelow | habove
  · exact Or.inr (by omega)
  · exact Or.inl (by omega)

theorem data_scene : Image.data [(start, words)] 4 (sceneState scene) = true := by
  have haligned := h.scene_aligned
  refine Assembled.data_of_apart (by unfold sceneState; omega) ?_
  rcases h.code_scene with hbelow | habove
  · exact Or.inr hbelow
  · exact Or.inl habove

/-- A part of the data of the stub. -/
theorem data_stub {width addr : Nat} (d : Nat × Nat) (hd : d ∈ stubData)
    (haligned : addr % width = 0) (hle : d.1 ≤ addr) (hlt : addr + width ≤ d.1 + d.2) :
    Image.data [(start, words)] width addr = true := by
  refine Assembled.data_of_apart haligned ?_
  rcases h.code_data d hd with hbelow | habove
  · exact Or.inr (by omega)
  · exact Or.inl (by omega)

end LoadLayout

/-- A memory in which the block of the runtime configuration is that of another one. -/
def SameConfig (m m' : Memory) : Prop :=
  ∀ off ∈ [0, 4, 8, 12, 16, 20],
    Arm.load 4 m' (MVL_RUNTIME_CONFIG_ADDR + off) = Arm.load 4 m (MVL_RUNTIME_CONFIG_ADDR + off)

theorem SameConfig.trans {m m' m'' : Memory} (h : SameConfig m m') (h' : SameConfig m' m'') :
    SameConfig m m'' :=
  fun off hoff => (h' off hoff).trans (h off hoff)

/-- A store beside the block. -/
theorem SameConfig.store {m m' : Memory} (h : SameConfig m m') (width addr value : Nat)
    (hapart : Apart addr width MVL_RUNTIME_CONFIG_ADDR 0x18) :
    SameConfig m (store width m' addr value) := by
  intro off hoff
  have hlt : off + 4 ≤ 0x18 := by
    revert off
    decide
  rw [load_store_apart m' value (by rcases hapart with hbelow | habove <;> omega)]
  exact h off hoff

theorem SameConfig.storeWords {m m' : Memory} (h : SameConfig m m') {addr : Nat} (values : List Nat)
    (hapart : Apart addr (4 * values.length) MVL_RUNTIME_CONFIG_ADDR 0x18) :
    SameConfig m (storeWords m' addr values) := by
  intro off hoff
  have hlt : off + 4 ≤ 0x18 := by
    revert off
    decide
  rw [load_storeWords_apart m' values (by rcases hapart with hbelow | habove <;> omega)]
  exact h off hoff

/-- `t` is between the prologue and the epilogue of a stub that was entered in `s`. -/
structure InFrame (s t : Cpu) : Prop where
  sp : t.reg 13 = s.reg 13 - 0x40
  block : t.reg 4 = MVL_RUNTIME_CONFIG_ADDR
  kept : ∀ r ∈ [5, 6, 7, 8, 9, 10, 11], t.reg r = s.reg r
  config : SameConfig s.mem t.mem
  saved : Arm.load 4 t.mem (s.reg 13 - 8) = s.reg 4
  link : Arm.load 4 t.mem (s.reg 13 - 8 + 4) = s.reg 14

/-- `t` is at the entry of a function, to return to some items. -/
structure AtEntry (start : Nat) (listing items : Listing) (entry : Nat) (s t : Cpu) : Prop where
  pc : t.pc = entry
  frame : InFrame s t
  link : ∃ i, listing.drop i = items ∧ t.reg 14 = start + i * 4

/-- `t` is at the entry of `loadLevel`. -/
structure AtLevel (start : Nat) (listing items : Listing) (loadLevel : Nat)
    (config : DirectMvlConfig)
    (s t : Cpu) : Prop extends AtEntry start listing items loadLevel s t where
  args : LevelArguments config s.mem t
  mark : Arm.load 4 t.mem (sceneState (s.reg 0)) = 0x77

/-! ## To the first call -/

section

variable {listing items : Listing} {reg : Nat → Nat} {n z c v : Bool}
  {mem : Memory} {Q : Cpu → Prop}

/-- The memory after the registers were saved. -/
def pushed (reg : Nat → Nat) (mem : Memory) : Memory :=
  store 4 (store 4 mem (reg 13 - 8) (reg 4)) (reg 13 - 8 + 4) (reg 14)

theorem load_pushed_apart {width addr : Nat} (h : Apart (reg 13 - 0x40) 0x40 addr width)
    (hframe : 0x40 ≤ reg 13) :
    Arm.load width (pushed reg mem) addr = Arm.load width mem addr := by
  unfold pushed
  rw [load_store_apart _ _ (by rcases h with h | h <;> omega),
    load_store_apart _ _ (by rcases h with h | h <;> omega)]

theorem load_pushed_saved (mem : Memory) (hreg : ∀ r, reg r < 0x100000000) :
    Arm.load 4 (pushed reg mem) (reg 13 - 8) = reg 4 ∧
    Arm.load 4 (pushed reg mem) (reg 13 - 8 + 4) = reg 14 := by
  unfold pushed
  constructor
  · rw [load_store_apart _ _ (Or.inr (Nat.le_refl _)), load_store_self]
    exact Nat.mod_eq_of_lt (hreg 4)
  · rw [load_store_self]
    exact Nat.mod_eq_of_lt (hreg 14)

/-- The registers are saved, and the mark of the scene is compared. -/
theorem follows_check (hasm : Assembled start listing words)
    (hl : LoadLayout start words loadLevel loadMvlFilesAfter (reg 0) (reg 13))
    (hrest : ∀ n c v, Follows start listing words items
      (set (set (set reg 13 (reg 13 - 8)) 4 (reg 0)) 12 (Arm.load 4 mem (sceneState (reg 0)))) n
      (decide (Arm.load 4 mem (sceneState (reg 0)) = 0x77)) c v (pushed reg mem) Q) :
    Follows start listing words
      (.op 14 (.push 0x4010) :: .op 14 (.movReg 4 0) :: .op 14 (.ldr 4 12 4 0x16c) ::
        .op 14 (.cmp 12 0x77) :: items) reg n z c v mem Q := by
  have hframe := hl.frame_le
  have hlt := hl.sp_lt
  have haligned := hl.sp_aligned
  have hscene : (reg 0 + 0x16c) % 0x100000000 = sceneState (reg 0) :=
    Nat.mod_eq_of_lt (Nat.lt_of_lt_of_le (Nat.lt_add_of_pos_right (by decide)) hl.scene_lt)
  refine Follows.push hasm 0x4010 4 14 (reg 13 - 8) rfl (by omega) (by omega)
    (hl.data_frame (by omega) (by omega) (by omega))
      (hl.data_frame (by omega) (by omega) (by omega)) ?_
  refine Follows.movReg hasm 4 0 (reg 0) rfl ?_
  refine Follows.ldr hasm 4 12 4 0x16c (sceneState (reg 0)) (Arm.load 4 mem (sceneState (reg 0)))
    hscene hl.data_scene
    (load_pushed_apart hl.frame_scene hframe) ?_
  exact Follows.cmp hasm 12 0x77 _ rfl hrest

/-- A scene that has its mark is left as it is. -/
theorem follows_marked (hasm : Assembled start listing words)
    (hl : LoadLayout start words loadLevel loadMvlFilesAfter (reg 0) (reg 13))
    (hreg : ∀ r, reg r < 0x100000000) (hmark : Arm.load 4 mem (sceneState (reg 0)) = 0x77)
    (hQ : ∀ n c v, Q
      ⟨set (set (set (set (set (set (set reg 13 (reg 13 - 8)) 4 (reg 0)) 12 0x77) 0 1) 4 (reg 4))
        15 (reg 14)) 13 (reg 13), reg 14, n, true, c, v, pushed reg mem⟩) :
    Follows start listing words
      (.op 14 (.push 0x4010) :: .op 14 (.movReg 4 0) :: .op 14 (.ldr 4 12 4 0x16c) ::
        .op 14 (.cmp 12 0x77) :: .op 0 (.mov 0 1) :: .op 0 (.pop 0x8010) :: items)
          reg n z c v mem Q := by
  have hframe := hl.frame_le
  have hlt := hl.sp_lt
  have haligned := hl.sp_aligned
  obtain ⟨hsaved, hlink⟩ := load_pushed_saved mem hreg
  refine follows_check hasm hl fun n c v => ?_
  rw [hmark, decide_eq_true rfl]
  refine Follows.movEq hasm 0 1 ?_
  refine Follows.pop hasm 0x8010 4 (reg 13 - 8) (reg 4) (reg 14)
    (fun _ => rfl) rfl rfl rfl (by omega)
    (hl.data_frame (by omega) (by omega) (by omega))
      (hl.data_frame (by omega) (by omega) (by omega))
    hsaved hlink ?_
  rw [show reg 13 - 8 + 8 = reg 13 by omega]
  exact hQ n c v

/-- The arguments are stored one after the other. Register 12 has the last one. -/
theorem follows_stack (hasm : Assembled start listing words) {values : List Nat} (base i : Nat)
    (current : Option Nat) (hcurrent : ∀ value, current = some value → reg 12 = value)
    (hbase : reg 13 = base) (hlt : base + 4 * (i + values.length) < 0x100000000)
    (hdata : ∀ k < values.length, Image.data [(start, words)] 4 (base + 4 * (i + k)) = true)
    (hrest : ∀ x, Follows start listing words items (set reg 12 x) n z c v
      (storeWords mem (base + 4 * i) values) Q) :
    Follows start listing words (stackListing i current values ++ items) reg n z c v mem Q := by
  induction values generalizing i current reg mem with
  | nil =>
    have hsame := hrest (reg 12)
    rwa [set_eq_self] at hsame
  | cons value values ih =>
    rw [List.length_cons] at hlt
    have hdata₀ : Image.data [(start, words)] 4 (base + 4 * i) = true := hdata 0 (Nat.succ_pos _)
    -- what follows the load of the value, from registers that have it
    have hstore : ∀ {reg' : Nat → Nat}, reg' 12 = value → reg' 13 = base →
        (∀ x, set reg' 12 x = set reg 12 x) →
        Follows start listing words
          (.op 14 (.str 4 12 13 (i * 4)) :: (stackListing (i + 1) (some value) values ++ items))
          reg' n z c v mem Q := by
      intro reg' h12 h13 hsame
      refine Follows.str hasm 4 12 13 (i * 4) (base + 4 * i) value h12 ?_ hdata₀ ?_
      · rw [h13, Nat.mod_eq_of_lt (by omega)]
        omega
      · refine ih (i + 1) (some value) (fun value' hvalue => ?_) h13 (by omega)
          (fun k hk => ?_) fun x => ?_
        · cases hvalue
          exact h12
        · rw [show base + 4 * (i + 1 + k) = base + 4 * (i + (k + 1)) by omega]
          exact hdata (k + 1) (by rw [List.length_cons]; omega)
        · rw [hsame, show base + 4 * (i + 1) = base + 4 * i + 4 by omega]
          exact hrest x
    unfold stackListing
    by_cases hload : current = some value
    · rw [if_neg (not_not.mpr hload)]
      exact hstore (hcurrent value hload) hbase fun _ => rfl
    · rw [if_pos hload]
      refine Follows.imm hasm 12 value ?_
      exact hstore (set_self _ _ _) ((set_of_ne _ _ (by decide)).trans hbase) fun x =>
        set_set _ _ _ _

theorem chosen_eq (m : Memory) (off baked : Nat) :
    (if decide (Arm.load 4 m MVL_RUNTIME_CONFIG_ADDR = MVL_RUNTIME_CONFIG_MAGIC) then
      Arm.load 4 m (MVL_RUNTIME_CONFIG_ADDR + off) else baked) = chosen m off baked := by
  unfold chosen
  simp only [decide_eq_true_eq]

/-- The memory when `loadLevel` is called. -/
def argued (config : DirectMvlConfig) (reg : Nat → Nat) (mem : Memory) : Memory :=
  storeWords (store 4 (pushed reg mem) (sceneState (reg 0)) 0x77) (reg 13 - 0x40)
    (stackValues config)

theorem sameConfig_marked
    (hl : LoadLayout start words loadLevel loadMvlFilesAfter (reg 0) (reg 13)) :
    SameConfig mem (store 4 (pushed reg mem) (sceneState (reg 0)) 0x77) := by
  have hblock : (MVL_RUNTIME_CONFIG_ADDR, 0x18) ∈ stubData := List.mem_cons_self
  have hframe := hl.frame_data _ hblock
  have hpushed : SameConfig mem (pushed reg mem) := by
    intro off hoff
    have hlt : off + 4 ≤ 0x18 := by
      revert off
      decide
    refine load_pushed_apart ?_ hl.frame_le
    rcases hframe with hbelow | habove
    · exact Or.inl (by omega)
    · exact Or.inr (by omega)
  exact hpushed.store 4 (sceneState (reg 0)) 0x77 (hl.scene_data _ hblock)

theorem sameConfig_argued (hl : LoadLayout start words loadLevel loadMvlFilesAfter (reg 0) (reg 13))
    (config : DirectMvlConfig) : SameConfig mem (argued config reg mem) := by
  have hframe := hl.frame_data (MVL_RUNTIME_CONFIG_ADDR, 0x18) List.mem_cons_self
  have hle := hl.frame_le
  refine (sameConfig_marked hl).storeWords (stackValues config) ?_
  have hlength : (stackValues config).length = 13 := rfl
  rw [hlength]
  rcases hframe with hbelow | habove
  · exact Or.inl (by omega)
  · exact Or.inr habove

/-- What is in memory when `loadLevel` is called. -/
theorem load_argued (mem : Memory)
    (hl : LoadLayout start words loadLevel loadMvlFilesAfter (reg 0) (reg 13))
    (hreg : ∀ r, reg r < 0x100000000) (config : DirectMvlConfig) :
    Arm.load 4 (argued config reg mem) (reg 13 - 8) = reg 4 ∧
      Arm.load 4 (argued config reg mem) (reg 13 - 8 + 4) = reg 14 ∧
      Arm.load 4 (argued config reg mem) (sceneState (reg 0)) = 0x77 ∧
      ∀ i value, (stackValues config)[i]? = some value →
        Arm.load 4 (argued config reg mem) (reg 13 - 0x40 + 4 * i) = value := by
  have hle := hl.frame_le
  have hscene := hl.frame_scene
  have hlength : (stackValues config).length = 13 := rfl
  obtain ⟨hsaved, hlink⟩ := load_pushed_saved mem hreg
  unfold argued
  refine ⟨?_, ?_, ?_, ?_⟩
  · rw [load_storeWords_apart _ _ (Or.inl (by omega)),
      load_store_apart _ _ (by rcases hscene with h | h <;> omega)]
    exact hsaved
  · rw [load_storeWords_apart _ _ (Or.inl (by omega)),
      load_store_apart _ _ (by rcases hscene with h | h <;> omega)]
    exact hlink
  · rw [load_storeWords_apart _ _ (by rw [hlength]; rcases hscene with h | h <;> omega),
      load_store_self]
    rfl
  · intro i value hvalue
    rw [load_storeWords _ _ hvalue]
    exact Nat.mod_eq_of_lt (stackValues_lt config value (List.mem_of_getElem? hvalue))

/-- A scene without its mark gets it, and `loadLevel` is called with the arguments of the
configuration. -/
theorem follows_fresh (hasm : Assembled start listing words)
    (hl : LoadLayout start words loadLevel loadMvlFilesAfter (reg 0) (reg 13))
    (hreg : ∀ r, reg r < 0x100000000) (hmark : Arm.load 4 mem (sceneState (reg 0)) ≠ 0x77) :
    Follows start listing words
      (.op 14 (.push 0x4010) :: .op 14 (.movReg 4 0) :: .op 14 (.ldr 4 12 4 0x16c) ::
        .op 14 (.cmp 12 0x77) :: .op 0 (.mov 0 1) :: .op 0 (.pop 0x8010) :: .op 14 (.mov 12 0x77) ::
        .op 14 (.str 4 12 4 0x16c) :: .op 14 (.sub 13 13 0x38) :: .lit 4 MVL_RUNTIME_CONFIG_ADDR ::
        .op 14 (.ldr 4 12 4 0) :: .lit 0 MVL_RUNTIME_CONFIG_MAGIC :: .op 14 (.cmpReg 12 0) ::
        .op 14 (.mov 0 15) :: .op 14 (.mov 1 1) :: .op 14 (.mov 2 9) :: .op 14
          (.mov 3 config.stage.toNat) ::
        .op 0 (.ldr 4 3 4 4) ::
        (stackListing 0 none (stackValues config) ++ .branch 14 true loadLevel :: items))
      reg n z c v mem (AtLevel start listing items loadLevel config
        ⟨reg, start, n, z, c, v, mem⟩) := by
  have hle := hl.frame_le
  have hlt := hl.sp_lt
  have haligned := hl.sp_aligned
  have hblock : (MVL_RUNTIME_CONFIG_ADDR, 0x18) ∈ stubData := List.mem_cons_self
  have hscene : (reg 0 + 0x16c) % 0x100000000 = sceneState (reg 0) :=
    Nat.mod_eq_of_lt (Nat.lt_of_lt_of_le (Nat.lt_add_of_pos_right (by decide)) hl.scene_lt)
  have hbase : (reg 13 - 8 + 0x100000000 - 0x38) % 0x100000000 = reg 13 - 0x40 := by omega
  have hmarked : SameConfig mem (store 4 (pushed reg mem) (sceneState (reg 0)) 0x77) :=
    sameConfig_marked hl
  refine follows_check hasm hl fun n' c' v' => ?_
  rw [decide_eq_false hmark]
  refine Follows.skip hasm (fun _ => rfl) ?_
  refine Follows.skip hasm (fun _ => rfl) ?_
  refine Follows.mov hasm 12 0x77 ?_
  refine Follows.str hasm 4 12 4 0x16c (sceneState (reg 0)) 0x77 rfl hscene hl.data_scene ?_
  refine Follows.sub hasm 13 13 0x38 (reg 13 - 0x40) hbase ?_
  refine Follows.lit hasm hl.start_aligned 4 MVL_RUNTIME_CONFIG_ADDR ?_
  refine Follows.ldr hasm 4 12 4 0 MVL_RUNTIME_CONFIG_ADDR
    (Arm.load 4 mem MVL_RUNTIME_CONFIG_ADDR) rfl
    (hl.data_stub _ hblock rfl (by decide) (by decide)) (hmarked 0 (by decide)) ?_
  refine Follows.lit hasm hl.start_aligned 0 MVL_RUNTIME_CONFIG_MAGIC ?_
  refine Follows.cmpReg hasm 12 0
    (Arm.load 4 mem MVL_RUNTIME_CONFIG_ADDR) MVL_RUNTIME_CONFIG_MAGIC rfl rfl
    fun n' c' v' => ?_
  refine Follows.mov hasm 0 15 ?_
  refine Follows.mov hasm 1 1 ?_
  refine Follows.mov hasm 2 9 ?_
  refine Follows.mov hasm 3 config.stage.toNat ?_
  refine Follows.ldrEq hasm 4 3 4 4 (MVL_RUNTIME_CONFIG_ADDR + 4) config.stage.toNat
    (Arm.load 4 mem (MVL_RUNTIME_CONFIG_ADDR + 4)) (chosen mem 4 config.stage.toNat) rfl rfl
    (hl.data_stub _ hblock rfl (by decide) (by decide)) (hmarked 4 (by decide))
      (chosen_eq mem 4 _) ?_
  refine follows_stack hasm (reg 13 - 0x40) 0 none (fun _ h => by cases h) rfl ?_ ?_ fun x => ?_
  · have hlength : (stackValues config).length = 13 := rfl
    rw [hlength]
    omega
  · intro k hk
    have hk' : k < 13 := hk
    exact hl.data_frame (by omega) (by omega) (by omega)
  refine Follows.call hasm (hl.entries_lt _ List.mem_cons_self) fun i hi => ?_
  obtain ⟨hsaved, hlink, hmark', hstack⟩ := load_argued mem hl hreg config
  exact
    { pc := rfl
      frame :=
        { sp := rfl
          block := rfl
          kept := fun r hr => by fin_cases hr <;> rfl
          config := sameConfig_argued hl config
          saved := hsaved
          link := hlink }
      link := ⟨i, hi, rfl⟩
      args := ⟨rfl, rfl, rfl, rfl, hstack⟩
      mark := hmark' }

end

/-! ## Between the calls -/

section

variable {call : Callees} {s t : Cpu}

/-- A function hands the frame of the stub back. -/
theorem InFrame.called (hcall : call.Contract start words) (hle : 0x40 ≤ s.reg 13) (h : InFrame s t)
    (time entry : Nat) : InFrame s (call time entry t) := by
  have hsp := h.sp
  have hkeep : ∀ addr, s.reg 13 - 8 ≤ addr → addr + 4 ≤ s.reg 13 →
      Arm.load 4 (call time entry t).mem addr = Arm.load 4 t.mem addr := by
    intro addr hle' hlt
    exact load_congr fun i hi hi' => hcall.frame time entry t i (by omega) (by omega)
  refine
    { sp := (hcall.saved time entry t 13 (by decide)).trans h.sp
      block := (hcall.saved time entry t 4 (by decide)).trans h.block
      kept := fun r hr => ?_
      config := h.config.trans fun off hoff => ?_
      saved := (hkeep _ (Nat.le_refl _) (by omega)).trans h.saved
      link := (hkeep _ (by omega) (by omega)).trans h.link }
  · have hsaved : r ∈ savedRegs := by
      fin_cases hr <;> decide
    exact (hcall.saved time entry t r hsaved).trans (h.kept r hr)
  · have hlt : off + 4 ≤ 0x18 := by
      revert off
      decide
    exact load_congr fun i hi hi' => hcall.config time entry t i (by omega) (by omega)

/-- The second call follows the first one. -/
theorem leads_call {listing items : Listing} {i entry : Nat} (hasm : Assembled start listing words)
    (hentry : entry < 0x100000000) (hi : listing.drop i = .branch 14 true entry :: items)
    (hpc : t.pc = start + i * 4) (hframe : InFrame s t) :
    Leads [(start, words)] t fun t' => AtEntry start listing items entry s t' ∧ t'.mem = t.mem := by
  obtain ⟨reg, pc, n, z, c, v, mem⟩ := t
  cases hpc
  refine Follows.call hasm hentry (fun i hi => ?_) i hi
  refine ⟨⟨rfl, ⟨hframe.sp, hframe.block, fun r hr => ?_, hframe.config, hframe.saved, hframe.link⟩,
    i, hi, rfl⟩, rfl⟩
  have hne : r ≠ 14 := by
    fin_cases hr <;> decide
  exact (set_of_ne reg _ hne).trans (hframe.kept r hr)

end

/-! ## To the return -/

/-- What the stub stores after the level was loaded. `x` is what it reads of the random state. -/
def settings (config : DirectMvlConfig) (m : Memory) (x : Nat) : List (Nat × Nat × Nat) :=
  let stage := chosen m MVL_RUNTIME_CONFIG_STAGE_OFFSET config.stage.toNat
  let lives := chosen m MVL_RUNTIME_CONFIG_INITIAL_LIVES_OFFSET config.initialLives.toNat
  [(4, 0x02088F38, chosen m MVL_RUNTIME_CONFIG_SCENE_SETTINGS_OFFSET config.sceneSettings.toNat),
    (1, MVL_NATIVE_COURSE_SELECTOR_ADDR, stage), (4, 0x0208B364, lives), (4, 0x0208B364 + 4, lives),
    (1, 0x0215C89C, chosen m MVL_RUNTIME_CONFIG_LIFE_MODE_SELECTOR_OFFSET
      config.lifeModeSelector.toNat),
    (1, 0x0215C88C, chosen m MVL_RUNTIME_CONFIG_BIG_STAR_SELECTOR_OFFSET
      config.bigStarSelector.toNat),
    (1, 0x0208B094, 0), (1, 0x0208B094 + 1, 1), (1, 0x0208B098, 0), (1, 0x0208B098 + 1, 0),
    (1, GAME_PLAYER_INVENTORY_POWERUP_ADDR, 0), (1, GAME_PLAYER_INVENTORY_POWERUP_ADDR + 1, 0),
    (4, 0x0208B0A0 + 4, (x + 20) % 0x100000000), (4, 0x020887F0, config.playerId.toNat &&& 3)]

/-- All of it is in the data of the stub. -/
theorem settings_inside (config : DirectMvlConfig) (m : Memory) (x : Nat) :
    ∀ y ∈ settings config m x, ∃ d ∈ stubData, d.1 ≤ y.2.1 ∧ y.2.1 + y.1 ≤ d.1 + d.2 := by
  have hplaces : ∀ p ∈ [(4, 0x02088F38), (1, MVL_NATIVE_COURSE_SELECTOR_ADDR), (4, 0x0208B364),
      (4, 0x0208B364 + 4), (1, 0x0215C89C), (1, 0x0215C88C), (1, 0x0208B094), (1, 0x0208B094 + 1),
      (1, 0x0208B098), (1, 0x0208B098 + 1), (1, GAME_PLAYER_INVENTORY_POWERUP_ADDR),
      (1, GAME_PLAYER_INVENTORY_POWERUP_ADDR + 1), (4, 0x0208B0A0 + 4), (4, 0x020887F0)],
      ∃ d ∈ stubData, d.1 ≤ p.2 ∧ p.2 + p.1 ≤ d.1 + d.2 := by decide
  intro y hy
  have hmem := List.mem_map_of_mem (f := fun y : Nat × Nat × Nat => (y.1, y.2.1)) hy
  exact hplaces (y.1, y.2.1) hmem

/-- What is apart from the data of the stub is not changed by the settings. -/
theorem load_settings_apart {config : DirectMvlConfig} {m mem : Memory} {x width addr : Nat}
    (h : ∀ d ∈ stubData, Apart addr width d.1 d.2) :
    Arm.load width (storeAll mem (settings config m x)) addr = Arm.load width mem addr := by
  refine load_storeAll_apart fun y hy => ?_
  obtain ⟨d, hd, hle, hlt⟩ := settings_inside config m x y hy
  rcases h d hd with hbelow | habove
  · exact Or.inr (by omega)
  · exact Or.inl (by omega)

/-- What the settings of the game are afterwards. -/
theorem configured_settings (config : DirectMvlConfig) (m mem : Memory) (x : Nat) :
    Configured config m (storeAll mem (settings config m x)) := by
  have hchosen : ∀ off baked, baked < 0x100000000 → chosen m off baked < 0x100000000 := by
    intro off baked hbaked
    unfold chosen
    split
    · exact load_lt 4 m _
    · exact hbaked
  have hscene := hchosen MVL_RUNTIME_CONFIG_SCENE_SETTINGS_OFFSET _ config.sceneSettings.toNat_lt
  have hlives := hchosen MVL_RUNTIME_CONFIG_INITIAL_LIVES_OFFSET _ config.initialLives.toNat_lt
  simp only [settings, storeAll]
  constructor
  case lives =>
    intro player hplayer
    rcases (by omega : player = 0 ∨ player = 1) with rfl | rfl <;>
      · simp (disch := decide) only [load_store_apart, load_store_self]
        exact Nat.mod_eq_of_lt hlives
  all_goals simp (disch := decide) only [load_store_apart, load_store_self]
  · exact Nat.mod_eq_of_lt hscene
  all_goals rfl

section

variable {listing items : Listing} {reg : Nat → Nat} {n z c v : Bool}
  {m mem : Memory} {Q : Cpu → Prop}

/-- One setting: a register gets the value that the stub was built with, or that of the runtime
block, and is stored. -/
theorem follows_setting (hasm : Assembled start listing words)
    (hl : LoadLayout start words loadLevel loadMvlFilesAfter scene sp) {first : Item}
    {width addr off baked : Nat} (hfirst : ∀ {reg' mem' items'},
      Follows start listing words items' (set reg' 1 baked) n z c v mem' Q →
      Follows start listing words (first :: items') reg' n z c v mem' Q)
    (hz : z = decide (Arm.load 4 m MVL_RUNTIME_CONFIG_ADDR = MVL_RUNTIME_CONFIG_MAGIC))
    (hblock : reg 4 = MVL_RUNTIME_CONFIG_ADDR) (hconfig : SameConfig m mem)
    (hoff : off ∈ [4, 8, 12, 16, 20]) (hdata : Image.data [(start, words)] width addr = true)
    (hlt : addr < 0x100000000)
    (hrest : Follows start listing words items (set (set reg 0 addr) 1 (chosen m off baked)) n z c v
      (store width mem addr (chosen m off baked)) Q) :
    Follows start listing words
      (.lit 0 addr :: first :: .op 0 (.ldr 4 1 4 off) :: .op 14 (.str width 1 0 0) :: items)
      reg n z c v mem Q := by
  have hplace : (MVL_RUNTIME_CONFIG_ADDR + off) % 4 = 0 ∧ off + 4 ≤ 0x18 ∧
    off ∈ [0, 4, 8, 12, 16, 20] ∧
      (MVL_RUNTIME_CONFIG_ADDR + off) % 0x100000000 = MVL_RUNTIME_CONFIG_ADDR + off := by
    clear hrest
    revert off
    decide
  obtain ⟨haligned, hoff4, hmem, hmod⟩ := hplace
  refine Follows.lit hasm hl.start_aligned 0 addr ?_
  refine hfirst ?_
  refine Follows.ldrEq hasm 4 1 4 off (MVL_RUNTIME_CONFIG_ADDR + off) baked
    (Arm.load 4 m (MVL_RUNTIME_CONFIG_ADDR + off)) (chosen m off baked) rfl ?_ ?_
      (hconfig off hmem) ?_ ?_
  · show (reg 4 + off) % 0x100000000 = _
    rw [hblock]
    exact hmod
  · exact hl.data_stub (MVL_RUNTIME_CONFIG_ADDR, 0x18) List.mem_cons_self haligned
      (Nat.le_add_right _ _)
      (by omega)
  · rw [hz]
    exact chosen_eq m off baked
  · rw [set_set]
    refine Follows.str hasm width 1 0 0 addr (chosen m off baked) rfl ?_ hdata hrest
    exact Nat.mod_eq_of_lt hlt

end

/-- The items behind the second call. -/
def returnListing (config : DirectMvlConfig) : Listing :=
  [.op 14 (.ldr 4 12 4 0), .lit 2 MVL_RUNTIME_CONFIG_MAGIC, .op 14 (.cmpReg 12 2),
    .lit 0 0x02088F38, .lit 1 config.sceneSettings.toNat, .op 0 (.ldr 4 1 4 8),
    .op 14 (.str 4 1 0 0), .lit 0 MVL_NATIVE_COURSE_SELECTOR_ADDR,
    .op 14 (.mov 1 config.stage.toNat), .op 0 (.ldr 4 1 4 4), .op 14 (.str 1 1 0 0),
    .lit 0 0x0208B364, .imm 1 config.initialLives.toNat, .op 0 (.ldr 4 1 4 12),
    .op 14 (.str 4 1 0 0), .op 14 (.str 4 1 0 4), .lit 0 0x0215C89C,
    .op 14 (.mov 1 config.lifeModeSelector.toNat), .op 0 (.ldr 4 1 4 16), .op 14 (.str 1 1 0 0),
    .lit 0 0x0215C88C, .op 14 (.mov 1 config.bigStarSelector.toNat), .op 0 (.ldr 4 1 4 20),
    .op 14 (.str 1 1 0 0),
    .lit 0 0x0208B094, .op 14 (.mov 1 0), .op 14 (.str 1 1 0 0), .op 14 (.mov 1 1),
    .op 14 (.str 1 1 0 1), .lit 0 0x0208B098, .op 14 (.mov 1 0), .op 14 (.str 1 1 0 0),
    .op 14 (.str 1 1 0 1), .lit 0 GAME_PLAYER_INVENTORY_POWERUP_ADDR, .op 14 (.mov 1 0),
    .op 14 (.str 1 1 0 0), .op 14 (.str 1 1 0 1), .lit 0 0x0208B0A0, .op 14 (.ldr 4 1 0 0),
    .op 14 (.add 2 1 20), .op 14 (.str 4 2 0 4), .lit 0 0x020887F0,
    .op 14 (.mov 1 (config.playerId.toNat &&& 3)), .op 14 (.str 4 1 0 0), .op 14 (.add 13 13 0x38),
    .op 14 (.mov 0 1), .op 14 (.pop 0x8010)]

/-- The stub has returned, and has stored the settings. -/
structure Ended (config : DirectMvlConfig) (s : Cpu) (mem : Memory) (t : Cpu) : Prop where
  returned : Returned s t
  mem : ∃ x, t.mem = storeAll mem (settings config s.mem x)

/-- One comparison decides all settings, because no instruction behind it sets the flags. -/
theorem leads_return {listing : Listing} {s t : Cpu} {i : Nat}
    (hasm : Assembled start listing words)
    (hl : LoadLayout start words loadLevel loadMvlFilesAfter scene (s.reg 13))
    (hi : listing.drop i = returnListing config) (hpc : t.pc = start + i * 4)
    (hframe : InFrame s t) :
    Leads [(start, words)] t (Ended config s t.mem) := by
  obtain ⟨reg, pc, n, z, c, v, mem⟩ := t
  cases hpc
  obtain ⟨hsp, hblock, hkept, hconfig, hsaved, hlink⟩ := hframe
  dsimp only at hsp hblock hkept hconfig hsaved hlink
  have hle := hl.frame_le
  have hlt := hl.sp_lt
  have haligned := hl.sp_aligned
  have hdata : ∀ width addr : Nat, addr % width = 0 →
      (∃ d ∈ stubData, d.1 ≤ addr ∧ addr + width ≤ d.1 + d.2) →
      Image.data [(start, words)] width addr = true := by
    rintro width addr haligned ⟨d, hd, hle, hlt⟩
    exact hl.data_stub d hd haligned hle hlt
  refine (?_ : Follows start listing words (returnListing config) reg n z c v mem _) i hi
  refine Follows.ldr hasm 4 12 4 0 MVL_RUNTIME_CONFIG_ADDR
    (Arm.load 4 s.mem MVL_RUNTIME_CONFIG_ADDR) ?_
    (hdata _ _ rfl (by decide)) (hconfig 0 (by decide)) ?_
  · rw [hblock]
    rfl
  refine Follows.lit hasm hl.start_aligned 2 MVL_RUNTIME_CONFIG_MAGIC ?_
  refine Follows.cmpReg hasm 12 2
    (Arm.load 4 s.mem MVL_RUNTIME_CONFIG_ADDR) MVL_RUNTIME_CONFIG_MAGIC rfl rfl
    fun n c v => ?_
  have h₁ := hconfig.store 4 0x02088F38
    (chosen s.mem MVL_RUNTIME_CONFIG_SCENE_SETTINGS_OFFSET config.sceneSettings.toNat) (by decide)
  have h₂ := h₁.store 1 MVL_NATIVE_COURSE_SELECTOR_ADDR
    (chosen s.mem MVL_RUNTIME_CONFIG_STAGE_OFFSET config.stage.toNat) (by decide)
  have h₃ := (h₂.store 4 0x0208B364
    (chosen s.mem MVL_RUNTIME_CONFIG_INITIAL_LIVES_OFFSET config.initialLives.toNat)
    (by decide)).store 4 (0x0208B364 + 4)
    (chosen s.mem MVL_RUNTIME_CONFIG_INITIAL_LIVES_OFFSET config.initialLives.toNat) (by decide)
  have h₄ := h₃.store 1 0x0215C89C
    (chosen s.mem MVL_RUNTIME_CONFIG_LIFE_MODE_SELECTOR_OFFSET config.lifeModeSelector.toNat)
      (by decide)
  refine follows_setting hasm hl
    (Follows.lit hasm hl.start_aligned 1 _) rfl hblock hconfig (by decide)
    (hdata _ _ rfl (by decide)) (by decide) ?_
  refine follows_setting hasm hl (Follows.mov hasm 1 _) rfl hblock h₁ (by decide)
    (hdata _ _ rfl (by decide)) (by decide) ?_
  refine follows_setting hasm hl (Follows.imm hasm 1 _) rfl hblock h₂ (by decide)
    (hdata _ _ rfl (by decide)) (by decide) ?_
  refine Follows.str hasm 4 1 0 4 (0x0208B364 + 4)
    (chosen s.mem 12 config.initialLives.toNat) rfl rfl
    (hdata _ _ rfl (by decide)) ?_
  refine follows_setting hasm hl (Follows.mov hasm 1 _) rfl hblock h₃ (by decide)
    (hdata _ _ rfl (by decide)) (by decide) ?_
  refine follows_setting hasm hl (Follows.mov hasm 1 _) rfl hblock h₄ (by decide)
    (hdata _ _ rfl (by decide)) (by decide) ?_
  refine Follows.lit hasm hl.start_aligned 0 0x0208B094 ?_
  refine Follows.mov hasm 1 0 ?_
  refine Follows.str hasm 1 1 0 0 0x0208B094 0 rfl rfl (hdata _ _ rfl (by decide)) ?_
  refine Follows.mov hasm 1 1 ?_
  refine Follows.str hasm 1 1 0 1 (0x0208B094 + 1) 1 rfl rfl (hdata _ _ rfl (by decide)) ?_
  refine Follows.lit hasm hl.start_aligned 0 0x0208B098 ?_
  refine Follows.mov hasm 1 0 ?_
  refine Follows.str hasm 1 1 0 0 0x0208B098 0 rfl rfl (hdata _ _ rfl (by decide)) ?_
  refine Follows.str hasm 1 1 0 1 (0x0208B098 + 1) 0 rfl rfl (hdata _ _ rfl (by decide)) ?_
  refine Follows.lit hasm hl.start_aligned 0 GAME_PLAYER_INVENTORY_POWERUP_ADDR ?_
  refine Follows.mov hasm 1 0 ?_
  refine Follows.str hasm 1 1 0 0 GAME_PLAYER_INVENTORY_POWERUP_ADDR 0
    rfl rfl (hdata _ _ rfl (by decide)) ?_
  refine Follows.str hasm 1 1 0 1 (GAME_PLAYER_INVENTORY_POWERUP_ADDR + 1) 0 rfl rfl
    (hdata _ _ rfl (by decide)) ?_
  refine Follows.lit hasm hl.start_aligned 0 0x0208B0A0 ?_
  refine Follows.ldr hasm 4 1 0 0 0x0208B0A0 _ rfl (hdata _ _ rfl (by decide)) rfl ?_
  generalize Arm.load 4 (store 1 _ (GAME_PLAYER_INVENTORY_POWERUP_ADDR + 1) 0) 0x0208B0A0 = x
  refine Follows.add hasm 2 1 20 ((x + 20) % 0x100000000) rfl ?_
  refine Follows.str hasm 4 2 0 4 (0x0208B0A0 + 4) ((x + 20) % 0x100000000) rfl rfl
    (hdata _ _ rfl (by decide)) ?_
  refine Follows.lit hasm hl.start_aligned 0 0x020887F0 ?_
  refine Follows.mov hasm 1 (config.playerId.toNat &&& 3) ?_
  refine Follows.str hasm 4 1 0 0 0x020887F0 (config.playerId.toNat &&& 3) rfl rfl
    (hdata _ _ rfl (by decide)) ?_
  refine Follows.add hasm 13 13 0x38 (s.reg 13 - 8) ?_ ?_
  · show (reg 13 + 0x38) % 0x100000000 = s.reg 13 - 8
    omega
  refine Follows.mov hasm 0 1 ?_
  have hstored : ∀ addr, s.reg 13 - 0x40 ≤ addr → addr + 4 ≤ s.reg 13 →
      Arm.load 4 (storeAll mem (settings config s.mem x)) addr = Arm.load 4 mem addr := by
    intro addr hle' hlt'
    refine load_settings_apart fun d hd => ?_
    rcases hl.frame_data d hd with hbelow | habove
    · exact Or.inl (by omega)
    · exact Or.inr (by omega)
  refine Follows.pop hasm 0x8010 4 (s.reg 13 - 8) (s.reg 4) (s.reg 14)
    (fun _ => rfl) rfl rfl rfl (by omega)
    (hl.data_frame (by omega) (by omega) (by omega))
      (hl.data_frame (by omega) (by omega) (by omega))
    ((hstored _ (by omega) (by omega)).trans hsaved)
      ((hstored _ (by omega) (by omega)).trans hlink) ?_
  refine ⟨⟨rfl, rfl, fun r hr => ?_⟩, x, rfl⟩
  have hcases : ∀ r ∈ savedRegs, r = 4 ∨ r = 13 ∨ r ∈ [5, 6, 7, 8, 9, 10, 11] := by decide
  rcases hcases r hr with rfl | rfl | hr
  · rfl
  · show s.reg 13 - 8 + 8 = s.reg 13
    omega
  · fin_cases hr <;> exact hkept _ (by decide)

/-! ## The run -/

section

variable {call : Callees} {Q : Cpu → Prop}

/-- The functions lie outside of the code. -/
theorem LoadLayout.not_mem_entries (h : LoadLayout start words loadLevel loadMvlFilesAfter scene sp)
    {addr : Nat} (hword : (Image.word [(start, words)] addr).isSome) :
    addr ∉ [loadLevel, loadMvlFilesAfter] := by
  intro hmem
  obtain ⟨w, hw⟩ := Option.isSome_iff_exists.mp hword
  obtain ⟨seg, hseg, hle, hlt⟩ := Image.word_eq_some hw
  rw [List.mem_singleton] at hseg
  subst hseg
  have houtside := h.entries_outside addr hmem
  dsimp only at hle hlt
  omega

/-- What the code leads to, the run reaches. -/
theorem LoadRun.reaches_of_leads (call : Callees)
    (hl : LoadLayout start words loadLevel loadMvlFilesAfter scene sp) {x : LoadRun}
    (hin : Image.In [(start, words)] x.cpu.mem) (h : Leads [(start, words)] x.cpu Q) :
    ∃ t, LoadRun.Reaches [loadLevel, loadMvlFilesAfter] call x { x with cpu := t } ∧
      Image.In [(start, words)] t.mem ∧ Q t := by
  obtain ⟨t, hrun, hQ⟩ := h
  obtain ⟨s, calls⟩ := x
  dsimp only at hin hrun ⊢
  refine ⟨t, ?_⟩
  rw [← and_assoc]
  refine ⟨?_, hQ⟩
  clear hQ
  induction hrun using Relation.ReflTransGen.head_induction_on with
  | refl => exact ⟨Relation.ReflTransGen.refl, hin⟩
  | @head s s' hstep _ ih =>
    obtain ⟨hplain, hin'⟩ := Image.step_bus hin hstep
    obtain ⟨word, hfetch, -⟩ := Option.bind_eq_some_iff.mp hstep
    obtain ⟨hreaches, hin⟩ := ih hin'
    refine ⟨hreaches.head ?_, hin⟩
    have hout : s.pc ∉ [loadLevel, loadMvlFilesAfter] :=
      hl.not_mem_entries (Option.isSome_iff_exists.mpr ⟨word, hfetch⟩)
    unfold LoadRun.step
    dsimp only
    rw [if_neg hout, hplain]
    rfl

theorem Callees.Contract.keeps_code (hcall : call.Contract start words) {time entry : Nat} {s : Cpu}
    (hin : Image.In [(start, words)] s.mem) :
    Image.In [(start, words)] (call time entry s).mem := by
  intro addr w hw
  obtain ⟨seg, hseg, hle, hlt⟩ := Image.word_eq_some hw
  rw [List.mem_singleton] at hseg
  subst hseg
  rw [← hin addr w hw]
  exact load_congr fun i hi hi' =>
    hcall.code time entry s i (Nat.le_trans hle hi) (Nat.lt_of_lt_of_le hi' hlt)

/-- The function at an entry is called. -/
theorem LoadRun.step_call (call : Callees) {entries : List Nat} {x : LoadRun} {entry : Nat}
    (hentry : entry ∈ entries)
    (hpc : x.cpu.pc = entry) :
    x.step entries call =
      some { cpu := call x.calls.length entry x.cpu, calls := x.calls ++ [(entry, x.cpu)] } := by
  subst hpc
  exact if_pos hentry

/-- A scene that has its mark: the stub returns at once. -/
theorem idle_of_marked {s : Cpu}
    (hasm : Assembled start (directLoadlevelListing loadLevel loadMvlFilesAfter config) words)
    (hpc : s.pc = start) (hreg : ∀ r, s.reg r < 0x100000000) (hin : Image.In [(start, words)] s.mem)
    (hl : LoadLayout start words loadLevel loadMvlFilesAfter (s.reg 0) (s.reg 13))
    (hmark : Arm.load 4 s.mem (sceneState (s.reg 0)) = 0x77) :
    ∃ x, LoadRun.Reaches [loadLevel, loadMvlFilesAfter] call { cpu := s } x ∧ Idle s x := by
  have hleads : Leads [(start, words)] s fun t => Returned s t ∧
      ∀ addr, addr < s.reg 13 - 8 ∨ s.reg 13 ≤ addr → t.mem addr = s.mem addr := by
    obtain ⟨reg, pc, n, z, c, v, mem⟩ := s
    cases hpc
    have hle : 0x40 ≤ reg 13 := hl.frame_le
    refine Follows.leads (follows_marked hasm hl hreg hmark fun n c v => ?_)
    refine ⟨⟨rfl, rfl, fun r hr => ?_⟩, fun addr haddr => ?_⟩
    · fin_cases hr <;> rfl
    · have hout : addr < reg 13 - 8 ∨ reg 13 ≤ addr := haddr
      show pushed reg mem addr = mem addr
      unfold pushed
      rw [store_outside _ _ _ (by omega), store_outside _ _ _ (by omega)]
  obtain ⟨t, hreaches, -, hreturned, hmem⟩ :=
    LoadRun.reaches_of_leads call (x := { cpu := s }) hl hin hleads
  exact ⟨_, hreaches, hreturned, rfl, hmem⟩

/-- After the return the code is still there, and the second function was the last to write the
scene. -/
structure Left (start : Nat) (words : List Nat) (call : Callees)
    (loadMvlFilesAfter : Nat) (s t : Cpu) : Prop where
  code : Image.In [(start, words)] t.mem
  scene : ∃ s₂, s₂.reg 13 = s.reg 13 - 0x40 ∧ Arm.load 4 t.mem (sceneState (s.reg 0)) =
    Arm.load 4 (call 1 loadMvlFilesAfter s₂).mem (sceneState (s.reg 0))
  kept : call.KeepMark (s.reg 0) → Arm.load 4 t.mem (sceneState (s.reg 0)) = 0x77

/-- A scene without its mark: both functions are called. -/
theorem loaded_of_unmarked {s : Cpu}
    (hasm : Assembled start (directLoadlevelListing loadLevel loadMvlFilesAfter config) words)
    (hcall : call.Contract start words)
    (hpc : s.pc = start) (hreg : ∀ r, s.reg r < 0x100000000) (hin : Image.In [(start, words)] s.mem)
    (hl : LoadLayout start words loadLevel loadMvlFilesAfter (s.reg 0) (s.reg 13))
    (hmark : Arm.load 4 s.mem (sceneState (s.reg 0)) ≠ 0x77) :
    ∃ x, LoadRun.Reaches [loadLevel, loadMvlFilesAfter] call { cpu := s } x ∧
      LevelLoaded loadLevel loadMvlFilesAfter config s x ∧
      Left start words call loadMvlFilesAfter s x.cpu := by
  have hle := hl.frame_le
  have hfirst : Leads [(start, words)] s
      (AtLevel start (directLoadlevelListing loadLevel loadMvlFilesAfter config)
        (.branch 14 true loadMvlFilesAfter :: returnListing config) loadLevel config s) := by
    obtain ⟨reg, pc, n, z, c, v, mem⟩ := s
    cases hpc
    exact Follows.leads (follows_fresh hasm hl hreg hmark)
  obtain ⟨t₁, hreaches₁, hin₁, hlevel⟩ :=
    LoadRun.reaches_of_leads call (x := { cpu := s }) hl hin hfirst
  -- the first function, and the call of the second one
  obtain ⟨i₁, hi₁, hlink₁⟩ := hlevel.link
  have hcalled₁ := LoadRun.step_call call (x := { cpu := t₁ })
    (List.mem_cons_self : loadLevel ∈ [loadLevel, loadMvlFilesAfter]) hlevel.pc
  have hsecond := leads_call hasm (hl.entries_lt loadMvlFilesAfter (by simp)) hi₁
    ((hcall.returns 0 loadLevel t₁).trans hlink₁) (hlevel.frame.called hcall hle 0 loadLevel)
  obtain ⟨t₂, hreaches₂, hin₂, hentry, hmem₂⟩ := LoadRun.reaches_of_leads call
    (x := { cpu := call 0 loadLevel t₁, calls := [(loadLevel, t₁)] }) hl
      (hcall.keeps_code hin₁) hsecond
  -- the second function, and the return
  obtain ⟨i₂, hi₂, hlink₂⟩ := hentry.link
  have hcalled₂ := LoadRun.step_call call (x := { cpu := t₂, calls := [(loadLevel, t₁)] })
    (List.mem_cons_of_mem _ List.mem_cons_self : loadMvlFilesAfter ∈ [loadLevel, loadMvlFilesAfter])
      hentry.pc
  have hthird := leads_return hasm hl hi₂ ((hcall.returns 1 loadMvlFilesAfter t₂).trans hlink₂)
    (hentry.frame.called hcall hle 1 loadMvlFilesAfter)
  obtain ⟨t₃, hreaches₃, hin₃, hreturned, x, hmem₃⟩ := LoadRun.reaches_of_leads call
    (x :=
      { cpu := call 1 loadMvlFilesAfter t₂, calls := [(loadLevel, t₁), (loadMvlFilesAfter, t₂)] })
    hl (hcall.keeps_code hin₂) hthird
  refine ⟨_, hreaches₁.trans (.head hcalled₁ (hreaches₂.trans (.head hcalled₂ hreaches₃))), ?_, ?_⟩
  · refine ⟨hreturned, ⟨t₁, t₂, rfl, hlevel.args⟩, ?_⟩
    rw [hmem₃]
    exact configured_settings config s.mem _ x
  · have hscene : Arm.load 4 t₃.mem (sceneState (s.reg 0)) =
        Arm.load 4 (call 1 loadMvlFilesAfter t₂).mem (sceneState (s.reg 0)) := by
      rw [hmem₃]
      exact load_settings_apart hl.scene_data
    refine ⟨hin₃, ⟨t₂, hentry.frame.sp, hscene⟩, fun hkeep => ?_⟩
    calc Arm.load 4 t₃.mem (sceneState (s.reg 0))
        = Arm.load 4 t₂.mem (sceneState (s.reg 0)) := hscene.trans (hkeep 1 loadMvlFilesAfter t₂)
      _ = Arm.load 4 t₁.mem (sceneState (s.reg 0)) := by rw [hmem₂]; exact hkeep 0 loadLevel t₁
      _ = 0x77 := hlevel.mark

end

/-! ## A level, and a scene that is reset -/

/-- A configuration for the examples. -/
def exampleMvlConfig : DirectMvlConfig where
  stage := 4
  playerId := 0
  sceneSettings := 0x00b8ff00
  initialLives := 3
  lifeModeSelector := 2
  bigStarSelector := 1

/-- The words of the stub for this configuration. -/
@[irreducible]
def exampleLoadWords : List Nat :=
  match (Stub.directLoadlevel 0x02000000 0x02100000 exampleMvlConfig).build 0x02150000 with
  | .ok words => words
  | .error _ => []

theorem build_exampleLoadWords :
    (Stub.directLoadlevel 0x02000000 0x02100000 exampleMvlConfig).build 0x02150000 =
      .ok exampleLoadWords := by
  have hok : ((Stub.directLoadlevel 0x02000000 0x02100000 exampleMvlConfig).build 0x02150000).isOk =
      true := by
    decide +kernel
  unfold exampleLoadWords
  split
  · next words h => exact h
  · next e h =>
    rw [h] at hok
    cases hok

theorem length_exampleLoadWords : exampleLoadWords.length = 104 := by
  decide +kernel

theorem exampleLoadWords_lt : exampleLoadWords.all (· < 0x100000000) = true := by
  decide +kernel

/-- A block of the runtime configuration: another stage, with five lives. -/
def exampleRuntimeBlock : List Nat := [MVL_RUNTIME_CONFIG_MAGIC, 2, 0x00b8ff10, 5, 1, 2]

/-- A memory with nothing but that block. -/
def exampleBlockMemory : Memory :=
  storeWords (fun _ => 0) MVL_RUNTIME_CONFIG_ADDR exampleRuntimeBlock

/-- The stub beside the block. -/
@[irreducible]
def exampleLoadMemory : Memory := storeWords exampleBlockMemory 0x02150000 exampleLoadWords

theorem in_exampleLoadMemory : Image.In [(0x02150000, exampleLoadWords)] exampleLoadMemory := by
  refine Image.in_of_forall fun seg hseg i hi => ?_
  rw [List.mem_singleton] at hseg
  subst hseg
  have hlt := List.all_eq_true.mp exampleLoadWords_lt exampleLoadWords[i] (List.getElem_mem hi)
  rw [List.getD_eq_getElem _ _ hi, exampleLoadMemory,
    load_storeWords _ _ (List.getElem?_eq_getElem hi)]
  exact Nat.mod_eq_of_lt (of_decide_eq_true hlt)

/-- A scene is entered. -/
def exampleLoadCpu : Cpu where
  reg := fun r => if r = 0 then 0x02300000 else if r = 13 then 0x027E3F00 else 0
  pc := 0x02150000
  n := false
  z := false
  c := false
  v := false
  mem := exampleLoadMemory

theorem exampleLoadCpu_lt (r : Nat) : exampleLoadCpu.reg r < 0x100000000 := by
  unfold exampleLoadCpu
  dsimp only
  split
  · decide
  · split <;> decide

theorem exampleLoadLayout :
    LoadLayout 0x02150000 exampleLoadWords 0x02000000 0x02100000 (exampleLoadCpu.reg 0)
      (exampleLoadCpu.reg 13) := by
  constructor
  case code_frame => rw [length_exampleLoadWords]; decide
  case code_scene => rw [length_exampleLoadWords]; decide
  case code_data => rw [length_exampleLoadWords]; decide
  case entries_outside => rw [length_exampleLoadWords]; decide
  all_goals decide

theorem exampleLoadCpu_unmarked :
    Arm.load 4 exampleLoadCpu.mem (sceneState (exampleLoadCpu.reg 0)) ≠ 0x77 := by
  have happart : Arm.load 4 (storeWords exampleBlockMemory 0x02150000 exampleLoadWords) 0x0230016c =
      Arm.load 4 exampleBlockMemory 0x0230016c :=
    load_storeWords_apart _ _ (by rw [length_exampleLoadWords]; decide)
  have hblock : Arm.load 4 exampleBlockMemory 0x0230016c = Arm.load 4 (fun _ => 0) 0x0230016c :=
    load_storeWords_apart _ _ (by decide)
  have hmem : exampleLoadCpu.mem = storeWords exampleBlockMemory 0x02150000 exampleLoadWords := by
    rw [exampleLoadCpu, exampleLoadMemory]
  have hscene : sceneState (exampleLoadCpu.reg 0) = 0x0230016c := rfl
  rw [hmem, hscene, happart, hblock]
  decide

/-- The values of the block are the ones that are chosen. -/
theorem chosen_exampleLoadCpu {i value : Nat}
    (h : exampleRuntimeBlock[i]? = some value) (baked : Nat) :
    chosen exampleLoadCpu.mem (4 * i) baked = value := by
  have hlt : value < 0x100000000 := by
    have hall : ∀ word ∈ exampleRuntimeBlock, word < 0x100000000 := by decide
    exact hall value (List.mem_of_getElem? h)
  have hload : ∀ {k word : Nat}, exampleRuntimeBlock[k]? = some word →
      Arm.load 4 exampleLoadCpu.mem (MVL_RUNTIME_CONFIG_ADDR + 4 * k) = word % 0x100000000 := by
    intro k word hk
    have hbound : k < 6 := (List.getElem?_eq_some_iff.mp hk).1
    have hmem : exampleLoadCpu.mem = storeWords exampleBlockMemory 0x02150000 exampleLoadWords := by
      rw [exampleLoadCpu, exampleLoadMemory]
    have hbelow : MVL_RUNTIME_CONFIG_ADDR + 4 * k + 4 ≤ 0x02150000 := by
      unfold MVL_RUNTIME_CONFIG_ADDR
      omega
    rw [hmem, load_storeWords_apart _ _ (Or.inr hbelow)]
    exact load_storeWords _ _ hk
  have hmagic : Arm.load 4 exampleLoadCpu.mem MVL_RUNTIME_CONFIG_ADDR = MVL_RUNTIME_CONFIG_MAGIC :=
    hload (k := 0) rfl
  unfold chosen
  rw [if_pos hmagic, hload h, Nat.mod_eq_of_lt hlt]

/-- The stub loads the level of a scene with one configuration, that of the runtime block or its
own, and only once. -/
theorem direct_load_selects {start loadLevel loadMvlFilesAfter : Nat} {config : DirectMvlConfig}
    {words : List Nat}
    (hbuild : (Stub.directLoadlevel loadLevel loadMvlFilesAfter config).build start = .ok words)
    (hend : start + words.length * 4 ≤ 0x100000000) {call : Callees}
    (hcall : call.Contract start words)
    {s : Cpu} (hpc : s.pc = start) (hreg : ∀ r, s.reg r < 0x100000000)
    (hin : Image.In [(start, words)] s.mem)
    (hl : LoadLayout start words loadLevel loadMvlFilesAfter (s.reg 0) (s.reg 13)) :
    (Arm.load 4 s.mem (sceneState (s.reg 0)) = 0x77 →
      ∃ x, LoadRun.Reaches [loadLevel, loadMvlFilesAfter] call { cpu := s } x ∧ Idle s x) ∧
    (Arm.load 4 s.mem (sceneState (s.reg 0)) ≠ 0x77 →
      ∃ x, LoadRun.Reaches [loadLevel, loadMvlFilesAfter] call { cpu := s } x ∧
        LevelLoaded loadLevel loadMvlFilesAfter config s x ∧ Image.In [(start, words)] x.cpu.mem ∧
        -- a later call on the same scene, if its mark was left alone
        (call.KeepMark (s.reg 0) → ∀ s' : Cpu, s'.pc = start → s'.reg 0 = s.reg 0 →
          (∀ r, s'.reg r < 0x100000000) → Image.In [(start, words)] s'.mem →
          LoadLayout start words loadLevel loadMvlFilesAfter (s'.reg 0) (s'.reg 13) →
          Arm.load 4 s'.mem (sceneState (s.reg 0)) = Arm.load 4 x.cpu.mem (sceneState (s.reg 0)) →
          ∃ x', LoadRun.Reaches [loadLevel, loadMvlFilesAfter] call { cpu := s' } x' ∧
          Idle s' x')) := by
  have hasm : Assembled start (directLoadlevelListing loadLevel loadMvlFilesAfter config) words :=
    assembled_of_build _ hbuild hend
  refine ⟨idle_of_marked hasm hpc hreg hin hl, fun hmark => ?_⟩
  obtain ⟨x, hreaches, hloaded, hleft⟩ := loaded_of_unmarked hasm hcall hpc hreg hin hl hmark
  refine ⟨x, hreaches, hloaded, hleft.code, fun hkeep s' hpc' hscene hreg' hin' hl' hsame => ?_⟩
  refine idle_of_marked hasm hpc' hreg' hin' hl' ?_
  rw [hscene, hsame]
  exact hleft.kept hkeep

/-- Functions that only return. -/
def returning : Callees := fun _ _ s => { s with pc := s.reg 14 }

theorem contract_returning (start : Nat) (words : List Nat) : returning.Contract start words where
  returns _ _ _ := rfl
  saved _ _ _ _ _ := rfl
  frame _ _ _ _ _ _ := rfl
  code _ _ _ _ _ _ := rfl
  config _ _ _ _ _ _ := rfl

/-- With such functions the level of the runtime block is loaded, and a second call on the scene
does nothing. -/
theorem level_loaded_once :
    ∃ x, LoadRun.Reaches [0x02000000, 0x02100000] returning { cpu := exampleLoadCpu } x ∧
      LevelLoaded 0x02000000 0x02100000 exampleMvlConfig exampleLoadCpu x ∧
      Arm.load 1 x.cpu.mem MVL_NATIVE_COURSE_SELECTOR_ADDR = 2 ∧
      (∀ player < 2, Arm.load 4 x.cpu.mem (0x0208B364 + 4 * player) = 5) ∧
      ∃ x', LoadRun.Reaches [0x02000000, 0x02100000] returning
          { cpu := { exampleLoadCpu with mem := x.cpu.mem } } x' ∧
        Idle { exampleLoadCpu with mem := x.cpu.mem } x' := by
  have hend : 0x02150000 + exampleLoadWords.length * 4 ≤ 0x100000000 := by
    rw [length_exampleLoadWords]
    decide
  obtain ⟨x, hreaches, hloaded, hcode, hsecond⟩ :=
    (direct_load_selects build_exampleLoadWords hend (contract_returning _ _) rfl exampleLoadCpu_lt
      in_exampleLoadMemory exampleLoadLayout).2 exampleLoadCpu_unmarked
  have hstage := chosen_exampleLoadCpu (i := 1) rfl exampleMvlConfig.stage.toNat
  have hlives := chosen_exampleLoadCpu (i := 3) rfl exampleMvlConfig.initialLives.toNat
  refine ⟨x, hreaches, hloaded, ?_, fun player hplayer => ?_, ?_⟩
  · exact hloaded.configured.course.trans (congrArg (· % 0x100) hstage)
  · exact (hloaded.configured.lives player hplayer).trans hlives
  · exact hsecond (fun _ _ _ => rfl) _ rfl rfl exampleLoadCpu_lt hcode exampleLoadLayout rfl

/-- Functions that reset the word of the scene, unless it is in the frame of the caller. -/
def resetting : Callees := fun _ _ s =>
  { s with
    pc := s.reg 14
    mem := fun addr =>
      if 0x0230016c ≤ addr ∧ addr < 0x02300170 ∧
        ¬(s.reg 13 + 0x34 ≤ addr ∧ addr < s.reg 13 + 0x40) then 0
      else s.mem addr }

theorem contract_resetting : resetting.Contract 0x02150000 exampleLoadWords where
  returns _ _ _ := rfl
  saved _ _ _ _ _ := rfl
  frame _ _ s addr hle hlt := if_neg (by omega)
  code _ _ s addr hle hlt := by
    rw [length_exampleLoadWords] at hlt
    exact if_neg (by omega)
  config _ _ s addr hle hlt := by
    unfold MVL_RUNTIME_CONFIG_ADDR at hlt
    exact if_neg (by omega)

/-- These follow the calling convention, and a second call on the scene loads the level again. -/
theorem level_loaded_twice :
    (Stub.directLoadlevel 0x02000000 0x02100000 exampleMvlConfig).build 0x02150000 =
      .ok exampleLoadWords ∧
    resetting.Contract 0x02150000 exampleLoadWords ∧
    ∃ x, LoadRun.Reaches [0x02000000, 0x02100000] resetting { cpu := exampleLoadCpu } x ∧
      LevelLoaded 0x02000000 0x02100000 exampleMvlConfig exampleLoadCpu x ∧
      ∃ x', LoadRun.Reaches [0x02000000, 0x02100000] resetting
          { cpu := { exampleLoadCpu with mem := x.cpu.mem } } x' ∧
        LevelLoaded 0x02000000 0x02100000 exampleMvlConfig
          { exampleLoadCpu with mem := x.cpu.mem } x' := by
  have hend : 0x02150000 + exampleLoadWords.length * 4 ≤ 0x100000000 := by
    rw [length_exampleLoadWords]
    decide
  have hasm : Assembled 0x02150000 (directLoadlevelListing 0x02000000 0x02100000 exampleMvlConfig)
      exampleLoadWords :=
    assembled_of_build _ build_exampleLoadWords hend
  obtain ⟨x, hreaches, hloaded, hcode, ⟨s₂, hsp, hscene⟩, -⟩ :=
    loaded_of_unmarked hasm contract_resetting rfl exampleLoadCpu_lt
      in_exampleLoadMemory exampleLoadLayout
      exampleLoadCpu_unmarked
  refine ⟨build_exampleLoadWords, contract_resetting, x, hreaches, hloaded, ?_⟩
  have hreset : Arm.load 4 x.cpu.mem 0x0230016c = Arm.load 4 (fun _ => 0) 0x0230016c := by
    refine hscene.trans (load_congr fun i hi hi' => if_pos ?_)
    have hsp' : s₂.reg 13 = 0x027E3EC0 := hsp
    have hlt : i < 0x02300170 := hi'
    exact ⟨hi, hlt, by omega⟩
  obtain ⟨x', hreaches', hloaded', -⟩ :=
    loaded_of_unmarked (s := { exampleLoadCpu with mem := x.cpu.mem }) hasm contract_resetting rfl
      exampleLoadCpu_lt hcode exampleLoadLayout (by
        show Arm.load 4 x.cpu.mem 0x0230016c ≠ 0x77
        rw [hreset]
        decide)
  exact ⟨x', hreaches', hloaded'⟩

end Bigstar.Rom
