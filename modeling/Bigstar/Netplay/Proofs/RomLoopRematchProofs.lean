import Bigstar.Netplay.Proofs.RomLoopMatchProofs
import Bigstar.Netplay.Proofs.RomLoopRunProofs

/-!
# A rematch with the ROM-loop backend

What the attempt to start the next game does to the console, and from it the rematches that start
clean. A reset always does. A restored checkpoint replaces the memory of the guest, but not the
fields beside it: a correction that was armed in the results scene is still armed in the next game,
and puts an image of the last game into it.
-/

namespace Bigstar.Netplay.RomLoopMatch

open OrderedMap InputTimeline RollbackStorage RollbackRuntime GameRAMRollback RomLoop
  MvlRuntime MvlLifecycle

variable {S : Type} {guest : Guest S (Fin 2 → InputState)} {hardware : Hardware S}
  {nds nds' : MatchNds S}

/-! ## The attempt -/

/-- Main RAM has been written to, and nothing else. -/
def Touched (nds nds' : MatchNds S) : Prop := ∃ f, nds' = mapMainRAM f nds

theorem Touched.refl (nds : MatchNds S) : Touched nds nds := ⟨id, rfl⟩

theorem Touched.trans {nds'' : MatchNds S} (h : Touched nds nds') (h' : Touched nds' nds'') :
    Touched nds nds'' := by
  obtain ⟨f, rfl⟩ := h
  obtain ⟨f', rfl⟩ := h'
  exact ⟨f' ∘ f, rfl⟩

/-- What has been loaded before is overwritten. -/
theorem loadMemory_touched {memory : GuestMemory S} (h : Touched (loadMemory nds memory) nds')
    (memory' : GuestMemory S) : loadMemory nds' memory' = loadMemory nds memory' := by
  obtain ⟨f, rfl⟩ := h
  rfl

theorem Touched.write8 (h : Touched nds nds') (address value : Nat) :
    Touched nds (hardware.console.arm9Write8 address value nds') := h.trans ⟨_, rfl⟩

/-- A store into main RAM touches nothing of the rollback. -/
theorem Touched.write32 (h : Touched nds nds') (address value : Nat) :
    Touched nds (hardware.console.arm9Write32 address value nds') := h.trans ⟨_, rfl⟩

theorem Touched.writeRandomSeed (h : Touched nds nds') (seed : Nat) :
    Touched nds (Context.writeRandomSeed hardware.console seed nds') := by
  unfold Context.writeRandomSeed
  exact (((h.write32 _ _).write8 _ _).write32 _ _).write8 _ _

theorem Touched.applyRuntimeConfig {c : Context (MatchNds S)} (h : Touched nds c.nds) :
    Touched nds (c.applyRuntimeConfig hardware.console).nds := by
  unfold Context.applyRuntimeConfig
  split
  · exact (((((h.write32 _ _).write32 _ _).write32 _ _).write32 _ _).write32 _ _).write32 _ _
  · exact h

/-- The checkpoints that a game can be started from. -/
structure Savestates where
  boot : Checkpoint
  gameplay : Checkpoint

/-- The savestates that a restart may load. -/
def savestates (c : MvlLifecycle.Context (MatchNds S)) (i : Fin 16) : Savestates where
  boot := (c.runtime.instances i).bootstrapCheckpoint
  gameplay := (c.runtime.instances i).gameplayCheckpoint

/-- The checkpoint of the boot can be loaded. -/
def BootLoads (hardware : Hardware S) (s : Savestates) : Prop :=
  s.boot.buffer ≠ [] ∧ (hardware.decode s.boot.buffer).2 = true

/-- There is a checkpoint of the first game, and it is one of the stage. -/
def GameplayFits (s : Savestates) (stage : Int) : Prop :=
  s.gameplay.buffer ≠ [] ∧ s.gameplay.stage = stage

/-- A checkpoint is restored. -/
def Restores (hardware : Hardware S) (s : Savestates) (stage : Int) : Prop :=
  BootLoads hardware s ∨ GameplayFits s stage ∧ (hardware.decode s.gameplay.buffer).2 = true

/-- The attempt leaves the memory of a savestate in the console. One that cannot be loaded may still
have been read in part. -/
inductive Loaded (hardware : Hardware S) (s : Savestates) (stage : Int) : GuestMemory S → Prop where
  | boot (hloads : BootLoads hardware s) :
    Loaded hardware s stage (hardware.decode s.boot.buffer).1
  | gameplay (hboot : ¬ BootLoads hardware s) (hfits : GameplayFits s stage) :
    Loaded hardware s stage (hardware.decode s.gameplay.buffer).1
  | failed (hboot : ¬ BootLoads hardware s) (hfits : ¬ GameplayFits s stage)
    (hcart : hardware.hasNDSCart = false) (hbuffer : s.boot.buffer ≠ []) :
    Loaded hardware s stage (hardware.decode s.boot.buffer).1

/-- What the attempt can do to the console, with the way that it has taken. -/
inductive Attempt (hardware : Hardware S) (s : Savestates) (stage : Int) (nds : MatchNds S) :
    MvlLifecycle.Context.RestartPath → MatchNds S → Prop where
  | kept {nds' : MatchNds S} (htouched : Touched nds nds') : Attempt hardware s stage nds 0 nds'
  | loaded {memory : GuestMemory S} {nds' : MatchNds S} (hloaded : Loaded hardware s stage memory)
    (htouched : Touched (loadMemory nds memory) nds') : Attempt hardware s stage nds 0 nds'
  | restored (path : MvlLifecycle.Context.RestartPath) {memory : GuestMemory S} {nds' : MatchNds S}
    (hrestores : Restores hardware s stage) (hloaded : Loaded hardware s stage memory)
    (htouched : Touched (loadMemory nds memory) nds') : Attempt hardware s stage nds path nds'
  | reset (ram : S) {nds' : MatchNds S}
    (htouched : Touched (loadMemory (clearRollback nds) (hardware.boot ram)) nds') :
    Attempt hardware s stage nds 4 nds'

/-- What has been written before the attempt does not matter. -/
theorem Attempt.of_touched {s : Savestates} {stage : Int} {path : MvlLifecycle.Context.RestartPath}
    {middle : MatchNds S} (h : Attempt hardware s stage middle path nds')
    (htouched : Touched nds middle) :
    Attempt hardware s stage nds path nds' := by
  obtain ⟨f, rfl⟩ := htouched
  cases h with
  | kept htouched => exact .kept (Touched.trans ⟨f, rfl⟩ htouched)
  | loaded hloaded htouched => exact .loaded hloaded htouched
  | restored path hrestores hloaded htouched => exact .restored path hrestores hloaded htouched
  | reset ram htouched => exact .reset ram htouched

section Start

variable {c c' : Context (MatchNds S)} {i : Fin 16} {frame seed : Nat} {stage : Int}
  {path : MvlLifecycle.Context.RestartPath}

/-- The checkpoint of the boot has been restored. -/
theorem restoreBootstrapCheckpoint_true
    (h : c.restoreBootstrapCheckpoint hardware.console i frame seed = (c', true)) :
    c'.inputs = c.inputs ∧ BootLoads hardware (savestates c i) ∧
      Touched (loadMemory c.nds (hardware.decode (savestates c i).boot.buffer).1) c'.nds := by
  unfold Context.restoreBootstrapCheckpoint at h
  dsimp only at h
  split at h
  · cases h
  · next hbuffer =>
    split at h
    · cases h
    · next hdecoded =>
      obtain ⟨rfl, -⟩ := Prod.mk.inj h
      rw [Bool.not_eq_true', Bool.not_eq_false] at hdecoded
      refine ⟨?_, ⟨hbuffer, hdecoded⟩, ?_⟩
      · unfold Context.applyRuntimeConfig
        split_ifs
        all_goals rfl
      · refine Touched.applyRuntimeConfig (Touched.writeRandomSeed ?_ seed)
        split_ifs
        · exact (Touched.refl _).write32 _ _
        · exact (Touched.refl _).write32 _ _
        · exact Touched.refl _

/-- There is no checkpoint of the boot, or it cannot be loaded. -/
theorem restoreBootstrapCheckpoint_false
    (h : c.restoreBootstrapCheckpoint hardware.console i frame seed = (c', false)) :
    c'.inputs = c.inputs ∧
    (c'.runtime.instances i).gameplayCheckpoint = (c.runtime.instances i).gameplayCheckpoint ∧
    ¬ BootLoads hardware (savestates c i) ∧
    (c'.nds = c.nds ∨ (savestates c i).boot.buffer ≠ [] ∧
      c'.nds = loadMemory c.nds (hardware.decode (savestates c i).boot.buffer).1) := by
  unfold Context.restoreBootstrapCheckpoint at h
  dsimp only at h
  split at h
  · next hbuffer =>
    obtain ⟨rfl, -⟩ := Prod.mk.inj h
    exact ⟨rfl, rfl, fun hloads => hloads.1 hbuffer, Or.inl rfl⟩
  · next hbuffer =>
    split at h
    · next hdecoded =>
      obtain ⟨rfl, -⟩ := Prod.mk.inj h
      refine ⟨rfl, ?_, fun hloads => ?_, Or.inr ⟨hbuffer, rfl⟩⟩
      · show ((c.runtime.resetStartupHookState i).instances i).gameplayCheckpoint = _
        unfold MvlRuntime.Runtime.resetStartupHookState
        rw [instances_updateInstance_self]
      · rw [Bool.not_eq_true'] at hdecoded
        have hloaded : (hardware.decode (savestates c i).boot.buffer).2 = false := hdecoded
        rw [hloads.2] at hloaded
        cases hloaded
    · cases congrArg Prod.snd h

/-- The checkpoint of the first game replaces the memory of the guest, whether it can be loaded or
not. -/
theorem restoreGameplayCheckpoint_spec {restored : Bool}
    (h : c.restoreGameplayCheckpoint hardware.console i frame seed = (c', restored)) :
    c'.inputs = c.inputs ∧
    (hardware.decode (c.runtime.instances i).gameplayCheckpoint.buffer).2 = restored ∧
    Touched (loadMemory c.nds (hardware.decode (c.runtime.instances i).gameplayCheckpoint.buffer).1)
      c'.nds := by
  unfold Context.restoreGameplayCheckpoint at h
  dsimp only at h
  split at h
  · next hdecoded =>
    obtain ⟨rfl, rfl⟩ := Prod.mk.inj h
    rw [Bool.not_eq_true'] at hdecoded
    exact ⟨rfl, hdecoded, Touched.refl _⟩
  · next hdecoded =>
    obtain ⟨rfl, rfl⟩ := Prod.mk.inj h
    rw [Bool.not_eq_true', Bool.not_eq_false] at hdecoded
    refine ⟨?_, hdecoded, ?_⟩
    · unfold Context.applyRuntimeConfig
      split_ifs
      all_goals rfl
    · refine Touched.writeRandomSeed (Touched.applyRuntimeConfig ?_) seed
      exact (((Touched.refl _).write32 _ _).write32 _ _).write32 _ _

/-- A reset clears what the console holds of a correction. -/
theorem resetConsoleForNextMatch_true
    (h : c.resetConsoleForNextMatch hardware.console i frame seed = (c', true)) :
    c'.inputs = c.inputs ∧
      ∃ ram, Touched (loadMemory (clearRollback c.nds) (hardware.boot ram)) c'.nds := by
  unfold Context.resetConsoleForNextMatch at h
  dsimp only at h
  split at h
  · cases h
  · obtain ⟨rfl, -⟩ := Prod.mk.inj h
    constructor
    · unfold Context.requestSeed Context.mapNds Context.applyRuntimeConfig
        Context.rebaseStartupFrames
        Context.resetStartupHookState
      split_ifs
      all_goals rfl
    · -- up to the boot of the game, the fields that the reset has cleared stay as they are
      let reset := (((c.resetStartupHookState i).rebaseStartupFrames frame).mapNds
        hardware.console.reset).applyRuntimeConfig hardware.console
      have hreset : Touched (loadMemory (clearRollback c.nds) hardware.cleared) reset.nds :=
        Touched.applyRuntimeConfig (Touched.refl _)
      obtain ⟨ram, hbooted⟩ : ∃ ram, (reset.mapNds
          (Context.writeRandomSeed hardware.console seed)).nds = ram := ⟨_, rfl⟩
      have hseeded : Touched (loadMemory (clearRollback c.nds) hardware.cleared) ram :=
        hbooted ▸ hreset.writeRandomSeed seed
      refine ⟨ram.mainRAM.1, Touched.writeRandomSeed (Touched.applyRuntimeConfig ?_) seed⟩
      show Touched _ (loadMemory (reset.mapNds (Context.writeRandomSeed hardware.console seed)).nds
        (hardware.boot (reset.mapNds
          (Context.writeRandomSeed hardware.console seed)).nds.mainRAM.1))
      rw [hbooted, loadMemory_touched hseeded]
      exact Touched.refl _

/-- A reset fails without a cartridge only, and then changes nothing. -/
theorem resetConsoleForNextMatch_false
    (h : c.resetConsoleForNextMatch hardware.console i frame seed = (c', false)) :
    c' = c ∧ hardware.hasNDSCart = false := by
  unfold Context.resetConsoleForNextMatch at h
  dsimp only at h
  split at h
  · next hcart =>
    obtain ⟨rfl, -⟩ := Prod.mk.inj h
    rw [Bool.not_eq_true'] at hcart
    exact ⟨rfl, hcart⟩
  · cases congrArg Prod.snd h

/-- The attempt with the checkpoint of the first game, after nothing or a broken savestate has been
loaded. -/
theorem attempt_gameplay {s : Savestates} {stage : Int} {middle : MatchNds S}
    (hboot : ¬ BootLoads hardware s) (hfits : GameplayFits s stage)
    (hmiddle : ∀ memory, loadMemory middle memory = loadMemory nds memory) {restored : Bool}
    (hdecoded : (hardware.decode s.gameplay.buffer).2 = restored)
    (htouched : Touched (loadMemory middle (hardware.decode s.gameplay.buffer).1) nds') :
    Attempt hardware s stage nds (if restored then 1 else 0) nds' := by
  rw [hmiddle] at htouched
  cases restored with
  | true => exact .restored 1 (Or.inr ⟨hfits, hdecoded⟩) (.gameplay hboot hfits) htouched
  | false => exact .loaded (.gameplay hboot hfits) htouched

/-- What an attempt to start the next game can have done. -/
theorem startNextGame_attempt
    (h : c.startNextGame hardware.console i frame stage seed = (c', path)) :
    c'.inputs = c.inputs ∧ Attempt hardware (savestates c i) stage c.nds path c'.nds := by
  unfold Context.startNextGame at h
  rcases hbooted : c.restoreBootstrapCheckpoint hardware.console i frame seed with ⟨c₁, _ | _⟩
  · rw [hbooted] at h
    dsimp only at h
    obtain ⟨hinputs, hgameplay, hboot, hnds⟩ := restoreBootstrapCheckpoint_false hbooted
    have hoverwrite : ∀ memory, loadMemory c₁.nds memory = loadMemory c.nds memory := by
      intro memory
      rcases hnds with hsame | ⟨-, hloaded⟩
      · rw [hsame]
      · rw [hloaded]
        rfl
    rw [hgameplay] at h
    by_cases hfits : GameplayFits (savestates c i) stage
    · have hguard : (c.runtime.instances i).gameplayCheckpoint.buffer ≠ [] ∧
          (c.runtime.instances i).gameplayCheckpoint.stage = stage := hfits
      rw [if_pos hguard] at h
      rcases hrestored : c₁.restoreGameplayCheckpoint hardware.console i frame seed with
        ⟨c₂, restored⟩
      obtain ⟨hinputs', hdecoded, htouched⟩ := restoreGameplayCheckpoint_spec hrestored
      rw [hgameplay] at hdecoded htouched
      rw [hrestored] at h
      have hattempt := attempt_gameplay hboot hfits hoverwrite hdecoded htouched
      cases restored with
      | true =>
        obtain ⟨rfl, rfl⟩ := Prod.mk.inj h
        exact ⟨hinputs'.trans hinputs, hattempt⟩
      | false =>
        obtain ⟨rfl, rfl⟩ := Prod.mk.inj h
        exact ⟨hinputs'.trans hinputs, hattempt⟩
    · have hguard : ¬ ((c.runtime.instances i).gameplayCheckpoint.buffer ≠ [] ∧
          (c.runtime.instances i).gameplayCheckpoint.stage = stage) := hfits
      rw [if_neg hguard] at h
      rcases hreset : c₁.resetConsoleForNextMatch hardware.console i frame seed with ⟨c₂, _ | _⟩
      · obtain ⟨rfl, hcart⟩ := resetConsoleForNextMatch_false hreset
        rw [hreset] at h
        obtain ⟨rfl, rfl⟩ := Prod.mk.inj h
        refine ⟨hinputs, ?_⟩
        rcases hnds with hsame | ⟨hbuffer, hloaded⟩
        · rw [hsame]
          exact .kept (Touched.refl _)
        · rw [hloaded]
          exact .loaded (.failed hboot hfits hcart hbuffer) (Touched.refl _)
      · obtain ⟨hinputs', ram, htouched⟩ := resetConsoleForNextMatch_true hreset
        rw [hreset] at h
        obtain ⟨rfl, rfl⟩ := Prod.mk.inj h
        refine ⟨hinputs'.trans hinputs, .reset ram ?_⟩
        have hclear : loadMemory (clearRollback c₁.nds) (hardware.boot ram)
            = clearRollback (loadMemory c₁.nds (hardware.boot ram)) := rfl
        rw [hclear, hoverwrite] at htouched
        exact htouched
  · rw [hbooted] at h
    obtain ⟨rfl, rfl⟩ := Prod.mk.inj h
    obtain ⟨hinputs, hloads, htouched⟩ := restoreBootstrapCheckpoint_true hbooted
    exact ⟨hinputs, .restored 3 (Or.inl hloads) (.boot hloads) htouched⟩

/-- The end of `RestartAfterResultIfNeeded`. -/
theorem restart_attempt {outcome : MvlLifecycle.Context.RestartOutcome}
    (h : c.restart hardware.console i frame = (c', outcome)) :
    (outcome = .failed ∧ c'.inputs = c.inputs ∧
      Attempt hardware (savestates c i) (c.nextStage i) c.nds 0 c'.nds) ∨
    ∃ path ≠ 0, outcome = .restarted path ∧ c'.inputs = c.inputs.resetForRestart 0 ∧
      Attempt hardware (savestates c i) (c.nextStage i) c.nds path c'.nds := by
  have hselected : savestates (c.selectNextGame hardware.console i) i = savestates c i := by
    unfold savestates Context.selectNextGame
    rw [instances_updateInstance_self]
  unfold Context.restart at h
  rcases hnext : (c.selectNextGame hardware.console i).startNextGame hardware.console i frame
    (c.nextStage i)
    (c.nextSeed i) with ⟨c₁, _ | path⟩
  · rw [hnext] at h
    obtain ⟨rfl, rfl⟩ := Prod.mk.inj h
    obtain ⟨hinputs, hattempt⟩ := startNextGame_attempt hnext
    rw [hselected] at hattempt
    exact Or.inl ⟨rfl, hinputs, hattempt.of_touched ((Touched.refl _).writeRandomSeed _)⟩
  · rw [hnext] at h
    obtain ⟨rfl, rfl⟩ := Prod.mk.inj h
    obtain ⟨hinputs, hattempt⟩ := startNextGame_attempt hnext
    rw [hselected] at hattempt
    refine Or.inr ⟨path + 1, Nat.succ_ne_zero path, rfl, ?_,
      hattempt.of_touched ((Touched.refl _).writeRandomSeed _)⟩
    show c₁.inputs.resetForRestart 0 = _
    rw [hinputs]
    rfl

/-- The next game is due: the match is not decided, and the result has been shown long enough. -/
def Due (hardware : Hardware S) (c : MvlLifecycle.Context (MatchNds S)) (i : Fin 16) (frame : Nat) :
    Prop :=
  c.mvl.autoRestartAfterResult = true ∧ 1 ≤ c.mvl.targetWins ∧
  hardware.console.arm9Read16 kSceneCurrentSceneIDAddr c.nds = kResultsScene ∧
  (c.runtime.instances i).inResult = true ∧
  ∃ scored, c.scoreResult hardware.console i frame = (scored, true) ∧
    max ((scored.runtime.instances i).wins 0)
      ((scored.runtime.instances i).wins 1) < c.mvl.targetWins ∧
    c.mvl.autoRestartDelayFrames ≤ framesSince frame (scored.runtime.instances i).resultFrame

/-- Scoring concerns neither the console nor the inputs, nor what the next game is started from. -/
theorem scoreResult_keeps {scored : MvlLifecycle.Context (MatchNds S)} {done : Bool}
    (h : c.scoreResult hardware.console i frame = (scored, done)) :
    scored.inputs = c.inputs ∧ scored.nds = c.nds ∧ scored.mvl = c.mvl ∧
      savestates scored i = savestates c i ∧ scored.nextStage i = c.nextStage i := by
  obtain ⟨f, rfl, hcount, hboot, hgameplay⟩ : ∃ f : InstanceState → InstanceState,
      scored = c.updateInstance i f ∧
      (∀ s, (f s).restartCount = s.restartCount) ∧
      (∀ s, (f s).bootstrapCheckpoint = s.bootstrapCheckpoint) ∧
      ∀ s, (f s).gameplayCheckpoint = s.gameplayCheckpoint := by
    unfold Context.scoreResult at h
    split at h
    · obtain ⟨rfl, -⟩ := Prod.mk.inj h
      refine ⟨id, ?_, fun _ => rfl, fun _ => rfl, fun _ => rfl⟩
      unfold Context.updateInstance MvlRuntime.Runtime.updateInstance
      rw [id_eq, Function.update_eq_self]
    · split at h
      · obtain ⟨rfl, -⟩ := Prod.mk.inj h
        exact ⟨_, rfl, fun _ => rfl, fun _ => rfl, fun _ => rfl⟩
      · obtain ⟨rfl, -⟩ := Prod.mk.inj h
        exact ⟨_, rfl, fun _ => rfl, fun _ => rfl, fun _ => rfl⟩
  refine ⟨rfl, rfl, rfl, ?_, Context.nextStage_updateInstance hcount⟩
  unfold savestates Context.updateInstance
  dsimp only
  rw [instances_updateInstance_self, hboot, hgameplay]

/-- Nothing is attempted before the next game is due. -/
theorem restartAfterResultIfNeeded_attempt {outcome : MvlLifecycle.Context.RestartOutcome}
    (h : c.restartAfterResultIfNeeded hardware.console i frame = (c', outcome)) :
    (outcome = .none ∧ c'.inputs = c.inputs ∧ Touched c.nds c'.nds) ∨
    Due hardware c i frame ∧
      ((outcome = .failed ∧ c'.inputs = c.inputs ∧
        Attempt hardware (savestates c i) (c.nextStage i) c.nds 0 c'.nds) ∨
      ∃ path ≠ 0, outcome = .restarted path ∧ c'.inputs = c.inputs.resetForRestart 0 ∧
        Attempt hardware (savestates c i) (c.nextStage i) c.nds path c'.nds) := by
  unfold Context.restartAfterResultIfNeeded at h
  split at h
  · obtain ⟨rfl, rfl⟩ := Prod.mk.inj h
    exact Or.inl ⟨rfl, rfl, Touched.refl _⟩
  · next hauto =>
    split at h
    · obtain ⟨rfl, rfl⟩ := Prod.mk.inj h
      refine Or.inl ⟨rfl, ?_, ?_⟩
      · unfold Context.leaveResult
        dsimp only
        split_ifs
        all_goals rfl
      · unfold Context.leaveResult
        dsimp only
        split_ifs
        · exact ⟨_, rfl⟩
        · exact Touched.refl _
    · next hscene =>
      split at h
      · obtain ⟨rfl, rfl⟩ := Prod.mk.inj h
        exact Or.inl ⟨rfl, rfl, Touched.refl _⟩
      · next hresult =>
        rcases hscore : c.scoreResult hardware.console i frame with ⟨scored, _ | _⟩
        · obtain ⟨hinputs, hnds, -⟩ := scoreResult_keeps hscore
          rw [hscore] at h
          obtain ⟨rfl, rfl⟩ := Prod.mk.inj h
          exact Or.inl ⟨rfl, hinputs, hnds ▸ Touched.refl _⟩
        · obtain ⟨hinputs, hnds, hmvl, hsavestates, hstage⟩ := scoreResult_keeps hscore
          rw [hscore] at h
          dsimp only at h
          split at h
          · obtain ⟨rfl, rfl⟩ := Prod.mk.inj h
            exact Or.inl ⟨rfl, hinputs, hnds ▸ Touched.refl _⟩
          · next hundecided =>
            right
            have hattempt := restart_attempt h
            rw [hinputs, hnds, hsavestates, hstage] at hattempt
            rw [hmvl] at hundecided
            simp only [Bool.or_eq_true, Bool.not_eq_true', decide_eq_true_eq,
              not_or, Bool.not_eq_false, Int.not_lt] at hauto
            rw [not_not] at hscene
            rw [Bool.not_eq_true', Bool.not_eq_false] at hresult
            rw [not_or, not_le, Nat.not_lt] at hundecided
            exact ⟨⟨hauto.1, hauto.2, hscene, hresult, scored, hscore, hundecided.1, hundecided.2⟩,
              hattempt⟩

end Start

/-! ## The restart -/

namespace Session

variable {s t primed : Session S} {i : Fin 16} {epoch generation written : Nat} {phase : Phase}

/-- A memory without a replay leaves no correction in flight. -/
theorem idle_of_loadMemory (h : nds.isRollbackTransactionInFlight = false) {memory : GuestMemory S}
    (hhistory : memory.history.enabled = false) :
    (loadMemory nds memory).isRollbackTransactionInFlight = false := by
  unfold Nds.isRollbackTransactionInFlight at h
  simp only [Bool.or_eq_false_iff] at h
  show (nds.restorePending || nds.historyReachedExitGate || memory.history.enabled) = false
  rw [h.1.1, h.1.2, hhistory]
  rfl

theorem Kept.of_touched (h : Kept phase epoch generation written nds)
    (htouched : Touched nds nds') :
    Kept phase epoch generation written nds' := by
  obtain ⟨f, rfl⟩ := htouched
  exact ⟨⟨h.owned.mainRAM, h.owned.restore, h.owned.history⟩, h.ring⟩

/-- A savestate replaces the history, and nothing else that belongs to a generation. -/
theorem Kept.of_loadMemory (h : Kept phase epoch generation written nds) {memory : GuestMemory S}
    (hhistory : memory.history.enabled = false) :
    Kept phase epoch generation written (loadMemory nds memory) := by
  refine ⟨⟨h.owned.mainRAM, h.owned.restore, fun henabled => ?_⟩, h.ring⟩
  have hdisabled : (loadMemory nds memory).history.enabled = false := hhistory
  rw [hdisabled] at henabled
  cases henabled

/-- What the restore of a checkpoint has to find in the console. -/
structure Settles (epoch : Nat) (nds : MatchNds S) : Prop where
  restorePending : nds.restorePending = false
  historyReachedExitGate : nds.historyReachedExitGate = false
  ring : Outdated epoch nds

/-- The attempt leaves no history to be played in the memory of the guest, and a checkpoint is
restored only while nothing is in flight and when the label of the epoch is to invalidate the
ring. -/
structure CleanRestart (hardware : Hardware S) (i : Fin 16) (epoch : Nat) (s : Session S) :
    Prop where
  loaded : ∀ memory, Loaded hardware (savestates s.context i) (s.context.nextStage i) memory →
    memory.history.enabled = false
  restored : Restores hardware (savestates s.context i) (s.context.nextStage i) →
    Settles epoch s.context.nds

/-- The steps of a match whose games have one epoch and whose rematches start clean. -/
def Clean (hardware : Hardware S) (i : Fin 16) (epoch : Nat) (s : Session S) : MatchOp → Prop
  | .frame f => Agreed epoch f
  | .restart frame => Due hardware s.context i frame → CleanRestart hardware i epoch s
  | .prepare _ => True

/-- What the next game finds in the console. -/
structure Restarted (epoch : Nat) (nds : MatchNds S) : Prop where
  idle : nds.isRollbackTransactionInFlight = false
  ring : Outdated epoch nds

theorem Restarted.of_touched (h : Restarted epoch nds) (htouched : Touched nds nds') :
    Restarted epoch nds' := by
  obtain ⟨f, rfl⟩ := htouched
  exact ⟨h.idle, h.ring⟩

theorem CleanRestart.restarted (h : CleanRestart hardware i epoch s)
    {path : MvlLifecycle.Context.RestartPath} (hpath : path ≠ 0)
    (hattempt : Attempt hardware (savestates s.context i)
      (s.context.nextStage i) s.context.nds path nds') :
    Restarted epoch nds' := by
  cases hattempt with
  | kept | loaded => exact absurd rfl hpath
  | @restored path memory _ hrestores hloaded htouched =>
    have hsettles := h.restored hrestores
    have hidle : (loadMemory s.context.nds memory).isRollbackTransactionInFlight = false := by
      show (s.context.nds.restorePending || s.context.nds.historyReachedExitGate
        || memory.history.enabled) = false
      rw [hsettles.restorePending, hsettles.historyReachedExitGate]
      exact h.loaded memory hloaded
    have hloaded : Restarted epoch (loadMemory s.context.nds memory) := ⟨hidle, hsettles.ring⟩
    exact hloaded.of_touched htouched
  | reset ram htouched =>
    have hreset : Restarted epoch (loadMemory (clearRollback s.context.nds) (hardware.boot ram)) :=
      ⟨hardware.boot_idle ram, Or.inl rfl⟩
    exact hreset.of_touched htouched

/-- An attempt that fails has put a memory without a history into the console at most. -/
theorem CleanRestart.failed (h : CleanRestart hardware i epoch s)
    (hattempt : Attempt hardware (savestates s.context i)
      (s.context.nextStage i) s.context.nds 0 nds') :
    ∃ base, (base = s.context.nds ∨
      ∃ memory : GuestMemory S, memory.history.enabled = false ∧
      base = loadMemory s.context.nds memory) ∧
      Touched base nds' := by
  generalize hpath : (0 : MvlLifecycle.Context.RestartPath) = path at hattempt
  cases hattempt with
  | kept htouched => exact ⟨_, Or.inl rfl, htouched⟩
  | loaded hloaded htouched => exact ⟨_, Or.inr ⟨_, h.loaded _ hloaded, rfl⟩, htouched⟩
  | restored path hrestores hloaded htouched =>
    exact ⟨_, Or.inr ⟨_, h.loaded _ hloaded, rfl⟩, htouched⟩
  | reset => cases hpath

/-- A restart keeps what belongs to a generation together, and the next one begins with nothing. -/
theorem Sound.restart (h : Sound epoch s) (frame : Nat)
    (hclean : Due hardware s.context i frame → CleanRestart hardware i epoch s) :
    Sound epoch (s.restart hardware i frame) := by
  rcases hcall : s.context.restartAfterResultIfNeeded hardware.console i frame with
    ⟨context, outcome⟩
  unfold Session.restart
  rw [hcall]
  rcases restartAfterResultIfNeeded_attempt hcall with ⟨rfl, hinputs, htouched⟩ |
    ⟨hdue, ⟨rfl, hinputs, hattempt⟩ | ⟨path, hpath, rfl, hinputs, hattempt⟩⟩
  · refine ⟨Kept.of_touched h.kept htouched, fun hwaiting => ?_, fun hwaiting => ?_⟩
    · obtain ⟨f, hnds⟩ := htouched
      show context.nds.isRollbackTransactionInFlight = false
      rw [hnds]
      exact h.idle hwaiting
    · show Quiet context.inputs
      rw [hinputs]
      exact h.quiet hwaiting
  · obtain ⟨base, hbase, f, hnds⟩ := (hclean hdue).failed hattempt
    have hkept : Kept (phaseOf s.start) epoch s.generation s.historyGeneration base := by
      rcases hbase with rfl | ⟨memory, hhistory, rfl⟩
      · exact h.kept
      · exact Kept.of_loadMemory h.kept hhistory
    refine ⟨Kept.of_touched hkept ⟨f, hnds⟩, fun hwaiting => ?_, fun hwaiting => ?_⟩
    · show context.nds.isRollbackTransactionInFlight = false
      rw [hnds]
      rcases hbase with rfl | ⟨memory, hhistory, rfl⟩
      · exact h.idle hwaiting
      · exact idle_of_loadMemory (h.idle hwaiting) hhistory
    · show Quiet context.inputs
      rw [hinputs]
      exact h.quiet hwaiting
  · have hrestarted := (hclean hdue).restarted hpath hattempt
    refine ⟨⟨?_, Or.inr hrestarted.ring⟩, fun _ => hrestarted.idle, fun _ => ?_⟩
    · exact Owned.idle rfl hrestarted.idle
    · show Quiet context.inputs
      rw [hinputs]
      exact quiet_resetForRestart _ _

/-! ## The match -/

/-- Each operation keeps the match sound. -/
theorem Sound.step {op : MatchOp} (h : Sound epoch s) (hclean : Clean hardware i epoch s op)
    (hstep : step hardware guest i s op = some t) : Sound epoch t := by
  cases op with
  | frame f => exact h.frame hclean hstep
  | restart frame =>
    obtain rfl := Option.some.inj hstep
    exact h.restart frame hclean
  | prepare runtime =>
    obtain rfl := Option.some.inj hstep
    exact ⟨h.kept, h.idle, h.quiet⟩

/-- Before the first game. -/
structure Booted (s : Session S) : Prop where
  start : s.start = none
  mainRAM : s.context.nds.mainRAM.2 = s.generation
  idle : s.context.nds.isRollbackTransactionInFlight = false
  timeline : s.context.nds.checkpointTimeline.active = false
  quiet : Quiet s.context.inputs

/-- A match that has just been booted is sound. -/
theorem Booted.sound (h : Booted s) (epoch : Nat) : Sound epoch s := by
  refine ⟨⟨Owned.idle h.mainRAM h.idle, ?_⟩, fun _ => h.idle, fun _ => h.quiet⟩
  rw [h.start]
  exact Or.inr (Or.inl h.timeline)

/-- No transaction is in flight, and there is neither a pending mismatch nor a prediction. -/
structure StartsClean (s : Session S) : Prop where
  restorePending : s.context.nds.restorePending = false
  historyReachedExitGate : s.context.nds.historyReachedExitGate = false
  history : s.context.nds.history.enabled = false
  pendingRollbackFrame : s.context.inputs.rollbackInputs.pendingRollbackFrame = none
  predictions : ∀ f : Nat, s.context.inputs.rollbackInputs.predictions[f]? = none

/-- A sound match starts its next game clean. -/
theorem Sound.startsClean (h : Sound epoch s) (hwaiting : s.start = none) (start : Started) :
    StartsClean (s.prime start) := by
  have hidle := h.idle hwaiting
  unfold Nds.isRollbackTransactionInFlight at hidle
  simp only [Bool.or_eq_false_iff] at hidle
  have hquiet := (h.quiet hwaiting).primeEpoch start.sharedLogicalEpoch start.delay
    RollbackStorage.kNoFrame
  exact ⟨hidle.1.1, hidle.1.2, hidle.2, hquiet.pending, hquiet.predictions⟩

/-- In every run of a match whose rematches start clean, nothing of the generation before is in
flight when the input epoch is primed, and no prediction is left. However often the guest calls the
gate, what it plays, the image that is to be restored and the history that is played belong to the
generation. -/
theorem rematch_starts_clean (hardware : Hardware S)
    (guest : Guest S (Fin 2 → InputState)) (i : Fin 16)
    (epoch : Nat) (hbooted : Booted s) {ops : List MatchOp}
    (hclean : Run.Along (step hardware guest i) (Clean hardware i epoch) s ops)
    (hrun : Run.run (step hardware guest i) s ops = some t) :
    (∀ f primed, t.start = none → t.accept f = some primed → primed.start ≠ none →
      StartsClean primed) ∧
    ∀ gates, Owned t.generation t.historyGeneration
      (t.context.nds.gameTicks (ofGeneration guest) gates) := by
  have hsound : Sound epoch t :=
    Run.run_invariant (fun s op t h hclean hstep => Sound.step h hclean hstep)
      (hbooted.sound epoch) hclean hrun
  constructor
  · intro f primed hwaiting haccept hprimed
    rcases accept_cases haccept with rfl | ⟨start, -, -, -, rfl⟩
    · exact absurd hwaiting hprimed
    · exact hsound.startsClean hwaiting start
  · exact fun gates => (hsound.kept.gameTicks gates).owned

/-! ## Two rematches from the checkpoint of the boot -/

/-- A game that is over after two ticks, with more stars for player 0. Only the savestate of the
boot can be loaded. -/
def shortGame : Hardware (List UInt32) where
  read8 := fun _ _ => 0
  read16 := fun address log => if address = kSceneCurrentSceneIDAddr ∧ 2 ≤ log.length then
    kResultsScene else 0
  read32 := fun address _ => if address = kGamePlayerBattleStarsAddr then 5 else 0
  write8 := fun _ _ log => log
  write16 := fun _ _ log => log
  write32 := fun _ _ log => log
  decode := fun buffer => ({ mainRAM := [] }, decide (buffer = [1]))
  hasNDSCart := true
  cleared := { mainRAM := [] }
  boot := fun _ => { mainRAM := [] }
  boot_idle := fun _ => rfl

/-- A match that is won by two games, before its first one. -/
def bootedMatch : Session (List UInt32) where
  context :=
    { mvl := { autoRestartAfterResult := true, autoRestartDelayFrames := 0 }
      connection := { startFrame := 10, localStartupRawFrame := 10 }
      runtime := { instances := fun _ => { bootstrapCheckpoint := { buffer := [1], frame := 5 } } }
      nds := { mainRAM := ([], 0), scratch := fun _ => {} } }

theorem bootedMatch_booted : Booted bootedMatch := by
  refine ⟨rfl, rfl, rfl, rfl, rfl, fun f => ?_⟩
  exact Std.ExtTreeMap.getElem?_empty

/-- The frame at which the handshake of a generation completes. -/
def firstFrame (start : Started) : MatchFrame where
  rawFrame := start.localReadyFrame
  known := start
  counted := start
  accepted := some start
  event := frameWith []
  gates := 1

/-- Another frame of the game. -/
def gameFrame (start : Started) (rawFrame : Nat) : MatchFrame where
  rawFrame := rawFrame
  known := start
  counted := start
  event := frameWith []
  gates := 1

/-- A frame in the results scene, in which the guest does not call the gate. -/
def resultFrame (start : Started) (rawFrame : Nat) (arrivals : List Arrival) : MatchFrame where
  rawFrame := rawFrame
  known := start
  counted := start
  event := frameWith arrivals
  paused := true
  gates := 0

theorem accept_firstFrame {s : Session (List UInt32)}
    (hwaiting : s.start = none) (start : Started) :
    s.accept (firstFrame start) = some (s.prime start) := by
  show (if s.start.isSome ∨ start.localReadyFrame ≠ start.localReadyFrame then none
    else some (s.prime start)) = _
  rw [if_neg]
  rw [hwaiting]
  simp

/-- The first game and the restart after it, with these inputs arriving in the results scene. -/
def toRematch (arrivals : List Arrival) : List MatchOp :=
  let start := sessionFrom 10 exampleEpoch_pos
  [.frame (firstFrame start), .frame (gameFrame start 11), .frame (resultFrame start 12 arrivals),
    .restart 13, .restart 14]

/-- The state in which the rematch is about to start. -/
def rematch (i : Fin 16) (arrivals : List Arrival) : Session (List UInt32) :=
  Run.final (step shortGame logGame i) bootedMatch (toRematch arrivals)

theorem rematchStart_pos : 0 < 14 := by decide

/-- The start of the second game. -/
def rematchStart : Started := sessionFrom 14 rematchStart_pos

/-- What a restart has to find is a matter of three fields. -/
def Settled (s : Session (List UInt32)) : MatchOp → Prop
  | .frame f => ∀ start ∈ f.accepted, start.sharedLogicalEpoch = 10 ∧ 0 < start.config.window
  | .restart _ =>
    s.context.nds.restorePending = false ∧ s.context.nds.historyReachedExitGate = false ∧
      10 < s.context.nds.checkpointTimeline.logicalFrame
  | .prepare _ => True

instance decidableSettled (s : Session (List UInt32)) : (op : MatchOp) → Decidable (Settled s op)
  | .frame f => inferInstanceAs (Decidable (∀ start ∈ f.accepted, _))
  | .restart _ => inferInstanceAs (Decidable (_ ∧ _))
  | .prepare _ => isTrue trivial

theorem clean_of_settled {s : Session (List UInt32)} {op : MatchOp} (h : Settled s op) :
    Clean shortGame 0 10 s op := by
  cases op with
  | frame f => exact fun start haccepted => h start haccepted
  | restart frame =>
    obtain ⟨hpending, hgate, hlabel⟩ := h
    refine fun _ => ⟨fun memory hloaded => ?_, fun _ => ⟨hpending, hgate, Or.inr hlabel⟩⟩
    cases hloaded with
    | boot | gameplay | failed => rfl
  | prepare runtime => trivial

theorem run_toRematch (arrivals : List Arrival)
    (h : (Run.run (step shortGame logGame 0) bootedMatch (toRematch arrivals)).isSome) :
    Run.run (step shortGame logGame 0) bootedMatch (toRematch arrivals) =
      some (rematch 0 arrivals) :=
  Run.run_eq_final (step shortGame logGame 0) bootedMatch (toRematch arrivals) h

/-- With no correction under way, the rematch from the checkpoint of the boot starts clean. -/
theorem rematch_without_correction :
    Run.run (step shortGame logGame 0) bootedMatch (toRematch []) = some (rematch 0 []) ∧
    (rematch 0 []).generation = 1 ∧
    (∃ primed, (rematch 0 []).accept (firstFrame rematchStart) = some primed ∧ StartsClean primed) ∧
    ∀ gates, Owned 1 (rematch 0 []).historyGeneration
      ((rematch 0 []).context.nds.gameTicks (ofGeneration logGame) gates) := by
  have hrun := run_toRematch [] (by decide +kernel)
  have hgeneration : (rematch 0 []).generation = 1 := by decide +kernel
  have hwaiting : (rematch 0 []).start = none := by
    rw [← Option.isNone_iff_eq_none]
    decide +kernel
  have hsettled : Run.Along (step shortGame logGame 0) Settled bootedMatch (toRematch []) := by
    decide +kernel
  obtain ⟨hclean, howned⟩ := rematch_starts_clean shortGame logGame 0 10 bootedMatch_booted
    (Run.along_imp hsettled fun s op h => clean_of_settled h) hrun
  rw [hgeneration] at howned
  have haccept := accept_firstFrame hwaiting rematchStart
  exact ⟨hrun, hgeneration, ⟨_, haccept, hclean _ _ hwaiting haccept (Option.some_ne_none _)⟩,
    howned⟩

/-- The late input is corrected in the results scene, but before the guest calls the gate again, the
checkpoint of the boot is restored. When the input epoch of the second game is primed, the
correction is still in flight, and its first frame goes on from the first frame of the first
game. -/
theorem rematch_with_correction :
    Booted bootedMatch ∧
    Run.run (step shortGame logGame 0) bootedMatch (toRematch [⟨11, Play.pressA⟩])
      = some (rematch 0 [⟨11, Play.pressA⟩]) ∧
    (rematch 0 [⟨11, Play.pressA⟩]).generation = 1 ∧
    (∃ primed, (rematch 0 [⟨11, Play.pressA⟩]).accept (firstFrame rematchStart) = some primed ∧
      primed.context.nds.restorePending = true ∧ ¬ StartsClean primed) ∧
    (step shortGame logGame 0 (rematch 0 [⟨11, Play.pressA⟩])
      (.frame (firstFrame rematchStart))).map
      (fun t => (t.generation, t.context.nds.mainRAM)) = some (1, ([0xFFF, 0xFFF], 0)) ∧
    (step shortGame logGame 0 (rematch 0 []) (.frame (firstFrame rematchStart))).map
      (fun t => (t.generation, t.context.nds.mainRAM)) = some (1, ([0xFFF], 1)) := by
  have hwaiting : (rematch 0 [⟨11, Play.pressA⟩]).start = none := by
    rw [← Option.isNone_iff_eq_none]
    decide +kernel
  have hpending : (rematch 0 [⟨11, Play.pressA⟩]).context.nds.restorePending = true := by
    decide +kernel
  refine ⟨bootedMatch_booted, run_toRematch _ (by decide +kernel), by decide +kernel,
    ?_, by decide +kernel,
    by decide +kernel⟩
  refine ⟨_, accept_firstFrame hwaiting rematchStart, hpending, fun hclean => ?_⟩
  have hcleared : (rematch 0 [⟨11, Play.pressA⟩]).context.nds.restorePending = false :=
    hclean.restorePending
  rw [hpending] at hcleared
  cases hcleared

end Session

end Bigstar.Netplay.RomLoopMatch
