import Bigstar.Netplay.MvlLifecycle
import Mathlib.Tactic.Common

/-!
# A rematch that fails

What a failed attempt to start the next game leaves behind. Only the restart count is put back: the
stage selection of the next game stays, and so does everything that the restore of the boot
checkpoint has reset and rebased before its savestate could not be loaded.
-/

namespace Bigstar.Netplay.MvlLifecycle

open Config InputTimeline MvlRuntime

@[simp]
theorem instances_updateInstance_self (r : MvlRuntime.Runtime) (i : Fin 16)
    (f : InstanceState → InstanceState) :
    (r.updateInstance i f).instances i = f (r.instances i) :=
  Function.update_self ..

@[simp]
theorem instances_updateInstance_of_ne (r : MvlRuntime.Runtime) {i j : Fin 16} (h : j ≠ i)
    (f : InstanceState → InstanceState) : (r.updateInstance i f).instances j = r.instances j :=
  Function.update_of_ne h ..

variable {N : Type} {console : Console N} {c c' : Context N} {i : Fin 16} {frame : Nat}

/-- The state that a game is set up with. -/
@[ext]
structure Setup where
  connection : ConnectionConfig
  handshake : SessionPolicy.Runtime
  runtimePatch : RuntimePatchConfig
  packetBridge : PacketBridgeConfig
  packetBridgeRuntime : Fin 16 → JitHook
  cameraInitHold : MvlCameraInitHoldConfig
  startupFrameBase : Nat
  currentStage : Int
  currentStageSceneSettings : Nat
  restartCount : Fin 16 → Int

namespace Context

/-- What a failed restart should leave alone. -/
def setup (c : Context N) : Setup where
  connection := c.connection
  handshake := c.handshake
  runtimePatch := c.runtimePatch
  packetBridge := c.packetBridge
  packetBridgeRuntime := c.packetBridgeRuntime
  cameraInitHold := c.mvl.cameraInitHold
  startupFrameBase := c.runtime.startupFrameBase
  currentStage := c.currentStage
  currentStageSceneSettings := c.currentStageSceneSettings
  restartCount := fun j => (c.runtime.instances j).restartCount

/-- The startup frames that a rebase changes. -/
def startupFrames (c : Context N) : List Nat :=
  [c.connection.localStartupRawFrame, c.packetBridge.forceGameLocalPlayerIDStartFrame,
    c.runtimePatch.packetBridgeJitHelperPatchFrame, c.mvl.cameraInitHold.startFrame,
    c.mvl.cameraInitHold.endFrame]

/-- The startup state is the one of a restore of the boot checkpoint at this frame. -/
structure StartedFromBoot (c : Context N) (i : Fin 16) (frame : Nat) : Prop where
  frames : ∀ value ∈ c.startupFrames, c.runtime.rebaseStartupFrameFromCheckpoint frame
    (c.runtime.instances i).bootstrapCheckpoint.frame value = value
  base : c.runtime.startupFrameBase =
    if frame > (c.runtime.instances i).bootstrapCheckpoint.frame then
      frame - (c.runtime.instances i).bootstrapCheckpoint.frame
    else frame
  hook : c.packetBridgeRuntime i = {}
  handshake : c.handshake.resetStartHandshake = c.handshake

/-- The next game has the stage of this one, and there is nothing to reset before the boot
checkpoint is loaded. -/
structure NothingToSetUp (c : Context N) (i : Fin 16) (frame : Nat) : Prop where
  stage : c.nextStage i = c.currentStage
  settings : composeSceneSettingsForStage c.currentStage = c.currentStageSceneSettings
  boot : (c.runtime.instances i).bootstrapCheckpoint.buffer = [] ∨ c.StartedFromBoot i frame

/-! ## The attempt -/

/-- The state in which the boot checkpoint is loaded. -/
def prepared (c : Context N) (i : Fin 16) (frame : Nat) : Context N :=
  if (c.runtime.instances i).bootstrapCheckpoint.buffer = [] then c
  else (c.resetStartupHookState i).rebaseStartupFramesFromCheckpoint frame
    (c.runtime.instances i).bootstrapCheckpoint.frame

theorem restoreBootstrapCheckpoint_failed {seed : Nat}
    (h : c.restoreBootstrapCheckpoint console i frame seed = (c', false)) :
    ∃ nds, c' = { c.prepared i frame with nds } := by
  unfold restoreBootstrapCheckpoint at h
  unfold prepared
  dsimp only at h
  by_cases hempty : (c.runtime.instances i).bootstrapCheckpoint.buffer = []
  · rw [if_pos hempty] at h ⊢
    cases h
    exact ⟨c.nds, rfl⟩
  · rw [if_neg hempty] at h ⊢
    split at h
    · cases h
      exact ⟨_, rfl⟩
    · cases congrArg Prod.snd h

/-- A failed attempt changes nothing else than the console after the boot checkpoint has been
tried. -/
theorem startNextGame_failed {stage : Int} {seed : Nat}
    (h : c.startNextGame console i frame stage seed = (c', 0)) :
    ∃ nds, c' = { c.prepared i frame with nds } := by
  unfold startNextGame at h
  rcases hboot : c.restoreBootstrapCheckpoint console i frame seed with ⟨c₁, _ | _⟩
  · obtain ⟨nds, rfl⟩ := restoreBootstrapCheckpoint_failed hboot
    rw [hboot] at h
    dsimp only at h
    split_ifs at h
    · unfold restoreGameplayCheckpoint at h
      dsimp only at h
      split_ifs at h
      all_goals cases h
      exact ⟨_, rfl⟩
    · unfold resetConsoleForNextMatch at h
      dsimp only at h
      split_ifs at h
      all_goals cases h
      exact ⟨_, rfl⟩
  · rw [hboot] at h
    cases h

theorem bootstrapCheckpoint_selectNextGame (console : Console N) (c : Context N) (i : Fin 16) :
    ((c.selectNextGame console i).runtime.instances i).bootstrapCheckpoint
      = (c.runtime.instances i).bootstrapCheckpoint := by
  simp [selectNextGame]

theorem restartCount_prepared (c : Context N) (i : Fin 16) (frame : Nat) (j : Fin 16) :
    ((c.prepared i frame).runtime.instances j).restartCount =
      (c.runtime.instances j).restartCount := by
  unfold prepared
  split_ifs
  · rfl
  · change (((c.runtime.resetStartupHookState i).instances j).restartCount) = _
    unfold MvlRuntime.Runtime.resetStartupHookState
    by_cases hj : j = i
    · subst hj
      rw [instances_updateInstance_self]
    · rw [instances_updateInstance_of_ne _ hj]

/-- The restart count that is put back is the one before the attempt. -/
theorem restartCount_failed (console : Console N) (c : Context N) (i : Fin 16)
    (frame : Nat) (j : Fin 16) :
    ((((c.selectNextGame console i).prepared i frame).runtime.updateInstance i fun s =>
      { s with restartCount := s.restartCount - 1 }).instances j).restartCount
        = ((c.prepared i frame).runtime.instances j).restartCount := by
  rw [restartCount_prepared c]
  by_cases hj : j = i
  · subst hj
    have hraised : ((c.selectNextGame console j).runtime.instances j).restartCount
        = (c.runtime.instances j).restartCount + 1 := by
      simp [selectNextGame]
    rw [instances_updateInstance_self]
    dsimp only
    rw [restartCount_prepared, hraised, Int.add_sub_cancel]
  · rw [instances_updateInstance_of_ne _ hj, restartCount_prepared]
    simp [selectNextGame, hj]

/-- What a failed attempt leaves behind. -/
theorem restart_failed (h : c.restart console i frame = (c', .failed)) :
    c'.setup = { (c.prepared i frame).setup with
      currentStage := c.nextStage i
      currentStageSceneSettings := composeSceneSettingsForStage (c.nextStage i) } := by
  unfold restart at h
  rcases hnext : (c.selectNextGame console i).startNextGame console i frame
    (c.nextStage i) (c.nextSeed i)
    with ⟨c₁, _ | path⟩
  · rw [hnext] at h
    cases h
    obtain ⟨nds, rfl⟩ := startNextGame_failed hnext
    have hcheckpoint := bootstrapCheckpoint_selectNextGame console c i
    apply Setup.ext
    case restartCount => exact funext (restartCount_failed console c i frame)
    all_goals
      simp only [setup, updateInstance, prepared, hcheckpoint]
      split_ifs <;> rfl
  · rw [hnext] at h
    cases congrArg Prod.snd h

/-- The restore of the boot checkpoint sets up nothing where everything is as it leaves it. -/
theorem setup_prepared_eq_iff :
    (c.prepared i frame).setup = c.setup ↔
      (c.runtime.instances i).bootstrapCheckpoint.buffer = [] ∨ c.StartedFromBoot i frame := by
  by_cases hempty : (c.runtime.instances i).bootstrapCheckpoint.buffer = []
  · have hprepared : c.prepared i frame = c := if_pos hempty
    rw [hprepared]
    exact ⟨fun _ => Or.inl hempty, fun _ => rfl⟩
  · have hprepared : c.prepared i frame =
      (c.resetStartupHookState i).rebaseStartupFramesFromCheckpoint frame
        (c.runtime.instances i).bootstrapCheckpoint.frame := if_neg hempty
    have hcounts := restartCount_prepared c i frame
    rw [hprepared] at hcounts ⊢
    constructor
    · intro h
      right
      refine ⟨?_, ?_, ?_, ?_⟩
      · have hconnection := congrArg (fun s => s.connection.localStartupRawFrame) h
        have hbridge := congrArg (fun s => s.packetBridge.forceGameLocalPlayerIDStartFrame) h
        have hpatch := congrArg (fun s => s.runtimePatch.packetBridgeJitHelperPatchFrame) h
        have hstart := congrArg (fun s => s.cameraInitHold.startFrame) h
        have hend := congrArg (fun s => s.cameraInitHold.endFrame) h
        intro value hvalue
        simp only [startupFrames, List.mem_cons, List.not_mem_nil, or_false] at hvalue
        rcases hvalue with rfl | rfl | rfl | rfl | rfl
        · exact hconnection
        · exact hbridge
        · exact hpatch
        · exact hstart
        · exact hend
      · exact (congrArg Setup.startupFrameBase h).symm
      · have hhook := congrFun (congrArg Setup.packetBridgeRuntime h) i
        exact hhook.symm.trans (Function.update_self ..)
      · exact congrArg Setup.handshake h
    · rintro (hboot | hboot)
      · exact absurd hboot hempty
      · have hframes := hboot.frames
        simp only [startupFrames, List.forall_mem_cons, List.not_mem_nil,
          false_implies, implies_true, and_true] at hframes
        obtain ⟨hconnection, hbridge, hpatch, hstart, hend⟩ := hframes
        apply Setup.ext
        case connection =>
          exact congrArg (fun value =>
            { c.connection with localStartupRawFrame := value }) hconnection
        case packetBridge => exact congrArg PacketBridgeConfig.mk hbridge
        case runtimePatch =>
          exact congrArg (fun value =>
            { c.runtimePatch with packetBridgeJitHelperPatchFrame := value }) hpatch
        case cameraInitHold =>
          exact congrArg₂ (fun value value' =>
            { c.mvl.cameraInitHold with startFrame := value, endFrame := value' })
            hstart hend
        case handshake => exact hboot.handshake
        case packetBridgeRuntime => exact Function.update_eq_self_iff.mpr hboot.hook.symm
        case startupFrameBase => exact hboot.base.symm
        case restartCount => exact funext hcounts
        all_goals rfl

/-! ## The call -/

/-- Scoring a result changes nothing that the next game is set up with. -/
theorem scoreResult_frame (h : c.scoreResult console i frame = (c', true)) :
    ∃ f : InstanceState → InstanceState, c' = c.updateInstance i f ∧
      ∀ s, (f s).restartCount = s.restartCount ∧
      (f s).bootstrapCheckpoint = s.bootstrapCheckpoint := by
  unfold scoreResult at h
  split_ifs at h
  · cases h
    refine ⟨id, ?_, fun s => ⟨rfl, rfl⟩⟩
    simp [updateInstance, MvlRuntime.Runtime.updateInstance]
  · split at h
    · cases h
    · cases h
      exact ⟨_, rfl, fun s => ⟨rfl, rfl⟩⟩

/-- A call that fails has scored the result and tried to start the next game. -/
theorem restart_of_failed (h : c.restartAfterResultIfNeeded console i frame = (c', .failed)) :
    ∃ scored, c.scoreResult console i frame = (scored, true) ∧
    scored.restart console i frame = (c', .failed) := by
  unfold restartAfterResultIfNeeded at h
  split_ifs at h
  · cases congrArg Prod.snd h
  · cases congrArg Prod.snd h
  · cases congrArg Prod.snd h
  · rcases hscore : c.scoreResult console i frame with ⟨scored, _ | _⟩
    · rw [hscore] at h
      cases congrArg Prod.snd h
    · rw [hscore] at h
      dsimp only at h
      split_ifs at h
      · cases congrArg Prod.snd h
      · exact ⟨scored, rfl, h⟩

theorem stage_prepared (c : Context N) (i : Fin 16) (frame : Nat) :
    (c.prepared i frame).currentStage = c.currentStage
      ∧ (c.prepared i frame).currentStageSceneSettings = c.currentStageSceneSettings := by
  unfold prepared
  split_ifs
  · exact ⟨rfl, rfl⟩
  · exact ⟨rfl, rfl⟩

section Scored

variable {f : InstanceState → InstanceState} (hcount : ∀ s, (f s).restartCount = s.restartCount)
  (hcheckpoint : ∀ s, (f s).bootstrapCheckpoint = s.bootstrapCheckpoint)

include hcount in
theorem nextStage_updateInstance : (c.updateInstance i f).nextStage i = c.nextStage i := by
  simp [nextStage, updateInstance, MvlRuntime.Runtime.stageForGame,
    MvlRuntime.Runtime.gameIndex, hcount]

include hcount hcheckpoint in
theorem setup_prepared_updateInstance :
    ((c.updateInstance i f).prepared i frame).setup = (c.prepared i frame).setup := by
  have hboot : ((c.updateInstance i f).runtime.instances i).bootstrapCheckpoint
      = (c.runtime.instances i).bootstrapCheckpoint := by
    simp [updateInstance, hcheckpoint]
  have hcounts : ∀ j, (((c.updateInstance i f).prepared i frame).runtime.instances j).restartCount
      = ((c.prepared i frame).runtime.instances j).restartCount := by
    intro j
    rw [restartCount_prepared, restartCount_prepared]
    by_cases hj : j = i
    · subst hj
      simp [updateInstance, hcount]
    · simp [updateInstance, hj]
  apply Setup.ext
  case restartCount => exact funext hcounts
  all_goals
    simp only [setup, prepared, hboot]
    split_ifs <;> rfl

end Scored

/-- A failed rematch leaves the setup of the game as it was exactly where there was nothing to set
up. -/
theorem failed_restart_keeps_setup_iff
    (h : c.restartAfterResultIfNeeded console i frame = (c', .failed)) :
    c'.setup = c.setup ↔ c.NothingToSetUp i frame := by
  obtain ⟨scored, hscore, hrestart⟩ := restart_of_failed h
  obtain ⟨f, rfl, hf⟩ := scoreResult_frame hscore
  have hsetup := restart_failed hrestart
  rw [nextStage_updateInstance fun s => (hf s).1,
    setup_prepared_updateInstance (fun s => (hf s).1) fun s => (hf s).2] at hsetup
  obtain ⟨hstage, hsettings⟩ := stage_prepared c i frame
  rw [hsetup]
  constructor
  · intro heq
    have hnext : c.nextStage i = c.currentStage := congrArg Setup.currentStage heq
    have hcompose : composeSceneSettingsForStage (c.nextStage i) = c.currentStageSceneSettings :=
      congrArg Setup.currentStageSceneSettings heq
    refine ⟨hnext, hnext ▸ hcompose, setup_prepared_eq_iff.mp ?_⟩
    rw [← heq, hcompose, hnext, ← hstage, ← hsettings]
    rfl
  · rintro ⟨hnext, hcompose, hboot⟩
    have hprepared := setup_prepared_eq_iff.mpr hboot
    rw [hprepared, hnext, hcompose]
    rfl

/-! ## Two matches whose next game cannot be started -/

/-- A console that is only its memory, byte by byte. It loads what begins with the magic word of a
savestate. -/
def memoryConsole : Console (Nat → Nat) where
  arm9Read8 := fun address memory => memory address
  arm9Read16 := fun address memory => memory address + 2 ^ 8 * memory (address + 1)
  arm9Read32 := fun address memory =>
    memory address + 2 ^ 8 * memory (address + 1) + 2 ^ 16 * memory (address + 2) +
      2 ^ 24 * memory (address + 3)
  arm9Write8 := fun address value memory => Function.update memory address (value % 2 ^ 8)
  arm9Write16 := fun address value memory =>
    Function.update (Function.update memory address (value % 2 ^ 8)) (address + 1)
      (value / 2 ^ 8 % 2 ^ 8)
  arm9Write32 := fun address value memory =>
    (List.range 4).foldl (fun memory byte =>
      Function.update memory (address + byte) (value / 2 ^ (8 * byte) % 2 ^ 8)) memory
  doSavestate := fun buffer memory =>
    if buffer.take 4 = [0x4D, 0x45, 0x4C, 0x4E] then (fun _ => 0, true) else (memory, false)
  hasNDSCart := fun _ => true
  reset := fun _ _ => 0
  directBoot := id

/-- The results scene after the second game, with one win each. Both checkpoints are unreadable: at
frame 5120 the console was reset for the second game, and the gameplay checkpoint is from the first
one. -/
def decidedGame (stages : List Int) (boot : List UInt8) : Context (Nat → Nat) where
  mvl := { stageSequence := stages, autoRestartAfterResult := true }
  connection := { startFrame := 840, localStartupRawFrame := 5960 }
  runtime :=
    { instances := fun _ =>
        { restartCount := 1
          inResult := true
          resultScored := true
          resultFrame := 10000
          lastRestartFrame := 5120
          wins := fun _ => 1
          bootstrapCheckpoint := { buffer := boot, frame := 120 }
          gameplayCheckpoint := { buffer := [0], frame := 900, stage := stages.getD 0 0 } }
      startupFrameBase := 5120 }
  currentStage := stages.getD 1 0
  currentStageSceneSettings := composeSceneSettingsForStage (stages.getD 1 0)
  nds := fun address => if address = kSceneCurrentSceneIDAddr then kResultsScene else 0

/-- With the same stage again and no boot checkpoint, the failed attempt leaves no trace. -/
theorem sameStage_keeps_setup :
    ((decidedGame [0, 0, 0] []).restartAfterResultIfNeeded memoryConsole 0 10120).2 = .failed ∧
    ((decidedGame [0, 0, 0] []).restartAfterResultIfNeeded memoryConsole 0 10120).1.setup
      = (decidedGame [0, 0, 0] []).setup := by
  have hfailed : ((decidedGame [0, 0, 0] []).restartAfterResultIfNeeded memoryConsole 0 10120).2 =
      .failed := by decide
  refine ⟨hfailed, (failed_restart_keeps_setup_iff (Prod.ext rfl hfailed)).mpr ⟨?_, ?_, Or.inl rfl⟩⟩
  · decide
  · decide

/-- With another stage, the stage of the next game and the rebased startup frame stay behind. -/
theorem otherStage_changes_setup :
    ((decidedGame [0, 1, 0] [0]).restartAfterResultIfNeeded memoryConsole 0 10120).2 = .failed ∧
    (decidedGame [0, 1, 0] [0]).currentStage = 1 ∧
    ((decidedGame [0, 1, 0] [0]).restartAfterResultIfNeeded memoryConsole 0
      10120).1.setup.currentStage
      = 0 ∧
    (decidedGame [0, 1, 0] [0]).connection.localStartupRawFrame = 5960 ∧
    ((decidedGame [0, 1, 0] [0]).restartAfterResultIfNeeded memoryConsole 0
      10120).1.setup.connection.localStartupRawFrame = 10840 ∧
    ((decidedGame [0, 1, 0] [0]).restartAfterResultIfNeeded memoryConsole 0 10120).1.setup
      ≠ (decidedGame [0, 1, 0] [0]).setup := by
  have hstage : ((decidedGame [0, 1, 0] [0]).restartAfterResultIfNeeded memoryConsole 0
      10120).1.setup.currentStage = 0 := by decide
  refine ⟨by decide, rfl, hstage, rfl, by decide, ?_⟩
  intro heq
  rw [heq] at hstage
  exact absurd hstage (by decide)

end Context

end Bigstar.Netplay.MvlLifecycle
