import Bigstar.Rom.Proofs.BuildProofs
import Bigstar.Rom.StubListings

/-!
# The stubs are their listings

Each builder appends the items of its listing one after the other.
-/

namespace Bigstar.Rom

open Arm Build

variable {start : Nat}

theorem emits_mov {rd imm : Nat} (hrd : rd < 15) (himm : imm < 0x100000000) :
    Emits start (push (encodeMovImm rd imm)) [.op 14 (.mov rd imm)] :=
  Emits.push rfl fun _ _ hword => decode_encodeMovImm hrd himm hword

theorem emits_loadImm {rd imm : Nat} (hrd : rd < 15) (himm : imm < 0x100000000) :
    Emits start (push (encodeLoadImm rd imm)) [.imm rd imm] :=
  Emits.push rfl fun _ _ hword => decode_encodeLoadImm hrd himm hword

theorem emits_str {rd rn off : Nat} (hrd : rd < 15) (hrn : rn < 15) :
    Emits start (push (encodeStrImm rd rn off)) [.op 14 (.str 4 rd rn off)] :=
  Emits.push rfl fun _ _ hword => decode_encodeStrImm hrd hrn hword

theorem emits_pushCond {word : Except EncodeError Nat} {cond : Nat} {instr : Op} (hcond : cond < 16)
    (h : ∀ w, word = .ok w → decode w = some (14, instr)) :
    Emits start (pushCond word cond) [.op cond instr] := by
  refine Emits.push rfl fun _ w hword => ?_
  cases hcase : word with
  | error e =>
    rw [hcase] at hword
    cases hword
  | ok w' =>
    rw [hcase] at hword
    cases hword
    exact decode_withCond hcond (h w' hcase)

/-! ## The gates -/

theorem emits_selectMarker {markers : List (Nat × Nat)} (h : ∀ m ∈ markers, m.2 < 0x100000000) :
    Emits start (selectMarker markers) (markerListing markers) := by
  induction markers with
  | nil => exact Emits.pure
  | cons m markers ih =>
    have hmov : Emits start (pushCond (encodeMovImm 2 m.2) 0) [.op 0 (.mov 2 m.2)] :=
      emits_pushCond (by decide) fun w hword =>
        decode_encodeMovImm (by decide) (h m List.mem_cons_self) hword
    exact (Emits.emit (by decide)).bind ((Emits.op rfl).bind
      (hmov.bind (ih fun m' hm' => h m' (List.mem_cons_of_mem _ hm'))))

theorem builds_processStageGate :
    Builds start 0 [] (buildGameTickProcessStageGate start) processStageListing := by
  unfold buildGameTickProcessStageGate processStageListing
  refine Builds.op rfl ?_
  refine Builds.lit (by decide) ?_
  refine Builds.op rfl ?_
  refine Builds.emits (emits_selectMarker (by decide)) ?_
  refine Builds.op rfl ?_
  refine Builds.op rfl ?_
  refine Builds.call ?_
  refine Builds.lit (by decide) ?_
  refine Builds.op rfl ?_
  refine Builds.emits (emits_selectMarker (by decide)) ?_
  refine Builds.op rfl ?_
  refine Builds.op rfl ?_
  exact Builds.link rfl

theorem builds_cameraFallback :
    Builds start 0 [] (buildIsOutOfViewVerticalCameraFallbackStub start) cameraFallbackListing := by
  unfold buildIsOutOfViewVerticalCameraFallbackStub cameraFallbackListing
  refine Builds.op rfl ?_
  refine Builds.lit (by decide) ?_
  refine Builds.op rfl ?_
  refine Builds.op rfl ?_
  refine Builds.op rfl ?_
  refine Builds.lit (by decide) ?_
  refine Builds.op rfl ?_
  refine Builds.lit (by decide) ?_
  iterate 13 refine Builds.op rfl ?_
  exact Builds.link rfl

theorem builds_inputGate {inputUpdate : Nat} :
    Builds start 0 [] (buildGameTickInputGate start inputUpdate)
      (inputGateListing start inputUpdate) := by
  unfold buildGameTickInputGate inputGateListing
  dsimp only
  rw [if_neg (by decide), if_neg (by decide)]
  refine Builds.lit (by decide) ?_
  refine Builds.op rfl ?_
  refine Builds.op rfl ?_
  refine Builds.hole 3 rfl ?_
  refine Builds.lit (by decide) ?_
  refine Builds.op rfl ?_
  refine Builds.lit (by decide) ?_
  refine Builds.op rfl ?_
  refine Builds.op rfl ?_
  refine Builds.hole 9 rfl ?_
  refine Builds.op rfl ?_
  refine Builds.hole 11 rfl ?_
  refine Builds.lit (by decide) ?_
  refine Builds.op rfl ?_
  refine Builds.lit (by decide) ?_
  refine Builds.op rfl ?_
  refine Builds.op rfl ?_
  refine Builds.hole 17 rfl ?_
  refine Builds.lit (by decide) ?_
  refine Builds.op rfl ?_
  refine Builds.op rfl ?_
  refine Builds.next 21 rfl ?_
  refine Builds.lit (by decide) ?_
  refine Builds.op rfl ?_
  refine Builds.op rfl ?_
  refine Builds.hole 24 rfl ?_
  refine Builds.op rfl ?_
  refine Builds.hole 26 rfl ?_
  refine Builds.lit (by decide) ?_
  refine Builds.op rfl ?_
  refine Builds.op rfl ?_
  refine Builds.lit (by decide) ?_
  refine Builds.lit (by decide) ?_
  iterate 3 refine Builds.op rfl ?_
  refine Builds.next 35 rfl ?_
  refine Builds.lit (by decide) ?_
  refine Builds.op rfl ?_
  refine Builds.op rfl ?_
  refine Builds.hole 38 rfl ?_
  refine Builds.lit (by decide) ?_
  iterate 3 refine Builds.op rfl ?_
  refine Builds.hole 43 rfl ?_
  refine Builds.lit (by decide) ?_
  refine Builds.op rfl ?_
  refine Builds.op rfl ?_
  refine Builds.next 47 rfl ?_
  refine Builds.lit (by decide) ?_
  refine Builds.op rfl ?_
  refine Builds.op rfl ?_
  refine Builds.lit (by decide) ?_
  iterate 6 refine Builds.op rfl ?_
  refine Builds.lit (by decide) ?_
  iterate 9 refine Builds.op rfl ?_
  refine Builds.lit (by decide) ?_
  refine Builds.op rfl ?_
  refine Builds.lit (by decide) ?_
  iterate 3 refine Builds.op rfl ?_
  refine Builds.next 73 rfl ?_
  refine Builds.leave true 73 rfl ?_
  refine Builds.lit (by decide) ?_
  refine Builds.op rfl ?_
  refine Builds.op rfl ?_
  refine Builds.lit (by decide) ?_
  refine Builds.next 78 rfl ?_
  refine Builds.leave false 78 rfl ?_
  refine Builds.next 79 rfl ?_
  refine Builds.leave false 79 rfl ?_
  iterate 8 refine Builds.branch rfl (by decide) ?_
  exact Builds.link rfl

/-! ## The stub that loads the level -/

theorem emits_pushStackValues {values : List Nat} (h : ∀ v ∈ values, v < 0x100000000) (i : Nat)
    (current : Option Nat) :
    Emits start (pushStackValues i current values) (stackListing i current values) := by
  induction values generalizing i current with
  | nil => exact Emits.pure
  | cons value values ih =>
    have hrest : Emits start
        (push (encodeStrImm 12 13 (i * 4)) >>= fun _ => pushStackValues (i + 1) (some value) values)
        (.op 14 (.str 4 12 13 (i * 4)) :: stackListing (i + 1) (some value) values) :=
      (emits_str (by decide) (by decide)).bind
        (ih (fun v hv => h v (List.mem_cons_of_mem _ hv)) (i + 1) (some value))
    unfold pushStackValues stackListing
    by_cases hcurrent : current = some value
    · rw [if_neg (not_not.mpr hcurrent)]
      simp only [hcurrent, ne_eq, not_true, if_false]
      exact hrest
    · rw [if_pos hcurrent]
      simp only [hcurrent, ne_eq, not_false_iff, if_true]
      exact (emits_loadImm (by decide) (h value List.mem_cons_self)).bind hrest

theorem stackValues_lt (config : DirectMvlConfig) : ∀ v ∈ stackValues config, v < 0x100000000 := by
  intro v hv
  have hplayer := config.playerId.toNat_lt
  unfold stackValues at hv
  simp only [List.mem_cons, List.not_mem_nil, or_false] at hv
  omega

theorem builds_directLoadlevel {loadLevel loadMvlFilesAfter : Nat} {config : DirectMvlConfig} :
    Builds start 0 [] (buildDirectLoadlevelStub start loadLevel loadMvlFilesAfter config)
      (directLoadlevelListing loadLevel loadMvlFilesAfter config) := by
  have hstage := config.stage.toNat_lt
  have hlives := config.initialLives.toNat_lt
  have hlifeMode := config.lifeModeSelector.toNat_lt
  have hbigStar := config.bigStarSelector.toNat_lt
  have hplayer : config.playerId.toNat &&& 3 < 0x100000000 :=
    Nat.lt_of_le_of_lt Nat.and_le_right (by decide)
  unfold buildDirectLoadlevelStub directLoadlevelListing
  iterate 9 refine Builds.op rfl ?_
  refine Builds.lit (by decide) ?_
  refine Builds.op rfl ?_
  refine Builds.lit (by decide) ?_
  iterate 4 refine Builds.op rfl ?_
  refine Builds.step (emits_mov (by decide) (by omega)) ?_
  refine Builds.op rfl ?_
  refine Builds.emits (emits_pushStackValues (stackValues_lt config) 0 none) ?_
  refine Builds.call ?_
  refine Builds.call ?_
  refine Builds.op rfl ?_
  refine Builds.lit (by decide) ?_
  refine Builds.op rfl ?_
  -- the settings of the scene
  refine Builds.lit (by decide) ?_
  refine Builds.lit (by decide) ?_
  refine Builds.op rfl ?_
  refine Builds.op rfl ?_
  -- the course
  refine Builds.lit (by decide) ?_
  refine Builds.step (emits_mov (by decide) (by omega)) ?_
  refine Builds.op rfl ?_
  refine Builds.op rfl ?_
  -- the lives of both players
  refine Builds.lit (by decide) ?_
  refine Builds.step (emits_loadImm (by decide) hlives) ?_
  iterate 3 refine Builds.op rfl ?_
  -- the life mode and the big stars
  refine Builds.lit (by decide) ?_
  refine Builds.step (emits_mov (by decide) hlifeMode) ?_
  refine Builds.op rfl ?_
  refine Builds.op rfl ?_
  refine Builds.lit (by decide) ?_
  refine Builds.step (emits_mov (by decide) hbigStar) ?_
  refine Builds.op rfl ?_
  refine Builds.op rfl ?_
  -- what is cleared
  refine Builds.lit (by decide) ?_
  iterate 4 refine Builds.op rfl ?_
  refine Builds.lit (by decide) ?_
  iterate 3 refine Builds.op rfl ?_
  refine Builds.lit (by decide) ?_
  iterate 3 refine Builds.op rfl ?_
  refine Builds.lit (by decide) ?_
  iterate 3 refine Builds.op rfl ?_
  refine Builds.lit (by decide) ?_
  refine Builds.step (emits_mov (by decide) hplayer) ?_
  iterate 4 refine Builds.op rfl ?_
  exact Builds.link rfl

/-! ## The sound of the eighth coin -/

theorem assemble_eq_ok {words : List (Except EncodeError Nat)} {ws : List Nat}
    (h : assemble words = .ok ws) :
    words = ws.map .ok := by
  unfold assemble at h
  induction words generalizing ws with
  | nil =>
    cases h
    rfl
  | cons word words ih =>
    rw [List.mapM_cons] at h
    cases hword : word with
    | error e =>
      rw [hword] at h
      cases h
    | ok w =>
      rw [hword] at h
      cases hrest : words.mapM id with
      | error e =>
        rw [hrest] at h
        cases h
      | ok rest =>
        rw [hrest] at h
        cases h
        rw [ih hrest, List.map_cons]

/-- A word of a stub that is written out. -/
theorem getElem?_assemble {words : List (Except EncodeError Nat)} {ws : List Nat}
    (h : assemble words = .ok ws)
    {i : Nat} {word : Except EncodeError Nat} (hi : words[i]? = some word) :
    ∃ w, ws[i]? = some w ∧ word = .ok w := by
  rw [assemble_eq_ok h, List.getElem?_map] at hi
  obtain ⟨w, hw, rfl⟩ := Option.map_eq_some_iff.mp hi
  exact ⟨w, hw, rfl⟩

theorem assembled_eightCoin {getPlayer playSfx : Nat} {words : List Nat}
    (h : buildEightCoinRewardPositionalSfxStub start getPlayer playSfx = .ok words)
    (hend : start + words.length * 4 ≤ 0x100000000) :
    Assembled start (eightCoinListing getPlayer playSfx) words := by
  have hlength : words.length = 8 := by
    have hmap := congrArg List.length (assemble_eq_ok h)
    rw [List.length_map] at hmap
    exact hmap.symm
  obtain ⟨literal, hliteral, hok⟩ := getElem?_assemble h (i := 7) rfl
  cases hok
  obtain ⟨load, hload, hok⟩ := getElem?_assemble h (i := 4) rfl
  obtain ⟨off, hdecode, -, -, hoff⟩ := decode_encodeLdrPcLiteral (by decide) hok
  refine ⟨?_, ?_, ?_⟩
  · intro i item hi
    match i with
    | 0 =>
      cases hi
      obtain ⟨w, hw, hok⟩ := getElem?_assemble h (i := 0) rfl
      cases hok
      exact ⟨_, hw, rfl⟩
    | 1 =>
      cases hi
      obtain ⟨w, hw, hok⟩ := getElem?_assemble h (i := 1) rfl
      cases hok
      exact ⟨_, hw, rfl⟩
    | 2 =>
      cases hi
      obtain ⟨w, hw, hok⟩ := getElem?_assemble h (i := 2) rfl
      exact ⟨w, hw, decode_encodeBranch true hok⟩
    | 3 =>
      cases hi
      obtain ⟨w, hw, hok⟩ := getElem?_assemble h (i := 3) rfl
      cases hok
      exact ⟨_, hw, rfl⟩
    | 4 =>
      cases hi
      exact ⟨load, hload, trivial⟩
    | 5 =>
      cases hi
      obtain ⟨w, hw, hok⟩ := getElem?_assemble h (i := 5) rfl
      exact ⟨w, hw, decode_encodeBranch true hok⟩
    | 6 =>
      cases hi
      obtain ⟨w, hw, hok⟩ := getElem?_assemble h (i := 6) rfl
      cases hok
      exact ⟨_, hw, rfl⟩
    | n + 7 => cases hi
  · intro i rd value hi
    match i with
    | 0 | 1 | 2 | 3 | 5 | 6 => cases hi
    | 4 =>
      cases hi
      refine ⟨load, off, hload, hdecode, ?_, hliteral⟩
      show (start + 16 + 8 + off) % 0x100000000 = start + 7 * 4
      rw [hoff, Nat.mod_eq_of_lt (by omega)]
    | n + 7 => cases hi
  · have hlt : 7 < words.length := by omega
    obtain ⟨hlt, hvalue⟩ := List.getElem?_eq_some_iff.mp hliteral
    show words.drop 7 = _
    rw [List.drop_eq_getElem_cons hlt, hvalue, List.drop_eq_nil_of_le (by omega)]
    rfl

/-! ## All stubs -/

theorem assembled_of_build (stub : Stub) {words : List Nat} (h : stub.build start = .ok words)
    (hend : start + words.length * 4 ≤ 0x100000000) :
    Assembled start (stub.listing start) words := by
  cases stub with
  | directLoadlevel loadLevel loadMvlFilesAfter config =>
    exact assembled_of_builds builds_directLoadlevel h hend
  | processStageGate => exact assembled_of_builds builds_processStageGate h hend
  | inputGate inputUpdate => exact assembled_of_builds builds_inputGate h hend
  | cameraFallback => exact assembled_of_builds builds_cameraFallback h hend
  | eightCoin getPlayer playSfx => exact assembled_eightCoin h hend

/-- The last instruction of a stub does not go on. -/
theorem exists_leaves (stub : Stub) (start : Nat) :
    ∃ item, (stub.listing start).getLast? = some item ∧ item.leaves = true := by
  cases stub with
  | directLoadlevel loadLevel loadMvlFilesAfter config =>
    refine ⟨.op 14 (.pop 0x8010), ?_, rfl⟩
    show (directLoadlevelListing loadLevel loadMvlFilesAfter config).getLast? = _
    unfold directLoadlevelListing
    simp only [List.getLast?_cons_cons]
    rw [List.getLast?_cons, List.getLast?_append]
    rfl
  | processStageGate => exact ⟨.op 14 (.pop 0x900F), rfl, rfl⟩
  | inputGate inputUpdate => exact ⟨.branch 14 false start, rfl, rfl⟩
  | cameraFallback => exact ⟨.op 14 (.pop 0x8010), rfl, rfl⟩
  | eightCoin getPlayer playSfx => exact ⟨.op 14 (.pop 0x8010), rfl, rfl⟩

/-- A stub that is built is its listing: its loads decode to the literals that were emitted for
them, its branches and calls to their targets, and the code does not run into the literals. The
encoders that it is built with are exact. -/
theorem stub_assembled (stub : Stub) {start : Nat} {words : List Nat}
    (h : stub.build start = .ok words) (hend : start + words.length * 4 ≤ 0x100000000) :
    Assembled start (stub.listing start) words ∧
      (∃ item, (stub.listing start).getLast? = some item ∧ item.leaves = true) ∧ Encoders :=
  ⟨assembled_of_build stub h hend, exists_leaves stub start, encoders⟩

/-- The gate of the process lists, where `patch_game_tick_probe` puts it. -/
theorem process_stage_assembled :
    Assembled PROCESS_STAGE_GATE_ADDR processStageListing
        [0xe92d500f, 0xe59f1064, 0xe59d2014, 0xe59f3060, 0xe1520003, 0x03a02007,
          0xe59f3058, 0xe1520003, 0x03a02009, 0xe59f3050, 0xe1520003, 0x03a0200b, 0xe5812000,
          0xe59d0000, 0xeb012dcb, 0xe59f103c, 0xe59d2014, 0xe59f3038, 0xe1520003, 0x03a02008,
          0xe59f3030, 0xe1520003, 0x03a0200a, 0xe59f3028, 0xe1520003, 0x03a0200c, 0xe5812000,
          0xe8bd900f, 0x04fffa28, 0x0204d5b4, 0x0204d5c8, 0x0204d5dc, 0x04fffa28, 0x0204d5b4,
          0x0204d5c8, 0x0204d5dc] ∧
      (∃ item, processStageListing.getLast? = some item ∧ item.leaves = true) ∧ Encoders :=
  stub_assembled .processStageGate rfl (by decide)

end Bigstar.Rom
