import Bigstar.Launcher.Processes
import Bigstar.Launcher.Proofs.SeedTextProofs
import Bigstar.Netplay.MvlRuntime
import Mathlib.Data.List.GetD

/-!
# The settings of the launcher reach the emulator

What the emulator loads from the environment that `melon_env` has built is what the settings say,
for every setting but the seeds. These arrive where both sides read their texts alike.
-/

namespace Bigstar.Launcher

open CText Netplay Netplay.Config

/-! ## Settings that are accepted -/

/-- What `validate_settings` has checked. -/
structure GameSettings.Valid (settings : GameSettings) : Prop where
  wins : 1 ≤ settings.wins ∧ settings.wins ≤ 3
  courseCount : settings.courseStages.length = maxGamesForWins settings.wins
  courseRange : ∀ stage ∈ settings.courseStages, stage ≤ 4
  bigStars : settings.bigStars = 3 ∨ settings.bigStars = 5 ∨ settings.bigStars = 10
  inputDelayFrames : settings.inputDelayFrames ≤ 16
  inputMaxFrameLead : settings.inputMaxFrameLead ≤ 16
  seedCount : settings.rngSeeds.length = maxGamesForWins settings.wins
  seeds : ∀ seed ∈ settings.rngSeeds, ∃ n, parseMatchSeed (Trim seed) = some n
  matchSeed : ∃ n, parseMatchSeed (Trim settings.matchSeed) = some n
  seedOrder : ∀ seed ∈ settings.rngSeeds.head?, Trim seed = Trim settings.matchSeed

theorem checkSeed_eq_ok {seed : Text} (h : checkSeed seed = .ok ()) :
    ∃ n, parseMatchSeed seed = some n := by
  unfold checkSeed at h
  split_ifs at h with hempty hnone
  exact Option.isSome_iff_exists.mp (by simpa [Option.isSome_iff_ne_none] using hnone)

theorem forM_checkSeed_eq_ok {seeds : List Text}
    (h : seeds.forM (fun seed => checkSeed (Trim seed)) = .ok ()) :
    ∀ seed ∈ seeds, ∃ n, parseMatchSeed (Trim seed) = some n := by
  induction seeds with
  | nil => simp
  | cons seed seeds ih =>
    change (checkSeed (Trim seed) >>= fun _ => seeds.forM fun seed => checkSeed (Trim seed)) =
      .ok () at h
    cases hseed : checkSeed (Trim seed) with
    | error error =>
      rw [hseed] at h
      cases h
    | ok _ =>
      rw [hseed] at h
      exact List.forall_mem_cons.mpr ⟨checkSeed_eq_ok hseed, ih h⟩

/-- A check that has been passed. -/
theorem of_check_eq_ok {p : Prop} [Decidable p] {error : SettingsError}
    {rest : Except SettingsError Unit}
    (h : (if p then .error error else rest) = .ok ()) : ¬p ∧ rest = .ok () := by
  by_cases hp : p
  · rw [if_pos hp] at h
    cases h
  · rw [if_neg hp] at h
    exact ⟨hp, h⟩

theorem valid_of_validateSettings {settings : GameSettings}
    (h : validateSettings settings = .ok ()) :
    settings.Valid := by
  unfold validateSettings at h
  simp only [bind, Except.bind, pure, Except.pure, throw, throwThe, MonadExceptOf.throw] at h
  obtain ⟨hwins, h⟩ := of_check_eq_ok h
  obtain ⟨hcourseCount, h⟩ := of_check_eq_ok h
  obtain ⟨hcourseRange, h⟩ := of_check_eq_ok h
  obtain ⟨-, h⟩ := of_check_eq_ok h
  obtain ⟨hbigStars, h⟩ := of_check_eq_ok h
  obtain ⟨hdelay, h⟩ := of_check_eq_ok h
  obtain ⟨hlead, h⟩ := of_check_eq_ok h
  obtain ⟨hseedCount, h⟩ := of_check_eq_ok h
  cases hseeds : settings.rngSeeds.forM fun seed => checkSeed (Trim seed) with
  | error error =>
    rw [hseeds] at h
    cases h
  | ok _ =>
    rw [hseeds] at h
    cases hmatchSeed : checkSeed (Trim settings.matchSeed) with
    | error error =>
      rw [hmatchSeed] at h
      cases h
    | ok _ =>
      rw [hmatchSeed] at h
      obtain ⟨horder, -⟩ := of_check_eq_ok h
      refine ⟨?_, not_not.mp hcourseCount, ?_, ?_, ?_, ?_, not_not.mp hseedCount,
        forM_checkSeed_eq_ok hseeds,
        checkSeed_eq_ok hmatchSeed, ?_⟩
      · rw [not_or] at hwins
        exact ⟨UInt8.not_lt.mp hwins.1, UInt8.not_lt.mp hwins.2⟩
      · intro stage hstage
        rw [List.any_eq_true, not_exists] at hcourseRange
        exact UInt8.not_lt.mp fun hlt => hcourseRange stage ⟨hstage, decide_eq_true hlt⟩
      · tauto
      · exact UInt8.not_lt.mp hdelay
      · exact UInt8.not_lt.mp hlead
      · intro seed hseed
        rw [Option.mem_def.mp hseed] at horder
        simpa using horder

/-! ## Numbers -/

theorem parseInt_decimal (m : DataModel) {n : Nat} (h : n < 2 ^ 31) (fallback : Int) :
    parseInt m (some (decimal n)) fallback = n := by
  unfold parseInt
  dsimp only
  rw [if_neg (decimal_ne_nil n), strtol_decimal m h]
  exact i32_of_lt h

/-- A list of numbers is read back token by token. -/
theorem parseU32List_joinComma (m : DataModel) {tokens : List Text}
    (h : ∀ token ∈ tokens, token ≠ [] ∧ ∀ c ∈ token, isSpace c = false ∧ c ≠ ',') :
    parseU32List m (some (joinComma tokens)) = tokens.map fun token => u32 (strtoul m token).1 := by
  have hlines : getlines ',' (joinComma tokens) = tokens :=
    getlines_intercalate fun token htoken =>
      ⟨fun hcomma => ((h token htoken).2 ',' hcomma).2 rfl, (h token htoken).1⟩
  have hspaces : tokens.map (fun token => token.filter fun c => !isSpace c) = tokens := by
    conv_rhs => rw [← List.map_id tokens]
    apply List.map_congr_left
    intro token htoken
    rw [id, List.filter_eq_self]
    intro c hc
    rw [((h token htoken).2 c hc).1]
    rfl
  have hempty : tokens.filter (· ≠ []) = tokens := by
    rw [List.filter_eq_self]
    intro token htoken
    exact decide_eq_true (h token htoken).1
  unfold parseU32List
  dsimp only
  rw [hlines, hspaces, hempty]

theorem token_decimal (n : Nat) : decimal n ≠ [] ∧ ∀ c ∈ decimal n, isSpace c = false ∧ c ≠ ',' :=
  ⟨decimal_ne_nil n, fun _ hc =>
    ⟨isSpace_of_isDigit (isDigit_of_mem_decimal hc), ne_of_isDigit (isDigit_of_mem_decimal hc) rfl⟩⟩

/-- An accepted seed is one token of a list. -/
theorem token_of_parseMatchSeed {text : Text} {n : Nat} (h : parseMatchSeed text = some n) :
    text ≠ [] ∧ ∀ c ∈ text, isSpace c = false ∧ c ≠ ',' := by
  have hdigits : ∀ {radix : Nat}, radix ≤ 36 → ∀ {src : Text}, u32FromStrRadix src radix = some n →
      ∀ c ∈ src, isSpace c = false ∧ c ≠ ',' := by
    intro radix hradix src hsrc c hc
    obtain ⟨-, hdigit, -⟩ := u32FromStrRadix_eq_some hsrc
    have hmem : c = '+' ∨ c ∈ stripPlus src := by
      rcases eq_or_eq_stripPlus src with heq | heq
      · exact Or.inr (heq ▸ hc)
      · rw [heq, List.mem_cons] at hc
        exact hc
    rcases hmem with rfl | hmem
    · exact ⟨rfl, by decide⟩
    · have hvalue : digitValue c < 36 :=
        Nat.lt_of_lt_of_le (of_decide_eq_true (hdigit c hmem)) hradix
      have hne : ∀ c', digitValue c' = 36 → c ≠ c' := by
        rintro c' hc' rfl
        omega
      have hspace : c ≠ ' ' ∧ c ≠ '\t' ∧ c ≠ '\n' ∧ c ≠ '\x0b' ∧ c ≠ '\x0c' ∧ c ≠ '\r' :=
        ⟨hne _ rfl, hne _ rfl, hne _ rfl, hne _ rfl, hne _ rfl, hne _ rfl⟩
      exact ⟨by simp [isSpace, hspace], hne ',' rfl⟩
  unfold parseMatchSeed at h
  split_ifs at h with hempty
  refine ⟨hempty, ?_⟩
  cases hhex : stripHexPrefix text with
  | none =>
    rw [hhex] at h
    exact hdigits (by decide) h
  | some hex =>
    rw [hhex] at h
    obtain ⟨x, hx, rfl⟩ := stripHexPrefix_eq_some hhex
    intro c hc
    rw [List.mem_cons, List.mem_cons] at hc
    rcases hc with rfl | rfl | hc
    · exact ⟨rfl, by decide⟩
    · rcases hx with rfl | rfl
      · exact ⟨rfl, by decide⟩
      · exact ⟨rfl, by decide⟩
    · exact hdigits (by decide) h c hc

/-! ## The configuration that is loaded -/

section Loaded

variable {request : LaunchRequest} (m : DataModel)

theorem readClamped_decimal {environment : Environment} {name : Variable} {n : Nat}
    (hvalue : environment name = some (decimal n)) (hn : n < 2 ^ 31)
    {low high : Int} (hlow : low ≤ n) (hhigh : (n : Int) ≤ high) (fallback : Int) :
    readClamped m environment name fallback low high = n := by
  rw [readClamped, readInt, hvalue, parseInt_decimal m hn]
  omega

theorem readNatural_decimal {environment : Environment} {name : Variable} {n : Nat}
    (hvalue : environment name = some (decimal n)) (hn : n < 2 ^ 31) (fallback : Int) :
    readNatural m environment name fallback = n := by
  rw [readNatural, readInt, hvalue, parseInt_decimal m hn, Int.toNat_natCast]

theorem readU32List_stages :
    readU32List m (melonEnv request) .mvlStageSequence =
      request.settings.courseStages.map UInt8.toNat := by
  have htokens : ∀ token ∈ request.settings.courseStages.map (fun stage => decimal stage.toNat),
      token ≠ [] ∧ ∀ c ∈ token, isSpace c = false ∧ c ≠ ',' := by
    intro token htoken
    obtain ⟨stage, -, rfl⟩ := List.mem_map.mp htoken
    exact token_decimal _
  have hlist := parseU32List_joinComma m htokens
  rw [List.map_map] at hlist
  refine hlist.trans (List.map_congr_left fun stage _ => ?_)
  have hstage := stage.toNat_lt
  rw [Function.comp_apply, strtoul_decimal m (by omega)]
  exact Nat.mod_eq_of_lt (by omega)

/-- Reading the seeds leaves the other settings of the match as they are. -/
theorem loadSeeds_frame (environment : Environment) (config : MvlConfig) :
    (loadSeeds m environment config).stageSequence = config.stageSequence ∧
    (loadSeeds m environment config).courseMode = config.courseMode ∧
    (loadSeeds m environment config).targetWins = config.targetWins ∧
    (loadSeeds m environment config).bigStarTarget = config.bigStarTarget ∧
    (loadSeeds m environment config).initialLives = config.initialLives ∧
    (loadSeeds m environment config).lifeModeSelector = config.lifeModeSelector := by
  unfold loadSeeds
  dsimp only
  split_ifs
  · split
    · exact ⟨rfl, rfl, rfl, rfl, rfl, rfl⟩
    · exact ⟨rfl, rfl, rfl, rfl, rfl, rfl⟩
  · split
    · exact ⟨rfl, rfl, rfl, rfl, rfl, rfl⟩
    · exact ⟨rfl, rfl, rfl, rfl, rfl, rfl⟩

theorem stageSequence_loadMvlConfig (h : request.settings.Valid) :
    (loadMvlConfig m (melonEnv request)).stageSequence
      = request.settings.courseStages.map fun stage => (stage.toNat : Int) := by
  refine (loadSeeds_frame m _ _).1.trans ?_
  dsimp only
  rw [readU32List_stages, List.map_map]
  apply List.map_congr_left
  intro stage hstage
  have hle : stage.toNat ≤ 4 := h.courseRange stage hstage
  rw [Function.comp_apply, i32_of_lt (by omega)]
  omega

theorem targetWins_loadMvlConfig (h : request.settings.Valid) :
    (loadMvlConfig m (melonEnv request)).targetWins = request.settings.wins.toNat := by
  have hlow : 1 ≤ request.settings.wins.toNat := h.wins.1
  have hhigh : request.settings.wins.toNat ≤ 3 := h.wins.2
  refine (loadSeeds_frame m _ _).2.2.1.trans ?_
  exact readClamped_decimal m rfl (by omega) (by omega) (by omega) 2

theorem bigStarTarget_loadMvlConfig (h : request.settings.Valid) :
    (loadMvlConfig m (melonEnv request)).bigStarTarget = request.settings.bigStars.toNat := by
  have hrange : 3 ≤ request.settings.bigStars.toNat ∧ request.settings.bigStars.toNat ≤ 10 := by
    rcases h.bigStars with hstars | hstars | hstars
    all_goals
      rw [hstars]
      decide
  refine (loadSeeds_frame m _ _).2.2.2.1.trans ?_
  exact readClamped_decimal m rfl (by omega) (by omega) (by omega) 5

/-- The lives that a player starts with, and how lives are counted: 2 stands for endless. -/
def Lives.config : Lives → Nat × Nat
  | .three => (3, 0)
  | .five => (5, 0)
  | .endless => (3, 2)

theorem readCString_lives (fallback : Text) :
    readCString (melonEnv request) .mvlLives fallback = livesValue request.settings.lives := by
  change valueOr (some (livesValue request.settings.lives)) fallback = _
  cases request.settings.lives with
  | three => rfl
  | five => rfl
  | endless => rfl

theorem lives_loadMvlConfig :
    ((loadMvlConfig m (melonEnv request)).initialLives,
      (loadMvlConfig m (melonEnv request)).lifeModeSelector)
      = request.settings.lives.config := by
  have hlives : (loadMvlConfig m (melonEnv request)).initialLives
      = if livesValue request.settings.lives = "5".toList then 5 else 3 := by
    rw [← readCString_lives "endless".toList]
    exact (loadSeeds_frame m _ _).2.2.2.2.1
  have hmode : (loadMvlConfig m (melonEnv request)).lifeModeSelector
      = if livesValue request.settings.lives = "endless".toList ∨
      livesValue request.settings.lives = "Endless".toList
        then 2 else 0 := by
    rw [← readCString_lives "endless".toList]
    exact (loadSeeds_frame m _ _).2.2.2.2.2
  rw [hlives, hmode]
  cases request.settings.lives with
  | three => rfl
  | five => rfl
  | endless => rfl

/-! ## The seeds -/

/-- The seeds as the emulator reads them. -/
def readSeeds (m : DataModel) (request : LaunchRequest) : List Nat :=
  request.settings.rngSeeds.map fun seed => u32 (strtoul m (Trim seed)).1

theorem readU32List_seeds (h : request.settings.Valid) :
    readU32List m (melonEnv request) .matchSeedSequence = readSeeds m request := by
  have hne : request.settings.rngSeeds ≠ [] := by
    have hcount := h.seedCount
    have hwins : 1 ≤ request.settings.wins.toNat := h.wins.1
    intro hnil
    rw [hnil, List.length_nil, maxGamesForWins] at hcount
    omega
  have hvariable : melonEnv request .matchSeedSequence =
      some (joinComma (request.settings.rngSeeds.map Trim)) :=
    if_neg hne
  have htokens : ∀ token ∈ request.settings.rngSeeds.map Trim,
      token ≠ [] ∧ ∀ c ∈ token, isSpace c = false ∧ c ≠ ',' := by
    intro token htoken
    obtain ⟨seed, hseed, rfl⟩ := List.mem_map.mp htoken
    obtain ⟨n, hn⟩ := h.seeds seed hseed
    exact token_of_parseMatchSeed hn
  rw [readU32List, hvariable, parseU32List_joinComma m htokens, List.map_map]
  rfl

/-- The sequence of seeds decides about the seed of the match. -/
theorem seeds_loadMvlConfig (h : request.settings.Valid) :
    ∃ seed seeds, readSeeds m request = seed :: seeds ∧
    (loadMvlConfig m (melonEnv request)).matchSeedSequence = seed :: seeds ∧
    (loadMvlConfig m (melonEnv request)).matchSeed = seed ∧
    (loadMvlConfig m (melonEnv request)).matchSeedConfigured = true := by
  have hread := readU32List_seeds m h
  cases hseeds : readSeeds m request with
  | nil =>
    have hcount := h.seedCount
    have hwins : 1 ≤ request.settings.wins.toNat := h.wins.1
    have hlength := congrArg List.length hseeds
    rw [readSeeds, List.length_map, List.length_nil, hcount, maxGamesForWins] at hlength
    omega
  | cons seed seeds =>
    rw [hseeds] at hread
    refine ⟨seed, seeds, rfl, ?_, ?_, ?_⟩
    all_goals
      unfold loadMvlConfig loadSeeds
      dsimp only
      rw [hread]

/-- One seed arrives exactly where it is read alike. -/
theorem readSeed_eq_iff {seed : Text} {n : Nat} (h : parseMatchSeed (Trim seed) = some n) :
    some (u32 (strtoul m (Trim seed)).1) = parseMatchSeed (Trim seed) ↔
      readAlike (Trim seed) = true := by
  obtain ⟨hlt, hiff⟩ := strtoul_eq_iff_of_parseMatchSeed m h
  rw [h, Option.some.injEq, u32, Nat.mod_eq_of_lt hlt]
  exact hiff

theorem readSeeds_eq_iff (h : request.settings.Valid) :
    (readSeeds m request).map some = request.settings.rngSeeds.map
      (fun seed => parseMatchSeed (Trim seed)) ↔
      ∀ seed ∈ request.settings.rngSeeds, readAlike (Trim seed) = true := by
  rw [readSeeds, List.map_map, List.map_inj_left]
  refine forall₂_congr fun seed hseed => ?_
  obtain ⟨n, hn⟩ := h.seeds seed hseed
  exact readSeed_eq_iff m hn

end Loaded

/-! ## The games of a match -/

section Games

variable {request : LaunchRequest} (m : DataModel) (runtime : MvlRuntime.Runtime) (i : Fin 16)

theorem stageForGame_loadMvlConfig (h : request.settings.Valid) (currentStage : Int)
    (hgame : runtime.gameIndex i < maxGamesForWins request.settings.wins) :
    some (runtime.stageForGame i (loadMvlConfig m (melonEnv request)) currentStage)
      = request.settings.courseStages[runtime.gameIndex i]?.map fun stage =>
        (stage.toNat : Int) := by
  have hcount := h.courseCount
  have hstages := stageSequence_loadMvlConfig m h
  have hne : (loadMvlConfig m (melonEnv request)).stageSequence ≠ [] := by
    rw [hstages, Ne, List.map_eq_nil_iff]
    intro hnil
    rw [hnil, List.length_nil] at hcount
    omega
  have hmin : min (runtime.gameIndex i) (request.settings.courseStages.length - 1) =
      runtime.gameIndex i := by
    omega
  rw [MvlRuntime.Runtime.stageForGame, if_pos hne, hstages, List.length_map, hmin,
    List.getElem?_eq_getElem (by omega), List.getD_eq_getElem _ _
      (by rw [List.length_map]; omega), List.getElem_map]
  rfl

theorem matchSeedForGame_loadMvlConfig (h : request.settings.Valid)
    (hgame : runtime.gameIndex i < maxGamesForWins request.settings.wins) :
    some (runtime.matchSeedForGame i (loadMvlConfig m (melonEnv request)))
      = (readSeeds m request)[runtime.gameIndex i]? := by
  obtain ⟨seed, seeds, hread, hsequence, -, -⟩ := seeds_loadMvlConfig m h
  have hlength : (readSeeds m request).length = maxGamesForWins request.settings.wins := by
    rw [readSeeds, List.length_map, h.seedCount]
  have hne : (loadMvlConfig m (melonEnv request)).matchSeedSequence ≠ [] := by
    rw [hsequence]
    exact List.cons_ne_nil _ _
  have hmin : min (runtime.gameIndex i) ((readSeeds m request).length - 1) =
      runtime.gameIndex i := by
    omega
  rw [MvlRuntime.Runtime.matchSeedForGame, if_pos hne, hsequence, ← hread, hmin,
    List.getElem?_eq_getElem (by omega), List.getD_eq_getElem _ _ (by omega)]

end Games

/-! ## The main result -/

/-- The emulator is configured as the launcher was asked to. -/
structure Reaches (m : DataModel) (request : LaunchRequest) : Prop where
  stages : (loadMvlConfig m (melonEnv request)).stageSequence
    = request.settings.courseStages.map fun stage => (stage.toNat : Int)
  seeds : (loadMvlConfig m (melonEnv request)).matchSeedSequence.map some
    = request.settings.rngSeeds.map fun seed => parseMatchSeed (Trim seed)
  matchSeed : (loadMvlConfig m (melonEnv request)).matchSeedConfigured = true ∧
    some (loadMvlConfig m (melonEnv request)).matchSeed =
      parseMatchSeed (Trim request.settings.matchSeed)
  wins : (loadMvlConfig m (melonEnv request)).targetWins = request.settings.wins.toNat
  bigStars : (loadMvlConfig m (melonEnv request)).bigStarTarget = request.settings.bigStars.toNat
  lives : ((loadMvlConfig m (melonEnv request)).initialLives,
    (loadMvlConfig m (melonEnv request)).lifeModeSelector)
    = request.settings.lives.config
  delay : ∀ testEnabled, (loadConnectionConfig m (melonEnv request) testEnabled).delay
    = request.settings.inputDelayFrames.toNat
  role : ∀ testEnabled, (loadConnectionConfig m (melonEnv request) testEnabled).client
    = decide (request.role = .client)
  maxFrameLead : ∀ netplayOnly, (loadInputConfig m (melonEnv request) netplayOnly).maxFrameLead
    = if request.settings.rollbackEnabled then
      -1 else (request.settings.inputMaxFrameLead.toNat : Int)
  rollback : (loadRollbackConfig m (melonEnv request)).enabled = request.settings.rollbackEnabled
  games : ∀ (runtime : MvlRuntime.Runtime) (i : Fin 16) (currentStage : Int),
    runtime.gameIndex i < maxGamesForWins request.settings.wins →
      some (runtime.stageForGame i (loadMvlConfig m (melonEnv request)) currentStage)
        = request.settings.courseStages[runtime.gameIndex i]?.map
          (fun stage => (stage.toNat : Int)) ∧
      some (runtime.matchSeedForGame i (loadMvlConfig m (melonEnv request)))
        = request.settings.rngSeeds[runtime.gameIndex i]?.bind fun seed =>
          parseMatchSeed (Trim seed)

/-- Accepted settings reach the emulator unchanged exactly where every seed is read alike. -/
theorem settings_reach_emulator_iff (m : DataModel) (request : LaunchRequest)
    (h : validateSettings request.settings = .ok ()) :
    Reaches m request ↔ ∀ seed ∈ request.settings.rngSeeds, readAlike (Trim seed) = true := by
  have hvalid := valid_of_validateSettings h
  obtain ⟨seed, seeds, hread, hsequence, hmatchSeed, hconfigured⟩ := seeds_loadMvlConfig m hvalid
  constructor
  · intro hreaches
    have hseeds := hreaches.seeds
    rw [hsequence, ← hread] at hseeds
    exact (readSeeds_eq_iff m hvalid).mp hseeds
  · intro halike
    have hseeds := (readSeeds_eq_iff m hvalid).mpr halike
    have hdelay : request.settings.inputDelayFrames.toNat ≤ 16 := hvalid.inputDelayFrames
    have hlead : request.settings.inputMaxFrameLead.toNat ≤ 16 := hvalid.inputMaxFrameLead
    refine ⟨stageSequence_loadMvlConfig m hvalid, ?_, ⟨hconfigured, ?_⟩,
      targetWins_loadMvlConfig m hvalid,
      bigStarTarget_loadMvlConfig m hvalid, lives_loadMvlConfig m, ?_, ?_, ?_, ?_, ?_⟩
    · rw [hsequence, ← hread, hseeds]
    · cases hrng : request.settings.rngSeeds with
      | nil =>
        rw [readSeeds, hrng] at hread
        cases hread
      | cons first rest =>
        have horder := hvalid.seedOrder first (by rw [hrng]; rfl)
        rw [hread, hrng] at hseeds
        rw [hmatchSeed, ← horder]
        exact (List.cons.inj hseeds).1
    · intro testEnabled
      exact readNatural_decimal m rfl (by omega) 6
    · intro testEnabled
      unfold loadConnectionConfig melonEnv
      cases request.role with
      | host => rfl
      | client => rfl
    · intro netplayOnly
      change parseInt m (melonEnv request .inputMaxFrameLead) _ = _
      by_cases hrollback : request.settings.rollbackEnabled = true
      · have hvalue : melonEnv request .inputMaxFrameLead = some "-1".toList := if_pos hrollback
        rw [hvalue, if_pos hrollback]
        cases m <;> rfl
      · have hvalue : melonEnv request .inputMaxFrameLead
            = some (decimal request.settings.inputMaxFrameLead.toNat) := if_neg hrollback
        rw [hvalue, if_neg hrollback]
        exact parseInt_decimal m (by omega) _
    · change parseFlag (melonEnv request .rollback) = _
      unfold melonEnv
      dsimp only
      cases request.settings.rollbackEnabled with
      | false => rfl
      | true => rfl
    · intro runtime i currentStage hgame
      refine ⟨stageForGame_loadMvlConfig m runtime i hvalid currentStage hgame, ?_⟩
      have hgameSeed := congrArg (·[runtime.gameIndex i]?) hseeds
      simp only [List.getElem?_map] at hgameSeed
      have hstep := matchSeedForGame_loadMvlConfig m runtime i hvalid hgame
      rw [← hstep, Option.map_some] at hgameSeed
      cases hseed : request.settings.rngSeeds[runtime.gameIndex i]? with
      | none =>
        rw [hseed] at hgameSeed
        cases hgameSeed
      | some seed =>
        rw [hseed, Option.map_some, Option.some.injEq] at hgameSeed
        exact hgameSeed

/-- A match of one game, hosted with the given text as its seed. -/
def hostedWithSeed (seed : Text) : LaunchRequest :=
  ⟨.host, 7000, ⟨.select, [0], 1, 5, .three, seed, [seed], 4, 2, true⟩, false⟩

theorem settings_reach_emulator_hex : Reaches .llp64 (hostedWithSeed "0x2A".toList) :=
  (settings_reach_emulator_iff .llp64 (hostedWithSeed "0x2A".toList) (by decide +kernel)).mpr
    (by decide +kernel)

/-- `010` is ten to the launcher and eight to the emulator. -/
theorem octal_seed_changes : validateSettings (hostedWithSeed "010".toList).settings = .ok () ∧
    parseMatchSeed (Trim "010".toList) = some 10 ∧
    ∀ m, (loadMvlConfig m (melonEnv (hostedWithSeed "010".toList))).matchSeed = 8 ∧
      ¬Reaches m (hostedWithSeed "010".toList) := by
  have hseed : ∀ m, (loadMvlConfig m (melonEnv (hostedWithSeed "010".toList))).matchSeed = 8 := by
    intro m
    cases m with
    | lp64 => decide +kernel
    | llp64 => decide +kernel
  have hten : parseMatchSeed (Trim "010".toList) = some 10 := by decide +kernel
  refine ⟨by decide +kernel, hten, fun m => ⟨hseed m, ?_⟩⟩
  intro hreaches
  have hmatchSeed := hreaches.matchSeed.2
  rw [hseed m] at hmatchSeed
  have hcontra := hmatchSeed.trans hten
  exact absurd (Option.some.inj hcontra) (by decide)

end Bigstar.Launcher
