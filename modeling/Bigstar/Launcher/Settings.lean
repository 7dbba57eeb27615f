import Bigstar.Lib.CText

/-!
# The settings of a match

`settings.rs` of the launcher: the settings that a match can be started with. Numbers are read as
the standard library of Rust reads them, which accepts a plus sign but neither white space nor a
base of its own.
-/

namespace Bigstar.Launcher

open CText

/-- How the stages of a match are found. -/
inductive CourseMode where
  /-- They were drawn. -/
  | random
  /-- They were chosen. -/
  | select
  deriving DecidableEq, Repr

/-- The lives of a player. -/
inductive Lives where
  /-- Three lives. -/
  | three
  /-- Five lives. -/
  | five
  /-- Lives do not run out. -/
  | endless
  deriving DecidableEq, Repr

/-- The settings of a match. -/
structure GameSettings where
  /-- How the stages are chosen. -/
  courseMode : CourseMode
  /-- The stages of the games, in their order. -/
  courseStages : List UInt8
  /-- The games that decide the match. -/
  wins : UInt8
  /-- The big stars that decide a game. -/
  bigStars : UInt8
  /-- The lives at the start of a game. -/
  lives : Lives
  /-- A text, which is checked and passed on as it is. -/
  matchSeed : Text
  /-- The seeds of the single games, as texts. -/
  rngSeeds : List Text
  /-- The frames between an input and its effect. -/
  inputDelayFrames : UInt8
  /-- How far one side may be ahead. -/
  inputMaxFrameLead : UInt8
  /-- Whether inputs are predicted. -/
  rollbackEnabled : Bool

/-! ## Texts -/

/-- `char::is_whitespace`, the property `White_Space` of Unicode. -/
def isWhitespace (c : Char) : Bool :=
  let n := c.toNat
  (0x9 ≤ n && n ≤ 0xD) || n == 0x20 || n == 0x85 || n == 0xA0 || n == 0x1680 ||
    (0x2000 ≤ n && n ≤ 0x200A)
    || n == 0x2028 || n == 0x2029 || n == 0x202F || n == 0x205F || n == 0x3000

/-- `str::trim`. -/
def Trim (text : Text) : Text := trim isWhitespace text

/-- A text without its plus sign. -/
def stripPlus : Text → Text
  | '+' :: digits => digits
  | digits => digits

/-- `u32::from_str_radix`. -/
def u32FromStrRadix (src : Text) (radix : Nat) : Option Nat :=
  let digits := stripPlus src
  if digits ≠ [] ∧ digits.all (isDigitOf radix) = true ∧ digitsValue radix digits < 2 ^ 32 then
    some (digitsValue radix digits)
  else none

/-- The text behind `0x` or `0X`. -/
def stripHexPrefix : Text → Option Text
  | '0' :: 'x' :: hex => some hex
  | '0' :: 'X' :: hex => some hex
  | _ => none

/-- `parse_match_seed`: decimal, or hexadecimal after `0x`. -/
def parseMatchSeed (value : Text) : Option Nat :=
  if value = [] then none
  else match stripHexPrefix value with
    | some hex => u32FromStrRadix hex 16
    | none => u32FromStrRadix value 10

/-! ## Validation -/

/-- The checks, in the order in which they are made. -/
inductive SettingsError where
  /-- The wins are not 1 to 3. -/
  | wins
  /-- There are not as many stages as games can be played. -/
  | courseCount (target : UInt8) (maxGames : Nat)
  /-- A stage is none of the five. -/
  | courseRange
  /-- A stage was drawn twice. -/
  | duplicateCourse
  /-- The big stars are not 3, 5 or 10. -/
  | bigStars
  /-- The input delay is more than 16 frames. -/
  | inputDelayFrames
  /-- The frame lead is more than 16 frames. -/
  | inputMaxFrameLead
  /-- There are not as many seeds as games can be played. -/
  | seedCount (target : UInt8) (maxGames : Nat)
  /-- A seed is empty. -/
  | seedMissing
  /-- A seed is no number of 32 bits. -/
  | seedText
  /-- The first seed of the games is not the match seed. -/
  | seedOrder
  deriving DecidableEq, Repr

/-- The text that the user sees. -/
def SettingsError.message : SettingsError → String
  | wins => "勝利数は 1-3 にしてください"
  | courseCount target maxGames =>
    "コース列は勝利数" ++ toString target.toNat ++ "に対して" ++ toString maxGames ++ "試合分にしてください"
  | courseRange => "コースは 0-4 にしてください"
  | duplicateCourse => "ランダムコースでは同じコースを2度選べません"
  | bigStars => "ビッグスターは 3/5/10 のいずれかにしてください"
  | inputDelayFrames => "InputDelayFrames は 0-16 にしてください"
  | inputMaxFrameLead => "InputMaxFrameLead は 0-16 にしてください"
  | seedCount target maxGames =>
    "RNG seed は勝利数" ++ toString target.toNat ++ "に対して" ++ toString maxGames ++ "試合分にしてください"
  | seedMissing => "ランダムコースではマッチシードが必要です"
  | seedText => "マッチシードは10進数か0x始まりの16進数で指定してください"
  | seedOrder => "match_seed は RNG seed 列の先頭と一致させてください"

/-- `max_games_for_wins`, with the saturating product of bytes. -/
def maxGamesForWins (wins : UInt8) : Nat := min (wins.toNat * 2) 255 - 1

/-- `has_duplicate_stage`. -/
def hasDuplicateStage (stages : List UInt8) : Bool := !decide (stages.filter (· < 5)).Nodup

/-- The check of one seed. -/
def checkSeed (seed : Text) : Except SettingsError Unit :=
  if seed = [] then .error .seedMissing
  else if (parseMatchSeed seed).isNone then .error .seedText
  else .ok ()

/-- `validate_settings`. -/
def validateSettings (settings : GameSettings) : Except SettingsError Unit := do
  if settings.wins < 1 ∨ settings.wins > 3 then throw .wins
  let maxGames := maxGamesForWins settings.wins
  if settings.courseStages.length ≠ maxGames then throw (.courseCount settings.wins maxGames)
  if settings.courseStages.any (· > 4) then throw .courseRange
  if settings.courseMode = .random ∧ hasDuplicateStage settings.courseStages then
    throw .duplicateCourse
  if settings.bigStars ≠ 3 ∧ settings.bigStars ≠ 5 ∧ settings.bigStars ≠ 10 then throw .bigStars
  if settings.inputDelayFrames > 16 then throw .inputDelayFrames
  if settings.inputMaxFrameLead > 16 then throw .inputMaxFrameLead
  if settings.rngSeeds.length ≠ maxGames then throw (.seedCount settings.wins maxGames)
  settings.rngSeeds.forM fun seed => checkSeed (Trim seed)
  checkSeed (Trim settings.matchSeed)
  if settings.rngSeeds.head?.any fun seed =>
    Trim seed ≠ Trim settings.matchSeed then throw .seedOrder

/-- `selected_stage`: the first stage of the list, or the fallback. -/
def selectedStage (settings : GameSettings) (fallbackStage : Nat) : Option Nat :=
  match settings.courseStages.head? with
  | some stage => some (min stage.toNat 4)
  | none =>
    match settings.courseMode with
    | .random => (parseMatchSeed (Trim settings.matchSeed)).map (· % 5)
    | .select => some (min fallbackStage 4)

end Bigstar.Launcher
