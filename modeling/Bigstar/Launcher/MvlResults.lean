import Bigstar.Launcher.Settings

/-!
# The results of the games as the launcher reads them

`read_mvl_results` of `processes.rs`: the launcher reads the results of the games out of the
standard output of the emulator. Texts are read as the standard library of Rust reads them.
-/

namespace Bigstar.Launcher

open CText

/-- The counters of one player. -/
structure MvlPlayerResult where
  /-- The battle stars that decide the game. -/
  stars : Nat
  /-- The stars that the screen shows. -/
  displayedStars : Nat
  /-- All stars that were collected. -/
  collectedStars : Nat
  /-- The lives that are left, none for a dead player. -/
  lives : Nat
  /-- How often the player died. -/
  deaths : Nat
  /-- The player was out of the game. -/
  dead : Bool
  deriving DecidableEq

/-- One game of a match, as the launcher lists it. -/
structure MvlStageResult where
  /-- The number of the game, from 1 on. -/
  gameIndex : Nat
  /-- The stage of that number in the list of the match. -/
  stage : Option UInt8
  /-- The frame in which the line was printed. -/
  frame : Nat
  /-- 0 for Mario, 1 for Luigi, `none` for an unresolved game. -/
  winner : Option Nat
  /-- The counters of Mario. -/
  mario : MvlPlayerResult
  /-- The counters of Luigi. -/
  luigi : MvlPlayerResult
  /-- The games that Mario had won by then. -/
  marioMatchWins : Nat
  /-- The games that Luigi had won by then. -/
  luigiMatchWins : Nat
  /-- The games that decide the match. -/
  targetWins : Nat
  /-- The line has a winner. -/
  resolved : Bool
  /-- The line as it was printed. -/
  line : Text
  deriving DecidableEq

/-! ## Texts -/

/-- `str::split_inclusive('\n')`. -/
def splitInclusive : Text → List Text
  | [] => []
  | c :: text =>
    if c = '\n' then ['\n'] :: splitInclusive text
    else match splitInclusive text with
      | [] => [[c]]
      | line :: lines => (c :: line) :: lines

/-- A line without its end, which may have a carriage return before the newline. -/
def stripLineEnd (line : Text) : Text :=
  if line.getLast? = some '\n' then
    let line := line.dropLast
    if line.getLast? = some '\r' then line.dropLast else line
  else line

/-- `str::lines`. -/
def textLines (text : Text) : List Text := (splitInclusive text).map stripLineEnd

/-- `str::split_whitespace`. -/
def splitWhitespace (text : Text) : List Text := (text.splitOnP isWhitespace).filter (· ≠ [])

/-- `str::strip_prefix`. -/
def stripPrefix : Text → Text → Option Text
  | [], text => some text
  | _ :: _, [] => none
  | p :: ps, c :: text => if p = c then stripPrefix ps text else none

/-- `str::parse::<u32>`. -/
def parseU32 (text : Text) : Option Nat := u32FromStrRadix text 10

/-- `str::split_once('/')`. -/
def splitOnceSlash (text : Text) : Option (Text × Text) :=
  if '/' ∈ text then some (text.takeWhile (· ≠ '/'), (text.dropWhile (· ≠ '/')).tail) else none

/-! ## Lines -/

/-- The text behind the key in the first word that begins with it. -/
def fieldValue (line key : Text) : Option Text :=
  (splitWhitespace line).findSome? (stripPrefix (key ++ ['=']))

/-- `parse_value`: a field with one number. -/
def parseValue (line key : Text) : Option Nat := (fieldValue line key).bind parseU32

/-- `parse_pair`: a field with two numbers and a slash between them. -/
def parsePair (line key : Text) : Option (Nat × Nat) := do
  let value ← fieldValue line key
  let (left, right) ← splitOnceSlash value
  return (← parseU32 left, ← parseU32 right)

/-- `corrected_stage_winner`: where exactly one player is dead, the other one has won. -/
def correctedStageWinner (loggedWinner : Option Nat) (deadMario deadLuigi : Nat) : Option Nat :=
  match decide (deadMario ≠ 0), decide (deadLuigi ≠ 0) with
  | true, false => some 1
  | false, true => some 0
  | _, _ => loggedWinner

/-- `result_lives`. -/
def resultLives (lives dead : Nat) : Nat := if dead = 0 then lives else 0

/-- `u8::try_from`. -/
def u8TryFrom (n : Nat) : Option Nat := if n < 2 ^ 8 then some n else none

/-- `parse_mvl_result_line`; lines of another kind are passed over. -/
def parseMvlResultLine (line : Text) : Option MvlStageResult :=
  if !"NSMB MvL auto restart: result".toList.isPrefixOf line then none
  else do
    let resolved := !"NSMB MvL auto restart: result unresolved".toList.isPrefixOf line
    let frame ← parseValue line "frame".toList
    let stars ← parsePair line "stars".toList
    let displayed ← parsePair line "displayed".toList
    let collected ← parsePair line "collected".toList
    let lives ← parsePair line "lives".toList
    let deaths ← parsePair line "deaths".toList
    let dead ← parsePair line "dead".toList
    let matchWins ← parsePair line "matchWins".toList
    let targetWins ← parseValue line "target".toList
    let loggedWinner := if resolved then (parseValue line "winner".toList).bind u8TryFrom else none
    let winner := correctedStageWinner loggedWinner dead.1 dead.2
    return {
      gameIndex := 0
      stage := none
      frame := frame
      winner := winner
      mario := {
        stars := stars.1
        displayedStars := displayed.1
        collectedStars := collected.1
        lives := resultLives lives.1 dead.1
        deaths := deaths.1
        dead := decide (dead.1 ≠ 0) }
      luigi := {
        stars := stars.2
        displayedStars := displayed.2
        collectedStars := collected.2
        lives := resultLives lives.2 dead.2
        deaths := deaths.2
        dead := decide (dead.2 ≠ 0) }
      marioMatchWins := matchWins.1
      luigiMatchWins := matchWins.2
      targetWins := targetWins
      resolved := resolved
      line := line }

/-! ## The list -/

/-- The loop of `apply_corrected_match_wins`. -/
def applyCorrectedMatchWins : Nat → Nat → List MvlStageResult → List MvlStageResult
  | _, _, [] => []
  | marioWins, luigiWins, result :: results =>
    let marioWins := if result.winner = some 0 ∧ result.resolved then marioWins + 1 else marioWins
    let luigiWins := if result.winner = some 1 ∧ result.resolved then luigiWins + 1 else luigiWins
    { result with marioMatchWins := marioWins, luigiMatchWins := luigiWins }
      :: applyCorrectedMatchWins marioWins luigiWins results

/-- `read_mvl_results` once the output has been read, with the stages of the launcher's settings. -/
def mvlResultsOfText (stages : List UInt8) (stdout : Text) : List MvlStageResult :=
  if stdout = [] then []
  else
    let results := ((textLines stdout).filterMap parseMvlResultLine).mapIdx fun index result =>
      { result with gameIndex := index + 1, stage := stages[index]? }
    applyCorrectedMatchWins 0 0 results

end Bigstar.Launcher
