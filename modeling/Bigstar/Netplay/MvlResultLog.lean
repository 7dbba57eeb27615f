import Bigstar.Netplay.MvlLifecycle

/-!
# The results that the emulator prints

What `RestartAfterResultIfNeeded` prints about the result of a game, and the output of a whole
match. The results scene is shown for some time after each game: a game is one stay in it. Between
two calls the console runs, and the checkpoints of the next game may be saved.
-/

namespace Bigstar.Netplay.MvlLifecycle

open CText MvlRuntime

/-- The fields of a result line. -/
inductive ResultKey where
  /-- The instance. -/
  | inst
  /-- The frame in which the line is printed. -/
  | frame
  /-- The player that won the game. -/
  | winner
  /-- The stars that count. -/
  | stars
  /-- The stars on the screen. -/
  | displayed
  /-- The stars that were picked up. -/
  | collected
  /-- The lives that are left. -/
  | lives
  /-- The deaths. -/
  | deaths
  /-- Which players are dead. -/
  | dead
  /-- The games that each player has won. -/
  | matchWins
  /-- The games that win the match. -/
  | target
  deriving DecidableEq

/-- The field as it is printed. -/
def ResultKey.name : ResultKey → Text
  | inst => "inst".toList
  | frame => "frame".toList
  | winner => "winner".toList
  | stars => "stars".toList
  | displayed => "displayed".toList
  | collected => "collected".toList
  | lives => "lives".toList
  | deaths => "deaths".toList
  | dead => "dead".toList
  | matchWins => "matchWins".toList
  | target => "target".toList

/-- `%d`. -/
def signedDecimal (n : Int) : Text := if n < 0 then '-' :: decimal n.natAbs else decimal n.natAbs

/-- `%u/%u`. -/
def counterPair (counter : Fin 2 → Nat) : Text := decimal (counter 0) ++ '/' :: decimal (counter 1)

/-- A field of a result line, with the blank before it. -/
def fieldText (field : ResultKey × Text) : Text := ' ' :: (field.1.name ++ '=' :: field.2)

/-- A result as it is printed: with the winner once the game has been scored, and with the wins
after it. -/
structure ResultReport where
  /-- The frame in which it is printed. -/
  frame : Nat
  /-- Nobody, when the game is unresolved. -/
  winner : Option (Fin 2)
  /-- The counters of the game. -/
  result : ResultSnapshot
  /-- The games won so far, this one included. -/
  wins : Fin 2 → Int

/-- How the line of a scored game begins. -/
def kResultPrefix : Text := "NSMB MvL auto restart: result".toList
/-- How the line of an unresolved game begins. -/
def kUnresolvedPrefix : Text := "NSMB MvL auto restart: result unresolved".toList

namespace ResultReport

/-- The winner, which an unresolved game does not have. -/
def winnerField : Option (Fin 2) → List (ResultKey × Text)
  | none => []
  | some winner => [(.winner, signedDecimal ((winner : Nat) : Int))]

/-- The fields in the order in which they are printed. -/
def fields (i : Fin 16) (targetWins : Int) (report : ResultReport) : List (ResultKey × Text) :=
  [(.inst, signedDecimal ((i : Nat) : Int)), (.frame, decimal report.frame)] ++
    winnerField report.winner ++
    [(.stars, counterPair report.result.battleStars),
      (.displayed, counterPair report.result.displayedStars),
      (.collected, counterPair report.result.collectedStars),
      (.lives, counterPair report.result.lives),
      (.deaths, counterPair report.result.deaths),
      (.dead, counterPair report.result.dead),
      (.matchWins, signedDecimal (report.wins 0) ++ '/' :: signedDecimal (report.wins 1)),
      (.target, signedDecimal targetWins)]

/-- The line, without its end. -/
def line (i : Fin 16) (targetWins : Int) (report : ResultReport) : Text :=
  (if report.winner.isNone then kUnresolvedPrefix else kResultPrefix)
    ++ (report.fields i targetWins).flatMap fieldText

end ResultReport

variable {N : Type} (console : Console N)

namespace Context

/-- The result that a call of `RestartAfterResultIfNeeded` prints, if it prints one. -/
def resultReport (c : Context N) (i : Fin 16) (frame : Nat) : Option ResultReport :=
  let s := c.runtime.instances i
  if !c.mvl.autoRestartAfterResult || decide (c.mvl.targetWins < 1) then none
  else if console.arm9Read16 kSceneCurrentSceneIDAddr c.nds ≠ kResultsScene then none
  else if !s.inResult || s.resultScored then none
  else
    let result := c.readResultSnapshot console
    match resolveResultWinner result with
    | none =>
      if !s.resultUnresolvedLogged &&
        decide (framesSince frame s.resultFrame ≥ c.mvl.autoRestartDelayFrames) then
        some { frame, winner := none, result, wins := s.wins }
      else none
    | some winner =>
      some
        { frame, winner := some winner, result,
          wins := Function.update s.wins winner (s.wins winner + 1) }

end Context

/-! ## The output of a match -/

/-- A frame of the emulator: what the console and the checkpoints are when it begins, and what else
is printed before and after the result. -/
structure ResultFrame (N : Type) where
  /-- The frame's number. -/
  frame : Nat
  /-- The console at the beginning of the frame. -/
  nds : N
  /-- The checkpoint of the boot, if one has been saved by now. -/
  bootstrapCheckpoint : Checkpoint := {}
  /-- The checkpoint of a game, if one has been saved by now. -/
  gameplayCheckpoint : Checkpoint := {}
  /-- What is printed before the result. -/
  before : List Text := []
  /-- What is printed after it. -/
  after : List Text := []

/-- A match as far as it has been played. -/
structure MatchRun (N : Type) where
  /-- The state of the process. -/
  context : Context N
  /-- How often the results scene has been entered. -/
  visits : Nat := 0
  /-- The results that have been printed, each with the stay that it belongs to. -/
  reports : List (Nat × ResultReport) := []
  /-- Everything that was printed. -/
  lines : List Text := []

namespace MatchRun

/-- The context in which the call is made. -/
def shown (i : Fin 16) (run : MatchRun N) (event : ResultFrame N) : Context N :=
  { run.context with
    nds := event.nds
    runtime := run.context.runtime.updateInstance i fun s =>
      { s with
        bootstrapCheckpoint := event.bootstrapCheckpoint
        gameplayCheckpoint := event.gameplayCheckpoint } }

/-- One frame: the call, what it prints, and whether a new stay in the results scene begins. -/
def step (i : Fin 16) (run : MatchRun N) (event : ResultFrame N) : MatchRun N :=
  let c := run.shown i event
  let report := c.resultReport console i event.frame
  let c' := (c.restartAfterResultIfNeeded console i event.frame).1
  { context := c'
    visits :=
      if !(c.runtime.instances i).inResult && (c'.runtime.instances i).inResult then
        run.visits + 1 else run.visits
    reports := run.reports ++ (report.map fun r => (run.visits, r)).toList
    lines := run.lines ++ event.before ++
      (report.map (·.line i c.mvl.targetWins)).toList ++ event.after }

/-- The games that have been reported, in order: the last report of every stay. -/
def lastReports : List (Nat × ResultReport) → List ResultReport
  | [] => []
  | [report] => [report.2]
  | report :: report' :: reports =>
    if report.1 = report'.1 then lastReports (report' :: reports)
    else report.2 :: lastReports (report' :: reports)

/-- The games of the match, each with its last report. -/
def games (run : MatchRun N) : List ResultReport := lastReports run.reports

/-- Before the match. -/
def start (context : Context N) : MatchRun N := { context }

/-- The step as a partial function, for runs. -/
def next (i : Fin 16) (run : MatchRun N) (event : ResultFrame N) : Option (MatchRun N) :=
  some (run.step console i event)

/-- A winner is found in a stay in the results scene that has printed an unresolved result
already. -/
def LateWinner (i : Fin 16) (run : MatchRun N) (event : ResultFrame N) : Prop :=
  let c := run.shown i event
  let s := c.runtime.instances i
  console.arm9Read16 kSceneCurrentSceneIDAddr c.nds = kResultsScene ∧ s.inResult = true ∧
    s.resultScored = false ∧ s.resultUnresolvedLogged = true ∧
    resolveResultWinner (c.readResultSnapshot console) ≠ none

end MatchRun

/-- The standard output with these lines, which Windows ends with a carriage return as well. -/
def stdoutText (crlf : Bool) (lines : List Text) : Text :=
  lines.flatMap fun line => line ++ if crlf then ['\r', '\n'] else ['\n']

end Bigstar.Netplay.MvlLifecycle
