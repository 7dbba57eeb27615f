import Bigstar.Launcher.HistoryStore
import Mathlib.Data.Rat.Defs
import Mathlib.Data.List.Dedup

/-!
# The dashboard of the match history

`dashboard` of `history_store.rs`: the figures of the matches in scope, whatever their outcome. The
matches are counted from their projected columns, the games from the rows of the stages. A rate is
the quotient before it is rounded to a floating point number.
-/

namespace Bigstar.Launcher

open CText Sql

/-- What the newest matches have in common. -/
inductive MatchHistoryStreakKind where
  /-- They were won. -/
  | win
  /-- They were lost. -/
  | loss
  deriving DecidableEq

/-- The figures at the top of the dashboard, over the scope of the filter. -/
structure MatchHistorySummary where
  /-- Completed matches with a win. -/
  wins : Nat
  /-- Completed matches with a loss. -/
  losses : Nat
  /-- Matches that were stopped. -/
  stopped : Nat
  /-- Single games with a win. -/
  gameWins : Nat
  /-- Single games with a loss. -/
  gameLosses : Nat
  /-- How many of the newest decided matches ended alike. -/
  streak : Nat
  /-- How they ended, if there is a decided match. -/
  streakKind : Option MatchHistoryStreakKind
  deriving DecidableEq

/-- A decided match of the trend. -/
structure MatchHistoryTrendPoint where
  /-- The match. -/
  matchId : Text
  /-- When it began. -/
  startedAt : Text
  /-- The name of the opponent in it. -/
  opponentName : Text
  /-- Whether the local player won it. -/
  won : Bool
  /-- The share of wins in the window that ends with this match. -/
  rollingWinRate : Rat
  deriving DecidableEq

/-- The games of one stage. -/
structure MatchHistoryStageStatistics where
  /-- The number of the stage. -/
  stage : UInt8
  /-- Games won on it. -/
  wins : Nat
  /-- Games lost on it. -/
  losses : Nat
  deriving DecidableEq

/-- What the statistics page shows. -/
structure MatchHistoryDashboard where
  /-- The figures of all matches in scope. -/
  summary : MatchHistorySummary
  /-- The last decided matches, the oldest first. -/
  trend : List MatchHistoryTrendPoint
  /-- The five stages, or the selected one only. -/
  stages : List MatchHistoryStageStatistics

/-! ## Queries -/

/-- A query is run with one value for each of its question marks. -/
def bindParams (arity : Nat) (params : List Value) : Except HistoryError Unit :=
  if params.length = arity then .ok () else .error .invalidParameterCount

/-- A column read as a `u32`. -/
def readU32 (count : Nat) : Except HistoryError Nat :=
  if count < 2 ^ 32 then .ok count else .error .integralValueOutOfRange

/-- `sr.resolved = 1 AND sr.winner IS NOT NULL`. -/
def decidedGame : Clause HistoryDatabase (MatchHistoryRow × StageResultRow) where
  arity := 0
  holds _ _ row := row.2.resolved = 1 && row.2.winner.isSome

/-- `sr.stage = ?`. -/
def stageIs : Clause HistoryDatabase (MatchHistoryRow × StageResultRow) where
  arity := 1
  holds _ params row := (row.2.stage.elim .null fun n => .integer n.toNat : Value).eq
    (question params 0)

/-- `sr.stage IS NOT NULL`. -/
def stageKnown : Clause HistoryDatabase (MatchHistoryRow × StageResultRow) where
  arity := 0
  holds _ _ row := row.2.stage.isSome

/-- `status = 'completed' AND match_winner IS NOT NULL`. -/
def decidedMatch : Clause HistoryDatabase MatchHistoryRow where
  arity := 0
  holds _ _ mh := mh.status = "completed".toList && mh.matchWinner.isSome

/-- `FROM filtered_matches mh JOIN match_stage_results sr ON sr.match_id = mh.id WHERE …`. -/
def selectGames (query : ScopedMatchesQuery)
    (conditions : List (Clause HistoryDatabase (MatchHistoryRow × StageResultRow)))
    (db : HistoryDatabase) (params : List Value) : List (MatchHistoryRow × StageResultRow) :=
  select conditions db (params.drop query.arity)
    ((query.filteredMatches db params).flatMap fun mh =>
      (db.matchStageResults.filter fun sr => sr.matchId = mh.id).map fun sr => (mh, sr))

/-- The clause for a stage, if one is selected, and the parameters with its value. -/
def stageClause (params : List Value) (selectedStage : Option UInt8) :
    List (Clause HistoryDatabase (MatchHistoryRow × StageResultRow)) × List Value :=
  match selectedStage with
  | some stage => ([stageIs], params ++ [Value.integer stage.toNat])
  | none => ([], params)

/-- `SELECT COALESCE(SUM(sr.winner = 'local'), 0), COALESCE(SUM(sr.winner = 'opponent'), 0)`. -/
def countGames (games : List (MatchHistoryRow × StageResultRow)) :
    Except HistoryError (Nat × Nat) := do
  let wins ← readU32 (games.countP fun game => game.2.winner = some "local".toList)
  let losses ← readU32 (games.countP fun game => game.2.winner = some "opponent".toList)
  return (wins, losses)

/-- The decided matches in scope, the latest first. -/
def selectDecided (query : ScopedMatchesQuery) (db : HistoryDatabase) : List MatchHistoryRow :=
  orderByDesc historyOrder (select [decidedMatch] db (query.params.drop query.arity)
    (query.filteredMatches db query.params))

/-- The loop over the outcomes: the first outcome, and how often it came before another one did. -/
def countStreak : Option Text → Nat → List Text → Option Text × Nat
  | first, streak, [] => (first, streak)
  | none, streak, outcome :: outcomes => countStreak (some outcome) (streak + 1) outcomes
  | some first, streak, outcome :: outcomes =>
    if first ≠ outcome then (some first, streak) else countStreak (some first) (streak + 1) outcomes

/-- `load_trend`: the windows of the points shown reach nine matches further back. -/
def loadTrend (query : ScopedMatchesQuery) (db : HistoryDatabase) :
    Except HistoryError (List MatchHistoryTrendPoint) := do
  bindParams query.arity query.params
  let raw := orderByAsc historyOrder ((selectDecided query db).take 69)
  let visibleStart := raw.length - 60
  return (raw.zipIdx.drop visibleStart).map fun (row, index) =>
    let start := index - 9
    let window := (raw.take (index + 1)).drop start
    let windowWins := window.countP fun row => row.matchWinner = some "local".toList
    { matchId := row.id
      startedAt := row.startedAt
      opponentName := row.opponentPlayerName
      won := row.matchWinner = some "local".toList
      rollingWinRate := windowWins / window.length }

/-- `load_stage_statistics`. -/
def loadStageStatistics (query : ScopedMatchesQuery) (db : HistoryDatabase)
    (selectedStage : Option UInt8) :
    Except HistoryError (List MatchHistoryStageStatistics) := do
  let (clause, params) := stageClause query.params selectedStage
  bindParams (query.arity + (conjunction clause).arity) params
  let games := selectGames query (decidedGame :: stageKnown :: clause) db params
  let stages := (games.filterMap fun game => game.2.stage).dedup.insertionSort fun a b =>
    a.toNat ≤ b.toNat
  stages.mapM fun stage => do
    let (wins, losses) ← countGames (games.filter fun game => game.2.stage = some stage)
    return { stage := stage, wins := wins, losses := losses }

/-- `history_dashboard`: the outcome of the filter does not restrict the figures. -/
def historyDashboard (db : HistoryDatabase) (filter : MatchHistoryFilter) :
    Except HistoryError MatchHistoryDashboard := do
  let analyticsFilter := { filter with outcome := none }
  let query := ScopedMatchesQuery.new analyticsFilter false false
  bindParams query.arity query.params
  let rows := query.filteredMatches db query.params
  let wins ← readU32 (rows.countP fun mh => mh.matchWinner = some "local".toList)
  let losses ← readU32 (rows.countP fun mh => mh.matchWinner = some "opponent".toList)
  let stopped ← readU32 (rows.countP fun mh => mh.status = "stopped".toList)
  let (clause, gameParams) := stageClause query.params analyticsFilter.stage
  bindParams (query.arity + (conjunction clause).arity) gameParams
  let (gameWins, gameLosses) ← countGames (selectGames query (decidedGame :: clause) db gameParams)
  let (firstOutcome, streak) :=
    countStreak none 0 ((selectDecided query db).filterMap (·.matchWinner))
  let streakKind :=
    if firstOutcome = some "local".toList then some .win
    else if firstOutcome = some "opponent".toList then some .loss
    else none
  let trend ← loadTrend query db
  let stages ← loadStageStatistics query db analyticsFilter.stage
  return { summary := { wins := wins
                        losses := losses
                        stopped := stopped
                        gameWins := gameWins
                        gameLosses := gameLosses
                        streak := streak
                        streakKind := streakKind }
           trend := trend
           stages := stages }

end Bigstar.Launcher
