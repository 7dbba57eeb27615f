import Bigstar.Launcher.MvlResults
import Bigstar.Launcher.Processes
import Bigstar.Lib.Sql
import Mathlib.Data.Char
import Mathlib.Data.List.Lex
import Mathlib.Data.Prod.Lex

/-!
# The match history

`history_store.rs` keeps the matches of the launcher in an SQL database and shows them page by page.
A row holds the columns the queries read and the record itself. The texts of the two parts of a
query and the values of their question marks are put together separately, as in the source.
-/

namespace Bigstar.Launcher

open CText Sql

/-- How far a match has come. -/
inductive MatchHistoryStatus where
  /-- The emulator is running. -/
  | running
  /-- A player has the wins of the match. -/
  | completed
  /-- The emulator was stopped before. -/
  | stopped
  deriving DecidableEq

/-- The ids of the players. -/
structure MatchPlayerIds where
  /-- The host, who plays Mario. -/
  mario : Text
  /-- The client, who plays Luigi. -/
  luigi : Text
  deriving DecidableEq

/-- The names of the players at the time. -/
structure MatchPlayerNames where
  /-- The name of the host. -/
  mario : Text
  /-- The name of the client. -/
  luigi : Text
  deriving DecidableEq

/-- What the launcher records about a match. -/
structure MatchHistoryRecord where
  /-- The primary key. -/
  id : Text
  /-- The ids of the players, empty where unknown. -/
  playerIds : MatchPlayerIds
  /-- The names of the players. -/
  playerNames : MatchPlayerNames
  /-- The role of the local player: the host is Mario, the client Luigi. -/
  role : Role
  /-- The games, in their order. -/
  stages : List MvlStageResult
  /-- A time in a form whose order is that of the texts. -/
  startedAt : Text
  /-- How far the match has come. -/
  status : MatchHistoryStatus
  deriving DecidableEq

/-- The outcomes that the list can be filtered by. -/
inductive MatchHistoryOutcome where
  /-- Completed, with any winner. -/
  | completed
  /-- Completed, and won by the local player. -/
  | win
  /-- Completed, and won by the opponent. -/
  | loss
  /-- Stopped. -/
  | stopped
  deriving DecidableEq

/-- What the user has selected; `none` where there is no restriction. -/
structure MatchHistoryFilter where
  /-- So many of the newest matches only. -/
  recentMatches : Option Nat
  /-- Matches from this time on. -/
  sinceStartedAt : Option Text
  /-- Matches against this opponent. -/
  opponentPlayerId : Option Text
  /-- Matches with a game on this stage. -/
  stage : Option UInt8
  /-- Matches with this outcome. -/
  outcome : Option MatchHistoryOutcome

/-- The last match of a page, by which the next page begins. -/
structure MatchHistoryCursor where
  /-- When that match began. -/
  startedAt : Text
  /-- Its id, for matches that began at the same time. -/
  id : Text

/-- One request of the list. -/
structure MatchHistoryPageRequest where
  /-- Which matches are listed. -/
  filter : MatchHistoryFilter
  /-- Where the page begins, `none` for the first one. -/
  cursor : Option MatchHistoryCursor
  /-- How many matches a page may have, before it is clamped. -/
  limit : Nat

/-- One page of the list. -/
structure MatchHistoryPage where
  /-- The field `matches`. -/
  pageMatches : List MatchHistoryRecord
  /-- Where the next page begins, if there is one. -/
  nextCursor : Option MatchHistoryCursor
  /-- The number of matches on all pages. -/
  total : Nat

/-! ## The tables -/

/-- A row of `match_history`. -/
structure MatchHistoryRow where
  /-- The primary key. -/
  id : Text
  /-- The time by which the list is sorted. -/
  startedAt : Text
  /-- The status, as the query compares it. -/
  status : Text
  /-- NULL where the id is unknown. -/
  opponentPlayerId : Option Text
  /-- The name of the opponent, which may be empty. -/
  opponentPlayerName : Text
  /-- The projected number of games won. -/
  localWins : Nat
  /-- The projected number of games lost. -/
  opponentWins : Nat
  /-- `local` or `opponent`, NULL for a draw. -/
  matchWinner : Option Text
  /-- The record itself, which the list is read from. -/
  recordJson : MatchHistoryRecord

/-- A row of `match_stage_results`. -/
structure StageResultRow where
  /-- The match, `REFERENCES match_history(id)`. -/
  matchId : Text
  /-- The number of the game in the match. -/
  gameIndex : Nat
  /-- NULL where the stage is unknown. -/
  stage : Option UInt8
  /-- `local` or `opponent`, NULL without a winner. -/
  winner : Option Text
  /-- A truth value, as SQLite stores it. -/
  resolved : Int

/-- The two tables that the queries read. -/
structure HistoryDatabase where
  /-- The table `match_history`, in the order of insertion. -/
  matchHistory : List MatchHistoryRow
  /-- The table `match_stage_results`, in the order of insertion. -/
  matchStageResults : List StageResultRow

/-- Only matches with a decided game are kept. -/
def hasPlayedResult (record : MatchHistoryRecord) : Bool :=
  record.stages.any fun stage => stage.resolved && (stage.winner = some 0 || stage.winner = some 1)

/-- `non_empty`: a text without its blanks, unless nothing is left. -/
def nonEmpty (value : Text) : Option Text :=
  let trimmed := Trim value
  if trimmed = [] then none else some trimmed

/-- The games won by the local player and by the opponent. The counters are `u32` in the source,
which wraps with the 2^32nd game of a match: more games than its memory holds. -/
def countWins (stages : List MvlStageResult) (localMarioLuigiId : Nat) : Nat × Nat :=
  (stages.filter (·.resolved)).foldl (fun (localWins, opponentWins) stage =>
    match stage.winner with
    | some winner =>
      if winner = localMarioLuigiId then (localWins + 1, opponentWins) else
        (localWins, opponentWins + 1)
    | none => (localWins, opponentWins)) (0, 0)

/-- `winner_from_counts`. -/
def winnerFromCounts (localWins opponentWins : Nat) : Option Text :=
  if opponentWins < localWins then some "local".toList
  else if localWins < opponentWins then some "opponent".toList
  else none

/-- The text of a status in its column. -/
def statusLabel : MatchHistoryStatus → Text
  | .running => "running".toList
  | .completed => "completed".toList
  | .stopped => "stopped".toList

/-- `stage_winner_label`: the winner seen from the local player; another number has no label. -/
def stageWinnerLabel (role : Role) (winner : Option Nat) : Option Text :=
  match role, winner with
  | .host, some 0 => some "local".toList
  | .client, some 1 => some "local".toList
  | .host, some 1 => some "opponent".toList
  | .client, some 0 => some "opponent".toList
  | _, _ => none

/-- The columns that are computed from a record. -/
structure MatchProjection where
  /-- The id of the player on the other side. -/
  opponentPlayerId : Option Text
  /-- The name of that player. -/
  opponentPlayerName : Text
  /-- The games that the local player won. -/
  localWins : Nat
  /-- The games that the opponent won. -/
  opponentWins : Nat
  /-- The player with more games, if there is one. -/
  matchWinner : Option Text

/-- `MatchProjection::from_record`. -/
def MatchProjection.fromRecord (record : MatchHistoryRecord) : MatchProjection :=
  let opponentPlayerId :=
    match record.role with
    | .host => record.playerIds.luigi
    | .client => record.playerIds.mario
  let opponentPlayerName :=
    match record.role with
    | .host => record.playerNames.luigi
    | .client => record.playerNames.mario
  let localMarioLuigiId :=
    match record.role with
    | .host => 0
    | .client => 1
  let (localWins, opponentWins) := countWins record.stages localMarioLuigiId
  let matchWinner :=
    if record.status = .completed then winnerFromCounts localWins opponentWins else none
  { opponentPlayerId := nonEmpty opponentPlayerId
    opponentPlayerName := opponentPlayerName
    localWins := localWins
    opponentWins := opponentWins
    matchWinner := matchWinner }

/-- The row that `insert_match_history_record` inserts. -/
def matchHistoryRow (record : MatchHistoryRecord) : MatchHistoryRow :=
  let projection := MatchProjection.fromRecord record
  { id := record.id
    startedAt := record.startedAt
    status := statusLabel record.status
    opponentPlayerId := projection.opponentPlayerId
    opponentPlayerName := projection.opponentPlayerName
    localWins := projection.localWins
    opponentWins := projection.opponentWins
    matchWinner := projection.matchWinner
    recordJson := record }

/-- The row that `insert_stage_result` inserts. -/
def stageResultRow (record : MatchHistoryRecord) (stage : MvlStageResult) : StageResultRow where
  matchId := record.id
  gameIndex := stage.gameIndex
  stage := stage.stage
  winner := stageWinnerLabel record.role stage.winner
  resolved := if stage.resolved then 1 else 0

/-! ## Changes

A change that breaks a primary key fails, and its transaction is rolled back. -/

/-- One row of `match_stage_results`; its key is the match with the index of the game. -/
def insertStageResult (record : MatchHistoryRecord) (db : HistoryDatabase)
    (stage : MvlStageResult) : Option HistoryDatabase :=
  if db.matchStageResults.any fun row =>
    row.matchId = record.id && row.gameIndex = stage.gameIndex then none
  else some { db with matchStageResults := db.matchStageResults ++ [stageResultRow record stage] }

/-- `insert_match_history_record`; a key that is taken is an error, and the transaction is
undone. -/
def insertMatchHistoryRecord (db : HistoryDatabase) (record : MatchHistoryRecord) :
    Option HistoryDatabase :=
  if db.matchHistory.any fun row => row.id = record.id then none
  else record.stages.foldlM (insertStageResult record)
    { db with matchHistory := db.matchHistory ++ [matchHistoryRow record] }

/-- `DELETE FROM match_history` of the rows a condition selects, with `ON DELETE CASCADE`. -/
def deleteRows (db : HistoryDatabase) (selected : MatchHistoryRow → Bool) : HistoryDatabase where
  matchHistory := db.matchHistory.filter fun row => !selected row
  matchStageResults := db.matchStageResults.filter fun stage =>
    !db.matchHistory.any fun row => selected row && row.id = stage.matchId

/-- `delete_match`, with the rows of its games. -/
def deleteMatch (db : HistoryDatabase) (matchId : Text) : HistoryDatabase :=
  deleteRows db fun row => row.id = matchId

/-- `upsert_match`: a match without a decided game is not kept. -/
def upsertMatch (db : HistoryDatabase) (record : MatchHistoryRecord) : Option HistoryDatabase :=
  if !hasPlayedResult record then some (deleteMatch db record.id)
  else insertMatchHistoryRecord (deleteMatch db record.id) record

/-- `replace_match_history_records`: an import replaces everything. -/
def replaceMatchHistoryRecords (db : HistoryDatabase) (records : List MatchHistoryRecord) :
    Option HistoryDatabase :=
  (records.filter hasPlayedResult).foldlM insertMatchHistoryRecord (deleteRows db fun _ => true)

/-! ## Queries -/

/-- `EXISTS (SELECT 1 FROM match_stage_results played_stage …)`. -/
def playedStage : Clause HistoryDatabase MatchHistoryRow where
  arity := 0
  holds db _ mh := db.matchStageResults.any fun stage =>
    stage.matchId = mh.id && stage.resolved = 1 && stage.winner.isSome

/-- `mh.started_at >= ?`. -/
def startedAtFrom : Clause HistoryDatabase MatchHistoryRow where
  arity := 1
  holds _ params mh := (Value.text mh.startedAt).ge (question params 0)

/-- `mh.opponent_player_id = ?`. -/
def opponentIs : Clause HistoryDatabase MatchHistoryRow where
  arity := 1
  holds _ params mh := (mh.opponentPlayerId.elim .null .text : Value).eq (question params 0)

/-- `mh.status = '…'`. -/
def statusIs (label : Text) : Clause HistoryDatabase MatchHistoryRow where
  arity := 0
  holds _ _ mh := mh.status = label

/-- `mh.match_winner = '…'`. -/
def matchWinnerIs (label : Text) : Clause HistoryDatabase MatchHistoryRow where
  arity := 0
  holds _ _ mh := mh.matchWinner = some label

/-- `EXISTS (SELECT 1 FROM match_stage_results filter_stage …)`. -/
def filterStage : Clause HistoryDatabase MatchHistoryRow where
  arity := 1
  holds db params mh := db.matchStageResults.any fun stage =>
    stage.matchId = mh.id && (stage.stage.elim .null fun n => .integer n.toNat : Value).eq
      (question params 0) &&
      stage.resolved = 1

/-- `(started_at < ? OR (started_at = ? AND id < ?))`. -/
def belowCursor : Clause HistoryDatabase MatchHistoryRow where
  arity := 3
  holds _ params mh := (Value.text mh.startedAt).lt (question params 0) ||
    ((Value.text mh.startedAt).eq (question params 1) && (Value.text mh.id).lt (question params 2))

/-- The columns of `ORDER BY started_at DESC, id DESC`. -/
def historyOrder (mh : MatchHistoryRow) : Text ×ₗ Text := toLex (mh.startedAt, mh.id)

/-- The common table expressions of a query, with the parameters that they bind. -/
structure ScopedMatchesQuery where
  /-- The conditions inside the scope, before its limit. -/
  scopeConditions : List (Clause HistoryDatabase MatchHistoryRow)
  /-- The limit of the scope. -/
  limit : Option Nat
  /-- The conditions on the matches in the scope. -/
  filteredConditions : List (Clause HistoryDatabase MatchHistoryRow)
  /-- The parameters, in the order of the conditions. -/
  params : List Value

/-- `ScopedMatchesQuery::new`. -/
def ScopedMatchesQuery.new (filter : MatchHistoryFilter) (includeOutcome includeStage : Bool) :
    ScopedMatchesQuery :=
  let scopeConditions := [playedStage]
  let params := []
  let (scopeConditions, params) :=
    match filter.sinceStartedAt with
    | some since => (scopeConditions ++ [startedAtFrom], params ++ [Value.text since])
    | none => (scopeConditions, params)
  let (scopeConditions, params) :=
    match filter.opponentPlayerId with
    | some opponentId => (scopeConditions ++ [opponentIs], params ++ [Value.text opponentId])
    | none => (scopeConditions, params)
  let limit := (filter.recentMatches.filter (0 < ·)).map fun value => min value 10000
  let filteredConditions :=
    if includeOutcome then
      match filter.outcome with
      | some .completed => [statusIs "completed".toList]
      | some .win => [matchWinnerIs "local".toList]
      | some .loss => [matchWinnerIs "opponent".toList]
      | some .stopped => [statusIs "stopped".toList]
      | none => []
    else []
  let (filteredConditions, params) :=
    if includeStage then
      match filter.stage with
      | some stage => (filteredConditions ++ [filterStage], params ++ [Value.integer stage.toNat])
      | none => (filteredConditions, params)
    else (filteredConditions, params)
  { scopeConditions := scopeConditions
    limit := limit
    filteredConditions := filteredConditions
    params := params }

namespace ScopedMatchesQuery

/-- The number of question marks. -/
def arity (query : ScopedMatchesQuery) : Nat :=
  (conjunction query.scopeConditions).arity + (conjunction query.filteredConditions).arity

/-- The rows of `scoped_matches`. -/
def scopedMatches (query : ScopedMatchesQuery) (db : HistoryDatabase) (params : List Value) :
    List MatchHistoryRow :=
  limitTo query.limit (orderByDesc historyOrder
    (select query.scopeConditions db params db.matchHistory))

/-- The rows of `filtered_matches`. -/
def filteredMatches (query : ScopedMatchesQuery) (db : HistoryDatabase) (params : List Value) :
    List MatchHistoryRow :=
  select query.filteredConditions db (params.drop (conjunction query.scopeConditions).arity)
    (query.scopedMatches db params)

end ScopedMatchesQuery

/-- The errors of the queries. -/
inductive HistoryError where
  /-- A statement has another number of parameters than were bound. -/
  | invalidParameterCount
  /-- A number does not fit the integer that it is read into. -/
  | integralValueOutOfRange
  /-- The value of a `LIMIT` is no integer. -/
  | datatypeMismatch
  deriving DecidableEq

/-- `SELECT COUNT(*) FROM filtered_matches`, read as a `u32`. -/
def countFilteredMatches (query : ScopedMatchesQuery) (db : HistoryDatabase) :
    Except HistoryError Nat :=
  if query.params.length ≠ query.arity then .error .invalidParameterCount
  else
    let count := (query.filteredMatches db query.params).length
    if count < 2 ^ 32 then .ok count else .error .integralValueOutOfRange

/-- The value of a `LIMIT ?`; a negative one is no limit. -/
def limitValue : Value → Except HistoryError (Option Nat)
  | .integer n => .ok (if 0 ≤ n then some n.toNat else none)
  | _ => .error .datatypeMismatch

/-- `SELECT record_json FROM filtered_matches WHERE 1 = 1… ORDER BY started_at DESC, id DESC LIMIT
?`. -/
def selectPage (query : ScopedMatchesQuery)
    (cursorClause : List (Clause HistoryDatabase MatchHistoryRow))
    (db : HistoryDatabase) (params : List Value) :
    Except HistoryError (List MatchHistoryRecord) := do
  let arity := query.arity + (conjunction cursorClause).arity
  if params.length ≠ arity + 1 then throw .invalidParameterCount
  let limit ← limitValue (question params arity)
  let rows := select cursorClause db (params.drop query.arity) (query.filteredMatches db params)
  return (limitTo limit (orderByDesc historyOrder rows)).map (·.recordJson)

/-- `history_page`. -/
def historyPage (db : HistoryDatabase) (request : MatchHistoryPageRequest) :
    Except HistoryError MatchHistoryPage := do
  let query := ScopedMatchesQuery.new request.filter true true
  let total ← countFilteredMatches query db
  let limit := max 1 (min request.limit 100)
  let (cursorClause, params) :=
    match request.cursor with
    | some cursor =>
      ([belowCursor], query.params ++
        [Value.text cursor.startedAt, Value.text cursor.startedAt, Value.text cursor.id])
    | none => ([], query.params)
  let params := params ++ [Value.integer (limit + 1 : Nat)]
  let records ← selectPage query cursorClause db params
  let hasMore := limit < records.length
  let records := records.take limit
  let nextCursor :=
    if hasMore then records.getLast?.map fun record =>
      { startedAt := record.startedAt, id := record.id } else none
  return { pageMatches := records, nextCursor := nextCursor, total := total }

/-- The pages from a cursor on, each asked for with the cursor of the one before; `none` if there
are more than `steps`. -/
def followPages (db : HistoryDatabase) (filter : MatchHistoryFilter) (limit : Nat) :
    Nat → Option MatchHistoryCursor → Except HistoryError (Option (List MatchHistoryPage))
  | 0, _ => .ok none
  | steps + 1, cursor => do
    let page ← historyPage db { filter := filter, cursor := cursor, limit := limit }
    match page.nextCursor with
    | none => return some [page]
    | some next => return (← followPages db filter limit steps (some next)).map (page :: ·)

end Bigstar.Launcher
