import Bigstar.Launcher.HistoryDashboard
import Bigstar.Launcher.Proofs.HistoryPagesProofs
import Mathlib.Algebra.Order.BigOperators.Group.List
import Mathlib.Algebra.Order.Group.Nat
import Mathlib.Algebra.Ring.Nat

/-!
# The figures of the dashboard

The wins of a match are counted by one rule and its games are labelled by another. They agree on a
record whose resolved games were won by Mario or Luigi or by nobody, and while only such records are
written the dashboard shows what follows from the records. Only the last 69 decided matches are read
for the trend, which is enough for the windows of the 60 that are shown.
-/

namespace Bigstar.Launcher

open CText Sql

/-! ## The figures of the records -/

/-- The number of the player in front of the launcher. -/
def localId (record : MatchHistoryRecord) : Nat :=
  match record.role with
  | .host => 0
  | .client => 1

/-- The resolved games that a player won, all of them or those of one stage. -/
def gamesOf (stage : Option UInt8) (record : MatchHistoryRecord) (winner : Nat) : Nat :=
  record.stages.countP fun game =>
    game.resolved && decide (game.winner = some winner) && stage.all fun n =>
      decide (game.stage = some n)

/-- The games of a record that the local player has won. -/
def gamesWon (stage : Option UInt8) (record : MatchHistoryRecord) : Nat :=
  gamesOf stage record (localId record)

/-- The games of a record that the opponent has won. -/
def gamesLost (stage : Option UInt8) (record : MatchHistoryRecord) : Nat :=
  gamesOf stage record (1 - localId record)

/-- A completed match is won by the player with more games. -/
def matchOutcome (record : MatchHistoryRecord) : Option MatchHistoryStreakKind :=
  if record.status ≠ .completed then none
  else if gamesLost none record < gamesWon none record then some .win
  else if gamesWon none record < gamesLost none record then some .loss
  else none

/-- The decided matches in scope, the latest first. -/
def decidedList (filter : MatchHistoryFilter) (records : List MatchHistoryRecord) :
    List MatchHistoryRecord :=
  (scopeList filter records).filter fun record => (matchOutcome record).isSome

/-- The share of the matches that were won. -/
def winRate (records : List MatchHistoryRecord) : Rat :=
  (records.countP fun record => matchOutcome record = some .win : Nat) / (records.length : Nat)

/-- The point of the trend for a match, given the matches of its window. -/
def trendPoint (record : MatchHistoryRecord) (window : List MatchHistoryRecord) :
    MatchHistoryTrendPoint where
  matchId := record.id
  startedAt := record.startedAt
  opponentName := (MatchProjection.fromRecord record).opponentPlayerName
  won := matchOutcome record = some .win
  rollingWinRate := winRate window

/-- The dashboard shows the figures of the records. -/
structure MatchHistoryDashboard.Agrees (dashboard : MatchHistoryDashboard)
    (filter : MatchHistoryFilter) (records : List MatchHistoryRecord) : Prop where
  wins : dashboard.summary.wins = (scopeList filter records).countP fun record =>
    matchOutcome record = some .win
  losses : dashboard.summary.losses = (scopeList filter records).countP fun record =>
    matchOutcome record = some .loss
  stopped : dashboard.summary.stopped = (scopeList filter records).countP fun record =>
    record.status = .stopped
  gameWins : dashboard.summary.gameWins =
    ((scopeList filter records).map (gamesWon filter.stage)).sum
  gameLosses : dashboard.summary.gameLosses =
    ((scopeList filter records).map (gamesLost filter.stage)).sum
  streak : dashboard.summary.streak = ((decidedList filter records).takeWhile fun record =>
    matchOutcome record = (decidedList filter records).head?.bind matchOutcome).length
  streakKind : dashboard.summary.streakKind = (decidedList filter records).head?.bind matchOutcome
  trend_length : dashboard.trend.length = min 60 (decidedList filter records).length
  /-- The points are numbered from the latest match on. -/
  trend : ∀ i record, i < 60 → (decidedList filter records)[i]? = some record →
    dashboard.trend.reverse[i]? =
      some (trendPoint record (((decidedList filter records).drop i).take 10))

/-- The resolved rows of a match with a label. -/
def labelled (db : HistoryDatabase) (mh : MatchHistoryRow) (label : Text) : Nat :=
  db.matchStageResults.countP fun sr => decide (sr.matchId = mh.id) && (decide (sr.resolved = 1) &&
    decide (sr.winner = some label))

/-- The projected columns of a match agree with its rows. -/
structure MatchHistoryRow.Agrees (mh : MatchHistoryRow) (db : HistoryDatabase) : Prop where
  localWins : mh.localWins = labelled db mh "local".toList
  opponentWins : mh.opponentWins = labelled db mh "opponent".toList
  completed : mh.status = statusLabel .completed → mh.matchWinner =
    winnerFromCounts (labelled db mh "local".toList) (labelled db mh "opponent".toList)
  other : mh.status ≠ statusLabel .completed → mh.matchWinner = none

/-- Every resolved game was won by Mario, by Luigi or by nobody. -/
def Sided (record : MatchHistoryRecord) : Prop :=
  ∀ stage ∈ record.stages, stage.resolved = true → ∀ winner ∈ stage.winner, winner = 0 ∨ winner = 1

variable {db : HistoryDatabase} {records : List MatchHistoryRecord} {record : MatchHistoryRecord}
variable {filter : MatchHistoryFilter}

/-! ## One match -/

theorem foldl_countWins (stages : List MvlStageResult) (own : Nat) (localWins opponentWins : Nat) :
    stages.foldl (fun (localWins, opponentWins) stage =>
      match stage.winner with
      | some winner =>
        if winner = own then (localWins + 1, opponentWins) else (localWins, opponentWins + 1)
      | none => (localWins, opponentWins)) (localWins, opponentWins) =
    (localWins + stages.countP (fun stage => decide (stage.winner = some own)),
      opponentWins + stages.countP fun stage => stage.winner.any (· ≠ own)) := by
  induction stages generalizing localWins opponentWins with
  | nil => rfl
  | cons stage stages ih =>
    rw [List.foldl_cons]
    cases hwinner : stage.winner with
    | none => simp [ih, hwinner]
    | some winner =>
      by_cases hown : winner = own
      · simp [ih, hwinner, hown]
        omega
      · simp [ih, hwinner, hown]
        omega

/-- The wins of the two sides, counted over the resolved games. -/
theorem countWins_eq (stages : List MvlStageResult) (own : Nat) :
    countWins stages own = ((stages.filter (·.resolved)).countP fun stage =>
      decide (stage.winner = some own),
      (stages.filter (·.resolved)).countP fun stage => stage.winner.any (· ≠ own)) := by
  refine (foldl_countWins (stages.filter (·.resolved)) own 0 0).trans ?_
  rw [Nat.zero_add, Nat.zero_add]

/-- The projection has the counted wins. -/
theorem fromRecord_wins (record : MatchHistoryRecord) :
    ((MatchProjection.fromRecord record).localWins,
      (MatchProjection.fromRecord record).opponentWins) =
      countWins record.stages (localId record) := by
  unfold MatchProjection.fromRecord localId
  cases record.role <;> rfl

/-- They are those of the local player, -/
theorem localWins_eq (record : MatchHistoryRecord) :
    (MatchProjection.fromRecord record).localWins = gamesWon none record := by
  have hwins := congrArg Prod.fst (fromRecord_wins record)
  rw [countWins_eq] at hwins
  refine hwins.trans ?_
  show List.countP _ _ = List.countP _ _
  rw [List.countP_filter]
  refine List.countP_congr fun stage _ => ?_
  simp [and_comm]

/-- Any winner but the own one counts for the opponent. -/
theorem opponentWins_eq (record : MatchHistoryRecord) :
    (MatchProjection.fromRecord record).opponentWins =
      record.stages.countP fun stage =>
        stage.resolved && stage.winner.any (· ≠ localId record) := by
  have hwins := congrArg Prod.snd (fromRecord_wins record)
  rw [countWins_eq] at hwins
  refine hwins.trans ?_
  show List.countP _ _ = List.countP _ _
  rw [List.countP_filter]
  refine List.countP_congr fun stage _ => ?_
  simp [and_comm]

/-- and those of the opponent. -/
theorem opponentWins_of_sided (h : Sided record) :
    (MatchProjection.fromRecord record).opponentWins = gamesLost none record := by
  rw [opponentWins_eq]
  refine List.countP_congr fun stage hstage => ?_
  cases hresolved : stage.resolved with
  | false => simp
  | true =>
    cases hwinner : stage.winner with
    | none => simp
    | some winner =>
      have hside := h stage hstage hresolved winner (by simp [hwinner])
      unfold localId
      rcases hside with rfl | rfl <;> cases record.role <;> simp

/-- A label stands for the own number or the other one. -/
theorem winner_label_iff (record : MatchHistoryRecord) (stage : MvlStageResult) :
    (stageWinnerLabel record.role stage.winner = some "local".toList ↔
      stage.winner = some (localId record)) ∧
      (stageWinnerLabel record.role stage.winner = some "opponent".toList ↔
        stage.winner = some (1 - localId record)) := by
  unfold localId
  cases record.role <;> rcases stage.winner with _ | _ | _ | n <;> simp [stageWinnerLabel]

/-- The stored games of a record. -/
theorem stageRows_eq (h : db.Projects records) (hrecord : record ∈ records) :
    (db.matchStageResults.filter fun sr => sr.matchId = record.id) =
      record.stages.map (stageResultRow record) := by
  have hother : ∀ other ∈ records, other.id ≠ record.id →
      ((other.stages.map (stageResultRow other)).filter fun sr => decide (sr.matchId = record.id)) =
        [] := by
    intro other _ hne
    refine List.filter_eq_nil_iff.mpr fun row hrow => ?_
    rcases List.mem_map.mp hrow with ⟨stage, -, rfl⟩
    show ¬ decide (other.id = record.id) = true
    rwa [decide_eq_true_iff]
  have hown : ((record.stages.map (stageResultRow record)).filter fun sr =>
    decide (sr.matchId = record.id)) =
      record.stages.map (stageResultRow record) := by
    refine List.filter_eq_self.mpr fun row hrow => ?_
    rcases List.mem_map.mp hrow with ⟨stage, -, rfl⟩
    exact decide_eq_true rfl
  rcases List.append_of_mem hrecord with ⟨before, after, rfl⟩
  have hids := h.ids
  rw [List.map_append, List.map_cons, List.nodup_append] at hids
  rcases hids with ⟨-, hafter, hcross⟩
  have hbeforeNil : before.flatMap (fun other =>
      (other.stages.map (stageResultRow other)).filter fun sr => decide (sr.matchId = record.id)) =
        [] := by
    refine List.flatMap_eq_nil_iff.mpr fun other hmem =>
      hother other (List.mem_append_left _ hmem) ?_
    exact hcross other.id (List.mem_map_of_mem hmem) record.id List.mem_cons_self
  have hafterNil : after.flatMap (fun other =>
      (other.stages.map (stageResultRow other)).filter fun sr => decide (sr.matchId = record.id)) =
        [] := by
    refine List.flatMap_eq_nil_iff.mpr fun other hmem =>
      hother other (List.mem_append_right _ (List.mem_cons_of_mem _ hmem)) ?_
    intro hid
    exact (List.nodup_cons.mp hafter).1 (hid ▸ List.mem_map_of_mem hmem)
  rw [h.matchStageResults, List.filter_flatMap, List.flatMap_append, List.flatMap_cons,
    hbeforeNil, hafterNil, hown, List.nil_append, List.append_nil]

/-- The rows of a match with a label are its resolved games with that winner. -/
theorem labelled_eq (h : db.Projects records) (hrecord : record ∈ records) :
    labelled db (matchHistoryRow record) "local".toList = gamesWon none record ∧
      labelled db (matchHistoryRow record) "opponent".toList = gamesLost none record := by
  have hrows : ∀ label, labelled db (matchHistoryRow record) label =
      record.stages.countP fun stage =>
        stage.resolved && decide (stageWinnerLabel record.role stage.winner = some label) := by
    intro label
    have hfilter := stageRows_eq h hrecord
    unfold labelled
    rw [show (fun sr : StageResultRow => decide (sr.matchId = (matchHistoryRow record).id) &&
      (decide (sr.resolved = 1) &&
      decide (sr.winner = some label))) = fun sr =>
        (decide (sr.resolved = 1) && decide (sr.winner = some label)) &&
        decide (sr.matchId = record.id) from funext fun sr => Bool.and_comm _ _]
    rw [← List.countP_filter, hfilter, List.countP_map]
    refine List.countP_congr fun stage _ => ?_
    cases hresolved : stage.resolved <;> simp [stageResultRow, hresolved]
  refine ⟨(hrows _).trans (List.countP_congr fun stage _ => ?_),
    (hrows _).trans (List.countP_congr fun stage _ => ?_)⟩
  · rw [decide_eq_decide.mpr (winner_label_iff record stage).1]
    show _ ↔ (stage.resolved && decide (stage.winner = some (localId record)) && true) = true
    rw [Bool.and_true]
  · rw [decide_eq_decide.mpr (winner_label_iff record stage).2]
    show _ ↔ (stage.resolved && decide (stage.winner = some (1 - localId record)) && true) = true
    rw [Bool.and_true]

/-- The columns of a match with sides agree with its rows. -/
theorem columns_agree (h : db.Projects records) (hrecord : record ∈ records)
    (hsided : Sided record) :
    (matchHistoryRow record).Agrees db := by
  rcases labelled_eq h hrecord with ⟨hlocal, hopponent⟩
  have hwinner := matchWinner_fromRecord record
  rw [localWins_eq, opponentWins_of_sided hsided] at hwinner
  refine ⟨?_, ?_, fun hcompleted => ?_, fun hother => ?_⟩
  · rw [hlocal]
    exact localWins_eq record
  · rw [hopponent]
    exact opponentWins_of_sided hsided
  · rw [hlocal, hopponent]
    exact hwinner.trans (if_pos (statusLabel_inj.mp hcompleted))
  · exact hwinner.trans (if_neg fun hcompleted => hother (congrArg statusLabel hcompleted))

/-- The label of an outcome. -/
theorem matchWinner_iff (hsided : Sided record) :
    ((MatchProjection.fromRecord record).matchWinner = some "local".toList ↔
      matchOutcome record = some .win) ∧
      ((MatchProjection.fromRecord record).matchWinner = some "opponent".toList ↔
        matchOutcome record = some .loss) ∧
      ((MatchProjection.fromRecord record).matchWinner.isSome ↔ (matchOutcome record).isSome) := by
  have hwinner := matchWinner_fromRecord record
  rw [localWins_eq, opponentWins_of_sided hsided] at hwinner
  have hlocal := @winnerFromCounts_eq_local (gamesWon none record) (gamesLost none record)
  have hopponent := @winnerFromCounts_eq_opponent (gamesWon none record) (gamesLost none record)
  rw [hwinner]
  unfold matchOutcome
  by_cases hcompleted : record.status = .completed
  · rw [if_pos hcompleted, if_neg (not_not_intro hcompleted), hlocal, hopponent]
    by_cases hwon : gamesLost none record < gamesWon none record
    · rw [if_pos hwon, hlocal.mpr hwon]
      exact ⟨iff_of_true hwon rfl, iff_of_false hwon.not_gt (fun h => nomatch h), Iff.rfl⟩
    · by_cases hlost : gamesWon none record < gamesLost none record
      · rw [if_neg hwon, if_pos hlost, hopponent.mpr hlost]
        exact ⟨iff_of_false hwon (fun h => nomatch h), iff_of_true hlost rfl, Iff.rfl⟩
      · rw [if_neg hwon, if_neg hlost]
        unfold winnerFromCounts
        rw [if_neg hwon, if_neg hlost]
        exact ⟨iff_of_false hwon (fun h => nomatch h),
          iff_of_false hlost (fun h => nomatch h), Iff.rfl⟩
  · rw [if_neg hcompleted, if_pos hcompleted]
    simp

/-! ## The queries -/

/-- The matches in scope, without the outcome and the stage. -/
def scopeQuery (filter : MatchHistoryFilter) : ScopedMatchesQuery where
  scopeConditions := clauses (scopeBound filter)
  limit := recentLimit filter.recentMatches
  filteredConditions := []
  params := values (scopeBound filter)

theorem new_scope_eq (filter : MatchHistoryFilter) :
    ScopedMatchesQuery.new { filter with outcome := none } false false = scopeQuery filter := by
  rcases filter with ⟨recent, since, opponent, stage, outcome⟩
  cases since <;> cases opponent <;> rfl

theorem arity_scopeQuery (filter : MatchHistoryFilter) :
    (scopeQuery filter).arity = (scopeQuery filter).params.length :=
  arity_conjunction (scopeBound filter)

/-- The scope selects the records that are in it. -/
theorem scopeQuery_rows (h : db.Stores records) (filter : MatchHistoryFilter) (rest : List Value) :
    (scopeQuery filter).filteredMatches db ((scopeQuery filter).params ++ rest) =
      (scopeList filter records).map matchHistoryRow := by
  have hrows := scopedRows_eq h filter rest
  show select [] db _ (limitTo _ (orderByDesc historyOrder (select _ db _ db.matchHistory))) = _
  exact Eq.trans (List.filter_eq_self.mpr fun _ _ => rfl) hrows

theorem scopeQuery_rows_self (h : db.Stores records) (filter : MatchHistoryFilter) :
    (scopeQuery filter).filteredMatches db (scopeQuery filter).params =
      (scopeList filter records).map matchHistoryRow := by
  have hrows := scopeQuery_rows h filter []
  rwa [List.append_nil] at hrows

theorem length_stageParams (stage : UInt8) :
    ([.integer stage.toNat] : List Value).length = stageIs.arity := rfl

/-- The conditions on a game with their values. -/
def stageBound (stage : Option UInt8) :
    List (Bound HistoryDatabase (MatchHistoryRow × StageResultRow)) :=
  stage.elim [] fun stage => [⟨stageIs, [.integer stage.toNat], length_stageParams stage⟩]

/-- A stored game is on the stage. -/
theorem stageIs_iff (mh : MatchHistoryRow) (game : MvlStageResult) (n : UInt8) :
    stageIs.holds db [.integer n.toNat] (mh, stageResultRow record game) =
      decide (game.stage = some n) := by
  have heq : ∀ m : UInt8, (m.toNat : Int) = n.toNat ↔ m = n := fun m => by
    rw [Int.natCast_inj, UInt8.toNat_inj]
  show ((game.stage.elim .null fun n => .integer n.toNat : Value).eq (.integer n.toNat)) = _
  cases game.stage with
  | none => rfl
  | some m => exact decide_eq_decide.mpr ((heq m).trans Option.some_inj.symm)

/-- The condition on the stage, where there is one. -/
theorem holds_stageBound (stage : Option UInt8) (mh : MatchHistoryRow) (game : MvlStageResult) :
    ((stageBound stage).all fun b => b.holds db (mh, stageResultRow record game)) =
      stage.all fun n => decide (game.stage = some n) := by
  cases stage with
  | none => rfl
  | some n => exact (Bool.and_true _).trans (stageIs_iff mh game n)

/-- A stored game is resolved and has a winner. -/
theorem decidedGame_iff (mh : MatchHistoryRow) (game : MvlStageResult) (params : List Value) :
    decidedGame.holds db params (mh, stageResultRow record game) =
      (game.resolved && (stageWinnerLabel record.role game.winner).isSome) := by
  show (decide ((if game.resolved then 1 else 0 : Int) = 1) && _) = _
  cases game.resolved <;> rfl

/-- The games that a query selects are those of the matches in scope. -/
theorem selectGames_eq (h : db.Projects records) (filter : MatchHistoryFilter)
    (bound : List (Bound HistoryDatabase (MatchHistoryRow × StageResultRow))) :
    selectGames (scopeQuery filter) (clauses bound) db
      ((scopeQuery filter).params ++ values bound) =
      (scopeList filter records).flatMap fun record =>
        (record.stages.map fun game => (matchHistoryRow record, stageResultRow record game)).filter
          fun row => bound.all fun b => b.holds db row := by
  have hselect := select_bound bound [] db ((scopeList filter records).flatMap fun record =>
    record.stages.map fun game => (matchHistoryRow record, stageResultRow record game))
  rw [List.append_nil] at hselect
  have hjoin : ((scopeList filter records).map matchHistoryRow).flatMap (fun mh =>
      (db.matchStageResults.filter fun sr => sr.matchId = mh.id).map fun sr => (mh, sr)) =
      (scopeList filter records).flatMap fun record =>
        record.stages.map fun game => (matchHistoryRow record, stageResultRow record game) := by
    rw [List.flatMap_map]
    refine List.flatMap_congr fun record hrecord => ?_
    show (db.matchStageResults.filter fun sr => sr.matchId = record.id).map _ = _
    rw [stageRows_eq h (mem_scopeList hrecord).1, List.map_map]
    rfl
  unfold selectGames
  rw [arity_scopeQuery, List.drop_left, scopeQuery_rows h.stores, hjoin, hselect,
    List.filter_flatMap]

/-- The games with a label among those selected are the games with that winner. -/
theorem countP_games (stage : Option UInt8) (label : Text) (winner : MatchHistoryRecord → Nat)
    (hlabel : ∀ record : MatchHistoryRecord, ∀ game : MvlStageResult,
      stageWinnerLabel record.role game.winner = some label ↔ game.winner = some (winner record))
    (rows : List MatchHistoryRecord) :
    (rows.flatMap fun record => (record.stages.map fun game =>
        (matchHistoryRow record, stageResultRow record game)).filter fun row =>
          (⟨decidedGame, [], rfl⟩ :: stageBound stage).all fun b => b.holds db row).countP
        (fun game => game.2.winner = some label) =
      (rows.map fun record => gamesOf stage record (winner record)).sum := by
  rw [List.countP_flatMap]
  congr 1
  refine List.map_congr_left fun record _ => ?_
  show List.countP _ (List.filter _ _) = _
  rw [List.countP_filter, List.countP_map]
  refine List.countP_congr fun game _ => ?_
  have hdecided : ((⟨decidedGame, [], rfl⟩ : Bound HistoryDatabase _).holds db
    (matchHistoryRow record, stageResultRow record game)) =
      (game.resolved && (stageWinnerLabel record.role game.winner).isSome) := decidedGame_iff _ _ _
  show (decide (stageWinnerLabel record.role game.winner = some label) &&
    List.all (_ :: stageBound stage) fun b =>
      b.holds db (matchHistoryRow record, stageResultRow record game)) = true ↔ _
  rw [List.all_cons, hdecided, holds_stageBound]
  by_cases hwinner : stageWinnerLabel record.role game.winner = some label
  · have hown : game.winner = some (winner record) := (hlabel record game).mp hwinner
    rw [decide_eq_true hwinner, decide_eq_true hown, hwinner]
    simp
  · have hown : ¬ game.winner = some (winner record) :=
      fun h => hwinner ((hlabel record game).mpr h)
    rw [decide_eq_false hwinner, decide_eq_false hown]
    simp

/-- The decided matches are those with an outcome. -/
theorem select_decided_eq (h : db.Stores records) (hsided : ∀ record ∈ records, Sided record)
    (filter : MatchHistoryFilter) :
    selectDecided (scopeQuery filter) db = (decidedList filter records).map matchHistoryRow := by
  have hdecided : ∀ record ∈ scopeList filter records, ∀ params,
      (conjunction [decidedMatch]).holds db params (matchHistoryRow record) =
        (matchOutcome record).isSome := by
    intro record hrecord params
    have hwinner := (matchWinner_iff (hsided record (mem_scopeList hrecord).1)).2.2
    show (decide (statusLabel record.status = statusLabel .completed) &&
      (MatchProjection.fromRecord record).matchWinner.isSome && true) = _
    rw [Bool.and_true, Bool.eq_iff_iff, Bool.and_eq_true, decide_eq_true_iff,
      statusLabel_inj, hwinner]
    refine and_iff_right_of_imp fun hsome => ?_
    unfold matchOutcome at hsome
    by_contra hcompleted
    rw [if_pos hcompleted] at hsome
    cases hsome
  have hselect : select [decidedMatch] db
    ((scopeQuery filter).params.drop (scopeQuery filter).arity)
      ((scopeList filter records).map matchHistoryRow) =
        (decidedList filter records).map matchHistoryRow := by
    unfold select decidedList
    rw [List.filter_map]
    congr 1
    exact List.filter_congr fun record hrecord => hdecided record hrecord _
  have hdescending : Descending historyOrder
      ((decidedList filter records).map matchHistoryRow) := by
    refine List.pairwise_map.mpr ?_
    exact ((descending_scope h.ids).limitTo _).filter _
  unfold selectDecided
  rw [scopeQuery_rows_self h, hselect, orderByDesc_of_descending hdescending]

/-! ## The streak -/

/-- A streak goes on as long as the outcome is the same. -/
theorem countStreak_some (first : Text) (streak : Nat) (outcomes : List Text) :
    countStreak (some first) streak outcomes =
      (some first, streak + (outcomes.takeWhile (· = first)).length) := by
  induction outcomes generalizing streak with
  | nil => rfl
  | cons outcome outcomes ih =>
    unfold countStreak
    by_cases heq : first = outcome
    · subst heq
      rw [if_neg (by simp), ih, List.takeWhile_cons_of_pos (by simp), List.length_cons]
      congr 1
      omega
    · rw [if_pos heq, List.takeWhile_cons_of_neg (by simpa using Ne.symm heq)]
      rfl

/-- The streak is the first run of one outcome. -/
theorem countStreak_eq (outcomes : List Text) :
    countStreak none 0 outcomes =
      (outcomes.head?, (outcomes.takeWhile fun outcome =>
        some outcome = outcomes.head?).length) := by
  cases outcomes with
  | nil => rfl
  | cons first outcomes =>
    show countStreak (some first) 1 outcomes = _
    rw [countStreak_some, List.head?_cons, List.takeWhile_cons_of_pos (by simp),
      List.length_cons, Nat.add_comm]
    simp only [Option.some_inj]

/-- The label of an outcome. -/
def outcomeLabel : MatchHistoryStreakKind → Text
  | .win => "local".toList
  | .loss => "opponent".toList

theorem outcomeLabel_inj {outcome outcome' : MatchHistoryStreakKind} :
    outcomeLabel outcome = outcomeLabel outcome' ↔ outcome = outcome' := by
  constructor
  · intro h
    cases outcome <;> cases outcome' <;> first | rfl | (revert h; decide +kernel)
  · rintro rfl
    rfl

/-- The stored winner is the outcome. -/
theorem matchWinner_eq (hsided : Sided record) :
    (MatchProjection.fromRecord record).matchWinner = (matchOutcome record).map outcomeLabel := by
  rcases matchWinner_iff hsided with ⟨hlocal, hopponent, hsome⟩
  cases houtcome : matchOutcome record with
  | none =>
    rw [houtcome] at hsome
    exact Option.not_isSome_iff_eq_none.mp fun h => nomatch hsome.mp h
  | some outcome =>
    cases outcome with
    | win => exact hlocal.mpr houtcome
    | loss => exact hopponent.mpr houtcome

/-- The outcomes of decided matches are read in their order. -/
theorem streak_labels {rows : List MatchHistoryRecord}
    (hdecided : ∀ record ∈ rows, (matchOutcome record).isSome)
    (first : Option MatchHistoryStreakKind) :
    (rows.filterMap fun record => (matchOutcome record).map outcomeLabel).head? =
        (rows.head?.bind matchOutcome).map outcomeLabel ∧
      ((rows.filterMap fun record => (matchOutcome record).map outcomeLabel).takeWhile fun label =>
        some label = first.map outcomeLabel).length =
          (rows.takeWhile fun record => matchOutcome record = first).length := by
  induction rows with
  | nil => exact ⟨rfl, rfl⟩
  | cons record rows ih =>
    rcases Option.isSome_iff_exists.mp (hdecided record List.mem_cons_self) with ⟨outcome, houtcome⟩
    have hlater := (ih fun record hrecord => hdecided record (List.mem_cons_of_mem _ hrecord)).2
    have hsame : some (outcomeLabel outcome) = first.map outcomeLabel ↔
        matchOutcome record = first := by
      rw [houtcome]
      cases first with
      | none => exact iff_of_false (fun h => nomatch h) (fun h => nomatch h)
      | some first =>
        rw [Option.map_some, Option.some_inj, Option.some_inj]
        exact outcomeLabel_inj
    have hcons : ((record :: rows).filterMap fun record => (matchOutcome record).map outcomeLabel) =
        outcomeLabel outcome :: rows.filterMap fun record =>
          (matchOutcome record).map outcomeLabel :=
      List.filterMap_cons_some (by rw [houtcome]; rfl)
    rw [hcons]
    refine ⟨?_, ?_⟩
    · rw [List.head?_cons, List.head?_cons, Option.bind_some, houtcome]
      rfl
    · by_cases heq : matchOutcome record = first
      · rw [List.takeWhile_cons_of_pos (by simpa using hsame.mpr heq),
          List.takeWhile_cons_of_pos (by simpa using heq), List.length_cons,
          List.length_cons, hlater]
      · rw [List.takeWhile_cons_of_neg (by simpa using fun h => heq (hsame.mp h)),
          List.takeWhile_cons_of_neg (by simpa using heq)]
        rfl

/-- The streak of the stored matches is that of the records. -/
theorem countStreak_decided (hsided : ∀ record ∈ records, Sided record)
    (filter : MatchHistoryFilter) :
    countStreak none 0
      (((decidedList filter records).map matchHistoryRow).filterMap (·.matchWinner)) =
      (((decidedList filter records).head?.bind matchOutcome).map outcomeLabel,
        ((decidedList filter records).takeWhile fun record =>
          matchOutcome record = (decidedList filter records).head?.bind matchOutcome).length) := by
  have hdecided : ∀ record ∈ decidedList filter records, (matchOutcome record).isSome :=
    fun record hrecord => (List.mem_filter.mp hrecord).2
  have houtcomes : ((decidedList filter records).map matchHistoryRow).filterMap (·.matchWinner) =
      (decidedList filter records).filterMap fun record =>
        (matchOutcome record).map outcomeLabel := by
    rw [List.filterMap_map]
    refine List.filterMap_congr fun record hrecord => ?_
    exact matchWinner_eq (hsided record (mem_scopeList (List.mem_filter.mp hrecord).1).1)
  have hlabels := streak_labels hdecided ((decidedList filter records).head?.bind matchOutcome)
  rw [countStreak_eq, houtcomes, hlabels.1, hlabels.2]

/-! ## The trend -/

/-- The ten elements up to a place of a reversed list. -/
theorem window_reverse {α : Type} (rows : List α) {i : Nat} (hi : i < rows.length) :
    (rows.reverse.take (rows.length - 1 - i + 1)).drop (rows.length - 1 - i - 9) =
      ((rows.drop i).take 10).reverse := by
  rw [List.take_reverse, show rows.length - (rows.length - 1 - i + 1) = i by omega,
    List.drop_reverse, List.length_drop]
  congr 1
  rw [List.take_eq_take_iff, List.length_drop]
  omega

/-- Of a reversed list, the last `n` elements are numbered and mapped; they are read from the
end. -/
theorem getElem?_numbered {α β : Type} (rows : List α) (f : α × Nat → β) {n i : Nat} (hn : i < n)
    (hi : i < rows.length) :
    ((rows.reverse.zipIdx.drop (rows.reverse.length - n)).map f).reverse[i]? =
      rows[i]?.map fun row => f (row, rows.length - 1 - i) := by
  have hplace : rows.length - n + (rows.length - (rows.length - n) - 1 - i) =
    rows.length - 1 - i := by omega
  have hback : rows.length - 1 - (rows.length - 1 - i) = i := by omega
  have hlength : ((rows.reverse.zipIdx.drop (rows.reverse.length - n)).map f).length =
      rows.length - (rows.length - n) := by
    rw [List.length_map, List.length_drop, List.length_zipIdx, List.length_reverse]
  rw [List.getElem?_reverse (by rw [hlength]; omega), hlength, List.getElem?_map,
    List.getElem?_drop, List.length_reverse,
    hplace, List.getElem?_zipIdx, List.getElem?_reverse (by omega), hback,
    Option.map_map, Nat.zero_add]
  rfl

theorem countP_matchWinner (rows : List MatchHistoryRecord) {label : Text}
    {outcome : MatchHistoryStreakKind} (hlabel : ∀ record ∈ rows,
      (MatchProjection.fromRecord record).matchWinner = some label ↔
        matchOutcome record = some outcome) :
    (rows.map matchHistoryRow).countP (fun row => row.matchWinner = some label) =
      rows.countP fun record => matchOutcome record = some outcome := by
  rw [List.countP_map]
  refine List.countP_congr fun record hrecord => ?_
  show decide ((MatchProjection.fromRecord record).matchWinner = some label) = true ↔ _
  rw [decide_eq_true_iff, hlabel record hrecord, decide_eq_true_iff]

/-- The trend has a point for each of the last 60 decided matches. -/
theorem loadTrend_eq (h : db.Stores records) (hsided : ∀ record ∈ records, Sided record)
    (filter : MatchHistoryFilter) :
    ∃ trend, loadTrend (scopeQuery filter) db = .ok trend ∧
    trend.length = min 60 (decidedList filter records).length ∧
      ∀ i record, i < 60 → (decidedList filter records)[i]? = some record →
        trend.reverse[i]? =
          some (trendPoint record (((decidedList filter records).drop i).take 10)) := by
  have hmem : ∀ record ∈ decidedList filter records, Sided record := fun record hrecord =>
    hsided record (mem_scopeList (List.mem_filter.mp hrecord).1).1
  have hdescending : Descending historyOrder ((decidedList filter records).map matchHistoryRow) :=
    List.pairwise_map.mpr (((descending_scope h.ids).limitTo _).filter _)
  generalize hrows : (decidedList filter records).map matchHistoryRow = rows at hdescending
  have hraw : orderByAsc historyOrder ((selectDecided (scopeQuery filter) db).take 69) =
      (rows.take 69).reverse := by
    rw [select_decided_eq h hsided, hrows]
    exact orderByAsc_of_descending (hdescending.sublist (List.take_sublist 69 rows))
  have hlength : rows.length = (decidedList filter records).length := by
    rw [← hrows, List.length_map]
  unfold loadTrend bindParams
  rw [if_pos (arity_scopeQuery filter).symm, hraw]
  refine ⟨_, rfl, ?_, fun i record hi hrecord => ?_⟩
  · rw [List.length_map, List.length_drop, List.length_zipIdx,
      List.length_reverse, List.length_take]
    omega
  · have hlt : i < (decidedList filter records).length := (List.getElem?_eq_some_iff.mp hrecord).1
    have hrow : (rows.take 69)[i]? = some (matchHistoryRow record) := by
      rw [List.getElem?_take_of_lt (by omega), ← hrows, List.getElem?_map, hrecord]
      rfl
    have hin : i < (rows.take 69).length := (List.getElem?_eq_some_iff.mp hrow).1
    have hwindow : ((rows.take 69).drop i).take 10 =
        (((decidedList filter records).drop i).take 10).map matchHistoryRow := by
      rw [List.drop_take, List.take_take, show min 10 (69 - i) = 10 by omega, ← hrows,
        ← List.map_drop, ← List.map_take]
    have hwon := (matchWinner_iff (hmem record (List.mem_of_getElem? hrecord))).1
    have hwins := countP_matchWinner
        (((decidedList filter records).drop i).take 10) fun record hrecord =>
          (matchWinner_iff (hmem record (List.mem_of_mem_drop (List.mem_of_mem_take hrecord)))).1
    rw [getElem?_numbered _ _ hi hin, hrow, Option.map_some]
    dsimp only
    rw [window_reverse _ hin, hwindow, List.countP_reverse, List.length_reverse,
      List.length_map, hwins]
    show some (MatchHistoryTrendPoint.mk record.id record.startedAt
      (MatchProjection.fromRecord record).opponentPlayerName
      (decide ((MatchProjection.fromRecord record).matchWinner = some "local".toList)) _) = _
    rw [decide_eq_decide.mpr hwon]
    rfl

/-! ## The sizes -/

/-- The number of games in the records. -/
def gamesStored (records : List MatchHistoryRecord) : Nat :=
  (records.map fun record => record.stages.length).sum

/-- A scope has no more than there is. -/
theorem sum_scopeList_le (f : MatchHistoryRecord → Nat) (filter : MatchHistoryFilter)
    (records : List MatchHistoryRecord) :
    ((scopeList filter records).map f).sum ≤ (records.map f).sum := by
  have hscope :
    ((orderByDesc historyKey (records.filter fun record => InScope filter record)).map f).sum ≤
      (records.map f).sum := by
    rw [((perm_orderByDesc _).map f).sum_eq]
    exact (List.filter_sublist.map f).sum_le_sum fun _ _ => Nat.zero_le _
  refine le_trans ?_ hscope
  unfold scopeList
  cases recentLimit filter.recentMatches with
  | none => exact le_refl _
  | some n => exact ((List.take_sublist n _).map f).sum_le_sum fun _ _ => Nat.zero_le _

theorem length_scopeList_le (hplayed : ∀ record ∈ records, hasPlayedResult record = true)
    (filter : MatchHistoryFilter) :
    (scopeList filter records).length ≤ gamesStored records := by
  have hone : ∀ n ∈ (scopeList filter records).map fun record => record.stages.length, 1 ≤ n := by
    intro n hn
    rcases List.mem_map.mp hn with ⟨record, hrecord, rfl⟩
    rcases List.any_eq_true.mp (hplayed record (mem_scopeList hrecord).1) with ⟨stage, hstage, -⟩
    exact List.length_pos_of_mem hstage
  have hlength := List.length_le_sum_of_one_le _ hone
  rw [List.length_map] at hlength
  exact hlength.trans (sum_scopeList_le _ filter records)

/-- No query finds more games than are stored. -/
theorem length_selectGames_le (h : db.Projects records) (filter : MatchHistoryFilter)
    (bound : List (Bound HistoryDatabase (MatchHistoryRow × StageResultRow))) :
    (selectGames (scopeQuery filter) (clauses bound) db
      ((scopeQuery filter).params ++ values bound)).length ≤
      gamesStored records := by
  rw [selectGames_eq h, List.length_flatMap]
  refine le_trans (List.sum_le_sum fun record _ => ?_)
    (sum_scopeList_le (fun record => record.stages.length) filter records)
  exact (List.length_filter_le _ _).trans_eq (List.length_map _)

theorem readU32_of_le {count : Nat} (h : count ≤ gamesStored records)
    (hsize : gamesStored records < 2 ^ 32) :
    readU32 count = .ok count := if_pos (h.trans_lt hsize)

/-- Games are counted without an overflow. -/
theorem countGames_of_le {games : List (MatchHistoryRow × StageResultRow)}
    (h : games.length ≤ gamesStored records) (hsize : gamesStored records < 2 ^ 32) :
    countGames games = .ok (games.countP fun game => game.2.winner = some "local".toList,
      games.countP fun game => game.2.winner = some "opponent".toList) := by
  unfold countGames
  rw [readU32_of_le (List.countP_le_length.trans h) hsize,
    readU32_of_le (List.countP_le_length.trans h) hsize]
  rfl

/-- The text of the condition on the stage has as many values as places. -/
theorem stageClause_eq (params : List Value) (stage : Option UInt8) :
    stageClause params stage =
      (clauses (stageBound stage), params ++ values (stageBound stage)) := by
  cases stage with
  | none => exact congrArg (Prod.mk []) (List.append_nil params).symm
  | some stage => rfl

theorem bindParams_scope (filter : MatchHistoryFilter)
    (bound : List (Bound HistoryDatabase (MatchHistoryRow × StageResultRow))) :
    bindParams ((scopeQuery filter).arity + (conjunction (clauses bound)).arity)
      ((scopeQuery filter).params ++ values bound) = .ok () := by
  unfold bindParams
  rw [arity_scopeQuery, arity_conjunction, List.length_append, if_pos rfl]

/-- Nothing fails where no part does. -/
theorem exists_mapM_ok {α β ε : Type} {f : α → Except ε β} (l : List α)
    (h : ∀ a ∈ l, ∃ b, f a = .ok b) :
    ∃ bs, l.mapM f = .ok bs := by
  induction l with
  | nil => exact ⟨[], rfl⟩
  | cons a l ih =>
    rcases h a List.mem_cons_self with ⟨b, hb⟩
    rcases ih fun a ha => h a (List.mem_cons_of_mem _ ha) with ⟨bs, hbs⟩
    refine ⟨b :: bs, ?_⟩
    rw [List.mapM_cons, hb, hbs]
    rfl

/-- The statistics of the stages are computed without an error. -/
theorem exists_loadStageStatistics (h : db.Projects records) (filter : MatchHistoryFilter)
    (stage : Option UInt8) (hsize : gamesStored records < 2 ^ 32) :
    ∃ stages, loadStageStatistics (scopeQuery filter) db stage = .ok stages := by
  have hlength := length_selectGames_le h filter
    (⟨decidedGame, [], rfl⟩ :: ⟨stageKnown, [], rfl⟩ :: stageBound stage)
  simp only [clauses_cons, values_cons, List.nil_append] at hlength
  unfold loadStageStatistics
  rw [stageClause_eq]
  dsimp only
  rw [bindParams_scope]
  refine exists_mapM_ok _ fun n _ => ?_
  have hgames := countGames_of_le
    ((List.length_filter_le (fun game => decide (game.2.stage = some n)) _).trans hlength) hsize
  rw [hgames]
  exact ⟨_, rfl⟩

/-! ## The dashboard -/

/-- The dashboard of records with sides shows their figures. -/
theorem exists_dashboard (h : db.Projects records) (hsided : ∀ record ∈ records, Sided record)
    (hplayed : ∀ record ∈ records, hasPlayedResult record = true)
    (hsize : gamesStored records < 2 ^ 32)
    (filter : MatchHistoryFilter) : ∃ dashboard, historyDashboard db filter = .ok dashboard ∧
      dashboard.Agrees filter records := by
  have hmem : ∀ record ∈ scopeList filter records, Sided record := fun record hrecord =>
    hsided record (mem_scopeList hrecord).1
  have hscope := length_scopeList_le hplayed filter
  have hcount : ∀ p : MatchHistoryRow → Bool,
      readU32 (((scopeList filter records).map matchHistoryRow).countP p) =
        .ok (((scopeList filter records).map matchHistoryRow).countP p) := fun p =>
    readU32_of_le (List.countP_le_length.trans ((List.length_map _).le.trans hscope)) hsize
  have hgames := countGames_of_le
    (length_selectGames_le h filter (⟨decidedGame, [], rfl⟩ :: stageBound filter.stage)) hsize
  rcases loadTrend_eq h.stores hsided filter with ⟨trend, htrend, hlength, hpoints⟩
  rcases exists_loadStageStatistics h filter filter.stage hsize with ⟨stages, hstages⟩
  have hselected := selectGames_eq h filter (⟨decidedGame, [], rfl⟩ :: stageBound filter.stage)
  have hbind : bindParams (scopeQuery filter).arity (scopeQuery filter).params = .ok () :=
    if_pos (arity_scopeQuery filter).symm
  rw [hselected, countP_games filter.stage _ localId fun record game =>
    (winner_label_iff record game).1,
    countP_games filter.stage _ (fun record => 1 - localId record) fun record game =>
      (winner_label_iff record game).2,
    ← hselected] at hgames
  simp only [clauses_cons, values_cons, List.nil_append] at hgames
  unfold historyDashboard
  dsimp only
  rw [new_scope_eq, stageClause_eq, scopeQuery_rows_self h.stores, hcount, hcount, hcount]
  dsimp only
  rw [hbind, bindParams_scope, hgames, htrend, hstages, select_decided_eq h.stores hsided,
    countStreak_decided hsided]
  refine ⟨_, rfl, ?_, ?_, ?_, rfl, rfl, rfl, ?_, hlength, hpoints⟩
  · exact countP_matchWinner _ fun record hrecord => (matchWinner_iff (hmem record hrecord)).1
  · exact countP_matchWinner _ fun record hrecord => (matchWinner_iff (hmem record hrecord)).2.1
  · show List.countP _ (List.map _ _) = _
    rw [List.countP_map]
    refine List.countP_congr fun record _ => ?_
    show decide (statusLabel record.status = statusLabel .stopped) = true ↔ _
    rw [decide_eq_true_iff, decide_eq_true_iff, statusLabel_inj]
  · cases (decidedList filter records).head?.bind matchOutcome with
    | none => rfl
    | some outcome => cases outcome <;> rfl

/-- While every written record has its resolved games won by Mario, by Luigi or by nobody, the
columns of every stored match agree with its rows, and the dashboard of every filter shows the
figures of the stored records, as long as their games can be counted. -/
theorem dashboard_agrees {changes : List HistoryChange}
    (hsided : ∀ change ∈ changes, ∀ record ∈ change.written, Sided record) :
    ∃ records, (changes.foldl HistoryChange.apply ⟨[], []⟩).Projects records ∧
      (∀ mh ∈ (changes.foldl HistoryChange.apply ⟨[], []⟩).matchHistory,
        mh.Agrees (changes.foldl HistoryChange.apply ⟨[], []⟩)) ∧
      (gamesStored records < 2 ^ 32 → ∀ filter, ∃ dashboard,
        historyDashboard (changes.foldl HistoryChange.apply ⟨[], []⟩) filter = .ok dashboard ∧
          dashboard.Agrees filter records) := by
  have hwritten : ∀ change ∈ changes, ∀ record ∈ change.written, Sided record ∧
      hasPlayedResult record = true :=
    fun change hchange record hrecord =>
      ⟨hsided change hchange record hrecord, hasPlayedResult_written change record hrecord⟩
  rcases projectsOnly_changes hwritten with ⟨records, hprojects, hall⟩
  refine ⟨records, hprojects, fun mh hmh => ?_, fun hsize filter => ?_⟩
  · rw [hprojects.matchHistory] at hmh
    rcases List.mem_map.mp hmh with ⟨record, hrecord, rfl⟩
    exact columns_agree hprojects hrecord (hall record hrecord).1
  · exact exists_dashboard hprojects (fun record hrecord => (hall record hrecord).1)
      (fun record hrecord => (hall record hrecord).2) hsize filter

/-- A match that the opponent wins by two games to one. -/
def lostMatch : MatchHistoryRecord :=
  { numberedMatch 1 with
    stages := [{ marioWins with winner := some 1 }, { marioWins with gameIndex := 1 },
      { marioWins with gameIndex := 2, winner := some 1 }] }

/-- Three matches, of which the last one is removed. -/
def twoMatches : List HistoryChange :=
  [.upsert (numberedMatch 0), .upsert lostMatch, .upsert (numberedMatch 2), .delete "aa".toList]

/-- One of the two matches that are left has been lost. -/
theorem two_matches_agree :
    (twoMatches.foldl HistoryChange.apply ⟨[], []⟩).matchHistory.map (·.opponentWins) = [0, 2] ∧
      ∃ records, (twoMatches.foldl HistoryChange.apply ⟨[], []⟩).Projects records ∧
        (∀ mh ∈ (twoMatches.foldl HistoryChange.apply ⟨[], []⟩).matchHistory,
          mh.Agrees (twoMatches.foldl HistoryChange.apply ⟨[], []⟩)) ∧
        (gamesStored records < 2 ^ 32 → ∀ filter, ∃ dashboard,
          historyDashboard (twoMatches.foldl HistoryChange.apply ⟨[], []⟩) filter = .ok dashboard ∧
            dashboard.Agrees filter records) := by
  have hnumbered : ∀ i, Sided (numberedMatch i) := by
    intro i stage hstage _ winner hwinner
    rcases List.mem_singleton.mp hstage with rfl
    exact Or.inl (Option.some.inj hwinner).symm
  have hlost : Sided lostMatch := by
    intro stage hstage _ winner hwinner
    simp only [lostMatch, List.mem_cons, List.not_mem_nil, or_false] at hstage
    rcases hstage with rfl | rfl | rfl
    · exact Or.inr (Option.some.inj hwinner).symm
    · exact Or.inl (Option.some.inj hwinner).symm
    · exact Or.inr (Option.some.inj hwinner).symm
  refine ⟨by decide +kernel, dashboard_agrees fun change hchange record hrecord => ?_⟩
  simp only [twoMatches, List.mem_cons, List.not_mem_nil, or_false] at hchange
  rcases hchange with rfl | rfl | rfl | rfl
  · rcases List.mem_singleton.mp (List.mem_filter.mp hrecord).1 with rfl
    exact hnumbered 0
  · rcases List.mem_singleton.mp (List.mem_filter.mp hrecord).1 with rfl
    exact hlost
  · rcases List.mem_singleton.mp (List.mem_filter.mp hrecord).1 with rfl
    exact hnumbered 2
  · cases hrecord

/-! ## A winner with another number -/

/-- A match of one game won by Mario and one game with a winner that is neither player. -/
def strayMatch : MatchHistoryRecord :=
  { numberedMatch 0 with
    stages := [marioWins, { marioWins with gameIndex := 1, winner := some 2 }] }

/-- The stray game counts as a win of the opponent, though no row says so, and the match has no
winner. -/
theorem stray_counts_for_opponent :
    ∃ mh ∈ ([HistoryChange.upsert strayMatch].foldl HistoryChange.apply ⟨[], []⟩).matchHistory,
      mh.opponentWins = 1 ∧
        labelled ([HistoryChange.upsert strayMatch].foldl HistoryChange.apply ⟨[], []⟩) mh
          "opponent".toList = 0 ∧
        ¬ mh.Agrees ([HistoryChange.upsert strayMatch].foldl HistoryChange.apply ⟨[], []⟩) := by
  have hrow : ([HistoryChange.upsert strayMatch].foldl HistoryChange.apply ⟨[], []⟩).matchHistory =
      [matchHistoryRow strayMatch] := rfl
  have hwins : (matchHistoryRow strayMatch).opponentWins = 1 := rfl
  have hlabelled : labelled ([HistoryChange.upsert strayMatch].foldl HistoryChange.apply ⟨[], []⟩)
      (matchHistoryRow strayMatch) "opponent".toList = 0 := by decide +kernel
  refine ⟨matchHistoryRow strayMatch, ?_, hwins, hlabelled, fun hagrees => ?_⟩
  · rw [hrow]
    exact List.mem_cons_self
  · have hopponent := hagrees.opponentWins
    rw [hwins, hlabelled] at hopponent
    cases hopponent

end Bigstar.Launcher
