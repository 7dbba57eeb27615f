import Bigstar.Launcher.Proofs.HistoryStoreProofs

/-!
# The pages of the match history

Following the cursors from page to page visits every match of the filtered history once, the latest
first. The history of a filter is described on the records alone: the most recent of the matches
with a decided game, the time and the opponent asked for, and of those the ones with the outcome and
the stage asked for.
-/

namespace Bigstar.Launcher

open CText Sql

/-! ## The history of a filter -/

/-- The matches come in the order of their start, and those that start together in the order of
their ids. -/
def historyKey (record : MatchHistoryRecord) : Text ×ₗ Text := toLex (record.startedAt, record.id)

/-- What every query asks of a record, before outcome and stage. -/
def InScope (filter : MatchHistoryFilter) (record : MatchHistoryRecord) : Prop :=
  hasPlayedResult record = true ∧ (∀ since ∈ filter.sinceStartedAt, since ≤ record.startedAt) ∧
    ∀ opponentId ∈ filter.opponentPlayerId,
      (MatchProjection.fromRecord record).opponentPlayerId = some opponentId

/-- The outcome is the one that is asked for. -/
def PassesOutcome (filter : MatchHistoryFilter) (record : MatchHistoryRecord) : Prop :=
  match filter.outcome with
  | none => True
  | some .completed => record.status = .completed
  | some .win => record.status = .completed ∧
      (MatchProjection.fromRecord record).opponentWins <
        (MatchProjection.fromRecord record).localWins
  | some .loss => record.status = .completed ∧
      (MatchProjection.fromRecord record).localWins <
        (MatchProjection.fromRecord record).opponentWins
  | some .stopped => record.status = .stopped

/-- A resolved game was played on the stage that is asked for. -/
def PassesStage (filter : MatchHistoryFilter) (record : MatchHistoryRecord) : Prop :=
  ∀ n ∈ filter.stage, ∃ stage ∈ record.stages, stage.resolved = true ∧ stage.stage = some n

instance (filter : MatchHistoryFilter) (record : MatchHistoryRecord) :
    Decidable (InScope filter record) :=
  inferInstanceAs (Decidable (_ ∧ _ ∧ _))

instance (filter : MatchHistoryFilter) (record : MatchHistoryRecord) :
    Decidable (PassesOutcome filter record) :=
  match h : filter.outcome with
  | none => isTrue (by unfold PassesOutcome; rw [h]; trivial)
  | some .completed =>
    decidable_of_iff (record.status = .completed) (by unfold PassesOutcome; rw [h])
  | some .win => decidable_of_iff (record.status = .completed ∧
      (MatchProjection.fromRecord record).opponentWins <
        (MatchProjection.fromRecord record).localWins)
      (by unfold PassesOutcome; rw [h])
  | some .loss => decidable_of_iff (record.status = .completed ∧
      (MatchProjection.fromRecord record).localWins <
        (MatchProjection.fromRecord record).opponentWins)
      (by unfold PassesOutcome; rw [h])
  | some .stopped => decidable_of_iff (record.status = .stopped) (by unfold PassesOutcome; rw [h])

instance (filter : MatchHistoryFilter) (record : MatchHistoryRecord) :
    Decidable (PassesStage filter record) :=
  inferInstanceAs (Decidable (∀ n ∈ filter.stage, _))

/-- Fewer than `n` of the matches in scope come after this one. -/
def AmongMostRecent (filter : MatchHistoryFilter) (records : List MatchHistoryRecord) (n : Nat)
    (record : MatchHistoryRecord) : Prop :=
  (records.filter fun other => InScope filter other ∧ historyKey record < historyKey other).length <
    n

/-- The matches of a filter, where only the `recent` latest matches in scope are asked for. -/
def InHistory (recent : Option Nat) (filter : MatchHistoryFilter)
    (records : List MatchHistoryRecord) (record : MatchHistoryRecord) : Prop :=
  InScope filter record ∧ (∀ n ∈ recent, AmongMostRecent filter records n record) ∧
    PassesOutcome filter record ∧ PassesStage filter record

/-- The number of matches that a recent count stands for: zero is no limit, and more than ten
thousand are ten thousand. -/
def recentLimit (recentMatches : Option Nat) : Option Nat :=
  (recentMatches.filter (0 < ·)).map fun value => min value 10000

/-- The matches in scope that are asked for, the latest first. -/
def scopeList (filter : MatchHistoryFilter) (records : List MatchHistoryRecord) :
    List MatchHistoryRecord :=
  limitTo (recentLimit filter.recentMatches)
    (orderByDesc historyKey (records.filter fun record => InScope filter record))

/-- The matches of a filter in the order of the pages. -/
def historyList (filter : MatchHistoryFilter) (records : List MatchHistoryRecord) :
    List MatchHistoryRecord :=
  (limitTo (recentLimit filter.recentMatches)
    (orderByDesc historyKey (records.filter fun record => InScope filter record))).filter
      fun record => PassesOutcome filter record ∧ PassesStage filter record

variable {db : HistoryDatabase} {records : List MatchHistoryRecord} {record : MatchHistoryRecord}
variable {filter : MatchHistoryFilter}

theorem nodup_historyKey (h : (records.map (·.id)).Nodup) : (records.map historyKey).Nodup := by
  refine List.Nodup.of_map (fun key : Text ×ₗ Text => (ofLex key).2) ?_
  rw [List.map_map]
  exact h

theorem descending_scope (h : (records.map (·.id)).Nodup) :
    Descending historyKey (orderByDesc historyKey
      (records.filter fun record => InScope filter record)) :=
  descending_orderByDesc ((nodup_historyKey h).sublist (List.filter_sublist.map _))

/-- The history is in order. -/
theorem descending_historyList (h : (records.map (·.id)).Nodup) :
    Descending historyKey (historyList filter records) := ((descending_scope h).limitTo _).filter _

/-- What is in the history. -/
theorem mem_historyList (h : (records.map (·.id)).Nodup) :
    record ∈ historyList filter records ↔
      record ∈ records ∧ InHistory (recentLimit filter.recentMatches) filter records record := by
  have hscope : ∀ other, other ∈ orderByDesc historyKey
    (records.filter fun record => InScope filter record) ↔
      other ∈ records ∧ InScope filter other := by
    intro other
    rw [(perm_orderByDesc _).mem_iff, List.mem_filter, decide_eq_true_iff]
  have hlimit : record ∈ limitTo (recentLimit filter.recentMatches)
      (orderByDesc historyKey (records.filter fun record => InScope filter record)) ↔
      (record ∈ records ∧ InScope filter record) ∧
        ∀ n ∈ recentLimit filter.recentMatches, AmongMostRecent filter records n record := by
    cases recentLimit filter.recentMatches with
    | none => simpa [limitTo] using hscope record
    | some n =>
      have hcount :
        ((orderByDesc historyKey (records.filter fun record => InScope filter record)).filter
          fun other => historyKey record < historyKey other).length =
          (records.filter fun other => InScope filter other ∧
            historyKey record < historyKey other).length := by
        rw [((perm_orderByDesc _).filter _).length_eq, List.filter_filter]
        congr 1
        refine List.filter_congr fun other _ => ?_
        rw [Bool.decide_and, Bool.and_comm]
      show record ∈ List.take n _ ↔ _
      rw [mem_take_iff (descending_scope h), hscope, hcount]
      simp [AmongMostRecent]
  unfold historyList InHistory
  rw [List.mem_filter, hlimit, decide_eq_true_iff]
  tauto

/-! ## The clauses -/

/-- The conditions of `scoped_matches` with their values. -/
def scopeBound (filter : MatchHistoryFilter) : List (Bound HistoryDatabase MatchHistoryRow) :=
  ⟨playedStage, [], rfl⟩ ::
    (filter.sinceStartedAt.elim [] (fun since => [⟨startedAtFrom, [.text since], rfl⟩]) ++
      filter.opponentPlayerId.elim [] fun opponentId => [⟨opponentIs, [.text opponentId], rfl⟩])

/-- The conditions on the outcome. -/
def outcomeBound : Option MatchHistoryOutcome → List (Bound HistoryDatabase MatchHistoryRow)
  | some .completed => [⟨statusIs "completed".toList, [], rfl⟩]
  | some .win => [⟨matchWinnerIs "local".toList, [], rfl⟩]
  | some .loss => [⟨matchWinnerIs "opponent".toList, [], rfl⟩]
  | some .stopped => [⟨statusIs "stopped".toList, [], rfl⟩]
  | none => []

/-- The conditions of `filtered_matches` with their values. -/
def filteredBound (filter : MatchHistoryFilter) : List (Bound HistoryDatabase MatchHistoryRow) :=
  outcomeBound filter.outcome ++ filter.stage.elim [] fun stage =>
    [⟨filterStage, [.integer stage.toNat], rfl⟩]

/-- The values are collected in the order of the question marks. -/
theorem new_eq (filter : MatchHistoryFilter) :
    ScopedMatchesQuery.new filter true true =
      { scopeConditions := clauses (scopeBound filter)
        limit := recentLimit filter.recentMatches
        filteredConditions := clauses (filteredBound filter)
        params := values (scopeBound filter) ++ values (filteredBound filter) } := by
  obtain ⟨recent, since, opponent, stage, outcome⟩ := filter
  cases since <;> cases opponent <;> cases stage <;> obtain _ | (_ | _ | _ | _) := outcome <;> rfl

theorem arity_new (filter : MatchHistoryFilter) :
    (ScopedMatchesQuery.new filter true true).arity =
      (ScopedMatchesQuery.new filter true true).params.length := by
  rw [new_eq]
  show (conjunction _).arity + (conjunction _).arity = (_ ++ _ : List Value).length
  rw [arity_conjunction, arity_conjunction, List.length_append]

/-- A game has a winner that is one of the two players. -/
theorem winner_isSome_iff {role : Role} {winner : Option Nat} :
    (stageWinnerLabel role winner).isSome ↔ winner = some 0 ∨ winner = some 1 := by
  obtain _ | _ | _ | n := winner <;> cases role <;> simp [stageWinnerLabel]

/-- A stored game is a game of the record. -/
theorem Stores.any_stage_iff (h : db.Stores records) (hrecord : record ∈ records)
    (p : StageResultRow → Bool) :
    (db.matchStageResults.any fun stage => decide (stage.matchId = record.id) && p stage) = true ↔
      ∃ stage ∈ record.stages, p (stageResultRow record stage) = true := by
  rw [List.any_eq_true]
  constructor
  · rintro ⟨row, hrow, hboth⟩
    obtain ⟨other, hother, stage, hstage, rfl⟩ := (h.matchStageResults row).mp hrow
    obtain ⟨hid, hp⟩ := (Bool.and_eq_true _ _).mp hboth
    obtain rfl : other = record := h.eq_of_id hother hrecord (of_decide_eq_true hid)
    exact ⟨stage, hstage, hp⟩
  · rintro ⟨stage, hstage, hp⟩
    refine ⟨stageResultRow record stage,
      (h.matchStageResults _).mpr ⟨record, hrecord, stage, hstage, rfl⟩, ?_⟩
    rw [hp, Bool.and_true]
    exact decide_eq_true rfl

/-- A game of the match was played to its end. -/
theorem playedStage_iff (h : db.Stores records) (hrecord : record ∈ records) (params : List Value) :
    playedStage.holds db params (matchHistoryRow record) = true ↔
      hasPlayedResult record = true := by
  have hany := Stores.any_stage_iff h hrecord fun stage =>
    decide (stage.resolved = 1) && stage.winner.isSome
  have hshape : playedStage.holds db params (matchHistoryRow record) =
      db.matchStageResults.any fun stage =>
        decide (stage.matchId = record.id) &&
        (decide (stage.resolved = 1) && stage.winner.isSome) := by
    show (db.matchStageResults.any fun stage => _) = _
    simp only [Bool.and_assoc]
    rfl
  rw [hshape, hany]
  unfold hasPlayedResult
  rw [List.any_eq_true]
  refine exists_congr fun stage => and_congr_right fun _ => ?_
  cases hresolved : stage.resolved <;> simp [stageResultRow, hresolved, winner_isSome_iff]

/-- One of them was on the stage. -/
theorem filterStage_iff (h : db.Stores records) (hrecord : record ∈ records) (n : UInt8) :
    filterStage.holds db [.integer n.toNat] (matchHistoryRow record) = true ↔
      ∃ stage ∈ record.stages, stage.resolved = true ∧ stage.stage = some n := by
  have hany := Stores.any_stage_iff h hrecord fun stage =>
    (stage.stage.elim .null fun n => .integer n.toNat : Value).eq (.integer n.toNat) &&
      decide (stage.resolved = 1)
  have hshape : filterStage.holds db [.integer n.toNat] (matchHistoryRow record) =
      db.matchStageResults.any fun stage => decide (stage.matchId = record.id) &&
        ((stage.stage.elim .null fun n => .integer n.toNat : Value).eq (.integer n.toNat) &&
          decide (stage.resolved = 1)) := by
    show (db.matchStageResults.any fun stage => _) = _
    simp only [Bool.and_assoc]
    rfl
  rw [hshape, hany]
  refine exists_congr fun stage => and_congr_right fun _ => ?_
  have heq : ∀ m : UInt8, (m.toNat : Int) = n.toNat ↔ m = n := fun m => by
    rw [Int.natCast_inj, UInt8.toNat_inj]
  have hstage : ((stage.stage.elim .null fun n => .integer n.toNat : Value).eq (.integer n.toNat)) =
      decide (stage.stage = some n) := by
    cases stage.stage with
    | none => rfl
    | some m => exact decide_eq_decide.mpr ((heq m).trans Option.some_inj.symm)
  show ((stage.stage.elim .null fun n => .integer n.toNat : Value).eq (.integer n.toNat) &&
    decide ((if stage.resolved then 1 else 0 : Int) = 1)) = true ↔ _
  rw [hstage]
  cases stage.resolved <;> simp

theorem startedAtFrom_iff (since : Text) :
    startedAtFrom.holds db [.text since] (matchHistoryRow record) = true ↔
      since ≤ record.startedAt := by
  show (decide (since < record.startedAt) || decide (record.startedAt = since)) = true ↔ _
  rw [Bool.or_eq_true, decide_eq_true_iff, decide_eq_true_iff, le_iff_lt_or_eq, eq_comm]

theorem opponentIs_iff (opponentId : Text) :
    opponentIs.holds db [.text opponentId] (matchHistoryRow record) = true ↔
      (MatchProjection.fromRecord record).opponentPlayerId = some opponentId := by
  show ((MatchProjection.fromRecord record).opponentPlayerId.elim Value.null .text).eq
    (.text opponentId) = true ↔ _
  cases (MatchProjection.fromRecord record).opponentPlayerId <;> simp [Value.eq]

/-- The conditions of the scope mean what they should. -/
theorem holds_scopeBound (h : db.Stores records) (hrecord : record ∈ records) :
    ((scopeBound filter).all fun b => b.holds db (matchHistoryRow record)) =
      decide (InScope filter record) := by
  have hplayed := playedStage_iff h hrecord []
  have hsince : ∀ since, startedAtFrom.holds db [.text since] (matchHistoryRow record) = true ↔
      since ≤ record.startedAt := startedAtFrom_iff
  have hopponent : ∀ opponentId, opponentIs.holds db [.text opponentId]
    (matchHistoryRow record) = true ↔
      (MatchProjection.fromRecord record).opponentPlayerId = some opponentId := opponentIs_iff
  rw [Bool.eq_iff_iff, decide_eq_true_iff]
  unfold scopeBound InScope
  cases filter.sinceStartedAt <;> cases filter.opponentPlayerId <;>
    simp [Bound.holds, hplayed, hsince, hopponent]

/-- Only a completed match has a winner. -/
theorem matchWinner_fromRecord (record : MatchHistoryRecord) :
    (MatchProjection.fromRecord record).matchWinner =
      if record.status = .completed then
        winnerFromCounts (MatchProjection.fromRecord record).localWins
          (MatchProjection.fromRecord record).opponentWins
      else none := rfl

theorem winnerFromCounts_eq_local {localWins opponentWins : Nat} :
    winnerFromCounts localWins opponentWins = some "local".toList ↔ opponentWins < localWins := by
  unfold winnerFromCounts
  by_cases hlocal : opponentWins < localWins
  · simp [hlocal]
  · by_cases hopponent : localWins < opponentWins
    · simp [hlocal, hopponent]
    · simp [hlocal, hopponent]

theorem winnerFromCounts_eq_opponent {localWins opponentWins : Nat} :
    winnerFromCounts localWins opponentWins = some "opponent".toList ↔
      localWins < opponentWins := by
  unfold winnerFromCounts
  by_cases hlocal : opponentWins < localWins
  · simp [hlocal, hlocal.not_gt]
  · by_cases hopponent : localWins < opponentWins
    · simp [hlocal, hopponent]
    · simp [hlocal, hopponent]

theorem statusLabel_inj {status status' : MatchHistoryStatus} :
    statusLabel status = statusLabel status' ↔ status = status' := by
  constructor
  · intro h
    cases status <;> cases status' <;> first | rfl | (revert h; decide +kernel)
  · rintro rfl
    rfl

/-- So do the conditions on the outcome, -/
theorem holds_outcomeBound (db : HistoryDatabase) (record : MatchHistoryRecord) :
    ((outcomeBound filter.outcome).all fun b => b.holds db (matchHistoryRow record)) =
      decide (PassesOutcome filter record) := by
  have hwinner := matchWinner_fromRecord record
  rw [Bool.eq_iff_iff, decide_eq_true_iff]
  unfold PassesOutcome
  obtain houtcome | ⟨outcome, houtcome⟩ := Option.eq_none_or_eq_some filter.outcome
  · rw [houtcome]
    exact iff_of_true rfl trivial
  · rw [houtcome]
    cases outcome with
    | completed =>
      show (decide (statusLabel record.status = statusLabel .completed) && true) = true ↔ _
      rw [Bool.and_true, decide_eq_true_iff, statusLabel_inj]
    | stopped =>
      show (decide (statusLabel record.status = statusLabel .stopped) && true) = true ↔ _
      rw [Bool.and_true, decide_eq_true_iff, statusLabel_inj]
    | win =>
      show (decide ((MatchProjection.fromRecord record).matchWinner = some "local".toList) &&
        true) = true ↔ _
      rw [Bool.and_true, decide_eq_true_iff, hwinner]
      by_cases hstatus : record.status = .completed
      · rw [if_pos hstatus, winnerFromCounts_eq_local]
        exact (and_iff_right hstatus).symm
      · rw [if_neg hstatus]
        exact iff_of_false (fun h => nomatch h) fun h => hstatus h.1
    | loss =>
      show (decide ((MatchProjection.fromRecord record).matchWinner = some "opponent".toList) &&
        true) = true ↔ _
      rw [Bool.and_true, decide_eq_true_iff, hwinner]
      by_cases hstatus : record.status = .completed
      · rw [if_pos hstatus, winnerFromCounts_eq_opponent]
        exact (and_iff_right hstatus).symm
      · rw [if_neg hstatus]
        exact iff_of_false (fun h => nomatch h) fun h => hstatus h.1

/-- and all conditions together. -/
theorem holds_filteredBound (h : db.Stores records) (hrecord : record ∈ records) :
    ((filteredBound filter).all fun b => b.holds db (matchHistoryRow record)) =
      decide (PassesOutcome filter record ∧ PassesStage filter record) := by
  have hstage : ((filter.stage.elim [] fun stage =>
      [(⟨filterStage, [.integer stage.toNat], rfl⟩ : Bound HistoryDatabase MatchHistoryRow)]).all
        fun b => b.holds db (matchHistoryRow record)) = decide (PassesStage filter record) := by
    rw [Bool.eq_iff_iff, decide_eq_true_iff]
    unfold PassesStage
    cases filter.stage with
    | none => simp
    | some n =>
      show (filterStage.holds db [.integer n.toNat] (matchHistoryRow record) && true) = true ↔ _
      rw [Bool.and_true, filterStage_iff h hrecord]
      simp
  unfold filteredBound
  rw [List.all_append, holds_outcomeBound, hstage, ← Bool.decide_and]

/-! ## The rows -/

theorem mem_scopeList (hrecord : record ∈ scopeList filter records) :
    record ∈ records ∧ InScope filter record := by
  have hmem : record ∈ orderByDesc historyKey
      (records.filter fun record => InScope filter record) := by
    unfold scopeList at hrecord
    cases hrecent : recentLimit filter.recentMatches with
    | none => simpa [limitTo, hrecent] using hrecord
    | some n =>
      rw [hrecent] at hrecord
      exact List.mem_of_mem_take hrecord
  rcases List.mem_filter.mp ((perm_orderByDesc _).mem_iff.mp hmem) with ⟨hmem, hscope⟩
  exact ⟨hmem, of_decide_eq_true hscope⟩

/-- The rows of `scoped_matches` are those of the matches in scope. -/
theorem scopedRows_eq (h : db.Stores records) (filter : MatchHistoryFilter) (rest : List Value) :
    limitTo (recentLimit filter.recentMatches)
      (orderByDesc historyOrder (select (clauses (scopeBound filter)) db
      (values (scopeBound filter) ++ rest) db.matchHistory)) =
        (scopeList filter records).map matchHistoryRow := by
  have hscope : select (clauses (scopeBound filter)) db
    (values (scopeBound filter) ++ rest) db.matchHistory =
      (records.filter fun record => InScope filter record).map matchHistoryRow := by
    rw [select_bound, h.matchHistory, List.filter_map]
    congr 1
    exact List.filter_congr fun record hrecord => holds_scopeBound h hrecord
  have horder : orderByDesc historyOrder
    ((records.filter fun record => InScope filter record).map matchHistoryRow) =
      (orderByDesc historyKey (records.filter fun record => InScope filter record)).map
        matchHistoryRow := by
    unfold orderByDesc
    exact (List.map_insertionSort _ _ matchHistoryRow _ fun _ _ _ _ => Iff.rfl).symm
  have hlimit : ∀ (limit : Option Nat) (rows : List MatchHistoryRecord),
      limitTo limit (rows.map matchHistoryRow) = (limitTo limit rows).map matchHistoryRow := by
    intro limit rows
    cases limit with
    | none => rfl
    | some n => exact List.map_take.symm
  rw [hscope, horder, hlimit]
  rfl

/-- The rows of `filtered_matches` are those of the history list. -/
theorem filteredMatches_eq (h : db.Stores records) (filter : MatchHistoryFilter)
    (rest : List Value) :
    (ScopedMatchesQuery.new filter true true).filteredMatches db
        ((ScopedMatchesQuery.new filter true true).params ++ rest) =
      (historyList filter records).map matchHistoryRow := by
  rw [new_eq]
  show select (clauses (filteredBound filter)) db
    (((values (scopeBound filter) ++ values (filteredBound filter)) ++ rest).drop
      (conjunction (clauses (scopeBound filter))).arity)
    (limitTo (recentLimit filter.recentMatches)
      (orderByDesc historyOrder (select (clauses (scopeBound filter)) db
      ((values (scopeBound filter) ++ values (filteredBound filter)) ++ rest) db.matchHistory))) = _
  rw [List.append_assoc, arity_conjunction, List.drop_left, scopedRows_eq h,
    select_bound, List.filter_map]
  show ((scopeList filter records).filter _).map _ = ((scopeList filter records).filter _).map _
  congr 1
  exact List.filter_congr fun record hrecord => holds_filteredBound h (mem_scopeList hrecord).1

theorem length_historyList_le (filter : MatchHistoryFilter) (records : List MatchHistoryRecord) :
    (historyList filter records).length ≤ records.length := by
  have hscope :
      (orderByDesc historyKey (records.filter fun record => InScope filter record)).length ≤
      records.length := by
    rw [(perm_orderByDesc _).length_eq]
    exact List.length_filter_le _ _
  refine (List.length_filter_le _ _).trans (le_trans ?_ hscope)
  cases recentLimit filter.recentMatches with
  | none => exact le_refl _
  | some n => exact List.length_take_le' _ _

/-- The matches of the history below a cursor. -/
def belowOf (cursor : Option MatchHistoryCursor) (rows : List MatchHistoryRecord) :
    List MatchHistoryRecord :=
  rows.filter fun record => ∀ c ∈ cursor, historyKey record < toLex (c.startedAt, c.id)

/-- The condition of the cursor is the order of the history. -/
theorem belowCursor_iff (c : MatchHistoryCursor) :
    belowCursor.holds db [.text c.startedAt, .text c.startedAt, .text c.id]
      (matchHistoryRow record) = true ↔
      historyKey record < toLex (c.startedAt, c.id) := by
  show (decide (record.startedAt < c.startedAt) ||
    (decide (record.startedAt = c.startedAt) && decide (record.id < c.id))) = true ↔ _
  rw [Bool.or_eq_true, Bool.and_eq_true, decide_eq_true_iff, decide_eq_true_iff, decide_eq_true_iff]
  exact (Prod.Lex.toLex_lt_toLex (x := (record.startedAt, record.id))
    (y := (c.startedAt, c.id))).symm

/-- The number of matches on a page. -/
def pageLimit (limit : Nat) : Nat := max 1 (min limit 100)

/-- A page is the first part of what comes after the cursor. -/
theorem selectPage_eq (h : db.Stores records) (filter : MatchHistoryFilter)
    (cursor : Option MatchHistoryCursor)
    (n : Nat) (bound : List (Bound HistoryDatabase MatchHistoryRow))
    (hbound : ∀ record, (bound.all fun b => b.holds db (matchHistoryRow record)) =
      decide (∀ c ∈ cursor, historyKey record < toLex (c.startedAt, c.id))) :
    selectPage (ScopedMatchesQuery.new filter true true) (clauses bound) db
        ((ScopedMatchesQuery.new filter true true).params ++ values bound ++
          [Value.integer (n : Nat)]) =
      .ok ((belowOf cursor (historyList filter records)).take n) := by
  have hrows : select (clauses bound) db (values bound ++ [Value.integer (n : Nat)])
      ((historyList filter records).map matchHistoryRow) =
      (belowOf cursor (historyList filter records)).map matchHistoryRow := by
    rw [select_bound, List.filter_map]
    congr 1
    exact List.filter_congr fun record _ => hbound record
  have horder : orderByDesc historyOrder
    ((belowOf cursor (historyList filter records)).map matchHistoryRow) =
      (belowOf cursor (historyList filter records)).map matchHistoryRow :=
    orderByDesc_of_descending (List.pairwise_map.mpr ((descending_historyList h.ids).filter _))
  have hjson : ∀ rows : List MatchHistoryRecord, (rows.map matchHistoryRow).map
      (·.recordJson) = rows := by
    intro rows
    rw [List.map_map]
    exact List.map_id rows
  have hquestion : question ((ScopedMatchesQuery.new filter true true).params ++ values bound ++
      [Value.integer (n : Nat)])
        ((ScopedMatchesQuery.new filter true true).params.length + (values bound).length) =
      .integer n := by
    unfold question
    rw [List.getD_eq_getElem?_getD, ← List.length_append, List.getElem?_concat_length]
    rfl
  unfold selectPage
  dsimp only
  rw [arity_new, arity_conjunction, if_neg (by simp [Nat.add_assoc]), hquestion,
    List.append_assoc, List.drop_left, filteredMatches_eq h, hrows, horder]
  show Except.ok ((limitTo (if (0 : Int) ≤ n then some (n : Int).toNat else none) _).map _) = _
  rw [if_pos (Int.natCast_nonneg n), Int.toNat_natCast]
  show Except.ok ((List.take n _).map _) = _
  rw [← List.map_take, hjson]

/-- A page holds the first matches below the cursor, and its cursor is the last of them if there are
more. -/
theorem historyPage_eq (h : db.Stores records) (hcount : records.length < 2 ^ 32)
    (filter : MatchHistoryFilter) (cursor : Option MatchHistoryCursor) (limit : Nat) :
    historyPage db { filter := filter, cursor := cursor, limit := limit } = .ok
      { pageMatches := (belowOf cursor (historyList filter records)).take (pageLimit limit)
        nextCursor :=
          if pageLimit limit < (belowOf cursor (historyList filter records)).length then
            ((belowOf cursor (historyList filter records)).take (pageLimit limit)).getLast?.map
              fun record => { startedAt := record.startedAt, id := record.id }
          else none
        total := (historyList filter records).length } := by
  have hrows := filteredMatches_eq h filter []
  have hcountQuery : countFilteredMatches (ScopedMatchesQuery.new filter true true) db =
      .ok (historyList filter records).length := by
    rw [List.append_nil] at hrows
    unfold countFilteredMatches
    rw [if_neg (not_not_intro (arity_new filter).symm), hrows, List.length_map]
    exact if_pos ((length_historyList_le filter records).trans_lt hcount)
  have hpageRows : ∀ rows : List MatchHistoryRecord,
      pageLimit limit < (rows.take (pageLimit limit + 1)).length ↔
        pageLimit limit < rows.length := by
    intro rows
    rw [List.length_take]
    omega
  have htake : ∀ rows : List MatchHistoryRecord,
      (rows.take (pageLimit limit + 1)).take (pageLimit limit) = rows.take (pageLimit limit) := by
    intro rows
    rw [List.take_take, Nat.min_eq_left (Nat.le_succ _)]
  unfold historyPage
  dsimp only
  rw [hcountQuery]
  cases cursor with
  | none =>
    have hselect : selectPage (ScopedMatchesQuery.new filter true true) [] db
        ((ScopedMatchesQuery.new filter true true).params ++
          [Value.integer (pageLimit limit + 1 : Nat)]) =
        .ok ((belowOf none (historyList filter records)).take (pageLimit limit + 1)) := by
      have hselect := selectPage_eq h filter none (pageLimit limit + 1) [] fun record => by simp
      rwa [values_nil, List.append_nil] at hselect
    dsimp only [bind, Except.bind]
    rw [show max 1 (min limit 100) = pageLimit limit from rfl, hselect]
    simp only [hpageRows, htake, pure, Except.pure]
  | some c =>
    have hselect : selectPage (ScopedMatchesQuery.new filter true true) [belowCursor] db
        ((ScopedMatchesQuery.new filter true true).params ++
          [Value.text c.startedAt, Value.text c.startedAt, Value.text c.id] ++
          [Value.integer (pageLimit limit + 1 : Nat)]) =
        .ok ((belowOf (some c) (historyList filter records)).take (pageLimit limit + 1)) := by
      refine selectPage_eq h filter (some c) (pageLimit limit + 1)
        [⟨belowCursor, [.text c.startedAt, .text c.startedAt, .text c.id], rfl⟩] fun record => ?_
      rw [Bool.eq_iff_iff, decide_eq_true_iff, List.all_cons, List.all_nil, Bool.and_true]
      exact (belowCursor_iff c).trans (by simp)
    dsimp only [bind, Except.bind]
    rw [show max 1 (min limit 100) = pageLimit limit from rfl, hselect]
    simp only [hpageRows, htake, pure, Except.pure]

/-! ## Following the cursors -/

/-- The last match of a full page is where the next page begins. -/
theorem belowOf_last (h : db.Stores records) {seen init rest : List MatchHistoryRecord}
    {last : MatchHistoryRecord}
    (hsplit : historyList filter records = seen ++ (init ++ [last]) ++ rest) :
    belowOf (some { startedAt := last.startedAt, id := last.id })
      (historyList filter records) = rest := by
  have hlist : historyList filter records = (seen ++ init) ++ last :: rest := by
    rw [hsplit, List.append_assoc, List.append_assoc, List.append_assoc]
    rfl
  have hbelow := filter_below (hlist ▸ descending_historyList h.ids)
  rw [← hlist] at hbelow
  refine Eq.trans (List.filter_congr fun record _ => ?_) hbelow
  exact decide_eq_decide.mpr (by simp [historyKey])

/-- From a cursor on the pages visit what is below it. -/
theorem followPages_eq (h : db.Stores records) (hcount : records.length < 2 ^ 32)
    (filter : MatchHistoryFilter)
    (limit : Nat) {seen rest : List MatchHistoryRecord} {cursor : Option MatchHistoryCursor}
    (hsplit : historyList filter records = seen ++ rest)
    (hcursor : belowOf cursor (historyList filter records) = rest) :
    ∃ pages, (∀ steps, pages.length ≤ steps →
      followPages db filter limit steps cursor = .ok (some pages)) ∧
      pages.flatMap (·.pageMatches) = rest ∧
      ∀ page ∈ pages, page.total = (historyList filter records).length := by
  induction hlength : rest.length using Nat.strong_induction_on generalizing seen rest cursor with
  | _ n ih =>
    have hpos : 1 ≤ pageLimit limit := le_max_left _ _
    have hpage := historyPage_eq h hcount filter cursor limit
    rw [hcursor] at hpage
    by_cases hmore : pageLimit limit < rest.length
    · obtain ⟨init, last, hinit⟩ : ∃ init last, rest.take (pageLimit limit) = init ++ [last] := by
        have hne : rest.take (pageLimit limit) ≠ [] :=
          List.ne_nil_of_length_pos (by rw [List.length_take]; omega)
        exact ⟨_, _, (List.dropLast_append_getLast hne).symm⟩
      have hsplit' : historyList filter records = seen ++ (init ++ [last]) ++
          rest.drop (pageLimit limit) := by
        rw [← hinit, List.append_assoc, List.take_append_drop, hsplit]
      have hshorter : (rest.drop (pageLimit limit)).length < n := by
        rw [List.length_drop]
        omega
      obtain ⟨pages, hfollow, hvisit, htotal⟩ := ih _ hshorter hsplit' (belowOf_last h hsplit') rfl
      rw [if_pos hmore, hinit, List.getLast?_concat] at hpage
      refine ⟨{ pageMatches := init ++ [last]
                nextCursor := some { startedAt := last.startedAt, id := last.id }
                total := (historyList filter records).length } :: pages, fun steps hsteps => ?_, ?_,
        List.forall_mem_cons.mpr ⟨rfl, htotal⟩⟩
      · obtain ⟨steps, rfl⟩ : ∃ k, steps = k + 1 :=
          ⟨steps - 1, by rw [List.length_cons] at hsteps; omega⟩
        unfold followPages
        rw [hpage]
        show (do
          let rest ← followPages db filter limit steps
            (some { startedAt := last.startedAt, id := last.id })
          pure (rest.map _)) = _
        rw [hfollow steps (Nat.le_of_succ_le_succ hsteps)]
        rfl
      · rw [List.flatMap_cons, hvisit, ← hinit, List.take_append_drop]
    · rw [if_neg hmore, List.take_of_length_le (Nat.le_of_not_lt hmore)] at hpage
      refine ⟨[{ pageMatches := rest
                 nextCursor := none
                 total := (historyList filter records).length }], fun steps hsteps => ?_, ?_,
        List.forall_mem_singleton.mpr rfl⟩
      · obtain ⟨steps, rfl⟩ : ∃ k, steps = k + 1 :=
          ⟨steps - 1, by rw [List.length_singleton] at hsteps; omega⟩
        unfold followPages
        rw [hpage]
        rfl
      · exact List.flatMap_singleton _ _

/-- The pages of a history: following the cursors ends, the latest match comes first and none comes
twice, the matches visited are those of the filter, and every page has their number as its total. A
recent count of zero is no limit, and one above ten thousand is ten thousand. -/
theorem history_pages (h : db.Stores records) (hcount : records.length < 2 ^ 32)
    (filter : MatchHistoryFilter) (limit : Nat) :
    ∃ pages, (∀ steps, pages.length ≤ steps →
      followPages db filter limit steps none = .ok (some pages)) ∧
      Descending historyKey (pages.flatMap (·.pageMatches)) ∧
      (∀ page ∈ pages, page.total = (pages.flatMap (·.pageMatches)).length) ∧
      ∀ record, record ∈ pages.flatMap (·.pageMatches) ↔
        record ∈ records ∧ InHistory (recentLimit filter.recentMatches) filter records record := by
  have hall : belowOf none (historyList filter records) = historyList filter records :=
    List.filter_eq_self.mpr fun record _ => by simp
  obtain ⟨pages, hfollow, hvisit, htotal⟩ :=
    followPages_eq h hcount filter limit (List.nil_append _).symm hall
  refine ⟨pages, hfollow, ?_⟩
  rw [hvisit]
  exact ⟨descending_historyList h.ids, htotal, fun record => mem_historyList h.ids⟩

/-! ## Matches that start together -/

/-- A game won by Mario. -/
def marioWins : MvlStageResult where
  gameIndex := 0
  stage := some 0
  frame := 0
  winner := some 0
  mario :=
    { stars := 5, displayedStars := 5, collectedStars := 5, lives := 3, deaths := 0, dead := false }
  luigi :=
    { stars := 0, displayedStars := 0, collectedStars := 0, lives := 3, deaths := 0, dead := false }
  marioMatchWins := 1
  luigiMatchWins := 0
  targetWins := 1
  resolved := true
  line := []

/-- A match with an id of its own. -/
def numberedMatch (i : Nat) : MatchHistoryRecord where
  id := List.replicate i 'a'
  playerIds := { mario := ['m'], luigi := ['l'] }
  playerNames := { mario := ['m'], luigi := ['l'] }
  role := .host
  stages := [marioWins]
  startedAt := []
  status := .completed

/-- As many matches. -/
def numberedMatches (n : Nat) : List MatchHistoryRecord := (List.range n).map numberedMatch

/-- The tables of the first `n` matches. -/
def numberedDatabase (n : Nat) : HistoryDatabase where
  matchHistory := (numberedMatches n).map matchHistoryRow
  matchStageResults := (numberedMatches n).map fun record => stageResultRow record marioWins

theorem stores_numberedDatabase (n : Nat) : (numberedDatabase n).Stores (numberedMatches n) where
  ids := by
    unfold numberedMatches
    rw [List.map_map]
    refine (List.nodup_range).map fun i j hij => ?_
    simpa [numberedMatch] using congrArg List.length hij
  matchHistory := rfl
  matchStageResults := by
    intro row
    show row ∈ (numberedMatches n).map _ ↔ _
    rw [List.mem_map]
    constructor
    · rintro ⟨record, hrecord, rfl⟩
      obtain ⟨i, -, rfl⟩ := List.mem_map.mp hrecord
      exact ⟨numberedMatch i, hrecord, marioWins, List.mem_cons_self, rfl⟩
    · rintro ⟨record, hrecord, stage, hstage, rfl⟩
      obtain ⟨i, -, rfl⟩ := List.mem_map.mp hrecord
      obtain rfl := List.mem_singleton.mp hstage
      exact ⟨numberedMatch i, hrecord, rfl⟩

/-- The filter that asks for the most recent matches only. -/
def mostRecent (n : Nat) : MatchHistoryFilter where
  recentMatches := some n
  sinceStartedAt := none
  opponentPlayerId := none
  stage := none
  outcome := none

theorem inScope_numberedMatch (n i : Nat) : InScope (mostRecent n) (numberedMatch i) :=
  ⟨rfl, by simp [mostRecent], by simp [mostRecent]⟩

/-- The first of `n + 1` matches that start together has the other `n` above it. -/
theorem amongMostRecent_first (recent n k : Nat) :
    AmongMostRecent (mostRecent recent) (numberedMatches (n + 1)) k (numberedMatch 0) ↔ n < k := by
  have habove : ∀ i, historyKey (numberedMatch 0) < historyKey (numberedMatch (i + 1)) := fun i =>
    Prod.Lex.toLex_lt_toLex.mpr (Or.inr ⟨rfl, List.nil_lt_cons 'a' (List.replicate i 'a')⟩)
  have hrest : ((List.range n).map fun i => numberedMatch (i + 1)).filter (fun other =>
      InScope (mostRecent recent) other ∧ historyKey (numberedMatch 0) < historyKey other) =
      (List.range n).map fun i => numberedMatch (i + 1) := by
    refine List.filter_eq_self.mpr fun other hother => ?_
    obtain ⟨i, -, rfl⟩ := List.mem_map.mp hother
    exact decide_eq_true ⟨inScope_numberedMatch recent (i + 1), habove i⟩
  unfold AmongMostRecent numberedMatches
  rw [List.range_succ_eq_map, List.map_cons, List.map_map]
  rw [List.filter_cons_of_neg (by simp)]
  show (((List.range n).map fun i => numberedMatch (i + 1)).filter _).length < k ↔ _
  rw [hrest, List.length_map, List.length_range]

theorem three_matches_paged :
    ∃ pages, (∀ steps, pages.length ≤ steps →
        followPages (numberedDatabase 3) (mostRecent 2) 1 steps none = .ok (some pages)) ∧
      Descending historyKey (pages.flatMap (·.pageMatches)) ∧
      (∀ page ∈ pages, page.total = (pages.flatMap (·.pageMatches)).length) ∧
      ∀ record, record ∈ pages.flatMap (·.pageMatches) ↔
        record ∈ numberedMatches 3 ∧
        InHistory (recentLimit (some 2)) (mostRecent 2) (numberedMatches 3) record :=
  history_pages (stores_numberedDatabase 3) (by decide) (mostRecent 2) 1

/-- Of ten thousand and one matches the oldest is among the ten thousand and one most recent, and no
page has it. -/
theorem oldest_never_visited :
    ¬ ∃ pages, (∀ steps, pages.length ≤ steps →
        followPages (numberedDatabase 10001) (mostRecent 10001) 50 steps none = .ok (some pages)) ∧
      ∀ record, record ∈ pages.flatMap (·.pageMatches) ↔ record ∈ numberedMatches 10001 ∧
        InHistory (some 10001) (mostRecent 10001) (numberedMatches 10001) record := by
  rintro ⟨pages, hfollow, hvisit⟩
  have hstores := stores_numberedDatabase 10001
  have hcount : (numberedMatches 10001).length < 2 ^ 32 := by
    unfold numberedMatches
    rw [List.length_map, List.length_range]
    decide
  have hall : belowOf none (historyList (mostRecent 10001) (numberedMatches 10001)) =
      historyList (mostRecent 10001) (numberedMatches 10001) :=
        List.filter_eq_self.mpr fun record _ => by simp
  obtain ⟨actual, hactual, hlist, -⟩ :=
    followPages_eq hstores hcount (mostRecent 10001) 50 (List.nil_append _).symm hall
  have hsame : pages = actual := by
    have hpages := hfollow (max pages.length actual.length) (le_max_left _ _)
    rw [hactual (max pages.length actual.length) (le_max_right _ _)] at hpages
    exact (Option.some.inj (Except.ok.inj hpages)).symm
  rw [hsame, hlist] at hvisit
  have hmem : numberedMatch 0 ∈ numberedMatches 10001 :=
    List.mem_map_of_mem (List.mem_range.mpr (Nat.succ_pos 10000))
  have hrecent : AmongMostRecent (mostRecent 10001) (numberedMatches 10001) 10001
      (numberedMatch 0) :=
    (amongMostRecent_first 10001 10000 10001).mpr (Nat.lt_succ_self 10000)
  have hvisited := (hvisit (numberedMatch 0)).mpr ⟨hmem, inScope_numberedMatch 10001 0,
    by simpa using hrecent, trivial, by simp [PassesStage, mostRecent]⟩
  obtain ⟨-, -, hlimit, -⟩ := (mem_historyList hstores.ids).mp hvisited
  have hlimited := hlimit 10000 rfl
  exact absurd ((amongMostRecent_first 10001 10000 10000).mp hlimited) (lt_irrefl 10000)

end Bigstar.Launcher
