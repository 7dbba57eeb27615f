import Bigstar.Launcher.HistoryStore

/-!
# The tables of the match history

The tables hold the rows of the records that were written and of no others: writing, removing and
importing matches keep it so.
-/

namespace Bigstar.Launcher

open CText Sql

/-! ## The rows of the records -/

/-- The tables hold the rows of the records and no others. -/
structure HistoryDatabase.Stores (db : HistoryDatabase) (records : List MatchHistoryRecord) :
    Prop where
  ids : (records.map (·.id)).Nodup
  matchHistory : db.matchHistory = records.map matchHistoryRow
  matchStageResults : ∀ row, row ∈ db.matchStageResults ↔
    ∃ record ∈ records, ∃ stage ∈ record.stages, row = stageResultRow record stage

variable {db db' : HistoryDatabase} {records : List MatchHistoryRecord}
  {record : MatchHistoryRecord}

theorem HistoryDatabase.Stores.eq_of_id (h : db.Stores records) {other : MatchHistoryRecord}
    (hrecord : record ∈ records)
    (hother : other ∈ records) (hid : record.id = other.id) : record = other :=
  List.inj_on_of_nodup_map h.ids hrecord hother hid

/-- The tables are the projections of the records, in their order. -/
structure HistoryDatabase.Projects (db : HistoryDatabase) (records : List MatchHistoryRecord) :
    Prop where
  ids : (records.map (·.id)).Nodup
  matchHistory : db.matchHistory = records.map matchHistoryRow
  matchStageResults : db.matchStageResults = records.flatMap fun record =>
    record.stages.map (stageResultRow record)

theorem HistoryDatabase.Projects.stores (h : db.Projects records) : db.Stores records where
  ids := h.ids
  matchHistory := h.matchHistory
  matchStageResults := by
    intro row
    rw [h.matchStageResults, List.mem_flatMap]
    simp only [List.mem_map, eq_comm]

theorem projects_empty : HistoryDatabase.Projects ⟨[], []⟩ [] where
  ids := List.nodup_nil
  matchHistory := rfl
  matchStageResults := rfl

theorem flatMap_filter {α β : Type} (p : α → Bool) (f : α → List β) (l : List α) :
    (l.filter p).flatMap f = l.flatMap fun a => if p a then f a else [] := by
  induction l with
  | nil => rfl
  | cons a l ih =>
    by_cases h : p a = true
    · rw [List.filter_cons_of_pos h, List.flatMap_cons, List.flatMap_cons, ih, if_pos h]
    · rw [List.filter_cons_of_neg h, List.flatMap_cons, ih, if_neg h, List.nil_append]

/-- A match goes with its stages. -/
theorem HistoryDatabase.Projects.deleteRows (h : db.Projects records)
    (selected : MatchHistoryRow → Bool) :
    (deleteRows db selected).Projects
      (records.filter fun record => !selected (matchHistoryRow record)) where
  ids := h.ids.sublist (List.filter_sublist.map _)
  matchHistory := by
    show db.matchHistory.filter _ = _
    rw [h.matchHistory, List.filter_map]
    rfl
  matchStageResults := by
    show db.matchStageResults.filter _ = _
    rw [h.matchStageResults, h.matchHistory, flatMap_filter, List.filter_flatMap]
    refine List.flatMap_congr fun record hrecord => ?_
    have hany : ∀ stage, ((records.map matchHistoryRow).any fun row =>
        selected row && decide (row.id = (stageResultRow record stage).matchId)) =
          selected (matchHistoryRow record) := by
      intro stage
      rw [Bool.eq_iff_iff, List.any_eq_true]
      constructor
      · rintro ⟨row, hrow, hboth⟩
        rcases List.mem_map.mp hrow with ⟨other, hother, rfl⟩
        rcases (Bool.and_eq_true _ _).mp hboth with ⟨hselected, hid⟩
        have heq : other = record := h.stores.eq_of_id hother hrecord (of_decide_eq_true hid)
        rwa [heq] at hselected
      · intro hselected
        refine ⟨matchHistoryRow record, List.mem_map_of_mem hrecord, ?_⟩
        rw [hselected]
        exact decide_eq_true rfl
    cases hselected : selected (matchHistoryRow record) with
    | false =>
      refine List.filter_eq_self.mpr fun row hrow => ?_
      rcases List.mem_map.mp hrow with ⟨stage, -, rfl⟩
      rw [hany, hselected]
      rfl
    | true =>
      refine List.filter_eq_nil_iff.mpr fun row hrow => ?_
      rcases List.mem_map.mp hrow with ⟨stage, -, rfl⟩
      rw [hany, hselected]
      exact Bool.false_ne_true

theorem insertStageResults_eq {stages : List MvlStageResult}
    (h : stages.foldlM (insertStageResult record) db = some db') :
    db'.matchHistory = db.matchHistory ∧
      db'.matchStageResults = db.matchStageResults ++ stages.map (stageResultRow record) := by
  induction stages generalizing db with
  | nil =>
    obtain rfl : db = db' := Option.some.inj h
    exact ⟨rfl, (List.append_nil _).symm⟩
  | cons stage stages ih =>
    rw [List.foldlM_cons] at h
    obtain ⟨mid, hmid, h⟩ := Option.bind_eq_some_iff.mp h
    unfold insertStageResult at hmid
    by_cases hkey : (db.matchStageResults.any fun row =>
      row.matchId = record.id && row.gameIndex = stage.gameIndex) = true
    · rw [if_pos hkey] at hmid
      cases hmid
    · rw [if_neg hkey] at hmid
      cases hmid
      obtain ⟨hmatches, hstages⟩ := ih h
      refine ⟨hmatches, ?_⟩
      rw [hstages, List.append_assoc]
      rfl

theorem HistoryDatabase.Projects.insert (h : db.Projects records)
    (hinsert : insertMatchHistoryRecord db record = some db') :
    db'.Projects (records ++ [record]) := by
  unfold insertMatchHistoryRecord at hinsert
  by_cases hkey : (db.matchHistory.any fun row => row.id = record.id) = true
  · rw [if_pos hkey] at hinsert
    cases hinsert
  · rw [if_neg hkey] at hinsert
    rcases insertStageResults_eq hinsert with ⟨hmatches, hstages⟩
    refine ⟨?_, ?_, ?_⟩
    · have hnew : record.id ∉ records.map (·.id) := by
        intro hmem
        rcases List.mem_map.mp hmem with ⟨other, hother, hid⟩
        refine hkey (List.any_eq_true.mpr ⟨matchHistoryRow other, ?_, decide_eq_true hid⟩)
        rw [h.matchHistory]
        exact List.mem_map_of_mem hother
      rw [List.map_append]
      exact h.ids.append (List.nodup_singleton _) (by simpa using hnew)
    · rw [hmatches, List.map_append, ← h.matchHistory]
      rfl
    · rw [hstages, List.flatMap_append, ← h.matchStageResults, List.flatMap_singleton]

/-- The tables hold the rows of some records, each with the property. -/
def HistoryDatabase.ProjectsOnly (P : MatchHistoryRecord → Prop) (db : HistoryDatabase) : Prop :=
  ∃ records, db.Projects records ∧ ∀ record ∈ records, P record

section

variable {P : MatchHistoryRecord → Prop}

theorem projectsOnly_deleteRows (h : db.ProjectsOnly P) (selected : MatchHistoryRow → Bool) :
    (deleteRows db selected).ProjectsOnly P := by
  obtain ⟨records, hprojects, hall⟩ := h
  exact ⟨_, hprojects.deleteRows selected, fun record hrecord =>
    hall record (List.mem_filter.mp hrecord).1⟩

theorem projectsOnly_insert (h : db.ProjectsOnly P) (hrecord : P record)
    (hinsert : insertMatchHistoryRecord db record = some db') : db'.ProjectsOnly P := by
  obtain ⟨records, hprojects, hall⟩ := h
  refine ⟨_, hprojects.insert hinsert, fun other hother => ?_⟩
  obtain hother | hother := List.mem_append.mp hother
  · exact hall other hother
  · obtain rfl := List.mem_singleton.mp hother
    exact hrecord

theorem projectsOnly_insertAll (h : db.ProjectsOnly P) (hrecords : ∀ record ∈ records, P record)
    (hinsert : records.foldlM insertMatchHistoryRecord db = some db') : db'.ProjectsOnly P := by
  induction records generalizing db with
  | nil =>
    obtain rfl : db = db' := Option.some.inj hinsert
    exact h
  | cons record rest ih =>
    rw [List.foldlM_cons] at hinsert
    obtain ⟨mid, hmid, hinsert⟩ := Option.bind_eq_some_iff.mp hinsert
    have hmidOnly := projectsOnly_insert h (hrecords record List.mem_cons_self) hmid
    exact ih hmidOnly (fun record hrecord =>
      hrecords record (List.mem_cons_of_mem _ hrecord)) hinsert

/-- A change of the history. -/
inductive HistoryChange where
  | upsert (record : MatchHistoryRecord)
  | delete (matchId : Text)
  | replace (records : List MatchHistoryRecord)

/-- The tables after a change; one that fails is rolled back. -/
def HistoryChange.apply (db : HistoryDatabase) : HistoryChange → HistoryDatabase
  | .upsert record => (upsertMatch db record).getD db
  | .delete matchId => deleteMatch db matchId
  | .replace records => (replaceMatchHistoryRecords db records).getD db

/-- The records that a change writes. -/
def HistoryChange.written : HistoryChange → List MatchHistoryRecord
  | .upsert record => [record].filter hasPlayedResult
  | .delete _ => []
  | .replace records => records.filter hasPlayedResult

theorem projectsOnly_upsertMatch (h : db.ProjectsOnly P)
    (hwritten : ∀ written ∈ (HistoryChange.upsert record).written, P written)
    (hupsert : upsertMatch db record = some db') : db'.ProjectsOnly P := by
  have hdeleted : (deleteMatch db record.id).ProjectsOnly P := projectsOnly_deleteRows h _
  unfold upsertMatch at hupsert
  cases hplayed : hasPlayedResult record with
  | false =>
    rw [hplayed] at hupsert
    obtain rfl : deleteMatch db record.id = db' := Option.some.inj hupsert
    exact hdeleted
  | true =>
    rw [hplayed] at hupsert
    have hrecord := hwritten record (List.mem_filter.mpr ⟨List.mem_cons_self, hplayed⟩)
    exact projectsOnly_insert hdeleted hrecord hupsert

theorem projectsOnly_apply (h : db.ProjectsOnly P) {change : HistoryChange}
    (hwritten : ∀ record ∈ change.written, P record) :
    (change.apply db).ProjectsOnly P := by
  cases change with
  | upsert record =>
    show ((upsertMatch db record).getD db).ProjectsOnly P
    cases hupsert : upsertMatch db record with
    | none => exact h
    | some db' => exact projectsOnly_upsertMatch h hwritten hupsert
  | delete matchId => exact projectsOnly_deleteRows h _
  | replace records =>
    show ((replaceMatchHistoryRecords db records).getD db).ProjectsOnly P
    cases hreplace : replaceMatchHistoryRecords db records with
    | none => exact h
    | some db' => exact projectsOnly_insertAll (projectsOnly_deleteRows h _) hwritten hreplace

/-- After any changes of an empty history the tables hold the rows of records that were written. -/
theorem projectsOnly_changes {changes : List HistoryChange}
    (h : ∀ change ∈ changes, ∀ record ∈ change.written, P record) :
    (changes.foldl HistoryChange.apply ⟨[], []⟩).ProjectsOnly P := by
  have hstart : HistoryDatabase.ProjectsOnly P ⟨[], []⟩ := ⟨[], projects_empty, by simp⟩
  exact List.foldlRecOn changes _ hstart fun db hdb change hchange =>
    projectsOnly_apply hdb (h change hchange)

end

/-- Every change writes records with a decided game only. -/
theorem hasPlayedResult_written (change : HistoryChange) :
    ∀ record ∈ change.written, hasPlayedResult record = true := by
  intro record hrecord
  cases change with
  | upsert _ => exact (List.mem_filter.mp hrecord).2
  | delete _ => cases hrecord
  | replace _ => exact (List.mem_filter.mp hrecord).2

end Bigstar.Launcher
