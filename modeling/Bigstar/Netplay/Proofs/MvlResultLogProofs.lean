import Bigstar.Lib.Run
import Bigstar.Netplay.MvlResultLog
import Bigstar.Netplay.Proofs.MvlLifecycleProofs

/-!
# The results of a match, in order

A stay in the results scene prints at most one unresolved result and at most one winner. The reports
of a match are in the order of the stays, and the wins in a report count the winners that have been
reported.
-/

namespace Bigstar.Netplay.MvlLifecycle

open MvlRuntime

variable {N : Type} {console : Console N} {c : Context N} {i : Fin 16} {frame : Nat}

/-! ## One call -/

/-- What a call reads of the instance and of the configuration, and writes of the instance. -/
structure ResultState where
  inResult : Bool
  resultScored : Bool
  resultUnresolvedLogged : Bool
  wins : Fin 2 → Int
  autoRestartAfterResult : Bool
  targetWins : Int
  initialLives : Nat

/-- The end of a stay in the results scene. -/
def ResultState.left (s : ResultState) : ResultState :=
  { s with inResult := false, resultScored := false, resultUnresolvedLogged := false }

namespace Context

/-- The part of the state that says what is printed next. -/
def resultState (c : Context N) (i : Fin 16) : ResultState where
  inResult := (c.runtime.instances i).inResult
  resultScored := (c.runtime.instances i).resultScored
  resultUnresolvedLogged := (c.runtime.instances i).resultUnresolvedLogged
  wins := (c.runtime.instances i).wins
  autoRestartAfterResult := c.mvl.autoRestartAfterResult
  targetWins := c.mvl.targetWins
  initialLives := c.mvl.initialLives

/-- An update of the instance that keeps what has been scored. -/
theorem resultState_updateInstance {f : InstanceState → InstanceState}
    (h : ∀ s, (f s).inResult = s.inResult ∧ (f s).resultScored = s.resultScored ∧
      (f s).resultUnresolvedLogged = s.resultUnresolvedLogged ∧ (f s).wins = s.wins)
        (c : Context N) :
    (c.updateInstance i f).resultState i = c.resultState i := by
  unfold resultState updateInstance
  dsimp only
  rw [instances_updateInstance_self]
  obtain ⟨h1, h2, h3, h4⟩ := h (c.runtime.instances i)
  rw [h1, h2, h3, h4]

theorem resultState_leave (c : Context N) (i : Fin 16) :
    (c.updateInstance i fun s =>
      { s with
        inResult := false, resultScored := false, resultUnresolvedLogged := false }).resultState i
        = (c.resultState i).left := by
  unfold resultState updateInstance ResultState.left
  dsimp only
  rw [instances_updateInstance_self]

theorem resultState_resetStartupHookState (c : Context N) (i : Fin 16) :
    (c.resetStartupHookState i).resultState i = c.resultState i := by
  change (c.updateInstance i fun s =>
    { s with clearCameraInitHoldApplied := false }).resultState i = _
  refine resultState_updateInstance (fun _ => ?_) c
  exact ⟨rfl, rfl, rfl, rfl⟩

theorem resultState_requestSeed (c : Context N) (i : Fin 16) (seed : Nat) :
    (c.requestSeed i seed).resultState i = c.resultState i := by
  change (c.updateInstance i fun s => { s with netRandomPatchApplied := false }).resultState i = _
  refine resultState_updateInstance (fun _ => ?_) c
  exact ⟨rfl, rfl, rfl, rfl⟩

theorem resultState_applyRuntimeConfig (console : Console N) (c : Context N) (i : Fin 16) :
    (c.applyRuntimeConfig console).resultState i = c.resultState i := by
  unfold applyRuntimeConfig
  split <;> rfl

theorem resultState_restoreBootstrapCheckpoint (console : Console N) (c : Context N) (i : Fin 16)
    (frame seed : Nat) :
    (c.restoreBootstrapCheckpoint console i frame seed).1.resultState i = c.resultState i := by
  have hreset := resultState_resetStartupHookState c i
  unfold restoreBootstrapCheckpoint
  dsimp only
  split
  · rfl
  · split
    · exact hreset
    · rw [resultState_applyRuntimeConfig]
      change Context.resultState (if _ then _ else _) i = _
      split
      · exact (resultState_requestSeed _ i seed).trans hreset
      · split
        · exact (resultState_requestSeed _ i seed).trans hreset
        · exact (resultState_requestSeed _ i seed).trans hreset

theorem resultState_restoreGameplayCheckpoint (console : Console N) (c : Context N) (i : Fin 16)
    (frame seed : Nat) :
    (c.restoreGameplayCheckpoint console i frame seed).1.resultState i = c.resultState i := by
  unfold restoreGameplayCheckpoint
  dsimp only
  split
  · rfl
  · change (Context.applyRuntimeConfig console _).resultState i = _
    rw [resultState_applyRuntimeConfig]
    rfl

theorem resultState_resetConsoleForNextMatch (console : Console N) (c : Context N) (i : Fin 16)
    (frame seed : Nat) :
    (c.resetConsoleForNextMatch console i frame seed).1.resultState i = c.resultState i := by
  unfold resetConsoleForNextMatch
  dsimp only
  split
  · rfl
  · rw [resultState_requestSeed]
    change (Context.applyRuntimeConfig console _).resultState i = _
    rw [resultState_applyRuntimeConfig]
    change (Context.applyRuntimeConfig console _).resultState i = _
    rw [resultState_applyRuntimeConfig]
    exact resultState_resetStartupHookState c i

/-- Starting the next game does not touch the result. -/
theorem resultState_startNextGame (console : Console N) (c : Context N) (i : Fin 16)
    (frame : Nat) (stage : Int)
    (seed : Nat) : (c.startNextGame console i frame stage seed).1.resultState i =
      c.resultState i := by
  have hboot := resultState_restoreBootstrapCheckpoint console c i frame seed
  unfold startNextGame
  rcases hresult : c.restoreBootstrapCheckpoint console i frame seed with ⟨c₁, success⟩
  rw [hresult] at hboot
  cases success with
  | true => exact hboot
  | false =>
    dsimp only
    have hgame := resultState_restoreGameplayCheckpoint console c₁ i frame seed
    have hreset := resultState_resetConsoleForNextMatch console c₁ i frame seed
    split
    · rcases hrestored : c₁.restoreGameplayCheckpoint console i frame seed with ⟨c₂, success⟩
      rw [hrestored] at hgame
      cases success <;> exact hgame.trans hboot
    · rcases hrestarted : c₁.resetConsoleForNextMatch console i frame seed with ⟨c₂, success⟩
      rw [hrestarted] at hreset
      cases success <;> exact hreset.trans hboot


/-- What a restart leaves: the stay is over, or the attempt has failed. -/
theorem resultState_restart (console : Console N) (c : Context N) (i : Fin 16) (frame : Nat) :
    (c.restart console i frame).1.resultState i = c.resultState i ∨
      (c.restart console i frame).1.resultState i = (c.resultState i).left := by
  have hselected : (c.selectNextGame console i).resultState i = c.resultState i := by
    change (c.updateInstance i fun s =>
      { s with restartCount := s.restartCount + 1 }).resultState i = _
    refine resultState_updateInstance (fun _ => ?_) c
    exact ⟨rfl, rfl, rfl, rfl⟩
  have hnext :=
    (resultState_startNextGame console (c.selectNextGame console i) i frame (c.nextStage i)
    (c.nextSeed i)).trans hselected
  unfold restart
  rcases hresult : (c.selectNextGame console i).startNextGame console i frame
    (c.nextStage i) (c.nextSeed i)
    with ⟨c₁, path⟩
  rw [hresult] at hnext
  cases path with
  | zero =>
    left
    rw [← hnext]
    change (c₁.updateInstance i fun s =>
      { s with restartCount := s.restartCount - 1 }).resultState i = _
    refine resultState_updateInstance (fun _ => ?_) c₁
    exact ⟨rfl, rfl, rfl, rfl⟩
  | succ path =>
    right
    have hrestarted :
      (c₁.updateInstance i fun s => { s with lastRestartFrame := frame }).resultState i
        = c₁.resultState i := by
      refine resultState_updateInstance (fun _ => ?_) c₁
      exact ⟨rfl, rfl, rfl, rfl⟩
    rw [← hnext, ← hrestarted]
    exact resultState_leave _ i

/-- What a call does to the results of a match, and what it reports. -/
inductive ResultStep (frame : Nat) (s : ResultState) : Option ResultReport →
    ResultState → Prop where
  /-- Nothing is scored. -/
  | idle : ResultStep frame s none s
  | left : ResultStep frame s none s.left
  | entered (h : s.inResult = false) :
    ResultStep frame s none { s with inResult := true, resultUnresolvedLogged := false }
  | unresolved {result : ResultSnapshot}
    (hactive : s.autoRestartAfterResult = true ∧ 1 ≤ s.targetWins)
      (hin : s.inResult = true) (hscored : s.resultScored = false)
      (hlogged : s.resultUnresolvedLogged = false) (hwinner : resolveResultWinner result = none) :
    ResultStep frame s (some { frame, winner := none, result, wins := s.wins })
      { s with resultUnresolvedLogged := true }
  /-- The game is scored, and perhaps the next one is started at once. -/
  | scored {result : ResultSnapshot} {winner : Fin 2} {s' : ResultState}
      (hactive : s.autoRestartAfterResult = true ∧ 1 ≤ s.targetWins) (hin : s.inResult = true)
      (hscored : s.resultScored = false) (hwinner : resolveResultWinner result = some winner)
      (hs : s' =
        { s with wins := Function.update s.wins winner (s.wins winner + 1), resultScored := true } ∨
        s' = { s with wins := Function.update s.wins winner (s.wins winner + 1) }.left) :
    ResultStep frame s
      (some
        { frame, winner := some winner, result,
          wins := Function.update s.wins winner (s.wins winner + 1) }) s'

/-- The configuration is not changed. -/
theorem ResultStep.config {s s' : ResultState} {report : Option ResultReport}
    (h : ResultStep frame s report s') :
    s'.targetWins = s.targetWins ∧ s'.initialLives = s.initialLives := by
  cases h with
  | scored hactive hin hscored hwinner hs => obtain rfl | rfl := hs <;> exact ⟨rfl, rfl⟩
  | _ => exact ⟨rfl, rfl⟩

theorem ResultStep.active {s s' : ResultState} {report : ResultReport}
    (h : ResultStep frame s (some report) s') : 1 ≤ s.targetWins := by
  cases h with
  | unresolved hactive => exact hactive.2
  | scored hactive => exact hactive.2

/-- A report is about the snapshot of the frame. -/
theorem resultReport_of_eq_some {report : ResultReport}
    (h : c.resultReport console i frame = some report) :
    report.frame = frame ∧ report.result = c.readResultSnapshot console := by
  unfold resultReport at h
  dsimp only at h
  split at h
  · exact nomatch h
  · split at h
    · exact nomatch h
    · split at h
      · exact nomatch h
      · split at h
        · split at h
          · obtain rfl := Option.some.inj h
            exact ⟨rfl, rfl⟩
          · exact nomatch h
        · obtain rfl := Option.some.inj h
          exact ⟨rfl, rfl⟩

/-- The call updates what `Context.resultState` shows of the instance. -/
theorem resultState_update (c : Context N) (i : Fin 16) (f : InstanceState → InstanceState) :
    (c.updateInstance i f).resultState i =
      { c.resultState i with
        inResult := (f (c.runtime.instances i)).inResult
        resultScored := (f (c.runtime.instances i)).resultScored
        resultUnresolvedLogged := (f (c.runtime.instances i)).resultUnresolvedLogged
        wins := (f (c.runtime.instances i)).wins } := by
  unfold resultState updateInstance
  dsimp only
  rw [instances_updateInstance_self]

/-- What a call prints, by the state before and after it. -/
theorem resultStep (console : Console N) (c : Context N) (i : Fin 16) (frame : Nat) :
    ResultStep frame (c.resultState i) (c.resultReport console i frame)
      ((c.restartAfterResultIfNeeded console i frame).1.resultState i) := by
  unfold resultReport restartAfterResultIfNeeded
  dsimp only
  by_cases hoff : (!c.mvl.autoRestartAfterResult || decide (c.mvl.targetWins < 1)) = true
  · rw [if_pos hoff, if_pos hoff]
    exact .idle
  · rw [if_neg hoff, if_neg hoff]
    by_cases hscene : console.arm9Read16 kSceneCurrentSceneIDAddr c.nds ≠ kResultsScene
    · rw [if_pos hscene, if_pos hscene]
      have hleft : (c.leaveResult console i frame).resultState i = (c.resultState i).left := by
        unfold leaveResult
        dsimp only
        rw [resultState_leave]
        split <;> rfl
      rw [hleft]
      exact .left
    · rw [if_neg hscene, if_neg hscene]
      by_cases hin : (c.runtime.instances i).inResult = true
      · have hentered : (!(c.runtime.instances i).inResult) = false := by rw [hin]; rfl
        rw [hentered, Bool.false_or, if_neg Bool.false_ne_true]
        by_cases hscored : (c.runtime.instances i).resultScored = true
        · rw [if_pos hscored]
          unfold scoreResult
          rw [if_pos hscored]
          dsimp only
          split
          · exact .idle
          · obtain hsame | hleft := resultState_restart console c i frame
            · rw [hsame]
              exact .idle
            · rw [hleft]
              exact .left
        · rw [if_neg hscored]
          unfold scoreResult
          rw [if_neg hscored]
          have hnot : (c.runtime.instances i).resultScored = false := Bool.eq_false_iff.mpr hscored
          have hactive : c.mvl.autoRestartAfterResult = true ∧ 1 ≤ c.mvl.targetWins := by
            simp only [Bool.or_eq_true, Bool.not_eq_true', decide_eq_true_eq,
              not_or, Bool.not_eq_false, not_lt] at hoff
            omega
          cases hresolve : resolveResultWinner (c.readResultSnapshot console) with
          | none =>
            dsimp only
            rw [resultState_update]
            split
            case isTrue hlog =>
              rw [Bool.and_eq_true, Bool.not_eq_true', decide_eq_true_eq] at hlog
              rw [hlog.1, Bool.false_or, decide_eq_true hlog.2]
              exact .unresolved hactive hin hnot hlog.1 hresolve
            case isFalse hlog =>
              have hkept : ((c.runtime.instances i).resultUnresolvedLogged
                  || decide (framesSince frame (c.runtime.instances i).resultFrame ≥
                    c.mvl.autoRestartDelayFrames))
                    = (c.runtime.instances i).resultUnresolvedLogged := by
                revert hlog
                cases (c.runtime.instances i).resultUnresolvedLogged <;> simp
              rw [hkept]
              exact .idle
          | some winner =>
            dsimp only
            have hscoredState := resultState_update c i fun s =>
              { s with
                wins := Function.update s.wins winner (s.wins winner + 1), resultScored := true }
            split
            · rw [hscoredState]
              exact .scored hactive hin hnot hresolve (.inl rfl)
            · obtain hsame | hleft := resultState_restart console (c.updateInstance i fun s =>
                { s with
                  wins := Function.update s.wins winner (s.wins winner + 1), resultScored := true })
                  i frame
              · rw [hsame, hscoredState]
                exact .scored hactive hin hnot hresolve (.inl rfl)
              · rw [hleft, hscoredState]
                exact .scored hactive hin hnot hresolve (.inr rfl)
      · have hout : (c.runtime.instances i).inResult = false := Bool.eq_false_iff.mpr hin
        rw [hout, Bool.not_false, Bool.true_or, if_pos rfl, if_pos rfl, resultState_update]
        exact .entered hout

end Context

/-! ## The order of the reports -/

/-- What has been reported belongs to the stays so far, and whether the current stay has reported
something is what the instance remembers. -/
structure Ordered (s : ResultState) (visits : Nat) (reports : List (Nat × ResultReport)) :
    Prop where
  outside : s.inResult = false → s.resultScored = false
  active : s.resultUnresolvedLogged = true → s.autoRestartAfterResult = true ∧ 1 ≤ s.targetWins
  last_le : ∀ r ∈ reports.getLast?, r.1 ≤ visits
  current : s.inResult = true →
    ((∃ r ∈ reports.getLast?, r.1 = visits) ↔ s.resultUnresolvedLogged = true ∨
      s.resultScored = true)

/-- The wins are the winners reported so far, and so are those of every report. -/
structure Counted (s : ResultState) (reports : List ResultReport) : Prop where
  total : ∀ p, s.wins p = ((reports.countP fun r => r.winner = some p : Nat) : Int)
  each : ∀ k report, reports[k]? = some report →
    ∀ p, report.wins p = (((reports.take (k + 1)).countP fun r => r.winner = some p : Nat) : Int)
  resolved : ∀ report ∈ reports, report.winner = resolveResultWinner report.result

/-- A stay begins where the instance was not in the results scene and now is. -/
def visitsAfter (visits : Nat) (s s' : ResultState) : Nat :=
  if !s.inResult && s'.inResult then visits + 1 else visits

section

variable {s s' : ResultState} {visits : Nat} {report : Option ResultReport}

/-- The stays of the reports never go back. -/
theorem Ordered.next {reports : List (Nat × ResultReport)} (h : Ordered s visits reports)
    (hstep : Context.ResultStep frame s report s') :
    Ordered s' (visitsAfter visits s s') (reports ++ (report.map fun r => (visits, r)).toList) := by
  have happend : ∀ r : ResultReport, (reports ++ [(visits, r)]).getLast? = some (visits, r) :=
    fun r => List.getLast?_concat
  have hlast : ∀ r : ResultReport, ∀ r' ∈ (reports ++ [(visits, r)]).getLast?, r'.1 ≤ visits := by
    intro r r' hr
    rw [happend] at hr
    obtain rfl := Option.some.inj hr
    exact Nat.le_refl _
  cases hstep with
  | idle =>
    have hvisits : visitsAfter visits s s = visits := by
      unfold visitsAfter
      cases s.inResult <;> rfl
    rw [hvisits, Option.map_none, Option.toList_none, List.append_nil]
    exact h
  | left =>
    have hvisits : visitsAfter visits s s.left = visits := by
      unfold visitsAfter ResultState.left
      cases s.inResult <;> rfl
    rw [hvisits, Option.map_none, Option.toList_none, List.append_nil]
    exact ⟨fun _ => rfl, fun hlogged => (nomatch hlogged), h.last_le, fun hin => (nomatch hin)⟩
  | entered hout =>
    have hvisits : visitsAfter visits s
        { s with inResult := true, resultUnresolvedLogged := false } = visits + 1 := by
      unfold visitsAfter
      rw [hout]
      rfl
    rw [hvisits, Option.map_none, Option.toList_none, List.append_nil]
    refine ⟨fun hin => (nomatch hin), fun hlogged => (nomatch hlogged), ?_, fun _ => ?_⟩
    · intro r hr
      exact Nat.le_succ_of_le (h.last_le r hr)
    · constructor
      · rintro ⟨r, hr, htag⟩
        have := h.last_le r hr
        omega
      · rintro (hlogged | hscored)
        · exact nomatch hlogged
        · have hnot := h.outside hout
          rw [show s.resultScored = true from hscored] at hnot
          exact nomatch hnot
  | unresolved hactive hin hscored hlogged hwinner =>
    have hvisits : visitsAfter visits s { s with resultUnresolvedLogged := true } = visits := by
      unfold visitsAfter
      rw [hin]
      rfl
    rw [hvisits]
    exact ⟨h.outside, fun _ => hactive, hlast _,
      fun _ => ⟨fun _ => .inl rfl, fun _ => ⟨_, happend _, rfl⟩⟩⟩
  | scored hactive hin hscored hwinner hs =>
    have hvisits : visitsAfter visits s s' = visits := by
      unfold visitsAfter
      rw [hin]
      rfl
    rw [hvisits]
    obtain rfl | rfl := hs
    · refine ⟨fun hout => ?_, h.active, hlast _, fun _ => ?_⟩
      · rw [show s.inResult = false from hout] at hin
        exact nomatch hin
      · exact ⟨fun _ => .inr rfl, fun _ => ⟨_, happend _, rfl⟩⟩
    · exact ⟨fun _ => rfl, fun hlogged => (nomatch hlogged), hlast _, fun hin => (nomatch hin)⟩

/-- The wins of the reports are counted up. -/
theorem Counted.next {reports : List ResultReport} (h : Counted s reports)
    (hstep : Context.ResultStep frame s report s') : Counted s' (reports ++ report.toList) := by
  -- A report that is added last counts its own winner, and those before it.
  have hadd : ∀ (r : ResultReport) (wins : Fin 2 → Int),
      (∀ p, wins p = (((reports ++ [r]).countP fun r => r.winner = some p : Nat) : Int)) →
      r.wins = wins → r.winner = resolveResultWinner r.result → s'.wins = wins →
      Counted s' (reports ++ [r]) := by
    intro r wins hwins hr hresolved hs'
    refine ⟨fun p => by rw [hs', hwins p], fun k report hk p => ?_, fun report hreport => ?_⟩
    · rcases Nat.lt_or_ge k reports.length with hlt | hge
      · rw [List.getElem?_append_left hlt] at hk
        rw [List.take_append_of_le_length (by omega)]
        exact h.each k report hk p
      · rw [List.getElem?_append_right hge, List.getElem?_singleton] at hk
        split at hk
        case isTrue hzero =>
          obtain rfl := Option.some.inj hk
          rw [List.take_of_length_le (by rw [List.length_append, List.length_singleton]; omega), hr]
          exact hwins p
        case isFalse => exact nomatch hk
    · obtain hreport | hreport := List.mem_append.mp hreport
      · exact h.resolved report hreport
      · rwa [List.mem_singleton.mp hreport]
  cases hstep with
  | idle =>
    rw [Option.toList_none, List.append_nil]
    exact h
  | left =>
    rw [Option.toList_none, List.append_nil]
    exact ⟨h.total, h.each, h.resolved⟩
  | entered hout =>
    rw [Option.toList_none, List.append_nil]
    exact ⟨h.total, h.each, h.resolved⟩
  | unresolved hactive hin hscored hlogged hwinner =>
    refine hadd _ s.wins (fun p => ?_) rfl hwinner.symm rfl
    rw [List.countP_append, List.countP_singleton, if_neg (by simp), Nat.add_zero]
    exact h.total p
  | @scored result winner s' hactive hin hscored hwinner hs =>
    refine hadd _ (Function.update s.wins winner (s.wins winner + 1))
      (fun p => ?_) rfl hwinner.symm ?_
    · rw [List.countP_append, List.countP_singleton, Int.natCast_add, ← h.total p]
      by_cases hp : p = winner
      · obtain rfl := hp
        rw [Function.update_self, if_pos (by simp)]
        rfl
      · rw [Function.update_of_ne hp, if_neg (by simpa using fun hw => hp hw.symm)]
        exact (Int.add_zero _).symm
    · obtain rfl | rfl := hs <;> rfl

end

/-! ## The last reports -/

/-- No stay has two reports. -/
def OneEach (reports : List (Nat × ResultReport)) : Prop := reports.IsChain fun r r' => r.1 ≠ r'.1

theorem length_lastReports_le (reports : List (Nat × ResultReport)) :
    (MatchRun.lastReports reports).length ≤ reports.length := by
  fun_induction MatchRun.lastReports reports with
  | case1 => exact Nat.le_refl 0
  | case2 => exact Nat.le_refl 1
  | case3 report report' reports heq ih =>
    simp only [List.length_cons] at ih ⊢
    omega
  | case4 report report' reports hne ih =>
    simp only [List.length_cons] at ih ⊢
    omega

/-- The reports are those of the games exactly when no stay has two of them. -/
theorem lastReports_of_oneEach {reports : List (Nat × ResultReport)} (h : OneEach reports) :
    MatchRun.lastReports reports = reports.map Prod.snd := by
  fun_induction MatchRun.lastReports reports with
  | case1 => rfl
  | case2 => rfl
  | case3 report report' reports heq ih => exact absurd heq (List.isChain_cons_cons.mp h).1
  | case4 report report' reports hne ih =>
    rw [ih (List.isChain_cons_cons.mp h).2]
    rfl

theorem oneEach_of_length {reports : List (Nat × ResultReport)}
    (h : (MatchRun.lastReports reports).length = reports.length) : OneEach reports := by
  fun_induction MatchRun.lastReports reports with
  | case1 => exact .nil
  | case2 => exact .singleton _
  | case3 report report' reports heq ih =>
    have hle := length_lastReports_le (report' :: reports)
    simp only [List.length_cons] at h hle
    omega
  | case4 report report' reports hne ih =>
    exact List.isChain_cons_cons.mpr ⟨hne, ih (Nat.succ.inj h)⟩

theorem oneEach_append_singleton (reports : List (Nat × ResultReport)) (r : Nat × ResultReport) :
    OneEach (reports ++ [r]) ↔ OneEach reports ∧ ¬ ∃ last ∈ reports.getLast?, last.1 = r.1 := by
  unfold OneEach
  rw [List.isChain_append]
  constructor
  · rintro ⟨hreports, -, hlast⟩
    exact ⟨hreports, fun ⟨last, hmem, htag⟩ => hlast last hmem r rfl htag⟩
  · rintro ⟨hreports, hlast⟩
    refine ⟨hreports, .singleton r, fun last hmem r' hr' htag => hlast ⟨last, hmem, ?_⟩⟩
    obtain rfl := Option.some.inj hr'
    exact htag

/-! ## Whole runs -/

/-- Where an unresolved result has been printed, the next report of the stay is that of a winner. -/
theorem Context.resultReport_isSome_of_logged (console : Console N) (c : Context N)
    (i : Fin 16) (frame : Nat)
    (hactive : c.mvl.autoRestartAfterResult = true ∧ 1 ≤ c.mvl.targetWins)
    (hlogged : (c.runtime.instances i).resultUnresolvedLogged = true) :
    (c.resultReport console i frame).isSome = true ↔
      console.arm9Read16 kSceneCurrentSceneIDAddr c.nds = kResultsScene ∧
        (c.runtime.instances i).inResult = true ∧ (c.runtime.instances i).resultScored = false ∧
          resolveResultWinner (c.readResultSnapshot console) ≠ none := by
  have hon : (!c.mvl.autoRestartAfterResult || decide (c.mvl.targetWins < 1)) = false := by
    rw [hactive.1, decide_eq_false (by omega)]
    rfl
  unfold resultReport
  dsimp only
  rw [hon, if_neg Bool.false_ne_true, hlogged]
  by_cases hscene : console.arm9Read16 kSceneCurrentSceneIDAddr c.nds = kResultsScene
  · rw [if_neg (not_not.mpr hscene)]
    cases (c.runtime.instances i).inResult <;> cases (c.runtime.instances i).resultScored <;>
      cases resolveResultWinner (c.readResultSnapshot console) <;> simp [hscene]
  · simp [hscene]

namespace MatchRun

variable {run run' : MatchRun N} {event : ResultFrame N} {events : List (ResultFrame N)}

theorem shown_resultState (i : Fin 16) (run : MatchRun N) (event : ResultFrame N) :
    (run.shown i event).resultState i = run.context.resultState i := by
  have hupdate : (run.context.updateInstance i fun s =>
      { s with
        bootstrapCheckpoint := event.bootstrapCheckpoint
        gameplayCheckpoint := event.gameplayCheckpoint }).resultState i =
          run.context.resultState i := by
    refine Context.resultState_updateInstance (fun _ => ?_) run.context
    exact ⟨rfl, rfl, rfl, rfl⟩
  exact hupdate

theorem step_resultStep (console : Console N) (i : Fin 16) (run : MatchRun N)
    (event : ResultFrame N) :
    Context.ResultStep event.frame (run.context.resultState i)
      ((run.shown i event).resultReport console i event.frame)
      ((run.step console i event).context.resultState i) := by
  have hstep := Context.resultStep console (run.shown i event) i event.frame
  rw [shown_resultState] at hstep
  exact hstep

/-- A stay begins where the results scene is entered. -/
theorem step_visits (console : Console N) (i : Fin 16) (run : MatchRun N) (event : ResultFrame N) :
    (run.step console i event).visits =
      visitsAfter run.visits (run.context.resultState i)
        ((run.step console i event).context.resultState i) := by
  rw [← shown_resultState i run event]
  rfl

/-- The run agrees with the order of its reports, and with the wins in them. -/
structure Consistent (i : Fin 16) (run : MatchRun N) : Prop where
  ordered : Ordered (run.context.resultState i) run.visits run.reports
  counted : Counted (run.context.resultState i) (run.reports.map Prod.snd)

/-- Each frame keeps what is known of the reports. -/
theorem Consistent.next (h : run.Consistent i) (console : Console N) (event : ResultFrame N) :
    (run.step console i event).Consistent i := by
  have hstep := step_resultStep console i run event
  constructor
  · rw [step_visits]
    exact h.ordered.next hstep
  · have hreports : (run.step console i event).reports.map Prod.snd =
        run.reports.map Prod.snd ++
          ((run.shown i event).resultReport console i event.frame).toList := by
      change (run.reports ++ (Option.map (fun r => (run.visits, r)) _).toList).map Prod.snd = _
      rw [List.map_append]
      congr 1
      cases (run.shown i event).resultReport console i event.frame <;> rfl
    rw [hreports]
    exact h.counted.next hstep

/-- A late winner is what gives a stay a second report. -/
theorem oneEach_step (h : run.Consistent i) (console : Console N) (event : ResultFrame N) :
    OneEach (run.step console i event).reports ↔
      OneEach run.reports ∧ ¬ run.LateWinner console i event := by
  have hstate := shown_resultState i run event
  have hlate : run.LateWinner console i event ↔
      ((run.shown i event).resultReport console i event.frame).isSome = true ∧
        ((run.shown i event).runtime.instances i).resultUnresolvedLogged = true := by
    have hiff (hlogged : ((run.shown i event).runtime.instances i).resultUnresolvedLogged = true) :=
      Context.resultReport_isSome_of_logged console (run.shown i event) i event.frame
        (h.ordered.active (by rw [← hstate]; exact hlogged)) hlogged
    constructor
    · rintro ⟨hscene, hin, hscored, hlogged, hwinner⟩
      exact ⟨(hiff hlogged).mpr ⟨hscene, hin, hscored, hwinner⟩, hlogged⟩
    · rintro ⟨hsome, hlogged⟩
      obtain ⟨hscene, hin, hscored, hwinner⟩ := (hiff hlogged).mp hsome
      exact ⟨hscene, hin, hscored, hlogged, hwinner⟩
  have hreports : (run.step console i event).reports = run.reports ++
      (((run.shown i event).resultReport console i event.frame).map fun r =>
        (run.visits, r)).toList := rfl
  have hstep := step_resultStep console i run event
  rw [hreports, hlate]
  generalize (run.shown i event).resultReport console i event.frame = report at hstep
  generalize (run.step console i event).context.resultState i = s' at hstep
  cases report with
  | none =>
    rw [Option.map_none, Option.toList_none, List.append_nil]
    exact ⟨fun hone => ⟨hone, fun hsome => nomatch hsome.1⟩, And.left⟩
  | some r =>
    have hcurrent : (run.context.resultState i).inResult = true ∧
        (run.context.resultState i).resultScored = false := by
      cases hstep with
      | unresolved _ hin hscored => exact ⟨hin, hscored⟩
      | scored hactive hin hscored => exact ⟨hin, hscored⟩
    have hiff := h.ordered.current hcurrent.1
    rw [hcurrent.2, ← hstate] at hiff
    rw [Option.map_some, Option.toList_some, oneEach_append_singleton]
    refine and_congr_right fun _ => not_congr (hiff.trans ?_)
    exact ⟨fun hlogged => ⟨rfl, hlogged.resolve_right Bool.false_ne_true⟩,
      fun hlogged => .inl hlogged.2⟩

theorem consistent_run (h : run.Consistent i)
    (hrun : Run.run (next console i) run events = some run') :
    run'.Consistent i := by
  have hstep : ∀ (run : MatchRun N) (event : ResultFrame N) (run' : MatchRun N),
      run.Consistent i → next console i run event = some run' → run'.Consistent i := by
    intro run event run' h hnext
    obtain rfl := Option.some.inj hnext
    exact h.next console event
  exact Run.run_invariant' hstep h hrun

/-- No stay has two reports exactly when no winner is found late. -/
theorem oneEach_run (h : run.Consistent i)
    (hrun : Run.run (next console i) run events = some run') :
    OneEach run'.reports ↔ OneEach run.reports ∧
      Run.Along (next console i)
        (fun run event => ¬ run.LateWinner console i event) run events := by
  induction events generalizing run with
  | nil =>
    obtain rfl := Option.some.inj hrun
    exact ⟨fun hone => ⟨hone, trivial⟩, And.left⟩
  | cons event events ih =>
    obtain ⟨run₁, hnext, hrun⟩ := Run.run_cons_eq_some hrun
    obtain rfl := Option.some.inj hnext
    rw [ih (h.next console event) hrun, oneEach_step h]
    constructor
    · rintro ⟨⟨hone, hlate⟩, halong⟩
      refine ⟨hone, hlate, fun run₂ hnext => ?_⟩
      obtain rfl := Option.some.inj hnext
      exact halong
    · rintro ⟨hone, hlate, halong⟩
      exact ⟨⟨hone, hlate⟩, halong _ rfl⟩

/-- A fresh instance, before the first game. -/
theorem consistent_start {context : Context N}
    (hin : (context.runtime.instances i).inResult = false)
    (hscored : (context.runtime.instances i).resultScored = false)
    (hlogged : (context.runtime.instances i).resultUnresolvedLogged = false)
    (hwins : (context.runtime.instances i).wins = fun _ => 0) : (start context).Consistent i where
  ordered :=
    { outside := fun _ => hscored
      active := fun hactive => by
        have : (context.runtime.instances i).resultUnresolvedLogged = true := hactive
        rw [hlogged] at this
        exact nomatch this
      last_le := fun _ hr => nomatch hr
      current := fun hactive => by
        have : (context.runtime.instances i).inResult = true := hactive
        rw [hin] at this
        exact nomatch this }
  counted :=
    { total := fun p => by
        change (context.runtime.instances i).wins p = _
        rw [hwins]
        rfl
      each := fun _ _ hk => nomatch hk
      resolved := fun _ hr => nomatch hr }

end MatchRun

end Bigstar.Netplay.MvlLifecycle
