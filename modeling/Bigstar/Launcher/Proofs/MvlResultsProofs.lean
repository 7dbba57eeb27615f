import Bigstar.Launcher.Proofs.ResultLineProofs
import Bigstar.Netplay.Proofs.MvlResultLogProofs

/-!
# The launcher's list of results is that of the match

The lines of the standard output come back out of the text, those that are not results are skipped,
and each report becomes an entry with the wins that the emulator counted. So the list has an entry
for every report, and one for every game exactly when no game has two reports.
-/

namespace Bigstar.Launcher

open CText Netplay.MvlRuntime Netplay.MvlLifecycle

/-! ## Lines -/

theorem splitInclusive_line (line rest : Text) (h : '\n' ∉ line) :
    splitInclusive (line ++ '\n' :: rest) = (line ++ ['\n']) :: splitInclusive rest := by
  induction line with
  | nil => rfl
  | cons c line ih =>
    rw [List.mem_cons, not_or] at h
    rw [List.cons_append, splitInclusive, if_neg (Ne.symm h.1), ih h.2]
    rfl

/-- Lines end as they do on the system. -/
def lineEnd (crlf : Bool) : Text := if crlf then ['\r', '\n'] else ['\n']

/-- The lines of the output, as the launcher sees them. -/
theorem textLines_stdoutText (crlf : Bool) {lines : List Text} (h : ∀ line ∈ lines, '\n' ∉ line) :
    textLines (stdoutText crlf lines) = lines.map fun line =>
      stripLineEnd (line ++ lineEnd crlf) := by
  induction lines with
  | nil => rfl
  | cons line lines ih =>
    have hline := h line List.mem_cons_self
    have hlines := ih fun line hmem => h line (List.mem_cons_of_mem _ hmem)
    have hsplit : splitInclusive (stdoutText crlf (line :: lines))
        = (line ++ lineEnd crlf) :: splitInclusive (stdoutText crlf lines) := by
      have hcons : stdoutText crlf (line :: lines) = line ++ lineEnd crlf ++
        stdoutText crlf lines := rfl
      rw [hcons]
      cases crlf with
      | false =>
        change splitInclusive (line ++ ['\n'] ++ _) = _
        rw [List.append_assoc]
        exact splitInclusive_line line _ hline
      | true =>
        have hcr : '\n' ∉ line ++ ['\r'] := by
          rw [List.mem_append, not_or]
          exact ⟨hline, by decide⟩
        have hend : line ++ lineEnd true ++ stdoutText true lines
            = (line ++ ['\r']) ++ '\n' :: stdoutText true lines := by
          simp [lineEnd]
        rw [hend, splitInclusive_line _ _ hcr]
        simp [lineEnd]
    unfold textLines at hlines ⊢
    rw [hsplit, List.map_cons, hlines, List.map_cons]

/-- Nothing is added to a line. -/
theorem stripLineEnd_prefix_line (crlf : Bool) (line : Text) :
    stripLineEnd (line ++ lineEnd crlf) <+: line := by
  cases crlf with
  | false =>
    unfold stripLineEnd lineEnd
    rw [if_neg Bool.false_ne_true, List.getLast?_concat, if_pos rfl, List.dropLast_concat]
    dsimp only
    split
    · exact List.dropLast_prefix line
    · exact List.prefix_refl line
  | true =>
    have hend : line ++ lineEnd true = (line ++ ['\r']) ++ ['\n'] := by simp [lineEnd]
    unfold stripLineEnd
    rw [hend, List.getLast?_concat, if_pos rfl, List.dropLast_concat]
    dsimp only
    rw [List.getLast?_concat, if_pos rfl, List.dropLast_concat]

/-- A line without a carriage return comes back as it was. -/
theorem stripLineEnd_of_not_mem (crlf : Bool) {line : Text} (h : '\r' ∉ line) :
    stripLineEnd (line ++ lineEnd crlf) = line := by
  cases crlf with
  | false =>
    unfold stripLineEnd lineEnd
    rw [if_neg Bool.false_ne_true, List.getLast?_concat, if_pos rfl, List.dropLast_concat]
    exact if_neg fun hlast => h (List.mem_of_getLast? hlast)
  | true =>
    have hend : line ++ lineEnd true = (line ++ ['\r']) ++ ['\n'] := by simp [lineEnd]
    unfold stripLineEnd
    rw [hend, List.getLast?_concat, if_pos rfl, List.dropLast_concat]
    dsimp only
    rw [List.getLast?_concat, if_pos rfl, List.dropLast_concat]

/-- A line that is not a result. -/
def OtherLine (line : Text) : Prop := '\n' ∉ line ∧ ¬ kResultPrefix <+: line

theorem parseMvlResultLine_other (crlf : Bool) {line : Text} (h : OtherLine line) :
    parseMvlResultLine (stripLineEnd (line ++ lineEnd crlf)) = none := by
  unfold parseMvlResultLine
  refine if_pos ?_
  rw [Bool.not_eq_true', Bool.eq_false_iff, ne_eq, List.isPrefixOf_iff_prefix]
  exact fun hstart => h.2 (hstart.trans (stripLineEnd_prefix_line crlf line))

/-! ## The line of a report -/

variable {i : Fin 16} {targetWins : Int} {report : ResultReport}

/-- The only blank of a result line is the space. -/
theorem ends_notMem_line (h : Fits targetWins report) {c : Char} (hc : isWhitespace c = true)
    (hspace : c ≠ ' ') :
    c ∉ report.line i targetWins := by
  have hstart : ∀ unresolved : Bool, ∀ c ∈ if unresolved then kUnresolvedPrefix else kResultPrefix,
      isWhitespace c = true → c = ' ' := by
    intro unresolved
    have hall : (if unresolved then kUnresolvedPrefix else kResultPrefix).all
        (fun c => !isWhitespace c || decide (c = ' ')) = true := by
      cases unresolved <;> decide +kernel
    intro c hmem hblank
    simpa [hblank] using List.all_eq_true.mp hall c hmem
  intro hmem
  unfold ResultReport.line at hmem
  obtain hmem | hmem := List.mem_append.mp hmem
  · exact hspace (hstart report.winner.isNone c hmem hc)
  · obtain ⟨field, hfield, hmem⟩ := List.mem_flatMap.mp hmem
    have hvalue := wordValue_fields h field hfield
    obtain rfl | hmem := List.mem_cons.mp hmem
    · exact hspace rfl
    · obtain hmem | hmem := List.mem_append.mp hmem
      · rw [isWhitespace_name field.1 c hmem] at hc
        exact nomatch hc
      · obtain rfl | hmem := List.mem_cons.mp hmem
        · exact nomatch hc
        · rw [hvalue c hmem] at hc
          exact nomatch hc

theorem parseMvlResultLine_report (crlf : Bool) (h : Fits targetWins report)
    (hwinner : report.winner = resolveResultWinner report.result) :
    parseMvlResultLine (stripLineEnd (report.line i targetWins ++ lineEnd crlf))
      = some (lineResult i targetWins report) := by
  rw [stripLineEnd_of_not_mem crlf (ends_notMem_line h (by decide) (by decide))]
  exact parseMvlResultLine_line h hwinner

/-! ## The list -/

/-- The entry counts as a win of the player. -/
def MvlStageResult.wonBy (player : Nat) (result : MvlStageResult) : Bool :=
  decide (result.winner = some player ∧ result.resolved)

/-- An entry gets the wins of the entries up to it. -/
theorem getElem?_applyCorrectedMatchWins (marioWins luigiWins : Nat)
    (results : List MvlStageResult) (k : Nat) :
    (applyCorrectedMatchWins marioWins luigiWins results)[k]? = results[k]?.map fun result =>
      { result with
        marioMatchWins := marioWins + (results.take (k + 1)).countP (·.wonBy 0)
        luigiMatchWins := luigiWins + (results.take (k + 1)).countP (·.wonBy 1) } := by
  have hwon : ∀ (player wins : Nat) (result : MvlStageResult),
      (if result.winner = some player ∧ result.resolved = true then wins + 1 else wins)
        = wins + if result.wonBy player = true then 1 else 0 := by
    intro player wins result
    unfold MvlStageResult.wonBy
    by_cases h : result.winner = some player ∧ result.resolved = true <;> simp [h]
  induction results generalizing marioWins luigiWins k with
  | nil => rfl
  | cons result results ih =>
    unfold applyCorrectedMatchWins
    rw [hwon, hwon]
    cases k with
    | zero => simp [List.countP_singleton]
    | succ k =>
      rw [List.getElem?_cons_succ, List.getElem?_cons_succ, ih, List.take_succ_cons]
      congr 1
      funext result'
      rw [List.countP_cons, List.countP_cons]
      congr 1 <;> omega

/-- The list mirrors the games of a match. -/
structure Mirrors (stages : List UInt8) (games : List ResultReport)
    (results : List MvlStageResult) : Prop where
  length_eq : results.length = games.length
  entry : ∀ k game result, games[k]? = some game → results[k]? = some result →
    result.gameIndex = k + 1 ∧ result.stage = stages[k]? ∧ result.winner = game.winner.map Fin.val ∧
      (result.marioMatchWins : Int) = game.wins 0 ∧ (result.luigiMatchWins : Int) = game.wins 1

/-- The entries of the reports, numbered. -/
def numberedResults (stages : List UInt8) (i : Fin 16) (targetWins : Int)
    (reports : List ResultReport) : List MvlStageResult :=
  (reports.map (lineResult i targetWins)).mapIdx fun index result =>
    { result with gameIndex := index + 1, stage := stages[index]? }

/-- The list that `read_mvl_results` makes of the reports. -/
def reportedResults (stages : List UInt8) (i : Fin 16) (targetWins : Int)
    (reports : List ResultReport) : List MvlStageResult :=
  applyCorrectedMatchWins 0 0 (numberedResults stages i targetWins reports)

variable {stages : List UInt8} {reports : List ResultReport}

theorem length_applyCorrectedMatchWins (marioWins luigiWins : Nat) (results : List MvlStageResult) :
    (applyCorrectedMatchWins marioWins luigiWins results).length = results.length := by
  induction results generalizing marioWins luigiWins with
  | nil => rfl
  | cons result results ih => simp [applyCorrectedMatchWins, ih]

theorem length_reportedResults :
    (reportedResults stages i targetWins reports).length = reports.length := by
  unfold reportedResults numberedResults
  rw [length_applyCorrectedMatchWins, List.length_mapIdx, List.length_map]

/-- The wins that the launcher counts are those that the emulator has counted. -/
theorem countP_numberedResults (stages : List UInt8) (i : Fin 16) (targetWins : Int)
    (reports : List ResultReport) (player : Fin 2) (k : Nat) :
    ((numberedResults stages i targetWins reports).take k).countP (·.wonBy player)
      = (reports.take k).countP fun report => report.winner = some player := by
  have hwon : ∀ report : ResultReport, (lineResult i targetWins report).wonBy player
      = decide (report.winner = some player) := by
    intro report
    unfold MvlStageResult.wonBy lineResult
    cases hwinner : report.winner with
    | none => simp
    | some winner => simp [Fin.ext_iff]
  have hmap : (numberedResults stages i targetWins reports).map (·.wonBy player)
      = reports.map fun report => decide (report.winner = some player) := by
    unfold numberedResults
    apply List.ext_getElem?
    intro k
    rw [List.getElem?_map, List.getElem?_mapIdx, List.getElem?_map, List.getElem?_map]
    cases reports[k]? with
    | none => rfl
    | some report => exact congrArg some (hwon report)
  have hcount : ∀ {α : Type} (p : α → Bool) (l : List α), l.countP p = (l.map p).countP id :=
    fun p l => (List.countP_map (p := id) (f := p)).symm
  rw [hcount, List.map_take, hmap, ← List.map_take]
  exact (hcount _ _).symm

theorem mirrors_reportedResults {s : ResultState} (h : Counted s reports) :
    Mirrors stages reports (reportedResults stages i targetWins reports) := by
  refine ⟨length_reportedResults, fun k game result hgame hresult => ?_⟩
  have hmario := countP_numberedResults stages i targetWins reports 0 (k + 1)
  have hluigi := countP_numberedResults stages i targetWins reports 1 (k + 1)
  have hnumbered : (numberedResults stages i targetWins reports)[k]?
      = some { lineResult i targetWins game with gameIndex := k + 1, stage := stages[k]? } := by
    unfold numberedResults
    rw [List.getElem?_mapIdx, List.getElem?_map, hgame]
    rfl
  unfold reportedResults at hresult
  rw [getElem?_applyCorrectedMatchWins, hnumbered] at hresult
  obtain rfl := Option.some.inj hresult
  refine ⟨rfl, rfl, rfl, ?_, ?_⟩
  · rw [h.each k game hgame 0, ← hmario]
    exact congrArg Int.ofNat (Nat.zero_add _)
  · rw [h.each k game hgame 1, ← hluigi]
    exact congrArg Int.ofNat (Nat.zero_add _)

/-! ## The output of a match -/

/-- A console whose reads are as wide as they say. -/
structure BoundedReads {N : Type} (console : Console N) : Prop where
  arm9Read32 : ∀ addr nds, console.arm9Read32 addr nds < 2 ^ 32
  arm9Read8 : ∀ addr nds, console.arm9Read8 addr nds < 2 ^ 8

/-- The counters of a report have 32 bits. -/
structure Sized (report : ResultReport) : Prop where
  frame : report.frame < 2 ^ 32
  battleStars : ∀ p, report.result.battleStars p < 2 ^ 32
  displayedStars : ∀ p, report.result.displayedStars p < 2 ^ 32
  collectedStars : ∀ p, report.result.collectedStars p < 2 ^ 32
  lives : ∀ p, report.result.lives p < 2 ^ 32
  deaths : ∀ p, report.result.deaths p < 2 ^ 32
  dead : ∀ p, report.result.dead p < 2 ^ 32

section Output

variable {N : Type} {console : Console N} {context : Context N} {run run' : MatchRun N}
  {event : ResultFrame N} {events : List (ResultFrame N)}

theorem sized_of_eq_some (hreads : BoundedReads console) {c : Context N} {frame : Nat}
    (hlives : c.mvl.initialLives < 2 ^ 32) (hframe : frame < 2 ^ 32)
    (h : c.resultReport console i frame = some report) : Sized report := by
  obtain ⟨hreport, hresult⟩ := Context.resultReport_of_eq_some h
  have hsnapshot (f : ResultSnapshot → Fin 2 → Nat) (p : Fin 2)
      (hf : f (c.readResultSnapshot console) p < 2 ^ 32) : f report.result p < 2 ^ 32 := by
    rw [hresult]
    exact hf
  refine ⟨hreport ▸ hframe, fun p => hsnapshot (·.battleStars) p (hreads.arm9Read32 _ _),
    fun p => hsnapshot (·.displayedStars) p (hreads.arm9Read32 _ _),
    fun p => hsnapshot (·.collectedStars) p (hreads.arm9Read32 _ _),
    fun p => hsnapshot (·.lives) p ?_, fun p => hsnapshot (·.deaths) p ?_,
    fun p => hsnapshot (·.dead) p (Nat.lt_trans (hreads.arm9Read8 _ _) (by decide))⟩
  · unfold Context.readResultSnapshot
    dsimp only
    split
    · exact Nat.two_pow_pos 32
    · exact hreads.arm9Read32 _ _
  · unfold Context.readResultSnapshot
    dsimp only
    split
    · exact Nat.max_lt.mpr ⟨hreads.arm9Read32 _ _, hlives⟩
    · exact hreads.arm9Read32 _ _

/-- What every frame is: its number has 32 bits, and what else is printed is not a result. -/
structure FrameOk (event : ResultFrame N) : Prop where
  frame : event.frame < 2 ^ 32
  before : ∀ line ∈ event.before, OtherLine line
  after : ∀ line ∈ event.after, OtherLine line

/-- The lines of a run are those of its reports, where the reports fit. -/
structure Printed (crlf : Bool) (i : Fin 16) (targetWins : Int) (initialLives : Nat)
    (run : MatchRun N) : Prop where
  targetWins_eq : (run.context.resultState i).targetWins = targetWins
  initialLives_eq : (run.context.resultState i).initialLives = initialLives
  sized : ∀ r ∈ run.reports, Sized r.2 ∧ 1 ≤ targetWins
  newline : (∀ r ∈ run.reports, Fits targetWins r.2) → ∀ line ∈ run.lines, '\n' ∉ line
  parsed : (∀ r ∈ run.reports, Fits targetWins r.2) →
    (∀ r ∈ run.reports, r.2.winner = resolveResultWinner r.2.result) →
    run.lines.filterMap (fun line => parseMvlResultLine (stripLineEnd (line ++ lineEnd crlf)))
      = run.reports.map fun r => lineResult i targetWins r.2

theorem filterMap_parse_other (crlf : Bool) {lines : List Text}
    (h : ∀ line ∈ lines, OtherLine line) :
    lines.filterMap (fun line => parseMvlResultLine (stripLineEnd (line ++ lineEnd crlf))) =
      [] := by
  rw [List.filterMap_eq_nil_iff]
  exact fun line hline => parseMvlResultLine_other crlf (h line hline)

theorem Printed.next {crlf : Bool} {initialLives : Nat}
    (h : Printed crlf i targetWins initialLives run)
    (hreads : BoundedReads console) (hlives : initialLives < 2 ^ 32) (hevent : FrameOk event) :
    Printed crlf i targetWins initialLives (run.step console i event) := by
  have hstep := MatchRun.step_resultStep console i run event
  have hstate := MatchRun.shown_resultState i run event
  have hreports : (run.step console i event).reports = run.reports ++
      (((run.shown i event).resultReport console i event.frame).map fun r =>
        (run.visits, r)).toList := rfl
  have hlines : (run.step console i event).lines = run.lines ++ event.before ++
      (((run.shown i event).resultReport console i event.frame).map
        (·.line i (run.shown i event).mvl.targetWins)).toList ++ event.after := rfl
  have htarget : (run.shown i event).mvl.targetWins = targetWins := h.targetWins_eq
  have hinitial : (run.shown i event).mvl.initialLives = initialLives := h.initialLives_eq
  have hbefore := filterMap_parse_other crlf hevent.before
  have hafter := filterMap_parse_other crlf hevent.after
  rw [htarget] at hlines
  have hconfig := hstep.config
  cases hreport : (run.shown i event).resultReport console i event.frame with
  | none =>
    rw [hreport, Option.map_none, Option.toList_none, List.append_nil] at hreports hlines
    refine ⟨hconfig.1.trans h.targetWins_eq, hconfig.2.trans h.initialLives_eq, ?_, ?_, ?_⟩
    · rw [hreports]
      exact h.sized
    · rw [hreports, hlines]
      intro hfits line hline
      simp only [List.mem_append] at hline
      obtain (hline | hline) | hline := hline
      · exact h.newline hfits line hline
      · exact (hevent.before line hline).1
      · exact (hevent.after line hline).1
    · rw [hreports, hlines]
      intro hfits hwinner
      rw [List.filterMap_append, List.filterMap_append, hbefore, hafter, h.parsed hfits hwinner,
        List.append_nil, List.append_nil]
  | some report =>
    rw [hreport, Option.map_some, Option.toList_some] at hreports hlines
    rw [hreport] at hstep
    have hone : 1 ≤ targetWins := h.targetWins_eq ▸ hstep.active
    have hsized := sized_of_eq_some hreads (hinitial ▸ hlives) hevent.frame hreport
    refine ⟨hconfig.1.trans h.targetWins_eq, hconfig.2.trans h.initialLives_eq, ?_, ?_, ?_⟩
    · rw [hreports]
      intro r hr
      obtain hr | hr := List.mem_append.mp hr
      · exact h.sized r hr
      · obtain rfl := List.mem_singleton.mp hr
        exact ⟨hsized, hone⟩
    · rw [hreports, hlines]
      intro hfits line hline
      have hlast : Fits targetWins report :=
        hfits _ (List.mem_append_right _ (List.mem_singleton.mpr rfl))
      simp only [List.mem_append, List.mem_singleton] at hline
      obtain ((hline | hline) | rfl) | hline := hline
      · exact h.newline (fun r hr => hfits r (List.mem_append_left _ hr)) line hline
      · exact (hevent.before line hline).1
      · exact ends_notMem_line hlast (by decide) (by decide)
      · exact (hevent.after line hline).1
    · rw [hreports, hlines]
      intro hfits hwinner
      have hmem : (run.visits, report) ∈ run.reports ++ [(run.visits, report)] :=
        List.mem_append_right _ (List.mem_singleton.mpr rfl)
      have hparse : parseMvlResultLine (stripLineEnd (report.line i targetWins ++ lineEnd crlf))
          = some (lineResult i targetWins report) :=
        parseMvlResultLine_report crlf (hfits _ hmem) (hwinner _ hmem)
      rw [List.filterMap_append, List.filterMap_append, List.filterMap_append, hbefore, hafter,
        h.parsed (fun r hr => hfits r (List.mem_append_left _ hr))
          (fun r hr => hwinner r (List.mem_append_left _ hr)),
        List.append_nil, List.append_nil, List.map_append, List.map_singleton]
      congr 1
      simp only [List.filterMap_cons, List.filterMap_nil, hparse]

theorem printed_run {crlf : Bool} {initialLives : Nat}
    (h : Printed crlf i targetWins initialLives run)
    (hreads : BoundedReads console) (hlives : initialLives < 2 ^ 32)
    (hevents : ∀ event ∈ events, FrameOk event)
    (hrun : Run.run (MatchRun.next console i) run events = some run') :
    Printed crlf i targetWins initialLives run' := by
  have hstep : ∀ (run : MatchRun N) (event : ResultFrame N) (run' : MatchRun N),
      Printed crlf i targetWins initialLives run → FrameOk event →
        MatchRun.next console i run event = some run' →
          Printed crlf i targetWins initialLives run' := by
    intro run event run' h hevent hnext
    obtain rfl := Option.some.inj hnext
    exact h.next hreads hlives hevent
  exact Run.run_invariant_of_forall hstep h hevents hrun

theorem printed_start (crlf : Bool) (i : Fin 16) (context : Context N) :
    Printed crlf i context.mvl.targetWins context.mvl.initialLives (MatchRun.start context) where
  targetWins_eq := rfl
  initialLives_eq := rfl
  sized := fun _ hr => nomatch hr
  newline := fun _ _ hline => nomatch hline
  parsed := fun _ _ => rfl

/-- The reports of a run fit, as long as the counter of the wins has not overflowed. -/
theorem fits_of_printed {crlf : Bool} {initialLives : Nat}
    (h : Printed crlf i targetWins initialLives run)
    (hconsistent : run.Consistent i) (htarget : targetWins < 2 ^ 31)
    (hwins : ∀ p, (run.context.runtime.instances i).wins p < 2 ^ 31) :
    ∀ r ∈ run.reports, Fits targetWins r.2 := by
  intro r hr
  obtain ⟨hsized, hone⟩ := h.sized r hr
  obtain ⟨k, hk⟩ := List.mem_iff_getElem?.mp hr
  have hk' : (run.reports.map Prod.snd)[k]? = some r.2 := by
    rw [List.getElem?_map, hk, Option.map_some]
  refine ⟨hsized.frame, hsized.battleStars, hsized.displayedStars,
    hsized.collectedStars, hsized.lives,
    hsized.deaths, hsized.dead, fun p => ?_, by omega, htarget⟩
  have heach := hconsistent.counted.each k r.2 hk' p
  have htotal := hconsistent.counted.total p
  have hle := (List.take_sublist (k + 1) (run.reports.map Prod.snd)).countP_le
    (p := fun r => decide (r.winner = some p))
  have hbound := hwins p
  change (run.context.runtime.instances i).wins p = _ at htotal
  omega

/-- What the launcher reads back is the list of the reports. -/
theorem mvlResultsOfText_printed {crlf : Bool} {initialLives : Nat}
    (h : Printed crlf i targetWins initialLives run) (hconsistent : run.Consistent i)
    (hfits : ∀ r ∈ run.reports, Fits targetWins r.2) (stages : List UInt8) :
    mvlResultsOfText stages (stdoutText crlf run.lines)
      = reportedResults stages i targetWins (run.reports.map Prod.snd) := by
  have hparsed := h.parsed hfits fun r hr =>
    hconsistent.counted.resolved r.2 (List.mem_map_of_mem hr)
  have hlines := textLines_stdoutText crlf (h.newline hfits)
  have hresults : (textLines (stdoutText crlf run.lines)).filterMap parseMvlResultLine
      = (run.reports.map Prod.snd).map (lineResult i targetWins) := by
    rw [hlines, List.filterMap_map, List.map_map]
    exact hparsed
  unfold mvlResultsOfText reportedResults numberedResults
  split
  case isTrue hempty =>
    rw [hempty] at hresults
    rw [← hresults]
    rfl
  case isFalse =>
    rw [hresults]

/-- The launcher's list mirrors the match exactly when no winner is found in a stay in the results
scene that has printed an unresolved result before. -/
theorem mvl_results_mirror_iff {N : Type} {console : Console N} (hreads : BoundedReads console)
    {context : Context N} {i : Fin 16} (hin : (context.runtime.instances i).inResult = false)
    (hscored : (context.runtime.instances i).resultScored = false)
    (hlogged : (context.runtime.instances i).resultUnresolvedLogged = false)
    (hzero : (context.runtime.instances i).wins = fun _ => 0)
    (hlives : context.mvl.initialLives < 2 ^ 32) (htarget : context.mvl.targetWins < 2 ^ 31)
    {events : List (ResultFrame N)} (hevents : ∀ event ∈ events, FrameOk event) {run : MatchRun N}
    (hrun : Run.run (MatchRun.next console i) (MatchRun.start context) events = some run)
    (hwins : ∀ p, (run.context.runtime.instances i).wins p < 2 ^ 31)
    (stages : List UInt8) (crlf : Bool) :
    Mirrors stages run.games (mvlResultsOfText stages (stdoutText crlf run.lines)) ↔
      Run.Along (MatchRun.next console i) (fun run event => ¬ run.LateWinner console i event)
        (MatchRun.start context) events := by
  have hstart := MatchRun.consistent_start hin hscored hlogged hzero
  have hconsistent := MatchRun.consistent_run hstart hrun
  have hprinted := printed_run (printed_start crlf i context) hreads hlives hevents hrun
  have hfits := fits_of_printed hprinted hconsistent htarget hwins
  have hone := MatchRun.oneEach_run hstart hrun
  have hempty : OneEach (MatchRun.start context).reports := .nil
  rw [mvlResultsOfText_printed hprinted hconsistent hfits]
  constructor
  · intro hmirrors
    have hlength := hmirrors.length_eq
    rw [length_reportedResults, List.length_map] at hlength
    exact (hone.mp (oneEach_of_length hlength.symm)).2
  · intro halong
    have hgames : run.games = run.reports.map Prod.snd :=
      lastReports_of_oneEach (hone.mpr ⟨hempty, halong⟩)
    rw [hgames]
    exact mirrors_reportedResults hconsistent.counted

/-! ### Two matches -/

/-- A console that is only its memory. -/
def byteConsole : Console (Nat → UInt8) where
  arm9Read8 := fun address memory => (memory address).toNat
  arm9Read16 := fun address memory => (memory address).toNat + 2 ^ 8 * (memory (address + 1)).toNat
  arm9Read32 := fun address memory =>
    (memory address).toNat + 2 ^ 8 * (memory (address + 1)).toNat +
      2 ^ 16 * (memory (address + 2)).toNat
      + 2 ^ 24 * (memory (address + 3)).toNat
  arm9Write8 := fun address value memory => Function.update memory address (UInt8.ofNat value)
  arm9Write16 := fun _ _ memory => memory
  arm9Write32 := fun _ _ memory => memory
  doSavestate := fun _ memory => (memory, false)
  hasNDSCart := fun _ => true
  reset := fun _ _ => 0
  directBoot := id

theorem boundedReads_byteConsole : BoundedReads byteConsole where
  arm9Read32 := fun address memory => by
    have h0 := (memory address).toNat_lt
    have h1 := (memory (address + 1)).toNat_lt
    have h2 := (memory (address + 2)).toNat_lt
    have h3 := (memory (address + 3)).toNat_lt
    change _ + 2 ^ 8 * _ + 2 ^ 16 * _ + 2 ^ 24 * _ < _
    omega
  arm9Read8 := fun address memory => (memory address).toNat_lt

/-- A match of one game, of which the player with the most stars is the winner. -/
def shortMatch : Context (Nat → UInt8) where
  mvl := { targetWins := 1, autoRestartAfterResult := true }
  connection := {}
  nds := fun _ => 0

/-- The results scene, with the stars of player 0. -/
def resultsFrame (frame : Nat) (stars : UInt8) : ResultFrame (Nat → UInt8) where
  frame := frame
  nds := fun address =>
    if address = kSceneCurrentSceneIDAddr then 0x0A
    else if address = kGamePlayerBattleStarsAddr then stars
    else 0
  before := ["NSMB rollback: frame done".toList]

/-- The emulator after these frames. -/
def playedMatch (events : List (ResultFrame (Nat → UInt8))) : MatchRun (Nat → UInt8) :=
  Run.final (MatchRun.next byteConsole 0) (MatchRun.start shortMatch) events

theorem frameOk_resultsFrame {frame : Nat} (h : frame < 2 ^ 32) (stars : UInt8) :
    FrameOk (resultsFrame frame stars) where
  frame := h
  before := fun line hline => by
    rw [List.mem_singleton.mp hline]
    refine ⟨by decide +kernel, ?_⟩
    rw [← List.isPrefixOf_iff_prefix]
    decide +kernel
  after := fun _ hline => nomatch hline

/-- The stage of the next game. -/
def stageFrame (frame : Nat) : ResultFrame (Nat → UInt8) where
  frame := frame
  nds := fun _ => 0

/-- A game that stays a draw for 500 frames of its results, and one that player 0 wins. -/
def twoGames : List (ResultFrame (Nat → UInt8)) :=
  [resultsFrame 5000 0, resultsFrame 5500 0, stageFrame 5600, resultsFrame 9000 3,
    resultsFrame 9001 3]

theorem frameOk_stageFrame {frame : Nat} (h : frame < 2 ^ 32) : FrameOk (stageFrame frame) where
  frame := h
  before := fun _ hline => nomatch hline
  after := fun _ hline => nomatch hline

/-- The launcher lists both games, the first one without a winner. -/
theorem two_games_mirrored :
    Mirrors [3, 4] (playedMatch twoGames).games
        (mvlResultsOfText [3, 4] (stdoutText true (playedMatch twoGames).lines)) ∧
      (playedMatch twoGames).games.map (·.winner) = [none, some 0] := by
  have hevents : ∀ event ∈ twoGames, FrameOk event := by
    intro event hevent
    simp only [twoGames, List.mem_cons, List.not_mem_nil, or_false] at hevent
    obtain rfl | rfl | rfl | rfl | rfl := hevent
    · exact frameOk_resultsFrame (by decide) 0
    · exact frameOk_resultsFrame (by decide) 0
    · exact frameOk_stageFrame (by decide)
    · exact frameOk_resultsFrame (by decide) 3
    · exact frameOk_resultsFrame (by decide) 3
  have hrun := Run.run_eq_final (MatchRun.next byteConsole 0)
    (MatchRun.start shortMatch) twoGames (by decide)
  have hwins : ∀ p, ((playedMatch twoGames).context.runtime.instances 0).wins p < 2 ^ 31 := by
    decide +kernel
  have hnone : Run.Along (MatchRun.next byteConsole 0)
      (fun run event => ¬ run.LateWinner byteConsole 0 event)
        (MatchRun.start shortMatch) twoGames := by
    unfold MatchRun.LateWinner
    decide +kernel
  refine ⟨(mvl_results_mirror_iff boundedReads_byteConsole rfl rfl rfl rfl (by decide)
    (by decide) hevents hrun
    hwins [3, 4] true).mpr hnone, ?_⟩
  decide +kernel

/-- The game is a draw for 500 frames, and the emulator says so. Then player 0 gets a star. The
launcher lists two games. -/
theorem one_game_listed_twice :
    (playedMatch [resultsFrame 5000 0, resultsFrame 5500 0, resultsFrame 5501 1]).games.length = 1 ∧
      ¬ Mirrors [3] (playedMatch
        [resultsFrame 5000 0, resultsFrame 5500 0, resultsFrame 5501 1]).games
        (mvlResultsOfText [3]
          (stdoutText true
            (playedMatch [resultsFrame 5000 0, resultsFrame 5500 0,
              resultsFrame 5501 1]).lines)) := by
  have hgames :
      (playedMatch [resultsFrame 5000 0, resultsFrame 5500 0, resultsFrame 5501 1]).games.length =
      1 := by
    decide +kernel
  refine ⟨hgames, fun hmirrors => ?_⟩
  have hlength := hmirrors.length_eq
  rw [hgames] at hlength
  revert hlength
  decide +kernel

end Output

end Bigstar.Launcher
