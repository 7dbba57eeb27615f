import Bigstar.Launcher.LogCapture
import Bigstar.Launcher.Proofs.MvlResultsProofs

/-!
# What the two log files give back

The two files hold the last bytes that have been captured, cut at multiples of the limit. What the
reader makes of them is the end of the captured text, or less where a cut is within a character. So
the results are those of the whole text exactly when the bytes in front have none.
-/

namespace Bigstar.Launcher

open CText

/-! ## Lines of a text that is cut -/

theorem splitInclusive_of_notMem {line : Text} (h : '\n' ∉ line) (hne : line ≠ []) :
    splitInclusive line = [line] := by
  induction line with
  | nil => exact absurd rfl hne
  | cons c line ih =>
    rw [List.mem_cons, not_or] at h
    rw [splitInclusive, if_neg (Ne.symm h.1)]
    cases line with
    | nil => rfl
    | cons c' line => rw [ih h.2 (List.cons_ne_nil c' line)]

/-- A cut behind a newline is a cut between two lines. -/
theorem splitInclusive_append (left right : Text) :
    splitInclusive (left ++ '\n' :: right) = splitInclusive (left ++ ['\n']) ++
      splitInclusive right := by
  induction left with
  | nil => rfl
  | cons c left ih =>
    by_cases hc : c = '\n'
    · simp only [List.cons_append, splitInclusive, if_pos hc, ih]
    · simp only [List.cons_append, splitInclusive, if_neg hc, ih]
      cases hlines : splitInclusive (left ++ ['\n']) with
      | cons line lines => rfl
      | nil =>
        -- A text that ends with a newline has a line.
        exfalso
        cases left with
        | nil => exact absurd hlines (List.cons_ne_nil _ _)
        | cons c' left =>
          by_cases hc' : c' = '\n'
          · rw [List.cons_append, splitInclusive, if_pos hc'] at hlines
            exact absurd hlines (List.cons_ne_nil _ _)
          · rw [List.cons_append, splitInclusive, if_neg hc'] at hlines
            cases hrest : splitInclusive (left ++ ['\n']) with
            | nil =>
              rw [hrest] at hlines
              exact absurd hlines (List.cons_ne_nil _ _)
            | cons line lines =>
              rw [hrest] at hlines
              exact absurd hlines (List.cons_ne_nil _ _)

theorem resultLines_append (left right : Text) :
    resultLines (left ++ '\n' :: right) = resultLines (left ++ ['\n']) ++ resultLines right := by
  unfold resultLines textLines
  rw [splitInclusive_append, List.map_append, List.filter_append]

/-- A text is its first line, and what follows that line if the line has an end. -/
theorem firstLine_append (text : Text) :
    ∃ rest, text = firstLine text ++ rest ∧
    (rest = [] ∨ ∃ line, firstLine text = line ++ ['\n']) := by
  by_cases h : '\n' ∈ text
  · obtain ⟨line, rest, rfl, hline⟩ := List.eq_append_cons_of_mem h
    have hfirst : firstLine (line ++ '\n' :: rest) = line ++ ['\n'] := by
      unfold firstLine
      rw [splitInclusive_line line rest hline]
      rfl
    refine ⟨rest, ?_, .inr ⟨line, hfirst⟩⟩
    rw [hfirst, List.append_assoc]
    rfl
  · refine ⟨[], ?_, .inl rfl⟩
    rw [List.append_nil]
    by_cases hne : text = []
    · rw [hne]
      rfl
    · unfold firstLine
      rw [splitInclusive_of_notMem h hne]
      rfl

/-- Whether the results of the lost part are missed is decided by the end of the line that is
cut. -/
theorem resultLines_append_eq_iff (lost seen : Text) :
    resultLines (lost ++ seen) = resultLines seen ↔
      resultLines (lost ++ firstLine seen) = resultLines (firstLine seen) := by
  obtain ⟨rest, hseen, hrest⟩ := firstLine_append seen
  obtain rfl | ⟨line, hline⟩ := hrest
  · rw [List.append_nil] at hseen
    rw [← hseen]
  · have hsplit : ∀ front : Text, resultLines (front ++ seen)
        = resultLines (front ++ firstLine seen) ++ resultLines rest := by
      intro front
      have happend := resultLines_append (front ++ line) rest
      rw [hline, ← List.append_assoc, ← happend]
      conv_lhs => rw [hseen, hline]
      simp
    have hnil := hsplit []
    rw [List.nil_append, List.nil_append] at hnil
    rw [hsplit lost, hnil]
    exact List.append_left_inj _

/-! ## The list of the result lines -/

theorem line_of_parse {line : Text} {result : MvlStageResult}
    (h : parseMvlResultLine line = some result) :
    result.line = line := by
  unfold parseMvlResultLine at h
  split at h
  · exact nomatch h
  · simp only [Option.bind_eq_bind, Option.bind_eq_some_iff, Option.pure_def,
      Option.some.injEq] at h
    obtain ⟨_, -, _, -, _, -, _, -, _, -, _, -, _, -, _, -, _, -, rfl⟩ := h
    rfl

/-- The results of a text, numbered and with the wins. -/
def finishResults (stages : List UInt8) (results : List MvlStageResult) : List MvlStageResult :=
  applyCorrectedMatchWins 0 0 <| results.mapIdx fun index result =>
    { result with gameIndex := index + 1, stage := stages[index]? }

theorem mvlResultsOfText_eq (stages : List UInt8) (text : Text) :
    mvlResultsOfText stages text =
      finishResults stages ((resultLines text).filterMap parseMvlResultLine) := by
  have hlines : (resultLines text).filterMap parseMvlResultLine
      = (textLines text).filterMap parseMvlResultLine := by
    unfold resultLines
    rw [List.filterMap_filter]
    congr 1
    funext line
    cases parseMvlResultLine line <;> rfl
  rw [hlines]
  unfold mvlResultsOfText finishResults
  split
  case isTrue hempty =>
    rw [hempty]
    rfl
  case isFalse => rfl

theorem line_applyCorrectedMatchWins (marioWins luigiWins : Nat) (results : List MvlStageResult) :
    (applyCorrectedMatchWins marioWins luigiWins results).map (·.line) = results.map (·.line) := by
  induction results generalizing marioWins luigiWins with
  | nil => rfl
  | cons result results ih => simp only [applyCorrectedMatchWins, List.map_cons, ih]

/-- The list shows the lines that it was made of. -/
theorem line_mvlResultsOfText (stages : List UInt8) (text : Text) :
    (mvlResultsOfText stages text).map (·.line) = resultLines text := by
  have hnumbered : ∀ results : List MvlStageResult,
      (results.mapIdx fun index result =>
        { result with gameIndex := index + 1, stage := stages[index]? }).map
        (·.line) = results.map (·.line) := by
    intro results
    apply List.ext_getElem?
    intro k
    rw [List.getElem?_map, List.getElem?_mapIdx, List.getElem?_map]
    cases results[k]? <;> rfl
  have hparsed : ∀ lines : List Text,
      ((lines.filter fun line => (parseMvlResultLine line).isSome).filterMap
        parseMvlResultLine).map (·.line)
        = lines.filter fun line => (parseMvlResultLine line).isSome := by
    intro lines
    induction lines with
    | nil => rfl
    | cons line lines ih =>
      cases hline : parseMvlResultLine line with
      | none => simpa [hline] using ih
      | some result => simpa [hline, line_of_parse hline] using ih
  rw [mvlResultsOfText_eq]
  unfold finishResults
  rw [line_applyCorrectedMatchWins, hnumbered]
  exact hparsed (textLines text)

/-- Two texts give the same list exactly when they have the same result lines. -/
theorem mvlResultsOfText_eq_iff (stages : List UInt8) (text text' : Text) :
    mvlResultsOfText stages text = mvlResultsOfText stages text' ↔
      resultLines text = resultLines text' := by
  constructor
  · intro h
    rw [← line_mvlResultsOfText stages text, h, line_mvlResultsOfText]
  · intro h
    rw [mvlResultsOfText_eq, h, mvlResultsOfText_eq]

theorem applyCorrectedMatchWins_append (marioWins luigiWins : Nat)
    (results results' : List MvlStageResult) :
    applyCorrectedMatchWins marioWins luigiWins results
      <+: applyCorrectedMatchWins marioWins luigiWins (results ++ results') := by
  induction results generalizing marioWins luigiWins with
  | nil => exact List.nil_prefix
  | cons result results ih => exact List.cons_prefix_cons.mpr ⟨rfl, ih _ _⟩

/-- More results do not change those before them. -/
theorem finishResults_append (stages : List UInt8) (results results' : List MvlStageResult) :
    finishResults stages results <+: finishResults stages (results ++ results') := by
  unfold finishResults
  rw [List.mapIdx_append]
  exact applyCorrectedMatchWins_append 0 0 _ _

/-! ## The unfinished line -/

/-- A text is its finished lines and the unfinished one. -/
theorem exists_unfinishedLine (text : Text) :
    '\n' ∉ unfinishedLine text ∧
      (text = unfinishedLine text ∨ ∃ front, text = front ++ '\n' :: unfinishedLine text) := by
  have hmem : '\n' ∉ unfinishedLine text := by
    unfold unfinishedLine
    rw [List.mem_reverse]
    intro h
    have := List.mem_takeWhile_imp h
    simp at this
  refine ⟨hmem, ?_⟩
  have hsplit : text = (text.reverse.dropWhile (· ≠ '\n')).reverse ++ unfinishedLine text := by
    unfold unfinishedLine
    rw [← List.reverse_append, List.takeWhile_append_dropWhile, List.reverse_reverse]
  cases hdrop : text.reverse.dropWhile (· ≠ '\n') with
  | nil =>
    rw [hdrop] at hsplit
    exact .inl hsplit
  | cons c rest =>
    have hc : c = '\n' := by
      have := List.head?_dropWhile_not (· ≠ '\n') text.reverse
      rw [hdrop] at this
      simpa using this
    rw [hdrop, List.reverse_cons, List.append_assoc, hc] at hsplit
    exact .inr ⟨rest.reverse, hsplit⟩

/-- While no result is being written, what is captured later does not change the results
before it. -/
theorem resultLines_prefix {text : Text}
    (h : parseMvlResultLine (unfinishedLine text) = none) (more : Text) :
    resultLines text <+: resultLines (text ++ more) := by
  obtain ⟨hmem, hsplit⟩ := exists_unfinishedLine text
  have hunfinished : resultLines (unfinishedLine text) = [] := by
    by_cases hne : unfinishedLine text = []
    · rw [hne]
      rfl
    · have hstrip : stripLineEnd (unfinishedLine text) = unfinishedLine text := by
        unfold stripLineEnd
        refine if_neg fun hlast => hmem (List.mem_of_getLast? hlast)
      unfold resultLines textLines
      rw [splitInclusive_of_notMem hmem hne, List.map_singleton, hstrip, List.filter_singleton, h]
      rfl
  obtain htext | ⟨front, htext⟩ := hsplit
  · rw [htext, hunfinished]
    exact List.nil_prefix
  · have hbefore := resultLines_append front (unfinishedLine text)
    have hafter := resultLines_append front (unfinishedLine text ++ more)
    rw [hunfinished, List.append_nil] at hbefore
    rw [htext, hbefore, List.append_assoc, List.cons_append, hafter]
    exact List.prefix_append _ _

/-! ## Runs -/

variable {limit : Option Nat} {w w' : LogWriter} {events events' : List CaptureEvent}

/-- The files hold the last bytes that have been captured, cut at multiples of the limit. With a
limit of nothing, nothing is captured. -/
structure LogWriter.Holds (limit : Option Nat) (captured : List UInt8) (w : LogWriter) : Prop where
  rotated : w.rotated = rotatedFile limit captured
  current : w.current = currentFile limit captured
  written : w.written = w.current.length
  zero : limit = some 0 → captured = []

/-- The `k`-th file is the current one while it has its first byte and not more than it takes. -/
theorem currentStart_eq {limit k n : Nat} (hlt : k * limit < n) (hle : n ≤ k * limit + limit) :
    currentStart (some limit) n = k * limit := by
  have hdiv : (n - 1) / limit = k := by
    refine Nat.div_eq_of_lt_le ?_ ?_
    · omega
    · rw [Nat.succ_mul]
      omega
  unfold currentStart
  dsimp only
  rw [hdiv]

/-- The current file has at most as many bytes as it takes, and none only at the very beginning. -/
theorem currentStart_bounds {limit : Nat} (hpos : 0 < limit) (n : Nat) :
    n ≤ currentStart (some limit) n + limit ∧ (currentStart (some limit) n < n ∨ n = 0) ∧
      currentStart (some limit) n ≤ n := by
  have hmod := Nat.div_add_mod (n - 1) limit
  have hlt := Nat.mod_lt (n - 1) hpos
  unfold currentStart
  dsimp only
  rw [Nat.mul_comm] at hmod
  omega

/-- The captured bytes go on in the current file. -/
theorem holds_append {limit : Nat} {captured more : List UInt8}
    (hrotated : w.rotated = rotatedFile (some limit) captured)
    (hcurrent : w.current = currentFile (some limit) captured)
    (hstart : currentStart (some limit) (captured ++ more).length =
      currentStart (some limit) captured.length)
    (hle : currentStart (some limit) captured.length ≤ captured.length) :
    w.rotated = rotatedFile (some limit) (captured ++ more) ∧
      w.current ++ more = currentFile (some limit) (captured ++ more) := by
  constructor
  · unfold rotatedFile rotatedStart at hrotated ⊢
    rw [hstart, List.take_append_of_le_length hle]
    exact hrotated
  · unfold currentFile at hcurrent ⊢
    rw [hstart, List.drop_append_of_le_length hle, hcurrent]

/-- A full file takes the place of the older one. -/
theorem holds_rotate {limit : Nat} {captured more : List UInt8} (hpos : 0 < limit)
    (hcurrent : w.current = currentFile (some limit) captured) (hfull : limit ≤ w.current.length)
    (hne : more ≠ []) (hmore : more.length ≤ limit) :
    w.current = rotatedFile (some limit) (captured ++ more) ∧
      more = currentFile (some limit) (captured ++ more) := by
  obtain ⟨hle, hstart, -⟩ := currentStart_bounds hpos captured.length
  have hlength : w.current.length = captured.length - currentStart
      (some limit) captured.length := by
    rw [hcurrent, currentFile, List.length_drop]
  have hend : captured.length = currentStart (some limit) captured.length + limit := by omega
  have hnext : currentStart (some limit) (captured ++ more).length = captured.length := by
    have hk : captured.length = ((captured.length - 1) / limit + 1) * limit := by
      rw [Nat.succ_mul]
      exact hend
    have hposmore := List.length_pos_of_ne_nil hne
    rw [List.length_append]
    conv_rhs => rw [hk]
    exact currentStart_eq (by omega) (by omega)
  constructor
  · unfold rotatedFile rotatedStart
    rw [hnext, List.take_left' rfl, hcurrent, currentFile, Option.getD_some]
    congr 1
    omega
  · unfold currentFile
    rw [hnext, List.drop_left' rfl]

/-- One write moves bytes from the buffer into the files. -/
def Writes (limit : Option Nat) (captured : List UInt8) (w : LogWriter) : Prop :=
  ∃ more, (w.write limit).Holds limit (captured ++ more) ∧
    w.pending = more ++ (w.write limit).pending

/-- Without a limit the whole buffer goes into the current file. -/
theorem LogWriter.Holds.write_none {captured : List UInt8} (h : w.Holds none captured) :
    Writes none captured w := by
  obtain ⟨hrotated, hcurrent, hwritten, -⟩ := h
  refine ⟨w.pending, ⟨?_, ?_, ?_, fun hnone => nomatch hnone⟩, ?_⟩
  · rw [rotatedFile, currentStart, List.take_zero, List.drop_nil] at hrotated ⊢
    exact hrotated
  · have hfile : ∀ bytes, currentFile none bytes = bytes := fun bytes => rfl
    rw [hfile] at hcurrent ⊢
    change w.current ++ w.pending.take w.pending.length = _
    rw [List.take_length, hcurrent]
  · change w.written + w.pending.length = (w.current ++ w.pending.take w.pending.length).length
    rw [List.take_length, List.length_append, hwritten]
  · change w.pending = w.pending ++ w.pending.drop w.pending.length
    rw [List.drop_length, List.append_nil]

/-- With a limit of nothing the files are rotated, and nothing is written. -/
theorem LogWriter.Holds.write_zero {captured : List UInt8} (h : w.Holds (some 0) captured) :
    Writes (some 0) captured w := by
  obtain ⟨-, hcurrent, -, hzero⟩ := h
  have hempty := hzero rfl
  subst hempty
  have hnil : w.current = [] := hcurrent
  have hwrite : w.write (some 0) = { w with rotated := [], current := [], written := 0 } := by
    unfold LogWriter.write LogWriter.rotateIfFull LogWriter.rotate LogWriter.available
    simp [hnil]
  refine ⟨[], ?_, ?_⟩
  · rw [hwrite]
    exact ⟨rfl, rfl, rfl, fun _ => rfl⟩
  · rw [hwrite]
    rfl

/-- The bytes that are written are as many as there is room for. -/
theorem length_taken (limit : Option Nat) (w : LogWriter) :
    (w.pending.take (w.available limit)).length = w.available limit := by
  have hle : w.available limit ≤ w.pending.length := by
    unfold LogWriter.available
    split
    · exact Nat.le_refl _
    · exact Nat.min_le_right _ _
  rw [List.length_take]
  exact Nat.min_eq_left hle

theorem length_current {captured : List UInt8} (h : w.Holds limit captured) :
    w.written = captured.length - currentStart limit captured.length := by
  rw [h.written, h.current, currentFile, List.length_drop]

/-- What is written when the current file is full begins the next one. -/
theorem LogWriter.Holds.write_full {captured : List UInt8} {limit : Nat}
    (h : w.Holds (some limit) captured)
    (hlimit : 0 < limit) (hpending : w.pending ≠ []) (hfull : limit ≤ w.written) :
    Writes (some limit) captured w := by
  have hpos := List.length_pos_of_ne_nil hpending
  have hrotate : w.rotateIfFull (some limit) = w.rotate := by
    unfold LogWriter.rotateIfFull
    rw [if_pos (by simpa using hfull)]
  have htaken : (w.pending.take (w.rotate.available (some limit))).length =
      w.rotate.available (some limit) := length_taken (some limit) w.rotate
  have havailable : w.rotate.available (some limit) = min limit w.pending.length := rfl
  have hne : w.pending.take (w.rotate.available (some limit)) ≠ [] := by
    intro hnil
    rw [hnil, List.length_nil] at htaken
    omega
  obtain ⟨hrotated, hcurrent⟩ := holds_rotate hlimit h.current (h.written ▸ hfull) hne (by omega)
  refine ⟨w.pending.take (w.rotate.available (some limit)), ⟨?_, ?_, ?_, ?_⟩, ?_⟩
  · unfold LogWriter.write
    rw [hrotate]
    exact hrotated
  · unfold LogWriter.write
    rw [hrotate]
    exact hcurrent
  · unfold LogWriter.write
    rw [hrotate]
    change 0 + w.rotate.available (some limit) = ([] ++ w.pending.take _).length
    rw [List.nil_append, htaken, Nat.zero_add]
  · intro hzero
    exact absurd (Option.some.inj hzero) hlimit.ne'
  · unfold LogWriter.write
    rw [hrotate]
    exact (List.take_append_drop _ _).symm

/-- What is written while there is room goes on in the current file. -/
theorem LogWriter.Holds.write_room {captured : List UInt8} {limit : Nat}
    (h : w.Holds (some limit) captured)
    (hpending : w.pending ≠ []) (hroom : w.written < limit) : Writes (some limit) captured w := by
  have hpos := List.length_pos_of_ne_nil hpending
  have hlimit : 0 < limit := Nat.zero_lt_of_lt hroom
  obtain ⟨hle, hstart, hbefore⟩ := currentStart_bounds hlimit captured.length
  have hlength := length_current h
  have hrotate : w.rotateIfFull (some limit) = w := by
    unfold LogWriter.rotateIfFull
    rw [if_neg (by simpa using hroom)]
  have htaken := length_taken (some limit) w
  have havailable : w.available (some limit) = min (limit - w.written) w.pending.length := rfl
  have hsame : currentStart (some limit)
    (captured ++ w.pending.take (w.available (some limit))).length =
      currentStart (some limit) captured.length := by
    have hk : currentStart (some limit) captured.length = (captured.length - 1) / limit * limit :=
      rfl
    rw [List.length_append, htaken, hk]
    rw [hk] at hle hstart hlength hbefore
    exact currentStart_eq (by omega) (by omega)
  obtain ⟨hrotated, hcurrent⟩ := holds_append h.rotated h.current hsame hbefore
  refine ⟨w.pending.take (w.available (some limit)), ⟨?_, ?_, ?_, ?_⟩, ?_⟩
  · unfold LogWriter.write
    rw [hrotate]
    exact hrotated
  · unfold LogWriter.write
    rw [hrotate]
    exact hcurrent
  · unfold LogWriter.write
    rw [hrotate]
    dsimp only
    rw [List.length_append, htaken, h.written]
  · intro hzero
    exact absurd (Option.some.inj hzero) hlimit.ne'
  · unfold LogWriter.write
    rw [hrotate]
    exact (List.take_append_drop _ _).symm

theorem LogWriter.Holds.write {captured : List UInt8} (h : w.Holds limit captured)
    (hpending : w.pending ≠ []) :
    Writes limit captured w := by
  cases limit with
  | none => exact h.write_none
  | some limit =>
    obtain rfl | hlimit := Nat.eq_zero_or_pos limit
    · exact h.write_zero
    · by_cases hfull : limit ≤ w.written
      · exact h.write_full hlimit hpending hfull
      · exact h.write_room hpending (Nat.lt_of_not_le hfull)

/-- What has been read is what has been captured and what is pending. -/
structure LogWriter.Tracks (limit : Option Nat) (w : LogWriter) (read captured : List UInt8) :
    Prop where
  pending : captured ++ w.pending = read
  files : w.Holds limit captured

theorem LogWriter.Tracks.step {read captured : List UInt8} {event : CaptureEvent}
    (h : w.Tracks limit read captured) (hstep : w.step limit event = some w') :
    ∃ more, w'.Tracks limit (read ++ bytesRead [event]) (captured ++ more) := by
  cases event with
  | read data =>
    unfold LogWriter.step at hstep
    dsimp only at hstep
    split at hstep
    case isTrue hempty =>
      obtain rfl := Option.some.inj hstep
      refine ⟨[], ⟨?_, ?_⟩⟩
      · rw [List.append_nil, ← h.pending, hempty.1, List.append_nil]
        simp [bytesRead]
      · rw [List.append_nil]
        exact ⟨h.files.rotated, h.files.current, h.files.written, h.files.zero⟩
    case isFalse => exact nomatch hstep
  | write =>
    unfold LogWriter.step at hstep
    dsimp only at hstep
    split at hstep
    case isTrue => exact nomatch hstep
    case isFalse hpending =>
      obtain rfl := Option.some.inj hstep
      obtain ⟨more, hholds, hsplit⟩ := h.files.write hpending
      refine ⟨more, ⟨?_, hholds⟩⟩
      rw [← h.pending, List.append_assoc, ← hsplit]
      simp [bytesRead]

theorem LogWriter.Tracks.run {read captured : List UInt8} (h : w.Tracks limit read captured)
    (hrun : Run.run (LogWriter.step limit) w events = some w') :
    ∃ more, w'.Tracks limit (read ++ bytesRead events) (captured ++ more) := by
  have hcons : ∀ (event : CaptureEvent) (events : List CaptureEvent),
      bytesRead (event :: events) = bytesRead [event] ++ bytesRead events := by
    intro event events
    cases event <;> simp [bytesRead]
  induction events generalizing w read captured with
  | nil =>
    obtain rfl := Option.some.inj hrun
    refine ⟨[], ?_⟩
    rw [List.append_nil]
    exact (List.append_nil read).symm ▸ h
  | cons event events ih =>
    obtain ⟨w₁, hstep, hrun⟩ := Run.run_cons_eq_some hrun
    obtain ⟨more, hmore⟩ := h.step hstep
    obtain ⟨more', hmore'⟩ := ih hmore hrun
    refine ⟨more ++ more', ?_⟩
    rw [hcons, ← List.append_assoc, ← List.append_assoc]
    exact hmore'

theorem tracks_start (limit : Option Nat) : LogWriter.Tracks limit {} [] [] := by
  refine ⟨rfl, ?_, ?_, rfl, fun _ => rfl⟩
  · rw [rotatedFile, List.take_nil, List.drop_nil]
  · rw [currentFile, List.drop_nil]

/-! ## What the reader gets -/

theorem readToString_encode (text : Text) : readToString (Utf8.encode text) = text := by
  unfold readToString
  rw [Utf8.decode_encode]
  rfl

theorem readToString_of_none {bytes : List UInt8} (h : Utf8.decode bytes = none) :
    readToString bytes = [] := by
  unfold readToString
  rw [h]
  rfl

theorem rotatedStart_le (limit : Option Nat) (n : Nat) :
    rotatedStart limit n ≤ currentStart limit n :=
  Nat.sub_le _ _

/-- The captured bytes are those in front of the older file, the older file and the current one. -/
theorem captured_eq (limit : Option Nat) (captured : List UInt8) :
    captured = captured.take (rotatedStart limit captured.length) ++
      (rotatedFile limit captured ++ currentFile limit captured) ∧
    captured.take (currentStart limit captured.length) =
      captured.take (rotatedStart limit captured.length) ++ rotatedFile limit captured := by
  have hfront : captured.take (currentStart limit captured.length) =
      captured.take (rotatedStart limit captured.length) ++ rotatedFile limit captured := by
    have htake : (captured.take (currentStart limit captured.length)).take
        (rotatedStart limit captured.length) =
          captured.take (rotatedStart limit captured.length) := by
      rw [List.take_take, Nat.min_eq_left (rotatedStart_le limit captured.length)]
    rw [rotatedFile, ← htake, List.take_append_drop]
  refine ⟨?_, hfront⟩
  rw [← List.append_assoc, ← hfront, currentFile, List.take_append_drop]

section

variable {front rotated current : List UInt8} {text : Text}

/-- Of two files that are cut within a character, neither is a text. -/
theorem readToString_of_cut (htext : front ++ (rotated ++ current) = Utf8.encode text)
    (hcut : Utf8.decode (front ++ rotated) = none) :
    readToString rotated = [] ∧ readToString current = [] := by
  have hcurrent : Utf8.decode current = none := by
    refine Option.eq_none_iff_forall_ne_some.mpr fun shown hshown => ?_
    rw [Utf8.decode_eq_some_iff.mp hshown, ← List.append_assoc] at htext
    obtain ⟨before, hbefore, -⟩ := Utf8.exists_of_append_encode htext
    rw [hbefore, Utf8.decode_encode] at hcut
    cases hcut
  refine ⟨?_, readToString_of_none hcurrent⟩
  cases hrotated : Utf8.decode rotated with
  | none => exact readToString_of_none hrotated
  | some shown =>
    have hbytes := Utf8.decode_eq_some_iff.mp hrotated
    by_cases hne : shown = []
    · rw [hbytes, hne, readToString_encode]
    · rw [hbytes] at htext
      obtain ⟨rest, hrest⟩ := Utf8.exists_of_append_encode_append hne htext
      rw [hrest, Utf8.decode_encode] at hcurrent
      cases hcurrent

/-- What is cut off behind a text is a text. -/
theorem readToString_of_front {whole : Text} {bytes : List UInt8}
    (htext : Utf8.encode whole ++ bytes = Utf8.encode text) :
    bytes = Utf8.encode (readToString bytes) ∧ text = whole ++ readToString bytes := by
  obtain ⟨rest, hrest, hwhole⟩ := Utf8.exists_of_encode_append htext
  rw [hrest, readToString_encode]
  exact ⟨rfl, hwhole⟩

/-- An older file that begins within a character is not a text. -/
theorem readToString_of_front_cut {before : Text} (htext : front ++ rotated = Utf8.encode before)
    (hcut : Utf8.decode front = none) : readToString rotated = [] := by
  refine readToString_of_none (Option.eq_none_iff_forall_ne_some.mpr fun shown hshown => ?_)
  rw [Utf8.decode_eq_some_iff.mp hshown] at htext
  obtain ⟨start, hstart, -⟩ := Utf8.exists_of_append_encode htext
  rw [hstart, Utf8.decode_encode] at hcut
  cases hcut

end

/-- The reader gets the captured text without its lost bytes. -/
theorem text_eq {captured : List UInt8} {text : Text} (hfiles : w.Holds limit captured)
    (hdecode : Utf8.decode captured = some text) :
    text = readToString (captured.take (lostBytes limit captured)) ++ w.text ∧
      w.text = readToString (captured.drop (lostBytes limit captured)) := by
  obtain ⟨hall, hfront⟩ := captured_eq limit captured
  have hencode := Utf8.decode_eq_some_iff.mp hdecode
  have hread : readToString captured = text := by rw [hencode, readToString_encode]
  have hcut : captured.take (currentStart limit captured.length) ++ currentFile limit captured =
      Utf8.encode text := by rw [currentFile, List.take_append_drop, hencode]
  have hdrop : captured.drop (rotatedStart limit captured.length) =
      rotatedFile limit captured ++ currentFile limit captured := by
    have hsame : captured.take (rotatedStart limit captured.length) ++
        captured.drop (rotatedStart limit captured.length) =
          captured.take (rotatedStart limit captured.length) ++
            (rotatedFile limit captured ++ currentFile limit captured) := by
      rw [List.take_append_drop]
      exact hall
    exact List.append_cancel_left hsame
  unfold LogWriter.text lostBytes betweenChars
  rw [hfiles.rotated, hfiles.current]
  cases hcurrent : Utf8.decode (captured.take (currentStart limit captured.length)) with
  | none =>
    rw [hfront] at hcurrent
    obtain ⟨hrotated, hcurrent⟩ := readToString_of_cut (hall.symm.trans hencode) hcurrent
    simp only [Option.isSome_none, Bool.not_false, if_true, List.take_length, List.drop_length]
    rw [hrotated, hcurrent, hread]
    exact ⟨(List.append_nil text).symm, rfl⟩
  | some before =>
    have hbefore := Utf8.decode_eq_some_iff.mp hcurrent
    rw [hbefore] at hcut
    obtain ⟨-, hwhole⟩ := readToString_of_front hcut
    cases hrotated : Utf8.decode (captured.take (rotatedStart limit captured.length)) with
    | none =>
      have hnil := readToString_of_front_cut (hfront.symm.trans hbefore) hrotated
      simp only [Option.isSome_some, Bool.not_true, Bool.false_eq_true,
        if_false, Option.isSome_none, Bool.not_false, if_true]
      rw [hnil, hbefore, readToString_encode, List.nil_append]
      exact ⟨hwhole, rfl⟩
    | some start =>
      have hstart := Utf8.decode_eq_some_iff.mp hrotated
      rw [hstart, hbefore] at hfront
      obtain ⟨hfile, htext⟩ := readToString_of_front hfront.symm
      obtain ⟨hfile', -⟩ := readToString_of_front hcut
      simp only [Option.isSome_some, Bool.not_true, Bool.false_eq_true, if_false]
      rw [hdrop, hstart, readToString_encode]
      refine ⟨?_, ?_⟩
      · rw [hwhole, htext, List.append_assoc]
      · rw [hfile, hfile', ← Utf8.encode_append, readToString_encode, readToString_encode,
          readToString_encode]

/-- The two files give the results of all that has been captured exactly when nothing is lost. -/
theorem mvlResults_eq_iff (stages : List UInt8) {captured : List UInt8}
    (hfiles : w.Holds limit captured) :
    w.mvlResults stages = mvlResultsOfText stages (readToString captured) ↔
      NothingLost limit captured := by
  unfold LogWriter.mvlResults NothingLost
  rw [mvlResultsOfText_eq_iff]
  cases hdecode : Utf8.decode captured with
  | none =>
    rw [readToString_of_none hdecode, LogWriter.text, hfiles.rotated, hfiles.current]
    rfl
  | some text =>
    obtain ⟨htext, hshown⟩ := text_eq hfiles hdecode
    have hread : readToString captured = text := by
      rw [Utf8.decode_eq_some_iff.mp hdecode, readToString_encode]
    dsimp only
    rw [hread, ← hshown, ← resultLines_append_eq_iff, ← htext]
    exact eq_comm

/-- While no byte is lost, no result is. -/
theorem nothingLost_of_lostBytes {captured : List UInt8}
    (hdecode : (Utf8.decode captured).isSome = true)
    (hlost : lostBytes limit captured = 0) : NothingLost limit captured := by
  obtain ⟨text, htext⟩ := Option.isSome_iff_exists.mp hdecode
  unfold NothingLost
  rw [htext, hlost]
  rfl

/-- In the first file no byte is lost. -/
theorem lostBytes_of_le {limit : Nat} {captured : List UInt8} (hle : captured.length ≤ limit) :
    lostBytes (some limit) captured = 0 := by
  have hdiv : (captured.length - 1) / limit = 0 := by
    obtain rfl | hpos := Nat.eq_zero_or_pos limit
    · exact Nat.div_zero _
    · exact Nat.div_eq_of_lt (by omega)
  have hstart : currentStart (some limit) captured.length = 0 := by
    unfold currentStart
    dsimp only
    rw [hdiv, Nat.zero_mul]
  have hbetween : betweenChars captured 0 = true := rfl
  unfold lostBytes rotatedStart
  rw [hstart, Nat.zero_sub, hbetween]
  rfl

/-- After any part of the output has been captured, the two files give the results of that part
exactly when nothing of them is lost. Where that is so at two polls, and the part ends with a
character and outside of a result at the first and with a character at the second, the results of
the first are the first results of the second. -/
theorem captured_results_iff (captured captured' : List UInt8)
    (hrun : Run.run (LogWriter.step limit) {} events = some w)
    (hcaptured : captured ++ w.pending = bytesRead events)
    (hrun' : Run.run (LogWriter.step limit) w events' = some w')
    (hcaptured' : captured' ++ w'.pending = bytesRead events ++ bytesRead events')
    (stages : List UInt8) :
    (w.mvlResults stages = mvlResultsOfText stages (readToString captured) ↔
      NothingLost limit captured) ∧
      (NothingLost limit captured → Settled captured → NothingLost limit captured' →
        (Utf8.decode captured').isSome = true → w.mvlResults stages <+: w'.mvlResults stages) := by
  obtain ⟨more₀, htracks⟩ := (tracks_start limit).run hrun
  rw [List.nil_append, List.nil_append] at htracks
  have heq : more₀ = captured := List.append_cancel_right (htracks.pending.trans hcaptured.symm)
  rw [heq] at htracks
  obtain ⟨more, htracks'⟩ := htracks.run hrun'
  have heq' : captured ++ more = captured' :=
    List.append_cancel_right (htracks'.pending.trans hcaptured'.symm)
  rw [heq'] at htracks'
  refine ⟨mvlResults_eq_iff stages htracks.files, fun hkept hsettled hkept' hdecode' => ?_⟩
  obtain ⟨text, hdecode, hline⟩ := hsettled
  obtain ⟨text', hdecode'⟩ := Option.isSome_iff_exists.mp hdecode'
  have hbytes := Utf8.decode_eq_some_iff.mp hdecode
  have hbytes' := Utf8.decode_eq_some_iff.mp hdecode'
  rw [(mvlResults_eq_iff stages htracks.files).mpr hkept,
    (mvlResults_eq_iff stages htracks'.files).mpr hkept', hbytes, hbytes', readToString_encode,
    readToString_encode]
  rw [hbytes, hbytes'] at heq'
  obtain ⟨added, -, rfl⟩ := Utf8.exists_of_encode_append heq'
  obtain ⟨lines, hlines⟩ := resultLines_prefix hline added
  rw [mvlResultsOfText_eq, mvlResultsOfText_eq, ← hlines, List.filterMap_append]
  exact finishResults_append stages _ _

/-! ## Three games -/

/-- The line of a game, by the four digits of its last frame. -/
def gameLine (frame : Text) : Text :=
  "NSMB MvL auto restart: result inst=0 frame=".toList ++ frame ++
    " winner=0 stars=5/0 displayed=5/0 collected=5/0 lives=3/2 ".toList ++
    "deaths=0/1 dead=0/0 matchWins=1/0 target=9\n".toList

/-- The result of a first game. -/
def firstGame : Text := gameLine "4320".toList
/-- The result of a second game. -/
def secondGame : Text := gameLine "6180".toList
/-- The result of a third game. -/
def thirdGame : Text := gameLine "8200".toList

/-- The line is read and written. -/
def captureLine (line : Text) : List CaptureEvent := [.read (Utf8.encode line), .write]

/-- With a limit of one line, the file is rotated for the second game, which is added to the
first. -/
theorem second_game_added :
    LogWriter.mvlResults [4] { current := Utf8.encode firstGame, written := firstGame.length }
      <+: LogWriter.mvlResults [4]
        { rotated := Utf8.encode firstGame
          current := Utf8.encode secondGame
          written := firstGame.length } := by
  have hadded : ∀ (first second : Text) (w w' : LogWriter),
      Run.run (LogWriter.step (some firstGame.length)) {} (captureLine first) = some w →
      Run.run (LogWriter.step (some firstGame.length)) w (captureLine second) = some w' →
      w.pending = [] → w'.pending = [] → lostBytes (some firstGame.length) (Utf8.encode first) = 0 →
      lostBytes (some firstGame.length) (Utf8.encode (first ++ second)) = 0 →
      parseMvlResultLine (unfinishedLine first) = none →
        w.mvlResults [4] <+: w'.mvlResults [4] := by
    intro first second w w' hrun hrun' hpending hpending' hlost hlost' hline
    have hread : ∀ line : Text, bytesRead (captureLine line) = Utf8.encode line :=
      fun line => List.append_nil _
    have hresults := captured_results_iff (Utf8.encode first) (Utf8.encode (first ++ second)) hrun
      (by rw [hread, hpending, List.append_nil]) hrun'
      (by rw [hread, hread, hpending', List.append_nil, Utf8.encode_append]) [4]
    have hdecode : ∀ text : Text, (Utf8.decode (Utf8.encode text)).isSome = true := by
      intro text
      rw [Utf8.decode_encode]
      rfl
    exact hresults.2 (nothingLost_of_lostBytes (hdecode _) hlost)
      ⟨first, Utf8.decode_encode first, hline⟩
      (nothingLost_of_lostBytes (hdecode _) hlost') (hdecode _)
  have hcut : (Utf8.encode (firstGame ++ secondGame)).take (Utf8.encode firstGame).length =
      Utf8.encode firstGame := by
    rw [Utf8.encode_append, List.take_left' rfl]
  have hbetween : betweenChars (Utf8.encode (firstGame ++ secondGame))
      (Utf8.encode firstGame).length = true := by
    rw [betweenChars, hcut, Utf8.decode_encode]
    rfl
  have hbetween' : ∀ text : Text, betweenChars (Utf8.encode text) 0 = true := fun text => rfl
  have hstart : currentStart (some firstGame.length)
    (Utf8.encode (firstGame ++ secondGame)).length =
      (Utf8.encode firstGame).length := by decide +kernel
  have hrotated : rotatedStart (some firstGame.length)
      (Utf8.encode (firstGame ++ secondGame)).length = 0 := by
    decide +kernel
  refine hadded firstGame secondGame _ _ (by decide +kernel)
    (by decide +kernel) rfl rfl ?_ ?_ (by decide +kernel)
  · exact lostBytes_of_le (by decide +kernel)
  · unfold lostBytes
    rw [hstart, hrotated, hbetween, hbetween']
    rfl

/-- With a limit of one line, the third game takes the place of the first, and the games are
renumbered. -/
theorem third_game_drops_first :
    Run.run (LogWriter.step (some firstGame.length)) {}
        (captureLine firstGame ++ captureLine secondGame ++ captureLine thirdGame)
      = some
        { rotated := Utf8.encode secondGame
          current := Utf8.encode thirdGame
          written := firstGame.length } ∧
    LogWriter.mvlResults [4]
        { rotated := Utf8.encode secondGame
          current := Utf8.encode thirdGame
          written := firstGame.length }
      ≠ mvlResultsOfText [4]
        (readToString (bytesRead (captureLine firstGame ++ captureLine secondGame ++
          captureLine thirdGame))) := by
  refine ⟨by decide +kernel, fun heq => ?_⟩
  have hread : bytesRead (captureLine firstGame ++ captureLine secondGame ++ captureLine thirdGame)
      = Utf8.encode (firstGame ++ (secondGame ++ thirdGame)) := by
    simp [captureLine, bytesRead]
  rw [hread, readToString_encode] at heq
  have htext : LogWriter.text
      { rotated := Utf8.encode secondGame
        current := Utf8.encode thirdGame
        written := firstGame.length } = secondGame ++ thirdGame := by
    unfold LogWriter.text
    rw [readToString_encode, readToString_encode]
  have hlength := congrArg List.length heq
  unfold LogWriter.mvlResults at hlength
  rw [htext] at hlength
  revert hlength
  decide +kernel

end Bigstar.Launcher
