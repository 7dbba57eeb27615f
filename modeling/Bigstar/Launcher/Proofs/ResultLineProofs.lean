import Bigstar.Launcher.MvlResults
import Bigstar.Netplay.MvlResultLog
import Mathlib.Tactic.Common

/-!
# A result line is read as it was printed

The words of a printed line are the words of its prefix and its fields. The launcher looks a field
up by its key, which is the first word that begins with the key and an equals sign.
-/

namespace Bigstar.Launcher

open CText Netplay.MvlLifecycle Netplay.MvlRuntime

/-! ## Words -/

/-- A blank parts two texts. -/
theorem splitWhitespace_append_blank (text rest : Text) :
    splitWhitespace (text ++ ' ' :: rest) = splitWhitespace text ++ splitWhitespace rest := by
  have hblank : isWhitespace ' ' = true := by decide
  unfold splitWhitespace
  rw [List.splitOnP_append_cons text rest hblank, List.filter_append]

theorem splitWhitespace_word {word : Text}
    (h : ∀ c ∈ word, isWhitespace c = false) (hne : word ≠ []) :
    splitWhitespace word = [word] := by
  unfold splitWhitespace
  rw [List.splitOnP_eq_singleton h, List.filter_cons_of_pos (by simpa using hne), List.filter_nil]

/-- A field as a word. -/
def fieldWord (field : ResultKey × Text) : Text := field.1.name ++ '=' :: field.2

/-- The value of a field is one word. -/
def WordValue (field : ResultKey × Text) : Prop := ∀ c ∈ field.2, isWhitespace c = false

theorem isWhitespace_name (key : ResultKey) : ∀ c ∈ key.name, isWhitespace c = false := by
  have hall : key.name.all (fun c => !isWhitespace c) = true := by
    cases key <;> decide +kernel
  intro c hc
  simpa using List.all_eq_true.mp hall c hc

theorem equals_notMem_name (key : ResultKey) : '=' ∉ key.name := by
  cases key <;> decide +kernel

/-- No two fields have the same name. -/
theorem name_injective : Function.Injective ResultKey.name := by
  intro key key' h
  cases key <;> cases key' <;> first | rfl | (revert h; decide +kernel)

/-- The words of a line are those before its fields, and one for each field. -/
theorem splitWhitespace_fields {fields : List (ResultKey × Text)}
    (h : ∀ field ∈ fields, WordValue field) (base : Text) :
    splitWhitespace (base ++ fields.flatMap fieldText) = splitWhitespace base ++
      fields.map fieldWord := by
  induction fields generalizing base with
  | nil => simp
  | cons field fields ih =>
    have hword : splitWhitespace (fieldWord field) = [fieldWord field] := by
      apply splitWhitespace_word
      · intro c hc
        obtain hc | hc := List.mem_append.mp hc
        · exact isWhitespace_name field.1 c hc
        · obtain rfl | hc := List.mem_cons.mp hc
          · decide
          · exact h field List.mem_cons_self c hc
      · simp [fieldWord]
    have hrest := ih (fun f hf => h f (List.mem_cons_of_mem _ hf)) (base ++ fieldText field)
    have hbase : splitWhitespace (base ++ fieldText field) = splitWhitespace base ++
        [fieldWord field] := by
      rw [← hword]
      exact splitWhitespace_append_blank base (fieldWord field)
    rw [List.flatMap_cons, ← List.append_assoc, hrest, hbase, List.append_assoc]
    rfl

/-! ## Looking a field up -/

theorem stripPrefix_append (p text : Text) : stripPrefix p (p ++ text) = some text := by
  induction p with
  | nil => rfl
  | cons c p ih =>
    rw [List.cons_append, stripPrefix, if_pos rfl, ih]

theorem stripPrefix_of_equals_notMem {word : Text} (h : '=' ∉ word) (key : Text) :
    stripPrefix (key ++ ['=']) word = none := by
  induction key generalizing word with
  | nil =>
    cases word with
    | nil => rfl
    | cons c word =>
      rw [List.mem_cons, not_or] at h
      rw [List.nil_append, stripPrefix, if_neg h.1]
  | cons k key ih =>
    cases word with
    | nil => rfl
    | cons c word =>
      rw [List.mem_cons, not_or] at h
      rw [List.cons_append, stripPrefix]
      split
      · exact ih h.2
      · rfl

/-- Different keys do not match: the equals sign ends both. -/
theorem stripPrefix_of_ne {key key' : Text} (hkey : '=' ∉ key)
    (hkey' : '=' ∉ key') (hne : key ≠ key')
    (value : Text) : stripPrefix (key ++ ['=']) (key' ++ '=' :: value) = none := by
  induction key generalizing key' with
  | nil =>
    cases key' with
    | nil => exact absurd rfl hne
    | cons c key' =>
      rw [List.mem_cons, not_or] at hkey'
      rw [List.nil_append, List.cons_append, stripPrefix, if_neg hkey'.1]
  | cons k key ih =>
    rw [List.mem_cons, not_or] at hkey
    cases key' with
    | nil => rw [List.cons_append, List.nil_append, stripPrefix, if_neg (Ne.symm hkey.1)]
    | cons c key' =>
      rw [List.mem_cons, not_or] at hkey'
      rw [List.cons_append, List.cons_append, stripPrefix]
      split
      · next heq =>
        subst heq
        exact ih hkey.2 hkey'.2 fun h => hne (congrArg _ h)
      · rfl

/-- A field is found by its name. -/
theorem findSome_fieldWord (key : ResultKey) (fields : List (ResultKey × Text)) :
    (fields.map fieldWord).findSome? (stripPrefix (key.name ++ ['='])) = fields.lookup key := by
  induction fields with
  | nil => rfl
  | cons field fields ih =>
    obtain ⟨key', value⟩ := field
    rw [List.map_cons, List.findSome?_cons, List.lookup_cons, ih]
    by_cases heq : key = key'
    · subst heq
      have hvalue : stripPrefix (key.name ++ ['=']) (fieldWord (key, value)) = some value := by
        have happend := stripPrefix_append (key.name ++ ['=']) value
        rwa [List.append_assoc] at happend
      rw [hvalue, beq_self_eq_true]
    · have hname : key.name ≠ key'.name := fun h => heq (name_injective h)
      have hnone := stripPrefix_of_ne (equals_notMem_name key) (equals_notMem_name key') hname value
      rw [fieldWord, hnone, beq_eq_false_iff_ne.mpr heq]

/-- The value that is read for a key is the one printed for it. -/
theorem fieldValue_fields {base : Text} (hbase : ∀ word ∈ splitWhitespace base, '=' ∉ word)
    {fields : List (ResultKey × Text)} (h : ∀ field ∈ fields, WordValue field) (key : ResultKey) :
    fieldValue (base ++ fields.flatMap fieldText) key.name = fields.lookup key := by
  have hnone : (splitWhitespace base).findSome? (stripPrefix (key.name ++ ['='])) = none :=
    List.findSome?_eq_none_iff.mpr fun word hword =>
      stripPrefix_of_equals_notMem (hbase word hword) _
  unfold fieldValue
  rw [splitWhitespace_fields h, List.findSome?_append, hnone, findSome_fieldWord]
  rfl

/-! ## Numbers -/

theorem isWhitespace_of_isDigit {c : Char} (h : c.isDigit = true) : isWhitespace c = false := by
  have hdigit : 48 ≤ c.toNat ∧ c.toNat ≤ 57 := by
    simp only [Char.isDigit, Bool.and_eq_true, decide_eq_true_eq, ge_iff_le,
      UInt32.le_iff_toNat_le] at h
    exact h
  unfold isWhitespace
  dsimp only
  generalize c.toNat = n at hdigit
  simp only [Bool.or_eq_false_iff, Bool.and_eq_false_iff, decide_eq_false_iff_not,
    beq_eq_false_iff_ne]
  omega

theorem isWhitespace_decimal {n : Nat} : ∀ c ∈ decimal n, isWhitespace c = false :=
  fun _ hc => isWhitespace_of_isDigit (isDigit_of_mem_decimal hc)

/-- A number is read as it was printed. -/
theorem parseU32_decimal {n : Nat} (h : n < 2 ^ 32) : parseU32 (decimal n) = some n := by
  have hplus : stripPlus (decimal n) = decimal n := by
    unfold stripPlus
    split
    · next digits hplus =>
      have hdigit : '+'.isDigit = true :=
        isDigit_of_mem_decimal (n := n) (by rw [hplus]; exact List.mem_cons_self)
      cases hdigit
    · rfl
  unfold parseU32 u32FromStrRadix
  dsimp only
  rw [hplus, digitsValue_decimal]
  apply if_pos
  refine ⟨decimal_ne_nil n, ?_, h⟩
  rw [List.all_eq_true]
  exact fun c hc => isDigitOf_ten.mpr (isDigit_of_mem_decimal hc)

theorem slash_notMem_decimal (n : Nat) : '/' ∉ decimal n := by
  intro h
  cases isDigit_of_mem_decimal h

/-- A pair is split at its slash. -/
theorem splitOnceSlash_append {left : Text} (h : '/' ∉ left) (right : Text) :
    splitOnceSlash (left ++ '/' :: right) = some (left, right) := by
  have hleft : ∀ c ∈ left, decide (c ≠ '/') = true := by
    intro c hc
    exact decide_eq_true fun heq => h (heq ▸ hc)
  unfold splitOnceSlash
  rw [if_pos (by simp), List.takeWhile_append_of_pos hleft, List.dropWhile_append_of_pos hleft]
  simp

theorem signedDecimal_of_nonneg {n : Int} (h : 0 ≤ n) : signedDecimal n = decimal n.toNat := by
  unfold signedDecimal
  rw [if_neg (by omega)]
  congr 1
  omega

/-! ## The line -/

/-- The numbers of a report are 32-bit numbers. -/
structure Fits (targetWins : Int) (report : ResultReport) : Prop where
  frame : report.frame < 2 ^ 32
  battleStars : ∀ p, report.result.battleStars p < 2 ^ 32
  displayedStars : ∀ p, report.result.displayedStars p < 2 ^ 32
  collectedStars : ∀ p, report.result.collectedStars p < 2 ^ 32
  lives : ∀ p, report.result.lives p < 2 ^ 32
  deaths : ∀ p, report.result.deaths p < 2 ^ 32
  dead : ∀ p, report.result.dead p < 2 ^ 32
  wins : ∀ p, 0 ≤ report.wins p ∧ report.wins p < 2 ^ 31
  target : 0 ≤ targetWins ∧ targetWins < 2 ^ 31

variable {i : Fin 16} {targetWins : Int} {report : ResultReport}

theorem wordValue_decimal (key : ResultKey) (n : Nat) : WordValue (key, decimal n) :=
  fun _ hc => isWhitespace_decimal _ hc

theorem wordValue_pair (key : ResultKey) (a b : Nat) :
    WordValue (key, decimal a ++ '/' :: decimal b) := by
  intro c hc
  obtain hc | hc := List.mem_append.mp hc
  · exact isWhitespace_decimal c hc
  · obtain rfl | hc := List.mem_cons.mp hc
    · decide
    · exact isWhitespace_decimal c hc

/-- No value holds a blank. -/
theorem wordValue_fields (h : Fits targetWins report) :
    ∀ field ∈ report.fields i targetWins, WordValue field := by
  have hwins := h.wins
  have hwinner : ∀ field ∈ ResultReport.winnerField report.winner, WordValue field := by
    cases report.winner with
    | none => exact fun _ hf => nomatch hf
    | some winner =>
      intro field hf
      obtain rfl := List.mem_singleton.mp hf
      rw [signedDecimal_of_nonneg (Int.natCast_nonneg _)]
      exact wordValue_decimal _ _
  unfold ResultReport.fields counterPair
  rw [signedDecimal_of_nonneg (Int.natCast_nonneg _), signedDecimal_of_nonneg (hwins 0).1,
    signedDecimal_of_nonneg (hwins 1).1, signedDecimal_of_nonneg h.target.1]
  simp only [List.mem_append, List.mem_cons, List.not_mem_nil, or_false]
  rintro field (((rfl | rfl) | hf) | rfl | rfl | rfl | rfl | rfl | rfl | rfl | rfl)
  · exact wordValue_decimal _ _
  · exact wordValue_decimal _ _
  · exact hwinner field hf
  · exact wordValue_pair _ _ _
  · exact wordValue_pair _ _ _
  · exact wordValue_pair _ _ _
  · exact wordValue_pair _ _ _
  · exact wordValue_pair _ _ _
  · exact wordValue_pair _ _ _
  · exact wordValue_pair _ _ _
  · exact wordValue_decimal _ _

theorem equals_notMem_linePrefixes (unresolved : Bool) :
    ∀ word ∈ splitWhitespace (if unresolved then kUnresolvedPrefix else kResultPrefix),
      '=' ∉ word := by
  cases unresolved <;> decide +kernel

/-- Each field is found in the line. -/
theorem fieldValue_line (h : Fits targetWins report) (key : ResultKey) :
    fieldValue (report.line i targetWins) key.name = (report.fields i targetWins).lookup key :=
  fieldValue_fields (equals_notMem_linePrefixes _) (wordValue_fields h) key

/-- A number of the line is read as it was printed, -/
theorem parseValue_line (h : Fits targetWins report) {key : ResultKey} {n : Nat} (hn : n < 2 ^ 32)
    (hlookup : (report.fields i targetWins).lookup key = some (decimal n)) :
    parseValue (report.line i targetWins) key.name = some n := by
  unfold parseValue
  rw [fieldValue_line h, hlookup]
  exact parseU32_decimal hn

/-- and so is a pair. -/
theorem parsePair_line (h : Fits targetWins report) {key : ResultKey} {a b : Nat}
    (ha : a < 2 ^ 32) (hb : b < 2 ^ 32)
    (hlookup : (report.fields i targetWins).lookup key = some (decimal a ++ '/' :: decimal b)) :
    parsePair (report.line i targetWins) key.name = some (a, b) := by
  unfold parsePair
  rw [fieldValue_line h, hlookup]
  simp only [Option.bind_eq_bind, Option.bind_some, splitOnceSlash_append (slash_notMem_decimal a),
    parseU32_decimal ha, parseU32_decimal hb]
  rfl

/-- The rule of the launcher agrees with the one of the emulator. -/
theorem correctedStageWinner_resolve (result : ResultSnapshot) :
    correctedStageWinner ((resolveResultWinner result).map Fin.val) (result.dead 0) (result.dead 1)
      = (resolveResultWinner result).map Fin.val := by
  unfold correctedStageWinner
  by_cases hmario : result.dead 0 = 0
  · by_cases hluigi : result.dead 1 = 0
    · simp [hmario, hluigi]
    · have hwinner : resolveResultWinner result = some 0 := by
        unfold resolveResultWinner
        simp [hmario, hluigi]
      simp [hmario, hluigi, hwinner]
  · by_cases hluigi : result.dead 1 = 0
    · have hwinner : resolveResultWinner result = some 1 := by
        unfold resolveResultWinner
        simp [hmario, hluigi]
      simp [hmario, hluigi, hwinner]
    · simp [hmario, hluigi]

theorem resultPrefix_isPrefixOf (report : ResultReport) :
    "NSMB MvL auto restart: result".toList.isPrefixOf (report.line i targetWins) = true := by
  have hsplit : kUnresolvedPrefix = kResultPrefix ++ " unresolved".toList := by decide +kernel
  rw [List.isPrefixOf_iff_prefix]
  unfold ResultReport.line
  split
  · rw [hsplit, List.append_assoc]
    exact List.prefix_append kResultPrefix _
  · exact List.prefix_append kResultPrefix _

/-- Only an unresolved result has the prefix of one: behind the other comes the instance. -/
theorem unresolvedPrefix_isPrefixOf (report : ResultReport) :
    "NSMB MvL auto restart: result unresolved".toList.isPrefixOf (report.line i targetWins)
      = report.winner.isNone := by
  have hsplit : kUnresolvedPrefix = kResultPrefix ++ ' ' :: 'u' :: "nresolved".toList := by
    decide +kernel
  have hinst : ResultKey.inst.name = 'i' :: "nst".toList := by decide +kernel
  change kUnresolvedPrefix.isPrefixOf (report.line i targetWins) = _
  cases hwinner : report.winner with
  | none =>
    have hline : report.line i targetWins = kUnresolvedPrefix ++
        (report.fields i targetWins).flatMap fieldText := by
      unfold ResultReport.line
      rw [hwinner]
      rfl
    rw [hline, List.isPrefixOf_iff_prefix.mpr (List.prefix_append _ _)]
    rfl
  | some winner =>
    have hline : report.line i targetWins = kResultPrefix ++
        (report.fields i targetWins).flatMap fieldText := by
      unfold ResultReport.line
      rw [hwinner]
      rfl
    have hfields : ∃ rest, (report.fields i targetWins).flatMap fieldText = ' ' :: 'i' :: rest := by
      unfold ResultReport.fields
      rw [List.append_assoc, List.cons_append, List.flatMap_cons, fieldText, hinst]
      exact ⟨_, rfl⟩
    obtain ⟨rest, hrest⟩ := hfields
    rw [Option.isNone_some, Bool.eq_false_iff, ne_eq, List.isPrefixOf_iff_prefix,
      hline, hsplit, hrest, List.prefix_append_right_inj]
    intro hprefix
    obtain ⟨-, hprefix⟩ := List.cons_prefix_cons.mp hprefix
    cases (List.cons_prefix_cons.mp hprefix).1

/-- What the launcher makes of a player's counters. -/
def playerResult (result : ResultSnapshot) (player : Fin 2) : MvlPlayerResult where
  stars := result.battleStars player
  displayedStars := result.displayedStars player
  collectedStars := result.collectedStars player
  lives := resultLives (result.lives player) (result.dead player)
  deaths := result.deaths player
  dead := decide (result.dead player ≠ 0)

/-- The entry that the launcher makes of a line, before it is numbered. -/
def lineResult (i : Fin 16) (targetWins : Int) (report : ResultReport) : MvlStageResult where
  gameIndex := 0
  stage := none
  frame := report.frame
  winner := report.winner.map Fin.val
  mario := playerResult report.result 0
  luigi := playerResult report.result 1
  marioMatchWins := (report.wins 0).toNat
  luigiMatchWins := (report.wins 1).toNat
  targetWins := targetWins.toNat
  resolved := report.winner.isSome
  line := report.line i targetWins

/-- The winner is read as it was printed. -/
theorem loggedWinner_line (h : Fits targetWins report) :
    (if report.winner.isSome then
      (parseValue (report.line i targetWins) "winner".toList).bind u8TryFrom else none)
      = report.winner.map Fin.val := by
  cases hwinner : report.winner with
  | none => rfl
  | some winner =>
    have hlookup : (report.fields i targetWins).lookup .winner = some (decimal winner) := by
      have hdecimal : signedDecimal ((winner : Nat) : Int) = decimal winner :=
        signedDecimal_of_nonneg (Int.natCast_nonneg _)
      unfold ResultReport.fields
      rw [hwinner, ResultReport.winnerField, hdecimal]
      rfl
    have hbound : (winner : Nat) < 2 ^ 32 := lt_trans winner.isLt (by decide)
    have hbyte : u8TryFrom winner = some (winner : Nat) := if_pos (lt_trans winner.isLt (by decide))
    have hparse := parseValue_line h hbound hlookup
    rw [if_pos (by rfl)]
    change (parseValue _ ResultKey.winner.name).bind u8TryFrom = _
    rw [hparse]
    exact hbyte

/-- A printed result is read back. -/
theorem parseMvlResultLine_line (h : Fits targetWins report)
    (hwinner : report.winner = resolveResultWinner report.result) :
    parseMvlResultLine (report.line i targetWins) = some (lineResult i targetWins report) := by
  have hwins : ∀ p, signedDecimal (report.wins p) = decimal (report.wins p).toNat :=
    fun p => signedDecimal_of_nonneg (h.wins p).1
  have hwin_lt : ∀ p, (report.wins p).toNat < 2 ^ 32 := by
    intro p
    have := h.wins p
    omega
  have htarget_lt : targetWins.toNat < 2 ^ 32 := by
    have := h.target
    omega
  have hvalue : ∀ (key : ResultKey) (n : Nat), n < 2 ^ 32 →
      (report.fields i targetWins).lookup key = some (decimal n) →
      parseValue (report.line i targetWins) key.name = some n :=
    fun key n hn hlookup => parseValue_line h hn hlookup
  have hframe : parseValue (report.line i targetWins) "frame".toList = some report.frame :=
    hvalue .frame _ h.frame (by
      unfold ResultReport.fields
      cases report.winner <;> rfl)
  have hpair : ∀ (key : ResultKey) (counter : Fin 2 → Nat), (∀ p, counter p < 2 ^ 32) →
      (report.fields i targetWins).lookup key = some (counterPair counter) →
      parsePair (report.line i targetWins) key.name = some (counter 0, counter 1) :=
    fun key counter hcounter hlookup => parsePair_line h (hcounter 0) (hcounter 1) hlookup
  have hstars : parsePair (report.line i targetWins) "stars".toList = _ :=
    hpair .stars _ h.battleStars (by
      unfold ResultReport.fields
      cases report.winner <;> rfl)
  have hdisplayed : parsePair (report.line i targetWins) "displayed".toList = _ :=
    hpair .displayed _ h.displayedStars (by
      unfold ResultReport.fields
      cases report.winner <;> rfl)
  have hcollected : parsePair (report.line i targetWins) "collected".toList = _ :=
    hpair .collected _ h.collectedStars (by
      unfold ResultReport.fields
      cases report.winner <;> rfl)
  have hlives : parsePair (report.line i targetWins) "lives".toList = _ :=
    hpair .lives _ h.lives (by
      unfold ResultReport.fields
      cases report.winner <;> rfl)
  have hdeaths : parsePair (report.line i targetWins) "deaths".toList = _ :=
    hpair .deaths _ h.deaths (by
      unfold ResultReport.fields
      cases report.winner <;> rfl)
  have hdead : parsePair (report.line i targetWins) "dead".toList = _ :=
    hpair .dead _ h.dead (by
      unfold ResultReport.fields
      cases report.winner <;> rfl)
  have hmatchWins : parsePair (report.line i targetWins) "matchWins".toList
      = some ((report.wins 0).toNat, (report.wins 1).toNat) :=
    hpair .matchWins (fun p => (report.wins p).toNat) hwin_lt (by
      unfold ResultReport.fields
      rw [hwins 0, hwins 1]
      cases report.winner <;> rfl)
  have htarget : parseValue (report.line i targetWins) "target".toList = some targetWins.toNat :=
    hvalue .target _ htarget_lt (by
      unfold ResultReport.fields
      rw [signedDecimal_of_nonneg h.target.1]
      cases report.winner <;> rfl)
  have hlogged := loggedWinner_line (i := i) h
  have hresolved : (!report.winner.isNone) = report.winner.isSome := by cases report.winner <;> rfl
  have hcorrected := correctedStageWinner_resolve report.result
  rw [← hwinner] at hcorrected
  unfold parseMvlResultLine
  rw [resultPrefix_isPrefixOf, unresolvedPrefix_isPrefixOf, if_neg (by decide)]
  simp only [hframe, hstars, hdisplayed, hcollected, hlives, hdeaths, hdead,
    hmatchWins, htarget, hlogged, hcorrected, Option.bind_eq_bind, Option.bind_some, hresolved]
  rfl

end Bigstar.Launcher
