import Bigstar.Netplay.InputScript
import Mathlib.Data.List.GetD
import Mathlib.Tactic.Common

/-!
# Reading back what a recorder writes

The line that a recorder writes for a span is parsed to that span, and the file of a list of spans
is parsed to the list.
-/

namespace Bigstar.Netplay.InputTimeline

open CText

/-! ## Buttons -/

/-- The names are made of capital letters. -/
theorem kButtonNames_spec : ∀ name ∈ kButtonNames, name ≠ [] ∧ ∀ c ∈ name, c.isUpper = true := by
  have hall : ∀ name ∈ kButtonNames, name ≠ [] ∧ name.all Char.isUpper = true := by decide
  intro name hname
  exact ⟨(hall name hname).1, List.all_eq_true.mp (hall name hname).2⟩

/-- No name begins like `NONE`, `NEUTRAL` or `mask=`. -/
theorem head?_kButtonNames : ∀ name ∈ kButtonNames,
    ∀ c ∈ name.head?, c.toUpper ≠ 'N' ∧ c ≠ 'm' ∧ c ≠ 'M' := by
  have hall : ∀ name ∈ kButtonNames,
      name.head?.all (fun c => c.toUpper ≠ 'N' ∧ c ≠ 'm' ∧ c ≠ 'M') = true := by decide
  intro name hname c hc
  have hname := hall name hname
  rw [Option.mem_def.mp hc] at hname
  exact of_decide_eq_true hname

theorem getD_kButtonNames_mem {bit : Nat} (h : bit < 12) :
    kButtonNames.getD bit [] ∈ kButtonNames := by
  have hlength : bit < kButtonNames.length := h
  rw [List.getD_eq_getElem _ _ hlength]
  exact List.getElem_mem _

/-- Each name stands for its bit. -/
theorem buttonBit_kButtonNames :
    ∀ bit < 12, buttonBit (Trim (kButtonNames.getD bit [])) = some bit := by
  decide

/-- The names of some buttons release these buttons. -/
theorem releaseButtons_names {bits : List Nat} (h : ∀ bit ∈ bits, bit < 12) (keyMask : UInt32) :
    releaseButtons keyMask (bits.map (kButtonNames.getD · []))
      = some (bits.foldl (fun mask bit => mask &&& ~~~bitMask bit) keyMask) := by
  induction bits generalizing keyMask with
  | nil => rfl
  | cons bit bits ih =>
    have hbit := buttonBit_kButtonNames bit (h bit List.mem_cons_self)
    rw [List.map_cons, releaseButtons, hbit]
    exact ih (fun b hb => h b (List.mem_cons_of_mem _ hb)) _

theorem getLsbD_bitMask : ∀ bit < 12, ∀ i < 32, (bitMask bit).toBitVec.getLsbD i = (i == bit) := by
  decide

/-- Pressing some keys clears their bits, and no others. -/
theorem getLsbD_foldl_release {bits : List Nat} (h : ∀ bit ∈ bits, bit < 12)
    (keyMask : UInt32) {i : Nat} (hi : i < 32) :
    (bits.foldl (fun mask bit => mask &&& ~~~bitMask bit) keyMask).toBitVec.getLsbD i
      = (keyMask.toBitVec.getLsbD i && !decide (i ∈ bits)) := by
  induction bits generalizing keyMask with
  | nil => simp
  | cons bit bits ih =>
    have hbit := getLsbD_bitMask bit (h bit List.mem_cons_self) i hi
    rw [List.foldl_cons, ih (fun b hb => h b (List.mem_cons_of_mem _ hb))]
    simp only [UInt32.toBitVec_and, UInt32.toBitVec_not, BitVec.getLsbD_and,
      BitVec.getLsbD_not, hbit, hi, decide_true, Bool.true_and, List.mem_cons, Bool.decide_or,
      Bool.not_or, Bool.and_assoc]
    rfl

theorem and_bitMask_eq_zero {keyMask : UInt32} {bit : Nat} (h : bit < 12) :
    keyMask &&& bitMask bit = 0 ↔ keyMask.toBitVec.getLsbD bit = false := by
  constructor
  · intro hzero
    have hbit := congrArg (fun mask : UInt32 => mask.toBitVec.getLsbD bit) hzero
    simpa [getLsbD_bitMask bit h bit (by omega)] using hbit
  · intro hbit
    apply UInt32.eq_of_toBitVec_eq
    apply BitVec.eq_of_getLsbD_eq
    intro i hi
    rw [UInt32.toBitVec_and, BitVec.getLsbD_and, getLsbD_bitMask bit h i hi]
    by_cases heq : i = bit
    · rw [heq, hbit]
      simp
    · simp [heq]

/-- A key is pressed where its bit is clear. -/
theorem mem_pressed {keyMask : UInt32} {bit : Nat} :
    bit ∈ pressed keyMask ↔ bit < 12 ∧ keyMask.toBitVec.getLsbD bit = false := by
  rw [pressed, List.mem_filter, List.mem_range, decide_eq_true_eq]
  exact and_congr_right fun h => and_bitMask_eq_zero h

theorem getLsbD_twelveBits : ∀ i < 32, (0xFFF : UInt32).toBitVec.getLsbD i = decide (i < 12) := by
  decide

/-- Releasing the pressed buttons leaves the twelve bits of the mask. -/
theorem foldl_pressed (keyMask : UInt32) :
    (pressed keyMask).foldl (fun mask bit => mask &&& ~~~bitMask bit) 0xFFF =
      keyMask &&& 0xFFF := by
  apply UInt32.eq_of_toBitVec_eq
  apply BitVec.eq_of_getLsbD_eq
  intro i hi
  rw [getLsbD_foldl_release (fun bit hbit => (mem_pressed.mp hbit).1) _ hi, UInt32.toBitVec_and,
    BitVec.getLsbD_and, getLsbD_twelveBits i hi]
  by_cases h : i < 12
  · by_cases hbit : keyMask.toBitVec.getLsbD i = true
    · simp [mem_pressed, h, hbit]
    · simp [mem_pressed, h, hbit]
  · simp [h]

/-! ## The columns of a line -/

/-- A character of a column: neither white space nor the beginning of a comment. -/
def isPlain (c : Char) : Bool := !isSpace c && c != '#'

theorem isPlain_of_isDigit {c : Char} (h : c.isDigit = true) : isPlain c = true := by
  have hhash : c ≠ '#' := ne_of_isDigit h rfl
  simp [isPlain, isSpace_of_isDigit h, hhash]

/-- Names of keys hold no separator. -/
theorem isPlain_of_isUpper {c : Char} (h : c.isUpper = true) : isPlain c = true := by
  have hne : ∀ c' : Char, c'.isUpper = false → c ≠ c' := by
    rintro c' h' rfl
    rw [h] at h'
    cases h'
  simp [isPlain, isSpace, hne]

/-- The names of the pressed buttons, as a recorder writes them. -/
def buttonsText (keyMask : UInt32) : Text :=
  ['+'].intercalate ((pressed keyMask).map (kButtonNames.getD · []))

/-- The second column. -/
def buttonsColumn (keyMask : UInt32) : Text :=
  if buttonsText keyMask = [] then "NONE".toList else buttonsText keyMask

/-- The third column, which is only there when the screen is touched. -/
def touchColumn (input : InputState) : Text :=
  decimal input.touchX.toNat ++ ',' :: decimal input.touchY.toNat

theorem mem_pressed_names {keyMask : UInt32} {name : Text}
    (h : name ∈ (pressed keyMask).map (kButtonNames.getD · [])) : name ∈ kButtonNames := by
  obtain ⟨bit, hbit, rfl⟩ := List.mem_map.mp h
  exact getD_kButtonNames_mem (mem_pressed.mp hbit).1

theorem buttonsText_eq_nil {keyMask : UInt32} : buttonsText keyMask = [] ↔
    pressed keyMask = [] := by
  constructor
  · intro h
    by_contra hne
    refine intercalate_ne_nil (fun name hname => ?_) (by simpa using hne) h
    exact (kButtonNames_spec name (mem_pressed_names hname)).1
  · intro h
    rw [buttonsText, h]
    rfl

theorem isPlain_buttonsColumn {keyMask : UInt32} {c : Char} (h : c ∈ buttonsColumn keyMask) :
    isPlain c = true := by
  unfold buttonsColumn at h
  split_ifs at h
  · have hnone : "NONE".toList.all isPlain = true := by decide
    exact List.all_eq_true.mp hnone c h
  · obtain rfl | ⟨name, hname, hc⟩ := mem_intercalate_singleton h
    · rfl
    · exact isPlain_of_isUpper ((kButtonNames_spec name (mem_pressed_names hname)).2 c hc)

/-- The column of the keys is never empty. -/
theorem buttonsColumn_ne_nil (keyMask : UInt32) : buttonsColumn keyMask ≠ [] := by
  unfold buttonsColumn
  split_ifs with h
  · decide
  · exact h

/-- The buttons column is read back as the twelve bits of the mask. -/
theorem parseInputSpec_buttonsColumn (m : DataModel) (keyMask : UInt32) :
    parseInputSpec m (buttonsColumn keyMask) = some { keyMask := keyMask &&& 0xFFF } := by
  by_cases hnone : pressed keyMask = []
  · have hmask := foldl_pressed keyMask
    rw [hnone] at hmask
    rw [← hmask, buttonsColumn, if_pos (buttonsText_eq_nil.mpr hnone)]
    rfl
  · obtain ⟨bit, bits, hbits⟩ := List.exists_cons_of_ne_nil hnone
    have hlt : ∀ b ∈ pressed keyMask, b < 12 := fun b hb => (mem_pressed.mp hb).1
    have hname := getD_kButtonNames_mem (hlt bit (hbits ▸ List.mem_cons_self))
    obtain ⟨hne, -⟩ := kButtonNames_spec _ hname
    have htext : buttonsText keyMask ≠ [] := fun h => hnone (buttonsText_eq_nil.mp h)
    have hhead : (buttonsText keyMask).head? = (kButtonNames.getD bit []).head? := by
      rw [buttonsText, hbits, List.map_cons, head?_intercalate hne]
    obtain ⟨c, rest, hcons⟩ := List.exists_cons_of_ne_nil htext
    rw [hcons, List.head?_cons] at hhead
    obtain ⟨hN, hm, hM⟩ := head?_kButtonNames _ hname c hhead.symm
    have hspec : ¬(c :: rest = [] ∨ upper (c :: rest) = "NONE".toList ∨
        upper (c :: rest) = "NEUTRAL".toList) := by
      rintro (h | h | h)
      · cases h
      · exact hN (List.cons.inj h).1
      · exact hN (List.cons.inj h).1
    have hprefix : ¬("mask=".toList <+: c :: rest ∨ "MASK=".toList <+: c :: rest) := by
      rintro (h | h)
      · exact hm (List.cons_prefix_cons.mp h).1.symm
      · exact hM (List.cons_prefix_cons.mp h).1.symm
    have hsplit : getlines '+' (c :: rest) = (pressed keyMask).map (kButtonNames.getD · []) := by
      rw [← hcons]
      apply getlines_intercalate
      intro name hname
      obtain ⟨hne, hupper⟩ := kButtonNames_spec name (mem_pressed_names hname)
      exact ⟨fun hplus => absurd (hupper '+' hplus) (by decide), hne⟩
    rw [buttonsColumn, if_neg htext, hcons, parseInputSpec, if_neg hspec, if_neg hprefix, hsplit,
      releaseButtons_names hlt, foldl_pressed]
    rfl

/-- A number is read as it was written. -/
theorem parseU32_decimal (m : DataModel) {n : Nat} (h : n < 2 ^ 32) :
    parseU32 m (decimal n) = some n := by
  rw [parseU32, strtoul_decimal m h]
  dsimp only
  rw [if_pos rfl, u32, Nat.mod_eq_of_lt h]

/-- A text is split at the first separator. -/
theorem splitAtFirst_append {c : Char} {left : Text} (h : c ∉ left) (right : Text) :
    splitAtFirst c (left ++ c :: right) = some (left, right) := by
  have hleft : ∀ c' ∈ left, decide (c' ≠ c) = true :=
    fun c' hc' => decide_eq_true fun heq => h (heq ▸ hc')
  rw [splitAtFirst, if_pos (by simp), List.takeWhile_append_of_pos hleft,
    List.dropWhile_append_of_pos hleft]
  simp

theorem notMem_decimal {c : Char} (h : c.isDigit = false) (n : Nat) : c ∉ decimal n :=
  fun hmem => ne_of_isDigit (isDigit_of_mem_decimal hmem) h rfl

/-! ## A line -/

/-- The touch coordinates are on the screen, and zero when it is not touched. -/
def OnScreen (input : InputState) : Prop :=
  if input.touching then input.touchX ≤ 255 ∧ input.touchY ≤ 191 else
    input.touchX = 0 ∧ input.touchY = 0

instance (input : InputState) : Decidable (OnScreen input) :=
  inferInstanceAs (Decidable (if input.touching then input.touchX ≤ 255 ∧ input.touchY ≤ 191 else
    input.touchX = 0 ∧ input.touchY = 0))

/-- A span that a recorder writes. -/
structure InputSpan.Recorded (span : InputSpan) : Prop where
  forAll : span.instanceID = -1
  ordered : span.start ≤ span.finish
  finish_lt : span.finish < 2 ^ 32
  keyMask : span.input.keyMask &&& 0xFFF = span.input.keyMask
  onScreen : OnScreen span.input

/-- The columns of the line of a span. -/
def columns (span : InputSpan) : List Text :=
  [decimal span.start ++ '-' :: decimal span.finish, buttonsColumn span.input.keyMask]
    ++ if span.input.touching then [touchColumn span.input] else []

/-- A line is its columns with blanks between them. -/
theorem spanLine_eq (span : InputSpan) :
    Recorder.spanLine span.start span.finish span.input = [' '].intercalate (columns span) := by
  have hspec : inputSpecForScript span.input
      = if span.input.touching then
          buttonsColumn span.input.keyMask ++ ' ' :: decimal span.input.touchX.toNat
            ++ ',' :: decimal span.input.touchY.toNat
        else buttonsColumn span.input.keyMask := rfl
  rw [Recorder.spanLine, columns, hspec]
  by_cases htouch : span.input.touching = true
  · rw [if_pos htouch, if_pos htouch]
    simp [List.intercalate_cons_cons, touchColumn]
  · rw [if_neg htouch, if_neg htouch]
    simp [List.intercalate_cons_cons]

theorem isPlain_of_mem_decimal {n : Nat} {c : Char} (h : c ∈ decimal n) : isPlain c = true :=
  isPlain_of_isDigit (isDigit_of_mem_decimal h)

/-- No column holds a separator. -/
theorem columns_spec {span : InputSpan} {column : Text} (h : column ∈ columns span) :
    (∀ c ∈ column, isPlain c = true) ∧ column ≠ [] := by
  have hpair : ∀ (n n' : Nat) (sep : Char), isPlain sep = true →
    ∀ c ∈ decimal n ++ sep :: decimal n',
      isPlain c = true := by
    intro n n' sep hsep c hc
    rw [List.mem_append, List.mem_cons] at hc
    rcases hc with hc | rfl | hc
    · exact isPlain_of_mem_decimal hc
    · exact hsep
    · exact isPlain_of_mem_decimal hc
  rw [columns, List.mem_append, List.mem_pair] at h
  rcases h with (rfl | rfl) | h
  · exact ⟨hpair _ _ '-' rfl, by simp⟩
  · exact ⟨fun c hc => isPlain_buttonsColumn hc, buttonsColumn_ne_nil _⟩
  · split_ifs at h
    · rw [List.mem_singleton.mp h]
      exact ⟨hpair _ _ ',' rfl, by simp [touchColumn]⟩
    · cases h

theorem isBlank_of_isPlain {c : Char} (h : isPlain c = true) : isBlank c = false := by
  by_contra hblank
  have hspace : isSpace c = true := by
    unfold isBlank at hblank
    unfold isSpace
    simp only [Bool.or_eq_true, decide_eq_true_eq, Bool.not_eq_false] at hblank ⊢
    tauto
  rw [isPlain, hspace] at h
  cases h

/-- A line of plain columns is taken apart as it was put together. -/
theorem line_of_columns {parts : List Text}
    (h : ∀ part ∈ parts, (∀ c ∈ part, isPlain c = true) ∧ part ≠ []) (hne : parts ≠ []) :
    Trim (([' '].intercalate parts).takeWhile (· ≠ '#')) = [' '].intercalate parts
      ∧ words ([' '].intercalate parts) = parts := by
  have hplain : ∀ {c : Char}, isPlain c = true → isSpace c = false ∧ c ≠ '#' := by
    intro c hc
    simpa [isPlain] using hc
  have hcomment : ([' '].intercalate parts).takeWhile (· ≠ '#') = [' '].intercalate parts := by
    rw [List.takeWhile_eq_self_iff]
    intro c hc
    obtain rfl | ⟨part, hpart, hc⟩ := mem_intercalate_singleton hc
    · rfl
    · exact decide_eq_true (hplain ((h part hpart).1 c hc)).2
  rw [hcomment]
  constructor
  · apply trim_eq_self
    · intro c hc
      obtain ⟨part, rest, rfl⟩ := List.exists_cons_of_ne_nil hne
      obtain ⟨hpart, hpartNe⟩ := h part List.mem_cons_self
      rw [head?_intercalate hpartNe] at hc
      exact isBlank_of_isPlain (hpart c (List.mem_of_mem_head? hc))
    · intro c hc
      rw [getLast?_intercalate (fun part hpart => (h part hpart).2), Option.mem_def,
        Option.bind_eq_some_iff] at hc
      obtain ⟨part, hpart, hc⟩ := hc
      exact isBlank_of_isPlain ((h part (List.mem_of_getLast? hpart)).1 c (List.mem_of_getLast? hc))
  · exact words_intercalate fun part hpart =>
      ⟨fun c hc => (hplain ((h part hpart).1 c hc)).1, (h part hpart).2⟩

/-- The touched point is read as it was written. -/
theorem parseTouch_touchColumn (m : DataModel) (input : InputState) :
    parseTouch m (touchColumn input) = some (input.touchX.toNat, input.touchY.toNat) := by
  have hx := input.touchX.toNat_lt
  have hy := input.touchY.toNat_lt
  rw [parseTouch, touchColumn, splitAtFirst_append (notMem_decimal rfl _)]
  simp only [Option.bind_eq_bind, Option.bind_some, Option.pure_def]
  rw [parseU32_decimal m (by omega), parseU32_decimal m (by omega)]
  rfl

/-- The columns of a recorded span are read back. -/
theorem parseColumns_columns (m : DataModel) {span : InputSpan} (h : span.Recorded) :
    parseColumns m (-1) ((columns span).getD 0 []) ((columns span).getD 1 [])
      ((columns span).getD 2 [])
      = .ok span := by
  obtain ⟨instanceID, start, finish, keyMask, touching, touchX, touchY⟩ := span
  obtain ⟨hforAll, hordered, hfinish, hkeyMask, honScreen⟩ := h
  dsimp only at hforAll hordered hfinish hkeyMask
  have hrange : splitAtFirst '-' (decimal start ++ '-' :: decimal finish)
      = some (decimal start, decimal finish) := splitAtFirst_append (notMem_decimal rfl _) _
  have hinput := parseInputSpec_buttonsColumn m keyMask
  rw [hkeyMask] at hinput
  unfold parseColumns columns
  cases touching with
  | false =>
    obtain ⟨hx, hy⟩ : touchX = 0 ∧ touchY = 0 := honScreen
    simp [hrange, hinput, parseU32_decimal m (show start < 2 ^ 32 by omega),
      parseU32_decimal m hfinish, hordered, hforAll, hx, hy]
  | true =>
    obtain ⟨hx, hy⟩ : touchX ≤ 255 ∧ touchY ≤ 191 := honScreen
    have hx' : min touchX.toNat 255 = touchX.toNat := Nat.min_eq_left hx
    have hy' : min touchY.toNat 191 = touchY.toNat := Nat.min_eq_left hy
    have htouch := parseTouch_touchColumn m ⟨keyMask, true, touchX, touchY⟩
    have hne : touchColumn ⟨keyMask, true, touchX, touchY⟩ ≠ [] := by simp [touchColumn]
    simp [hrange, hinput, parseU32_decimal m (show start < 2 ^ 32 by omega),
      parseU32_decimal m hfinish, hordered, hforAll, hx', hy', htouch, hne]

/-- A line is read as the span that it was written for. -/
theorem parseLine_spanLine (m : DataModel) {span : InputSpan} (h : span.Recorded) :
    parseLine m (Recorder.spanLine span.start span.finish span.input) = .ok (some span) := by
  have hne : columns span ≠ [] := by simp [columns]
  obtain ⟨htrim, hwords⟩ := line_of_columns (fun column hcolumn => columns_spec hcolumn) hne
  have hline : [' '].intercalate (columns span) ≠ [] :=
    intercalate_ne_nil (fun column hcolumn => (columns_spec hcolumn).2) hne
  have hdash : '-' ∈ (columns span).getD 0 [] := by simp [columns]
  rw [spanLine_eq, parseLine, htrim]
  dsimp only
  rw [if_neg hline, hwords, if_pos hdash, parseColumns_columns m h]
  rfl

/-! ## A file -/

/-- The lines of some spans, each with its line end. -/
def spanLines (spans : List InputSpan) : Text :=
  spans.flatMap fun span => Recorder.spanLine span.start span.finish span.input ++ ['\n']

/-- A span is written on one line. -/
theorem newline_notMem_spanLine (span : InputSpan) :
    '\n' ∉ Recorder.spanLine span.start span.finish span.input := by
  rw [spanLine_eq]
  intro h
  obtain h | ⟨column, hcolumn, h⟩ := mem_intercalate_singleton h
  · exact absurd h (by decide)
  · exact absurd ((columns_spec hcolumn).1 _ h) (by decide)

/-- The lines of a recording are those of its spans. -/
theorem getlines_spanLines (spans : List InputSpan) :
    getlines '\n' (spanLines spans)
      = spans.map fun span => Recorder.spanLine span.start span.finish span.input := by
  induction spans with
  | nil => rfl
  | cons span spans ih =>
    rw [spanLines, List.flatMap_cons, List.append_assoc, List.singleton_append,
      getlines_append_cons (newline_notMem_spanLine span), List.map_cons]
    exact congrArg _ ih

/-- All spans are read as they were written. -/
theorem parseLines_spans (m : DataModel) {spans : List InputSpan}
    (h : ∀ span ∈ spans, span.Recorded) (lineNo : Nat) (before : List InputSpan) :
    parseLines m lineNo before
      (spans.map fun span => Recorder.spanLine span.start span.finish span.input)
      = (before ++ spans, none) := by
  induction spans generalizing lineNo before with
  | nil => rw [List.map_nil, parseLines, List.append_nil]
  | cons span spans ih =>
    have hrest := ih (fun s hs => h s (List.mem_cons_of_mem _ hs)) (lineNo + 1) (before ++ [span])
    rw [List.map_cons, parseLines, parseLine_spanLine m (h span List.mem_cons_self)]
    dsimp only
    rw [hrest, List.append_assoc, List.singleton_append]

/-- A comment is no span. -/
theorem parseLine_comment (m : DataModel) (line : Text) : parseLine m ('#' :: line) = .ok none :=
  rfl

/-- The second comment at the top of a file, behind its `#`. -/
def rangeComment (startFrame endFrame : Nat) (instanceID : Int) : Text :=
  " startFrame=".toList ++ decimal startFrame ++ " endFrame=".toList ++ decimal endFrame
    ++ " instance=".toList ++ (if instanceID < 0 then ['-'] else []) ++ decimal instanceID.natAbs

theorem title_eq : "# NSMB input recording generated by melonDS NSML PoC\n".toList
    = '#' :: " NSMB input recording generated by melonDS NSML PoC".toList ++ ['\n'] := by
      decide +kernel

theorem header_eq (startFrame endFrame : Nat) (instanceID : Int) :
    Recorder.header startFrame endFrame instanceID
      = '#' :: " NSMB input recording generated by melonDS NSML PoC".toList
        ++ '\n' :: ('#' :: rangeComment startFrame endFrame instanceID ++ ['\n']) := by
  have hrange : "# startFrame=".toList = '#' :: " startFrame=".toList := by decide +kernel
  unfold Recorder.header rangeComment
  simp only [title_eq, hrange, List.append_assoc, List.cons_append, List.nil_append]

theorem newline_notMem_rangeComment (startFrame endFrame : Nat) (instanceID : Int) :
    '\n' ∉ '#' :: rangeComment startFrame endFrame instanceID := by
  have hsign : '\n' ∉ if instanceID < 0 then ['-'] else [] := by
    split_ifs <;> decide
  have hdecimal : ∀ n, '\n' ∉ decimal n := notMem_decimal rfl
  have hstart : '\n' ∉ " startFrame=".toList := by decide +kernel
  have hend : '\n' ∉ " endFrame=".toList := by decide +kernel
  have hinstance : '\n' ∉ " instance=".toList := by decide +kernel
  unfold rangeComment
  simp only [List.mem_cons, List.mem_append, hstart, hend, hinstance, hdecimal, hsign, or_false]
  decide

/-- The file of a list of spans is parsed to that list. -/
theorem parseInputScript_spanLines (m : DataModel) (startFrame endFrame : Nat) (instanceID : Int)
    {spans : List InputSpan} (h : ∀ span ∈ spans, span.Recorded) :
    parseInputScript m (Recorder.header startFrame endFrame instanceID ++ spanLines spans) =
      (spans, none) := by
  have htitle : '\n' ∉ '#' :: " NSMB input recording generated by melonDS NSML PoC".toList := by
    simp
  have hrange := newline_notMem_rangeComment startFrame endFrame instanceID
  have hfile : Recorder.header startFrame endFrame instanceID ++ spanLines spans
      = '#' :: " NSMB input recording generated by melonDS NSML PoC".toList
        ++ '\n' :: ('#' :: rangeComment startFrame endFrame instanceID ++
          '\n' :: spanLines spans) := by
    simp only [header_eq, List.append_assoc, List.cons_append, List.nil_append]
  rw [parseInputScript, hfile, getlines_append_cons htitle, getlines_append_cons hrange,
    getlines_spanLines, parseLines, parseLine_comment]
  dsimp only
  rw [parseLines, parseLine_comment]
  exact parseLines_spans m h _ []

end Bigstar.Netplay.InputTimeline
