import Mathlib.Algebra.Ring.Int.Defs
import Mathlib.Algebra.Ring.Nat
import Mathlib.Data.List.DropRight
import Mathlib.Tactic.Common

/-!
# Text as the C and C++ standard libraries read and write it

A text is the list of its characters. `getline`, the extraction of words by `>>`, `strtoul` and
`strtol` with base detection, and the decimal output of a number follow the standard in the C
locale. The lemmas say how a reader takes apart what a writer has put together.
-/

namespace CText

/-- A `std::string`. -/
abbrev Text := List Char

/-- The width of `long`: 64 bits with LP64 (Linux, macOS), 32 bits with LLP64 (Windows). -/
inductive DataModel where
  /-- `long` has 64 bits, as on Linux and macOS. -/
  | lp64
  /-- `long` has 32 bits, as on Windows. -/
  | llp64
  deriving DecidableEq, Repr

/-- The width of `long`. -/
def DataModel.longBits : DataModel → Nat
  | lp64 => 64
  | llp64 => 32

/-- `std::isspace`. -/
def isSpace (c : Char) : Bool :=
  c = ' ' || c = '\t' || c = '\n' || c = '\x0b' || c = '\x0c' || c = '\r'

/-- What `c_str()` shows of a string: everything before the first null character. -/
def cString (text : Text) : Text := text.takeWhile (· ≠ '\x00')

/-! ## Lines and words -/

/-- The strings that repeated calls of `std::getline(stream, line, delimiter)` return. A delimiter
at the end of the text is not followed by another, empty, string. -/
def getlines (delimiter : Char) : Text → List Text
  | [] => []
  | c :: text =>
    if c = delimiter then [] :: getlines delimiter text
    else match getlines delimiter text with
      | [] => [[c]]
      | line :: lines => (c :: line) :: lines

/-- The strings that repeated extraction by `>>` returns. -/
def words (text : Text) : List Text := (text.splitOnP isSpace).filter (· ≠ [])

/-- The first line, and the others. -/
theorem getlines_append_cons {delimiter : Char} {line : Text} (h : delimiter ∉ line) (rest : Text) :
    getlines delimiter (line ++ delimiter :: rest) = line :: getlines delimiter rest := by
  induction line with
  | nil => simp [getlines]
  | cons c line ih =>
    rw [List.mem_cons, not_or] at h
    rw [List.cons_append, getlines, if_neg (Ne.symm h.1), ih h.2]

theorem getlines_of_notMem {delimiter : Char} {line : Text}
    (h : delimiter ∉ line) (hne : line ≠ []) :
    getlines delimiter line = [line] := by
  induction line with
  | nil => exact absurd rfl hne
  | cons c line ih =>
    rw [List.mem_cons, not_or] at h
    rw [getlines, if_neg (Ne.symm h.1)]
    cases line with
    | nil => rfl
    | cons c' line => rw [ih h.2 (List.cons_ne_nil _ _)]

/-- Joining with a delimiter is undone by `getline`. -/
theorem getlines_intercalate {delimiter : Char} {parts : List Text}
    (h : ∀ part ∈ parts, delimiter ∉ part ∧ part ≠ []) :
    getlines delimiter ([delimiter].intercalate parts) = parts := by
  induction parts with
  | nil => rfl
  | cons part parts ih =>
    obtain ⟨hmem, hne⟩ := h part List.mem_cons_self
    cases parts with
    | nil =>
      rw [List.intercalate_singleton]
      exact getlines_of_notMem hmem hne
    | cons part' parts =>
      have hrest := ih (fun p hp => h p (List.mem_cons_of_mem _ hp))
      rw [List.intercalate_cons_cons, List.append_assoc, List.singleton_append,
        getlines_append_cons hmem, hrest]

/-- The first word, and the others. -/
theorem words_append_cons {word : Text} {sep : Char}
    (h : ∀ c ∈ word, isSpace c = false) (hne : word ≠ [])
    (hsep : isSpace sep = true) (rest : Text) :
    words (word ++ sep :: rest) = word :: words rest := by
  rw [words, List.splitOnP_append_cons_of_forall_mem h sep hsep,
    List.filter_cons_of_pos (by simpa using hne)]
  rfl

theorem words_of_forall {word : Text} (h : ∀ c ∈ word, isSpace c = false) (hne : word ≠ []) :
    words word = [word] := by
  rw [words, List.splitOnP_eq_singleton h,
    List.filter_cons_of_pos (by simpa using hne), List.filter_nil]

/-- Joining with blanks is undone by the extraction of words. -/
theorem words_intercalate {parts : List Text}
    (h : ∀ part ∈ parts, (∀ c ∈ part, isSpace c = false) ∧ part ≠ []) :
    words ([' '].intercalate parts) = parts := by
  induction parts with
  | nil => rfl
  | cons part parts ih =>
    obtain ⟨hmem, hne⟩ := h part List.mem_cons_self
    cases parts with
    | nil =>
      rw [List.intercalate_singleton]
      exact words_of_forall hmem hne
    | cons part' parts =>
      have hrest := ih (fun p hp => h p (List.mem_cons_of_mem _ hp))
      rw [List.intercalate_cons_cons, List.append_assoc, List.singleton_append,
        words_append_cons hmem hne rfl, hrest]

/-! ## Joined texts -/

/-- What is between two separators is in a part. -/
theorem mem_intercalate_singleton {sep c : Char} {parts : List Text}
    (h : c ∈ [sep].intercalate parts) : c = sep ∨ ∃ part ∈ parts, c ∈ part := by
  induction parts with
  | nil => cases h
  | cons part parts ih =>
    cases parts with
    | nil =>
      rw [List.intercalate_singleton] at h
      exact Or.inr ⟨part, List.mem_cons_self, h⟩
    | cons part' parts =>
      rw [List.intercalate_cons_cons, List.append_assoc, List.mem_append, List.singleton_append,
        List.mem_cons] at h
      rcases h with h | rfl | h
      · exact Or.inr ⟨part, List.mem_cons_self, h⟩
      · exact Or.inl rfl
      · obtain hsep | ⟨p, hp, hc⟩ := ih h
        · exact Or.inl hsep
        · exact Or.inr ⟨p, List.mem_cons_of_mem _ hp, hc⟩

theorem intercalate_ne_nil {sep : Char} {parts : List Text} (h : ∀ part ∈ parts, part ≠ [])
    (hne : parts ≠ []) : [sep].intercalate parts ≠ [] := by
  obtain ⟨part, parts, rfl⟩ := List.exists_cons_of_ne_nil hne
  have hpart := h part List.mem_cons_self
  cases parts with
  | nil => rwa [List.intercalate_singleton]
  | cons part' parts =>
    rw [List.intercalate_cons_cons]
    simp

theorem head?_intercalate {sep : Char} {part : Text} (hne : part ≠ []) (parts : List Text) :
    ([sep].intercalate (part :: parts)).head? = part.head? := by
  cases parts with
  | nil => rw [List.intercalate_singleton]
  | cons part' parts =>
    rw [List.intercalate_cons_cons, List.append_assoc, List.head?_append_of_ne_nil _ hne]

theorem getLast?_intercalate {sep : Char} {parts : List Text} (h : ∀ part ∈ parts, part ≠ []) :
    ([sep].intercalate parts).getLast? = parts.getLast?.bind List.getLast? := by
  induction parts with
  | nil => rfl
  | cons part parts ih =>
    cases parts with
    | nil => rw [List.intercalate_singleton]; rfl
    | cons part' parts =>
      have htail : ∀ p ∈ part' :: parts, p ≠ [] := fun p hp => h p (List.mem_cons_of_mem _ hp)
      rw [List.intercalate_cons_cons,
        List.getLast?_append_of_ne_nil _ (intercalate_ne_nil htail (List.cons_ne_nil _ _)),
        ih htail, List.getLast?_cons_cons]

/-! ## Trimming -/

/-- The text without the characters `blank` at its two ends. -/
def trim (blank : Char → Bool) (text : Text) : Text := (text.dropWhile blank).rdropWhile blank

/-- Nothing is trimmed from a text without blanks at its ends. -/
theorem trim_eq_self {blank : Char → Bool} {text : Text} (h : ∀ c ∈ text.head?, blank c = false)
    (h' : ∀ c ∈ text.getLast?, blank c = false) : trim blank text = text := by
  have hdrop : text.dropWhile blank = text := by
    cases text with
    | nil => rfl
    | cons c text => rw [List.dropWhile_cons_of_neg (by simpa using h c rfl)]
  rw [trim, hdrop, List.rdropWhile_eq_self_iff]
  intro hne
  rw [h' _ (List.getLast_mem_getLast? hne)]
  exact Bool.false_ne_true

/-! ## Numbers -/

/-- The value of a character as a digit, at least 36 where it is none. -/
def digitValue (c : Char) : Nat :=
  if '0' ≤ c ∧ c ≤ '9' then c.toNat - '0'.toNat
  else if 'a' ≤ c ∧ c ≤ 'z' then c.toNat - 'a'.toNat + 10
  else if 'A' ≤ c ∧ c ≤ 'Z' then c.toNat - 'A'.toNat + 10
  else 36

/-- A digit of the base. -/
def isDigitOf (base : Nat) (c : Char) : Bool := digitValue c < base

/-- The value of a list of digits, the most significant one first. -/
def digitsValue (base : Nat) (digits : Text) : Nat :=
  digits.foldl (fun value c => base * value + digitValue c) 0

/-- The base that a number starts with when base 0 is asked for, and the number without a `0x`. -/
def numberBase : Text → Nat × Text
  | '0' :: x :: d :: rest =>
    if (x = 'x' || x = 'X') && isDigitOf 16 d then (16, d :: rest) else (8, '0' :: x :: d :: rest)
  | '0' :: rest => (8, '0' :: rest)
  | text => (10, text)

/-- A leading zero means base 16 or 8. -/
theorem numberBase_zero_cons (x d : Char) (rest : Text) :
    numberBase ('0' :: x :: d :: rest)
      = if (x = 'x' || x = 'X') && isDigitOf 16 d then (16, d :: rest) else
        (8, '0' :: x :: d :: rest) :=
  rfl

/-- A number at the beginning of a text: its sign, its size, and the text behind it. -/
structure Scanned where
  /-- There was a minus sign. -/
  negative : Bool
  /-- The value of the digits. -/
  magnitude : Nat
  /-- What follows the number. -/
  rest : Text
  deriving DecidableEq, Repr

/-- The digits of a number whose sign has been read. -/
def scanDigits (negative : Bool) (text : Text) : Option Scanned :=
  let number := numberBase text
  let digits := number.2.takeWhile (isDigitOf number.1)
  if digits = [] then none
  else some ⟨negative, digitsValue number.1 digits, number.2.dropWhile (isDigitOf number.1)⟩

/-- The number that `strtoul` and `strtol` find with base 0, `none` where there is no number. -/
def scanNumber (text : Text) : Option Scanned :=
  match (cString text).dropWhile isSpace with
  | '-' :: rest => scanDigits true rest
  | '+' :: rest => scanDigits false rest
  | rest => scanDigits false rest

/-- `std::strtoul(text.c_str(), &end, 0)`: the value, and the text at `end`. -/
def strtoul (m : DataModel) (text : Text) : Nat × Text :=
  match scanNumber text with
  | none => (0, cString text)
  | some number =>
    (if 2 ^ m.longBits ≤ number.magnitude then 2 ^ m.longBits - 1
      else if number.negative then (2 ^ m.longBits - number.magnitude) % 2 ^ m.longBits
      else number.magnitude,
    number.rest)

/-- `std::strtol(text, &end, 0)`, `none` where `end` is `text`. -/
def strtol (m : DataModel) (text : Text) : Option Int :=
  match scanNumber text with
  | none => none
  | some number =>
    let value : Int := if number.negative then -number.magnitude else number.magnitude
    some (max (-2 ^ (m.longBits - 1)) (min value (2 ^ (m.longBits - 1) - 1)))

/-- The decimal text of a number, as `std::to_string` and `<<` write it. -/
def decimal (n : Nat) : Text := Nat.toDigits 10 n

theorem isDigit_of_mem_decimal {n : Nat} {c : Char} (h : c ∈ decimal n) : c.isDigit = true :=
  Nat.isDigit_of_mem_toDigits (by decide) (by decide) h

theorem decimal_ne_nil (n : Nat) : decimal n ≠ [] := Nat.toDigits_ne_nil

/-- A positive number does not start with a zero, so that base detection reads it with base 10. -/
theorem head?_decimal {n : Nat} (h : 0 < n) : (decimal n).head? ≠ some '0' := by
  induction n using Nat.strongRecOn with
  | ind n ih =>
    unfold decimal
    by_cases hsmall : n < 10
    · rw [Nat.toDigits_of_lt_base hsmall, List.head?_cons]
      intro hzero
      exact absurd (Nat.digitChar_eq_zero.mp (Option.some.inj hzero)) (by omega)
    · rw [Nat.toDigits_of_base_le (by decide) (by omega),
        List.head?_append_of_ne_nil _ Nat.toDigits_ne_nil]
      exact ih (n / 10) (by omega) (by omega)

theorem digitValue_of_isDigit {c : Char} (h : c.isDigit = true) :
    digitValue c = c.toNat - '0'.toNat ∧ digitValue c < 10 := by
  have hrange : '0' ≤ c ∧ c ≤ '9' := by
    simpa [Char.isDigit, Char.le_def] using h
  have hvalue : digitValue c = c.toNat - '0'.toNat := if_pos hrange
  have hle : c.toNat ≤ '9'.toNat := hrange.2
  have hnine : '9'.toNat = 57 := rfl
  have hzero : '0'.toNat = 48 := rfl
  exact ⟨hvalue, by omega⟩

/-- The value of digits is that of the library. -/
theorem digitsValue_eq_ofDigitChars {digits : Text} (h : ∀ c ∈ digits, c.isDigit = true) :
    digitsValue 10 digits = Nat.ofDigitChars 10 digits 0 := by
  rw [digitsValue, Nat.ofDigitChars_eq_foldl]
  apply List.foldl_ext
  intro value c hc
  rw [(digitValue_of_isDigit (h c hc)).1]

/-- The value of a number's digits is the number. -/
theorem digitsValue_decimal (n : Nat) : digitsValue 10 (decimal n) = n := by
  rw [digitsValue_eq_ofDigitChars (fun c hc => isDigit_of_mem_decimal hc)]
  exact Nat.ofDigitChars_ten_toDigits

theorem ne_of_isDigit {c c' : Char} (h : c.isDigit = true) (h' : c'.isDigit = false) : c ≠ c' := by
  rintro rfl
  rw [h] at h'
  exact Bool.noConfusion h'

theorem isSpace_of_isDigit {c : Char} (h : c.isDigit = true) : isSpace c = false := by
  simp [isSpace, ne_of_isDigit h]

/-- Digits hold no end of a string. -/
theorem cString_of_forall_isDigit {text : Text} (h : ∀ c ∈ text, c.isDigit = true) :
    cString text = text :=
  List.takeWhile_eq_self_iff.mpr (fun c hc => decide_eq_true (ne_of_isDigit (h c hc) rfl))

theorem isDigitOf_ten {c : Char} : isDigitOf 10 c = true ↔ c.isDigit = true := by
  refine ⟨fun h => ?_, fun h => decide_eq_true (digitValue_of_isDigit h).2⟩
  have hlt : digitValue c < 10 := of_decide_eq_true h
  by_contra hno
  have hrange : ¬('0' ≤ c ∧ c ≤ '9') := by simpa [Char.isDigit, Char.le_def] using hno
  rw [digitValue, if_neg hrange] at hlt
  split_ifs at hlt <;> omega

/-- Digits carry neither white space nor a sign before the number. -/
theorem scanNumber_of_forall_isDigit {text : Text}
    (h : ∀ c ∈ text, c.isDigit = true) (hne : text ≠ []) :
    scanNumber text = scanDigits false text := by
  obtain ⟨c, rest, rfl⟩ := List.exists_cons_of_ne_nil hne
  have hc := h c List.mem_cons_self
  rw [scanNumber, cString_of_forall_isDigit h,
    List.dropWhile_cons_of_neg (by rw [isSpace_of_isDigit hc]; decide)]
  split
  · next heq => exact absurd (List.cons.inj heq).1 (ne_of_isDigit hc rfl)
  · next heq => exact absurd (List.cons.inj heq).1 (ne_of_isDigit hc rfl)
  · rfl

/-- A sign in front changes nothing. -/
theorem scanNumber_plus {text : Text} (h : ∀ c ∈ text, c.isDigit = true) :
    scanNumber ('+' :: text) = scanDigits false text := by
  have hstring : cString ('+' :: text) = '+' :: text := by
    rw [cString, List.takeWhile_cons_of_pos rfl]
    exact congrArg _ (cString_of_forall_isDigit h)
  rw [scanNumber, hstring, List.dropWhile_cons_of_neg (by decide)]
  rfl

/-- Digits that do not start with a zero are read as a decimal number. -/
theorem scanDigits_of_head?_ne_zero {text : Text}
    (h : ∀ c ∈ text, c.isDigit = true) (hne : text ≠ []) (hhead : text.head? ≠ some '0') :
    scanDigits false text = some ⟨false, digitsValue 10 text, []⟩ := by
  have hdigit : ∀ c ∈ text, isDigitOf 10 c = true := fun c hc => isDigitOf_ten.mpr (h c hc)
  obtain ⟨c, rest, rfl⟩ := List.exists_cons_of_ne_nil hne
  have hzero : c ≠ '0' := fun hc => hhead (congrArg some hc)
  have hbase : numberBase (c :: rest) = (10, c :: rest) := by
    unfold numberBase
    split <;> simp_all
  rw [scanDigits, hbase]
  dsimp only
  rw [List.takeWhile_eq_self_iff.mpr hdigit, if_neg (List.cons_ne_nil _ _),
    List.dropWhile_eq_nil_iff.mpr hdigit]

/-- Digits that start with a zero are read as an octal number, up to the first digit that is
none. -/
theorem scanDigits_zero_cons {rest : Text} (h : ∀ c ∈ rest, c.isDigit = true) :
    scanDigits false ('0' :: rest) =
      some ⟨false, digitsValue 8 (('0' :: rest).takeWhile (isDigitOf 8)),
      ('0' :: rest).dropWhile (isDigitOf 8)⟩ := by
  have hbase : numberBase ('0' :: rest) = (8, '0' :: rest) := by
    rcases rest with _ | ⟨x, _ | ⟨d, rest⟩⟩
    · rfl
    · rfl
    · have hx : x ≠ 'x' := ne_of_isDigit (h x List.mem_cons_self) rfl
      have hX : x ≠ 'X' := ne_of_isDigit (h x List.mem_cons_self) rfl
      simp [numberBase, hx, hX]
  rw [scanDigits, hbase]
  dsimp only
  rw [if_neg (by rw [List.takeWhile_cons_of_pos (by decide)]; exact List.cons_ne_nil _ _)]

/-! ## Octal and decimal -/

theorem le_foldl_digits (base : Nat) (hbase : 0 < base) (digits : Text) (value : Nat) :
    value ≤ digits.foldl (fun value c => base * value + digitValue c) value := by
  induction digits generalizing value with
  | nil => exact Nat.le_refl _
  | cons c digits ih =>
    have hstep : value ≤ base * value + digitValue c :=
      Nat.le_add_right_of_le (Nat.le_mul_of_pos_left value hbase)
    exact Nat.le_trans hstep (ih _)

/-- An octal reading that is behind the decimal one stays behind it. -/
theorem foldl_octal_lt_decimal (digits : Text) {octal decimal : Nat} (h : octal < decimal) :
    (digits.takeWhile (isDigitOf 8)).foldl (fun value c => 8 * value + digitValue c) octal
      < digits.foldl (fun value c => 10 * value + digitValue c) decimal := by
  induction digits generalizing octal decimal with
  | nil => exact h
  | cons c digits ih =>
    by_cases hc : isDigitOf 8 c = true
    · rw [List.takeWhile_cons_of_pos hc, List.foldl_cons, List.foldl_cons]
      exact ih (by omega)
    · rw [List.takeWhile_cons_of_neg hc, List.foldl_nil, List.foldl_cons]
      exact Nat.lt_of_lt_of_le (by omega) (le_foldl_digits 10 (by decide) digits _)

/-- The octal reading of digits is never larger than the decimal one. -/
theorem foldl_octal_le_decimal (digits : Text) {octal decimal : Nat} (h : octal ≤ decimal) :
    (digits.takeWhile (isDigitOf 8)).foldl (fun value c => 8 * value + digitValue c) octal
      ≤ digits.foldl (fun value c => 10 * value + digitValue c) decimal := by
  induction digits generalizing octal decimal with
  | nil => exact h
  | cons c digits ih =>
    by_cases hc : isDigitOf 8 c = true
    · rw [List.takeWhile_cons_of_pos hc, List.foldl_cons, List.foldl_cons]
      exact ih (by omega)
    · rw [List.takeWhile_cons_of_neg hc, List.foldl_nil, List.foldl_cons]
      exact Nat.le_trans (by omega) (le_foldl_digits 10 (by decide) digits _)

theorem digitValue_eq_zero {c : Char} : digitValue c = 0 ↔ c = '0' := by
  refine ⟨fun hzero => ?_, fun hc => by rw [hc]; rfl⟩
  unfold digitValue at hzero
  split_ifs at hzero with hrange
  have hle : '0'.toNat ≤ c.toNat := hrange.1
  exact Char.toNat_inj.mp (by omega)

/-- Only zeros have the value 0. -/
theorem digitsValue_eq_zero {base : Nat} (hbase : 0 < base) {digits : Text} :
    digitsValue base digits = 0 ↔ ∀ c ∈ digits, c = '0' := by
  unfold digitsValue
  induction digits with
  | nil => simp
  | cons c digits ih =>
    rw [List.foldl_cons, List.forall_mem_cons, ← digitValue_eq_zero, Nat.mul_zero, Nat.zero_add]
    by_cases hc : digitValue c = 0
    · rw [hc]
      simpa using ih
    · have hpos := le_foldl_digits base hbase digits (digitValue c)
      refine ⟨fun hzero => absurd hzero (by omega), fun h => absurd h.1 hc⟩

/-- The octal reading of digits gives their decimal value only if at most one of them counts, and
that one is an octal digit. -/
theorem octal_eq_decimal_iff {digits : Text} (h : ∀ c ∈ digits, c.isDigit = true) :
    digitsValue 8 (digits.takeWhile (isDigitOf 8)) = digitsValue 10 digits ↔
      digits.dropWhile (· = '0') = [] ∨ ∃ c, digits.dropWhile (· = '0') = [c] ∧
      isDigitOf 8 c = true := by
  induction digits with
  | nil => simp [digitsValue]
  | cons c digits ih =>
    have hrest := fun c' hc' => h c' (List.mem_cons_of_mem _ hc')
    by_cases hzero : c = '0'
    · -- A leading zero counts for neither reading.
      subst hzero
      rw [List.dropWhile_cons_of_pos (by decide), List.takeWhile_cons_of_pos (by decide)]
      exact ih hrest
    · have hpos : 0 < digitValue c :=
        Nat.pos_of_ne_zero fun hc => hzero (digitValue_eq_zero.mp hc)
      rw [List.dropWhile_cons_of_neg (by simpa using hzero)]
      unfold digitsValue
      by_cases hc : isDigitOf 8 c = true
      · rw [List.takeWhile_cons_of_pos hc, List.foldl_cons, List.foldl_cons]
        cases digits with
        | nil => simp [hc]
        | cons c' digits =>
          have hlt : ((c' :: digits).takeWhile (isDigitOf 8)).foldl
            (fun value c => 8 * value + digitValue c)
              (8 * 0 + digitValue c)
                < (c' :: digits).foldl (fun value c => 10 * value + digitValue c)
                  (10 * 0 + digitValue c) := by
            by_cases hc' : isDigitOf 8 c' = true
            · rw [List.takeWhile_cons_of_pos hc', List.foldl_cons, List.foldl_cons]
              exact foldl_octal_lt_decimal digits (by omega)
            · rw [List.takeWhile_cons_of_neg hc', List.foldl_nil, List.foldl_cons]
              exact Nat.lt_of_lt_of_le (by omega) (le_foldl_digits 10 (by decide) digits _)
          refine ⟨fun heq => absurd heq (Nat.ne_of_lt hlt), ?_⟩
          rintro (hnil | ⟨d, hsingle, -⟩)
          · cases hnil
          · cases hsingle
      · have hlt : 0 < (c :: digits).foldl (fun value c => 10 * value + digitValue c) 0 := by
          rw [List.foldl_cons]
          exact Nat.lt_of_lt_of_le (by omega) (le_foldl_digits 10 (by decide) digits _)
        rw [List.takeWhile_cons_of_neg hc, List.foldl_nil]
        refine ⟨fun heq => absurd heq (Nat.ne_of_lt hlt), ?_⟩
        rintro (hnil | ⟨d, hsingle, hd⟩)
        · cases hnil
        · rw [(List.cons.inj hsingle).1] at hc
          exact absurd hd hc

/-! ## What is written is read back -/

/-- A number is scanned as it was written. -/
theorem scanNumber_decimal (n : Nat) : scanNumber (decimal n) = some ⟨false, n, []⟩ := by
  rcases Nat.eq_zero_or_pos n with rfl | hn
  · rfl
  · have hdigit : ∀ c ∈ decimal n, c.isDigit = true := fun c hc => isDigit_of_mem_decimal hc
    rw [scanNumber_of_forall_isDigit hdigit (decimal_ne_nil n),
      scanDigits_of_head?_ne_zero hdigit (decimal_ne_nil n) (head?_decimal hn), digitsValue_decimal]

/-- A number of 32 bits is in range. -/
theorem strtoul_of_scanNumber (m : DataModel) {text rest : Text} {n : Nat}
    (hscan : scanNumber text = some ⟨false, n, rest⟩) (h : n < 2 ^ 32) :
    strtoul m text = (n, rest) := by
  have hbits : 2 ^ 32 ≤ 2 ^ m.longBits := Nat.pow_le_pow_right (by decide) (by cases m <;> decide)
  rw [strtoul, hscan]
  dsimp only
  rw [if_neg (by omega), if_neg Bool.false_ne_true]

/-- `strtoul` reads a number as it was written. -/
theorem strtoul_decimal (m : DataModel) {n : Nat} (h : n < 2 ^ 32) :
    strtoul m (decimal n) = (n, []) :=
  strtoul_of_scanNumber m (scanNumber_decimal n) h

/-- So does `strtol`. -/
theorem strtol_decimal (m : DataModel) {n : Nat} (h : n < 2 ^ 31) :
    strtol m (decimal n) = some n := by
  rw [strtol, scanNumber_decimal]
  dsimp only
  rw [if_neg Bool.false_ne_true]
  cases m with
  | lp64 =>
    simp only [DataModel.longBits]
    congr 1
    omega
  | llp64 =>
    simp only [DataModel.longBits]
    congr 1
    omega

end CText
