import Bigstar.Launcher.Settings

/-!
# The number of a seed

A seed is a text that the launcher reads as Rust does and the emulator with `strtoul`. They differ
about leading zeros, which make a number octal for `strtoul`, and about a plus sign behind `0x`.
-/

namespace Bigstar.Launcher

open CText

/-- Both readings of a seed give the same number: a hexadecimal number has no plus sign behind its
prefix, or is zero; and behind the leading zeros of a decimal number stands at most one digit, which
is octal. -/
def readAlike (text : Text) : Bool :=
  match stripHexPrefix text with
  | some ('+' :: digits) => digits.all (· = '0')
  | some _ => true
  | none =>
    if (stripPlus text).head? = some '0' then
      match (stripPlus text).dropWhile (· = '0') with
      | [] => true
      | [c] => isDigitOf 8 c
      | _ => false
    else true

theorem u32FromStrRadix_eq_some {src : Text} {radix n : Nat}
    (h : u32FromStrRadix src radix = some n) :
    stripPlus src ≠ [] ∧ (∀ c ∈ stripPlus src, isDigitOf radix c = true) ∧
      digitsValue radix (stripPlus src) = n ∧ n < 2 ^ 32 := by
  unfold u32FromStrRadix at h
  dsimp only at h
  split_ifs at h with hvalid
  obtain ⟨hne, hall, hlt⟩ := hvalid
  cases h
  exact ⟨hne, List.all_eq_true.mp hall, rfl, hlt⟩

/-- A text is its digits, or has a plus sign before them. -/
theorem eq_or_eq_stripPlus (text : Text) :
    text = stripPlus text ∨ text = '+' :: stripPlus text := by
  unfold stripPlus
  split
  · exact Or.inr rfl
  · exact Or.inl rfl

/-! ## Decimal numbers -/

section Decimal

variable {text : Text} (hne : stripPlus text ≠ []) (hdigit : ∀ c ∈ stripPlus text, c.isDigit = true)

include hne hdigit in
theorem scanNumber_eq_scanDigits : scanNumber text = scanDigits false (stripPlus text) := by
  rcases eq_or_eq_stripPlus text with htext | htext
  · exact (congrArg scanNumber htext).trans (scanNumber_of_forall_isDigit hdigit hne)
  · exact (congrArg scanNumber htext).trans (scanNumber_plus hdigit)

include hne hdigit in
/-- A decimal number is read alike. -/
theorem strtoul_eq_iff_of_decimal (m : DataModel) (hhex : stripHexPrefix text = none)
    (hlt : digitsValue 10 (stripPlus text) < 2 ^ 32) : (strtoul m text).1 < 2 ^ 32 ∧
    ((strtoul m text).1 = digitsValue 10 (stripPlus text) ↔ readAlike text = true) := by
  have hscan := scanNumber_eq_scanDigits hne hdigit
  unfold readAlike
  rw [hhex]
  dsimp only
  by_cases hzero : (stripPlus text).head? = some '0'
  · obtain ⟨rest, hrest⟩ := List.head?_eq_some_iff.mp hzero
    have hoctal := octal_eq_decimal_iff hdigit
    rw [hrest, scanDigits_zero_cons fun c hc =>
      hdigit c (hrest ▸ List.mem_cons_of_mem _ hc)] at hscan
    rw [← hrest] at hscan
    have hle := foldl_octal_le_decimal (stripPlus text) (Nat.le_refl 0)
    have hoctalLt := Nat.lt_of_le_of_lt hle hlt
    rw [if_pos hzero, strtoul_of_scanNumber m hscan hoctalLt, hoctal]
    refine ⟨hoctalLt, ?_⟩
    rcases (stripPlus text).dropWhile (· = '0') with _ | ⟨c, _ | ⟨c', rest'⟩⟩
    · simp
    · simp
    · simp
  · rw [scanDigits_of_head?_ne_zero hdigit hne hzero] at hscan
    rw [if_neg hzero, strtoul_of_scanNumber m hscan hlt]
    simpa using hlt

end Decimal

/-! ## Hexadecimal numbers -/

theorem stripHexPrefix_eq_some {text hex : Text} (h : stripHexPrefix text = some hex) :
    ∃ x, (x = 'x' ∨ x = 'X') ∧ text = '0' :: x :: hex := by
  unfold stripHexPrefix at h
  split at h
  · cases h
    exact ⟨'x', Or.inl rfl, rfl⟩
  · cases h
    exact ⟨'X', Or.inr rfl, rfl⟩
  · cases h

theorem scanNumber_hex {x : Char} (hx : x = 'x' ∨ x = 'X') {hex : Text} (hnull : '\x00' ∉ hex) :
    scanNumber ('0' :: x :: hex) = scanDigits false ('0' :: x :: hex) := by
  have hstring : cString ('0' :: x :: hex) = '0' :: x :: hex := by
    rw [cString, List.takeWhile_eq_self_iff]
    intro c hc
    rw [List.mem_cons, List.mem_cons] at hc
    rcases hc with rfl | rfl | hc
    · rfl
    · rcases hx with rfl | rfl <;> rfl
    · exact decide_eq_true fun hzero => hnull (hzero ▸ hc)
  rw [scanNumber, hstring, List.dropWhile_cons_of_neg (by decide)]
  rfl

/-- A hexadecimal number is read alike. -/
theorem strtoul_eq_iff_of_hex (m : DataModel) {text hex : Text}
    (htext : stripHexPrefix text = some hex)
    (hne : stripPlus hex ≠ []) (hdigit : ∀ c ∈ stripPlus hex, isDigitOf 16 c = true)
    (hlt : digitsValue 16 (stripPlus hex) < 2 ^ 32) : (strtoul m text).1 < 2 ^ 32 ∧
    ((strtoul m text).1 = digitsValue 16 (stripPlus hex) ↔ readAlike text = true) := by
  obtain ⟨x, hx, rfl⟩ := stripHexPrefix_eq_some htext
  have hnull : '\x00' ∉ stripPlus hex := fun hmem => absurd (hdigit _ hmem) (by decide)
  have hxX : (x = 'x' || x = 'X') = true := by simpa using hx
  unfold readAlike
  rw [htext]
  rcases eq_or_eq_stripPlus hex with hplus | hplus
  · -- The digits follow the prefix.
    obtain ⟨d, rest, hcons⟩ := List.exists_cons_of_ne_nil hne
    rw [hcons] at hdigit hlt hnull hplus ⊢
    subst hplus
    have hscan := scanNumber_hex hx hnull
    have hbase : numberBase ('0' :: x :: d :: rest) = (16, d :: rest) := by
      rw [numberBase_zero_cons, if_pos (by rw [hxX, hdigit d List.mem_cons_self]; rfl)]
    rw [scanDigits, hbase] at hscan
    dsimp only at hscan
    rw [List.takeWhile_eq_self_iff.mpr hdigit, if_neg (List.cons_ne_nil _ _),
      List.dropWhile_eq_nil_iff.mpr hdigit] at hscan
    rw [strtoul_of_scanNumber m hscan hlt]
    refine ⟨hlt, ?_⟩
    have hd : d ≠ '+' := fun hd => absurd (hd ▸ hdigit d List.mem_cons_self) (by decide)
    split
    · next heq => exact absurd (List.cons.inj (Option.some.inj heq)).1 hd
    · simp
    · next heq => cases heq
  · -- A sign follows the prefix: only the zero before it is read.
    generalize stripPlus hex = digits at *
    subst hplus
    have hnull' : '\x00' ∉ '+' :: digits := by simpa using hnull
    have hscan := scanNumber_hex hx hnull'
    have hbase : numberBase ('0' :: x :: '+' :: digits) = (8, '0' :: x :: '+' :: digits) := by
      rw [numberBase_zero_cons, if_neg (by rw [hxX]; decide)]
    have htake : ('0' :: x :: '+' :: digits).takeWhile (isDigitOf 8) = ['0'] := by
      rw [List.takeWhile_cons_of_pos (by decide)]
      rcases hx with rfl | rfl <;> rfl
    rw [scanDigits, hbase] at hscan
    dsimp only at hscan
    rw [htake, if_neg (List.cons_ne_nil _ _)] at hscan
    rw [strtoul_of_scanNumber m hscan (by decide)]
    refine ⟨show digitsValue 8 ['0'] < 2 ^ 32 by decide, ?_⟩
    change 0 = digitsValue 16 digits ↔ digits.all (· = '0') = true
    rw [List.all_eq_true, eq_comm]
    simpa using digitsValue_eq_zero (by decide : 0 < 16)

/-! ## Seeds -/

/-- The emulator reads an accepted seed as the launcher does exactly where the readings are
alike. -/
theorem strtoul_eq_iff_of_parseMatchSeed (m : DataModel) {text : Text} {n : Nat}
    (h : parseMatchSeed text = some n) :
    (strtoul m text).1 < 2 ^ 32 ∧ ((strtoul m text).1 = n ↔ readAlike text = true) := by
  unfold parseMatchSeed at h
  split_ifs at h
  cases hhex : stripHexPrefix text with
  | some hex =>
    rw [hhex] at h
    obtain ⟨hne, hdigit, hvalue, hlt⟩ := u32FromStrRadix_eq_some h
    rw [← hvalue] at hlt ⊢
    exact strtoul_eq_iff_of_hex m hhex hne hdigit hlt
  | none =>
    rw [hhex] at h
    obtain ⟨hne, hdigit, hvalue, hlt⟩ := u32FromStrRadix_eq_some h
    rw [← hvalue] at hlt ⊢
    exact strtoul_eq_iff_of_decimal hne (fun c hc => isDigitOf_ten.mp (hdigit c hc)) m hhex hlt

end Bigstar.Launcher
