import Bigstar.Lib.Listing
import Bigstar.Rom.Stubs

/-!
# What the encoders encode

An encoder succeeds if the instruction has room for the operand, and the word that it returns
decodes to the instruction with that operand. The words are put together from fields that do not
overlap, so they are sums.
-/

namespace Bigstar.Rom

open Arm

/-! ## Fields -/

/-- Fields that do not overlap are added. -/
theorem or_eq_add {a b : Nat} (i : Nat) (ha : a % 2 ^ i = 0) (hb : b < 2 ^ i) :
    a ||| b = a + b := by
  have hmul : 2 ^ i * (a / 2 ^ i) = a := Nat.mul_div_cancel' (Nat.dvd_of_mod_eq_zero ha)
  rw [← hmul]
  exact (Nat.two_pow_add_eq_or_of_lt hb _).symm

/-- A word with a condition and an operation, two registers and twelve further bits. -/
def fields (op rn rd low : Nat) : Nat := op * 2 ^ 20 + rn * 2 ^ 16 + rd * 2 ^ 12 + low

/-- The word of an instruction by its fields. -/
theorem or_eq_fields {opcode rn rd low : Nat} (op : Nat)
    (hopcode : opcode = op * 2 ^ 20) (hrn : rn < 16) (hrd : rd < 16) (hlow : low < 0x1000) :
    opcode ||| rn <<< 16 ||| rd <<< 12 ||| low = fields op rn rd low := by
  rw [Nat.shiftLeft_eq, Nat.shiftLeft_eq, or_eq_add (a := opcode) 20 (by omega) (by omega),
    or_eq_add (a := opcode + rn * 2 ^ 16) 16 (by omega) (by omega),
    or_eq_add 12 (by omega) hlow, hopcode, fields]

/-- The fields of a word as `decode` reads them. -/
structure Reads (word cond op rn rd low : Nat) : Prop where
  cond : word >>> 28 = cond
  op : word >>> 20 % 0x100 = op
  rn : word >>> 16 % 0x10 = rn
  rd : word >>> 12 % 0x10 = rd
  low : word % 0x1000 = low

/-- The fields are read as they were put together. -/
theorem reads_fields (op : Nat) {rn rd low : Nat} (hrn : rn < 16) (hrd : rd < 16)
    (hlow : low < 0x1000) :
    Reads (fields op rn rd low) (op / 0x100) (op % 0x100) rn rd low := by
  unfold fields
  constructor
  · rw [Nat.shiftRight_eq_div_pow]
    omega
  · rw [Nat.shiftRight_eq_div_pow]
    omega
  · rw [Nat.shiftRight_eq_div_pow]
    omega
  · rw [Nat.shiftRight_eq_div_pow]
    omega
  · omega

/-! ## Immediate values

A value of 32 bits is rotated by splitting it at a power of two `A`, with `A * B = 2 ^ 32`. -/

/-- Rotating forth and back, for any two factors of the word. -/
theorem rotate_back {A B x : Nat} (hA : 0 < A) (hB : 0 < B) (hx : x < A * B) :
    (x % B * A + x / B) / A + (x % B * A + x / B) * B % (A * B) = x := by
  have hhigh : x / B < A := (Nat.div_lt_iff_lt_mul hB).mpr hx
  have hdiv : (x % B * A + x / B) / A = x % B := by
    rw [Nat.add_comm, Nat.add_mul_div_right _ _ hA, Nat.div_eq_of_lt hhigh, Nat.zero_add]
  have hmod : (x % B * A + x / B) * B % (A * B) = x / B * B := by
    rw [Nat.mul_mod_mul_right, Nat.add_comm, Nat.add_mul_mod_self_right, Nat.mod_eq_of_lt hhigh]
  rw [hdiv, hmod]
  exact Nat.mod_add_div' x B

theorem rotate_forth {A B v : Nat} (hA : 0 < A) (hB : 0 < B) (hv : v < A * B) :
    (v / A + v * B % (A * B)) % B * A + (v / A + v * B % (A * B)) / B = v := by
  have hlow : v / A < B := (Nat.div_lt_iff_lt_mul hA).mpr (by rwa [Nat.mul_comm B A])
  rw [Nat.mul_mod_mul_right, Nat.add_mul_mod_self_right, Nat.mod_eq_of_lt hlow,
    Nat.add_mul_div_right _ _ hB, Nat.div_eq_of_lt hlow, Nat.zero_add]
  exact Nat.div_add_mod' v A

theorem rotate_lt {A B v : Nat} (hA : 0 < A) (hv : v < A * B) :
    v / A + v * B % (A * B) < A * B := by
  have hlow : v / A < B := (Nat.div_lt_iff_lt_mul hA).mpr (by rwa [Nat.mul_comm B A])
  rw [Nat.mul_mod_mul_right]
  calc v / A + v % A * B < B + v % A * B := Nat.add_lt_add_right hlow _
    _ = (v % A + 1) * B := by rw [Nat.add_mul, Nat.one_mul, Nat.add_comm]
    _ ≤ A * B := Nat.mul_le_mul_right B (Nat.mod_lt v hA)

theorem two_pow_mul_two_pow {k : Nat} (hk : k ≤ 32) : 2 ^ k * 2 ^ (32 - k) = 0x100000000 := by
  rw [← Nat.pow_add, Nat.add_sub_cancel' hk]

/-- A rotation as arithmetic. -/
theorem rotateLeft_eq {imm k : Nat} (himm : imm < 0x100000000) (hk : k ≤ 32) :
    rotateLeft imm k = imm % 2 ^ (32 - k) * 2 ^ k + imm / 2 ^ (32 - k) := by
  have hsplit := two_pow_mul_two_pow hk
  have hhigh : imm / 2 ^ (32 - k) < 2 ^ k :=
    (Nat.div_lt_iff_lt_mul (Nat.two_pow_pos _)).mpr (by rwa [hsplit])
  unfold rotateLeft
  rw [Nat.shiftLeft_eq, Nat.shiftRight_eq_div_pow, ← hsplit, Nat.mul_comm (2 ^ k) (2 ^ (32 - k)),
    Nat.mul_mod_mul_right]
  exact or_eq_add k (Nat.mul_mod_left _ _) hhigh

/-- The value of an immediate. -/
theorem decodeImm_or {rot v : Nat} (hv : v < 0x100) :
    decodeImm (rot <<< 8 ||| v) = v / 2 ^ (2 * rot) + v * 2 ^ (32 - 2 * rot) % 0x100000000 := by
  have hsum : rot <<< 8 ||| v = rot * 2 ^ 8 + v := by
    rw [Nat.shiftLeft_eq]
    exact or_eq_add 8 (Nat.mul_mod_left _ _) hv
  have hhigh : (rot * 2 ^ 8 + v) >>> 8 = rot := by
    rw [Nat.shiftRight_eq_div_pow]
    omega
  have hlow : (rot * 2 ^ 8 + v) % 0x100 = v := by omega
  unfold decodeImm
  rw [hsum]
  dsimp only
  rw [hhigh, hlow, Nat.shiftRight_eq_div_pow, Nat.shiftLeft_eq]

/-- Which values have an immediate. -/
theorem encodeArmImm12_eq_ok {imm word : Nat} (h : encodeArmImm12 imm = .ok word) :
    ∃ rot < 16, rotateLeft imm (rot * 2) ≤ 0xff ∧
    word = rot <<< 8 ||| rotateLeft imm (rot * 2) := by
  unfold encodeArmImm12 at h
  cases hfind : (List.range 16).find? fun rot => rotateLeft imm (rot * 2) ≤ 0xff with
  | none =>
    rw [hfind] at h
    cases h
  | some rot =>
    rw [hfind] at h
    cases h
    have hmem := List.mem_range.mp (List.mem_of_find?_eq_some hfind)
    have hsmall := List.find?_some hfind
    exact ⟨rot, hmem, of_decide_eq_true hsmall, rfl⟩

/-- An encoded value decodes to itself. -/
theorem decodeImm_encodeArmImm12 {imm word : Nat} (himm : imm < 0x100000000)
    (h : encodeArmImm12 imm = .ok word) : word < 0x1000 ∧ decodeImm word = imm := by
  obtain ⟨rot, hrot, hsmall, rfl⟩ := encodeArmImm12_eq_ok h
  have hsplit := two_pow_mul_two_pow (k := 2 * rot) (by omega)
  constructor
  · rw [Nat.shiftLeft_eq, or_eq_add 8 (Nat.mul_mod_left _ _) (by omega)]
    omega
  · rw [decodeImm_or (by omega), Nat.mul_comm rot 2, rotateLeft_eq himm (by omega), ← hsplit]
    exact rotate_back (Nat.two_pow_pos _) (Nat.two_pow_pos _) (by rwa [hsplit])

/-- A value that some field decodes to can be encoded. -/
theorem encodeArmImm12_decodeImm {imm12 : Nat} (h : imm12 < 0x1000) :
    ∃ word, encodeArmImm12 (decodeImm imm12) = .ok word := by
  have hor : imm12 = (imm12 >>> 8) <<< 8 ||| imm12 % 0x100 := by
    rw [Nat.shiftLeft_eq, or_eq_add 8 (Nat.mul_mod_left _ _) (by omega), Nat.shiftRight_eq_div_pow]
    omega
  obtain ⟨rot, hrot⟩ : ∃ rot, imm12 >>> 8 = rot := ⟨_, rfl⟩
  obtain ⟨v, hv⟩ : ∃ v, imm12 % 0x100 = v := ⟨_, rfl⟩
  have hrot16 : rot < 16 := by
    rw [← hrot, Nat.shiftRight_eq_div_pow]
    omega
  have hv256 : v < 0x100 := by omega
  have hsplit := two_pow_mul_two_pow (k := 2 * rot) (by omega)
  rw [hrot, hv] at hor
  have hdecode : decodeImm imm12 = v / 2 ^ (2 * rot) + v * 2 ^ (32 - 2 * rot) % 0x100000000 := by
    rw [hor]
    exact decodeImm_or hv256
  have hlt : decodeImm imm12 < 0x100000000 := by
    rw [hdecode, ← hsplit]
    exact rotate_lt (Nat.two_pow_pos _) (by rw [hsplit]; omega)
  have hrotate : rotateLeft (decodeImm imm12) (rot * 2) = v := by
    rw [Nat.mul_comm rot 2, rotateLeft_eq hlt (by omega), hdecode, ← hsplit]
    exact rotate_forth (Nat.two_pow_pos _) (Nat.two_pow_pos _) (by rw [hsplit]; omega)
  unfold encodeArmImm12
  cases hfind : (List.range 16).find? fun rot => rotateLeft (decodeImm imm12) (rot * 2) ≤ 0xff with
  | some found => exact ⟨_, rfl⟩
  | none =>
    have hnone := List.find?_eq_none.mp hfind rot (List.mem_range.mpr hrot16)
    rw [hrotate] at hnone
    exact absurd (decide_eq_true (Nat.le_of_lt_succ hv256)) hnone

/-! ## Instructions with a value -/

theorem decode_mov {rd imm12 : Nat} (hrd : rd < 15) (himm : imm12 < 0x1000) :
    decode (0xE3A00000 ||| rd <<< 12 ||| imm12) = some (14, .mov rd (decodeImm imm12)) := by
  have hpc : (rd != 15) = true := bne_iff_ne.mpr (by omega)
  have hreads := reads_fields 0xE3A (by decide : 0 < 16) (Nat.lt_succ_of_lt hrd) himm
  have hword : 0xE3A00000 ||| 0 <<< 16 ||| rd <<< 12 ||| imm12 = fields 0xE3A 0 rd imm12 :=
    or_eq_fields 0xE3A rfl (by decide) (Nat.lt_succ_of_lt hrd) himm
  refine (congrArg decode hword).trans ?_
  unfold decode
  simp only [hreads.cond, hreads.op, hreads.rn, hreads.rd, hreads.low, hpc]
  rfl

theorem decode_mvn {rd imm12 : Nat} (hrd : rd < 15) (himm : imm12 < 0x1000) :
    decode (0xE3E00000 ||| rd <<< 12 ||| imm12) = some (14, .mvn rd (decodeImm imm12)) := by
  have hpc : (rd != 15) = true := bne_iff_ne.mpr (by omega)
  have hreads := reads_fields 0xE3E (by decide : 0 < 16) (Nat.lt_succ_of_lt hrd) himm
  have hword : 0xE3E00000 ||| 0 <<< 16 ||| rd <<< 12 ||| imm12 = fields 0xE3E 0 rd imm12 :=
    or_eq_fields 0xE3E rfl (by decide) (Nat.lt_succ_of_lt hrd) himm
  refine (congrArg decode hword).trans ?_
  unfold decode
  simp only [hreads.cond, hreads.op, hreads.rn, hreads.rd, hreads.low, hpc]
  rfl

/-- One lemma for each encoder: `encode_mov_imm`. -/
theorem decode_encodeMovImm {rd imm word : Nat} (hrd : rd < 15) (himm : imm < 0x100000000)
    (h : encodeMovImm rd imm = .ok word) : decode word = some (14, .mov rd imm) := by
  unfold encodeMovImm at h
  cases himm12 : encodeArmImm12 imm with
  | error e =>
    rw [himm12] at h
    cases h
  | ok imm12 =>
    rw [himm12] at h
    cases h
    obtain ⟨hlt, hdecode⟩ := decodeImm_encodeArmImm12 himm himm12
    rw [decode_mov hrd hlt, hdecode]

/-- A value is loaded by a move, or by a move of its complement. -/
theorem decode_encodeLoadImm {rd imm word : Nat} (hrd : rd < 15) (himm : imm < 0x100000000)
    (h : encodeLoadImm rd imm = .ok word) :
    decode word = some (14, .mov rd imm) ∨
      imm ≤ 0xffffffff ∧ decode word = some (14, .mvn rd (0xffffffff - imm)) := by
  unfold encodeLoadImm at h
  cases hmov : encodeMovImm rd imm with
  | ok word' =>
    rw [hmov] at h
    cases h
    exact Or.inl (decode_encodeMovImm hrd himm hmov)
  | error e =>
    rw [hmov] at h
    dsimp only at h
    cases himm12 : encodeArmImm12 (0xffffffff - imm) with
    | error e' =>
      rw [himm12] at h
      cases h
    | ok imm12 =>
      rw [himm12] at h
      cases h
      obtain ⟨hlt, hdecode⟩ := decodeImm_encodeArmImm12 (by omega) himm12
      refine Or.inr ⟨by omega, ?_⟩
      rw [decode_mvn hrd hlt, hdecode]

theorem decode_encodeStrImm {rd rn off word : Nat} (hrd : rd < 15) (hrn : rn < 15)
    (h : encodeStrImm rd rn off = .ok word) : decode word = some (14, .str 4 rd rn off) := by
  unfold encodeStrImm encodeWordAccess at h
  split at h
  · cases h
  · next hoff =>
    cases h
    have hlow : off < 0x1000 := by omega
    have hplain : (rd != 15 && rn != 15) = true := by
      rw [Bool.and_eq_true, bne_iff_ne, bne_iff_ne]
      omega
    have hpc : (rn == 15) = false := beq_eq_false_iff_ne.mpr (by omega)
    have hreads := reads_fields 0xE58 (Nat.lt_succ_of_lt hrn) (Nat.lt_succ_of_lt hrd) hlow
    have hword : 0xE5800000 ||| rn <<< 16 ||| rd <<< 12 ||| off = fields 0xE58 rn rd off :=
      or_eq_fields 0xE58 rfl (Nat.lt_succ_of_lt hrn) (Nat.lt_succ_of_lt hrd) hlow
    rw [hword, decode]
    simp only [hreads.cond, hreads.op, hreads.rn, hreads.rd, hreads.low, hplain, hpc]
    rfl

/-! ## Loads of literals -/

/-- A load of a literal loads this literal. -/
theorem decode_encodeLdrPcLiteral {rd instruction literal cond word : Nat} (hrd : rd < 15)
    (h : encodeLdrPcLiteral rd instruction literal cond = .ok word) :
    ∃ off, decode word = some (cond, .lit rd off) ∧ off < 0x1000 ∧ off % 4 = 0 ∧
      instruction + 8 + off = literal := by
  unfold encodeLdrPcLiteral at h
  dsimp only at h
  split at h
  · cases h
  · next hle =>
    split at h
    · cases h
    · next hrange =>
      cases h
      obtain ⟨off, hoff⟩ : ∃ off, literal - (instruction + 8) = off := ⟨_, rfl⟩
      rw [hoff] at hrange ⊢
      have hlow : off < 0x1000 := by omega
      have hpc : (rd != 15) = true := bne_iff_ne.mpr (by omega)
      have hword : cond <<< 28 ||| 0x059F0000 = (cond * 0x100 + 0x59) * 2 ^ 20 ||| 15 <<< 16 := by
        rw [Nat.shiftLeft_eq, or_eq_add 28 (Nat.mul_mod_left _ _) (by decide),
          or_eq_add 20 (Nat.mul_mod_left _ _) (by decide)]
        omega
      have hreads := reads_fields (cond * 0x100 + 0x59) (by decide : 15 < 16)
        (Nat.lt_succ_of_lt hrd) hlow
      rw [show (cond * 0x100 + 0x59) / 0x100 = cond by omega,
        show (cond * 0x100 + 0x59) % 0x100 = 0x59 by omega] at hreads
      refine ⟨off, ?_, hlow, by omega, by omega⟩
      rw [hword, or_eq_fields _ rfl (by decide) (Nat.lt_succ_of_lt hrd) hlow, decode]
      simp only [hreads.cond, hreads.op, hreads.rn, hreads.rd, hreads.low, hpc]
      rfl

/-- Which literals are in reach. -/
theorem encodeLdrPcLiteral_eq_ok {rd instruction literal cond : Nat} :
    (∃ word, encodeLdrPcLiteral rd instruction literal cond = .ok word) ↔
      ∃ k < 0x400, literal = instruction + 8 + 4 * k := by
  unfold encodeLdrPcLiteral
  dsimp only
  constructor
  · rintro ⟨word, h⟩
    split at h
    · cases h
    · split at h
      · cases h
      · next hle hrange => exact ⟨(literal - (instruction + 8)) / 4, by omega, by omega⟩
  · rintro ⟨k, hk, rfl⟩
    rw [if_neg (by omega), if_neg (by omega)]
    exact ⟨_, rfl⟩

/-! ## Branches -/

/-- The opcode of a branch, or of a call. -/
def branchOpcode (link : Bool) : Nat := if link then 0xEB000000 else 0xEA000000

/-- Where a branch can lead. -/
theorem encodeBranch_eq_ok {opcode src dst : Nat} :
    (∃ word, encodeBranch opcode src dst = .ok word) ↔
      ∃ off : Int, -0x800000 ≤ off ∧ off < 0x800000 ∧ (dst : Int) = src + 8 + 4 * off := by
  unfold encodeBranch
  dsimp only
  constructor
  · rintro ⟨word, h⟩
    split at h
    · cases h
    · split at h
      · cases h
      · next haligned hrange => exact ⟨((dst : Int) - (src + 8)) / 4, by omega, by omega, by omega⟩
  · rintro ⟨off, hlow, hhigh, hdst⟩
    rw [if_neg (by omega), if_neg (by omega)]
    exact ⟨_, rfl⟩

/-- The offset of a branch word. -/
def branchOff (field : Nat) : Nat :=
  if field < 0x800000 then field * 4 else 0x100000000 - (0x1000000 - field) * 4

theorem decode_branch (link : Bool) {field : Nat} (h : field < 0x1000000) :
    decode (branchOpcode link ||| field) = some (14, .b link (branchOff field)) := by
  obtain ⟨op, hop, hhigh, hlink⟩ : ∃ op, branchOpcode link = (0xE00 + op) * 2 ^ 20 ∧ op / 0x20 = 5 ∧
      op < 0x100 ∧ op % 0x10 = 0 ∧ ((op / 0x10) == 0xB) = link := by
    cases link with
    | true => exact ⟨0xB0, rfl, rfl, by decide, rfl, rfl⟩
    | false => exact ⟨0xA0, rfl, rfl, by decide, rfl, rfl⟩
  have hword : branchOpcode link ||| field = (0xE00 + op) * 2 ^ 20 + field := by
    rw [hop, or_eq_add 24 (by omega) h]
  have hcond : ((0xE00 + op) * 2 ^ 20 + field) >>> 28 = 14 := by
    rw [Nat.shiftRight_eq_div_pow]
    omega
  have hfive : (((0xE00 + op) * 2 ^ 20 + field) >>> 20 % 0x100) >>> 5 = 5 := by
    rw [Nat.shiftRight_eq_div_pow, Nat.shiftRight_eq_div_pow]
    omega
  have hnibble : (((0xE00 + op) * 2 ^ 20 + field) >>> 20 % 0x100) >>> 4 = op / 0x10 := by
    rw [Nat.shiftRight_eq_div_pow, Nat.shiftRight_eq_div_pow]
    omega
  have hfield : ((0xE00 + op) * 2 ^ 20 + field) % 0x1000000 = field := by omega
  rw [hword, decode]
  simp only [hcond, hfive, hnibble, hfield, hlink.2.2]
  rfl

/-- A branch leads to where it was meant to. -/
theorem decode_encodeBranch (link : Bool) {src dst word : Nat}
    (h : encodeBranch (branchOpcode link) src dst = .ok word) :
    ∃ off, decode word = some (14, .b link off) ∧
      (src + 8 + off) % 0x100000000 = dst % 0x100000000 := by
  unfold encodeBranch at h
  dsimp only at h
  split at h
  · cases h
  · split at h
    · cases h
    · next haligned hrange =>
      cases h
      obtain ⟨field, hfield⟩ : ∃ field, (((dst : Int) - (src + 8)) / 4 % 0x1000000).toNat = field :=
        ⟨_, rfl⟩
      have hlt : field < 0x1000000 := by omega
      rw [hfield]
      refine ⟨branchOff field, decode_branch link hlt, ?_⟩
      unfold branchOff
      split <;> omega

theorem field_congr {word word' : Nat} (i j : Nat) (hij : i + j ≤ 28)
    (h : word' % 2 ^ 28 = word % 2 ^ 28) :
    word' >>> i % 2 ^ j = word >>> i % 2 ^ j := by
  have hsplit : ∀ w, w >>> i % 2 ^ j = w % 2 ^ 28 / 2 ^ i % 2 ^ j := by
    intro w
    obtain ⟨k, hk⟩ := Nat.exists_eq_add_of_le hij
    rw [hk, Nat.add_assoc, Nat.pow_add, Nat.mod_mul_right_div_self, Nat.pow_add,
      Nat.mod_mul_right_mod, Nat.shiftRight_eq_div_pow]
  rw [hsplit word', hsplit word, h]

/-- The operation of a word is in the bits below its condition. -/
theorem decode_congr {word word' : Nat} (h : word' % 2 ^ 28 = word % 2 ^ 28) :
    decode word' = (decode word).map fun p => (word' >>> 28, p.2) := by
  have hop : word' >>> 20 % 0x100 = word >>> 20 % 0x100 := field_congr 20 8 (by decide) h
  have hrn : word' >>> 16 % 0x10 = word >>> 16 % 0x10 := field_congr 16 4 (by decide) h
  have hrd : word' >>> 12 % 0x10 = word >>> 12 % 0x10 := field_congr 12 4 (by decide) h
  have hrm : word' % 0x10 = word % 0x10 := field_congr 0 4 (by decide) h
  have himm : word' % 0x1000 = word % 0x1000 := field_congr 0 12 (by decide) h
  have hhalf : word' >>> 4 % 0x10 = word >>> 4 % 0x10 := field_congr 4 4 (by decide) h
  have hoff : word' >>> 8 % 0x10 = word >>> 8 % 0x10 := field_congr 8 4 (by decide) h
  have htarget : word' % 0x1000000 = word % 0x1000000 := field_congr 0 24 (by decide) h
  have hkind : word' >>> 4 % 8 = word >>> 4 % 8 := field_congr 4 3 (by decide) h
  have hshift : word' >>> 7 % 0x20 = word >>> 7 % 0x20 := field_congr 7 5 (by decide) h
  have hzero : word' >>> 4 % 0x100 = word >>> 4 % 0x100 := field_congr 4 8 (by decide) h
  have hmask : word' % 0x10000 = word % 0x10000 := field_congr 0 16 (by decide) h
  unfold decode
  rw [hop, hrn, hrd, hrm, himm, hhalf, hoff, htarget, hkind, hshift, hzero, hmask]
  dsimp only
  iterate 20 rw [apply_ite (Option.map _)]
  rfl

/-- Another condition, the same instruction. -/
theorem decode_withCond {word cond cond' : Nat} {op : Op} (hcond : cond < 16)
    (h : decode word = some (cond', op)) : decode (withCond word cond) = some (cond, op) := by
  have hword : withCond word cond = cond * 2 ^ 28 + word % 2 ^ 28 := by
    have hlow : word &&& 0x0fffffff = word % 2 ^ 28 := Nat.and_two_pow_sub_one_eq_mod word 28
    have hfour : cond &&& 0xf = cond :=
      (Nat.and_two_pow_sub_one_eq_mod cond 4).trans (Nat.mod_eq_of_lt hcond)
    unfold withCond
    rw [hlow, hfour, Nat.or_comm, Nat.shiftLeft_eq,
      or_eq_add 28 (Nat.mul_mod_left _ _) (Nat.mod_lt _ (by decide))]
  have hcond' : (cond * 2 ^ 28 + word % 2 ^ 28) >>> 28 = cond := by
    rw [Nat.shiftRight_eq_div_pow]
    omega
  have hlow : (cond * 2 ^ 28 + word % 2 ^ 28) % 2 ^ 28 = word % 2 ^ 28 := by omega
  rw [hword, decode_congr hlow, hcond', h]
  rfl

/-! ## The encoders together -/

/-- An encoder succeeds exactly for the operands that it has room for, and the word that it returns
decodes to the operand. A branch does not go around the end of the address space, and a literal is
behind its load, at a multiple of a word; the place that the load counts from is an address, and the
condition has four bits. -/
structure Encoders : Prop where
  branch : ∀ (link : Bool) (src dst : Nat),
    (∃ word, encodeBranch (branchOpcode link) src dst = .ok word) ↔
    ∃ off : Int, -0x800000 ≤ off ∧ off < 0x800000 ∧ (dst : Int) = src + 8 + 4 * off
  branch_decodes : ∀ (link : Bool) (src dst word : Nat),
    encodeBranch (branchOpcode link) src dst = .ok word →
    ∃ off, decode word = some (14, .b link off) ∧ (src + 8 + off) % 0x100000000 = dst % 0x100000000
  literal : ∀ rd instruction literal cond : Nat, instruction + 8 < 0x100000000 → cond < 16 →
    ((∃ word, encodeLdrPcLiteral rd instruction literal cond = .ok word) ↔
      ∃ k < 0x400, literal = instruction + 8 + 4 * k)
  literal_decodes : ∀ rd instruction literal cond word : Nat, rd < 15 →
    instruction + 8 < 0x100000000 → cond < 16 →
      encodeLdrPcLiteral rd instruction literal cond = .ok word →
    ∃ off, decode word = some (cond, .lit rd off) ∧ instruction + 8 + off = literal
  immediate : ∀ imm < 0x100000000, (∃ word, encodeArmImm12 imm = .ok word) ↔
    ∃ imm12 < 0x1000, decodeImm imm12 = imm
  immediate_decodes : ∀ imm < 0x100000000, ∀ word, encodeArmImm12 imm = .ok word →
    word < 0x1000 ∧ decodeImm word = imm

/-- All encoders encode what they should. -/
theorem encoders : Encoders where
  branch := fun _ _ _ => encodeBranch_eq_ok
  branch_decodes := fun link _ _ _ h => decode_encodeBranch link h
  literal := fun _ _ _ _ _ _ => encodeLdrPcLiteral_eq_ok
  literal_decodes := by
    intro rd instruction literal cond word hrd hpc hcond h
    obtain ⟨off, hdecode, -, -, hoff⟩ := decode_encodeLdrPcLiteral hrd h
    exact ⟨off, hdecode, hoff⟩
  immediate := by
    intro imm himm
    constructor
    · rintro ⟨word, h⟩
      exact ⟨word, decodeImm_encodeArmImm12 himm h⟩
    · rintro ⟨imm12, hlt, rfl⟩
      exact encodeArmImm12_decodeImm hlt
  immediate_decodes := fun _ himm _ h => decodeImm_encodeArmImm12 himm h

/-- The instruction could load the word after the next one, but one byte further. -/
theorem unaligned_literal_refused :
    ¬ ∀ rd instruction literal cond : Nat, rd < 15 → instruction + 8 < 0x100000000 →
      literal < 0x100000000 → cond < 16 →
      ((∃ word, encodeLdrPcLiteral rd instruction literal cond = .ok word) ↔
        ∃ word off, decode word = some (cond, .lit rd off) ∧ instruction + 8 + off = literal) := by
  intro h
  have hencodes := h 0 0x02000000 0x02000009 14 (by decide) (by decide) (by decide) (by decide)
  obtain ⟨word, hword⟩ := hencodes.mpr ⟨0xE59F0001, 1, rfl, rfl⟩
  cases hword

end Bigstar.Rom
