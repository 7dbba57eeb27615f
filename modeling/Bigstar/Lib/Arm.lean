import Bigstar.Lib.LittleEndian
import Mathlib.Data.List.GetD
import Mathlib.Logic.Relation

/-!
# A part of the ARM instruction set

Words are natural numbers below `2 ^ 32`, and memory is a function from addresses to bytes. The
instructions are those of hand-written hooks: moves, additions, subtractions and comparisons, loads
and stores of bytes, halfwords and words, of single registers or on the stack, and branches, all of
them conditional. An access that is not aligned, an instruction outside of this part and a write of
the program counter by anything but a branch or a pop are not defined. A popped program counter
keeps its lowest bit, which selects the instruction set.

Code that does not overwrite itself is executed on a guarded bus, which knows the code beforehand
and refuses stores into it. What runs there runs in the same way from memory.
-/

namespace Arm

open LittleEndian

/-- The bytes of the address space. -/
abbrev Memory := Nat → UInt8

/-- The value of `width` bytes. -/
def load (width : Nat) (m : Memory) (addr : Nat) : Nat :=
  ofBytes ((List.range width).map fun i => m (addr + i))

/-- A value of some bytes is written in little-endian order. -/
def store (width : Nat) (m : Memory) (addr value : Nat) : Memory := fun i =>
  if addr ≤ i ∧ i < addr + width then (toBytes width value).getD (i - addr) 0 else m i

theorem load_lt (width : Nat) (m : Memory) (addr : Nat) : load width m addr < 256 ^ width := by
  have h := ofBytes_lt ((List.range width).map fun i => m (addr + i))
  rwa [List.length_map, List.length_range] at h

/-- A load reads the bytes at its address only. -/
theorem load_congr {width addr : Nat} {m m' : Memory}
    (h : ∀ i, addr ≤ i → i < addr + width → m' i = m i) :
    load width m' addr = load width m addr := by
  unfold load
  congr 1
  refine List.map_congr_left ?_
  intro i hi
  have hlt := List.mem_range.mp hi
  exact h (addr + i) (Nat.le_add_right _ _) (by omega)

/-- A store writes there only. -/
theorem store_outside (width : Nat) (m : Memory) {addr i : Nat} (value : Nat)
    (h : i < addr ∨ addr + width ≤ i) : store width m addr value i = m i := by
  unfold store
  rw [if_neg (by omega)]

/-- A load beside a store. -/
theorem load_store_apart {width width' addr addr' : Nat} (m : Memory) (value : Nat)
    (h : addr + width ≤ addr' ∨ addr' + width' ≤ addr) :
    load width' (store width m addr value) addr' = load width' m addr' := by
  refine load_congr ?_
  intro i hle hlt
  exact store_outside width m value (by omega)

/-- What was stored is loaded, as far as it fits. -/
theorem load_store_self (width : Nat) (m : Memory) (addr value : Nat) :
    load width (store width m addr value) addr = value % 256 ^ width := by
  have hbytes : (List.range width).map (fun i => store width m addr value (addr + i)) =
      toBytes width value := by
    refine List.ext_getElem (by simp) ?_
    intro i hi hi'
    rw [length_toBytes] at hi'
    rw [List.getElem_map, List.getElem_range, store, if_pos (by omega), Nat.add_sub_cancel_left,
      List.getD_eq_getElem _ _ (by rw [length_toBytes]; exact hi')]
  rw [load, hbytes, ofBytes_toBytes]

/-- Bytes stored one after the other. -/
def storeBytes (m : Memory) (addr : Nat) (bytes : List UInt8) : Memory := fun i =>
  if addr ≤ i ∧ i < addr + bytes.length then bytes.getD (i - addr) 0 else m i

theorem storeBytes_outside (m : Memory) {addr i : Nat} (bytes : List UInt8)
    (h : i < addr ∨ addr + bytes.length ≤ i) : storeBytes m addr bytes i = m i := by
  unfold storeBytes
  rw [if_neg (by omega)]

theorem load_storeBytes_apart {width addr addr' : Nat} (m : Memory) (bytes : List UInt8)
    (h : addr + bytes.length ≤ addr' ∨ addr' + width ≤ addr) :
    load width (storeBytes m addr bytes) addr' = load width m addr' := by
  refine load_congr ?_
  intro i hle hlt
  exact storeBytes_outside m bytes (by omega)

/-- A part of the bytes that were stored is loaded. -/
theorem load_storeBytes_inside (m : Memory) (addr : Nat) (before bytes after : List UInt8) :
    load bytes.length (storeBytes m addr (before ++ bytes ++ after)) (addr + before.length) =
      ofBytes bytes := by
  unfold load
  congr 1
  refine List.ext_getElem (by simp) ?_
  intro i hi hi'
  have hlength : (before ++ bytes ++ after).length =
      before.length + bytes.length + after.length := by
    rw [List.length_append, List.length_append]
  rw [List.getElem_map, List.getElem_range, storeBytes, if_pos (by omega),
    show addr + before.length + i - addr = before.length + i by omega,
    List.getD_eq_getElem _ _ (by omega), List.getElem_append_left
      (by rw [List.length_append]; omega),
    List.getElem_append_right (by omega)]
  congr 1
  omega

/-- Words stored one after the other. -/
def storeWords : Memory → Nat → List Nat → Memory
  | m, _, [] => m
  | m, addr, value :: values => storeWords (store 4 m addr value) (addr + 4) values

theorem load_storeWords_apart {width addr addr' : Nat} (m : Memory) (values : List Nat)
    (h : addr + 4 * values.length ≤ addr' ∨ addr' + width ≤ addr) :
    load width (storeWords m addr values) addr' = load width m addr' := by
  induction values generalizing m addr with
  | nil => rfl
  | cons value values ih =>
    rw [List.length_cons] at h
    rw [storeWords, ih (store 4 m addr value) (by omega), load_store_apart m value (by omega)]

/-- One of the words that were stored is loaded. -/
theorem load_storeWords (m : Memory) (addr : Nat) {values : List Nat} {i value : Nat}
    (h : values[i]? = some value) :
    load 4 (storeWords m addr values) (addr + 4 * i) = value % 0x100000000 := by
  induction values generalizing m addr i with
  | nil => cases h
  | cons first values ih =>
    cases i with
    | zero =>
      cases h
      rw [Nat.mul_zero, Nat.add_zero, storeWords,
        load_storeWords_apart _ _ (Or.inr (Nat.le_refl _)), load_store_self]
      rfl
    | succ i =>
      have hrest := ih (store 4 m addr first) (addr + 4) h
      rwa [show addr + 4 + 4 * i = addr + 4 * (i + 1) by omega] at hrest

/-- Some stores, one after the other: width, address and value. -/
def storeAll : Memory → List (Nat × Nat × Nat) → Memory
  | m, [] => m
  | m, (width, addr, value) :: stores => storeAll (store width m addr value) stores

/-- A load beside all of some stores. -/
theorem load_storeAll_apart {m : Memory} {stores : List (Nat × Nat × Nat)} {width addr : Nat}
    (h : ∀ x ∈ stores, x.2.1 + x.1 ≤ addr ∨ addr + width ≤ x.2.1) :
    load width (storeAll m stores) addr = load width m addr := by
  induction stores generalizing m with
  | nil => rfl
  | cons x stores ih =>
    obtain ⟨width', addr', value⟩ := x
    obtain ⟨hfirst, hrest⟩ := List.forall_mem_cons.mp h
    rw [storeAll, ih hrest, load_store_apart m value hfirst]

/-! ## Instructions -/

/-- The instructions that the stubs consist of. -/
inductive Op where
  /-- A constant. -/
  | mov (rd imm : Nat)
  /-- A constant is added. -/
  | add (rd rn imm : Nat)
  /-- A constant is subtracted. -/
  | sub (rd rn imm : Nat)
  /-- The second operand is a register shifted to the left. -/
  | addLsl (rd rn rm shift : Nat)
  /-- The flags of a comparison with a constant. -/
  | cmp (rn imm : Nat)
  /-- The flags of a comparison of two registers. -/
  | cmpReg (rn rm : Nat)
  /-- A load of one, two or four bytes. -/
  | ldr (width rd rn off : Nat)
  /-- A store of one, two or four bytes. -/
  | str (width rd rn off : Nat)
  /-- A load of a word at an offset from the next instruction but one. -/
  | lit (rd off : Nat)
  /-- A branch by an offset from the next instruction but one, modulo `2 ^ 32`. -/
  | b (link : Bool) (off : Nat)
  /-- The complement of an immediate value. -/
  | mvn (rd imm : Nat)
  /-- A copy of a register. -/
  | movReg (rd rm : Nat)
  /-- A register is subtracted from a constant. -/
  | rsb (rd rn imm : Nat)
  /-- A load of a word, at an offset in a register shifted to the left. -/
  | ldrLsl (rd rn rm shift : Nat)
  /-- The registers with a bit in the mask, the lowest one at the lowest address. -/
  | push (mask : Nat)
  /-- Registers from the stack, the program counter possibly among them. -/
  | pop (mask : Nat)
  deriving DecidableEq, Repr

/-- An immediate value, rotated to the right by twice the upper four bits. -/
def decodeImm (imm12 : Nat) : Nat :=
  let rot := 2 * (imm12 >>> 8)
  let value := imm12 % 0x100
  value >>> rot + value <<< (32 - rot) % 0x100000000

/-- The condition and the operation of an instruction word. -/
def decode (word : Nat) : Option (Nat × Op) :=
  let cond := word >>> 28
  let op := word >>> 20 % 0x100
  let rn := word >>> 16 % 0x10
  let rd := word >>> 12 % 0x10
  let rm := word % 0x10
  let imm12 := word % 0x1000
  let plain := rd != 15 && rn != 15
  let half := word >>> 4 % 0x10 == 0xB
  let off8 := word >>> 8 % 0x10 * 0x10 + word % 0x10
  if op >>> 5 == 5 then
    let off := word % 0x1000000
    let signed := if off < 0x800000 then off * 4 else 0x100000000 - (0x1000000 - off) * 4
    some (cond, .b (op >>> 4 == 0xB) signed)
  else if op == 0x3A && rd != 15 && rn == 0 then some (cond, .mov rd (decodeImm imm12))
  else if op == 0x28 && plain then some (cond, .add rd rn (decodeImm imm12))
  else if op == 0x24 && plain then some (cond, .sub rd rn (decodeImm imm12))
  else if op == 0x08 && plain && rm != 15 && word >>> 4 % 8 == 0 then
    some (cond, .addLsl rd rn rm (word >>> 7 % 0x20))
  else if op == 0x35 && rn != 15 && rd == 0 then some (cond, .cmp rn (decodeImm imm12))
  else if op == 0x15 && rn != 15 && rm != 15 && rd == 0 && imm12 >>> 4 == 0 then
    some (cond, .cmpReg rn rm)
  else if op == 0x59 && rd != 15 && rn == 15 then some (cond, .lit rd imm12)
  else if op == 0x59 && plain then some (cond, .ldr 4 rd rn imm12)
  else if op == 0x58 && plain then some (cond, .str 4 rd rn imm12)
  else if op == 0x1D && plain && half then some (cond, .ldr 2 rd rn off8)
  else if op == 0x1C && plain && half then some (cond, .str 2 rd rn off8)
  else if op == 0x3E && rd != 15 && rn == 0 then some (cond, .mvn rd (decodeImm imm12))
  else if op == 0x1A && rd != 15 && rm != 15 && rn == 0 && word >>> 4 % 0x100 == 0 then
    some (cond, .movReg rd rm)
  else if op == 0x26 && plain then some (cond, .rsb rd rn (decodeImm imm12))
  else if op == 0x79 && plain && rm != 15 && word >>> 4 % 8 == 0 then
    some (cond, .ldrLsl rd rn rm (word >>> 7 % 0x20))
  else if op == 0x5D && plain then some (cond, .ldr 1 rd rn imm12)
  else if op == 0x5C && plain then some (cond, .str 1 rd rn imm12)
  -- The stack pointer is not among the registers, and the program counter is not pushed.
  else if op == 0x92 && rn == 13 && rd >>> 1 % 2 == 0 && rd >>> 3 == 0 then
    some (cond, .push (word % 0x10000))
  else if op == 0x8B && rn == 13 && rd >>> 1 % 2 == 0 then some (cond, .pop (word % 0x10000))
  else none

/-! ## Execution -/

/-- A register file with one register changed. -/
def set (reg : Nat → Nat) (rd value : Nat) : Nat → Nat := fun r => if r = rd then value else reg r

theorem set_self (reg : Nat → Nat) (rd value : Nat) : set reg rd value rd = value := if_pos rfl

theorem set_of_ne (reg : Nat → Nat) {rd r : Nat} (value : Nat) (h : r ≠ rd) :
    set reg rd value r = reg r :=
  if_neg h

theorem set_eq_self (reg : Nat → Nat) (rd : Nat) : set reg rd (reg rd) = reg := by
  funext r
  by_cases hr : r = rd
  · rw [hr, set_self]
  · exact set_of_ne reg _ hr

theorem set_set (reg : Nat → Nat) (rd value value' : Nat) :
    set (set reg rd value) rd value' = set reg rd value' := by
  funext r
  by_cases hr : r = rd
  · rw [hr, set_self, set_self]
  · rw [set_of_ne _ _ hr, set_of_ne _ _ hr, set_of_ne _ _ hr]

/-- The state of the processor and its memory. -/
structure Cpu where
  /-- The registers 0 to 14. -/
  reg : Nat → Nat
  /-- The address of the next instruction. -/
  pc : Nat
  /-- The result was negative. -/
  n : Bool
  /-- The result was zero. -/
  z : Bool
  /-- There was no borrow. -/
  c : Bool
  /-- The signed result overflowed. -/
  v : Bool
  /-- The memory. -/
  mem : Memory

namespace Cpu

/-- Whether an instruction with this condition is executed. -/
def passes (s : Cpu) : Nat → Bool
  | 0 => s.z
  | 1 => !s.z
  | 2 => s.c
  | 3 => !s.c
  | 4 => s.n
  | 5 => !s.n
  | 6 => s.v
  | 7 => !s.v
  | 8 => s.c && !s.z
  | 9 => !s.c || s.z
  | 10 => s.n == s.v
  | 11 => s.n != s.v
  | 12 => !s.z && s.n == s.v
  | 13 => s.z || s.n != s.v
  | _ => true

/-- Writes a register and goes on. -/
def write (s : Cpu) (rd value : Nat) : Cpu := { s with reg := set s.reg rd value, pc := s.pc + 4 }

/-- The flags of a subtraction. -/
def compare (s : Cpu) (x y : Nat) : Cpu :=
  let difference := (x + 0x100000000 - y) % 0x100000000
  { s with
    n := 0x80000000 ≤ difference
    z := x = y
    c := y ≤ x
    v := (decide (0x80000000 ≤ x) != decide (0x80000000 ≤ y)) &&
      (decide (0x80000000 ≤ x) != decide (0x80000000 ≤ difference))
    pc := s.pc + 4 }

end Cpu

/-- How the processor sees the memory. -/
structure Bus where
  /-- The instruction at an address, if it may be executed. -/
  fetch : Memory → Nat → Option Nat
  /-- The value of some bytes, if they may be read. -/
  load : Nat → Memory → Nat → Option Nat
  /-- The memory after a write, if it is permitted. -/
  store : Nat → Memory → Nat → Nat → Option Memory

/-- The registers of a mask, the lowest one first. -/
def regs (mask : Nat) : List Nat := (List.range 16).filter mask.testBit

/-- Stores registers at consecutive words. -/
def storeRegs (bus : Bus) (reg : Nat → Nat) : Memory → Nat → List Nat → Option Memory
  | mem, _, [] => some mem
  | mem, addr, r :: rs => (bus.store 4 mem addr (reg r)).bind fun mem =>
    storeRegs bus reg mem ((addr + 4) % 0x100000000) rs

/-- Loads registers from consecutive words. -/
def loadRegs (bus : Bus) (mem : Memory) : (Nat → Nat) → Nat → List Nat → Option (Nat → Nat)
  | reg, _, [] => some reg
  | reg, addr, r :: rs => (bus.load 4 mem addr).bind fun value =>
    loadRegs bus mem (set reg r value) ((addr + 4) % 0x100000000) rs

/-- One instruction; `none` if the bus refuses it. -/
def exec (bus : Bus) (s : Cpu) : Op → Option Cpu
  | .mov rd imm => some (s.write rd imm)
  | .add rd rn imm => some (s.write rd ((s.reg rn + imm) % 0x100000000))
  | .sub rd rn imm => some (s.write rd ((s.reg rn + 0x100000000 - imm) % 0x100000000))
  | .addLsl rd rn rm shift =>
    some (s.write rd ((s.reg rn + s.reg rm <<< shift % 0x100000000) % 0x100000000))
  | .cmp rn imm => some (s.compare (s.reg rn) imm)
  | .cmpReg rn rm => some (s.compare (s.reg rn) (s.reg rm))
  | .ldr width rd rn off =>
    (bus.load width s.mem ((s.reg rn + off) % 0x100000000)).map (s.write rd)
  | .str width rd rn off =>
    (bus.store width s.mem ((s.reg rn + off) % 0x100000000) (s.reg rd)).map fun mem =>
      { s with mem, pc := s.pc + 4 }
  | .lit rd off => (bus.load 4 s.mem ((s.pc + 8 + off) % 0x100000000)).map (s.write rd)
  | .b link off =>
    let target := (s.pc + 8 + off) % 0x100000000
    some (if link then { s.write 14 (s.pc + 4) with pc := target } else { s with pc := target })
  | .mvn rd imm => some (s.write rd (0xffffffff - imm))
  | .movReg rd rm => some (s.write rd (s.reg rm))
  | .rsb rd rn imm => some (s.write rd ((imm + 0x100000000 - s.reg rn) % 0x100000000))
  | .ldrLsl rd rn rm shift =>
    (bus.load 4 s.mem ((s.reg rn + s.reg rm <<< shift % 0x100000000) % 0x100000000)).map
      (s.write rd)
  | .push mask =>
    let sp := (s.reg 13 + 0x100000000 - 4 * (regs mask).length) % 0x100000000
    (storeRegs bus s.reg s.mem sp (regs mask)).map fun mem =>
      { s.write 13 sp with mem }
  | .pop mask =>
    (loadRegs bus s.mem s.reg (s.reg 13) (regs mask)).map fun reg =>
      { s with
        reg := set reg 13 ((s.reg 13 + 4 * (regs mask).length) % 0x100000000)
        pc := if mask.testBit 15 then reg 15 else s.pc + 4 }

/-- The instruction at the program counter, if its condition holds. -/
def step (bus : Bus) (s : Cpu) : Option Cpu :=
  (bus.fetch s.mem s.pc).bind fun word =>
    (decode word).bind fun (cond, op) =>
      if s.passes cond then exec bus s op else some { s with pc := s.pc + 4 }

/-- Code and data in one memory. -/
def plain : Bus where
  fetch := fun m addr => some (load 4 m addr)
  load := fun width m addr => if addr % width = 0 then some (load width m addr) else none
  store := fun width m addr value =>
    if addr % width = 0 then some (store width m addr value) else none

/-! ## The guarded bus -/

/-- Words at fixed addresses. -/
abbrev Image := List (Nat × List Nat)

namespace Image

/-- The word of the image at an address. -/
def word (image : Image) (addr : Nat) : Option Nat :=
  image.findSome? fun seg =>
    if seg.1 ≤ addr ∧ (addr - seg.1) % 4 = 0 then seg.2[(addr - seg.1) / 4]? else none

/-- No word of the image lies in the range. -/
def free (image : Image) (addr width : Nat) : Bool :=
  image.all fun seg => addr + width ≤ seg.1 || seg.1 + 4 * seg.2.length ≤ addr

/-- The memory holds the image. -/
def In (image : Image) (m : Memory) : Prop :=
  ∀ addr w, image.word addr = some w → Arm.load 4 m addr = w

/-- A bus that executes the image and lets the rest of the memory be read and written. -/
def bus (image : Image) : Bus where
  fetch := fun _ addr => image.word addr
  load := fun width m addr =>
    match if width = 4 then image.word addr else none with
    | some w => if addr % 4 = 0 then some w else none
    | none => plain.load width m addr
  store := fun width m addr value =>
    if image.free addr width then plain.store width m addr value else none

end Image

namespace Image

variable {image : Image} {m : Memory}

/-- A word of the image lies within a segment. -/
theorem word_eq_some {addr w : Nat} (h : image.word addr = some w) :
    ∃ seg ∈ image, seg.1 ≤ addr ∧ addr + 4 ≤ seg.1 + 4 * seg.2.length := by
  obtain ⟨seg, hseg, hword⟩ := List.exists_of_findSome?_eq_some h
  refine ⟨seg, hseg, ?_⟩
  split at hword
  · next hin =>
    have hlt := (List.getElem?_eq_some_iff.mp hword).1
    omega
  · cases hword

/-- The image is in a memory that holds its words. -/
theorem in_of_forall (h : ∀ seg ∈ image, ∀ i < seg.2.length,
    Arm.load 4 m (seg.1 + 4 * i) = seg.2.getD i 0) : image.In m := by
  intro addr w hw
  obtain ⟨seg, hseg, hword⟩ := List.exists_of_findSome?_eq_some hw
  split at hword
  · next hin =>
    have hlt := (List.getElem?_eq_some_iff.mp hword).1
    have hload := h seg hseg _ hlt
    rwa [List.getD_eq_getElem?_getD, hword,
      show seg.1 + 4 * ((addr - seg.1) / 4) = addr by omega] at hload
  · cases hword

/-- Stores outside of the image keep it. -/
theorem In.store (h : image.In m) {addr width : Nat} (hfree : image.free addr width = true)
    (value : Nat) : image.In (Arm.store width m addr value) := by
  intro addr' w hw
  obtain ⟨seg, hseg, hle, hlt⟩ := word_eq_some hw
  have hapart := List.all_eq_true.mp hfree seg hseg
  rw [Bool.or_eq_true, decide_eq_true_eq, decide_eq_true_eq] at hapart
  rw [load_store_apart m value (by omega)]
  exact h addr' w hw

/-- The bus of an image loads what is in memory. -/
theorem load_bus (h : image.In m) {width addr value : Nat}
    (hload : image.bus.load width m addr = some value) : plain.load width m addr = some value := by
  unfold bus at hload
  dsimp only at hload
  split at hload
  · next w hw =>
    split at hw
    · next hwidth =>
      subst hwidth
      split at hload
      · next haligned =>
        cases hload
        rw [plain]
        dsimp only
        rw [if_pos haligned, h addr value hw]
      · cases hload
    · cases hw
  · exact hload

/-- It stores where the image is not. -/
theorem store_bus (h : image.In m) {width addr value : Nat} {m' : Memory}
    (hstore : image.bus.store width m addr value = some m') :
    plain.store width m addr value = some m' ∧ image.In m' := by
  unfold bus at hstore
  dsimp only at hstore
  split at hstore
  · next hfree =>
    refine ⟨hstore, ?_⟩
    unfold plain at hstore
    dsimp only at hstore
    split at hstore
    · cases hstore
      exact h.store hfree value
    · cases hstore
  · cases hstore

theorem storeRegs_bus {reg : Nat → Nat} {addr : Nat} {rs : List Nat} {m' : Memory} (h : image.In m)
    (hstore : storeRegs image.bus reg m addr rs = some m') :
    storeRegs plain reg m addr rs = some m' ∧ image.In m' := by
  induction rs generalizing m addr with
  | nil =>
    cases hstore
    exact ⟨rfl, h⟩
  | cons r rs ih =>
    obtain ⟨m₁, hfirst, hrest⟩ := Option.bind_eq_some_iff.mp hstore
    obtain ⟨hplain, hin⟩ := store_bus h hfirst
    obtain ⟨hrest, hin'⟩ := ih hin hrest
    exact ⟨Option.bind_eq_some_iff.mpr ⟨m₁, hplain, hrest⟩, hin'⟩

theorem loadRegs_bus {reg reg' : Nat → Nat} {addr : Nat} {rs : List Nat} (h : image.In m)
    (hload : loadRegs image.bus m reg addr rs = some reg') :
    loadRegs plain m reg addr rs = some reg' := by
  induction rs generalizing reg addr with
  | nil => exact hload
  | cons r rs ih =>
    obtain ⟨value, hfirst, hrest⟩ := Option.bind_eq_some_iff.mp hload
    exact Option.bind_eq_some_iff.mpr ⟨value, load_bus h hfirst, ih hrest⟩

/-- An instruction that the bus allows is executed, and the image stays. -/
theorem exec_bus {s s' : Cpu} (h : image.In s.mem) {op : Op}
    (hexec : exec image.bus s op = some s') :
    exec plain s op = some s' ∧ image.In s'.mem := by
  cases op with
  | mov rd imm =>
    cases hexec
    exact ⟨rfl, h⟩
  | add rd rn imm =>
    cases hexec
    exact ⟨rfl, h⟩
  | sub rd rn imm =>
    cases hexec
    exact ⟨rfl, h⟩
  | addLsl rd rn rm shift =>
    cases hexec
    exact ⟨rfl, h⟩
  | cmp rn imm =>
    cases hexec
    exact ⟨rfl, h⟩
  | cmpReg rn rm =>
    cases hexec
    exact ⟨rfl, h⟩
  | ldr width rd rn off =>
    obtain ⟨value, hload, rfl⟩ := Option.map_eq_some_iff.mp hexec
    exact ⟨Option.map_eq_some_iff.mpr ⟨value, load_bus h hload, rfl⟩, h⟩
  | str width rd rn off =>
    obtain ⟨mem, hstore, rfl⟩ := Option.map_eq_some_iff.mp hexec
    obtain ⟨hplain, hin⟩ := store_bus h hstore
    exact ⟨Option.map_eq_some_iff.mpr ⟨mem, hplain, rfl⟩, hin⟩
  | lit rd off =>
    obtain ⟨value, hload, rfl⟩ := Option.map_eq_some_iff.mp hexec
    exact ⟨Option.map_eq_some_iff.mpr ⟨value, load_bus h hload, rfl⟩, h⟩
  | b link off =>
    refine ⟨hexec, ?_⟩
    cases hexec
    cases link <;> exact h
  | mvn rd imm =>
    cases hexec
    exact ⟨rfl, h⟩
  | movReg rd rm =>
    cases hexec
    exact ⟨rfl, h⟩
  | rsb rd rn imm =>
    cases hexec
    exact ⟨rfl, h⟩
  | ldrLsl rd rn rm shift =>
    obtain ⟨value, hload, rfl⟩ := Option.map_eq_some_iff.mp hexec
    exact ⟨Option.map_eq_some_iff.mpr ⟨value, load_bus h hload, rfl⟩, h⟩
  | push mask =>
    obtain ⟨mem, hstore, rfl⟩ := Option.map_eq_some_iff.mp hexec
    obtain ⟨hplain, hin⟩ := storeRegs_bus h hstore
    exact ⟨Option.map_eq_some_iff.mpr ⟨mem, hplain, rfl⟩, hin⟩
  | pop mask =>
    obtain ⟨reg, hload, rfl⟩ := Option.map_eq_some_iff.mp hexec
    exact ⟨Option.map_eq_some_iff.mpr ⟨reg, loadRegs_bus h hload, rfl⟩, h⟩

/-- What runs on the guarded bus runs from a memory that holds the image, and keeps it there. -/
theorem step_bus {s s' : Cpu} (h : image.In s.mem) (hstep : step image.bus s = some s') :
    step plain s = some s' ∧ image.In s'.mem := by
  obtain ⟨word, hfetch, hstep⟩ := Option.bind_eq_some_iff.mp hstep
  obtain ⟨⟨cond, op⟩, hdecode, hstep⟩ := Option.bind_eq_some_iff.mp hstep
  have hplain : plain.fetch s.mem s.pc = some word := congrArg some (h s.pc word hfetch)
  dsimp only at hstep
  split at hstep
  · next hpass =>
    obtain ⟨hexec, hin⟩ := exec_bus h hstep
    refine ⟨Option.bind_eq_some_iff.mpr ⟨word, hplain, ?_⟩, hin⟩
    refine Option.bind_eq_some_iff.mpr ⟨(cond, op), hdecode, ?_⟩
    dsimp only
    rw [if_pos hpass]
    exact hexec
  · next hpass =>
    cases hstep
    refine ⟨Option.bind_eq_some_iff.mpr ⟨word, hplain, ?_⟩, h⟩
    refine Option.bind_eq_some_iff.mpr ⟨(cond, op), hdecode, ?_⟩
    dsimp only
    rw [if_neg hpass]

end Image

/-! ## Rules for single instructions

Each rule has the state in the form of a constructor, so that the address of the next instruction
and the registers it reads are found by unification. -/

/-- The instruction at an address of the image. -/
def Image.op (image : Image) (addr : Nat) : Option (Nat × Op) := (image.word addr).bind decode

/-- An aligned place for `width` bytes beside the words of the image. -/
def Image.data (image : Image) (width addr : Nat) : Bool :=
  addr % width == 0 && image.free addr width

/-- The word that an instruction loads from an offset. -/
def Image.literal (image : Image) (addr : Nat) : Option Nat :=
  if addr % 4 = 0 then image.word addr else none

/-- Some steps on the guarded bus lead to a state with a property. -/
def Leads (image : Image) (s : Cpu) (Q : Cpu → Prop) : Prop :=
  ∃ t, Relation.ReflTransGen (fun s s' => step image.bus s = some s') s t ∧ Q t

/-- There is no code where there is data. -/
theorem Image.word_of_data {image : Image} {addr : Nat} (h : image.data 4 addr = true) :
    image.word addr = none := by
  rw [data, Bool.and_eq_true] at h
  cases hword : image.word addr with
  | none => rfl
  | some w =>
    obtain ⟨seg, hseg, hle, hlt⟩ := word_eq_some hword
    have hapart := List.all_eq_true.mp h.2 seg hseg
    rw [Bool.or_eq_true, decide_eq_true_eq, decide_eq_true_eq] at hapart
    omega

theorem Image.load_of_data {image : Image} {width addr : Nat} (mem : Memory)
    (h : image.data width addr = true) :
    image.bus.load width mem addr = some (load width mem addr) := by
  have haligned : addr % width = 0 := by
    rw [data, Bool.and_eq_true, beq_iff_eq] at h
    exact h.1
  have hnone : (if width = 4 then image.word addr else none) = none := by
    split
    · next hwidth =>
      subst hwidth
      exact word_of_data h
    · rfl
  simp only [bus, hnone, plain, haligned, if_true]

theorem Image.store_of_data {image : Image} {width addr : Nat} (mem : Memory)
    (h : image.data width addr = true) (value : Nat) :
    image.bus.store width mem addr value = some (store width mem addr value) := by
  rw [data, Bool.and_eq_true, beq_iff_eq] at h
  simp only [bus, h.1, h.2, plain, if_true]

/-- A literal is loaded as it stands in the image. -/
theorem Image.load_literal {image : Image} {addr value : Nat} (mem : Memory)
    (h : image.literal addr = some value) : image.bus.load 4 mem addr = some value := by
  unfold literal at h
  split at h
  · next haligned => simp only [bus, h, haligned, if_true]
  · cases h

namespace Leads

variable {image : Image} {reg : Nat → Nat} {pc : Nat} {n z c v : Bool}
  {mem : Memory} {Q : Cpu → Prop}
  {cond : Nat}

/-- The run has got there. -/
theorem done {s : Cpu} (h : Q s) : Leads image s Q := ⟨s, Relation.ReflTransGen.refl, h⟩

/-- One stretch of code after another. -/
theorem trans {P : Cpu → Prop} {s : Cpu} (h : Leads image s P)
    (h' : ∀ s', P s' → Leads image s' Q) :
    Leads image s Q := by
  obtain ⟨s', hrun, hP⟩ := h
  obtain ⟨t, hrun', hQ⟩ := h' s' hP
  exact ⟨t, hrun.trans hrun', hQ⟩

/-- One instruction, and the rest. -/
theorem head {s s' : Cpu} (hstep : step image.bus s = some s') (h : Leads image s' Q) :
    Leads image s Q := by
  obtain ⟨t, hrun, hQ⟩ := h
  exact ⟨t, hrun.head hstep, hQ⟩

/-- An instruction whose condition holds. -/
theorem passed {s s' : Cpu} {op : Op} (hop : image.op s.pc = some (cond, op))
    (hpass : s.passes cond = true) (hexec : exec image.bus s op = some s') (h : Leads image s' Q) :
    Leads image s Q := by
  obtain ⟨word, hword, hdecode⟩ := Option.bind_eq_some_iff.mp hop
  have hfetch : image.bus.fetch s.mem s.pc = some word := hword
  refine head ?_ h
  rw [step, hfetch, Option.bind_some, hdecode, Option.bind_some]
  dsimp only
  rw [if_pos hpass, hexec]

/-- An instruction whose condition does not hold. -/
theorem skipped {op : Op} (hop : image.op pc = some (cond, op))
    (hpass : Cpu.passes ⟨reg, pc, n, z, c, v, mem⟩ cond = false)
    (h : Leads image ⟨reg, pc + 4, n, z, c, v, mem⟩ Q) :
    Leads image ⟨reg, pc, n, z, c, v, mem⟩ Q := by
  obtain ⟨word, hword, hdecode⟩ := Option.bind_eq_some_iff.mp hop
  have hfetch : image.bus.fetch mem pc = some word := hword
  refine head ?_ h
  rw [step, hfetch, Option.bind_some, hdecode, Option.bind_some]
  dsimp only
  rw [hpass]
  rfl

/-- One rule for each instruction: `mov`. -/
theorem mov (rd imm : Nat) (hop : image.op pc = some (14, .mov rd imm))
    (h : Leads image ⟨set reg rd imm, pc + 4, n, z, c, v, mem⟩ Q) :
    Leads image ⟨reg, pc, n, z, c, v, mem⟩ Q :=
  passed hop rfl rfl h

/-- An addition to the value `x` of a register. -/
theorem add (rd rn imm x : Nat) (hop : image.op pc = some (14, .add rd rn imm)) (hx : reg rn = x)
    (h : Leads image ⟨set reg rd ((x + imm) % 0x100000000), pc + 4, n, z, c, v, mem⟩ Q) :
    Leads image ⟨reg, pc, n, z, c, v, mem⟩ Q := by
  subst hx
  exact passed hop rfl rfl h

theorem sub (rd rn imm x : Nat) (hop : image.op pc = some (14, .sub rd rn imm)) (hx : reg rn = x)
    (h : Leads image ⟨set reg rd ((x + 0x100000000 - imm) % 0x100000000), pc + 4,
      n, z, c, v, mem⟩ Q) :
    Leads image ⟨reg, pc, n, z, c, v, mem⟩ Q := by
  subst hx
  exact passed hop rfl rfl h

theorem addLsl (rd rn rm shift x y : Nat) (hop : image.op pc = some (14, .addLsl rd rn rm shift))
    (hx : reg rn = x) (hy : reg rm = y)
    (h : Leads image ⟨set reg rd ((x + y <<< shift % 0x100000000) % 0x100000000), pc + 4,
      n, z, c, v, mem⟩ Q) :
    Leads image ⟨reg, pc, n, z, c, v, mem⟩ Q := by
  subst hx hy
  exact passed hop rfl rfl h

/-- A comparison, of whose flags only those for equality and order are known afterwards. -/
theorem cmp (rn imm x : Nat) (hop : image.op pc = some (14, .cmp rn imm)) (hx : reg rn = x)
    (h : ∀ n v, Leads image ⟨reg, pc + 4, n, decide (x = imm), decide (imm ≤ x), v, mem⟩ Q) :
    Leads image ⟨reg, pc, n, z, c, v, mem⟩ Q := by
  subst hx
  exact passed hop rfl rfl (h _ _)

theorem cmpReg (rn rm x y : Nat) (hop : image.op pc = some (14, .cmpReg rn rm)) (hx : reg rn = x)
    (hy : reg rm = y)
    (h : ∀ n v, Leads image ⟨reg, pc + 4, n, decide (x = y), decide (y ≤ x), v, mem⟩ Q) :
    Leads image ⟨reg, pc, n, z, c, v, mem⟩ Q := by
  subst hx hy
  exact passed hop rfl rfl (h _ _)

/-- A load of a literal. -/
theorem lit (rd off value : Nat) (hop : image.op pc = some (14, .lit rd off))
    (hvalue : image.literal ((pc + 8 + off) % 0x100000000) = some value)
    (h : Leads image ⟨set reg rd value, pc + 4, n, z, c, v, mem⟩ Q) :
    Leads image ⟨reg, pc, n, z, c, v, mem⟩ Q :=
  passed hop rfl (Option.map_eq_some_iff.mpr ⟨value, Image.load_literal mem hvalue, rfl⟩) h

/-- A load from a given address. -/
theorem ldr (width rd rn off addr : Nat) (hop : image.op pc = some (14, .ldr width rd rn off))
    (haddr : (reg rn + off) % 0x100000000 = addr) (hdata : image.data width addr = true)
    (h : Leads image ⟨set reg rd (load width mem addr), pc + 4, n, z, c, v, mem⟩ Q) :
    Leads image ⟨reg, pc, n, z, c, v, mem⟩ Q := by
  refine passed hop rfl ?_ h
  dsimp only [exec]
  rw [haddr, Image.load_of_data mem hdata]
  rfl

/-- A store of the value `x` of a register to a given address. -/
theorem str (width rd rn off addr x : Nat) (hop : image.op pc = some (14, .str width rd rn off))
    (haddr : (reg rn + off) % 0x100000000 = addr) (hdata : image.data width addr = true)
    (hx : reg rd = x) (h : Leads image ⟨reg, pc + 4, n, z, c, v, store width mem addr x⟩ Q) :
    Leads image ⟨reg, pc, n, z, c, v, mem⟩ Q := by
  subst hx
  refine passed hop rfl ?_ h
  dsimp only [exec]
  rw [haddr, Image.store_of_data mem hdata]
  rfl

/-- The address that the instruction at `addr` branches to under a condition. -/
def target (image : Image) (addr : Nat) : Option (Nat × Bool × Nat) :=
  match image.op addr with
  | some (cond, .b link off) => some (cond, link, (addr + 8 + off) % 0x100000000)
  | _ => none

/-- What a branch of the image leads to. -/
theorem op_of_target {addr : Nat} {link : Bool} {dst : Nat}
    (h : target image addr = some (cond, link, dst)) :
    ∃ off, image.op addr = some (cond, .b link off) ∧ (addr + 8 + off) % 0x100000000 = dst := by
  unfold target at h
  split at h
  · next off hop =>
    cases h
    exact ⟨off, hop, rfl⟩
  · cases h

/-- A branch that is taken. -/
theorem b (cond dst : Nat) (hop : target image pc = some (cond, false, dst))
    (hpass : Cpu.passes ⟨reg, pc, n, z, c, v, mem⟩ cond = true)
    (h : Leads image ⟨reg, dst, n, z, c, v, mem⟩ Q) : Leads image ⟨reg, pc, n, z, c, v, mem⟩ Q := by
  obtain ⟨off, hinstr, rfl⟩ := op_of_target hop
  exact passed hinstr hpass rfl h

/-- A branch that is not taken. -/
theorem notTaken (cond dst : Nat) (hop : target image pc = some (cond, false, dst))
    (hpass : Cpu.passes ⟨reg, pc, n, z, c, v, mem⟩ cond = false)
    (h : Leads image ⟨reg, pc + 4, n, z, c, v, mem⟩ Q) :
    Leads image ⟨reg, pc, n, z, c, v, mem⟩ Q := by
  obtain ⟨off, hinstr, -⟩ := op_of_target hop
  exact skipped hinstr hpass h

theorem bl (dst : Nat) (hop : target image pc = some (14, true, dst))
    (h : Leads image ⟨set reg 14 (pc + 4), dst, n, z, c, v, mem⟩ Q) :
    Leads image ⟨reg, pc, n, z, c, v, mem⟩ Q := by
  obtain ⟨off, hinstr, rfl⟩ := op_of_target hop
  exact passed hinstr rfl rfl h

end Leads

end Arm
