import Bigstar.Lib.Arm

/-!
# Listings of code with literals

A listing is code as an assembler reads it: instructions, loads of literals by their values, and
branches by the addresses that they lead to. Assembled, it is one word for each item, and after them
one word for each literal, in the order of the loads.
-/

namespace Arm

/-- A line of a listing. -/
inductive Item where
  /-- An instruction as it is. -/
  | op (cond : Nat) (op : Op)
  /-- A register gets a value, by a move of the value or of its complement. -/
  | imm (rd value : Nat)
  /-- A register gets a literal. -/
  | lit (rd value : Nat)
  /-- A branch to an address, with or without a return address. -/
  | branch (cond : Nat) (link : Bool) (dst : Nat)
  deriving DecidableEq, Repr

/-- The value that a line needs in the pool. -/
def Item.literal : Item → Option Nat
  | .lit _ value => some value
  | _ => none

/-- The instructions that never go on with the next one. -/
def Item.leaves : Item → Bool
  | .branch cond link _ => cond == 14 && !link
  | .op cond (.pop mask) => cond == 14 && mask.testBit 15
  | _ => false

/-- The lines of a routine, whose literals follow it in a pool. -/
abbrev Listing := List Item

namespace Listing

/-- The literals, in the order of their loads. -/
def pool (listing : Listing) : List Nat := listing.filterMap Item.literal

/-- The word that the item at an index loads, counted from the start of the code. -/
def slot (listing : Listing) (i : Nat) : Nat := listing.length + (pool (listing.take i)).length

theorem pool_append (left right : Listing) : pool (left ++ right) = pool left ++ pool right :=
  List.filterMap_append

end Listing

/-- What a word at an address is for an item, the place of its literal apart. -/
def Item.Decodes (addr word : Nat) : Item → Prop
  | .op cond instr => decode word = some (cond, instr)
  | .imm rd value => decode word = some (14, .mov rd value) ∨
    value ≤ 0xffffffff ∧ decode word = some (14, .mvn rd (0xffffffff - value))
  | .lit _ _ => True
  | .branch cond link dst => ∃ off, decode word = some (cond, .b link off) ∧
    (addr + 8 + off) % 0x100000000 = dst % 0x100000000

/-- The words are the listing, assembled for its address. -/
structure Assembled (start : Nat) (listing : Listing) (words : List Nat) : Prop where
  /-- Each item assembles to its word. -/
  code : ∀ (i : Nat) (item : Item), listing[i]? = some item →
    ∃ word, words[i]? = some word ∧ item.Decodes (start + i * 4) word
  /-- A load of a literal decodes to the address of the word that has been emitted for it. -/
  literal : ∀ i rd value : Nat, listing[i]? = some (.lit rd value) →
    ∃ word off, words[i]? = some word ∧ decode word = some (14, .lit rd off) ∧
      (start + i * 4 + 8 + off) % 0x100000000 = start + listing.slot i * 4 ∧
      words[listing.slot i]? = some value
  /-- Behind the items stand the literals. -/
  pool : words.drop listing.length = listing.pool

/-! ## Execution

An assembled listing is executed item by item. The rules follow the listing, so neither the words
nor their addresses appear in them. -/

namespace Assembled

variable {start : Nat} {listing : Listing} {words : List Nat}

theorem word_at (start : Nat) (words : List Nat) (i : Nat) :
    Image.word [(start, words)] (start + i * 4) = words[i]? := by
  have hsub : start + i * 4 - start = i * 4 := Nat.add_sub_cancel_left start (i * 4)
  have hin : start ≤ start + i * 4 ∧ (start + i * 4 - start) % 4 = 0 := by omega
  unfold Image.word
  rw [List.findSome?_cons]
  dsimp only
  rw [if_pos hin, hsub, Nat.mul_div_cancel i (by decide)]
  cases words[i]? <;> rfl

theorem op_at (h : Assembled start listing words) {i cond : Nat} {instr : Op}
    (hi : listing[i]? = some (.op cond instr)) :
    Image.op [(start, words)] (start + i * 4) = some (cond, instr) := by
  obtain ⟨word, hword, hdecode⟩ := h.code i _ hi
  rw [Image.op, word_at, hword]
  exact hdecode

/-- A place that the code does not use. -/
theorem data_of_apart {width addr : Nat} (haligned : addr % width = 0)
    (h : addr + width ≤ start ∨ start + 4 * words.length ≤ addr) :
    Image.data [(start, words)] width addr = true := by
  unfold Image.data Image.free
  rw [Bool.and_eq_true, beq_iff_eq, List.all_cons, List.all_nil, Bool.and_true, Bool.or_eq_true,
    decide_eq_true_eq, decide_eq_true_eq]
  exact ⟨haligned, h⟩

end Assembled

/-- From the place of some items the code leads to a state with a property. -/
def Follows (start : Nat) (listing : Listing) (words : List Nat) (items : Listing) (reg : Nat → Nat)
    (n z c v : Bool) (mem : Memory) (Q : Cpu → Prop) : Prop :=
  ∀ i, listing.drop i = items → Leads [(start, words)] ⟨reg, start + i * 4, n, z, c, v, mem⟩ Q

namespace Follows

variable {start : Nat} {listing items : Listing} {words : List Nat} {reg reg' : Nat → Nat}
  {n z c v n' z' c' v' : Bool} {mem mem' : Memory} {Q : Cpu → Prop} {item : Item}

theorem getElem?_of_drop {i : Nat} (h : listing.drop i = item :: items) :
    listing[i]? = some item ∧ listing.drop (i + 1) = items := by
  constructor
  · have hhead := congrArg List.head? h
    rwa [List.head?_drop] at hhead
  · have htail := congrArg List.tail h
    rwa [List.tail_drop] at htail

theorem leads (h : Follows start listing words listing reg n z c v mem Q) :
    Leads [(start, words)] ⟨reg, start, n, z, c, v, mem⟩ Q := by
  have hfirst := h 0 rfl
  rwa [Nat.zero_mul, Nat.add_zero] at hfirst

theorem next (h : Follows start listing words items reg n z c v mem Q) {i : Nat}
    (hi : listing.drop (i + 1) = items) :
    Leads [(start, words)] ⟨reg, start + i * 4 + 4, n, z, c, v, mem⟩ Q := by
  have hnext := h (i + 1) hi
  rwa [Nat.succ_mul, ← Nat.add_assoc] at hnext

/-- An instruction whose condition holds. -/
theorem op (h : Assembled start listing words) {cond : Nat} {instr : Op}
    (hpass : ∀ pc, Cpu.passes ⟨reg, pc, n, z, c, v, mem⟩ cond = true)
    (hexec : ∀ pc, exec (Image.bus [(start, words)]) ⟨reg, pc, n, z, c, v, mem⟩ instr =
      some ⟨reg', pc + 4, n', z', c', v', mem'⟩)
    (hrest : Follows start listing words items reg' n' z' c' v' mem' Q) :
    Follows start listing words (.op cond instr :: items) reg n z c v mem Q := by
  intro i hi
  obtain ⟨hitem, hdrop⟩ := getElem?_of_drop hi
  exact Leads.passed (h.op_at hitem) (hpass _) (hexec _) (hrest.next hdrop)

/-- An instruction whose condition does not hold. -/
theorem skip (h : Assembled start listing words) {cond : Nat} {instr : Op}
    (hpass : ∀ pc, Cpu.passes ⟨reg, pc, n, z, c, v, mem⟩ cond = false)
    (hrest : Follows start listing words items reg n z c v mem Q) :
    Follows start listing words (.op cond instr :: items) reg n z c v mem Q := by
  intro i hi
  obtain ⟨hitem, hdrop⟩ := getElem?_of_drop hi
  exact Leads.skipped (h.op_at hitem) (hpass _) (hrest.next hdrop)

/-- An instruction that leaves the code. -/
theorem leave (h : Assembled start listing words) {cond : Nat} {instr : Op} {t : Cpu}
    (hpass : ∀ pc, Cpu.passes ⟨reg, pc, n, z, c, v, mem⟩ cond = true)
    (hexec : ∀ pc, exec (Image.bus [(start, words)]) ⟨reg, pc, n, z, c, v, mem⟩ instr = some t)
    (hQ : Q t) : Follows start listing words (.op cond instr :: items) reg n z c v mem Q := by
  intro i hi
  obtain ⟨hitem, -⟩ := getElem?_of_drop hi
  exact Leads.passed (h.op_at hitem) (hpass _) (hexec _) (Leads.done hQ)

theorem imm (h : Assembled start listing words) (rd value : Nat)
    (hrest : Follows start listing words items (set reg rd value) n z c v mem Q) :
    Follows start listing words (.imm rd value :: items) reg n z c v mem Q := by
  intro i hi
  obtain ⟨hitem, hdrop⟩ := getElem?_of_drop hi
  obtain ⟨word, hword, hdecode⟩ := h.code i _ hitem
  rcases hdecode with hmov | ⟨hle, hmvn⟩
  · have hop : Image.op [(start, words)] (start + i * 4) = some (14, .mov rd value) := by
      rw [Image.op, Assembled.word_at, hword]
      exact hmov
    exact Leads.mov rd value hop (hrest.next hdrop)
  · have hop : Image.op [(start, words)] (start + i * 4) =
        some (14, .mvn rd (0xffffffff - value)) := by
      rw [Image.op, Assembled.word_at, hword]
      exact hmvn
    refine Leads.passed hop rfl rfl ?_
    dsimp only [Cpu.write]
    rw [Nat.sub_sub_self hle]
    exact hrest.next hdrop

theorem lit (h : Assembled start listing words) (haligned : start % 4 = 0) (rd value : Nat)
    (hrest : Follows start listing words items (set reg rd value) n z c v mem Q) :
    Follows start listing words (.lit rd value :: items) reg n z c v mem Q := by
  intro i hi
  obtain ⟨hitem, hdrop⟩ := getElem?_of_drop hi
  obtain ⟨word, off, hword, hdecode, haddr, hvalue⟩ := h.literal i rd value hitem
  have hop : Image.op [(start, words)] (start + i * 4) = some (14, .lit rd off) := by
    rw [Image.op, Assembled.word_at, hword]
    exact hdecode
  refine Leads.lit rd off value hop ?_ (hrest.next hdrop)
  rw [haddr, Image.literal, if_pos (by omega), Assembled.word_at]
  exact hvalue

/-- A call leaves the code with the place of the following items in the link register. -/
theorem call (h : Assembled start listing words) {dst : Nat} (hdst : dst < 0x100000000)
    (hQ : ∀ i, listing.drop i = items →
      Q ⟨set reg 14 (start + i * 4), dst, n, z, c, v, mem⟩) :
    Follows start listing words (.branch 14 true dst :: items) reg n z c v mem Q := by
  intro i hi
  obtain ⟨hitem, hdrop⟩ := getElem?_of_drop hi
  obtain ⟨word, hword, off, hdecode, hoff⟩ := h.code i _ hitem
  have hop : Image.op [(start, words)] (start + i * 4) = some (14, .b true off) := by
    rw [Image.op, Assembled.word_at, hword]
    exact hdecode
  have htarget : Leads.target [(start, words)] (start + i * 4) = some (14, true, dst) := by
    rw [Leads.target, hop]
    show some (14, true, (start + i * 4 + 8 + off) % 0x100000000) = _
    rw [hoff, Nat.mod_eq_of_lt hdst]
  refine Leads.bl dst htarget (Leads.done ?_)
  have hlink : start + i * 4 + 4 = start + (i + 1) * 4 := by omega
  rw [hlink]
  exact hQ (i + 1) hdrop

/-! ### Single instructions -/

theorem mov (h : Assembled start listing words) (rd value : Nat)
    (hrest : Follows start listing words items (set reg rd value) n z c v mem Q) :
    Follows start listing words (.op 14 (.mov rd value) :: items) reg n z c v mem Q :=
  op h (fun _ => rfl) (fun _ => rfl) hrest

/-- A move after a comparison of equals. -/
theorem movEq (h : Assembled start listing words) (rd value : Nat)
    (hrest : Follows start listing words items (set reg rd value) n true c v mem Q) :
    Follows start listing words (.op 0 (.mov rd value) :: items) reg n true c v mem Q :=
  op h (fun _ => rfl) (fun _ => rfl) hrest

theorem movReg (h : Assembled start listing words) (rd rm x : Nat) (hx : reg rm = x)
    (hrest : Follows start listing words items (set reg rd x) n z c v mem Q) :
    Follows start listing words (.op 14 (.movReg rd rm) :: items) reg n z c v mem Q := by
  subst hx
  exact op h (fun _ => rfl) (fun _ => rfl) hrest

theorem add (h : Assembled start listing words) (rd rn value x : Nat)
    (hx : (reg rn + value) % 0x100000000 = x)
    (hrest : Follows start listing words items (set reg rd x) n z c v mem Q) :
    Follows start listing words (.op 14 (.add rd rn value) :: items) reg n z c v mem Q := by
  subst hx
  exact op h (fun _ => rfl) (fun _ => rfl) hrest

theorem sub (h : Assembled start listing words) (rd rn value x : Nat)
    (hx : (reg rn + 0x100000000 - value) % 0x100000000 = x)
    (hrest : Follows start listing words items (set reg rd x) n z c v mem Q) :
    Follows start listing words (.op 14 (.sub rd rn value) :: items) reg n z c v mem Q := by
  subst hx
  exact op h (fun _ => rfl) (fun _ => rfl) hrest

/-- Of the flags of a comparison only the one for equality is known afterwards. -/
theorem cmp (h : Assembled start listing words) (rn value x : Nat) (hx : reg rn = x)
    (hrest : ∀ n c v, Follows start listing words items reg n (decide (x = value)) c v mem Q) :
    Follows start listing words (.op 14 (.cmp rn value) :: items) reg n z c v mem Q := by
  subst hx
  let s : Cpu := Cpu.compare ⟨reg, 0, n, z, c, v, mem⟩ (reg rn) value
  have hexec : ∀ pc, exec (Image.bus [(start, words)]) ⟨reg, pc, n, z, c, v, mem⟩ (.cmp rn value) =
      some ⟨reg, pc + 4, s.n, decide (reg rn = value), s.c, s.v, mem⟩ := fun _ => rfl
  exact op h (fun _ => rfl) hexec (hrest _ _ _)

theorem cmpReg (h : Assembled start listing words) (rn rm x y : Nat)
    (hx : reg rn = x) (hy : reg rm = y)
    (hrest : ∀ n c v, Follows start listing words items reg n (decide (x = y)) c v mem Q) :
    Follows start listing words (.op 14 (.cmpReg rn rm) :: items) reg n z c v mem Q := by
  subst hx hy
  let s : Cpu := Cpu.compare ⟨reg, 0, n, z, c, v, mem⟩ (reg rn) (reg rm)
  have hexec : ∀ pc, exec (Image.bus [(start, words)]) ⟨reg, pc, n, z, c, v, mem⟩ (.cmpReg rn rm) =
      some ⟨reg, pc + 4, s.n, decide (reg rn = reg rm), s.c, s.v, mem⟩ := fun _ => rfl
  exact op h (fun _ => rfl) hexec (hrest _ _ _)

theorem ldr (h : Assembled start listing words) (width rd rn off addr x : Nat)
    (haddr : (reg rn + off) % 0x100000000 = addr)
    (hdata : Image.data [(start, words)] width addr = true) (hx : load width mem addr = x)
    (hrest : Follows start listing words items (set reg rd x) n z c v mem Q) :
    Follows start listing words (.op 14 (.ldr width rd rn off) :: items) reg n z c v mem Q := by
  subst hx
  refine op h (fun _ => rfl) (fun _ => ?_) hrest
  dsimp only [exec]
  rw [haddr, Image.load_of_data mem hdata]
  rfl

/-- A load that only replaces the value `x` of the register if the last comparison was one of
equals. -/
theorem ldrEq (h : Assembled start listing words)
    (width rd rn off addr x y w : Nat) (hx : reg rd = x)
    (haddr : (reg rn + off) % 0x100000000 = addr)
    (hdata : Image.data [(start, words)] width addr = true) (hy : load width mem addr = y)
    (hw : (if z then y else x) = w)
    (hrest : Follows start listing words items (set reg rd w) n z c v mem Q) :
    Follows start listing words (.op 0 (.ldr width rd rn off) :: items) reg n z c v mem Q := by
  subst hx hy hw
  cases z with
  | true =>
    refine op h (fun _ => rfl) (fun _ => ?_) hrest
    dsimp only [exec]
    rw [haddr, Image.load_of_data mem hdata]
    rfl
  | false =>
    refine skip h (fun _ => rfl) ?_
    rwa [if_neg Bool.false_ne_true, set_eq_self] at hrest

theorem str (h : Assembled start listing words) (width rd rn off addr x : Nat) (hx : reg rd = x)
    (haddr : (reg rn + off) % 0x100000000 = addr)
    (hdata : Image.data [(start, words)] width addr = true)
    (hrest : Follows start listing words items reg n z c v (store width mem addr x) Q) :
    Follows start listing words (.op 14 (.str width rd rn off) :: items) reg n z c v mem Q := by
  subst hx
  refine op h (fun _ => rfl) (fun _ => ?_) hrest
  dsimp only [exec]
  rw [haddr, Image.store_of_data mem hdata]
  rfl

/-- Two registers are pushed. -/
theorem push (h : Assembled start listing words) (mask a b sp : Nat) (hregs : regs mask = [a, b])
    (hsp : reg 13 = sp + 8) (hlt : sp + 8 < 0x100000000)
    (hdata : Image.data [(start, words)] 4 sp = true)
    (hdata' : Image.data [(start, words)] 4 (sp + 4) = true)
    (hrest : Follows start listing words items (set reg 13 sp) n z c v
      (store 4 (store 4 mem sp (reg a)) (sp + 4) (reg b)) Q) :
    Follows start listing words (.op 14 (.push mask) :: items) reg n z c v mem Q := by
  refine op h (fun _ => rfl) (fun pc => ?_) hrest
  have hbelow : (reg 13 + 0x100000000 - 4 * [a, b].length) % 0x100000000 = sp := by
    rw [hsp, List.length_cons, List.length_singleton]
    omega
  have hnext : (sp + 4) % 0x100000000 = sp + 4 := Nat.mod_eq_of_lt (by omega)
  dsimp only [exec]
  rw [hregs, hbelow]
  simp only [storeRegs, Image.store_of_data _ hdata, Image.store_of_data _ hdata',
    hnext, Option.bind_some]
  rfl

/-- A register and the program counter are popped. -/
theorem pop (h : Assembled start listing words) {cond : Nat} (mask a sp x y : Nat)
    (hpass : ∀ pc, Cpu.passes ⟨reg, pc, n, z, c, v, mem⟩ cond = true) (hregs : regs mask = [a, 15])
    (hpc : mask.testBit 15 = true) (hsp : reg 13 = sp) (hlt : sp + 8 < 0x100000000)
    (hdata : Image.data [(start, words)] 4 sp = true)
    (hdata' : Image.data [(start, words)] 4 (sp + 4) = true) (hx : load 4 mem sp = x)
    (hy : load 4 mem (sp + 4) = y)
    (hQ : Q ⟨set (set (set reg a x) 15 y) 13 (sp + 8), y, n, z, c, v, mem⟩) :
    Follows start listing words (.op cond (.pop mask) :: items) reg n z c v mem Q := by
  refine leave h hpass (fun pc => ?_) hQ
  have habove : (sp + 4 * [a, 15].length) % 0x100000000 = sp + 8 := Nat.mod_eq_of_lt hlt
  have hnext : (sp + 4) % 0x100000000 = sp + 4 := Nat.mod_eq_of_lt (by omega)
  dsimp only [exec]
  rw [hregs, hsp, hpc, habove]
  simp only [loadRegs, Image.load_of_data _ hdata, Image.load_of_data _ hdata', hnext, hx, hy,
    Option.bind_some, Option.map_some, set_self, if_true]

end Follows

end Arm
