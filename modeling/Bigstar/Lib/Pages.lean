import Mathlib.Data.List.Basic
import Mathlib.Tactic.Common

/-!
# Memory images in pages

An image is a list of cells, cut into pages of `size` cells, the last of which may be shorter. The
pages in which two images differ are enough to turn one of them back into the other.
-/

namespace Pages

variable {β : Type}

/-- The cells of page `k`. -/
def page (size k : Nat) (cells : List β) : List β := (cells.drop (k * size)).take size

/-- The number of pages of an image with `length` cells. -/
def pageCount (size length : Nat) : Nat := (length + size - 1) / size

/-- Overwrites the cells from `offset` on. -/
def writeAt (cells : List β) (offset : Nat) (data : List β) : List β :=
  cells.take offset ++ data ++ cells.drop (offset + data.length)

/-- Copies some pages of `source` over `cells`. -/
def copyPages (size : Nat) (source : List β) (pages : List Nat) (cells : List β) : List β :=
  pages.foldl (fun cells k => writeAt cells (k * size) (page size k source)) cells

/-- The pages in which two images differ, in ascending order. -/
def changedPages [DecidableEq β] (size : Nat) (new old : List β) : List Nat :=
  (List.range (pageCount size new.length)).filter fun k => page size k new ≠ page size k old

/-! ## Pages -/

@[simp]
theorem length_page (size k : Nat) (cells : List β) :
    (page size k cells).length = min size (cells.length - k * size) := by
  simp [page]

theorem getElem?_page (size k i : Nat) (cells : List β) :
    (page size k cells)[i]? = if i < size then cells[k * size + i]? else none := by
  unfold page
  rw [List.getElem?_take]
  split
  · rw [List.getElem?_drop]
  · rfl

theorem lt_pageCount_iff {size k length : Nat} (hsize : 0 < size) :
    k < pageCount size length ↔ k * size < length := by
  unfold pageCount
  rw [Nat.lt_iff_add_one_le, Nat.le_div_iff_mul_le hsize, Nat.add_mul]
  omega

/-- Cell `i` of the image is cell `i % size` of page `i / size`. -/
theorem getElem?_eq_page {size : Nat} (hsize : 0 < size) (cells : List β) (i : Nat) :
    cells[i]? = (page size (i / size) cells)[i % size]? := by
  rw [getElem?_page, if_pos (Nat.mod_lt i hsize)]
  congr 1
  rw [Nat.mul_comm]
  exact (Nat.div_add_mod i size).symm

/-! ## Overwriting -/

theorem getElem?_writeAt {cells data : List β} {offset : Nat}
    (h : offset + data.length ≤ cells.length) (i : Nat) :
    (writeAt cells offset data)[i]? =
      if offset ≤ i ∧ i < offset + data.length then data[i - offset]? else cells[i]? := by
  have htake : (cells.take offset).length = offset := by
    rw [List.length_take]
    omega
  unfold writeAt
  by_cases hlow : i < offset
  · rw [List.append_assoc, List.getElem?_append_left (by omega), List.getElem?_take_of_lt hlow,
      if_neg (by omega)]
  · by_cases hin : i < offset + data.length
    · rw [List.append_assoc, List.getElem?_append_right (by omega), htake,
        List.getElem?_append_left (by omega), if_pos (by omega)]
    · rw [List.getElem?_append_right (by rw [List.length_append, htake]; omega),
        List.getElem?_drop, List.length_append, htake, if_neg (by omega)]
      congr 1
      omega

theorem length_writeAt {cells data : List β} {offset : Nat}
    (h : offset + data.length ≤ cells.length) :
    (writeAt cells offset data).length = cells.length := by
  unfold writeAt
  simp only [List.length_append, List.length_take, List.length_drop]
  omega

section CopyPages

variable {size : Nat} {source : List β}

/-- A page of an image of the same length fits where it comes from. -/
theorem page_fits {cells : List β} (hlen : source.length = cells.length) {k : Nat}
    (hk : k * size < cells.length) :
    k * size + (page size k source).length ≤ cells.length := by
  rw [length_page]
  omega

/-- Writing a page back where it comes from changes the cells of that page. -/
theorem getElem?_writeAt_page (hsize : 0 < size) {cells : List β}
    (hlen : source.length = cells.length) {k : Nat} (hk : k * size < cells.length) (i : Nat) :
    (writeAt cells (k * size) (page size k source))[i]? =
      if i / size = k then source[i]? else cells[i]? := by
  rw [getElem?_writeAt (page_fits hlen hk), length_page, getElem?_page]
  by_cases hi : i / size = k
  · rw [if_pos hi]
    have hdiv := Nat.div_add_mod i size
    have hmod := Nat.mod_lt i hsize
    rw [hi, Nat.mul_comm] at hdiv
    by_cases hlt : i < cells.length
    · rw [if_pos (by omega), if_pos (by omega)]
      congr 1
      omega
    · rw [if_neg (by omega), List.getElem?_eq_none (by omega), List.getElem?_eq_none (by omega)]
  · rw [if_neg hi, if_neg]
    rintro ⟨hlo, hhi⟩
    apply hi
    apply Nat.div_eq_of_lt_le hlo
    rw [Nat.succ_mul]
    omega
/-- Copying pages changes the cells of these pages and no other. -/
theorem getElem?_copyPages (hsize : 0 < size) {pages : List Nat} {cells : List β}
    (hlen : source.length = cells.length)
    (hpages : ∀ k ∈ pages, k * size < cells.length) (i : Nat) :
    (copyPages size source pages cells)[i]? =
      if i / size ∈ pages then source[i]? else cells[i]? := by
  induction pages generalizing cells with
  | nil => simp [copyPages]
  | cons k pages ih =>
    have hk := hpages k List.mem_cons_self
    have hlen' := length_writeAt (page_fits hlen hk)
    have hpages' : ∀ j ∈ pages,
        j * size < (writeAt cells (k * size) (page size k source)).length := by
      intro j hj
      rw [hlen']
      exact hpages j (List.mem_cons_of_mem k hj)
    have hstep := ih (hlen.trans hlen'.symm) hpages'
    unfold copyPages at hstep ⊢
    rw [List.foldl_cons, hstep, getElem?_writeAt_page hsize hlen hk]
    by_cases hmem : i / size ∈ pages
    · rw [if_pos hmem, if_pos (List.mem_cons_of_mem k hmem)]
    · simp [hmem]

end CopyPages

/-! ## Undoing a change -/

theorem mem_changedPages [DecidableEq β] {size : Nat} (hsize : 0 < size)
    {new old : List β} {k : Nat} :
    k ∈ changedPages size new old ↔ k * size < new.length ∧ page size k new ≠ page size k old := by
  unfold changedPages
  rw [List.mem_filter, List.mem_range, lt_pageCount_iff hsize, decide_eq_true_eq]

/-- Copying the changed pages back gives the old image. -/
theorem copyPages_changedPages [DecidableEq β] {size : Nat} (hsize : 0 < size) {new old : List β}
    (hlen : old.length = new.length) :
    copyPages size old (changedPages size new old) new = old := by
  have hpages : ∀ k ∈ changedPages size new old, k * size < new.length := by
    intro k hk
    exact ((mem_changedPages hsize).mp hk).1
  apply List.ext_getElem?
  intro i
  rw [getElem?_copyPages hsize hlen hpages]
  split
  · rfl
  · next hmem =>
    by_cases hi : i < new.length
    · -- the page of `i` is the same in both images
      have hlt : i / size * size < new.length :=
        Nat.lt_of_le_of_lt (Nat.div_mul_le_self i size) hi
      have hpage : page size (i / size) new = page size (i / size) old := by
        by_contra hne
        exact hmem ((mem_changedPages hsize).mpr ⟨hlt, hne⟩)
      rw [getElem?_eq_page hsize new, getElem?_eq_page hsize old, hpage]
    · rw [List.getElem?_eq_none (by omega), List.getElem?_eq_none (by omega)]

end Pages
