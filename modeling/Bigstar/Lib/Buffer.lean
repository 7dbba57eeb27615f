import Bigstar.Lib.Pages

/-!
# Regions of a buffer

What a buffer holds at an offset, how appending and overwriting elsewhere leave it there, and lists
of regions: regions laid out one after the other by appending, and regions written over a buffer
that is long enough.
-/

namespace Buffer

open Pages

variable {β : Type}

/-- The buffer has the cells of `content` from `offset` on. -/
structure Holds (cells : List β) (offset : Nat) (content : List β) : Prop where
  /-- The content lies within the buffer. -/
  le : offset + content.length ≤ cells.length
  /-- The cells from the offset on are the content. -/
  get : ∀ i, i < content.length → cells[offset + i]? = content[i]?

namespace Holds

variable {cells content : List β} {offset : Nat}

theorem take_drop (h : Holds cells offset content) :
    (cells.drop offset).take content.length = content := by
  apply List.ext_getElem?
  intro i
  rw [List.getElem?_take]
  by_cases hi : i < content.length
  · rw [if_pos hi, List.getElem?_drop, h.get i hi]
  · rw [if_neg hi, List.getElem?_eq_none (Nat.not_lt.mp hi)]

theorem append (h : Holds cells offset content) (more : List β) :
    Holds (cells ++ more) offset content := by
  have hle := h.le
  refine ⟨?_, ?_⟩
  · rw [List.length_append]
    omega
  · intro i hi
    rw [List.getElem?_append_left (by omega)]
    exact h.get i hi

/-- The part of a region that starts after `before`. -/
theorem of_append {before after : List β} (h : Holds cells offset (before ++ content ++ after)) :
    Holds cells (offset + before.length) content := by
  have hle := h.le
  simp only [List.length_append] at hle
  refine ⟨by omega, ?_⟩
  intro i hi
  have hget := h.get (before.length + i) (by simp only [List.length_append]; omega)
  rw [List.getElem?_append_left (by rw [List.length_append]; omega),
    List.getElem?_append_right (by omega), Nat.add_sub_cancel_left] at hget
  rw [Nat.add_assoc]
  exact hget

/-- Two neighbouring regions as one. -/
theorem concat {next : List β} (h : Holds cells offset content)
    (hnext : Holds cells (offset + content.length) next) :
    Holds cells offset (content ++ next) := by
  have hle := hnext.le
  refine ⟨by rw [List.length_append]; omega, ?_⟩
  intro i hi
  rw [List.length_append] at hi
  by_cases hlow : i < content.length
  · rw [List.getElem?_append_left hlow]
    exact h.get i hlow
  · have hget := hnext.get (i - content.length) (by omega)
    rw [List.getElem?_append_right (Nat.not_lt.mp hlow), ← hget]
    congr 1
    omega

/-- An array of records, from its records. -/
theorem flatMap {α : Type} {f : α → List β} {size : Nat} (hf : ∀ a, (f a).length = size)
    {l : List α} (hle : offset + size * l.length ≤ cells.length)
    (h : ∀ k a, l[k]? = some a → Holds cells (offset + size * k) (f a)) :
    Holds cells offset (l.flatMap f) := by
  induction l generalizing offset with
  | nil => exact ⟨by simpa using hle, fun i hi => absurd hi (Nat.not_lt_zero i)⟩
  | cons a l ih =>
    rw [List.length_cons, Nat.mul_add, Nat.mul_one] at hle
    have hfirst : Holds cells offset (f a) := by simpa using h 0 a rfl
    have hrest : Holds cells (offset + size) (l.flatMap f) := by
      refine ih (by omega) fun k b hk => ?_
      have := h (k + 1) b hk
      rwa [Nat.mul_add, Nat.mul_one, Nat.add_comm (size * k), ← Nat.add_assoc] at this
    rw [List.flatMap_cons]
    exact hfirst.concat (by rw [hf]; exact hrest)

/-- One record of an array. -/
theorem of_flatMap {α : Type} {f : α → List β} {size : Nat} (hf : ∀ a, (f a).length = size)
    {l : List α} (h : Holds cells offset (l.flatMap f)) {k : Nat} {a : α} (ha : l[k]? = some a) :
    Holds cells (offset + size * k) (f a) := by
  induction l generalizing offset k with
  | nil => cases ha
  | cons b l ih =>
    rw [List.flatMap_cons] at h
    cases k with
    | zero =>
      rw [List.getElem?_cons_zero, Option.some.injEq] at ha
      rw [← List.nil_append (f b), ha] at h
      exact h.of_append
    | succ k =>
      rw [← List.append_nil (f b ++ _)] at h
      have hrest := ih h.of_append ha
      rwa [hf, Nat.add_assoc, Nat.add_comm size, ← Nat.mul_succ] at hrest

theorem writeAt_apart (h : Holds cells offset content) {at_ : Nat} {data : List β}
    (hin : at_ + data.length ≤ cells.length)
    (hapart : offset + content.length ≤ at_ ∨ at_ + data.length ≤ offset) :
    Holds (writeAt cells at_ data) offset content := by
  refine ⟨?_, ?_⟩
  · rw [length_writeAt hin]
    exact h.le
  · intro i hi
    rw [getElem?_writeAt hin, if_neg (by omega)]
    exact h.get i hi

end Holds

theorem holds_append_self (before content after : List β) :
    Holds (before ++ content ++ after) before.length content := by
  refine ⟨?_, ?_⟩
  · simp only [List.length_append]
    omega
  · intro i hi
    rw [List.getElem?_append_left (by rw [List.length_append]; omega),
      List.getElem?_append_right (by omega), Nat.add_sub_cancel_left]

theorem holds_writeAt {cells data : List β} {offset : Nat}
    (hin : offset + data.length ≤ cells.length) :
    Holds (writeAt cells offset data) offset data := by
  refine ⟨?_, ?_⟩
  · rw [length_writeAt hin]
    exact hin
  · intro i hi
    rw [getElem?_writeAt hin, if_pos (by omega), Nat.add_sub_cancel_left]

/-! ## Lists of regions -/

/-- Cells that belong at an offset. -/
structure Region (β : Type) where
  /-- Where the region begins. -/
  offset : Nat
  /-- What is in it. -/
  content : List β

namespace Region

/-- The first offset behind the region. -/
def stop (r : Region β) : Nat := r.offset + r.content.length

/-- One region ends before the other begins. -/
def Apart (r s : Region β) : Prop := r.stop ≤ s.offset ∨ s.stop ≤ r.offset

end Region

/-- Regions in the order of their offsets, at multiples of `align` from `start` on, in a buffer that
holds all of them. -/
structure Placed (align start : Nat) (cells : List β) (regions : List (Region β)) : Prop where
  /-- Every region is in the buffer. -/
  holds : ∀ r ∈ regions, Holds cells r.offset r.content
  /-- Every region begins at a multiple. -/
  aligned : ∀ r ∈ regions, r.offset % align = 0
  /-- No region begins before the start. -/
  start_le : ∀ r ∈ regions, start ≤ r.offset
  /-- The regions follow one another. -/
  ordered : regions.Pairwise fun r s => r.stop ≤ s.offset

namespace Placed

variable {align start : Nat} {cells : List β} {regions : List (Region β)}

theorem nil : Placed align start cells [] where
  holds := fun _ hr => absurd hr List.not_mem_nil
  aligned := fun _ hr => absurd hr List.not_mem_nil
  start_le := fun _ hr => absurd hr List.not_mem_nil
  ordered := List.Pairwise.nil
/-- Appends a region after some cells of filling. -/
theorem snoc (h : Placed align start cells regions) {fill content : List β}
    (hstart : start ≤ (cells ++ fill).length) (halign : (cells ++ fill).length % align = 0) :
    Placed align start (cells ++ fill ++ content)
      (regions ++ [⟨(cells ++ fill).length, content⟩]) := by
  have hself : Holds (cells ++ fill ++ content) (cells ++ fill).length content := by
    have := holds_append_self (cells ++ fill) content []
    rwa [List.append_nil] at this
  refine ⟨?_, ?_, ?_, ?_⟩
  · intro r hr
    rcases List.mem_append.mp hr with hr | hr
    · exact ((h.holds r hr).append fill).append content
    · rw [List.mem_singleton.mp hr]
      exact hself
  · intro r hr
    rcases List.mem_append.mp hr with hr | hr
    · exact h.aligned r hr
    · rw [List.mem_singleton.mp hr]
      exact halign
  · intro r hr
    rcases List.mem_append.mp hr with hr | hr
    · exact h.start_le r hr
    · rw [List.mem_singleton.mp hr]
      exact hstart
  · refine List.pairwise_append.mpr ⟨h.ordered, List.pairwise_singleton _ _, ?_⟩
    intro r hr s hs
    rw [List.mem_singleton.mp hs]
    have hle : r.offset + r.content.length ≤ cells.length := (h.holds r hr).le
    change r.offset + r.content.length ≤ (cells ++ fill).length
    rw [List.length_append]
    omega

end Placed

/-- Two members of an ordered list of regions at different places are apart. -/
theorem apart_of_ordered {regions before after : List (Region β)} {r s : Region β}
    (h : regions.Pairwise fun r s => r.stop ≤ s.offset) (hsplit : regions = before ++ r :: after)
    (hs : s ∈ before ++ after) : s.Apart r := by
  rw [hsplit, List.pairwise_append] at h
  obtain ⟨-, hright, hcross⟩ := h
  rcases List.mem_append.mp hs with hs | hs
  · exact Or.inl (hcross s hs r List.mem_cons_self)
  · exact Or.inr ((List.pairwise_cons.mp hright).1 s hs)

/-! ## Writing regions over a buffer -/

/-- Overwrites the cells of each region in turn. -/
def writeAll (cells : List β) (writes : List (Region β)) : List β :=
  writes.foldl (fun cells r => writeAt cells r.offset r.content) cells

section WriteAll

variable {cells : List β} {writes : List (Region β)}

theorem length_writeAll (hin : ∀ r ∈ writes, r.stop ≤ cells.length) :
    (writeAll cells writes).length = cells.length := by
  induction writes generalizing cells with
  | nil => rfl
  | cons r writes ih =>
    have hr : r.offset + r.content.length ≤ cells.length := hin r List.mem_cons_self
    have hlen := length_writeAt hr
    have hrest : ∀ s ∈ writes, s.stop ≤ (writeAt cells r.offset r.content).length := by
      intro s hs
      rw [hlen]
      exact hin s (List.mem_cons_of_mem r hs)
    exact (ih hrest).trans hlen

theorem getElem?_writeAll_outside (hin : ∀ r ∈ writes, r.stop ≤ cells.length) {i : Nat}
    (hout : ∀ r ∈ writes, i < r.offset ∨ r.stop ≤ i) : (writeAll cells writes)[i]? = cells[i]? := by
  induction writes generalizing cells with
  | nil => rfl
  | cons r writes ih =>
    have hr : r.offset + r.content.length ≤ cells.length := hin r List.mem_cons_self
    have hi := hout r List.mem_cons_self
    have hrest : ∀ s ∈ writes, s.stop ≤ (writeAt cells r.offset r.content).length := by
      intro s hs
      rw [length_writeAt hr]
      exact hin s (List.mem_cons_of_mem r hs)
    change (writeAll (writeAt cells r.offset r.content) writes)[i]? = cells[i]?
    rw [ih hrest fun s hs => hout s (List.mem_cons_of_mem r hs), getElem?_writeAt hr, if_neg]
    rintro ⟨hlow, hhigh⟩
    rcases hi with hi | hi
    · omega
    · exact absurd hhigh (Nat.not_lt.mpr hi)

theorem Holds.writeAll {offset : Nat} {content : List β} (h : Holds cells offset content)
    (hin : ∀ r ∈ writes, r.stop ≤ cells.length)
    (hapart : ∀ r ∈ writes, r.Apart ⟨offset, content⟩) :
    Holds (writeAll cells writes) offset content := by
  refine ⟨?_, ?_⟩
  · rw [length_writeAll hin]
    exact h.le
  · intro i hi
    rw [getElem?_writeAll_outside hin]
    · exact h.get i hi
    · intro r hr
      rcases hapart r hr with hlow | hhigh
      · exact Or.inr (Nat.le_trans hlow (Nat.le_add_right offset i))
      · refine Or.inl (Nat.lt_of_lt_of_le ?_ hhigh)
        exact Nat.add_lt_add_left hi offset

/-- Writes that are apart from each other all stay. -/
theorem holds_writeAll (hin : ∀ r ∈ writes, r.stop ≤ cells.length)
    (hpairwise : writes.Pairwise Region.Apart) {r : Region β} (hr : r ∈ writes) :
    Holds (Buffer.writeAll cells writes) r.offset r.content := by
  induction writes generalizing cells with
  | nil => exact absurd hr List.not_mem_nil
  | cons first writes ih =>
    obtain ⟨hfirst, hrest⟩ := List.pairwise_cons.mp hpairwise
    have hle : first.offset + first.content.length ≤ cells.length := hin first List.mem_cons_self
    have hin' : ∀ s ∈ writes, s.stop ≤ (writeAt cells first.offset first.content).length := by
      intro s hs
      rw [length_writeAt hle]
      exact hin s (List.mem_cons_of_mem first hs)
    rcases List.mem_cons.mp hr with rfl | hr
    · exact (holds_writeAt hle).writeAll hin' fun s hs => (hfirst s hs).symm
    · exact ih hin' hrest hr

end WriteAll

end Buffer
