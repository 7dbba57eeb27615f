import Bigstar.Lib.Ring
import Bigstar.Netplay.GameRAMRollback

/-!
# The ring of checkpoints

Walking around the ring from the next slot meets the invalid slots first and then the valid ones, in
the order of their labels. So a ring is a list of checkpoints, oldest first, and its operations are
operations on that list: a capture appends and drops the oldest if the ring was full, a discard
keeps a part of it, and a lookup finds the last one up to a frame.
-/

namespace Bigstar.Netplay.GameRAMRollback

namespace Nds

variable {S P : Type} {nds : Nds S P} {held : List (GameRAMCheckpoint S)}

/-- The ring holds exactly these checkpoints, oldest first. -/
structure Holds (nds : Nds S P) (held : List (GameRAMCheckpoint S)) : Prop where
  size : nds.checkpoints = [] ∨ nds.checkpoints.length = capacity
  next_lt : nds.nextCheckpoint < capacity
  walk : ∃ free, Ring.walk nds.checkpoints nds.nextCheckpoint = free ++ held ∧
    ∀ c ∈ free, c.valid = false
  valid : ∀ c ∈ held, c.valid = true
  image : ∀ c ∈ held, c.mainRAM.isSome = true
  ordered : held.Pairwise fun a b => a.displayFrame < b.displayFrame
  label_lt : ∀ c ∈ held, c.displayFrame < noDisplayFrame

/-- What a ring holds depends on its slots only. -/
theorem Holds.of_slots_eq {nds' : Nds S P} (h : nds.Holds held)
    (hslots : nds'.checkpoints = nds.checkpoints)
    (hnext : nds'.nextCheckpoint = nds.nextCheckpoint) :
    nds'.Holds held := by
  constructor
  · rw [hslots]
    exact h.size
  · rw [hnext]
    exact h.next_lt
  · rw [hslots, hnext]
    exact h.walk
  · exact h.valid
  · exact h.image
  · exact h.ordered
  · exact h.label_lt

theorem Holds.mem_iff (h : nds.Holds held) {c : GameRAMCheckpoint S} :
    c ∈ held ↔ c ∈ nds.checkpoints ∧ c.valid = true := by
  obtain ⟨free, hwalk, hfree⟩ := h.walk
  have hmem : c ∈ nds.checkpoints ↔ c ∈ free ∨ c ∈ held := by
    rw [← List.mem_append, ← hwalk, Ring.mem_walk]
  constructor
  · intro hc
    exact ⟨hmem.mpr (Or.inr hc), h.valid c hc⟩
  · rintro ⟨hc, hvalid⟩
    rcases hmem.mp hc with hf | hc
    · rw [hfree c hf] at hvalid
      exact absurd hvalid (by simp)
    · exact hc

theorem Holds.length_le (h : nds.Holds held) : held.length ≤ capacity := by
  obtain ⟨free, hwalk, -⟩ := h.walk
  have hlen : free.length + held.length = nds.checkpoints.length := by
    rw [← List.length_append, ← hwalk, Ring.length_walk]
  rcases h.size with hnil | hcap
  · rw [hnil, List.length_nil] at hlen
    omega
  · omega

/-- Two checkpoints of the ring with the same label are the same. -/
theorem Holds.eq_of_label (h : nds.Holds held) {c d : GameRAMCheckpoint S} (hc : c ∈ held)
    (hd : d ∈ held) (hlabel : c.displayFrame = d.displayFrame) : c = d := by
  obtain ⟨i, hi, rfl⟩ := List.getElem_of_mem hc
  obtain ⟨j, hj, rfl⟩ := List.getElem_of_mem hd
  have hord := List.pairwise_iff_getElem.mp h.ordered
  rcases Nat.lt_trichotomy i j with hlt | rfl | hgt
  · have hne := hord i j hi hj hlt
    omega
  · rfl
  · have hne := hord j i hj hi hgt
    omega

/-! ## Capturing -/

theorem Holds.resize (h : nds.Holds held) :
    nds.resizeCheckpoints.Holds held ∧ nds.resizeCheckpoints.checkpoints.length = capacity := by
  unfold resizeCheckpoints
  rcases h.size with hnil | hcap
  · have hheld : held = [] := by
      obtain ⟨free, hwalk, -⟩ := h.walk
      rw [hnil] at hwalk
      exact (List.append_eq_nil_iff.mp hwalk.symm).2
    subst hheld
    rw [if_pos (by simp [hnil, capacity])]
    refine ⟨⟨Or.inr (List.length_replicate ..), by simp [capacity],
      ⟨_, (List.append_nil _).symm, ?_⟩,
      by simp, by simp, List.Pairwise.nil, by simp⟩, List.length_replicate ..⟩
    intro c hc
    rw [Ring.mem_walk] at hc
    rw [List.eq_of_mem_replicate hc]
  · rw [if_neg (by simp [hcap])]
    exact ⟨h, hcap⟩

@[simp]
theorem resizeCheckpoints_mainRAM (nds : Nds S P) :
    nds.resizeCheckpoints.mainRAM = nds.mainRAM := by
  unfold resizeCheckpoints
  split <;> rfl

/-- A capture changes nothing but the ring. -/
theorem exists_captureCheckpointAtGate_eq (guest : Guest S P) (nds : Nds S P) (displayFrame : Nat) :
    ∃ checkpoints next, nds.captureCheckpointAtGate guest displayFrame =
      { nds with checkpoints := checkpoints, nextCheckpoint := next } := by
  unfold captureCheckpointAtGate resizeCheckpoints
  split
  · exact ⟨_, _, rfl⟩
  · exact ⟨_, _, rfl⟩

/-- The checkpoint that a capture of the present state makes. -/
def presentCheckpoint (guest : Guest S P) (nds : Nds S P) (displayFrame : Nat) :
    GameRAMCheckpoint S where
  valid := true
  displayFrame := displayFrame
  gameFrame := guest.gameFrame nds.mainRAM
  mainRAM := some nds.mainRAM

/-- A capture appends the present state, and drops the oldest checkpoint if the ring was full. -/
theorem Holds.capture (h : nds.Holds held) (guest : Guest S P) {displayFrame : Nat}
    (hlabel : displayFrame < noDisplayFrame) (hnew : ∀ c ∈ held, c.displayFrame < displayFrame) :
    (nds.captureCheckpointAtGate guest displayFrame).Holds
      (held.drop (held.length + 1 - capacity) ++ [presentCheckpoint guest nds displayFrame]) := by
  obtain ⟨hr, hlen⟩ := h.resize
  obtain ⟨free, hwalk, hfree⟩ := hr.walk
  have hcount : free.length + held.length = capacity := by
    rw [← List.length_append, ← hwalk, Ring.length_walk, hlen]
  have hkept : ∀ c ∈ held.drop (held.length + 1 - capacity), c ∈ held := fun c hc =>
    List.mem_of_mem_drop hc
  constructor
  · right
    show (List.set _ _ _).length = capacity
    rw [List.length_set, hlen]
  · exact Nat.mod_lt _ (by decide)
  · have hnext : nds.resizeCheckpoints.nextCheckpoint <
        nds.resizeCheckpoints.checkpoints.length := by
      rw [hlen]
      exact hr.next_lt
    have hwritten := Ring.walk_write hnext (presentCheckpoint guest nds displayFrame)
    rw [hlen, hwalk] at hwritten
    have hcaptured : Ring.walk (nds.captureCheckpointAtGate guest displayFrame).checkpoints
        (nds.captureCheckpointAtGate guest displayFrame).nextCheckpoint =
        (free ++ held).tail ++ [presentCheckpoint guest nds displayFrame] := by
      rw [← hwritten]
      simp only [captureCheckpointAtGate, presentCheckpoint, resizeCheckpoints_mainRAM]
    rw [hcaptured]
    cases free with
    | nil =>
      -- the ring was full, and the oldest checkpoint goes
      rw [List.length_nil, Nat.zero_add] at hcount
      refine ⟨[], ?_, by simp⟩
      rw [show held.length + 1 - capacity = 1 by omega, List.nil_append, List.nil_append,
        List.drop_one]
    | cons c free =>
      rw [List.length_cons] at hcount
      refine ⟨free, ?_, fun d hd => hfree d (List.mem_cons_of_mem _ hd)⟩
      rw [show held.length + 1 - capacity = 0 by omega, List.drop_zero, List.cons_append,
        List.tail_cons, List.append_assoc]
  · intro c hc
    rw [List.mem_append, List.mem_singleton] at hc
    rcases hc with hc | rfl
    · exact h.valid c (hkept c hc)
    · rfl
  · intro c hc
    rw [List.mem_append, List.mem_singleton] at hc
    rcases hc with hc | rfl
    · exact h.image c (hkept c hc)
    · rfl
  · rw [List.pairwise_append]
    refine ⟨h.ordered.sublist (List.drop_sublist _ _), List.pairwise_singleton _ _, ?_⟩
    intro c hc d hd
    rw [List.mem_singleton] at hd
    subst hd
    exact hnew c (hkept c hc)
  · intro c hc
    rw [List.mem_append, List.mem_singleton] at hc
    rcases hc with hc | rfl
    · exact h.label_lt c (hkept c hc)
    · exact hlabel

/-! ## Labelling -/

theorem Holds.setCheckpointFrame_of_le (h : nds.Holds held) {frame : Nat}
    (hactive : nds.checkpointTimeline.active = true)
    (hle : nds.checkpointTimeline.logicalFrame ≤ frame) :
    (nds.setCheckpointFrame frame).Holds held := by
  have hkeep : (nds.checkpointTimeline.setLogicalFrame frame).2 = false := by
    simp [CheckpointFrameTimeline.setLogicalFrame, hactive, hle]
  unfold setCheckpointFrame
  split
  · exact h.of_slots_eq rfl rfl
  · next heq =>
    rw [heq] at hkeep
    exact absurd hkeep (by simp)

/-! ## Discarding -/

/-- The checkpoints that a discard invalidates. -/
def Discards (frame : Nat) (c : GameRAMCheckpoint S) : Prop :=
  c.valid = true ∧ frame < c.displayFrame

theorem visit_of_not_discards {frame index : Nat} {c : GameRAMCheckpoint S} (scan : DiscardScan)
    (h : ¬ Discards frame c) : scan.visit frame index c = scan := by
  unfold DiscardScan.visit
  rw [if_pos]
  unfold Discards at h
  cases hv : c.valid
  · simp
  · rw [hv] at h
    simp only [true_and, Nat.not_lt] at h
    simp [h]

theorem visit_of_discards {frame index : Nat} {c : GameRAMCheckpoint S} (scan : DiscardScan)
    (h : Discards frame c) :
    scan.visit frame index c =
      if c.displayFrame < scan.firstDiscardedFrame then
        { discarded := scan.discarded + 1, firstDiscarded := index,
          firstDiscardedFrame := c.displayFrame }
      else { scan with discarded := scan.discarded + 1 } := by
  obtain ⟨hv, hlt⟩ := h
  unfold DiscardScan.visit
  rw [if_neg]
  rw [hv]
  simp only [Bool.not_true, Bool.false_or, decide_eq_true_eq, Nat.not_le]
  exact hlt

/-- The scan counts the discarded slots. -/
theorem discardLoop_discarded (frame : Nat) (slots : List (GameRAMCheckpoint S)) (index : Nat)
    (scan : DiscardScan) :
    (discardLoop frame slots index scan).discarded ≠ 0 ↔
      scan.discarded ≠ 0 ∨ ∃ c ∈ slots, Discards frame c := by
  induction slots generalizing index scan with
  | nil => simp [discardLoop]
  | cons c slots ih =>
    unfold discardLoop
    rw [ih]
    by_cases hc : Discards frame c
    · have hvisit : (scan.visit frame index c).discarded = scan.discarded + 1 := by
        rw [visit_of_discards scan hc]
        split <;> rfl
      simp [hvisit, hc]
    · simp [visit_of_not_discards scan hc, hc]

/-- The scan ends with the smallest label it has seen. -/
theorem discardLoop_firstDiscardedFrame_le (frame : Nat) (slots : List (GameRAMCheckpoint S))
    (index : Nat) (scan : DiscardScan) :
    (discardLoop frame slots index scan).firstDiscardedFrame ≤ scan.firstDiscardedFrame ∧
    ∀ c ∈ slots, Discards frame c →
      (discardLoop frame slots index scan).firstDiscardedFrame ≤ c.displayFrame := by
  induction slots generalizing index scan with
  | nil => simp [discardLoop]
  | cons c slots ih =>
    unfold discardLoop
    obtain ⟨hle, hmin⟩ := ih (index + 1) (scan.visit frame index c)
    have hvisit : (scan.visit frame index c).firstDiscardedFrame ≤ scan.firstDiscardedFrame ∧
        (Discards frame c → (scan.visit frame index c).firstDiscardedFrame ≤ c.displayFrame) := by
      by_cases hc : Discards frame c
      · rw [visit_of_discards scan hc]
        split
        · next hlt => exact ⟨Nat.le_of_lt hlt, fun _ => Nat.le_refl _⟩
        · next hge => exact ⟨Nat.le_refl _, fun _ => Nat.le_of_not_lt hge⟩
      · rw [visit_of_not_discards scan hc]
        exact ⟨Nat.le_refl _, fun h => absurd h hc⟩
    refine ⟨Nat.le_trans hle hvisit.1, ?_⟩
    intro d hd hdis
    rcases List.mem_cons.mp hd with rfl | hd
    · exact Nat.le_trans hle (hvisit.2 hdis)
    · exact hmin d hd hdis

/-- The slot that the scan ends with is the one of the smallest label. -/
theorem discardLoop_firstDiscarded (frame : Nat) (slots : List (GameRAMCheckpoint S)) (index : Nat)
    (scan : DiscardScan) :
    ((discardLoop frame slots index scan).firstDiscardedFrame = scan.firstDiscardedFrame ∧
      (discardLoop frame slots index scan).firstDiscarded = scan.firstDiscarded) ∨
    ∃ j c, slots[j]? = some c ∧ Discards frame c ∧
      (discardLoop frame slots index scan).firstDiscarded = index + j ∧
      (discardLoop frame slots index scan).firstDiscardedFrame = c.displayFrame := by
  induction slots generalizing index scan with
  | nil => exact Or.inl ⟨rfl, rfl⟩
  | cons c slots ih =>
    unfold discardLoop
    rcases ih (index + 1) (scan.visit frame index c) with
      ⟨hlabel, hfirst⟩ | ⟨j, d, hj, hd, hfirst, hlabel⟩
    · rw [hlabel, hfirst]
      by_cases hc : Discards frame c
      · rw [visit_of_discards scan hc]
        split
        · exact Or.inr ⟨0, c, rfl, hc, rfl, rfl⟩
        · exact Or.inl ⟨rfl, rfl⟩
      · rw [visit_of_not_discards scan hc]
        exact Or.inl ⟨rfl, rfl⟩
    · refine Or.inr ⟨j + 1, d, ?_, hd, ?_, hlabel⟩
      · rw [List.getElem?_cons_succ]
        exact hj
      · rw [hfirst]
        omega

theorem discardCheckpoint_of_discards {frame : Nat} {c : GameRAMCheckpoint S}
    (h : Discards frame c) :
    discardCheckpoint frame c = { c with valid := false } := by
  obtain ⟨hv, hlt⟩ := h
  unfold discardCheckpoint
  rw [if_neg]
  rw [hv]
  simp only [Bool.not_true, Bool.false_or, decide_eq_true_eq, Nat.not_le]
  exact hlt

theorem discardCheckpoint_of_not_discards {frame : Nat} {c : GameRAMCheckpoint S}
    (h : ¬ Discards frame c) : discardCheckpoint frame c = c := by
  unfold discardCheckpoint Discards at *
  cases hv : c.valid
  · simp
  · rw [hv] at h
    simp only [true_and, Nat.not_lt] at h
    simp [h]

theorem map_discardCheckpoint_of_not_discards {frame : Nat} {slots : List (GameRAMCheckpoint S)}
    (h : ∀ c ∈ slots, ¬ Discards frame c) : slots.map (discardCheckpoint frame) = slots := by
  have hid : ∀ c ∈ slots, discardCheckpoint frame c = id c := fun c hc =>
    discardCheckpoint_of_not_discards (h c hc)
  rw [List.map_congr_left hid, List.map_id]

theorem discard_next_of_none {frame : Nat} (h : ∀ c ∈ nds.checkpoints, ¬ Discards frame c) :
    (nds.discardCheckpointsAfter frame).nextCheckpoint = nds.nextCheckpoint := by
  have hscan : ¬ (discardLoop frame nds.checkpoints 0
      { firstDiscarded := nds.nextCheckpoint }).discarded ≠ 0 := by
    rw [discardLoop_discarded]
    rintro (hz | ⟨c, hc, hdis⟩)
    · exact hz rfl
    · exact h c hc hdis
  exact if_neg hscan

/-- If anything is discarded, the next slot is that of the smallest discarded label. -/
theorem discard_next_of_some {frame : Nat} {d : GameRAMCheckpoint S} (hd : d ∈ nds.checkpoints)
    (hdis : Discards frame d) (hlt : d.displayFrame < noDisplayFrame) :
    ∃ y, nds.checkpoints[(nds.discardCheckpointsAfter frame).nextCheckpoint]? = some y ∧
      Discards frame y ∧ ∀ c ∈ nds.checkpoints, Discards frame c →
        y.displayFrame ≤ c.displayFrame := by
  let scan := discardLoop frame nds.checkpoints 0 { firstDiscarded := nds.nextCheckpoint }
  have hscan : scan.discarded ≠ 0 := by
    rw [discardLoop_discarded]
    exact Or.inr ⟨d, hd, hdis⟩
  have hnext : (nds.discardCheckpointsAfter frame).nextCheckpoint = scan.firstDiscarded :=
    if_pos hscan
  have hmin := (discardLoop_firstDiscardedFrame_le frame nds.checkpoints 0
    { firstDiscarded := nds.nextCheckpoint }).2
  rcases discardLoop_firstDiscarded frame nds.checkpoints 0
      { firstDiscarded := nds.nextCheckpoint } with ⟨hlabel, -⟩ | ⟨j, y, hj, hy, hfirst, hlabel⟩
  · have hle := hmin d hd hdis
    rw [hlabel] at hle
    exact absurd hlt (Nat.not_lt.mpr hle)
  · refine ⟨y, ?_, hy, ?_⟩
    · rw [hnext, hfirst, Nat.zero_add]
      exact hj
    · intro c hc hcd
      rw [← hlabel]
      exact hmin c hc hcd

/-- In an ordered ring the checkpoints up to a frame come before the others. -/
theorem filter_append_of_ordered {held : List (GameRAMCheckpoint S)} (frame : Nat)
    (h : held.Pairwise fun a b => a.displayFrame < b.displayFrame) :
    held.filter (fun c => c.displayFrame ≤ frame) ++
      held.filter (fun c => !decide (c.displayFrame ≤ frame)) = held := by
  induction held with
  | nil => rfl
  | cons c held ih =>
    rw [List.pairwise_cons] at h
    by_cases hc : c.displayFrame ≤ frame
    · simp only [List.filter_cons, hc, decide_true, if_true, Bool.not_true, Bool.false_eq_true,
        if_false, List.cons_append]
      rw [ih h.2]
    · have hnone : held.filter (fun c => decide (c.displayFrame ≤ frame)) = [] := by
        rw [List.filter_eq_nil_iff]
        intro d hd
        have hlt := h.1 d hd
        simp only [decide_eq_true_eq]
        omega
      have hall := ih h.2
      rw [hnone, List.nil_append] at hall
      simp only [List.filter_cons, hc, decide_false, Bool.false_eq_true, if_false, Bool.not_false,
        if_true]
      rw [hnone, hall, List.nil_append]

/-- A discard keeps the checkpoints up to the frame. -/
theorem Holds.discard (h : nds.Holds held) (frame : Nat) :
    (nds.discardCheckpointsAfter frame).Holds (held.filter fun c => c.displayFrame ≤ frame) := by
  obtain ⟨free, hwalk, hfree⟩ := h.walk
  have hsplit := filter_append_of_ordered frame h.ordered
  have hordered := h.ordered
  rw [← hsplit] at hordered
  generalize hkeep : held.filter (fun c => decide (c.displayFrame ≤ frame)) = keep at *
  generalize hgone : held.filter (fun c => !decide (c.displayFrame ≤ frame)) = gone at *
  have hkeep_mem : ∀ c ∈ keep, c ∈ held ∧ c.displayFrame ≤ frame := by
    intro c hc
    rw [← hkeep, List.mem_filter] at hc
    simpa using hc
  have hgone_mem : ∀ c ∈ gone, c ∈ held ∧ Discards frame c := by
    intro c hc
    rw [← hgone, List.mem_filter] at hc
    simp only [Bool.not_eq_true', decide_eq_false_iff_not, Nat.not_le] at hc
    exact ⟨hc.1, h.valid c hc.1, hc.2⟩
  have hmap_free : free.map (discardCheckpoint frame) = free := by
    apply map_discardCheckpoint_of_not_discards
    intro c hc hdis
    exact absurd hdis.1 (by simp [hfree c hc])
  have hmap_keep : keep.map (discardCheckpoint frame) = keep := by
    apply map_discardCheckpoint_of_not_discards
    intro c hc hdis
    exact absurd hdis.2 (Nat.not_lt.mpr (hkeep_mem c hc).2)
  have hmap_gone : ∀ c ∈ gone.map (discardCheckpoint frame), c.valid = false := by
    intro c hc
    obtain ⟨d, hd, rfl⟩ := List.mem_map.mp hc
    rw [discardCheckpoint_of_discards (hgone_mem d hd).2]
  have hnext_walk : ∃ free', Ring.walk (nds.discardCheckpointsAfter frame).checkpoints
      (nds.discardCheckpointsAfter frame).nextCheckpoint = free' ++ keep ∧
      (∀ c ∈ free', c.valid = false) ∧
      (nds.discardCheckpointsAfter frame).nextCheckpoint < capacity := by
    have hslots : (nds.discardCheckpointsAfter frame).checkpoints =
        nds.checkpoints.map (discardCheckpoint frame) := rfl
    rw [hslots, Ring.walk_map]
    cases gone with
    | nil =>
      rw [List.append_nil] at hsplit
      have hnone : ∀ c ∈ nds.checkpoints, ¬ Discards frame c := by
        intro c hc hdis
        have hmem := h.mem_iff.mpr ⟨hc, hdis.1⟩
        rw [← hsplit] at hmem
        exact absurd hdis.2 (Nat.not_lt.mpr (hkeep_mem c hmem).2)
      rw [discard_next_of_none hnone, hwalk, ← hsplit, List.map_append, hmap_free, hmap_keep]
      exact ⟨free, rfl, hfree, h.next_lt⟩
    | cons d gone =>
      obtain ⟨hd, hddis⟩ := hgone_mem d List.mem_cons_self
      obtain ⟨y, hy, hydis, hmin⟩ :=
        discard_next_of_some (h.mem_iff.mp hd).1 hddis (h.label_lt d hd)
      have hlt := List.pairwise_append.mp hordered
      have hrest := List.pairwise_cons.mp hlt.2.1
      -- the slot found is that of `d`, the oldest checkpoint that goes
      have hyd : y.displayFrame = d.displayFrame := by
        have hle := hmin d (h.mem_iff.mp hd).1 hddis
        have hmem := h.mem_iff.mpr ⟨List.mem_of_getElem? hy, hydis.1⟩
        rw [← hsplit, List.mem_append, List.mem_cons] at hmem
        rcases hmem with hk | rfl | hg
        · exact absurd hydis.2 (Nat.not_lt.mpr (hkeep_mem y hk).2)
        · rfl
        · have := hrest.1 y hg
          omega
      have hround : Ring.walk nds.checkpoints (nds.discardCheckpointsAfter frame).nextCheckpoint =
          d :: gone ++ (free ++ keep) := by
        have hwalk_d : Ring.walk nds.checkpoints nds.nextCheckpoint =
            (free ++ keep) ++ d :: gone := by
          rw [hwalk, ← hsplit, List.append_assoc]
        have hfull : nds.nextCheckpoint < nds.checkpoints.length := by
          rcases h.size with hnil | hcap
          · rw [hnil] at hy
            exact absurd hy (by simp)
          · rw [hcap]
            exact h.next_lt
        refine Ring.walk_from (fun z => z.valid = true ∧ z.displayFrame = d.displayFrame) hwalk_d
          hfull
          hy ⟨hydis.1, hyd⟩ ?_ ?_
        · rintro z hz ⟨hzv, hzd⟩
          rcases List.mem_append.mp hz with hzf | hzk
          · rw [hfree z hzf] at hzv
            exact absurd hzv (by simp)
          · have := hlt.2.2 z hzk d List.mem_cons_self
            omega
        · rintro z hz ⟨-, hzd⟩
          have := hrest.1 z hz
          omega
      rw [hround]
      refine ⟨(d :: gone).map (discardCheckpoint frame) ++ free, ?_, ?_, ?_⟩
      · rw [List.map_append, List.map_append, hmap_free, hmap_keep, List.append_assoc]
      · intro c hc
        rcases List.mem_append.mp hc with hg | hf
        · exact hmap_gone c hg
        · exact hfree c hf
      · obtain ⟨hbound, -⟩ := List.getElem?_eq_some_iff.mp hy
        rcases h.size with hnil | hcap
        · rw [hnil] at hy
          exact absurd hy (by simp)
        · omega
  obtain ⟨free', hwalk', hfree', hnext⟩ := hnext_walk
  constructor
  · rcases h.size with hnil | hcap
    · left
      show nds.checkpoints.map _ = []
      rw [hnil]
      rfl
    · right
      show (nds.checkpoints.map _).length = capacity
      rw [List.length_map, hcap]
  · exact hnext
  · exact ⟨free', hwalk', hfree'⟩
  · exact fun c hc => h.valid c (hkeep_mem c hc).1
  · exact fun c hc => h.image c (hkeep_mem c hc).1
  · exact (List.pairwise_append.mp hordered).1
  · exact fun c hc => h.label_lt c (hkeep_mem c hc).1

/-! ## Looking up -/

/-- The checkpoints that a lookup considers. -/
def Eligible (frame : Nat) (c : GameRAMCheckpoint S) : Prop :=
  c.valid = true ∧ c.mainRAM.isSome = true ∧ c.displayFrame ≤ frame

theorem betterCheckpoint_of_not_eligible {frame : Nat} {c : GameRAMCheckpoint S}
    (best : Option (GameRAMCheckpoint S)) (h : ¬ Eligible frame c) :
    betterCheckpoint frame best c = best := by
  unfold betterCheckpoint
  rw [if_pos]
  unfold Eligible at h
  cases hv : c.valid <;> cases hi : c.mainRAM <;> simp_all

theorem betterCheckpoint_of_eligible {frame : Nat} {c : GameRAMCheckpoint S}
    (best : Option (GameRAMCheckpoint S)) (h : Eligible frame c) :
    betterCheckpoint frame best c =
      match best with
      | none => some c
      | some found => if found.displayFrame < c.displayFrame then some c else best := by
  obtain ⟨hv, hi, hle⟩ := h
  have hnone : c.mainRAM.isNone = false := by
    cases hm : c.mainRAM with
    | none =>
      rw [hm] at hi
      exact absurd hi (by simp)
    | some image => rfl
  have hguard : ¬ (!c.valid || c.mainRAM.isNone || decide (frame < c.displayFrame)) = true := by
    simp only [hv, hnone, Bool.not_true, Bool.or_self, Bool.false_or, decide_eq_true_eq]
    omega
  unfold betterCheckpoint
  cases best with
  | none => exact if_neg hguard
  | some found => exact if_neg hguard

/-- The search ends with an eligible checkpoint whose label no other exceeds. -/
theorem foldl_betterCheckpoint (frame : Nat) (slots : List (GameRAMCheckpoint S))
    (best : Option (GameRAMCheckpoint S)) :
    (slots.foldl (betterCheckpoint frame) best = best ∨
      ∃ c ∈ slots, Eligible frame c ∧ slots.foldl (betterCheckpoint frame) best = some c) ∧
    (∀ b, best = some b → ∃ c, slots.foldl (betterCheckpoint frame) best = some c ∧
      b.displayFrame ≤ c.displayFrame) ∧
    ∀ b ∈ slots, Eligible frame b → ∃ c, slots.foldl (betterCheckpoint frame) best = some c ∧
      b.displayFrame ≤ c.displayFrame := by
  induction slots generalizing best with
  | nil => exact ⟨Or.inl rfl, fun b hb => ⟨b, hb, Nat.le_refl _⟩, by simp⟩
  | cons c slots ih =>
    rw [List.foldl_cons]
    obtain ⟨hfrom, hbest, hmax⟩ := ih (betterCheckpoint frame best c)
    by_cases hc : Eligible frame c
    · -- the round leaves a label at least that of `c` and that of the best so far
      obtain ⟨b', hb', hcb, hbb, hor⟩ : ∃ b', betterCheckpoint frame best c = some b' ∧
          c.displayFrame ≤ b'.displayFrame ∧
          (∀ b, best = some b → b.displayFrame ≤ b'.displayFrame) ∧
          (b' = c ∨ best = some b') := by
        rw [betterCheckpoint_of_eligible best hc]
        cases best with
        | none => exact ⟨c, rfl, Nat.le_refl _, by simp, Or.inl rfl⟩
        | some found =>
          dsimp only
          split
          · next hlt => exact ⟨c, rfl, Nat.le_refl _, by simp; omega, Or.inl rfl⟩
          · next hge => exact ⟨found, rfl, by omega, by simp, Or.inr rfl⟩
      obtain ⟨r, hr, hbr⟩ := hbest b' hb'
      refine ⟨?_, ?_, ?_⟩
      · rcases hfrom with hsame | ⟨d, hd, hdel, hdr⟩
        · rcases hor with rfl | hbest'
          · exact Or.inr ⟨b', List.mem_cons_self, hc, by rw [hsame, hb']⟩
          · exact Or.inl (by rw [hsame, hb', hbest'])
        · exact Or.inr ⟨d, List.mem_cons_of_mem _ hd, hdel, hdr⟩
      · intro b hb
        exact ⟨r, hr, Nat.le_trans (hbb b hb) hbr⟩
      · intro b hb hel
        rcases List.mem_cons.mp hb with rfl | hb
        · exact ⟨r, hr, Nat.le_trans hcb hbr⟩
        · exact hmax b hb hel
    · rw [betterCheckpoint_of_not_eligible best hc] at hfrom hbest hmax ⊢
      refine ⟨?_, hbest, ?_⟩
      · rcases hfrom with hsame | ⟨d, hd, hdel, hdr⟩
        · exact Or.inl hsame
        · exact Or.inr ⟨d, List.mem_cons_of_mem _ hd, hdel, hdr⟩
      · intro b hb hel
        rcases List.mem_cons.mp hb with rfl | hb
        · exact absurd hel hc
        · exact hmax b hb hel

/-- A lookup finds a checkpoint of the ring at or before the frame. -/
theorem Holds.copy_mem (h : nds.Holds held) {frame : Nat} {c : GameRAMCheckpoint S}
    (hc : nds.copyCheckpointAtOrBefore frame = some c) : c ∈ held ∧ c.displayFrame ≤ frame := by
  unfold copyCheckpointAtOrBefore at hc
  rcases (foldl_betterCheckpoint frame nds.checkpoints none).1 with hnone | ⟨d, hd, hel, hdr⟩
  · rw [hnone] at hc
    exact absurd hc (by simp)
  · rw [hdr] at hc
    obtain rfl := Option.some.inj hc
    exact ⟨h.mem_iff.mpr ⟨hd, hel.1⟩, hel.2.2⟩

/-- A lookup for a frame of the ring finds the checkpoint of that frame. -/
theorem Holds.copy_eq (h : nds.Holds held) {c : GameRAMCheckpoint S} (hc : c ∈ held) :
    nds.copyCheckpointAtOrBefore c.displayFrame = some c := by
  have hel : Eligible c.displayFrame c := ⟨h.valid c hc, h.image c hc, Nat.le_refl _⟩
  obtain ⟨r, hr, hle⟩ := (foldl_betterCheckpoint c.displayFrame nds.checkpoints none).2.2 c
    (h.mem_iff.mp hc).1 hel
  have hcopy : nds.copyCheckpointAtOrBefore c.displayFrame = some r := hr
  obtain ⟨hmem, hge⟩ := h.copy_mem hcopy
  rw [hcopy, h.eq_of_label hmem hc (Nat.le_antisymm hge hle)]

end Nds

end Bigstar.Netplay.GameRAMRollback
