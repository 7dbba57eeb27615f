import Bigstar.Lib.Run
import Bigstar.Netplay.Proofs.CheckpointRingProofs
import Mathlib.Data.List.DropRight

/-!
# The ring of checkpoints as a map

What the ring is for is a map from labels to captures, which forgets the oldest capture when it has
become too large. The ring refines this map under every sequence of its operations.
-/

namespace Bigstar.Netplay.GameRAMRollback

/-- The operations on the ring. A capture comes with the main RAM at that time. -/
inductive RingOp (S : Type) where
  | setFrame (logicalFrame : Nat)
  | capture (displayFrame : Nat) (mainRAM : S)
  | discard (frame : Nat)

/-! ## The map -/

/-- The captures by their labels, in ascending order. -/
structure CaptureMap (S : Type) where
  timeline : CheckpointFrameTimeline := {}
  captures : List (GameRAMCheckpoint S) := []

namespace CaptureMap

variable {S P : Type}

/-- One operation on the map of captures. -/
def step (guest : Guest S P) (m : CaptureMap S) : RingOp S → CaptureMap S
  | .setFrame logicalFrame =>
    let reset := m.timeline.setLogicalFrame logicalFrame
    { timeline := reset.1, captures := if reset.2 then [] else m.captures }
  | .capture displayFrame mainRAM =>
    let capture : GameRAMCheckpoint S :=
      { valid := true, displayFrame, gameFrame := guest.gameFrame mainRAM, mainRAM := some mainRAM }
    { m with captures := (m.captures ++ [capture]).rtake capacity }
  | .discard frame => { m with captures := m.captures.filter fun c => c.displayFrame ≤ frame }

/-- The latest capture up to a frame. -/
def atOrBefore (m : CaptureMap S) (frame : Nat) : Option (GameRAMCheckpoint S) :=
  (m.captures.filter fun c => c.displayFrame ≤ frame).getLast?

end CaptureMap

/-! ## The ring -/

namespace Nds

variable {S P : Type}

/-- The same operation on the ring; `none` where it does not apply. -/
def ringStep (guest : Guest S P) (nds : Nds S P) : RingOp S → Option (Nds S P)
  | .setFrame logicalFrame => some (nds.setCheckpointFrame logicalFrame)
  | .capture displayFrame mainRAM =>
    some ({ nds with mainRAM }.captureCheckpointAtGate guest displayFrame)
  | .discard frame => some (nds.discardCheckpointsAfter frame)

/-- The label of a capture exceeds every valid label, and is not the number of no frame. -/
def Labels (nds : Nds S P) : RingOp S → Prop
  | .capture displayFrame _ => displayFrame < noDisplayFrame ∧
      ∀ c ∈ nds.checkpoints, c.valid = true → c.displayFrame < displayFrame
  | _ => True

instance (nds : Nds S P) (op : RingOp S) : Decidable (nds.Labels op) :=
  match op with
  | .capture displayFrame _ => inferInstanceAs (Decidable (displayFrame < noDisplayFrame ∧
      ∀ c ∈ nds.checkpoints, c.valid = true → c.displayFrame < displayFrame))
  | .setFrame _ => inferInstanceAs (Decidable True)
  | .discard _ => inferInstanceAs (Decidable True)

/-- The ring answers as the map does, and its next slot is the one to overwrite. -/
structure Represents (nds : Nds S P) (m : CaptureMap S) : Prop where
  distinct : ((nds.checkpoints.filter fun c => c.valid).map fun c => c.displayFrame).Nodup
  walk : ∃ free held, Ring.walk nds.checkpoints nds.nextCheckpoint = free ++ held ∧
    (∀ c ∈ free, c.valid = false) ∧ (∀ c ∈ held, c.valid = true) ∧
    held.Pairwise fun a b => a.displayFrame < b.displayFrame
  overwrites : ∀ c, nds.checkpoints[nds.nextCheckpoint]? = some c →
    c.valid = false ∨ ∀ d ∈ nds.checkpoints, d.valid = true → c.displayFrame ≤ d.displayFrame
  copies : ∀ frame, nds.copyCheckpointAtOrBefore frame = m.atOrBefore frame

variable {nds : Nds S P} {held : List (GameRAMCheckpoint S)}

theorem Holds.setCheckpointFrame (h : nds.Holds held) (frame : Nat) :
    (nds.setCheckpointFrame frame).Holds
      (if (nds.checkpointTimeline.setLogicalFrame frame).2 then [] else held) := by
  unfold Nds.setCheckpointFrame
  split
  · next heq =>
    rw [heq]
    exact h.of_slots_eq rfl rfl
  · next timeline heq =>
    rw [heq]
    refine ⟨?_, Nat.zero_lt_succ 15, ⟨_, (List.append_nil _).symm, ?_⟩, by simp, by simp,
      List.Pairwise.nil, by simp⟩
    · rcases h.size with hnil | hlength
      · exact .inl (by simp [hnil])
      · exact .inr (by simp [hlength])
    · intro c hc
      rw [Ring.mem_walk] at hc
      obtain ⟨d, -, rfl⟩ := List.mem_map.mp hc
      rfl

theorem setCheckpointFrame_timeline (nds : Nds S P) (frame : Nat) :
    (nds.setCheckpointFrame frame).checkpointTimeline =
      (nds.checkpointTimeline.setLogicalFrame frame).1 := by
  unfold Nds.setCheckpointFrame
  split <;> next heq => rw [heq]

/-- The slots in the order of the walk. -/
theorem Holds.filter_perm (h : nds.Holds held) :
    (nds.checkpoints.filter fun c => c.valid).Perm held := by
  obtain ⟨free, hwalk, hfree⟩ := h.walk
  have hperm : (Ring.walk nds.checkpoints nds.nextCheckpoint).Perm nds.checkpoints :=
    List.rotate_perm _ _
  have hfilter := (hperm.filter fun c => c.valid).symm
  rw [hwalk, List.filter_append] at hfilter
  have hnone : free.filter (fun c => c.valid) = [] := by
    refine List.filter_eq_nil_iff.mpr ?_
    intro c hc
    rw [hfree c hc]
    exact Bool.false_ne_true
  have hall : held.filter (fun c => c.valid) = held := List.filter_eq_self.mpr h.valid
  rwa [hnone, hall, List.nil_append] at hfilter

theorem Holds.distinct (h : nds.Holds held) :
    ((nds.checkpoints.filter fun c => c.valid).map fun c => c.displayFrame).Nodup := by
  refine (h.filter_perm.map _).nodup_iff.mpr ?_
  refine List.pairwise_map.mpr (h.ordered.imp ?_)
  intro a b hlt
  exact Nat.ne_of_lt hlt

theorem Holds.overwrites (h : nds.Holds held) {c : GameRAMCheckpoint S}
    (hc : nds.checkpoints[nds.nextCheckpoint]? = some c) :
    c.valid = false ∨ ∀ d ∈ nds.checkpoints, d.valid = true → c.displayFrame ≤ d.displayFrame := by
  obtain ⟨free, hwalk, hfree⟩ := h.walk
  have hlt := (List.getElem?_eq_some_iff.mp hc).1
  have hhead : (free ++ held)[0]? = some c := by
    rw [← hwalk, Ring.walk, List.getElem?_rotate (by omega), Nat.zero_add, Nat.mod_eq_of_lt hlt]
    exact hc
  cases free with
  | cons first free =>
    rw [List.cons_append, List.getElem?_cons_zero] at hhead
    cases hhead
    exact .inl (hfree _ List.mem_cons_self)
  | nil =>
    rw [List.nil_append] at hhead
    refine .inr fun d hd hvalid => ?_
    have hmem := h.mem_iff.mpr ⟨hd, hvalid⟩
    cases held with
    | nil => cases hhead
    | cons first rest =>
      rw [List.getElem?_cons_zero] at hhead
      cases hhead
      rcases List.mem_cons.mp hmem with rfl | hrest
      · exact Nat.le_refl _
      · exact Nat.le_of_lt (List.rel_of_pairwise_cons h.ordered hrest)

theorem Holds.copies (h : nds.Holds held) (frame : Nat) :
    nds.copyCheckpointAtOrBefore frame =
      (held.filter fun c => c.displayFrame ≤ frame).getLast? := by
  cases hlast : (held.filter fun c => c.displayFrame ≤ frame).getLast? with
  | none =>
    rw [List.getLast?_eq_none_iff, List.filter_eq_nil_iff] at hlast
    refine Option.eq_none_iff_forall_ne_some.mpr fun c hc => ?_
    obtain ⟨hmem, hle⟩ := h.copy_mem hc
    exact hlast c hmem (decide_eq_true hle)
  | some last =>
    obtain ⟨hmem, hle⟩ := List.mem_filter.mp (List.mem_of_getLast? hlast)
    have hel : Eligible frame last := ⟨h.valid last hmem, h.image last hmem, of_decide_eq_true hle⟩
    obtain ⟨r, hr, hler⟩ := (foldl_betterCheckpoint frame nds.checkpoints none).2.2 last
      (h.mem_iff.mp hmem).1 hel
    have hcopy : nds.copyCheckpointAtOrBefore frame = some r := hr
    obtain ⟨hrmem, hrle⟩ := h.copy_mem hcopy
    -- no capture up to the frame comes after the last one
    have hge : r.displayFrame ≤ last.displayFrame := by
      obtain ⟨before, hbefore⟩ := List.getLast?_eq_some_iff.mp hlast
      have hin : r ∈ before ++ [last] := by
        rw [← hbefore]
        exact List.mem_filter.mpr ⟨hrmem, decide_eq_true hrle⟩
      have hordered := h.ordered.filter fun c => decide (c.displayFrame ≤ frame)
      rw [hbefore] at hordered
      rcases List.mem_append.mp hin with hbef | hone
      · exact Nat.le_of_lt ((List.pairwise_append.mp hordered).2.2 r hbef last List.mem_cons_self)
      · rw [List.mem_singleton.mp hone]
    rw [hcopy, h.eq_of_label hrmem hmem (Nat.le_antisymm hge hler)]

/-- The ring holds the captures of the map. -/
structure Refines (nds : Nds S P) (m : CaptureMap S) : Prop where
  holds : nds.Holds m.captures
  timeline : nds.checkpointTimeline = m.timeline

theorem Refines.represents {m : CaptureMap S} (h : Refines nds m) : Represents nds m := by
  obtain ⟨free, hwalk, hfree⟩ := h.holds.walk
  exact ⟨h.holds.distinct, ⟨free, m.captures, hwalk, hfree, h.holds.valid, h.holds.ordered⟩,
    fun _ hc => h.holds.overwrites hc, h.holds.copies⟩

theorem Refines.ringStep {guest : Guest S P} {m : CaptureMap S} (h : Refines nds m) {op : RingOp S}
    (hop : nds.Labels op) {nds' : Nds S P} (hstep : nds.ringStep guest op = some nds') :
    Refines nds' (m.step guest op) := by
  cases op with
  | setFrame logicalFrame =>
    cases hstep
    constructor
    · have hset := h.holds.setCheckpointFrame logicalFrame
      rwa [h.timeline] at hset
    · rw [setCheckpointFrame_timeline, h.timeline]
      rfl
  | capture displayFrame mainRAM =>
    cases hstep
    constructor
    · have hholds : Nds.Holds { nds with mainRAM } m.captures := h.holds.of_slots_eq rfl rfl
      have hcapture := hholds.capture guest hop.1 fun c hc =>
        hop.2 c (h.holds.mem_iff.mp hc).1 (h.holds.valid c hc)
      have hlast :
        (m.captures ++ [presentCheckpoint guest { nds with mainRAM } displayFrame]).rtake capacity =
          m.captures.drop (m.captures.length + 1 - capacity) ++
            [presentCheckpoint guest { nds with mainRAM } displayFrame] := by
        rw [List.rtake, List.length_append, List.length_singleton,
          List.drop_append_of_le_length (by rw [capacity]; omega)]
      rw [← hlast] at hcapture
      exact hcapture
    · obtain ⟨checkpoints, next, heq⟩ :=
        exists_captureCheckpointAtGate_eq guest { nds with mainRAM } displayFrame
      rw [heq]
      exact h.timeline
  | discard frame =>
    cases hstep
    exact ⟨h.holds.discard frame, h.timeline⟩

theorem Refines.run {guest : Guest S P} {ops : List (RingOp S)}
    {nds₀ nds : Nds S P} {m : CaptureMap S}
    (h : Refines nds₀ m) (halong : Run.Along (Nds.ringStep guest) Labels nds₀ ops)
    (hrun : Run.run (Nds.ringStep guest) nds₀ ops = some nds) :
    Refines nds (ops.foldl (CaptureMap.step guest) m) := by
  induction ops generalizing nds₀ m with
  | nil =>
    cases hrun
    exact h
  | cons op ops ih =>
    obtain ⟨nds₁, hstep, hrun⟩ := Run.run_cons_eq_some hrun
    exact ih (h.ringStep halong.1 hstep) (halong.2 nds₁ hstep) hrun

/-- The ring before its first use. -/
structure Unused (nds : Nds S P) : Prop where
  checkpoints : nds.checkpoints = []
  next : nds.nextCheckpoint = 0
  timeline : nds.checkpointTimeline = {}

/-- After every sequence of operations the ring represents the map. -/
theorem ring_represents_map (guest : Guest S P) {nds₀ nds : Nds S P} (hunused : nds₀.Unused)
    (ops : List (RingOp S)) (hlabels : Run.Along (ringStep guest) Labels nds₀ ops)
    (hrun : Run.run (ringStep guest) nds₀ ops = some nds) :
    nds.Represents (ops.foldl (CaptureMap.step guest) {}) := by
  have hstart : Refines nds₀ ({} : CaptureMap S) := by
    refine ⟨⟨.inl hunused.checkpoints, ?_, ⟨[], ?_, by simp⟩, by simp, by simp,
      List.Pairwise.nil, by simp⟩,
      hunused.timeline⟩
    · rw [hunused.next]
      exact Nat.zero_lt_succ 15
    · rw [hunused.checkpoints]
      rfl
  exact (hstart.run hlabels hrun).represents

/-- Twenty captures in a row. -/
def twentyCaptures : List (RingOp Nat) :=
  (List.range' 1 20).map fun frame => .capture frame (100 + frame)

/-- A game whose main RAM is the number of its ticks. -/
def tickingGuest : Guest Nat Unit where
  tick s _ := s + 1
  gameFrame s := s

/-- The ring after some operations. -/
def ringAfter (ops : List (RingOp Nat)) : Nds Nat Unit :=
  Run.final (ringStep tickingGuest) { mainRAM := 0, scratch := () } ops

/-- A correction goes back by ten frames. -/
def correctedCaptures : List (RingOp Nat) :=
  .setFrame 1 :: twentyCaptures ++ [.discard 10, .capture 11 211]

theorem ring_represents_map_correctedCaptures :
    (ringAfter correctedCaptures).Represents
      (correctedCaptures.foldl (CaptureMap.step tickingGuest) {}) := by
  have hrun : (Run.run (ringStep tickingGuest)
      { mainRAM := 0, scratch := () } correctedCaptures).isSome := by
    decide +kernel
  exact ring_represents_map tickingGuest ⟨rfl, rfl, rfl⟩ correctedCaptures (by decide +kernel)
    (Run.run_eq_final _ _ _ hrun)

/-- All captures, each with whether a discard or a new timeline has dropped it since. -/
structure CaptureLog where
  timeline : CheckpointFrameTimeline := {}
  captures : List (Nat × Bool) := []

/-- One operation on the log. -/
def CaptureLog.step (log : CaptureLog) : RingOp Nat → CaptureLog
  | .setFrame logicalFrame =>
    let reset := log.timeline.setLogicalFrame logicalFrame
    { timeline := reset.1, captures := log.captures.map fun c => (c.1, c.2 && !reset.2) }
  | .capture displayFrame _ => { log with captures := log.captures ++ [(displayFrame, true)] }
  | .discard frame => { log with captures := log.captures.map fun c => (c.1, c.2 && c.1 ≤ frame) }

/-- The captures of a log that are left. -/
def CaptureLog.kept (log : List (Nat × Bool)) : List (Nat × Bool) := log.filter fun c => c.2

/-- The latest label up to a frame. -/
def CaptureLog.atOrBefore (log : List (Nat × Bool)) (frame : Nat) : Option Nat :=
  ((log.filter fun c => c.1 ≤ frame).getLast?).map Prod.fst

/-- The log after a sequence of operations. -/
def logAfter (ops : List (RingOp Nat)) : List (Nat × Bool) :=
  (ops.foldl CaptureLog.step {}).captures

/-- Counting captures does not describe the ring: it has lost captures that later ones overwrote
although those were discarded, and it keeps captures that are followed by 16 others of which some
were discarded. A capture labelled with the number of no frame is discarded without moving the next
slot back. -/
theorem ring_is_no_window :
    (((ringAfter (twentyCaptures ++ [.discard 10])).copyCheckpointAtOrBefore 3).map fun c =>
      c.displayFrame) ≠
        CaptureLog.atOrBefore
          ((CaptureLog.kept (logAfter (twentyCaptures ++ [.discard 10]))).rtake 16) 3 ∧
      (((ringAfter (twentyCaptures ++ [.discard 10, .capture 11 0, .capture 12 0, .capture 13 0])
          ).copyCheckpointAtOrBefore 6).map fun c => c.displayFrame) ≠
        CaptureLog.atOrBefore (CaptureLog.kept ((logAfter (twentyCaptures ++
          [.discard 10, .capture 11 0, .capture 12 0, .capture 13 0])).rtake 16)) 6 ∧
      (Ring.walk
        (ringAfter (twentyCaptures.take 15 ++ [.capture 0xFFFFFFFF 0, .discard 20])).checkpoints
        (ringAfter (twentyCaptures.take 15 ++
          [.capture 0xFFFFFFFF 0, .discard 20])).nextCheckpoint).map
          (fun c => c.valid) = List.replicate 15 true ++ [false] := by
  refine ⟨?_, ?_, ?_⟩ <;> decide +kernel

end Nds

end Bigstar.Netplay.GameRAMRollback
