import Bigstar.Lib.Run
import Bigstar.Netplay.Proofs.CheckpointRingProofs

/-!
# One frame of the guest

A playthrough is a game that plays given inputs frame by frame and never looks back. The console is
compared with it at three points: between two frames, before a frame that runs normally, and before
and during a replay. Whichever way a frame goes, it takes the console from where the playthrough
stands before the frame to where it stands after it, and leaves a ring of checkpoints that are
earlier states of the playthrough.
-/

namespace Bigstar.Netplay.GameRAMRollback

/-- A game, the inputs of all its frames, and where it begins. -/
structure Playthrough (S P : Type) where
  guest : Guest S P
  inputs : Nat → P
  initial : S
  epoch : Nat

variable {S P : Type}

namespace Playthrough

/-- Main RAM before a frame. -/
def stateAt (play : Playthrough S P) (frame : Nat) : S :=
  Run.stateAt play.guest.tick play.inputs play.initial play.epoch frame

theorem stateAt_succ (play : Playthrough S P) {frame : Nat} (h : play.epoch ≤ frame) :
    play.stateAt (frame + 1) = play.guest.tick (play.stateAt frame) (play.inputs frame) :=
  Run.stateAt_succ _ _ _ h

/-- The game counts its ticks, as the finalisation of a correction expects. -/
def Counts (play : Playthrough S P) : Prop :=
  ∀ s p, play.guest.gameFrame (play.guest.tick s p) = play.guest.gameFrame s + 1

theorem Counts.gameFrame_stateAt {play : Playthrough S P} (h : play.Counts) {f g : Nat}
    (hf : play.epoch ≤ f) (hfg : f ≤ g) :
    play.guest.gameFrame (play.stateAt g) = play.guest.gameFrame (play.stateAt f) + (g - f) := by
  induction g, hfg using Nat.le_induction with
  | base => rw [Nat.sub_self, Nat.add_zero]
  | succ g hg ih =>
    rw [play.stateAt_succ (Nat.le_trans hf hg), h, ih]
    omega

/-- A checkpoint is the state of the playthrough before the frame of its label. -/
structure Checkpoint (play : Playthrough S P) (c : GameRAMCheckpoint S) : Prop where
  epoch_le : play.epoch ≤ c.displayFrame
  mainRAM_eq : c.mainRAM = some (play.stateAt c.displayFrame)
  gameFrame_eq : c.gameFrame = play.guest.gameFrame (play.stateAt c.displayFrame)

/-- Other inputs from a frame on leave the checkpoints up to that frame correct. -/
theorem Checkpoint.congr {play : Playthrough S P} {c : GameRAMCheckpoint S} {inputs : Nat → P}
    (h : play.Checkpoint c)
    (heq : ∀ k, play.epoch ≤ k → k < c.displayFrame → play.inputs k = inputs k) :
    Checkpoint { play with inputs := inputs } c := by
  have hstate : play.stateAt c.displayFrame =
      Playthrough.stateAt { play with inputs := inputs } c.displayFrame :=
    Run.stateAt_congr play.guest.tick play.initial heq
  exact ⟨h.epoch_le, hstate ▸ h.mainRAM_eq, hstate ▸ h.gameFrame_eq⟩

end Playthrough

/-! ## The checkpoints of the last frames -/

/-- The list has a checkpoint of every frame of an interval. -/
def Complete (held : List (GameRAMCheckpoint S)) (lo hi : Nat) : Prop :=
  ∀ f, lo ≤ f → f < hi → ∃ c ∈ held, c.displayFrame = f

/-- A ring whose labels lie in an interval has at most as many checkpoints as the interval. -/
theorem length_le_of_ordered {held : List (GameRAMCheckpoint S)} (lo hi : Nat)
    (h : held.Pairwise fun a b => a.displayFrame < b.displayFrame)
    (hin : ∀ c ∈ held, lo ≤ c.displayFrame ∧ c.displayFrame < hi) : held.length ≤ hi - lo := by
  induction held generalizing lo with
  | nil => exact Nat.zero_le _
  | cons c held ih =>
    obtain ⟨hc, hrest⟩ := List.pairwise_cons.mp h
    obtain ⟨hlo, hhi⟩ := hin c List.mem_cons_self
    have hlen := ih (c.displayFrame + 1) hrest fun d hd =>
      ⟨hc d hd, (hin d (List.mem_cons_of_mem _ hd)).2⟩
    rw [List.length_cons]
    omega

/-- A capture of the frame after the interval keeps the interval, as long as it fits the ring. -/
theorem Complete.capture {nds : Nds S P} {held : List (GameRAMCheckpoint S)} {lo hi : Nat}
    (h : Complete held lo hi) (hholds : nds.Holds held) (hlt : ∀ c ∈ held, c.displayFrame < hi)
    (hfit : hi + 1 ≤ lo + capacity) {c : GameRAMCheckpoint S} (hc : c.displayFrame = hi) :
    Complete (held.drop (held.length + 1 - capacity) ++ [c]) lo (hi + 1) := by
  intro f hlo hf
  by_cases hfhi : f = hi
  · exact ⟨c, by simp, by omega⟩
  · obtain ⟨d, hd, hdf⟩ := h f hlo (by omega)
    refine ⟨d, List.mem_append_left _ ?_, hdf⟩
    have hlen := hholds.length_le
    by_cases hfull : held.length = capacity
    · -- the oldest checkpoint goes, and `d` is not the oldest
      rw [show held.length + 1 - capacity = 1 by omega]
      cases held with
      | nil => exact absurd hd (by simp)
      | cons e held =>
        rw [List.drop_one, List.tail_cons]
        rcases List.mem_cons.mp hd with rfl | hd
        · have hord := List.pairwise_cons.mp hholds.ordered
          have hin : ∀ e ∈ d :: held, d.displayFrame ≤ e.displayFrame ∧ e.displayFrame < hi := by
            intro e he
            refine ⟨?_, hlt e he⟩
            rcases List.mem_cons.mp he with rfl | he
            · exact Nat.le_refl _
            · exact Nat.le_of_lt (hord.1 e he)
          have hmany := length_le_of_ordered d.displayFrame hi hholds.ordered hin
          rw [hfull] at hmany
          omega
        · exact hd
    · rw [show held.length + 1 - capacity = 0 by omega]
      exact hd

/-! ## Where the console stands -/

/-- The first frame whose checkpoint the ring has to keep once frame `n` has been captured. -/
def oldestFrame (epoch n : Nat) : Nat := max epoch (n + 1 - capacity)

/-- The ring holds states of the playthrough from before frame `hi`, and, if the game counts its
ticks, all of them from `lo` on. -/
def Rings (play : Playthrough S P) (nds : Nds S P) (lo hi : Nat) : Prop :=
  ∃ held, nds.Holds held ∧ (∀ c ∈ held, play.Checkpoint c ∧ c.displayFrame < hi) ∧
    (play.Counts → Complete held lo hi)

/-- Between two frames, `n` being the next one. -/
structure Standing (play : Playthrough S P) (nds : Nds S P) (n : Nat) : Prop where
  epoch_le : play.epoch ≤ n
  ram : nds.mainRAM = play.stateAt n
  idle : nds.restorePending = false
  /-- A replay that could not be finalised has at least come to its end. -/
  spent : nds.history.enabled = true → nds.history.count ≤ nds.history.index
  rings : Rings play (nds.setCheckpointFrame n) (oldestFrame play.epoch n) n
  /-- Setting the label of the next frame invalidates nothing that was captured since the epoch. -/
  captured : play.epoch < n → Rings play nds (oldestFrame play.epoch n) n
  settled : play.Counts → nds.isRollbackTransactionInFlight = false

/-- Before a frame that runs normally. -/
structure Ready (play : Playthrough S P) (nds : Nds S P) (n : Nat) : Prop where
  epoch_le : play.epoch ≤ n
  ram : nds.mainRAM = play.stateAt n
  idle : nds.restorePending = false
  spent : nds.history.enabled = true → nds.history.count ≤ nds.history.index
  label : nds.checkpointTimeline = { active := true, logicalFrame := n }
  rings : Rings play nds (oldestFrame play.epoch n) n
  settled : play.Counts → nds.isRollbackTransactionInFlight = false

/-- Before or during the replay of the frames from `r` to `n`, `k` of which have been replayed. -/
structure Replaying (play : Playthrough S P) (nds : Nds S P) (r n k : Nat) : Prop where
  epoch_le : play.epoch ≤ r
  le_current : r ≤ n
  enabled : nds.history.enabled = true
  index_eq : nds.history.index = k
  count_eq : nds.history.count = n + 1 - r
  start_eq : nds.history.startFrame = play.guest.gameFrame (play.stateAt r)
  entries_eq : nds.history.entries = (List.range' r (n + 1 - r)).map play.inputs
  display_eq : nds.replayDisplayStartFrame = r
  gate : nds.historyReachedExitGate = false
  label : nds.checkpointTimeline = { active := true, logicalFrame := n }

/-- The restore is armed. -/
structure Armed (play : Playthrough S P) (nds : Nds S P) (r n : Nat) : Prop
    extends Replaying play nds r n 0 where
  pending : nds.restorePending = true
  data : nds.restoreData = some (play.stateAt r)
  rings : Rings play nds (oldestFrame play.epoch n) (r + 1)

/-- The restore has been carried out, and the replay goes on. -/
structure Restored (play : Playthrough S P) (nds : Nds S P) (r n k : Nat) : Prop
    extends Replaying play nds r n k where
  idle : nds.restorePending = false
  ram : nds.mainRAM = play.stateAt (r + k)
  rings : Rings play nds (oldestFrame play.epoch n) (r + k)

/-- After the guest has run frame `n`, before the finalisation. -/
structure Ran (play : Playthrough S P) (nds : Nds S P) (n : Nat) : Prop where
  epoch_le : play.epoch ≤ n
  ram : nds.mainRAM = play.stateAt (n + 1)
  idle : nds.restorePending = false
  spent : nds.history.enabled = true → nds.history.count ≤ nds.history.index
  label : nds.checkpointTimeline = { active := true, logicalFrame := n }
  rings : Rings play nds (oldestFrame play.epoch n) (n + 1)
  /-- A replay that took place can be finalised. -/
  settled : play.Counts → nds.isRollbackTransactionInFlight = true →
    canFinalizeTransaction nds.restorePending nds.historyReachedExitGate nds.history.enabled
      nds.history.index nds.history.count (play.guest.gameFrame nds.mainRAM)
      nds.history.startFrame = true

section

variable {play : Playthrough S P} {nds : Nds S P} {n : Nat}

theorem Rings.of_slots_eq {nds' : Nds S P} {lo hi : Nat} (h : Rings play nds lo hi)
    (hslots : nds'.checkpoints = nds.checkpoints)
    (hnext : nds'.nextCheckpoint = nds.nextCheckpoint) :
    Rings play nds' lo hi := by
  obtain ⟨held, hholds, hheld, hcomplete⟩ := h
  exact ⟨held, hholds.of_slots_eq hslots hnext, hheld, hcomplete⟩

/-- A capture of the present state, under the label of the frame it precedes. -/
theorem Rings.capture {lo hi : Nat} (h : Rings play nds lo hi) (hepoch : play.epoch ≤ hi)
    (hram : nds.mainRAM = play.stateAt hi) (hfit : hi + 1 ≤ lo + capacity)
    (hlabel : hi < noDisplayFrame) :
    Rings play (nds.captureCheckpointAtGate play.guest hi) lo (hi + 1) := by
  obtain ⟨held, hholds, hheld, hcomplete⟩ := h
  have hlt : ∀ c ∈ held, c.displayFrame < hi := fun c hc => (hheld c hc).2
  have hcapture := hholds.capture play.guest hlabel hlt
  refine ⟨_, hcapture, ?_, fun hcounts => ?_⟩
  · intro c hc
    rw [List.mem_append, List.mem_singleton] at hc
    rcases hc with hc | rfl
    · obtain ⟨hcheck, hltc⟩ := hheld c (List.mem_of_mem_drop hc)
      exact ⟨hcheck, by omega⟩
    · refine ⟨⟨hepoch, ?_, ?_⟩, Nat.lt_succ_self hi⟩
      · show some nds.mainRAM = _
        rw [hram]
        rfl
      · show play.guest.gameFrame nds.mainRAM = _
        rw [hram]
        rfl
  · exact (hcomplete hcounts).capture hholds hlt hfit rfl

/-- Other inputs from frame `n` on change nothing about the states before it. -/
theorem Rings.congr {lo hi : Nat} {inputs : Nat → P} (h : Rings play nds lo hi)
    (heq : ∀ k, play.epoch ≤ k → k < hi → play.inputs k = inputs k) :
    Rings { play with inputs := inputs } nds lo hi := by
  obtain ⟨held, hholds, hheld, hcomplete⟩ := h
  refine ⟨held, hholds, fun c hc =>
    ⟨(hheld c hc).1.congr fun k hk hlt => heq k hk ?_, (hheld c hc).2⟩,
    hcomplete⟩
  exact Nat.lt_trans hlt (hheld c hc).2

/-- Discarding the checkpoints after one of them. -/
theorem Rings.discard {lo hi r : Nat} (h : Rings play nds lo hi) (hr : r < hi) :
    Rings play (nds.discardCheckpointsAfter r) lo (r + 1) := by
  obtain ⟨held, hholds, hheld, hcomplete⟩ := h
  refine ⟨_, hholds.discard r, ?_, fun hcounts f hlo hf => ?_⟩
  · intro c hc
    rw [List.mem_filter, decide_eq_true_eq] at hc
    exact ⟨(hheld c hc.1).1, Nat.lt_succ_of_le hc.2⟩
  · obtain ⟨c, hc, hcf⟩ := hcomplete hcounts f hlo (by omega)
    refine ⟨c, ?_, hcf⟩
    rw [List.mem_filter, decide_eq_true_eq]
    exact ⟨hc, by omega⟩

/-! ## Labelling -/

/-- Setting the label changes nothing but the label and, for a new timeline, the ring. -/
theorem exists_setCheckpointFrame_eq (nds : Nds S P) (frame : Nat) :
    ∃ checkpoints next, nds.setCheckpointFrame frame = { nds with
      checkpointTimeline := { active := true, logicalFrame := frame }
      checkpoints := checkpoints, nextCheckpoint := next } := by
  unfold Nds.setCheckpointFrame CheckpointFrameTimeline.setLogicalFrame
  split
  · next heq =>
    obtain ⟨rfl, -⟩ := Prod.mk.inj heq
    exact ⟨_, _, rfl⟩
  · next heq =>
    obtain ⟨rfl, -⟩ := Prod.mk.inj heq
    exact ⟨_, _, rfl⟩

theorem Standing.label (h : Standing play nds n) : Ready play (nds.setCheckpointFrame n) n := by
  have hrings := h.rings
  obtain ⟨checkpoints, next, heq⟩ := exists_setCheckpointFrame_eq nds n
  rw [heq] at hrings ⊢
  exact {
    epoch_le := h.epoch_le, ram := h.ram, idle := h.idle, spent := h.spent, label := rfl
    rings := hrings, settled := h.settled }

/-- The inputs of frame `n` reach the guest's scratch area. -/
theorem Ready.write (h : Ready play nds n) {inputs : Nat → P}
    (heq : ∀ k, play.epoch ≤ k → k < n → play.inputs k = inputs k) (scratch : P) :
    Ready { play with inputs := inputs } { nds with scratch := scratch } n := by
  have hstate : play.stateAt n = Playthrough.stateAt { play with inputs := inputs } n :=
    Run.stateAt_congr play.guest.tick play.initial heq
  exact {
    epoch_le := h.epoch_le, ram := h.ram.trans hstate, idle := h.idle, spent := h.spent
    label := h.label, rings := (h.rings.congr heq).of_slots_eq rfl rfl, settled := h.settled }

/-! ## A normal frame -/

/-- Past the gate of a normal frame. -/
structure PastGate (play : Playthrough S P) (nds gated : Nds S P) (n : Nat) : Prop where
  ram : gated.mainRAM = nds.mainRAM
  scratch : gated.scratch = nds.scratch
  idle : gated.restorePending = false
  off : gated.history.enabled = false
  label : gated.checkpointTimeline = nds.checkpointTimeline
  rings : Rings play gated (oldestFrame play.epoch n) (n + 1)
  settled : play.Counts → gated.historyReachedExitGate = false

/-- The gate of a normal frame captures, unless an older replay is still to be finalised. -/
theorem Ready.gate (h : Ready play nds n) (hn : n < noDisplayFrame) :
    PastGate play nds (nds.applyPendingGameRAMRestore play.guest) n := by
  have hwider : ¬ play.Counts → Rings play nds (oldestFrame play.epoch n) (n + 1) := by
    intro hcounts
    obtain ⟨held, hholds, hheld, -⟩ := h.rings
    exact ⟨held, hholds, fun c hc => ⟨(hheld c hc).1, Nat.lt_succ_of_lt (hheld c hc).2⟩,
      fun hc => absurd hc hcounts⟩
  by_cases henabled : nds.history.enabled = true
  · have hcounts : ¬ play.Counts := by
      intro hc
      have hsettled := h.settled hc
      simp [Nds.isRollbackTransactionInFlight, henabled] at hsettled
    have hgate : nds.applyPendingGameRAMRestore play.guest =
        { nds with historyReachedExitGate := true, history := { nds.history with
          enabled := false } } := by
      simp [Nds.applyPendingGameRAMRestore, h.idle, henabled, h.spent henabled]
    rw [hgate]
    exact ⟨rfl, rfl, h.idle, rfl, rfl, (hwider hcounts).of_slots_eq rfl rfl,
      fun hc => absurd hc hcounts⟩
  · have hoff : nds.history.enabled = false := Bool.eq_false_iff.mpr henabled
    by_cases hexit : nds.historyReachedExitGate = true
    · have hcounts : ¬ play.Counts := by
        intro hc
        have hsettled := h.settled hc
        simp [Nds.isRollbackTransactionInFlight, hexit] at hsettled
      have hgate : nds.applyPendingGameRAMRestore play.guest = nds := by
        simp [Nds.applyPendingGameRAMRestore, h.idle, hoff, hexit]
      rw [hgate]
      exact ⟨rfl, rfl, h.idle, hoff, rfl, hwider hcounts, fun hc => absurd hc hcounts⟩
    · have hgate : nds.applyPendingGameRAMRestore play.guest =
          nds.captureCheckpointAtGate play.guest n := by
        simp [Nds.applyPendingGameRAMRestore, h.idle, hoff, hexit, h.label,
          CheckpointFrameTimeline.captureFrame]
      have hrings := h.rings.capture h.epoch_le h.ram
        (by unfold oldestFrame; omega) hn
      obtain ⟨checkpoints, next, heq⟩ := Nds.exists_captureCheckpointAtGate_eq play.guest nds n
      rw [hgate]
      rw [heq] at hrings ⊢
      exact ⟨rfl, rfl, h.idle, hoff, rfl, hrings, fun _ => Bool.eq_false_iff.mpr hexit⟩

theorem Ready.ticksInFrame (h : Ready play nds n) : nds.ticksInFrame = 1 := by
  unfold Nds.ticksInFrame
  rw [if_neg]
  rintro ⟨henabled, hlt⟩
  have hspent := h.spent henabled
  omega

theorem Ready.ran (h : Ready play nds n) (hscratch : nds.scratch = play.inputs n)
    (hn : n < noDisplayFrame) : Ran play (nds.runFrame play.guest) n := by
  have hticks := h.ticksInFrame
  have hgate := h.gate hn
  have htick : nds.gameTick play.guest =
      { nds.applyPendingGameRAMRestore play.guest with
        mainRAM := play.guest.tick nds.mainRAM nds.scratch } := by
    unfold Nds.gameTick
    dsimp only
    rw [if_neg (by rw [hgate.off]; simp), hgate.ram, hgate.scratch]
  unfold Nds.runFrame
  rw [hticks]
  unfold Nds.gameTicks Nds.gameTicks
  rw [htick]
  constructor
  · exact h.epoch_le
  · dsimp only
    rw [play.stateAt_succ h.epoch_le, ← h.ram, ← hscratch]
  · exact hgate.idle
  · intro henabled
    rw [hgate.off] at henabled
    exact absurd henabled (by simp)
  · exact hgate.label.trans h.label
  · exact hgate.rings.of_slots_eq rfl rfl
  · intro hcounts hflight
    simp [Nds.isRollbackTransactionInFlight, hgate.idle, hgate.off,
      hgate.settled hcounts] at hflight

/-! ## A replay -/

section Replay

variable {r k : Nat}

/-- The history has the input of every frame of the replay. -/
theorem Replaying.entry (h : Replaying play nds r n k) (hk : k < n + 1 - r) (scratch : P) :
    nds.history.entries[nds.history.index]?.getD scratch = play.inputs (r + k) := by
  rw [h.index_eq, h.entries_eq, List.getElem?_map, List.getElem?_range' hk]
  simp

/-- The first gate restores, and captures nothing. -/
theorem Armed.gameTick (h : Armed play nds r n) :
    Restored play (nds.gameTick play.guest) r n 1 := by
  have hle := h.le_current
  have hgate : nds.applyPendingGameRAMRestore play.guest =
      { nds with mainRAM := play.stateAt r, restorePending := false, restoreData := none } := by
    simp [Nds.applyPendingGameRAMRestore, h.pending, h.data]
  have htick : nds.gameTick play.guest = { nds with
      mainRAM := play.stateAt (r + 1), restorePending := false, restoreData := none
      history := { nds.history with index := 1 } } := by
    unfold Nds.gameTick
    rw [hgate]
    dsimp only
    rw [if_pos h.enabled, h.entry (by omega), h.index_eq, play.stateAt_succ h.epoch_le]
    rfl
  rw [htick]
  exact {
    epoch_le := h.epoch_le, le_current := hle, enabled := h.enabled, index_eq := rfl
    count_eq := h.count_eq, start_eq := h.start_eq, entries_eq := h.entries_eq
    display_eq := h.display_eq, gate := h.gate, label := h.label, idle := rfl, ram := rfl
    rings := h.rings.of_slots_eq rfl rfl }

/-- The later gates capture the checkpoint of the frame they are at. -/
theorem Restored.gameTick (h : Restored play nds r n k) (hpos : 0 < k) (hk : k < n + 1 - r)
    (hn : n < noDisplayFrame) : Restored play (nds.gameTick play.guest) r n (k + 1) := by
  have hle := h.le_current
  have hnext : play.epoch ≤ r + k := Nat.le_trans h.epoch_le (Nat.le_add_right r k)
  have hlabel : u32 (r + k) = r + k := by
    unfold u32
    unfold noDisplayFrame at hn
    omega
  have hgate : nds.applyPendingGameRAMRestore play.guest =
      nds.captureCheckpointAtGate play.guest (r + k) := by
    have hlt : ¬ n + 1 - r ≤ k := Nat.not_le.mpr hk
    have hr : r ≠ noDisplayFrame := by omega
    have hk0 : k ≠ 0 := Nat.ne_of_gt hpos
    simp [Nds.applyPendingGameRAMRestore, h.idle, h.enabled, h.index_eq,
      h.count_eq, h.display_eq, hlt, hk0, hr, hlabel]
  have hrings := h.rings.capture hnext h.ram (by unfold oldestFrame; omega) (by omega)
  obtain ⟨checkpoints, next, heq⟩ := Nds.exists_captureCheckpointAtGate_eq play.guest nds (r + k)
  have htick : nds.gameTick play.guest = { nds with
      checkpoints := checkpoints, nextCheckpoint := next
      mainRAM := play.stateAt (r + k + 1)
      history := { nds.history with index := k + 1 } } := by
    unfold Nds.gameTick
    rw [hgate, heq]
    dsimp only
    rw [if_pos h.enabled, h.entry hk, h.index_eq, h.ram, play.stateAt_succ hnext]
  rw [heq] at hrings
  rw [htick]
  exact {
    epoch_le := h.epoch_le, le_current := hle, enabled := h.enabled, index_eq := rfl
    count_eq := h.count_eq, start_eq := h.start_eq, entries_eq := h.entries_eq
    display_eq := h.display_eq, gate := h.gate, label := h.label, idle := h.idle, ram := rfl
    rings := hrings.of_slots_eq rfl rfl }

/-- The replay runs to its end within the frame. -/
theorem Restored.gameTicks (h : Restored play nds r n k) (hpos : 0 < k) (hn : n < noDisplayFrame)
    {rounds : Nat} (hrounds : k + rounds = n + 1 - r) :
    Restored play (nds.gameTicks play.guest rounds) r n (n + 1 - r) := by
  induction rounds generalizing nds k with
  | zero =>
    rw [← hrounds]
    exact h
  | succ rounds ih =>
    have hnext := h.gameTick hpos (by omega) hn
    exact ih hnext (Nat.succ_pos k) (by omega)

theorem Armed.ticksInFrame (h : Armed play nds r n) : nds.ticksInFrame = (n - r) + 1 := by
  have hle := h.le_current
  unfold Nds.ticksInFrame
  rw [if_pos ⟨h.enabled, by rw [h.index_eq, h.count_eq]; omega⟩, h.index_eq, h.count_eq]
  omega

theorem Armed.ran (h : Armed play nds r n) (hn : n < noDisplayFrame) :
    Ran play (nds.runFrame play.guest) n := by
  have hle := h.le_current
  have hticks := h.ticksInFrame
  have hreplayed : Restored play (Nds.gameTicks play.guest (n - r) (nds.gameTick play.guest)) r n
      (n + 1 - r) := h.gameTick.gameTicks (Nat.succ_pos 0) hn (by omega)
  have hend : r + (n + 1 - r) = n + 1 := by omega
  unfold Nds.runFrame
  rw [hticks]
  unfold Nds.gameTicks
  generalize Nds.gameTicks play.guest (n - r) (nds.gameTick play.guest) = replayed at *
  constructor
  · exact Nat.le_trans h.epoch_le hle
  · rw [← hend]
    exact hreplayed.ram
  · exact hreplayed.idle
  · intro _
    dsimp only
    rw [hreplayed.count_eq, hreplayed.index_eq]
  · exact hreplayed.label
  · rw [← hend]
    exact hreplayed.rings.of_slots_eq rfl rfl
  · intro hcounts _
    have hclock := hcounts.gameFrame_stateAt h.epoch_le (Nat.le_succ_of_le hle)
    simp only [canFinalizeTransaction, hreplayed.idle, hreplayed.enabled, hreplayed.index_eq,
      hreplayed.count_eq, hreplayed.start_eq, hreplayed.ram, hend]
    rw [hclock]
    simp
    omega

end Replay

/-! ## The end of a frame -/

theorem Ran.standing (h : Ran play nds n) :
    Standing play (nds.finalizeRollbackTransaction play.guest) (n + 1) := by
  have hcaptured : Rings play nds (oldestFrame play.epoch (n + 1)) (n + 1) := by
    obtain ⟨held, hholds, hheld, hcomplete⟩ := h.rings
    refine ⟨held, hholds, hheld, fun hcounts f hlo hf => hcomplete hcounts f ?_ hf⟩
    unfold oldestFrame at hlo ⊢
    omega
  have hkeep : ∀ t : Nds S P, t.checkpoints = nds.checkpoints →
    t.nextCheckpoint = nds.nextCheckpoint →
      t.checkpointTimeline = nds.checkpointTimeline →
      Rings play (t.setCheckpointFrame (n + 1)) (oldestFrame play.epoch (n + 1)) (n + 1) := by
    intro t hslots hnext hlabel
    obtain ⟨held, hholds, hheld, hcomplete⟩ := hcaptured.of_slots_eq hslots hnext
    refine ⟨held, hholds.setCheckpointFrame_of_le ?_ ?_, hheld, hcomplete⟩
    · rw [hlabel, h.label]
    · rw [hlabel, h.label]
      exact Nat.le_succ n
  unfold Nds.finalizeRollbackTransaction
  split
  · exact {
      epoch_le := Nat.le_succ_of_le h.epoch_le, ram := h.ram, idle := h.idle
      spent := fun henabled => absurd henabled (by simp)
      rings := hkeep _ rfl rfl rfl
      captured := fun _ => hcaptured.of_slots_eq rfl rfl
      settled := fun _ => by simp [Nds.isRollbackTransactionInFlight, h.idle] }
  · next hopen =>
    exact {
      epoch_le := Nat.le_succ_of_le h.epoch_le, ram := h.ram, idle := h.idle, spent := h.spent
      rings := hkeep _ rfl rfl rfl
      captured := fun _ => hcaptured
      settled := fun hcounts => by
        cases hflight : nds.isRollbackTransactionInFlight with
        | true => exact absurd (h.settled hcounts hflight) hopen
        | false => rfl }

/-! ## The magic word -/

theorem captureCheckpointAtGate_history (guest : Guest S P) (nds : Nds S P) (displayFrame : Nat) :
    (nds.captureCheckpointAtGate guest displayFrame).history = nds.history := by
  obtain ⟨checkpoints, next, heq⟩ := Nds.exists_captureCheckpointAtGate_eq guest nds displayFrame
  rw [heq]

/-- The gate leaves the magic word in place. -/
theorem applyPendingGameRAMRestore_magic (guest : Guest S P) (nds : Nds S P) :
    (nds.applyPendingGameRAMRestore guest).history.magic = nds.history.magic := by
  unfold Nds.applyPendingGameRAMRestore
  split
  · split
    · split
      · rfl
      · split
        · rw [captureCheckpointAtGate_history]
        · rfl
    · split
      · rw [captureCheckpointAtGate_history]
      · rfl
  · split <;> rfl

theorem gameTick_magic (guest : Guest S P) (nds : Nds S P) :
    (nds.gameTick guest).history.magic = nds.history.magic := by
  rw [← applyPendingGameRAMRestore_magic guest nds]
  unfold Nds.gameTick
  dsimp only
  split <;> rfl

theorem gameTicks_magic (guest : Guest S P) (rounds : Nat) (nds : Nds S P) :
    (nds.gameTicks guest rounds).history.magic = nds.history.magic := by
  induction rounds generalizing nds with
  | zero => rfl
  | succ rounds ih =>
    unfold Nds.gameTicks
    rw [ih, gameTick_magic]

theorem finalizeRollbackTransaction_magic (guest : Guest S P) (nds : Nds S P) :
    (nds.finalizeRollbackTransaction guest).history.magic = nds.history.magic := by
  unfold Nds.finalizeRollbackTransaction
  split <;> rfl

end

end Bigstar.Netplay.GameRAMRollback
