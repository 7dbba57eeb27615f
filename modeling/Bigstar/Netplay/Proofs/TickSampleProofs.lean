import Bigstar.Netplay.Proofs.GameRAMRollbackProofs
import Bigstar.Netplay.RollbackTickTrace

/-!
# The samples of the tick trace

Whichever way a frame goes, its gates leave samples of the playthrough: a normal frame adds one, and
a correction, whose checkpoint all later samples have been dropped after, takes them anew. A flush
moves the samples of the first frames to the file, in ascending order.
-/

namespace Bigstar.Netplay.RollbackTickTrace

open OrderedMap GameRAMRollback

variable {S P T : Type} {readGameStateSample : S → T} {generation : Nat}

/-! ## Samples -/

/-- The samples are those of the playthrough, from before the frames of their labels. -/
def Samples (play : Playthrough S P) (readGameStateSample : S → T) (pending : NatMap T) (hi : Nat) :
    Prop :=
  ∀ (f : Nat) x, pending[f]? = some x →
    play.epoch ≤ f ∧ f < hi ∧ x = readGameStateSample (play.stateAt f)

/-- The trace as far as the gates leave it alone. -/
structure SameFile (trace trace' : Trace T) : Prop where
  generation_eq : trace'.generation = trace.generation
  writtenThrough_eq : trace'.writtenThrough = trace.writtenThrough
  writer_eq : trace'.writer = trace.writer
  callback_eq : trace'.callback = trace.callback
  /-- What is new lies behind what has been written. -/
  pending_gt : ∀ (f : Nat) x, trace'.pending[f]? = some x →
    trace.pending[f]? = some x ∨ trace.writtenThrough < f

theorem SameFile.refl (trace : Trace T) : SameFile trace trace :=
  ⟨rfl, rfl, rfl, rfl, fun _ _ => Or.inl⟩

theorem SameFile.trans {a b c : Trace T} (h : SameFile a b) (h' : SameFile b c) : SameFile a c := by
  refine ⟨h'.generation_eq.trans h.generation_eq, h'.writtenThrough_eq.trans h.writtenThrough_eq,
    h'.writer_eq.trans h.writer_eq, h'.callback_eq.trans h.callback_eq, fun f x hx => ?_⟩
  rcases h'.pending_gt f x hx with hb | hgt
  · exact h.pending_gt f x hb
  · rw [h.writtenThrough_eq] at hgt
    exact Or.inr hgt

theorem sameFile_capture (trace : Trace T) (generation frame : Nat) (sample : T) :
    SameFile trace (trace.capture generation frame sample) := by
  unfold Trace.capture
  split
  · exact SameFile.refl _
  · split
    · exact SameFile.refl _
    · next hnew =>
      refine ⟨rfl, rfl, rfl, rfl, fun f x hx => ?_⟩
      dsimp only at hx
      rw [getElem?_insert_eq] at hx
      split at hx
      · next hf =>
        right
        omega
      · exact Or.inl hx

theorem sameFile_gate (nds : Nds S P) (trace : Trace T) :
    SameFile trace (gate readGameStateSample generation nds trace) := by
  unfold gate
  split
  · exact SameFile.refl _
  · exact sameFile_capture _ _ _ _

theorem sameFile_gates (guest : Guest S P) (rounds : Nat) (nds : Nds S P) (trace : Trace T) :
    SameFile trace (gates guest readGameStateSample generation rounds nds trace) := by
  induction rounds generalizing nds trace with
  | zero => exact SameFile.refl _
  | succ rounds ih => exact (sameFile_gate nds trace).trans (ih _ _)

theorem sameFile_invalidateSuffix (trace : Trace T) (nds : Nds S P) :
    SameFile trace (trace.invalidateSuffix nds) := by
  unfold Trace.invalidateSuffix
  split
  · refine ⟨rfl, rfl, rfl, rfl, fun f x hx => Or.inl ?_⟩
    dsimp only at hx
    rw [getElem?_eraseAfter] at hx
    split at hx
    · exact hx
    · exact absurd hx (by simp)
  · exact SameFile.refl _

section

variable {play : Playthrough S P} {trace : Trace T} {nds : Nds S P} {n hi : Nat}

theorem Samples.succ (h : Samples play readGameStateSample trace.pending hi) :
    Samples play readGameStateSample trace.pending (hi + 1) :=
  fun f x hx => ⟨(h f x hx).1, Nat.lt_succ_of_lt (h f x hx).2.1, (h f x hx).2.2⟩

/-- Some of the samples, with other inputs for the frames behind them. -/
theorem Samples.congr {pending pending' : NatMap T} {hi' : Nat} {inputs : Nat → P}
    (h : Samples play readGameStateSample pending hi)
    (hsub : ∀ (f : Nat) x, pending'[f]? = some x → pending[f]? = some x ∧ f < hi')
    (heq : ∀ k, play.epoch ≤ k → k + 1 < hi' → play.inputs k = inputs k) :
    Samples { play with inputs := inputs } readGameStateSample pending' hi' := by
  intro f x hx
  obtain ⟨hold, hlt⟩ := hsub f x hx
  obtain ⟨hepoch, -, hsample⟩ := h f x hold
  have hstate : play.stateAt f = Playthrough.stateAt { play with inputs := inputs } f :=
    Run.stateAt_congr play.guest.tick play.initial fun k hk hkf => heq k hk (by omega)
  exact ⟨hepoch, hlt, hstate ▸ hsample⟩

/-- A sample of the present state, under the label of the frame that it precedes. -/
theorem Samples.capture (h : Samples play readGameStateSample trace.pending hi)
    (hepoch : play.epoch ≤ hi) :
    Samples play readGameStateSample
      (trace.capture generation hi (readGameStateSample (play.stateAt hi))).pending (hi + 1) := by
  unfold Trace.capture
  split
  · exact h.succ
  · split
    · exact h.succ
    · intro f x hx
      dsimp only at hx
      rw [getElem?_insert_eq] at hx
      split at hx
      · next hf =>
        obtain rfl := Option.some.inj hx
        subst hf
        exact ⟨hepoch, Nat.lt_succ_self _, rfl⟩
      · exact h.succ f x hx

/-- The gate of a normal frame captures the frame itself, if anything. -/
theorem capturedFrame_of_ready (h : Ready play nds n) {frame : Nat}
    (hframe : capturedFrame nds = some frame) :
    frame = n := by
  unfold capturedFrame at hframe
  rw [if_neg (by simp [h.idle])] at hframe
  split_ifs at hframe with henabled hend hreplay hexit
  · exact absurd (h.spent henabled) hend
  · rw [h.label] at hframe
    exact (Option.some.inj hframe).symm

theorem Samples.ready (h : Samples play readGameStateSample trace.pending n)
    (hready : Ready play nds n) :
    Samples play readGameStateSample
      (gates play.guest readGameStateSample generation nds.ticksInFrame nds trace).pending
        (n + 1) := by
  rw [hready.ticksInFrame]
  unfold gates gates gate
  cases hframe : capturedFrame nds with
  | none => exact h.succ
  | some frame =>
    obtain rfl := capturedFrame_of_ready hready hframe
    dsimp only
    rw [hready.ram]
    exact h.capture hready.epoch_le

/-- The gates of a replay capture the frame that they are at. -/
theorem capturedFrame_of_restored {r k : Nat} (h : Restored play nds r n k) (hpos : 0 < k)
    (hk : k < n + 1 - r) (hn : n < noDisplayFrame) : capturedFrame nds = some (r + k) := by
  have hle := h.le_current
  have hlabel : u32 (r + k) = r + k := by
    unfold u32
    unfold noDisplayFrame at hn
    omega
  unfold capturedFrame
  rw [if_neg (by simp [h.idle]), if_pos h.enabled, h.index_eq, h.count_eq, h.display_eq,
    if_neg (Nat.not_le.mpr hk), if_pos ⟨Nat.ne_of_gt hpos, by omega⟩, hlabel]

theorem Samples.restored {r k rounds : Nat}
    (h : Samples play readGameStateSample trace.pending (r + k))
    (hrestored : Restored play nds r n k) (hpos : 0 < k) (hn : n < noDisplayFrame)
    (hrounds : k + rounds = n + 1 - r) :
    Samples play readGameStateSample
      (gates play.guest readGameStateSample generation rounds nds trace).pending
      (n + 1) := by
  induction rounds generalizing nds trace k with
  | zero =>
    have hle := hrestored.le_current
    rw [show r + k = n + 1 by omega] at h
    exact h
  | succ rounds ih =>
    have hk : k < n + 1 - r := by omega
    have hepoch : play.epoch ≤ r + k := Nat.le_trans hrestored.epoch_le (Nat.le_add_right r k)
    have hframe := capturedFrame_of_restored hrestored hpos hk hn
    unfold gates gate
    rw [hframe]
    dsimp only
    rw [hrestored.ram]
    exact ih (h.capture hepoch) (hrestored.gameTick hpos hk hn) (Nat.succ_pos k) (by omega)

/-- The samples up to the restored frame are still right, and the later ones are taken anew. -/
theorem Samples.armed {r : Nat} (h : Samples play readGameStateSample trace.pending (r + 1))
    (harmed : Armed play nds r n) (hn : n < noDisplayFrame) :
    Samples play readGameStateSample
      (gates play.guest readGameStateSample generation nds.ticksInFrame nds trace).pending
        (n + 1) := by
  have hle := harmed.le_current
  have hframe : capturedFrame nds = none := by
    unfold capturedFrame
    rw [if_pos harmed.pending]
  rw [harmed.ticksInFrame]
  unfold gates gate
  rw [hframe]
  exact h.restored harmed.gameTick (Nat.succ_pos 0) hn (by omega)

end

end Bigstar.Netplay.RollbackTickTrace
