import Bigstar.Netplay.RollbackStore

/-!
# What the store operations keep

One lemma for each operation of the checkpoint store: which checkpoints are there afterwards.
-/

namespace Bigstar.Netplay.RollbackStorage.Store

open OrderedMap

variable {β : Type} {s : Store β}

theorem getElem?_put (frame g : Nat) (checkpoint : StoredState β) :
    (s.put frame checkpoint).states[g]? = if frame = g then some checkpoint else s.states[g]? :=
  getElem?_insert_eq s.states frame g checkpoint

theorem getElem?_eraseAfter (frame g : Nat) :
    (s.eraseAfter frame).states[g]? = if g ≤ frame then s.states[g]? else none :=
  OrderedMap.getElem?_eraseAfter s.states frame g

theorem latestAtOrBefore_eq_some {frame storedFrame : Nat} {checkpoint : StoredState β}
    (h : s.latestAtOrBefore frame = some (storedFrame, checkpoint)) :
    s.states[storedFrame]? = some checkpoint ∧ storedFrame ≤ frame :=
  entryAtOrBefore_eq_some h

/-- Pruning invents nothing. -/
theorem getElem?_of_prune {currentFrame window g : Nat} {checkpoint : StoredState β}
    (h : (s.prune currentFrame window).states[g]? = some checkpoint) :
    s.states[g]? = some checkpoint := by
  unfold prune at h
  rw [getElem?_filter_eq] at h
  exact (Option.filter_eq_some_iff.mp h).1

/-- Pruning keeps the window. -/
theorem getElem?_prune_of_keepFrom_le {currentFrame window g : Nat}
    (h : keepFrom currentFrame window ≤ g) :
    (s.prune currentFrame window).states[g]? = s.states[g]? := by
  unfold prune
  rw [getElem?_filter_eq]
  have hkeep : decide (g < keepFrom currentFrame window) = false := decide_eq_false (by omega)
  cases s.states[g]? with
  | none => rfl
  | some x => simp [hkeep]

theorem keepFrom_le (currentFrame window : Nat) : keepFrom currentFrame window ≤ currentFrame := by
  unfold keepFrom
  split <;> omega

@[simp]
theorem prune_frameShadowFrame (currentFrame window : Nat) :
    (s.prune currentFrame window).frameShadowFrame = s.frameShadowFrame := rfl

@[simp]
theorem prune_frameShadowMainRAM (currentFrame window : Nat) :
    (s.prune currentFrame window).frameShadowMainRAM = s.frameShadowMainRAM := rfl

/-- A checkpoint that is no delta is its own chain. -/
theorem buildRestoreChain_of_keyframe {frame : Nat} {checkpoint : StoredState β}
    (h : s.states[frame]? = some checkpoint) (hdelta : checkpoint.mainRAMDelta = false) :
    s.buildRestoreChain frame = some [checkpoint] := by
  unfold buildRestoreChain
  rw [h]
  simp [restoreChainLoop, hdelta]

end Bigstar.Netplay.RollbackStorage.Store
