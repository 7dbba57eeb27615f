import Bigstar.Netplay.Proofs.ContiguousFrameProofs
import Mathlib.Order.Interval.Finset.Nat
import Mathlib.Tactic.FinCases

/-!
# Accounting for the contiguous frames

The mark is kept up by the operations that add remote inputs, while others forget them. It is
accounted for by the frames that ever arrived: the mark covers nothing else, and as long as nothing
from the epoch on was forgotten, it is the end of the frames that arrived without a gap.
-/

namespace Bigstar.Netplay.InputTimeline

open OrderedMap

/-- The operations that the mark depends on. -/
inductive TimelineOp where
  | primeEpoch (startFrame delay : Nat) (neutralInput : InputState) (noFrameLimit : Nat)
  | storeRemote (frame : Nat) (input : InputState) (localFrame : Option Nat)
    (confirmPrediction : Bool)
      (noFrameLimit : Nat)
  | pruneHistory (keepFromFrame : Nat)
  | resetForRestart (noFrameLimit : Nat)

/-- The frames that the operation gives remote inputs lie below `2 ^ 32 - 1`. -/
def TimelineOp.Fits : TimelineOp → Prop
  | .primeEpoch startFrame delay _ _ => startFrame + delay ≤ u32Max
  | .storeRemote frame _ _ _ _ => frame < u32Max
  | _ => True

/-- An operation of the timeline. -/
def Runtime.apply (r : Runtime) : TimelineOp → Runtime
  | .primeEpoch startFrame delay neutralInput noFrameLimit =>
    r.primeEpoch startFrame delay neutralInput noFrameLimit
  | .storeRemote frame input localFrame confirmPrediction noFrameLimit =>
    (r.storeRemote frame input localFrame confirmPrediction noFrameLimit).1
  | .pruneHistory keepFromFrame => r.pruneHistory keepFromFrame
  | .resetForRestart noFrameLimit => r.resetForRestart noFrameLimit

/-- What has happened since the last restart. -/
structure Arrivals where
  /-- The frames that were stored or primed. -/
  frames : List Nat := []
  /-- Everything below this frame was forgotten at some time. -/
  forgotten : Nat := 0

/-- What the operation adds to the arrivals. -/
def Arrivals.apply (a : Arrivals) : TimelineOp → Arrivals
  | .primeEpoch startFrame delay _ _ =>
    { frames := List.range' startFrame delay ++ a.frames, forgotten := max a.forgotten startFrame }
  | .storeRemote frame _ _ _ _ => { a with frames := frame :: a.frames }
  | .pruneHistory keepFromFrame => { a with forgotten := max a.forgotten keepFromFrame }
  | .resetForRestart _ => {}

namespace Runtime

variable {r : Runtime} {a : Arrivals} {epoch : Nat}

/-- The mark covers frames that arrived, and ends before a frame that is not there. -/
structure Marked (r : Runtime) (frames : List Nat) (epoch : Nat) : Prop where
  covered : ∀ highest, r.highestContiguousRemoteFrame = some highest →
    epoch ≤ highest ∧ ∀ f, epoch ≤ f → f ≤ highest → f ∈ frames
  next : r.remoteInputs[r.firstMissing epoch]? = none

/-- The remote inputs are the frames that arrived, less what was forgotten. -/
structure Accounted (r : Runtime) (a : Arrivals) : Prop where
  bounded : ∀ f ∈ a.frames, f < u32Max
  arrived : ∀ (f : Nat) input, r.remoteInputs[f]? = some input → f ∈ a.frames
  present : ∀ f ∈ a.frames, a.forgotten ≤ f → ∃ input, r.remoteInputs[f]? = some input
  marked : ∀ epoch, r.remoteInputEpochStartFrame = some epoch → r.Marked a.frames epoch

/-- Advancing makes the mark cover what has come in. -/
theorem marked_advance {frames : List Nat} (hepoch : r.remoteInputEpochStartFrame = some epoch)
    (hbounded : ∀ f ∈ frames, f < u32Max)
    (harrived : ∀ (f : Nat) input, r.remoteInputs[f]? = some input → f ∈ frames)
    (hcovered : ∀ highest, r.highestContiguousRemoteFrame = some highest →
      epoch ≤ highest ∧ ∀ f, epoch ≤ f → f ≤ highest → f ∈ frames) :
    r.advanceContiguousRemoteFrame.Marked frames epoch := by
  have hcovered' : ∀ highest, r.advanceContiguousRemoteFrame.highestContiguousRemoteFrame =
    some highest →
      epoch ≤ highest ∧ ∀ f, epoch ≤ f → f ≤ highest → f ∈ frames := by
    unfold advanceContiguousRemoteFrame
    rw [hepoch]
    dsimp only
    split
    · exact hcovered
    · intro highest hhighest
      dsimp only at hhighest
      rcases hr : r.highestContiguousRemoteFrame with _ | before
      · rw [hr] at hhighest
        rcases advanceLoop_cases r.remoteInputs (r.remoteInputs.size + 1) epoch none with
          heq | ⟨h, heq, hle, hall⟩
        · rw [heq] at hhighest
          cases hhighest
        · rw [heq] at hhighest
          cases hhighest
          refine ⟨hle, fun f h₁ h₂ => ?_⟩
          obtain ⟨input, hinput⟩ := hall f h₁ h₂
          exact harrived f input hinput
      · rw [hr] at hhighest
        obtain ⟨hbefore, hold⟩ := hcovered before hr
        rcases advanceLoop_cases r.remoteInputs (r.remoteInputs.size + 1)
          (before + 1) (some before) with
          heq | ⟨h, heq, hle, hall⟩
        · rw [heq] at hhighest
          cases hhighest
          exact ⟨hbefore, hold⟩
        · rw [heq] at hhighest
          cases hhighest
          refine ⟨by omega, fun f h₁ h₂ => ?_⟩
          by_cases hf : f ≤ before
          · exact hold f h₁ hf
          · obtain ⟨input, hinput⟩ := hall f (by omega) h₂
            exact harrived f input hinput
  refine ⟨hcovered', ?_⟩
  rcases maximal_advanceContiguousRemoteFrame hepoch with hmax | hnone
  · obtain ⟨hle, hall⟩ := hcovered' u32Max hmax
    exact absurd (hbounded u32Max (hall u32Max hle (Nat.le_refl _))) (Nat.lt_irrefl _)
  · exact hnone

theorem Accounted.storeRemote (h : r.Accounted a) {frame : Nat} (hframe : frame < u32Max)
    (input : InputState) (localFrame : Option Nat) (confirmPrediction : Bool) (noFrameLimit : Nat) :
    (r.storeRemote frame input localFrame confirmPrediction noFrameLimit).1.Accounted
      { a with frames := frame :: a.frames } := by
  obtain ⟨rollbackInputs, last, heq⟩ :=
    storeRemote_eq_advance r frame input localFrame confirmPrediction noFrameLimit
  rw [heq]
  set r' : Runtime := { r with
    rollbackInputs := rollbackInputs
    remoteInputs := r.remoteInputs.insert frame input
    lastReceivedInputFrame := last } with hr'
  obtain ⟨highest, hadv⟩ := advanceContiguousRemoteFrame_eq r'
  have hbounded : ∀ f ∈ frame :: a.frames, f < u32Max := by
    intro f hf
    rcases List.mem_cons.mp hf with rfl | hf
    · exact hframe
    · exact h.bounded f hf
  have harrived : ∀ (f : Nat) v, r'.remoteInputs[f]? = some v → f ∈ frame :: a.frames := by
    intro f v hv
    change (r.remoteInputs.insert frame input)[f]? = some v at hv
    rw [getElem?_insert_eq] at hv
    split at hv
    · next hf =>
      rw [hf]
      exact List.mem_cons_self
    · exact List.mem_cons_of_mem _ (h.arrived f v hv)
  refine ⟨hbounded, ?_, ?_, ?_⟩
  · rw [hadv]
    exact harrived
  · intro f hf hforgotten
    rw [hadv]
    dsimp only [hr']
    rw [getElem?_insert_eq]
    split
    · exact ⟨input, rfl⟩
    · next hne =>
      rcases List.mem_cons.mp hf with rfl | hf
      · exact absurd rfl hne
      · exact h.present f hf hforgotten
  · intro epoch hepoch
    rw [hadv] at hepoch
    refine marked_advance hepoch hbounded harrived fun highest hhighest => ?_
    obtain ⟨hle, hall⟩ := (h.marked epoch hepoch).covered highest hhighest
    exact ⟨hle, fun f h₁ h₂ => List.mem_cons_of_mem _ (hall f h₁ h₂)⟩

theorem Accounted.primeEpoch (h : r.Accounted a) {startFrame delay : Nat}
    (hfits : startFrame + delay ≤ u32Max) (neutralInput : InputState) (noFrameLimit : Nat) :
    (r.primeEpoch startFrame delay neutralInput noFrameLimit).Accounted
      { frames := List.range' startFrame delay ++ a.frames
        forgotten := max a.forgotten startFrame } := by
  have hprimed := primed_primeEpoch r neutralInput noFrameLimit hfits
  have hbounded : ∀ f ∈ List.range' startFrame delay ++ a.frames, f < u32Max := by
    intro f hf
    rcases List.mem_append.mp hf with hf | hf
    · rw [List.mem_range'_1] at hf
      omega
    · exact h.bounded f hf
  have harrived : ∀ (f : Nat) v,
      (r.primeEpoch startFrame delay neutralInput noFrameLimit).remoteInputs[f]? = some v →
        f ∈ List.range' startFrame delay ++ a.frames := by
    intro f v hv
    rw [hprimed.remoteInputs] at hv
    split at hv
    · next hle =>
      split at hv
      · next hnew => exact List.mem_append_left _ (List.mem_range'_1.mpr ⟨hle, hnew.2⟩)
      · exact List.mem_append_right _ (h.arrived f v hv)
    · cases hv
  refine ⟨hbounded, harrived, ?_, ?_⟩
  · intro f hf hforgotten
    have hle : startFrame ≤ f := Nat.le_trans (Nat.le_max_right _ _) hforgotten
    rw [hprimed.remoteInputs, if_pos hle]
    split
    · exact ⟨neutralInput, rfl⟩
    · next hold =>
      rcases List.mem_append.mp hf with hf | hf
      · rw [List.mem_range'_1] at hf
        exact Option.ne_none_iff_exists'.mp fun hnone => hold ⟨hnone, hf.2⟩
      · exact h.present f hf (Nat.le_trans (Nat.le_max_left _ _) hforgotten)
  · intro epoch hepoch
    rw [hprimed.epochStart] at hepoch
    cases hepoch
    have hcovered : ∀ highest,
        (r.primeEpoch startFrame delay neutralInput noFrameLimit).highestContiguousRemoteFrame =
          some highest → startFrame ≤ highest ∧
        ∀ f, startFrame ≤ f → f ≤ highest → f ∈ List.range' startFrame delay ++ a.frames := by
      intro highest hhighest
      obtain ⟨hle, hall⟩ := hprimed.contiguous highest hhighest
      refine ⟨hle, fun f h₁ h₂ => ?_⟩
      obtain ⟨v, hv⟩ := hall f h₁ h₂
      exact harrived f v hv
    refine ⟨hcovered, ?_⟩
    rcases hprimed.maximal with hmax | hnone
    · obtain ⟨hle, hall⟩ := hcovered u32Max hmax
      exact absurd (hbounded u32Max (hall u32Max hle (Nat.le_refl _))) (Nat.lt_irrefl _)
    · exact hnone

theorem Accounted.pruneHistory (h : r.Accounted a) (keepFromFrame : Nat) :
    (r.pruneHistory keepFromFrame).Accounted
      { a with forgotten := max a.forgotten keepFromFrame } := by
  refine ⟨h.bounded, ?_, ?_, ?_⟩
  · intro f v hv
    unfold Runtime.pruneHistory at hv
    dsimp only at hv
    rw [getElem?_eraseBelow] at hv
    split at hv
    · exact h.arrived f v hv
    · cases hv
  · intro f hf hforgotten
    unfold Runtime.pruneHistory
    dsimp only
    rw [getElem?_eraseBelow, if_pos (Nat.le_trans (Nat.le_max_right _ _) hforgotten)]
    exact h.present f hf (Nat.le_trans (Nat.le_max_left _ _) hforgotten)
  · intro epoch hepoch
    have hmarked := h.marked epoch hepoch
    refine ⟨hmarked.covered, ?_⟩
    unfold Runtime.pruneHistory
    dsimp only
    rw [getElem?_eraseBelow]
    split
    · exact hmarked.next
    · rfl

theorem Accounted.resetForRestart (r : Runtime) (noFrameLimit : Nat) :
    (r.resetForRestart noFrameLimit).Accounted {} := by
  refine ⟨by simp, ?_, by simp, ?_⟩
  · intro f v hv
    unfold Runtime.resetForRestart at hv
    simp at hv
  · intro epoch hepoch
    unfold Runtime.resetForRestart at hepoch
    simp at hepoch

theorem Accounted.apply (h : r.Accounted a) {op : TimelineOp} (hop : op.Fits) :
    (r.apply op).Accounted (a.apply op) := by
  cases op with
  | primeEpoch startFrame delay neutralInput noFrameLimit =>
    exact h.primeEpoch hop neutralInput noFrameLimit
  | storeRemote frame input localFrame confirmPrediction noFrameLimit =>
    exact h.storeRemote hop input localFrame confirmPrediction noFrameLimit
  | pruneHistory keepFromFrame => exact h.pruneHistory keepFromFrame
  | resetForRestart noFrameLimit => exact Accounted.resetForRestart r noFrameLimit

theorem Accounted.foldl (h : r.Accounted a) {ops : List TimelineOp} (hops : ∀ op ∈ ops, op.Fits) :
    (ops.foldl Runtime.apply r).Accounted (ops.foldl Arrivals.apply a) := by
  induction ops generalizing r a with
  | nil => exact h
  | cons op ops ih =>
    exact ih (h.apply (hops op List.mem_cons_self)) fun op' hop' =>
      hops op' (List.mem_cons_of_mem _ hop')

theorem accounted_init : ({} : Runtime).Accounted {} := by
  refine ⟨by simp, ?_, by simp, ?_⟩
  · intro f v hv
    simp at hv
  · intro epoch hepoch
    cases hepoch

theorem Marked.epoch_le {frames : List Nat} (h : r.Marked frames epoch) :
    epoch ≤ r.firstMissing epoch := by
  unfold firstMissing
  cases hhighest : r.highestContiguousRemoteFrame with
  | none => exact Nat.le_refl epoch
  | some highest => exact Nat.le_succ_of_le (h.covered highest hhighest).1

theorem Marked.mem_of_lt {frames : List Nat} (h : r.Marked frames epoch) {f : Nat} (hle : epoch ≤ f)
    (hlt : f < r.firstMissing epoch) : f ∈ frames := by
  unfold firstMissing at hlt
  cases hhighest : r.highestContiguousRemoteFrame with
  | none =>
    rw [hhighest] at hlt
    exact absurd hle (Nat.not_le.mpr hlt)
  | some highest =>
    rw [hhighest] at hlt
    exact (h.covered highest hhighest).2 f hle (Nat.le_of_lt_succ hlt)

/-- Nothing from the epoch on was forgotten, so the mark ends at the first frame that did not
arrive. -/
theorem Accounted.firstMissing_not_mem (h : r.Accounted a)
    (hepoch : r.remoteInputEpochStartFrame = some epoch)
    (hforgotten : a.forgotten ≤ epoch) : r.firstMissing epoch ∉ a.frames := by
  intro hmem
  have hmarked := h.marked epoch hepoch
  obtain ⟨input, hinput⟩ := h.present _ hmem (Nat.le_trans hforgotten hmarked.epoch_le)
  rw [hmarked.next] at hinput
  cases hinput

theorem highest_eq_of_firstMissing_eq {r r' : Runtime} {frames frames' : List Nat}
    (h : r.Marked frames epoch)
    (h' : r'.Marked frames' epoch) (heq : r.firstMissing epoch = r'.firstMissing epoch) :
    r.highestContiguousRemoteFrame = r'.highestContiguousRemoteFrame := by
  unfold firstMissing at heq
  cases hr : r.highestContiguousRemoteFrame with
  | none =>
    cases hr' : r'.highestContiguousRemoteFrame with
    | none => rfl
    | some highest' =>
      have hle := (h'.covered highest' hr').1
      rw [hr, hr'] at heq
      dsimp only at heq
      omega
  | some highest =>
    have hle := (h.covered highest hr).1
    cases hr' : r'.highestContiguousRemoteFrame with
    | none =>
      rw [hr, hr'] at heq
      dsimp only at heq
      omega
    | some highest' =>
      rw [hr, hr'] at heq
      dsimp only at heq
      obtain rfl : highest = highest' := by omega
      rfl

/-- The mark depends on the frames that arrived, not on their order. -/
theorem Accounted.highest_eq {r' : Runtime} {a' : Arrivals} (h : r.Accounted a)
    (h' : r'.Accounted a') (hepoch : r.remoteInputEpochStartFrame = some epoch)
    (hepoch' : r'.remoteInputEpochStartFrame = some epoch) (hforgotten : a.forgotten ≤ epoch)
    (hforgotten' : a'.forgotten ≤ epoch)
    (hframes : ∀ f, epoch ≤ f → (f ∈ a.frames ↔ f ∈ a'.frames)) :
    r.highestContiguousRemoteFrame = r'.highestContiguousRemoteFrame := by
  have hmarked := h.marked epoch hepoch
  have hmarked' := h'.marked epoch hepoch'
  refine highest_eq_of_firstMissing_eq hmarked hmarked' ?_
  rcases Nat.lt_trichotomy (r.firstMissing epoch) (r'.firstMissing epoch) with hlt | heq | hgt
  · have hmem := hmarked'.mem_of_lt hmarked.epoch_le hlt
    exact absurd ((hframes _ hmarked.epoch_le).mpr hmem) (h.firstMissing_not_mem hepoch hforgotten)
  · exact heq
  · have hmem := hmarked.mem_of_lt hmarked'.epoch_le hgt
    exact absurd ((hframes _ hmarked'.epoch_le).mp hmem)
      (h'.firstMissing_not_mem hepoch' hforgotten')

theorem unconfirmedRemoteFrameCountThrough_eq
    (hepoch : r.remoteInputEpochStartFrame = some epoch) {f : Nat}
    (hle : epoch ≤ f) (hf : f < u32Max) :
    r.unconfirmedRemoteFrameCountThrough f = some (Finset.Icc (r.firstMissing epoch) f).card := by
  have hu32 : ∀ n, n ≤ f + 1 → u32 n = n := by
    intro n hn
    unfold u32
    unfold u32Max at hf
    exact Nat.mod_eq_of_lt (by omega)
  rw [Nat.card_Icc]
  unfold unconfirmedRemoteFrameCountThrough firstMissing
  rw [hepoch]
  dsimp only
  rw [if_neg (Nat.not_lt.mpr hle)]
  cases r.highestContiguousRemoteFrame with
  | none =>
    dsimp only
    rw [hu32 _ (by omega)]
    congr 1
    omega
  | some highest =>
    dsimp only
    split
    · congr 1
      omega
    · rw [hu32 _ (by omega)]
      congr 1
      omega

/-- What the mark and the count of unconfirmed frames say, after every sequence of operations. -/
theorem contiguous_accounting (epoch : Nat) {ops : List TimelineOp} (hops : ∀ op ∈ ops, op.Fits)
    (hr : ops.foldl Runtime.apply {} = r) (ha : ops.foldl Arrivals.apply {} = a)
    (hepoch : r.remoteInputEpochStartFrame = some epoch) :
    (∀ highest, r.highestContiguousRemoteFrame = some highest →
      epoch ≤ highest ∧ ∀ f, epoch ≤ f → f ≤ highest → f ∈ a.frames) ∧
    r.remoteInputs[r.firstMissing epoch]? = none ∧
    (∀ f, epoch ≤ f → f < u32Max →
      r.unconfirmedRemoteFrameCountThrough f = some (Finset.Icc (r.firstMissing epoch) f).card) ∧
    ∀ (ops' : List TimelineOp) (r' : Runtime) (a' : Arrivals), (∀ op ∈ ops', op.Fits) →
      ops'.foldl Runtime.apply {} = r' → ops'.foldl Arrivals.apply {} = a' →
      r'.remoteInputEpochStartFrame = some epoch → a.forgotten ≤ epoch → a'.forgotten ≤ epoch →
      (∀ f, epoch ≤ f → (f ∈ a.frames ↔ f ∈ a'.frames)) →
      r.highestContiguousRemoteFrame = r'.highestContiguousRemoteFrame := by
  have h : r.Accounted a := by
    have hfold := accounted_init.foldl hops
    rwa [hr, ha] at hfold
  have hmarked := h.marked epoch hepoch
  refine ⟨hmarked.covered, hmarked.next, ?_, ?_⟩
  · intro f hle hf
    exact unconfirmedRemoteFrameCountThrough_eq hepoch hle hf
  · intro ops' r' a' hops' hr' ha' hepoch' hforgotten hforgotten' hframes
    have h' : r'.Accounted a' := by
      have hfold := accounted_init.foldl hops'
      rwa [hr', ha'] at hfold
    exact h.highest_eq h' hepoch hepoch' hforgotten hforgotten' hframes

/-- Inputs that come in out of order, before and after the epoch is known. -/
def outOfOrder : List TimelineOp :=
  [.storeRemote 104 { keyMask := 1 } none false 0, .storeRemote 99 { keyMask := 2 } none false 0,
    .primeEpoch 100 2 {} 0, .storeRemote 103 { keyMask := 3 } none false 0, .pruneHistory 100,
    .storeRemote 102 { keyMask := 4 } (some 106) false 0]

theorem contiguous_accounting_outOfOrder :
    (outOfOrder.foldl Runtime.apply {}).highestContiguousRemoteFrame = some 104 ∧
      (outOfOrder.foldl Runtime.apply {}).unconfirmedRemoteFrameCountThrough 110 = some 6 := by
  have hops : ∀ op ∈ outOfOrder, op.Fits := by
    intro op hop
    fin_cases hop <;> simp [TimelineOp.Fits, u32Max]
  have hhighest : (outOfOrder.foldl Runtime.apply {}).highestContiguousRemoteFrame = some 104 := by
    decide +kernel
  have hmissing : (outOfOrder.foldl Runtime.apply {}).firstMissing 100 = 105 := by
    unfold firstMissing
    rw [hhighest]
  have hcount := (contiguous_accounting 100 hops rfl rfl (by decide +kernel)).2.2.1 110 (by decide)
    (by decide)
  rw [hmissing] at hcount
  exact ⟨hhighest, hcount⟩

end Runtime

end Bigstar.Netplay.InputTimeline
