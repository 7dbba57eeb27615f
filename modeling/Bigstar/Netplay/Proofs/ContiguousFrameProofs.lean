import Bigstar.Netplay.FrameLoop
import Bigstar.Netplay.Proofs.InputTimelineProofs

/-!
# The contiguous remote frames

`highestContiguousRemoteFrame` stands for a claim about the map of remote inputs: that every frame
from the epoch up to it is there, and that the one after it is not. The operations that add remote
inputs keep the claim true and never move the frame back.
-/

namespace Bigstar.Netplay.InputTimeline

open OrderedMap

/-- `a` lies at or below `b`, with no frame lying below every frame. -/
def AtMost (a b : Option Nat) : Prop := ∀ x, a = some x → ∃ y, b = some y ∧ x ≤ y

theorem AtMost.refl (a : Option Nat) : AtMost a a := fun x hx => ⟨x, hx, Nat.le_refl x⟩

theorem AtMost.trans {a b c : Option Nat} (hab : AtMost a b) (hbc : AtMost b c) : AtMost a c := by
  intro x hx
  obtain ⟨y, hy, hxy⟩ := hab x hx
  obtain ⟨z, hz, hyz⟩ := hbc y hy
  exact ⟨z, hz, Nat.le_trans hxy hyz⟩

theorem atMost_none (b : Option Nat) : AtMost none b := fun _ hx => absurd hx (by simp)

namespace Runtime

/-- Every frame from the epoch to the highest contiguous one is among the remote inputs. -/
def Contiguous (r : Runtime) (epoch : Nat) : Prop :=
  ∀ highest, r.highestContiguousRemoteFrame = some highest →
    epoch ≤ highest ∧ ∀ f, epoch ≤ f → f ≤ highest → ∃ input, r.remoteInputs[f]? = some input

/-- The first frame from the epoch on that the contiguous frames do not include. -/
def firstMissing (r : Runtime) (epoch : Nat) : Nat :=
  match r.highestContiguousRemoteFrame with
  | some highest => highest + 1
  | none => epoch

/-- The contiguous frames are all there are, up to the first gap. -/
def Maximal (r : Runtime) (epoch : Nat) : Prop :=
  r.highestContiguousRemoteFrame = some u32Max ∨ r.remoteInputs[r.firstMissing epoch]? = none

/-- If all frames below `bound` are there, then they are among the contiguous ones. -/
theorem Maximal.le_firstMissing {r : Runtime} {epoch bound : Nat} (h : r.Maximal epoch)
    (hcontiguous : r.Contiguous epoch) (hbound : bound ≤ u32Max + 1)
    (hall : ∀ f, epoch ≤ f → f < bound → r.remoteInputs[f]?.isSome) :
    bound ≤ r.firstMissing epoch := by
  rcases h with hmax | hnone
  · unfold firstMissing
    rw [hmax]
    exact hbound
  · by_contra hlt
    have hle : epoch ≤ r.firstMissing epoch := by
      unfold firstMissing
      cases hhighest : r.highestContiguousRemoteFrame with
      | none => exact Nat.le_refl epoch
      | some highest => exact Nat.le_succ_of_le (hcontiguous highest hhighest).1
    have hsome := hall (r.firstMissing epoch) hle (by omega)
    rw [hnone] at hsome
    exact absurd hsome (by simp)

/-! ## Advancing -/

/-- The loop stops where it started, or behind frames that are all there. -/
theorem advanceLoop_cases (remoteInputs : InputMap) (rounds nextFrame : Nat)
    (highest : Option Nat) :
    advanceLoop remoteInputs rounds nextFrame highest = highest ∨
      ∃ h, advanceLoop remoteInputs rounds nextFrame highest = some h ∧ nextFrame ≤ h ∧
        ∀ f, nextFrame ≤ f → f ≤ h → ∃ input, remoteInputs[f]? = some input := by
  induction rounds generalizing nextFrame highest with
  | zero => exact Or.inl rfl
  | succ rounds ih =>
    unfold advanceLoop
    by_cases hnext : remoteInputs[nextFrame]?.isSome
    · rw [if_pos hnext]
      obtain ⟨input, hinput⟩ := Option.isSome_iff_exists.mp hnext
      -- one more frame is there; the rest of the loop starts behind it
      have hself : ∀ f, nextFrame ≤ f → f ≤ nextFrame → ∃ input, remoteInputs[f]? = some input := by
        intro f h₁ h₂
        obtain rfl : f = nextFrame := by omega
        exact ⟨input, hinput⟩
      by_cases hmax : nextFrame = u32Max
      · rw [if_pos hmax]
        exact Or.inr ⟨nextFrame, rfl, Nat.le_refl nextFrame, hself⟩
      · rw [if_neg hmax]
        rcases ih (nextFrame + 1) (some nextFrame) with heq | ⟨h, heq, hle, hall⟩
        · exact Or.inr ⟨nextFrame, heq, Nat.le_refl nextFrame, hself⟩
        · refine Or.inr ⟨h, heq, by omega, ?_⟩
          intro f h₁ h₂
          by_cases hf : f = nextFrame
          · exact hself f (by omega) (by omega)
          · exact hall f (by omega) h₂
    · rw [if_neg hnext]
      exact Or.inl rfl

/-- With a round for every key that is left, the loop stops at a gap or at the last frame. -/
theorem advanceLoop_stops (remoteInputs : InputMap) (rounds nextFrame : Nat) (highest : Option Nat)
    (hrounds : keysFrom remoteInputs nextFrame < rounds) :
    advanceLoop remoteInputs rounds nextFrame highest = some u32Max ∨
      advanceLoop remoteInputs rounds nextFrame highest = highest ∧
      remoteInputs[nextFrame]? = none ∨
      ∃ h, advanceLoop remoteInputs rounds nextFrame highest = some h ∧
        remoteInputs[h + 1]? = none := by
  induction rounds generalizing nextFrame highest with
  | zero => exact absurd hrounds (Nat.not_lt_zero _)
  | succ rounds ih =>
    unfold advanceLoop
    cases hnext : remoteInputs[nextFrame]? with
    | none =>
      rw [if_neg (by simp)]
      exact Or.inr (Or.inl ⟨rfl, rfl⟩)
    | some input =>
      rw [if_pos (Option.isSome_some)]
      by_cases hmax : nextFrame = u32Max
      · rw [if_pos hmax, hmax]
        exact Or.inl rfl
      · rw [if_neg hmax]
        have hlt := keysFrom_succ_lt hnext
        rcases ih (nextFrame + 1) (some nextFrame) (by omega) with h | ⟨heq, hnone⟩ | h
        · exact Or.inl h
        · exact Or.inr (Or.inr ⟨nextFrame, heq, hnone⟩)
        · exact Or.inr (Or.inr h)

/-- The highest contiguous frame moves up to the first gap, -/
theorem maximal_advanceContiguousRemoteFrame {r : Runtime} {epoch : Nat}
    (hepoch : r.remoteInputEpochStartFrame = some epoch) :
    r.advanceContiguousRemoteFrame.Maximal epoch := by
  unfold advanceContiguousRemoteFrame
  rw [hepoch]
  dsimp only
  split
  · next hmax => exact Or.inl hmax
  · have hrounds : ∀ nextFrame, keysFrom r.remoteInputs nextFrame < r.remoteInputs.size + 1 :=
      fun nextFrame => Nat.lt_succ_of_le (keysFrom_le_size _ _)
    unfold Maximal firstMissing
    dsimp only
    rcases hr : r.highestContiguousRemoteFrame with _ | before
    · dsimp only
      rcases advanceLoop_stops r.remoteInputs _ epoch none (hrounds _) with
        h | ⟨h, hnone⟩ | ⟨g, h, hnone⟩
      · exact Or.inl h
      · rw [h]
        exact Or.inr hnone
      · rw [h]
        exact Or.inr hnone
    · dsimp only
      rcases advanceLoop_stops r.remoteInputs _ (before + 1) (some before) (hrounds _) with
        h | ⟨h, hnone⟩ | ⟨g, h, hnone⟩
      · exact Or.inl h
      · rw [h]
        exact Or.inr hnone
      · rw [h]
        exact Or.inr hnone

/-- and leaves none behind. -/
theorem contiguous_advanceContiguousRemoteFrame {r : Runtime} {epoch : Nat} (h : r.Contiguous epoch)
    (hepoch : r.remoteInputEpochStartFrame = some epoch) :
    r.advanceContiguousRemoteFrame.Contiguous epoch := by
  unfold advanceContiguousRemoteFrame
  rw [hepoch]
  dsimp only
  split
  · exact h
  · intro highest hhighest
    dsimp only at hhighest ⊢
    rcases hr : r.highestContiguousRemoteFrame with _ | before
    · rw [hr] at hhighest
      rcases advanceLoop_cases r.remoteInputs (r.remoteInputs.size + 1) epoch none with
        heq | ⟨h', heq, hle, hall⟩
      · rw [heq] at hhighest
        exact absurd hhighest (by simp)
      · rw [heq] at hhighest
        obtain rfl := Option.some.inj hhighest
        exact ⟨hle, hall⟩
    · rw [hr] at hhighest
      obtain ⟨hbefore, hold⟩ := h before hr
      rcases advanceLoop_cases r.remoteInputs (r.remoteInputs.size + 1)
        (before + 1) (some before) with
        heq | ⟨h', heq, hle, hall⟩
      · rw [heq] at hhighest
        obtain rfl := Option.some.inj hhighest
        exact ⟨hbefore, hold⟩
      · rw [heq] at hhighest
        obtain rfl := Option.some.inj hhighest
        refine ⟨by omega, ?_⟩
        intro f h₁ h₂
        by_cases hf : f ≤ before
        · exact hold f h₁ hf
        · exact hall f (by omega) h₂

theorem atMost_advanceContiguousRemoteFrame (r : Runtime) :
    AtMost r.highestContiguousRemoteFrame
      r.advanceContiguousRemoteFrame.highestContiguousRemoteFrame := by
  intro before hbefore
  unfold advanceContiguousRemoteFrame
  split
  · exact ⟨before, hbefore, Nat.le_refl before⟩
  · dsimp only
    split
    · exact ⟨before, hbefore, Nat.le_refl before⟩
    · rw [hbefore]
      rcases advanceLoop_cases r.remoteInputs (r.remoteInputs.size + 1)
        (before + 1) (some before) with
        heq | ⟨h, heq, hle, -⟩
      · exact ⟨before, heq, Nat.le_refl before⟩
      · exact ⟨h, heq, by omega⟩

/-- Without an epoch there is nothing to advance. -/
theorem advanceContiguousRemoteFrame_of_none {r : Runtime}
    (h : r.remoteInputEpochStartFrame = none) : r.advanceContiguousRemoteFrame = r := by
  unfold advanceContiguousRemoteFrame
  rw [h]

/-! ## Storing one input -/

/-- A remote input is entered into the map, and then the contiguous frame advances. -/
theorem storeRemote_eq_advance (r : Runtime) (frame : Nat) (input : InputState)
    (localFrame : Option Nat) (confirmPrediction : Bool) (noFrameLimit : Nat) :
    ∃ rollbackInputs last,
      (r.storeRemote frame input localFrame confirmPrediction noFrameLimit).1 =
        { r with
          rollbackInputs := rollbackInputs
          remoteInputs := r.remoteInputs.insert frame input
          lastReceivedInputFrame := last : Runtime }.advanceContiguousRemoteFrame := by
  unfold storeRemote
  dsimp only
  split
  · exact ⟨_, frame, rfl⟩
  · exact ⟨_, r.lastReceivedInputFrame, rfl⟩

/-- `Stored r r' entries`: `r'` is `r` after some of the remote inputs in `entries` have come in. -/
structure Stored (r r' : Runtime) (entries : List (Nat × InputState)) : Prop where
  localInputs : r'.localInputs = r.localInputs
  lastSent : r'.lastSentInputFrame = r.lastSentInputFrame
  epochStart : r'.remoteInputEpochStartFrame = r.remoteInputEpochStartFrame
  remoteInputs : ∀ (f : Nat) (v : InputState), r'.remoteInputs[f]? = some v →
    r.remoteInputs[f]? = some v ∨ (f, v) ∈ entries
  present : ∀ f : Nat, r.remoteInputs[f]?.isSome → r'.remoteInputs[f]?.isSome
  highest : AtMost r.highestContiguousRemoteFrame r'.highestContiguousRemoteFrame
  highest_of_none : r.remoteInputEpochStartFrame = none →
    r'.highestContiguousRemoteFrame = r.highestContiguousRemoteFrame
  contiguous : ∀ epoch, r.remoteInputEpochStartFrame = some epoch → r.Contiguous epoch →
    r'.Contiguous epoch
  maximal : ∀ epoch, r.remoteInputEpochStartFrame = some epoch → r.Maximal epoch → r'.Maximal epoch

theorem Contiguous.insert {r : Runtime} {epoch : Nat} (h : r.Contiguous epoch) (frame last : Nat)
    (input : InputState) (rollbackInputs : PredictionRuntime) :
    { r with
      rollbackInputs := rollbackInputs
      remoteInputs := r.remoteInputs.insert frame input
      lastReceivedInputFrame := last : Runtime }.Contiguous epoch := by
  intro highest hhighest
  obtain ⟨hle, hall⟩ := h highest hhighest
  refine ⟨hle, ?_⟩
  intro f h₁ h₂
  dsimp only
  rw [getElem?_insert_eq]
  split
  · exact ⟨input, rfl⟩
  · exact hall f h₁ h₂

/-- An input is stored where there was none. -/
theorem stored_storeRemote (r : Runtime) (frame : Nat) (input : InputState)
    (localFrame : Option Nat) (confirmPrediction : Bool) (noFrameLimit : Nat) :
    Stored r (r.storeRemote frame input localFrame confirmPrediction noFrameLimit).1
      [(frame, input)] := by
  obtain ⟨rollbackInputs, last, heq⟩ :=
    storeRemote_eq_advance r frame input localFrame confirmPrediction noFrameLimit
  rw [heq]
  set r' : Runtime := { r with
    rollbackInputs := rollbackInputs
    remoteInputs := r.remoteInputs.insert frame input
    lastReceivedInputFrame := last } with hr'
  obtain ⟨highest, hadv⟩ := advanceContiguousRemoteFrame_eq r'
  refine ⟨by rw [hadv], by rw [hadv], by rw [hadv], ?_, ?_, ?_, ?_, ?_, ?_⟩
  · intro f v hv
    rw [hadv] at hv
    dsimp only [hr'] at hv
    rw [getElem?_insert_eq] at hv
    split at hv
    · next hf =>
      obtain rfl := Option.some.inj hv
      exact Or.inr (by rw [hf]; exact List.mem_singleton_self _)
    · exact Or.inl hv
  · intro f hf
    rw [hadv]
    dsimp only [hr']
    rw [getElem?_insert_eq]
    split
    · rfl
    · exact hf
  · exact atMost_advanceContiguousRemoteFrame r'
  · intro hnone
    rw [advanceContiguousRemoteFrame_of_none (show r'.remoteInputEpochStartFrame = none from hnone)]
  · intro epoch hepoch hcontiguous
    have hins : r'.Contiguous epoch := hcontiguous.insert frame last input rollbackInputs
    exact contiguous_advanceContiguousRemoteFrame hins hepoch
  · intro epoch hepoch _
    exact maximal_advanceContiguousRemoteFrame (r := r') hepoch

theorem stored_self (r : Runtime) (entries : List (Nat × InputState)) : Stored r r entries :=
  ⟨rfl, rfl, rfl, fun _ _ h => Or.inl h, fun _ h => h, AtMost.refl _, fun _ => rfl, fun _ _ h => h,
    fun _ _ h => h⟩

theorem stored_rollbackInputs (r : Runtime) (rollbackInputs : PredictionRuntime) :
    Stored r { r with rollbackInputs := rollbackInputs } [] :=
  ⟨rfl, rfl, rfl, fun _ _ h => Or.inl h, fun _ h => h, AtMost.refl _, fun _ => rfl, fun _ _ h => h,
    fun _ _ h => h⟩

theorem Stored.trans {r₁ r₂ r₃ : Runtime} {xs ys : List (Nat × InputState)} (h : Stored r₁ r₂ xs)
    (h' : Stored r₂ r₃ ys) : Stored r₁ r₃ (xs ++ ys) where
  localInputs := h'.localInputs.trans h.localInputs
  lastSent := h'.lastSent.trans h.lastSent
  epochStart := h'.epochStart.trans h.epochStart
  remoteInputs := by
    intro f v hv
    rcases h'.remoteInputs f v hv with hv | hv
    · rcases h.remoteInputs f v hv with hv | hv
      · exact Or.inl hv
      · exact Or.inr (List.mem_append_left ys hv)
    · exact Or.inr (List.mem_append_right xs hv)
  present f hf := h'.present f (h.present f hf)
  highest := h.highest.trans h'.highest
  highest_of_none hnone :=
    (h'.highest_of_none (h.epochStart.trans hnone)).trans (h.highest_of_none hnone)
  contiguous epoch hepoch hcontiguous :=
    h'.contiguous epoch (h.epochStart.trans hepoch) (h.contiguous epoch hepoch hcontiguous)
  maximal epoch hepoch hmaximal :=
    h'.maximal epoch (h.epochStart.trans hepoch) (h.maximal epoch hepoch hmaximal)

theorem stored_storeRemoteInputLocked (sharedLogicalEpoch : Nat) (rollbackEnabled : Bool)
    (localFrame : Nat) (r : Runtime) (arrival : RollbackRuntime.Arrival) :
    Stored r
      (RollbackRuntime.storeRemoteInputLocked sharedLogicalEpoch rollbackEnabled
        localFrame r arrival)
      [(arrival.frame, arrival.input)] := by
  unfold RollbackRuntime.storeRemoteInputLocked
  split
  · exact stored_self r _
  · exact stored_storeRemote r _ _ _ _ _

/-- An input that is not from before the epoch is there afterwards. -/
theorem isSome_storeRemoteInputLocked (sharedLogicalEpoch : Nat) (rollbackEnabled : Bool)
    (localFrame : Nat) (r : Runtime) (arrival : RollbackRuntime.Arrival)
    (h : sharedLogicalEpoch ≤ arrival.frame) :
    (RollbackRuntime.storeRemoteInputLocked sharedLogicalEpoch rollbackEnabled localFrame r
      arrival).remoteInputs[arrival.frame]?.isSome := by
  unfold RollbackRuntime.storeRemoteInputLocked
  rw [if_neg (by omega)]
  obtain ⟨rollbackInputs, last, heq⟩ := storeRemote_eq_advance r arrival.frame arrival.input
    (if localFrame = RollbackStorage.kNoFrame then none else some localFrame) rollbackEnabled
    RollbackStorage.kNoFrame
  dsimp only
  rw [heq]
  obtain ⟨highest, hadv⟩ := advanceContiguousRemoteFrame_eq { r with
    rollbackInputs := rollbackInputs
    remoteInputs := r.remoteInputs.insert arrival.frame arrival.input
    lastReceivedInputFrame := last }
  rw [hadv]
  dsimp only
  rw [getElem?_insert_eq, if_pos rfl]
  rfl

/-! ## Priming -/

/-- Priming fills gaps with the neutral input. -/
theorem getElem?_primeFrames (inputs : InputMap) (neutralInput : InputState)
    (startFrame count f : Nat) :
    (primeFrames inputs neutralInput startFrame count)[f]? =
      if inputs[f]? = none ∧ startFrame ≤ f ∧ f < startFrame + count then some neutralInput
      else inputs[f]? := by
  unfold primeFrames
  induction count with
  | zero =>
    simp only [List.range'_zero, List.foldl_nil]
    rw [if_neg (by omega)]
  | succ count ih =>
    rw [List.range'_concat, List.foldl_append]
    simp only [List.foldl_cons, List.foldl_nil, Nat.one_mul]
    rw [getElem?_insertIfNew_eq]
    by_cases hf : startFrame + count = f
    · -- the last frame of the range: neutral if it was free, untouched otherwise
      subst hf
      rw [if_neg (fun h => absurd h.2.2 (Nat.lt_irrefl _))] at ih
      rw [ih]
      by_cases hnone : inputs[startFrame + count]? = none
      · rw [if_pos ⟨rfl, hnone⟩, if_pos ⟨hnone, by omega, by omega⟩]
      · rw [if_neg (fun h => hnone h.2), if_neg (fun h => hnone h.1)]
    · rw [if_neg (fun h => hf h.1), ih]
      by_cases hcond : inputs[f]? = none ∧ startFrame ≤ f ∧ f < startFrame + count
      · rw [if_pos hcond, if_pos ⟨hcond.1, hcond.2.1, by omega⟩]
      · rw [if_neg hcond, if_neg]
        rintro ⟨h₁, h₂, h₃⟩
        exact hcond ⟨h₁, h₂, by omega⟩

/-- `PrimeEpoch` of an epoch that does not wrap. -/
structure Primed (r r' : Runtime) (startFrame delay : Nat) (neutralInput : InputState) : Prop where
  localInputs : ∀ f, r'.localInputs[f]? =
    if startFrame ≤ f then
      if r.localInputs[f]? = none ∧ f < startFrame + delay then some neutralInput
      else r.localInputs[f]?
    else none
  remoteInputs : ∀ f, r'.remoteInputs[f]? =
    if startFrame ≤ f then
      if r.remoteInputs[f]? = none ∧ f < startFrame + delay then some neutralInput
      else r.remoteInputs[f]?
    else none
  lastSent : r'.lastSentInputFrame = r.lastSentInputFrame
  epochStart : r'.remoteInputEpochStartFrame = some startFrame
  contiguous : r'.Contiguous startFrame
  maximal : r'.Maximal startFrame

theorem getElem?_primeFrames_eraseBelow (inputs : InputMap) (neutralInput : InputState)
    (startFrame count f : Nat) :
    (primeFrames (inputs.eraseBelow startFrame) neutralInput startFrame count)[f]? =
      if startFrame ≤ f then
        if inputs[f]? = none ∧ f < startFrame + count then some neutralInput else inputs[f]?
      else none := by
  rw [getElem?_primeFrames, getElem?_eraseBelow]
  by_cases hf : startFrame ≤ f
  · simp only [hf, if_true, true_and]
  · simp only [hf, if_false, false_and, and_false]

/-- The first inputs of an epoch are neutral. -/
theorem primed_primeEpoch (r : Runtime) {startFrame delay : Nat} (neutralInput : InputState)
    (noFrameLimit : Nat) (hfits : startFrame + delay ≤ u32Max) :
    Primed r (r.primeEpoch startFrame delay neutralInput noFrameLimit) startFrame delay
      neutralInput := by
  have hu32 : u32 (startFrame + delay) - startFrame = delay := by
    unfold u32
    unfold u32Max at hfits
    rw [Nat.mod_eq_of_lt (by omega)]
    omega
  unfold primeEpoch pruneHistory
  dsimp only
  rw [hu32]
  set base : Runtime := { r with
    localInputs := primeFrames (r.localInputs.eraseBelow startFrame) neutralInput startFrame delay
    remoteInputs := primeFrames (r.remoteInputs.eraseBelow startFrame) neutralInput startFrame delay
    remoteInputEpochStartFrame := some startFrame
    highestContiguousRemoteFrame := none } with hbase
  -- the bookkeeping of the last frame does not touch what the statement is about
  suffices h : ∀ last, Primed r
      { base with lastReceivedInputFrame := last : Runtime }.advanceContiguousRemoteFrame startFrame
      delay neutralInput by
    split
    · split
      · exact h _
      · exact h base.lastReceivedInputFrame
    · exact h base.lastReceivedInputFrame
  intro last
  set r' : Runtime := { base with lastReceivedInputFrame := last } with hr'
  obtain ⟨highest, hadv⟩ := advanceContiguousRemoteFrame_eq r'
  refine ⟨?_, ?_, by rw [hadv], by rw [hadv], ?_, maximal_advanceContiguousRemoteFrame rfl⟩
  · intro f
    rw [hadv]
    exact getElem?_primeFrames_eraseBelow r.localInputs neutralInput startFrame delay f
  · intro f
    rw [hadv]
    exact getElem?_primeFrames_eraseBelow r.remoteInputs neutralInput startFrame delay f
  · refine contiguous_advanceContiguousRemoteFrame ?_ rfl
    intro highest hhighest
    exact absurd hhighest (by simp [hr', hbase])

/-! ## Before and after the start

From its epoch on, a timeline records one local input per frame, `delay` frames ahead. -/

/-- Nothing has been recorded or sent: remote inputs may have come in, and nothing else. -/
structure Waiting (r : Runtime) : Prop where
  localInputs : ∀ f : Nat, r.localInputs[f]? = none
  lastSent : r.lastSentInputFrame = RollbackStorage.kNoFrame
  epochStart : r.remoteInputEpochStartFrame = none
  highest : r.highestContiguousRemoteFrame = none

/-- The inputs of the frames below `n` have been recorded. -/
structure Started (epoch delay : Nat) (r : Runtime) (n : Nat) : Prop where
  epoch_le : epoch ≤ n
  fits : n + delay ≤ u32Max + 1
  localInputs : ∀ f, (∃ v, r.localInputs[f]? = some v) ↔ epoch ≤ f ∧ f < n + delay
  neutral : ∀ f, epoch ≤ f → f < epoch + delay →
    r.localInputs[f]? = some RollbackRuntime.neutralInput
  epochStart : r.remoteInputEpochStartFrame = some epoch
  contiguous : r.Contiguous epoch

variable {epoch delay n : Nat} {r r' : Runtime}

theorem Waiting.stored {entries : List (Nat × InputState)} (h : Waiting r)
    (hstored : Stored r r' entries) : Waiting r' := by
  refine ⟨?_, hstored.lastSent.trans h.lastSent, hstored.epochStart.trans h.epochStart,
    (hstored.highest_of_none h.epochStart).trans h.highest⟩
  intro f
  rw [hstored.localInputs]
  exact h.localInputs f

theorem Started.stored {entries : List (Nat × InputState)} (h : Started epoch delay r n)
    (hstored : Stored r r' entries) : Started epoch delay r' n := by
  refine ⟨h.epoch_le, h.fits, ?_, ?_, hstored.epochStart.trans h.epochStart,
    hstored.contiguous epoch h.epochStart h.contiguous⟩
  · intro f
    rw [hstored.localInputs]
    exact h.localInputs f
  · intro f h₁ h₂
    rw [hstored.localInputs]
    exact h.neutral f h₁ h₂

/-- What is on record right after priming is neutral. -/
theorem Waiting.getElem?_of_primed (h : Waiting r)
    (hprimed : Primed r r' epoch delay RollbackRuntime.neutralInput) (f : Nat) :
    r'.localInputs[f]? =
      if epoch ≤ f ∧ f < epoch + delay then some RollbackRuntime.neutralInput else none := by
  rw [hprimed.localInputs f, h.localInputs f]
  by_cases h₁ : epoch ≤ f <;> simp [h₁]

theorem Waiting.started_of_primed (h : Waiting r)
    (hprimed : Primed r r' epoch delay RollbackRuntime.neutralInput)
    (hfits : epoch + delay ≤ u32Max) : Started epoch delay r' epoch := by
  refine ⟨Nat.le_refl _, Nat.le_succ_of_le hfits, ?_, ?_, hprimed.epochStart, hprimed.contiguous⟩
  · intro f
    rw [h.getElem?_of_primed hprimed f]
    by_cases hf : epoch ≤ f ∧ f < epoch + delay
    · simp [hf]
    · simp only [hf, if_false, iff_false]
      rintro ⟨v, hv⟩
      exact absurd hv (by simp)
  · intro f h₁ h₂
    rw [h.getElem?_of_primed hprimed f, if_pos ⟨h₁, h₂⟩]

/-- The input of the next frame has been recorded. -/
structure Recorded (r r' : Runtime) (sendFrame : Nat) (input : InputState) : Prop where
  localInputs : r'.localInputs = r.localInputs.insert sendFrame input
  remoteInputs : r'.remoteInputs = r.remoteInputs
  epochStart : r'.remoteInputEpochStartFrame = r.remoteInputEpochStartFrame
  highest : r'.highestContiguousRemoteFrame = r.highestContiguousRemoteFrame

/-- The next input is recorded. -/
theorem Started.recorded {input : InputState} (h : Started epoch delay r n)
    (hrecorded : Recorded r r' (n + delay) input) (hfits : n + delay ≤ u32Max) :
    Started epoch delay r' (n + 1) := by
  have hepoch := h.epoch_le
  refine ⟨Nat.le_succ_of_le hepoch, by omega, ?_, ?_, hrecorded.epochStart.trans h.epochStart, ?_⟩
  · intro f
    rw [hrecorded.localInputs, getElem?_insert_eq]
    by_cases hf : n + delay = f
    · rw [if_pos hf]
      exact ⟨fun _ => by omega, fun _ => ⟨input, rfl⟩⟩
    · rw [if_neg hf, h.localInputs f]
      omega
  · intro f h₁ h₂
    rw [hrecorded.localInputs, getElem?_insert_eq, if_neg (by omega)]
    exact h.neutral f h₁ h₂
  · intro highest hhighest
    rw [hrecorded.highest] at hhighest
    rw [hrecorded.remoteInputs]
    exact h.contiguous highest hhighest

/-- The frame that is recorded was not on record, so nothing that was is changed. -/
theorem Started.getElem?_recorded {input : InputState} (h : Started epoch delay r n)
    (hrecorded : Recorded r r' (n + delay) input) {f : Nat} {v : InputState}
    (hv : r.localInputs[f]? = some v) : r'.localInputs[f]? = some v := by
  have hlt := ((h.localInputs f).mp ⟨v, hv⟩).2
  rw [hrecorded.localInputs, getElem?_insert_eq, if_neg (by omega)]
  exact hv

theorem Started.firstKey (h : Started epoch delay r n) (hpos : epoch < n + delay) :
    r.localInputs.firstKey = some epoch := by
  obtain ⟨v, hv⟩ := (h.localInputs epoch).mpr ⟨Nat.le_refl _, hpos⟩
  refine firstKey_eq_some hv ?_
  intro f w hw
  exact ((h.localInputs f).mp ⟨w, hw⟩).1

end Runtime

end Bigstar.Netplay.InputTimeline
