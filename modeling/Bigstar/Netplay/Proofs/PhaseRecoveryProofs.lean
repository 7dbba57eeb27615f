import Bigstar.Netplay.PhaseRecovery
import Mathlib.Algebra.Order.BigOperators.Group.List
import Mathlib.Algebra.Ring.Int.Defs
import Mathlib.Data.Nat.Cast.Basic
import Mathlib.Tactic.Common

/-!
# Pacing corrections stay bounded

The robust average is a mean of samples, whatever their order. Over any run the windows of samples
and the pending frames are bounded, the frames that skip the frame limit keep their distance, and
nothing that belongs to one generation is left when the next one begins.
-/

namespace Bigstar.Netplay.PhaseRecovery

open OrderedMap

/-! ## The robust average -/

/-- A mean that is rounded towards zero lies between any bounds on the values. -/
theorem sum_tdiv_length_mem {values : List Int} {lo hi : Int} (hne : values ≠ [])
    (h : ∀ v ∈ values, lo ≤ v ∧ v ≤ hi) :
    lo ≤ values.sum.tdiv (values.length : Int) ∧ values.sum.tdiv (values.length : Int) ≤ hi := by
  have hpos : 0 < (values.length : Int) := by
    have := List.length_pos_iff.mpr hne
    omega
  have hlo : lo * values.length ≤ values.sum := by
    have hsum := List.card_nsmul_le_sum values lo fun v hv => (h v hv).1
    rwa [nsmul_eq_mul, Int.mul_comm] at hsum
  have hhi : values.sum ≤ hi * values.length := by
    have hsum := List.sum_le_card_nsmul values hi fun v hv => (h v hv).2
    rwa [nsmul_eq_mul, Int.mul_comm] at hsum
  by_cases hsign : 0 ≤ values.sum
  · rw [Int.tdiv_eq_ediv_of_nonneg hsign]
    exact ⟨(Int.le_ediv_iff_mul_le hpos).mpr hlo, Int.ediv_le_of_le_mul hpos hhi⟩
  · have hneg : values.sum.tdiv values.length = -(-values.sum / values.length) := by
      rw [← Int.tdiv_eq_ediv_of_nonneg (by omega), Int.neg_tdiv, Int.neg_neg]
    have hlow : -values.sum / values.length ≤ -lo := by
      apply Int.ediv_le_of_le_mul hpos
      rw [Int.neg_mul]
      omega
    have hhigh : -hi ≤ -values.sum / values.length := by
      apply (Int.le_ediv_iff_mul_le hpos).mpr
      rw [Int.neg_mul]
      omega
    rw [hneg]
    omega

/-- The average lies between the samples. -/
theorem robustAverage_mem {samples : List Int} {lo hi : Int} (hne : samples ≠ [])
    (h : ∀ s ∈ samples, lo ≤ s ∧ s ≤ hi) :
    lo ≤ robustAverage samples ∧ robustAverage samples ≤ hi := by
  have hlength := List.length_insertionSort (· ≤ ·) samples
  have hpos := List.length_pos_iff.mpr hne
  unfold robustAverage
  rw [if_neg (by simpa using hne)]
  dsimp only
  generalize hsorted : samples.insertionSort (· ≤ ·) = sorted at hlength
  generalize hthird : (if sorted.length ≥ 3 then sorted.length / 3 else 0) = third
  have hwindow : third + (sorted.length - third - third) < sorted.length + 1 ∧
      0 < sorted.length - third - third := by
    split_ifs at hthird
    all_goals omega
  have hcount : ((sorted.drop third).take (sorted.length - third - third)).length
      = sorted.length - third - third := by
    rw [List.length_take, List.length_drop]
    omega
  have hmem : ∀ v ∈ (sorted.drop third).take (sorted.length - third - third), lo ≤ v ∧ v ≤ hi := by
    intro v hv
    have hv := List.mem_of_mem_drop (List.mem_of_mem_take hv)
    rw [← hsorted, List.mem_insertionSort] at hv
    exact h v hv
  have hmean := sum_tdiv_length_mem (List.ne_nil_of_length_pos (by omega)) hmem
  rwa [hcount] at hmean

/-- The order of the samples does not matter. -/
theorem robustAverage_perm {samples samples' : List Int} (h : samples.Perm samples') :
    robustAverage samples = robustAverage samples' := by
  have hsorted : samples.insertionSort (· ≤ ·) = samples'.insertionSort (· ≤ ·) := by
    have hperm := (List.perm_insertionSort (· ≤ ·) samples).trans
      (h.trans (List.perm_insertionSort (· ≤ ·) samples').symm)
    exact hperm.eq_of_pairwise' (List.pairwise_insertionSort _ _) (List.pairwise_insertionSort _ _)
  unfold robustAverage
  rw [hsorted, h.isEmpty_eq]

/-- The outliers at both ends do not count. -/
example : robustAverage [9, -100, 7, 8, 500, 8] = 8 := by decide

/-! ## Bounds -/

namespace Runtime

/-- The windows are not exceeded, and at most three frames are pending. -/
structure Bounded (r : Runtime) : Prop where
  offsetSamples : r.offsetSamples.length ≤ kSampleWindow
  rttSamples : r.rttSamples.length ≤ kSampleWindow
  pending_nonneg : 0 ≤ r.pendingAdvanceFrames
  pending_le : r.pendingAdvanceFrames ≤ kMaxAdvanceFrames

/-- A window never has more samples than it has room for. -/
theorem length_pushSample {samples : List Int} {value : Int} {capacity : Nat} (hpos : 0 < capacity)
    (h : samples.length ≤ capacity) : (pushSample samples value capacity).length ≤ capacity := by
  unfold pushSample
  rw [List.length_append, List.length_singleton]
  by_cases hfull : samples.length = capacity
  · rw [if_pos hfull, List.length_tail]
    omega
  · rw [if_neg hfull]
    omega

variable {r : Runtime}

theorem bounded_start (enabled : Bool) (generation : Option Nat) :
    ({ enabled, generation } : Runtime).Bounded :=
  ⟨Nat.zero_le _, Nat.zero_le _, Int.le_refl 0, show (0 : Int) ≤ 3 by decide⟩

/-- A new generation has no samples. -/
theorem Bounded.ensureGeneration (h : r.Bounded) (generation : Nat) :
    (r.ensureGeneration generation).Bounded := by
  unfold Runtime.ensureGeneration
  split
  · exact h
  · exact bounded_start r.enabled (some generation)

theorem Bounded.recordLocalInput (h : r.Bounded) (generation frame : Nat) (now : Int) :
    (r.recordLocalInput generation frame now).Bounded := by
  unfold Runtime.recordLocalInput
  split
  · exact h
  · have hensured := h.ensureGeneration generation
    exact ⟨hensured.offsetSamples, hensured.rttSamples, hensured.pending_nonneg,
      hensured.pending_le⟩

/-- A round trip is sampled within its bounds. -/
theorem Bounded.recordRemoteAck (h : r.Bounded) (ackFrame : Nat) (now : Int) :
    (r.recordRemoteAck ackFrame now).Bounded := by
  unfold Runtime.recordRemoteAck
  split
  · exact h
  · dsimp only
    split
    · exact ⟨h.offsetSamples, h.rttSamples, h.pending_nonneg, h.pending_le⟩
    · split_ifs
      · exact ⟨h.offsetSamples, h.rttSamples, h.pending_nonneg, h.pending_le⟩
      · exact ⟨h.offsetSamples, h.rttSamples, h.pending_nonneg, h.pending_le⟩
      · exact ⟨h.offsetSamples, length_pushSample (by decide) h.rttSamples,
          h.pending_nonneg, h.pending_le⟩

theorem Bounded.observeRemoteInput (h : r.Bounded) (generation frame : Nat) (now : Int) :
    (r.observeRemoteInput generation frame now).Bounded := by
  unfold Runtime.observeRemoteInput
  split
  · exact h
  · have hensured := h.ensureGeneration generation
    dsimp only
    split
    · exact hensured
    · split_ifs
      · exact hensured
      · exact ⟨length_pushSample (by decide) hensured.offsetSamples, hensured.rttSamples,
          hensured.pending_nonneg, hensured.pending_le⟩

/-- An evaluation keeps the speed within its bounds. -/
theorem Bounded.evaluate (h : r.Bounded) (localFrame : Nat) : (r.evaluate localFrame).Bounded := by
  have hnonneg := h.pending_nonneg
  have hle := h.pending_le
  unfold Runtime.evaluate
  dsimp only
  split
  · exact ⟨h.offsetSamples, h.rttSamples, Int.le_refl 0, show (0 : Int) ≤ 3 by decide⟩
  · refine ⟨h.offsetSamples, h.rttSamples, ?_, ?_⟩
    · exact le_trans hnonneg (le_max_left _ _)
    · exact max_le hle (min_le_left _ _)

/-! ## Consume -/

/-- The runtime that `Consume` decides on: the samples have been evaluated if they were due. -/
def evaluated (localFrame : Nat) (r : Runtime) : Runtime :=
  if r.evaluationDue localFrame then
    { r.evaluate localFrame with lastEvaluationFrame := some localFrame } else r

theorem Bounded.evaluated (h : r.Bounded) (localFrame : Nat) :
    (r.evaluated localFrame).Bounded := by
  have hevaluated := h.evaluate localFrame
  unfold Runtime.evaluated
  split
  · exact ⟨hevaluated.offsetSamples, hevaluated.rttSamples, hevaluated.pending_nonneg,
      hevaluated.pending_le⟩
  · exact h

/-- What `Consume` leaves: nothing happens, the pending frames are dropped, or a frame is decided
on, which may skip the frame limit. -/
inductive Consumes (localFrame : Nat) (r : Runtime) : Runtime → PacingDecision → Prop where
  | disabled (h : r.enabled = false) : Consumes localFrame r r r.snapshot
  | stale : Consumes localFrame r { r with speedRatio := 1.0, pendingAdvanceFrames := 0 }
      { r with speedRatio := 1.0, pendingAdvanceFrames := 0 }.snapshot
  | kept {decision : PacingDecision} (hskip : decision.skipFrameLimit = false) :
      Consumes localFrame r (r.evaluated localFrame) decision
  | skipped {decision : PacingDecision}
    (hdue : (r.evaluated localFrame).advanceDue localFrame = true) :
      Consumes localFrame r
        { r.evaluated localFrame with
          pendingAdvanceFrames := (r.evaluated localFrame).pendingAdvanceFrames - 1
          lastAdvanceFrame := some localFrame
          totalAdvanceFrames := (r.evaluated localFrame).totalAdvanceFrames + 1 } decision

/-- The three ways a call of `Consume` can go. -/
theorem consume_cases (r : Runtime) (localFrame : Nat) (now : Int) :
    Consumes localFrame r (r.consume localFrame now).1 (r.consume localFrame now).2 := by
  unfold consume
  by_cases henabled : r.enabled = true
  · rw [if_neg (by simp [henabled])]
    by_cases hstale : r.lastRemoteObservationAt = 0 ∨
      now - r.lastRemoteObservationAt > kObservationFreshness
    · rw [if_pos hstale]
      exact .stale
    · rw [if_neg hstale]
      dsimp only
      change Consumes localFrame r
        (if (r.evaluated localFrame).advanceDue localFrame then _ else r.evaluated localFrame) _
      by_cases hdue : (r.evaluated localFrame).advanceDue localFrame = true
      · rw [if_pos hdue]
        exact .skipped hdue
      · rw [if_neg hdue]
        exact .kept (Bool.eq_false_iff.mpr hdue)
  · rw [if_pos (by simpa using henabled)]
    exact .disabled (by simpa using henabled)

/-- Enough samples have been observed, the last one at `observed`, and they are late. The frame
`last` is the last one at which they were evaluated and the last one that skipped the frame
limit. -/
structure Late (observed : Int) (last : Option Nat) (r : Runtime) : Prop where
  enabled : r.enabled = true
  observation : r.lastRemoteObservationAt = observed
  observed_ne : observed ≠ 0
  samples : kMinimumSamples ≤ r.offsetSamples.length
  average : robustAverage r.offsetSamples < -kAdvanceThresholdUs
  evaluation : r.lastEvaluationFrame = last
  advance : r.lastAdvanceFrame = last

namespace Late

variable {observed now : Int} {last : Option Nat} {localFrame : Nat}

/-- What was observed a short time ago is not stale. -/
theorem not_stale (h : r.Late observed last) (hnow : now - observed ≤ kObservationFreshness) :
    ¬ (r.lastRemoteObservationAt = 0 ∨
      now - r.lastRemoteObservationAt > kObservationFreshness) := by
  rw [h.observation]
  rintro (hzero | hold)
  · exact h.observed_ne hzero
  · exact absurd hnow (not_le_of_gt hold)

/-- A frame at which the samples are evaluated skips the frame limit. -/
theorem skips (h : r.Late observed last) (hnow : now - observed ≤ kObservationFreshness)
    (hframe : kRecoveryStartFrame ≤ localFrame)
    (hlast : ∀ frame ∈ last, kEvaluationIntervalFrames ≤ frameDifference localFrame frame) :
    (r.consume localFrame now).1.Late observed (some localFrame) ∧
      (r.consume localFrame now).2.skipFrameLimit = true := by
  have hevaluation : r.evaluationDue localFrame = true := by
    unfold evaluationDue
    rw [h.evaluation, decide_eq_true h.samples, Bool.true_and]
    cases last with
    | none => rfl
    | some frame =>
      rw [Option.all_some]
      exact decide_eq_true (hlast frame rfl)
  have hnone : ¬ (localFrame < kRecoveryStartFrame ∨
      robustAverage r.offsetSamples ≥ -kAdvanceThresholdUs) := by
    rintro (hearly | hnear)
    · exact absurd hframe (not_le_of_gt hearly)
    · exact absurd h.average (not_lt_of_ge hnear)
  have hevaluated : r.evaluate localFrame =
      { r with
        offsetUs := robustAverage r.offsetSamples
        speedRatio := clampedSpeedRatio (robustAverage r.offsetSamples)
        pendingAdvanceFrames := max r.pendingAdvanceFrames
          (min kMaxAdvanceFrames (neededFrames (robustAverage r.offsetSamples))) } := by
    unfold evaluate
    exact if_neg hnone
  have hpositive : max r.pendingAdvanceFrames
      (min kMaxAdvanceFrames (neededFrames (robustAverage r.offsetSamples))) > 0 := by
    have hneeded : 1 ≤ neededFrames (robustAverage r.offsetSamples) := le_max_left 1 _
    unfold kMaxAdvanceFrames
    omega
  have hadvance :
    ({ r.evaluate localFrame with lastEvaluationFrame := some localFrame } : Runtime).advanceDue
      localFrame = true := by
    rw [hevaluated]
    unfold advanceDue
    dsimp only
    rw [h.advance, decide_eq_true hpositive, Bool.true_and]
    cases last with
    | none => rfl
    | some frame =>
      rw [Option.all_some]
      exact decide_eq_true (le_trans (by decide) (hlast frame rfl))
  unfold consume
  rw [if_neg (by simp [h.enabled]), if_neg (h.not_stale hnow)]
  simp only [hevaluation, if_true, hadvance, and_true]
  rw [hevaluated]
  exact ⟨h.enabled, h.observation, h.observed_ne, h.samples, h.average, rfl, rfl⟩

/-- A frame right after one that skipped the frame limit changes nothing. -/
theorem waits {frame : Nat} (h : r.Late observed (some frame))
    (hnow : now - observed ≤ kObservationFreshness)
    (hclose : frameDifference localFrame frame < kAdvanceSpacingFrames) :
    (r.consume localFrame now).1 = r ∧ (r.consume localFrame now).2.skipFrameLimit = false := by
  have hevaluation : r.evaluationDue localFrame = false := by
    have hless : ¬ frameDifference localFrame frame ≥ kEvaluationIntervalFrames :=
      not_le_of_gt (lt_trans hclose (by decide))
    unfold evaluationDue
    rw [h.evaluation, Option.all_some, decide_eq_false hless, Bool.and_false]
  have hadvance : r.advanceDue localFrame = false := by
    unfold advanceDue
    rw [h.advance, Option.all_some, decide_eq_false (not_le_of_gt hclose), Bool.and_false]
  unfold consume
  rw [if_neg (by simp [h.enabled]), if_neg (h.not_stale hnow)]
  simp only [hevaluation, hadvance, Bool.false_eq_true, if_false, and_self]

end Late

/-- A call keeps the bounds. -/
theorem Bounded.consume (h : r.Bounded) (localFrame : Nat) (now : Int) :
    (r.consume localFrame now).1.Bounded := by
  have hevaluated := h.evaluated localFrame
  have hcases := r.consume_cases localFrame now
  generalize (r.consume localFrame now).1 = t, (r.consume localFrame now).2 = decision at hcases ⊢
  cases hcases with
  | disabled => exact h
  | stale => exact ⟨h.offsetSamples, h.rttSamples, Int.le_refl 0, show (0 : Int) ≤ 3 by decide⟩
  | kept => exact hevaluated
  | skipped hdue =>
    have hpositive : (r.evaluated localFrame).pendingAdvanceFrames > 0 := by
      unfold advanceDue at hdue
      rw [Bool.and_eq_true] at hdue
      exact of_decide_eq_true hdue.1
    refine ⟨hevaluated.offsetSamples, hevaluated.rttSamples, ?_, ?_⟩
    · exact Int.sub_nonneg_of_le hpositive
    · exact le_trans (Int.sub_le_self _ (by decide)) hevaluated.pending_le

@[simp]
theorem evaluate_generation (r : Runtime) (localFrame : Nat) :
    (r.evaluate localFrame).generation = r.generation := by
  unfold evaluate
  dsimp only
  split <;> rfl

@[simp]
theorem evaluate_lastAdvanceFrame (r : Runtime) (localFrame : Nat) :
    (r.evaluate localFrame).lastAdvanceFrame = r.lastAdvanceFrame := by
  unfold evaluate
  dsimp only
  split <;> rfl

@[simp]
theorem evaluated_generation (r : Runtime) (localFrame : Nat) :
    (r.evaluated localFrame).generation = r.generation := by
  unfold evaluated
  split
  · exact evaluate_generation r localFrame
  · rfl

@[simp]
theorem evaluated_lastAdvanceFrame (r : Runtime) (localFrame : Nat) :
    (r.evaluated localFrame).lastAdvanceFrame = r.lastAdvanceFrame := by
  unfold evaluated
  split
  · exact evaluate_lastAdvanceFrame r localFrame
  · rfl

theorem evaluated_enabled (r : Runtime) (localFrame : Nat) :
    (r.evaluated localFrame).enabled = r.enabled := by
  unfold evaluated evaluate
  dsimp only
  split
  · split <;> rfl
  · rfl

theorem consume_enabled (r : Runtime) (localFrame : Nat) (now : Int) :
    (r.consume localFrame now).1.enabled = r.enabled := by
  have hcases := r.consume_cases localFrame now
  generalize (r.consume localFrame now).1 = t, (r.consume localFrame now).2 = decision at hcases ⊢
  cases hcases with
  | disabled => rfl
  | stale => rfl
  | kept => exact evaluated_enabled r localFrame
  | skipped => exact evaluated_enabled r localFrame

theorem consume_generation (r : Runtime) (localFrame : Nat) (now : Int) :
    (r.consume localFrame now).1.generation = r.generation := by
  have hcases := r.consume_cases localFrame now
  generalize (r.consume localFrame now).1 = t, (r.consume localFrame now).2 = decision at hcases ⊢
  cases hcases with
  | disabled => rfl
  | stale => rfl
  | kept => exact evaluated_generation r localFrame
  | skipped => exact evaluated_generation r localFrame

/-! ## A new generation -/

/-- Nothing is left of the generation before. -/
theorem ensureGeneration_eq {generation : Nat} (h : r.generation ≠ some generation) :
    r.ensureGeneration generation = { enabled := r.enabled, generation := some generation } :=
  if_neg h

theorem ensureGeneration_enabled (r : Runtime) (generation : Nat) :
    (r.ensureGeneration generation).enabled = r.enabled := by
  unfold ensureGeneration
  split <;> rfl

/-- The generation stays, or everything is forgotten. -/
theorem ensureGeneration_cases (r : Runtime) (generation : Nat) :
    ((r.ensureGeneration generation).generation = r.generation ∧
        (r.ensureGeneration generation).lastAdvanceFrame = r.lastAdvanceFrame) ∨
      ((r.ensureGeneration generation).generation ≠ r.generation ∧
        (r.ensureGeneration generation).lastAdvanceFrame = none) := by
  by_cases h : r.generation = some generation
  · have hsame : r.ensureGeneration generation = r := if_pos h
    rw [hsame]
    exact Or.inl ⟨rfl, rfl⟩
  · rw [ensureGeneration_eq h]
    exact Or.inr ⟨fun hsame => h hsame.symm, rfl⟩

end Runtime

namespace PacingCall

variable {r : Runtime}

/-- Each call keeps the bounds. -/
theorem bounded_apply (h : r.Bounded) (call : PacingCall) : (call.apply r).Bounded := by
  cases call with
  | recordLocalInput generation frame now => exact h.recordLocalInput generation frame now
  | recordRemoteAck ackFrame now => exact h.recordRemoteAck ackFrame now
  | observeRemoteInput generation frame now => exact h.observeRemoteInput generation frame now
  | consume localFrame now => exact h.consume localFrame now

/-- A call that belongs to another generation starts anew. -/
theorem apply_of_generation_ne {call : PacingCall} {generation : Nat}
    (hcall : call.generation? = some generation)
    (henabled : r.enabled = true) (h : r.generation ≠ some generation) :
    call.apply r = call.apply { enabled := true } := by
  have hfresh : ({ enabled := true } : Runtime).generation ≠ some generation := by simp
  cases call with
  | recordLocalInput g frame now =>
    obtain rfl := Option.some.inj hcall
    change Runtime.recordLocalInput g frame now r =
      Runtime.recordLocalInput g frame now { enabled := true }
    unfold Runtime.recordLocalInput
    rw [Runtime.ensureGeneration_eq h, Runtime.ensureGeneration_eq hfresh, henabled]
    rfl
  | observeRemoteInput g frame now =>
    obtain rfl := Option.some.inj hcall
    change Runtime.observeRemoteInput g frame now r =
      Runtime.observeRemoteInput g frame now { enabled := true }
    unfold Runtime.observeRemoteInput
    rw [Runtime.ensureGeneration_eq h, Runtime.ensureGeneration_eq hfresh, henabled]
    rfl
  | recordRemoteAck | consume => cases hcall

/-- A call other than `Consume` keeps the frame of the last advance, or forgets it with its
generation. -/
theorem apply_lastAdvanceFrame {call : PacingCall}
    (h : ∀ localFrame now, call ≠ .consume localFrame now) :
    ((call.apply r).generation = r.generation ∧ (call.apply r).lastAdvanceFrame =
      r.lastAdvanceFrame) ∨
      ((call.apply r).generation ≠ r.generation ∧ (call.apply r).lastAdvanceFrame = none) := by
  cases call with
  | recordLocalInput generation frame now =>
    unfold PacingCall.apply Runtime.recordLocalInput
    dsimp only
    split
    · exact Or.inl ⟨rfl, rfl⟩
    · exact Runtime.ensureGeneration_cases r generation
  | recordRemoteAck ackFrame now =>
    left
    unfold PacingCall.apply Runtime.recordRemoteAck
    dsimp only
    split
    · exact ⟨rfl, rfl⟩
    · split
      · exact ⟨rfl, rfl⟩
      · split_ifs
        all_goals exact ⟨rfl, rfl⟩
  | observeRemoteInput generation frame now =>
    unfold PacingCall.apply Runtime.observeRemoteInput
    dsimp only
    split
    · exact Or.inl ⟨rfl, rfl⟩
    · have hensured := Runtime.ensureGeneration_cases r generation
      split
      · exact hensured
      · split
        · exact hensured
        · exact hensured
  | consume localFrame now => exact absurd rfl (h localFrame now)

theorem apply_enabled (call : PacingCall) (r : Runtime) : (call.apply r).enabled = r.enabled := by
  cases call with
  | recordLocalInput generation frame now =>
    unfold PacingCall.apply Runtime.recordLocalInput
    dsimp only
    split
    · rfl
    · exact Runtime.ensureGeneration_enabled r generation
  | recordRemoteAck ackFrame now =>
    unfold PacingCall.apply Runtime.recordRemoteAck
    dsimp only
    split
    · rfl
    · split
      · rfl
      · split_ifs
        all_goals rfl
  | observeRemoteInput generation frame now =>
    have hensured := Runtime.ensureGeneration_enabled r generation
    unfold PacingCall.apply Runtime.observeRemoteInput
    dsimp only
    split
    · rfl
    · split
      · exact hensured
      · split
        · exact hensured
        · exact hensured
  | consume localFrame now => exact Runtime.consume_enabled r localFrame now

/-- A runtime that is not enabled does nothing. -/
theorem apply_of_disabled (call : PacingCall) (h : r.enabled = false) : call.apply r = r := by
  cases call with
  | recordLocalInput => simp [PacingCall.apply, Runtime.recordLocalInput, h]
  | recordRemoteAck => simp [PacingCall.apply, Runtime.recordRemoteAck, h]
  | observeRemoteInput => simp [PacingCall.apply, Runtime.observeRemoteInput, h]
  | consume => simp [PacingCall.apply, Runtime.consume, h]

end PacingCall

/-! ## Runs -/

namespace PacingRun

variable {enabled : Bool}

/-- One call more. -/
theorem after_append (calls : List PacingCall) (call : PacingCall) :
    after enabled (calls ++ [call]) = (after enabled calls).step call := by
  unfold after
  rw [List.foldl_append]
  rfl

theorem after_enabled (calls : List PacingCall) :
    (after enabled calls).runtime.enabled = enabled := by
  induction calls using List.reverseRecOn with
  | nil => rfl
  | append_singleton calls call ih =>
    rw [after_append]
    exact (call.apply_enabled _).trans ih

/-- So do all calls. -/
theorem bounded_after (calls : List PacingCall) : (after enabled calls).runtime.Bounded := by
  induction calls using List.reverseRecOn with
  | nil => exact Runtime.bounded_start enabled none
  | append_singleton calls call ih =>
    rw [after_append]
    exact call.bounded_apply ih

/-- The local frames do not decrease as long as the generation does not change. -/
def FramesInOrder (consumed : List Consumed) : Prop :=
  consumed.Pairwise fun c c' => c.change = c'.change → c.localFrame ≤ c'.localFrame

/-- Frames of one generation that skip the frame limit are this far apart. -/
def SkipsSpaced (consumed : List Consumed) : Prop :=
  consumed.Pairwise fun c c' => c.change = c'.change → c.decision.skipFrameLimit = true →
    c'.decision.skipFrameLimit = true → c.localFrame + kAdvanceSpacingFrames ≤ c'.localFrame

/-- The frame of the last advance is the last frame of its generation that has skipped the frame
limit. -/
structure Spaced (run : PacingRun) : Prop where
  change_le : ∀ c ∈ run.consumed, c.change ≤ run.changes
  skips : SkipsSpaced run.consumed
  last_mem : ∀ last ∈ run.runtime.lastAdvanceFrame,
    ∃ c ∈ run.consumed, c.change = run.changes ∧ c.localFrame = last
  le_last : ∀ c ∈ run.consumed, c.change = run.changes → c.decision.skipFrameLimit = true →
    ∃ last, run.runtime.lastAdvanceFrame = some last ∧ c.localFrame ≤ last

/-- A call that decides nothing keeps the spacing. -/
theorem Spaced.step_of_not_consume {run : PacingRun} (h : run.Spaced) {call : PacingCall}
    (hcall : ∀ localFrame now, call ≠ .consume localFrame now) : (run.step call).Spaced := by
  have hconsumed : (run.step call).consumed = run.consumed := by
    cases call with
    | consume localFrame now => exact absurd rfl (hcall localFrame now)
    | recordLocalInput | recordRemoteAck | observeRemoteInput => rfl
  have hruntime : (run.step call).runtime = call.apply run.runtime := rfl
  obtain ⟨hsame, hlast⟩ | ⟨hchanged, hlast⟩ :=
    PacingCall.apply_lastAdvanceFrame (r := run.runtime) hcall
  · have hchanges : (run.step call).changes = run.changes := if_pos hsame
    constructor
    · rw [hconsumed, hchanges]
      exact h.change_le
    · rw [hconsumed]
      exact h.skips
    · rw [hconsumed, hchanges, hruntime, hlast]
      exact h.last_mem
    · rw [hconsumed, hchanges, hruntime, hlast]
      exact h.le_last
  · have hchanges : (run.step call).changes = run.changes + 1 := if_neg hchanged
    constructor
    · rw [hconsumed, hchanges]
      exact fun c hc => Nat.le_succ_of_le (h.change_le c hc)
    · rw [hconsumed]
      exact h.skips
    · rw [hruntime, hlast]
      intro last hmem
      cases hmem
    · rw [hconsumed, hchanges]
      intro c hc hchange
      have hle := h.change_le c hc
      omega

/-- The frame difference that has been checked is the real one, since the frames come in order. -/
theorem le_of_advanceDue {localFrame last : Nat} {r : Runtime}
    (hdue : r.advanceDue localFrame = true)
    (hlast : r.lastAdvanceFrame = some last) (hle : last ≤ localFrame) :
    last + kAdvanceSpacingFrames ≤ localFrame := by
  unfold Runtime.advanceDue at hdue
  rw [hlast, Bool.and_eq_true, Option.all_some, decide_eq_true_eq, decide_eq_true_eq] at hdue
  have hspacing := hdue.2
  have hdifference : frameDifference localFrame last ≤ localFrame - last := by
    unfold frameDifference u32
    omega
  omega

theorem step_consume (run : PacingRun) (localFrame : Nat) (now : Int) :
    run.step (.consume localFrame now) =
      { runtime := (run.runtime.consume localFrame now).1
        changes := run.changes
        consumed := run.consumed ++
          [⟨run.changes, localFrame, (run.runtime.consume localFrame now).2⟩] } := by
  have hgeneration := Runtime.consume_generation run.runtime localFrame now
  unfold step PacingCall.apply
  simp only [hgeneration, if_true]

/-- A skip comes long enough after the last one. -/
theorem Spaced.step_consume {run : PacingRun} (h : run.Spaced) {localFrame : Nat} {now : Int}
    (horder : FramesInOrder (run.step (.consume localFrame now)).consumed) :
    (run.step (.consume localFrame now)).Spaced := by
  have hchanges : (run.step (.consume localFrame now)).changes = run.changes :=
    if_pos (Runtime.consume_generation run.runtime localFrame now)
  have hconsumed : (run.step (.consume localFrame now)).consumed
      = run.consumed ++ [⟨run.changes, localFrame, (run.runtime.consume localFrame now).2⟩] := rfl
  have hruntime : (run.step (.consume localFrame now)).runtime =
    (run.runtime.consume localFrame now).1 := rfl
  rw [hconsumed] at horder
  have hbefore : ∀ c ∈ run.consumed, c.change = run.changes → c.localFrame ≤ localFrame := by
    intro c hc hchange
    exact (List.pairwise_append.mp horder).2.2 c hc _ (List.mem_singleton_self _) hchange
  have hchange_le : ∀ c ∈ (run.step (.consume localFrame now)).consumed,
      c.change ≤ (run.step (.consume localFrame now)).changes := by
    rw [hconsumed, hchanges]
    intro c hc
    obtain hc | hc := List.mem_append.mp hc
    · exact h.change_le c hc
    · obtain rfl := List.mem_singleton.mp hc
      exact Nat.le_refl _
  have hcases := run.runtime.consume_cases localFrame now
  generalize hstep : run.step (.consume localFrame now) = t at *
  generalize (run.runtime.consume localFrame now).1 = r,
    (run.runtime.consume localFrame now).2 = decision
    at hcases hruntime hconsumed
  -- without a skip the list of skips is the one before
  have hkept : decision.skipFrameLimit = false →
      r.lastAdvanceFrame = run.runtime.lastAdvanceFrame → t.Spaced := by
    intro hskip hlast
    constructor
    · exact hchange_le
    · rw [hconsumed]
      refine List.pairwise_append.mpr ⟨h.skips, List.pairwise_singleton _ _, ?_⟩
      intro c _ c' hc' _ _ hskip'
      obtain rfl := List.mem_singleton.mp hc'
      rw [hskip] at hskip'
      cases hskip'
    · rw [hconsumed, hchanges, hruntime, hlast]
      intro last hmem
      obtain ⟨c, hc, hchange, hframe⟩ := h.last_mem last hmem
      exact ⟨c, List.mem_append_left _ hc, hchange, hframe⟩
    · rw [hconsumed, hchanges, hruntime, hlast]
      intro c hc hchange hskip'
      obtain hc | hc := List.mem_append.mp hc
      · exact h.le_last c hc hchange hskip'
      · obtain rfl := List.mem_singleton.mp hc
        rw [hskip] at hskip'
        cases hskip'
  cases hcases with
  | disabled => exact hkept rfl rfl
  | stale => exact hkept rfl rfl
  | kept hskip => exact hkept hskip (Runtime.evaluated_lastAdvanceFrame _ _)
  | skipped hdue =>
    constructor
    · exact hchange_le
    · rw [hconsumed]
      refine List.pairwise_append.mpr ⟨h.skips, List.pairwise_singleton _ _, ?_⟩
      intro c hc c' hc' hchange hskip _
      obtain rfl := List.mem_singleton.mp hc'
      obtain ⟨last, hlast, hle⟩ := h.le_last c hc hchange hskip
      obtain ⟨c₀, hc₀, hchange₀, rfl⟩ := h.last_mem last hlast
      have hspaced := le_of_advanceDue hdue ((Runtime.evaluated_lastAdvanceFrame _ _).trans hlast)
        (hbefore c₀ hc₀ hchange₀)
      exact le_trans (Nat.add_le_add_right hle _) hspaced
    · rw [hconsumed, hchanges, hruntime]
      intro last hmem
      obtain rfl := Option.some.inj hmem
      exact ⟨_, List.mem_append_right _ (List.mem_singleton_self _), rfl, rfl⟩
    · rw [hconsumed, hchanges, hruntime]
      intro c hc hchange _
      refine ⟨localFrame, rfl, ?_⟩
      obtain hc | hc := List.mem_append.mp hc
      · exact hbefore c hc hchange
      · obtain rfl := List.mem_singleton.mp hc
        exact Nat.le_refl _

/-- The skips of a run are spaced. -/
theorem spaced_after {calls : List PacingCall}
    (horder : FramesInOrder (after enabled calls).consumed) :
    (after enabled calls).Spaced := by
  induction calls using List.reverseRecOn with
  | nil => exact ⟨by simp [after], List.Pairwise.nil, by simp [after], by simp [after]⟩
  | append_singleton calls call ih =>
    rw [after_append] at horder ⊢
    have hprefix : (after enabled calls).consumed.Sublist
        ((after enabled calls).step call).consumed := by
      cases call with
      | consume => exact List.sublist_append_left _ _
      | recordLocalInput | recordRemoteAck | observeRemoteInput => exact List.Sublist.refl _
    have hspaced := ih (horder.sublist hprefix)
    cases call with
    | consume localFrame now => exact hspaced.step_consume horder
    | recordLocalInput | recordRemoteAck | observeRemoteInput =>
      exact hspaced.step_of_not_consume (by simp)

/-! ## Generations -/

/-- Switched off, nothing is ever sampled. -/
theorem after_of_disabled (calls : List PacingCall) : (after false calls).runtime = {} := by
  induction calls using List.reverseRecOn with
  | nil => rfl
  | append_singleton calls call ih =>
    rw [after_append]
    exact (call.apply_of_disabled (after_enabled calls)).trans ih

/-- A call of a new generation finds what it would find in a new runtime. -/
theorem runtime_after_generation {before : List PacingCall} {call : PacingCall} {generation : Nat}
    (hcall : call.generation? = some generation)
    (hnew : (after enabled before).runtime.generation ≠ some generation) :
    (after enabled (before ++ [call])).runtime = (after enabled [call]).runtime := by
  rw [after_append]
  change call.apply (after enabled before).runtime = call.apply { enabled }
  cases enabled with
  | true => exact PacingCall.apply_of_generation_ne hcall (after_enabled before) hnew
  | false => rw [after_of_disabled]

/-- The decisions depend on the runtime alone. -/
theorem decisions_eq_of_runtime_eq {run run' : PacingRun} (h : run.runtime = run'.runtime)
    (rest : List PacingCall) :
    ∃ decisions, (rest.foldl step run).consumed.map (·.decision) =
      run.consumed.map (·.decision) ++ decisions ∧
      (rest.foldl step run').consumed.map (·.decision) =
        run'.consumed.map (·.decision) ++ decisions := by
  induction rest generalizing run run' with
  | nil => exact ⟨[], by simp, by simp⟩
  | cons call rest ih =>
    have hruntime : (run.step call).runtime = (run'.step call).runtime := congrArg call.apply h
    obtain ⟨decisions, hrun, hrun'⟩ := ih hruntime
    rw [List.foldl_cons, List.foldl_cons, hrun, hrun']
    cases call with
    | consume localFrame now =>
      refine ⟨(run.runtime.consume localFrame now).2 :: decisions, ?_, ?_⟩
      · simp [step]
      · simp [step, h]
    | recordLocalInput | recordRemoteAck | observeRemoteInput => exact ⟨decisions, rfl, rfl⟩

/-- The decisions of a new generation are those of a run that begins with it. -/
theorem decisions_of_generation {before rest : List PacingCall}
    {call : PacingCall} {generation : Nat} (hcall : call.generation? = some generation)
    (hnew : (after enabled before).runtime.generation ≠ some generation) :
    (after enabled (before ++ call :: rest)).consumed.map (·.decision)
      = (after enabled before).consumed.map (·.decision)
        ++ (after enabled (call :: rest)).consumed.map (·.decision) := by
  have hruntime := runtime_after_generation hcall hnew
  obtain ⟨decisions, hrun, hfresh⟩ := decisions_eq_of_runtime_eq hruntime rest
  have hsplit : after enabled (before ++ call :: rest) =
      rest.foldl step (after enabled (before ++ [call])) := by
    unfold after
    rw [← List.foldl_append, List.append_assoc]
    rfl
  have hstart : after enabled (call :: rest) = rest.foldl step (after enabled [call]) := rfl
  rw [hsplit, hstart, hrun, hfresh, after_append]
  cases call with
  | recordLocalInput | observeRemoteInput => rfl
  | recordRemoteAck | consume => cases hcall

/-- What is kept and what is decided over any run. -/
theorem pacing_stays_bounded (enabled : Bool) (calls : List PacingCall)
    (horder : FramesInOrder (after enabled calls).consumed) :
    (after enabled calls).runtime.Bounded ∧
      SkipsSpaced (after enabled calls).consumed ∧
      (∀ (samples : List Int) (lo hi : Int), samples ≠ [] → (∀ s ∈ samples, lo ≤ s ∧ s ≤ hi) →
        lo ≤ robustAverage samples ∧ robustAverage samples ≤ hi) ∧
      (∀ samples samples' : List Int, samples.Perm samples' →
        robustAverage samples = robustAverage samples') ∧
      ∀ (before rest : List PacingCall) (call : PacingCall) (generation : Nat), calls =
        before ++ call :: rest →
        call.generation? = some generation →
          (after enabled before).runtime.generation ≠ some generation →
        (after enabled calls).consumed.map (·.decision) =
          (after enabled before).consumed.map (·.decision)
          ++ (after enabled (call :: rest)).consumed.map (·.decision) := by
  refine ⟨bounded_after calls, (spaced_after horder).skips, ?_, ?_, ?_⟩
  · exact fun samples lo hi hne h => robustAverage_mem hne h
  · exact fun samples samples' h => robustAverage_perm h
  · rintro before rest call generation rfl hcall hnew
    exact decisions_of_generation hcall hnew

/-- Three inputs are sent and acknowledged, and ten remote inputs are observed that are ahead of
them. -/
def lateCalls : List PacingCall :=
  [.recordLocalInput 1 100 1000000, .recordLocalInput 1 101 2000000,
    .recordLocalInput 1 102 3000000, .recordRemoteAck 100 21000000, .recordRemoteAck 101 22000000,
    .recordRemoteAck 102 23000000] ++
  (List.range 10).map fun k => .observeRemoteInput 1 (105 + k) 24000000

/-- Frames that make up for the distance, and the first frame of the next generation. -/
def rematchCalls : List PacingCall :=
  [.consume 130 25000000, .consume 131 26000000, .consume 160 27000000,
    .recordLocalInput 2 5 28000000, .consume 5 29000000]

theorem late_after_lateCalls : (after true lateCalls).runtime.Late 24000000 none where
  enabled := after_enabled lateCalls
  observation := by decide +kernel
  observed_ne := by decide
  samples := by decide +kernel
  average := by decide +kernel
  evaluation := by decide +kernel
  advance := by decide +kernel

/-- Two frames of the first generation skip the frame limit; the one between them comes too
early. -/
theorem rematch_consumed :
    (after true (lateCalls ++ rematchCalls)).consumed.map
        (fun c => (c.change, c.localFrame, c.decision.skipFrameLimit)) =
      [(1, 130, true), (1, 131, false), (1, 160, true), (2, 5, false)] := by
  have hlate := late_after_lateCalls
  have hgeneration : (after true lateCalls).runtime.generation = some 1 := by decide +kernel
  have hconsumed : (after true lateCalls).consumed = [] := by decide +kernel
  have hchanges : (after true lateCalls).changes = 1 := by decide +kernel
  have hsplit : after true (lateCalls ++ rematchCalls) =
      rematchCalls.foldl step (after true lateCalls) := List.foldl_append
  rw [hsplit]
  generalize after true lateCalls = run at hlate hgeneration hconsumed hchanges ⊢
  obtain ⟨r, changes, consumed⟩ := run
  dsimp only at hlate hgeneration hconsumed hchanges
  subst hconsumed hchanges
  -- the numbers of skipped frames depend on floating point; that they are skipped does not
  obtain ⟨hlate₁, hskip₁⟩ :=
    hlate.skips (show 25000000 - 24000000 ≤ kObservationFreshness by decide)
    (show kRecoveryStartFrame ≤ 130 by decide) (fun _ h => nomatch h)
  obtain ⟨hsame, hskip₂⟩ :=
    hlate₁.waits (show 26000000 - 24000000 ≤ kObservationFreshness by decide)
    (show frameDifference 131 130 < kAdvanceSpacingFrames by decide)
  have hspaced : ∀ frame ∈ some 130, kEvaluationIntervalFrames ≤ frameDifference 160 frame := by
    rintro frame ⟨⟩
    decide
  obtain ⟨hlate₃, hskip₃⟩ :=
    hlate₁.skips (show 27000000 - 24000000 ≤ kObservationFreshness by decide)
    (show kRecoveryStartFrame ≤ 160 by decide) hspaced
  have hgeneration₁ := (Runtime.consume_generation r 130 25000000).trans hgeneration
  have hgeneration₃ :=
    (Runtime.consume_generation (r.consume 130 25000000).1 160 27000000).trans hgeneration₁
  have hreset : PacingCall.apply ((r.consume 130 25000000).1.consume 160 27000000).1
    (.recordLocalInput 2 5 28000000) =
      PacingCall.apply { enabled := true } (.recordLocalInput 2 5 28000000) :=
    PacingCall.apply_of_generation_ne rfl hlate₃.enabled (by simp [hgeneration₃])
  have hnew : (PacingCall.apply { enabled := true } (.recordLocalInput 2 5 28000000)).generation =
      some 2 := by
    decide +kernel
  have hskip₄ : ((PacingCall.apply { enabled := true } (.recordLocalInput 2 5 28000000)).consume
      5 29000000).2.skipFrameLimit = false := by decide +kernel
  unfold rematchCalls
  rw [List.foldl_cons, step_consume, List.foldl_cons, step_consume, List.foldl_cons, step_consume]
  dsimp only
  rw [hsame]
  simp [step, hreset, hgeneration₃, hskip₁, hskip₂, hskip₃, hskip₄, hnew]

/-- Two skipped frames of one generation keep their distance, and the frames of the next one start
over. -/
theorem pacing_stays_bounded_rematch :
    (after true (lateCalls ++ rematchCalls)).runtime.Bounded ∧
      SkipsSpaced (after true (lateCalls ++ rematchCalls)).consumed ∧
      (after true (lateCalls ++ rematchCalls)).consumed.map (·.decision.skipFrameLimit) =
        [true, false, true, false] := by
  have hconsumed := rematch_consumed
  have horder : FramesInOrder (after true (lateCalls ++ rematchCalls)).consumed := by
    have hframes := congrArg (List.map fun c => (c.1, c.2.1)) hconsumed
    rw [List.map_map] at hframes
    have hpairs : ((after true (lateCalls ++ rematchCalls)).consumed.map
        fun c => (c.change, c.localFrame)).Pairwise fun c c' => c.1 = c'.1 → c.2 ≤ c'.2 := by
      refine (congrArg (List.Pairwise _) hframes).mpr ?_
      decide
    exact List.pairwise_map.mp hpairs
  have hbounded := pacing_stays_bounded true (lateCalls ++ rematchCalls) horder
  refine ⟨hbounded.1, hbounded.2.1, ?_⟩
  have hskips := congrArg (List.map fun c => c.2.2) hconsumed
  rw [List.map_map] at hskips
  exact hskips

end PacingRun

end Bigstar.Netplay.PhaseRecovery
