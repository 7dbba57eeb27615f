import Bigstar.Netplay.Recording
import Bigstar.Netplay.Proofs.InputScriptProofs
import Bigstar.Netplay.Proofs.InputTimelineProofs

/-!
# A recording replays itself

The spans that a recorder has written, together with the span it is in, hold for every frame the
input that is kept for it. This is preserved by every call of `Record`, and the text of the spans is
read back to the spans.
-/

namespace Bigstar.Netplay.InputTimeline

open CText

/-! ## The inputs that are kept -/

variable {history : List Sample} {frame frame' : Nat} {input : InputState}

theorem inputsAt_append_self :
    inputsAt (history ++ [(frame, input)]) frame = inputsAt history frame ++ [input] := by
  simp [inputsAt]

theorem inputsAt_append_of_ne (h : frame' ≠ frame) :
    inputsAt (history ++ [(frame, input)]) frame' = inputsAt history frame' := by
  simp [inputsAt, Ne.symm h]

/-- No call has come to the frame. -/
theorem inputsAt_eq_nil (h : ∀ sample ∈ history, sample.1 < frame) :
    inputsAt history frame = [] := by
  rw [inputsAt, List.map_eq_nil_iff, List.filter_eq_nil_iff]
  intro sample hsample
  rw [decide_eq_true_eq]
  exact Nat.ne_of_lt (h sample hsample)

/-- Something is kept of every frame with an input, and of no other. -/
theorem keptInput_eq_none : keptInput history frame = none ↔ inputsAt history frame = [] := by
  cases frame with
  | zero => rw [keptInput, List.getLast?_eq_none_iff]
  | succ frame =>
    rw [keptInput]
    split_ifs
    · exact List.head?_eq_none_iff
    · exact List.getLast?_eq_none_iff

/-- A later frame does not change what is kept. -/
theorem keptInput_append_of_lt (h : frame' < frame) :
    keptInput (history ++ [(frame, input)]) frame' = keptInput history frame' := by
  induction frame' with
  | zero => rw [keptInput, keptInput, inputsAt_append_of_ne (Nat.ne_of_lt h)]
  | succ frame' ih =>
    rw [keptInput, keptInput, inputsAt_append_of_ne (Nat.ne_of_lt h), ih (by omega)]

theorem keptInput_append_of_gt (hlast : ∀ sample ∈ history, sample.1 < frame')
    (h : frame < frame') :
    keptInput (history ++ [(frame, input)]) frame' = none := by
  rw [keptInput_eq_none, inputsAt_append_of_ne (Nat.ne_of_gt h), inputsAt_eq_nil hlast]

/-- A frame that is recorded once is kept with its input. -/
theorem keptInput_of_inputsAt (h : inputsAt history frame = [input]) :
    keptInput history frame = some input := by
  cases frame with
  | zero => rw [keptInput, h, List.getLast?_singleton]
  | succ frame =>
    rw [keptInput, h]
    split_ifs
    · rfl
    · rfl

/-- The first input of a frame is kept. -/
theorem keptInput_append_new (h : ∀ sample ∈ history, sample.1 < frame) :
    keptInput (history ++ [(frame, input)]) frame = some input := by
  apply keptInput_of_inputsAt
  rw [inputsAt_append_self, inputsAt_eq_nil h, List.nil_append]

/-- The first input of the frame is the one that the frame before it is kept with. -/
def Continues (history : List Sample) (frame : Nat) : Prop :=
  ∃ previous, frame = previous + 1 ∧ (inputsAt history frame).head? = keptInput history previous

theorem keptInput_of_continues (h : Continues history frame) :
    keptInput history frame = (inputsAt history frame).head? := by
  obtain ⟨previous, rfl, hhead⟩ := h
  rw [keptInput, if_pos hhead]

theorem keptInput_of_not_continues (h : ¬Continues history frame) :
    keptInput history frame = (inputsAt history frame).getLast? := by
  cases frame with
  | zero => rw [keptInput]
  | succ previous =>
    rw [keptInput, if_neg]
    exact fun hhead => h ⟨previous, rfl, hhead⟩

/-- Recording a frame again does not change whether it continues the frame before it. -/
theorem continues_append_self (h : inputsAt history frame ≠ []) :
    Continues (history ++ [(frame, input)]) frame ↔ Continues history frame := by
  have hhead : (inputsAt (history ++ [(frame, input)]) frame).head? =
      (inputsAt history frame).head? := by
    rw [inputsAt_append_self, List.head?_append_of_ne_nil _ h]
  unfold Continues
  rw [hhead]
  constructor
  · rintro ⟨previous, rfl, hkept⟩
    exact ⟨previous, rfl, by rwa [keptInput_append_of_lt (Nat.lt_succ_self _)] at hkept⟩
  · rintro ⟨previous, rfl, hkept⟩
    exact ⟨previous, rfl, by rwa [keptInput_append_of_lt (Nat.lt_succ_self _)]⟩

/-- A frame that continues the one before it keeps its first input. -/
theorem keptInput_append_of_continues (h : inputsAt history frame ≠ [])
    (hcontinues : Continues history frame) :
    keptInput (history ++ [(frame, input)]) frame = keptInput history frame := by
  rw [keptInput_of_continues ((continues_append_self h).mpr hcontinues),
    keptInput_of_continues hcontinues, inputsAt_append_self, List.head?_append_of_ne_nil _ h]

/-- Any other frame keeps its last one. -/
theorem keptInput_append_of_not_continues (h : inputsAt history frame ≠ [])
    (hcontinues : ¬Continues history frame) :
    keptInput (history ++ [(frame, input)]) frame = some input := by
  rw [keptInput_of_not_continues fun hc => hcontinues ((continues_append_self h).mp hc),
    inputsAt_append_self, List.getLast?_concat]

theorem le_of_mem_concat {last : Nat} (h : ∀ sample ∈ history, sample.1 ≤ last)
    (hframe : frame ≤ last) :
    ∀ sample ∈ history ++ [(frame, input)], sample.1 ≤ last := by
  intro sample hsample
  rw [List.mem_append, List.mem_singleton] at hsample
  rcases hsample with hsample | rfl
  · exact h sample hsample
  · exact hframe

/-! ## Looking up a frame in spans -/

/-- The input of the first span that holds the frame. -/
def lookup (spans : List InputSpan) (frame : Nat) : Option InputState :=
  (spans.find? fun span => span.start ≤ frame && frame ≤ span.finish).map InputSpan.input

/-- A script of recorded spans gives each frame the input of its span. -/
theorem applyScript_eq_lookup {spans : List InputSpan}
    (h : ∀ span ∈ spans, span.Recorded) (instanceID : Int) (frame : Nat) (fallback : InputState) :
    applyScript spans instanceID frame fallback = (lookup spans frame).getD fallback := by
  induction spans with
  | nil => rfl
  | cons span spans ih =>
    have hforAll := (h span List.mem_cons_self).forAll
    have hrest := ih fun s hs => h s (List.mem_cons_of_mem _ hs)
    rw [applyScript, lookup, List.find?_cons, hforAll]
    by_cases hin : span.start ≤ frame ∧ frame ≤ span.finish
    · simp [hin]
    · rw [not_and_or] at hin
      rcases hin with hin | hin
      · simpa [hin, lookup] using hrest
      · simpa [hin, lookup] using hrest

/-- The last of some spans in order is found where it is. -/
theorem lookup_concat {spans : List InputSpan} {last : InputSpan}
    (h : ∀ span ∈ spans, span.finish < last.start) (frame : Nat) :
    lookup (spans ++ [last]) frame
      = if last.start ≤ frame ∧ frame ≤ last.finish then some last.input else
        lookup spans frame := by
  unfold lookup
  rw [List.find?_append]
  split_ifs with hin
  · have hnone : spans.find? (fun span => span.start ≤ frame && frame ≤ span.finish) = none := by
      rw [List.find?_eq_none]
      intro span hspan
      have := h span hspan
      simp
      omega
    rw [hnone, Option.none_or, List.find?_cons_of_pos (by simpa using hin)]
    rfl
  · rw [List.find?_cons_of_neg (by simpa using hin), List.find?_nil, Option.or_none]

/-! ## One call -/

/-- The span that a recorder is in. -/
def Recorder.span (r : Recorder) : InputSpan := ⟨-1, r.spanStart, r.spanEnd, r.spanInput⟩

/-- A recorder that is in a span, after these samples and with these spans written. -/
structure Recorder.Holds (text : Text) (r : Recorder) (done : List InputSpan)
    (history : List Sample) : Prop where
  output : r.output = text ++ spanLines done
  done_recorded : ∀ span ∈ done, span.Recorded
  recorded : r.span.Recorded
  ordered : ∀ span ∈ done, span.finish < r.spanStart
  last : ∀ sample ∈ history, sample.1 ≤ r.spanEnd
  kept : ∀ frame, (if r.spanStart ≤ frame ∧ frame ≤ r.spanEnd then
    some r.spanInput else lookup done frame)
    = keptInput history frame
  continues : Continues history r.spanEnd ↔ r.spanStart ≠ r.spanEnd

namespace Recorder.Holds

variable {text : Text} {r : Recorder} {done : List InputSpan}

theorem kept_spanEnd (h : r.Holds text done history) :
    keptInput history r.spanEnd = some r.spanInput := by
  have hordered : r.spanStart ≤ r.spanEnd := h.recorded.ordered
  rw [← h.kept r.spanEnd, if_pos ⟨hordered, Nat.le_refl _⟩]

/-- Spans and kept inputs say the same. -/
theorem lookup_eq (h : r.Holds text done history) (frame : Nat) :
    lookup (done ++ [r.span]) frame = keptInput history frame :=
  (lookup_concat h.ordered frame).trans (h.kept frame)

theorem inputsAt_spanEnd (h : r.Holds text done history) : inputsAt history r.spanEnd ≠ [] := by
  intro hnil
  have hnone := keptInput_eq_none.mpr hnil
  rw [h.kept_spanEnd] at hnone
  cases hnone

/-- Nothing is kept of later frames. -/
theorem keptInput_of_spanEnd_lt (h : r.Holds text done history) (hframe : r.spanEnd < frame) :
    keptInput history frame = none := by
  rw [keptInput_eq_none]
  exact inputsAt_eq_nil fun sample hsample => Nat.lt_of_le_of_lt (h.last sample hsample) hframe

/-- The next frame with the same input makes the span longer. -/
theorem extend (h : r.Holds text done history) (hframe : r.spanEnd + 1 < 2 ^ 32) :
    ({ r with spanEnd := r.spanEnd + 1 } : Recorder).Holds text done
      (history ++ [(r.spanEnd + 1, r.spanInput)]) := by
  have hspan : r.spanStart ≤ r.spanEnd := h.recorded.ordered
  have hlast : ∀ sample ∈ history, sample.1 < r.spanEnd + 1 := fun sample hsample =>
    Nat.lt_succ_of_le (h.last sample hsample)
  refine ⟨h.output, h.done_recorded, ?_, h.ordered, ?_, ?_, ?_⟩
  · exact ⟨rfl, Nat.le_succ_of_le hspan, hframe, h.recorded.keyMask, h.recorded.onScreen⟩
  · exact le_of_mem_concat (fun sample hsample => Nat.le_of_lt (hlast sample hsample))
      (Nat.le_refl _)
  · intro frame
    have hkept := h.kept frame
    change (if r.spanStart ≤ frame ∧ frame ≤ r.spanEnd + 1 then some r.spanInput else
      lookup done frame) = _
    rcases Nat.lt_trichotomy frame (r.spanEnd + 1) with hlt | rfl | hgt
    · rw [keptInput_append_of_lt hlt, ← hkept]
      simp [Nat.le_of_lt hlt, Nat.le_of_lt_succ hlt]
    · rw [keptInput_append_new hlast, if_pos ⟨Nat.le_succ_of_le hspan, Nat.le_refl _⟩]
    · rw [keptInput_append_of_gt
        (fun sample hsample => Nat.lt_trans (hlast sample hsample) hgt) hgt,
        if_neg (by omega)]
      rwa [if_neg (by omega), h.keptInput_of_spanEnd_lt (by omega)] at hkept
  · refine ⟨fun _ => Nat.ne_of_lt (Nat.lt_succ_of_le hspan), fun _ => ⟨r.spanEnd, rfl, ?_⟩⟩
    rw [inputsAt_append_self, inputsAt_eq_nil hlast, keptInput_append_of_lt (Nat.lt_succ_self _),
      h.kept_spanEnd]
    rfl

/-- The last frame again, in a span of more frames: the new input is dropped. -/
theorem again_of_longer (h : r.Holds text done history) (hlonger : r.spanStart ≠ r.spanEnd)
    (input : InputState) : r.Holds text done (history ++ [(r.spanEnd, input)]) := by
  have hcontinues := h.continues.mpr hlonger
  refine ⟨h.output, h.done_recorded, h.recorded, h.ordered, ?_, ?_, ?_⟩
  · exact le_of_mem_concat h.last (Nat.le_refl _)
  · intro frame
    rw [h.kept frame]
    rcases Nat.lt_trichotomy frame r.spanEnd with hlt | rfl | hgt
    · rw [keptInput_append_of_lt hlt]
    · rw [keptInput_append_of_continues h.inputsAt_spanEnd hcontinues]
    · rw [h.keptInput_of_spanEnd_lt hgt,
        keptInput_append_of_gt (fun sample hsample =>
          Nat.lt_of_le_of_lt (h.last sample hsample) hgt) hgt]
  · rw [continues_append_self h.inputsAt_spanEnd]
    exact h.continues

/-- The last frame again, in a span of its own: the new input replaces the old one. -/
theorem again_of_single (h : r.Holds text done history) (hsingle : r.spanStart = r.spanEnd)
    (hkeyMask : input.keyMask &&& 0xFFF = input.keyMask) (honScreen : OnScreen input) :
    ({ r with spanInput := input } : Recorder).Holds text done
      (history ++ [(r.spanEnd, input)]) := by
  have hcontinues : ¬Continues history r.spanEnd := fun hc => h.continues.mp hc hsingle
  refine ⟨h.output, h.done_recorded, ?_, h.ordered, ?_, ?_, ?_⟩
  · exact ⟨rfl, h.recorded.ordered, h.recorded.finish_lt, hkeyMask, honScreen⟩
  · exact le_of_mem_concat h.last (Nat.le_refl _)
  · intro frame
    have hkept := h.kept frame
    change (if r.spanStart ≤ frame ∧ frame ≤ r.spanEnd then some input else lookup done frame) = _
    rcases Nat.lt_trichotomy frame r.spanEnd with hlt | rfl | hgt
    · rw [keptInput_append_of_lt hlt, ← hkept, if_neg (by omega), if_neg (by omega)]
    · rw [keptInput_append_of_not_continues h.inputsAt_spanEnd hcontinues, if_pos (by omega)]
    · rw [keptInput_append_of_gt
        (fun sample hsample => Nat.lt_of_le_of_lt (h.last sample hsample) hgt) hgt,
        if_neg (by omega)]
      rwa [if_neg (by omega), h.keptInput_of_spanEnd_lt hgt] at hkept
  · rw [continues_append_self h.inputsAt_spanEnd]
    exact h.continues

/-- Any other later frame ends the span and begins a new one. -/
theorem next (h : r.Holds text done history) (hspan : r.hasSpan = true) (hlater : r.spanEnd < frame)
    (hne : ¬(r.spanEnd + 1 = frame ∧ r.spanInput = input)) (hframe : frame < 2 ^ 32)
    (hkeyMask : input.keyMask &&& 0xFFF = input.keyMask) (honScreen : OnScreen input) :
    (r.flushSpanLocked.startSpan frame input).Holds text (done ++ [r.span])
      (history ++ [(frame, input)]) := by
  have hlast : ∀ sample ∈ history, sample.1 < frame := fun sample hsample =>
    Nat.lt_of_le_of_lt (h.last sample hsample) hlater
  have hordered : ∀ span ∈ done ++ [r.span], span.finish < frame := by
    intro span hmem
    rw [List.mem_append, List.mem_singleton] at hmem
    rcases hmem with hmem | rfl
    · have hstart : r.spanStart ≤ r.spanEnd := h.recorded.ordered
      have hfinish := h.ordered span hmem
      omega
    · exact hlater
  refine ⟨?_, ?_, ?_, hordered, ?_, ?_, ?_⟩
  · rw [Recorder.flushSpanLocked, if_pos hspan]
    dsimp only [Recorder.startSpan]
    rw [h.output, spanLines, spanLines, List.flatMap_append,
      List.flatMap_singleton, List.append_assoc, List.append_assoc]
    rfl
  · intro span hmem
    rw [List.mem_append, List.mem_singleton] at hmem
    rcases hmem with hmem | rfl
    · exact h.done_recorded span hmem
    · exact h.recorded
  · exact ⟨rfl, Nat.le_refl _, hframe, hkeyMask, honScreen⟩
  · exact le_of_mem_concat (fun sample hsample => Nat.le_of_lt (hlast sample hsample))
      (Nat.le_refl _)
  · intro frame'
    change (if frame ≤ frame' ∧ frame' ≤ frame then some input else
      lookup (done ++ [r.span]) frame') = _
    rw [h.lookup_eq]
    rcases Nat.lt_trichotomy frame' frame with hlt | rfl | hgt
    · rw [keptInput_append_of_lt hlt, if_neg (by omega)]
    · rw [keptInput_append_new hlast, if_pos ⟨Nat.le_refl _, Nat.le_refl _⟩]
    · rw [keptInput_append_of_gt
        (fun sample hsample => Nat.lt_trans (hlast sample hsample) hgt) hgt,
        if_neg (by omega), h.keptInput_of_spanEnd_lt (by omega)]
  · refine ⟨fun hcontinues => ?_, fun hstart => absurd rfl hstart⟩
    change Continues (history ++ [(frame, input)]) frame at hcontinues
    obtain ⟨previous, rfl, hhead⟩ := hcontinues
    rw [inputsAt_append_self, inputsAt_eq_nil hlast,
      keptInput_append_of_lt (Nat.lt_succ_self _)] at hhead
    by_cases hprevious : r.spanEnd = previous
    · rw [← hprevious, h.kept_spanEnd] at hhead
      exact absurd ⟨congrArg (· + 1) hprevious, (Option.some.inj hhead).symm⟩ hne
    · rw [h.keptInput_of_spanEnd_lt (by omega)] at hhead
      cases hhead

end Recorder.Holds

/-! ## All calls -/

/-- A recorder after some samples: it is in a span, or there has been no sample yet. -/
structure Recorder.Recorded (start : Recorder) (r : Recorder) (done : List InputSpan)
    (history : List Sample) : Prop where
  enabled : r.enabled = true
  startFrame : r.startFrame = start.startFrame
  endFrame : r.endFrame = start.endFrame
  instanceID : r.instanceID = start.instanceID
  empty : r.hasSpan = false → r.output = start.output ∧ done = [] ∧ history = []
  holds : r.hasSpan = true → r.Holds start.output done history

/-- The last frame that has been recorded. -/
def Recorder.lastFrame (r : Recorder) : Option Nat := if r.hasSpan then some r.spanEnd else none

/-- The last frame after a further sample. -/
def nextLast (last : Option Nat) (frame : Nat) : Option Nat :=
  if last.any (frame < ·) then last else some frame

theorem advancing_cons (last : Option Nat) (sample : Sample) (rest : List Sample) :
    advancing last (sample :: rest) = advancing last [sample] ++
      advancing (nextLast last sample.1) rest := by
  unfold nextLast
  simp only [advancing]
  split_ifs
  · rfl
  · rfl

/-- A new span begins with its frame. -/
theorem holds_startSpan {text : Text} {r : Recorder} (houtput : r.output = text)
    (hframe : frame < 2 ^ 32)
    (hkeyMask : input.keyMask &&& 0xFFF = input.keyMask) (honScreen : OnScreen input) :
    (r.startSpan frame input).Holds text [] [(frame, input)] := by
  have hempty : ∀ frame, ∀ sample ∈ ([] : List Sample), sample.1 < frame := by simp
  have hnone : ∀ frame, keptInput [] frame = none := fun frame => keptInput_eq_none.mpr rfl
  change (r.startSpan frame input).Holds text [] ([] ++ [(frame, input)])
  refine ⟨?_, ?_, ⟨rfl, Nat.le_refl _, hframe, hkeyMask, honScreen⟩, ?_, ?_, ?_, ?_⟩
  · rw [spanLines, List.flatMap_nil, List.append_nil]
    exact houtput
  · simp
  · simp
  · exact le_of_mem_concat (by simp) (Nat.le_refl _)
  · intro frame'
    change (if frame ≤ frame' ∧ frame' ≤ frame then some input else none) = _
    rcases Nat.lt_trichotomy frame' frame with hlt | rfl | hgt
    · rw [if_neg (by omega), keptInput_append_of_lt hlt, hnone]
    · rw [if_pos ⟨Nat.le_refl _, Nat.le_refl _⟩, keptInput_append_new (hempty _)]
    · rw [if_neg (by omega), keptInput_append_of_gt (hempty _) hgt]
  · refine ⟨fun hcontinues => ?_, fun hstart => absurd rfl hstart⟩
    change Continues ([] ++ [(frame, input)]) frame at hcontinues
    obtain ⟨previous, rfl, hhead⟩ := hcontinues
    rw [inputsAt_append_self, keptInput_append_of_lt (Nat.lt_succ_self _), hnone] at hhead
    cases hhead

section Run

variable {start r : Recorder} {done : List InputSpan} {call : RecordCall}

theorem keyMask_recordInput (input : InputState) :
    (Recorder.recordInput input).keyMask &&& 0xFFF = (Recorder.recordInput input).keyMask := by
  simp only [Recorder.recordInput, UInt32.and_assoc]
  rfl

theorem Recorder.Recorded.accepts_eq (h : start.Recorded r done history) :
    r.accepts call.instanceID call.frame = start.accepts call.instanceID call.frame := by
  unfold Recorder.accepts
  rw [h.startFrame, h.endFrame, h.instanceID]

/-- The recorder is still in a span. -/
theorem Recorder.Recorded.of_holds (h : start.Recorded r done history) {r' : Recorder}
    {done' : List InputSpan} {history' : List Sample} (henabled : r'.enabled = r.enabled)
    (hstart : r'.startFrame = r.startFrame)
    (hend : r'.endFrame = r.endFrame) (hinstance : r'.instanceID = r.instanceID)
    (hspan : r'.hasSpan = true)
    (hholds : r'.Holds start.output done' history') : start.Recorded r' done' history' where
  enabled := henabled.trans h.enabled
  startFrame := hstart.trans h.startFrame
  endFrame := hend.trans h.endFrame
  instanceID := hinstance.trans h.instanceID
  empty := by
    intro hno
    rw [hspan] at hno
    cases hno
  holds := fun _ => hholds

/-- The sum `SpanEnd_ + 1` only wraps around where no further frame is recorded. -/
theorem u32_succ_eq_iff {last : Nat} (hlast : last < 2 ^ 32) (hframe : frame < 2 ^ 32)
    (hwrap : last = u32Max → frame ≠ 0) : u32 (last + 1) = frame ↔ last + 1 = frame := by
  by_cases hmax : last = u32Max
  · have hzero := hwrap hmax
    subst hmax
    have hsum : u32 (u32Max + 1) = 0 := rfl
    have hmax : u32Max + 1 = 2 ^ 32 := rfl
    omega
  · have hsum : u32 (last + 1) = last + 1 := Nat.mod_eq_of_lt (by unfold u32Max at hmax; omega)
    rw [hsum]

/-- What a call for a frame in range does. -/
theorem Recorder.Recorded.record (h : start.Recorded r done history)
    (haccepts : start.accepts call.instanceID call.frame = true) (hframe : call.frame < 2 ^ 32)
    (hscreen : OnScreen call.input) (hwrap : r.lastFrame = some u32Max → call.frame ≠ 0) :
    (r.record call.instanceID call.frame call.input).lastFrame = nextLast r.lastFrame call.frame ∧
    ∃ done', start.Recorded (r.record call.instanceID call.frame call.input) done'
      (history ++ advancing r.lastFrame [(call.frame, Recorder.recordInput call.input)]) := by
  have hkeyMask := keyMask_recordInput call.input
  have haccepts' := h.accepts_eq.trans haccepts
  unfold Recorder.record
  rw [if_neg (by simp [h.enabled]), if_neg (by simp [haccepts'])]
  dsimp only
  by_cases hspan : r.hasSpan = true
  · rw [if_neg (by simp [hspan])]
    have hholds := h.holds hspan
    have hlast : r.lastFrame = some r.spanEnd := by simp [Recorder.lastFrame, hspan]
    have hnext := u32_succ_eq_iff hholds.recorded.finish_lt hframe fun hmax => hwrap (hmax ▸ hlast)
    have hextend :
      (u32 (r.spanEnd + 1) == call.frame && inputsEqual r.spanInput (recordInput call.input)) = true
        ↔ r.spanEnd + 1 = call.frame ∧ r.spanInput = recordInput call.input := by
      rw [Bool.and_eq_true, beq_iff_eq, inputsEqual_iff]
      exact and_congr_left fun _ => hnext
    simp only [hlast, hextend]
    by_cases hback : call.frame < r.spanEnd
    · have hdropped : advancing (some r.spanEnd) [(call.frame, recordInput call.input)] = [] := by
        simp [advancing, hback]
      rw [hdropped, List.append_nil, if_neg (by omega), if_pos (Nat.le_of_lt hback),
        if_neg (by simp; omega)]
      refine ⟨?_, done, h⟩
      rw [hlast, nextLast, if_pos (by simpa using hback)]
    · have hadvances : advancing (some r.spanEnd) [(call.frame, recordInput call.input)]
          = [(call.frame, recordInput call.input)] := by
        simp [advancing, hback]
      have hnextLast : nextLast (some r.spanEnd) call.frame = some call.frame :=
        if_neg (by simpa using hback)
      rw [hadvances, hnextLast]
      by_cases hlonger : r.spanEnd + 1 = call.frame ∧ r.spanInput = recordInput call.input
      · rw [if_pos hlonger, ← hlonger.1, ← hlonger.2]
        exact ⟨if_pos hspan, done, h.of_holds rfl rfl rfl rfl hspan (hholds.extend (by omega))⟩
      · rw [if_neg hlonger]
        by_cases hagain : call.frame = r.spanEnd
        · rw [if_pos (Nat.le_of_eq hagain), hagain]
          by_cases hsingle : r.spanStart = r.spanEnd
          · have hreplaced := hholds.again_of_single hsingle hkeyMask hscreen
            by_cases hsame : r.spanInput = recordInput call.input
            · -- The input is the one of the span already.
              rw [if_neg (by simp [inputsEqual_iff.mpr hsame])]
              rw [← hsame] at hreplaced ⊢
              exact ⟨hlast, done, h.of_holds rfl rfl rfl rfl hspan hreplaced⟩
            · have hdiffers : inputsEqual r.spanInput (recordInput call.input) = false :=
                Bool.eq_false_iff.mpr fun heq => hsame (inputsEqual_iff.mp heq)
              rw [if_pos (by simp [hdiffers, hsingle])]
              exact ⟨if_pos hspan, done, h.of_holds rfl rfl rfl rfl hspan hreplaced⟩
          · rw [if_neg (by simp [hsingle])]
            exact ⟨hlast, done, h.of_holds rfl rfl rfl rfl hspan (hholds.again_of_longer hsingle _)⟩
        · rw [if_neg (by omega)]
          have hstarts := hholds.next hspan (by omega) hlonger hframe hkeyMask hscreen
          refine ⟨if_pos rfl, done ++ [r.span], h.of_holds ?_ ?_ ?_ ?_ rfl hstarts⟩
          all_goals
            simp only [Recorder.startSpan, Recorder.flushSpanLocked]
            rw [if_pos hspan]
  · have hnone : r.hasSpan = false := Bool.eq_false_iff.mpr hspan
    obtain ⟨houtput, rfl, rfl⟩ := h.empty hnone
    have hlast : r.lastFrame = none := if_neg hspan
    have hholds := holds_startSpan houtput hframe hkeyMask hscreen
    rw [if_pos (by simp [hnone]), hlast]
    exact ⟨if_pos rfl, [], h.of_holds rfl rfl rfl rfl rfl hholds⟩

variable {startFrame endFrame : Nat} {instanceID : Int}

theorem Recorder.Recorded.record_of_not_inRange
    (h : (Recorder.openFile startFrame endFrame instanceID).Recorded r done history)
    (hrange : ¬call.InRange startFrame endFrame instanceID) :
    r.record call.instanceID call.frame call.input = r := by
  have haccepts : r.accepts call.instanceID call.frame = false :=
    h.accepts_eq.trans (Bool.eq_false_iff.mpr hrange)
  unfold Recorder.record
  rw [haccepts]
  simp

/-- A call in range is a sample. -/
theorem samples_cons_of_inRange (hrange : call.InRange startFrame endFrame instanceID)
    (calls : List RecordCall) :
    samples startFrame endFrame instanceID (call :: calls)
      = (call.frame, Recorder.recordInput call.input) ::
        samples startFrame endFrame instanceID calls := by
  rw [samples, List.filter_cons_of_pos (by simpa using hrange), List.map_cons]
  rfl

theorem samples_cons_of_not_inRange (hrange : ¬call.InRange startFrame endFrame instanceID)
    (calls : List RecordCall) :
    samples startFrame endFrame instanceID (call :: calls) =
      samples startFrame endFrame instanceID calls := by
  rw [samples, List.filter_cons_of_neg (by simpa using hrange)]
  rfl

/-- What all calls do. -/
theorem Recorder.Recorded.recordAll {calls : List RecordCall}
    (h : (Recorder.openFile startFrame endFrame instanceID).Recorded r done history)
    (hframe : ∀ call ∈ calls, call.frame < 2 ^ 32) (hscreen : ∀ call ∈ calls, OnScreen call.input)
    (hwrap : calls.Pairwise fun call call' => ¬(call.frame = u32Max ∧ call'.frame = 0))
    (hlast : r.lastFrame = some u32Max → ∀ call ∈ calls, call.frame ≠ 0) :
    ∃ done', (Recorder.openFile startFrame endFrame instanceID).Recorded (r.recordAll calls) done'
      (history ++ advancing r.lastFrame (samples startFrame endFrame instanceID calls)) := by
  induction calls generalizing r done history with
  | nil => exact ⟨done, by rwa [samples, List.filter_nil, List.map_nil, advancing, List.append_nil]⟩
  | cons call calls ih =>
    obtain ⟨hwrapCall, hwrap⟩ := List.pairwise_cons.mp hwrap
    have hframe' := fun c hc => hframe c (List.mem_cons_of_mem _ hc)
    have hscreen' := fun c hc => hscreen c (List.mem_cons_of_mem _ hc)
    have hlast' := fun hmax c hc => hlast hmax c (List.mem_cons_of_mem _ hc)
    change ∃ done', (Recorder.openFile startFrame endFrame instanceID).Recorded
      ((r.record call.instanceID call.frame call.input).recordAll calls) done' _
    by_cases hrange : call.InRange startFrame endFrame instanceID
    · obtain ⟨hnext, done', hrecord⟩ := h.record hrange (hframe call List.mem_cons_self)
        (hscreen call List.mem_cons_self) (fun hmax => hlast hmax call List.mem_cons_self)
      rw [samples_cons_of_inRange hrange, advancing_cons, ← List.append_assoc, ← hnext]
      apply ih hrecord hframe' hscreen' hwrap
      intro hmax c hc hzero
      rw [hnext, nextLast] at hmax
      split_ifs at hmax
      · exact hlast' hmax c hc hzero
      · exact hwrapCall c hc ⟨Option.some.inj hmax, hzero⟩
    · rw [h.record_of_not_inRange hrange, samples_cons_of_not_inRange hrange]
      exact ih h hframe' hscreen' hwrap hlast'

/-- The spans that are in the file in the end. -/
theorem Recorder.Recorded.close (h : start.Recorded r done history) :
    ∃ spans, (∀ span ∈ spans, span.Recorded) ∧ r.close.output = start.output ++ spanLines spans ∧
      ∀ frame, lookup spans frame = keptInput history frame := by
  by_cases hspan : r.hasSpan = true
  · have hholds := h.holds hspan
    refine ⟨done ++ [r.span], ?_, ?_, hholds.lookup_eq⟩
    · intro span hmem
      rw [List.mem_append, List.mem_singleton] at hmem
      rcases hmem with hmem | rfl
      · exact hholds.done_recorded span hmem
      · exact hholds.recorded
    · rw [Recorder.close, Recorder.flushSpanLocked, if_pos hspan]
      dsimp only
      rw [hholds.output, spanLines, spanLines, List.flatMap_append,
        List.flatMap_singleton, List.append_assoc, List.append_assoc]
      rfl
  · obtain ⟨houtput, rfl, rfl⟩ := h.empty (Bool.eq_false_iff.mpr hspan)
    refine ⟨[], by simp, ?_, fun frame => (keptInput_eq_none.mpr rfl).symm⟩
    rw [Recorder.close, Recorder.flushSpanLocked, if_neg hspan, spanLines,
      List.flatMap_nil, List.append_nil]
    exact houtput

end Run

/-! ## Frames in order -/

/-- Frames in order are all kept. -/
theorem advancing_of_pairwise {last : Option Nat} (h : history.Pairwise (·.1 < ·.1))
    (hlast : ∀ frame ∈ last, ∀ sample ∈ history, frame ≤ sample.1) :
    advancing last history = history := by
  induction history generalizing last with
  | nil => rfl
  | cons sample rest ih =>
    obtain ⟨hsample, hrest⟩ := List.pairwise_cons.mp h
    have hnot : ¬last.any (sample.1 < ·) = true := by
      rw [Option.any_eq_true]
      rintro ⟨frame, hframe, hlt⟩
      exact absurd (hlast frame hframe sample List.mem_cons_self)
        (Nat.not_le_of_lt (of_decide_eq_true hlt))
    rw [advancing, if_neg hnot, ih hrest]
    intro frame hframe sample' hsample'
    cases hframe
    exact Nat.le_of_lt (hsample sample' hsample')

theorem inputsAt_of_pairwise (h : history.Pairwise (·.1 < ·.1)) (hmem : (frame, input) ∈ history) :
    inputsAt history frame = [input] := by
  induction history with
  | nil => cases hmem
  | cons sample rest ih =>
    obtain ⟨hsample, hrest⟩ := List.pairwise_cons.mp h
    rcases List.mem_cons.mp hmem with rfl | hmem
    · have hfilter : rest.filter (·.1 = frame) = [] := by
        rw [List.filter_eq_nil_iff]
        intro sample' hsample'
        rw [decide_eq_true_eq]
        exact Nat.ne_of_gt (hsample sample' hsample')
      rw [inputsAt, List.filter_cons_of_pos (by simp), hfilter]
      rfl
    · have hne : sample.1 ≠ frame := Nat.ne_of_lt (hsample _ hmem)
      rw [inputsAt, List.filter_cons_of_neg (by simpa using hne)]
      exact ih hrest hmem

/-- With frames in order, what is kept is what was recorded. -/
theorem keptInput_of_increasing {calls : List RecordCall}
    {startFrame endFrame : Nat} {instanceID : Int}
    (hrange : ∀ call ∈ calls, call.InRange startFrame endFrame instanceID)
    (hincreasing : calls.Pairwise (·.frame < ·.frame)) :
    (∀ call ∈ calls, keptInput
      (advancing none (samples startFrame endFrame instanceID calls)) call.frame
      = some (Recorder.recordInput call.input)) ∧
    ∀ frame, (∀ call ∈ calls, call.frame ≠ frame) →
      keptInput (advancing none (samples startFrame endFrame instanceID calls)) frame = none := by
  have hsamples : samples startFrame endFrame instanceID calls
      = calls.map fun call => (call.frame, Recorder.recordInput call.input) := by
    rw [samples, List.filter_eq_self.mpr fun call hcall => decide_eq_true (hrange call hcall)]
  have hpairwise : (samples startFrame endFrame instanceID calls).Pairwise (·.1 < ·.1) := by
    rw [hsamples]
    exact List.pairwise_map.mpr hincreasing
  rw [advancing_of_pairwise hpairwise (by simp)]
  constructor
  · intro call hcall
    apply keptInput_of_inputsAt
    apply inputsAt_of_pairwise hpairwise
    rw [hsamples]
    exact List.mem_map.mpr ⟨call, hcall, rfl⟩
  · intro frame hframe
    rw [keptInput_eq_none, inputsAt, List.map_eq_nil_iff, List.filter_eq_nil_iff, hsamples]
    intro sample hsample
    obtain ⟨call, hcall, rfl⟩ := List.mem_map.mp hsample
    simpa using hframe call hcall

/-! ## The main result -/

/-- The file of a recording is parsed without an error, and its spans give back, at every frame, the
input that is kept for the frame. When the frames are in range and strictly increasing, this is the
recorded input at a recorded frame, and the fallback at any other. -/
theorem recording_replays (m : DataModel) (startFrame endFrame : Nat) (instanceID : Int)
    (calls : List RecordCall)
    (hframe : ∀ call ∈ calls, call.frame < 2 ^ 32) (hscreen : ∀ call ∈ calls, OnScreen call.input)
    (hwrap : calls.Pairwise fun call call' => ¬(call.frame = u32Max ∧ call'.frame = 0)) :
    ∃ spans, parseInputScript m (recording startFrame endFrame instanceID calls) = (spans, none) ∧
      (∀ instanceID' frame fallback, applyScript spans instanceID' frame fallback
        = (keptInput (advancing none (samples startFrame endFrame instanceID calls)) frame).getD
          fallback) ∧
      ((∀ call ∈ calls, call.InRange startFrame endFrame instanceID) →
        calls.Pairwise (·.frame < ·.frame) →
        ∀ instanceID' fallback,
          (∀ call ∈ calls, applyScript spans instanceID' call.frame fallback =
            Recorder.recordInput call.input) ∧
          ∀ frame, (∀ call ∈ calls, call.frame ≠ frame) →
            applyScript spans instanceID' frame fallback = fallback) := by
  have hopened : (Recorder.openFile startFrame endFrame instanceID).Recorded
      (Recorder.openFile startFrame endFrame instanceID) [] [] :=
    ⟨rfl, rfl, rfl, rfl, fun _ => ⟨rfl, rfl, rfl⟩, fun hspan => (nomatch hspan)⟩
  obtain ⟨done, hrecorded⟩ := hopened.recordAll hframe hscreen hwrap (fun hlast => (nomatch hlast))
  obtain ⟨spans, hspans, houtput, hlookup⟩ := hrecorded.close
  have happly : ∀ instanceID' frame fallback, applyScript spans instanceID' frame fallback
      = (keptInput (advancing none (samples startFrame endFrame instanceID calls)) frame).getD
        fallback := by
    intro instanceID' frame fallback
    rw [applyScript_eq_lookup hspans, hlookup]
    rfl
  refine ⟨spans, ?_, happly, ?_⟩
  · rw [recording, houtput]
    exact parseInputScript_spanLines m startFrame endFrame instanceID hspans
  · intro hrange hincreasing instanceID' fallback
    obtain ⟨hcalls, hothers⟩ := keptInput_of_increasing hrange hincreasing
    constructor
    · intro call hcall
      rw [happly, hcalls call hcall]
      rfl
    · intro frame hnot
      rw [happly, hothers frame hnot]
      rfl

/-- The calls of `TestInputRecorderSpanAndFilterContract` for the frames 10 to 13: frame 11 is
recorded again, with another button, in the span that frame 10 has begun. -/
def contractCalls : List RecordCall :=
  [⟨1, 10, { keyMask := 0x1FFE }⟩, ⟨1, 11, { keyMask := 0xFFE }⟩, ⟨1, 11, { keyMask := 0xFFD }⟩,
    ⟨1, 12, { keyMask := 0xFFD }⟩, ⟨1, 13, { keyMask := 0xFFD }⟩]

theorem recording_replays_contract :
    contractCalls.Pairwise (fun call call' => ¬(call.frame = u32Max ∧ call'.frame = 0)) ∧
    ∃ spans, parseInputScript .lp64 (recording 10 20 1 contractCalls) = (spans, none) ∧
      ∀ instanceID frame fallback, applyScript spans instanceID frame fallback
        = (keptInput (advancing none (samples 10 20 1 contractCalls)) frame).getD fallback := by
  have hwrap : contractCalls.Pairwise
    (fun call call' => ¬(call.frame = u32Max ∧ call'.frame = 0)) := by decide
  obtain ⟨spans, hparse, happly, -⟩ :=
    recording_replays .lp64 10 20 1 contractCalls (by decide) (by decide) hwrap
  exact ⟨hwrap, spans, hparse, happly⟩

/-- Frame 11 was last recorded with the second button down, and is replayed with the first. -/
theorem last_input_does_not_win :
    ∃ spans, parseInputScript .lp64 (recording 10 20 1 contractCalls) = (spans, none) ∧
      (inputsAt (samples 10 20 1 contractCalls) 11).getLast? = some { keyMask := 0xFFD } ∧
      applyScript spans 1 11 {} = { keyMask := 0xFFE } := by
  refine ⟨[⟨-1, 10, 11, { keyMask := 0xFFE }⟩, ⟨-1, 12, 13, { keyMask := 0xFFD }⟩], ?_, ?_, ?_⟩
  · decide +kernel
  · decide
  · decide

end Bigstar.Netplay.InputTimeline
