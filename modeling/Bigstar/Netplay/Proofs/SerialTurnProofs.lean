import Bigstar.Netplay.Proofs.FrameBarrierProofs

/-!
# Instances that take turns

With serial runs on, the coordinator keeps the frame and the instance whose turn it is. All
instances before that one have completed one frame more than the others, which is why at most one of
them is in a frame. Together with the frame barriers the turns come to nothing: the instance whose
turn it is waits at the barrier for the others, which wait for their turn.
-/

namespace Bigstar.Netplay.Coordination

open Monitor

namespace SerialRun

variable {harness : Harness}

/-- How many frames instance `i` has completed when it is the turn of instance `k` in frame
`frame`. -/
def completed (frame k i : Nat) : Nat := frame + if i < k then 1 else 0

theorem completed_self (frame k : Nat) : completed frame k k = frame := by
  simp [completed]

/-- It is the turn of instance `k` in frame `frame`, counted without wrapping around. -/
structure Turn (n : Nat) (s : Impl) (frame k : Nat) : Prop where
  serialFrame : s.serialFrame = frame % 2 ^ 32
  serialInstance : s.serialInstance = k
  lt : k < n

/-- The places of an instance that has completed `r` frames; only the one whose turn it is gets past
the wait for its turn. -/
inductive At (s : Impl) (k i r : Nat) : Thread Place Wait → Prop
  | begins (hf : s.testFrame i = r % 2 ^ 32) : At s k i r (.outside ⟨.beforeRunFrame, r⟩)
  | comes (hf : s.testFrame i = r % 2 ^ 32) : At s k i r (.outside ⟨.serialTurn (r % 2 ^ 32), r⟩)
  | waits {timeoutMs : Int} {notified : Bool} (hf : s.testFrame i = r % 2 ^ 32) :
      At s k i r (.asleep ⟨.serialTurn (r % 2 ^ 32), r⟩
        (.serialTurn (r % 2 ^ 32) timeoutMs) notified)
  | runs (hf : s.testFrame i = r % 2 ^ 32) (hturn : i = k) :
      At s k i r (.outside ⟨.runFrame (r % 2 ^ 32), r⟩)
  | handsOn (hf : s.testFrame i = (r + 1) % 2 ^ 32) (hturn : i = k) :
      At s k i r (.outside ⟨.advanceTurn ((r + 1) % 2 ^ 32), r⟩)

theorem wrap_pred (r : Nat) : ((r + 1) % 2 ^ 32 + (2 ^ 32 - 1)) % 2 ^ 32 = r % 2 ^ 32 := by
  omega

/-- Frame and turn are known, and every instance is where they put it. -/
structure InvAt (harness : Harness) (s : Harness.Frames) (frame k : Nat) : Prop where
  turn : Turn harness.testInstanceCount s.shared frame k
  at_place : ∀ i < harness.testInstanceCount,
    At s.shared k i (completed frame k i) (s.thread i)
  others : ∀ i, harness.testInstanceCount ≤ i → s.thread i = .outside {}

/-- There are a frame and a turn of which this holds. -/
def Inv (harness : Harness) (s : Harness.Frames) : Prop := ∃ frame k, InvAt harness s frame k

variable {s s' : Impl} {i k r : Nat} {t : Thread Place Wait}

theorem At.notify (h : At s k i r t) : At s k i r t.notify := by
  cases h with
  | begins hf => exact .begins hf
  | comes hf => exact .comes hf
  | waits hf => exact .waits hf
  | runs hf hturn => exact .runs hf hturn
  | handsOn hf hturn => exact .handsOn hf hturn

theorem At.congr (h : At s k i r t) (hf' : s'.testFrame i = s.testFrame i) : At s' k i r t := by
  cases h with
  | begins hf => exact .begins (hf'.trans hf)
  | comes hf => exact .comes (hf'.trans hf)
  | waits hf => exact .waits (hf'.trans hf)
  | runs hf hturn => exact .runs (hf'.trans hf) hturn
  | handsOn hf hturn => exact .handsOn (hf'.trans hf) hturn

/-- Whose turn it is does not matter to an instance whose turn it was not. -/
theorem At.pass (h : At s k i r t) (hi : i ≠ k) (k' : Nat) : At s k' i r t := by
  cases h with
  | begins hf => exact .begins hf
  | comes hf => exact .comes hf
  | waits hf => exact .waits hf
  | runs _ hturn => exact absurd hturn hi
  | handsOn _ hturn => exact absurd hturn hi

/-! ## Steps -/

section Step

variable {s : Harness.Frames} {i frame k : Nat} {place : Place} {ended : Section Impl Wait Result}

/-- A section of one instance, whatever it does to the turn. -/
theorem InvAt.finish (h : InvAt harness s frame k) {frame' k' : Nat}
    (hturn : Turn harness.testInstanceCount ended.shared frame' k')
    (hi : i < harness.testInstanceCount) (hself : At ended.shared k' i (completed frame' k' i)
      (harness.program.moved i place ended.outcome))
    (hothers : ∀ j < harness.testInstanceCount, j ≠ i →
      At ended.shared k' j (completed frame' k' j) (s.thread j)) :
    InvAt harness (s.finish harness.program i place ended) frame' k' := by
  refine ⟨hturn, ?_, ?_⟩
  · intro j hj
    exact forall_finish (P := fun j t => j < harness.testInstanceCount →
      At ended.shared k' j (completed frame' k' j) t)
      (fun _ _ hat hlt => (hat hlt).notify) (fun _ => hself)
        (fun j hji hlt => hothers j hlt hji) j hj
  · intro j hj
    rw [finish_thread_of_ne s i place ended (by omega), h.others j hj]
    split <;> rfl

/-- A section that changes nothing shared. -/
theorem InvAt.unchanged (h : InvAt harness s frame k) (hi : i < harness.testInstanceCount)
    {outcome : Outcome Wait Result}
    (hself : At s.shared k i (completed frame k i) (harness.program.moved i place outcome)) :
    InvAt harness (s.finish harness.program i place { shared := s.shared, outcome := outcome })
      frame k :=
  h.finish h.turn hi hself fun j hj _ => h.at_place j hj

/-- It is the turn of the instance that asks for the frame it has reached, and of no other. -/
theorem Turn.iff {n : Nat} {s : Impl} (h : Turn n s frame k) (i : Nat) :
    (s.serialFrame = completed frame k i % 2 ^ 32 ∧ s.serialInstance = i) ↔ i = k := by
  rw [h.serialFrame, h.serialInstance]
  constructor
  · rintro ⟨-, rfl⟩
    rfl
  · rintro rfl
    rw [completed_self]
    exact ⟨rfl, rfl⟩

/-- The turn goes to the next instance, or to the first one in the next frame. -/
theorem InvAt.handsOn (h : InvAt harness s frame k) (hk : s.thread k = .outside place)
    (hplace : place = ⟨.advanceTurn ((frame + 1) % 2 ^ 32), frame⟩)
    (hf : s.shared.testFrame k = (frame + 1) % 2 ^ 32) :
    Inv harness (s.finish harness.program k place
      (s.shared.advanceSerialTurn k (((frame + 1) % 2 ^ 32 + (2 ^ 32 - 1)) % 2 ^ 32)
        harness.testInstanceCount)) := by
  have hlt := h.turn.lt
  have hge : ¬ k ≥ harness.testInstanceCount := by omega
  have hothers : ∀ j < harness.testInstanceCount, j ≠ k → ∀ k',
      At s.shared k' j (completed frame k j) (s.thread j) :=
    fun j hj hjk k' => (h.at_place j hj).pass hjk k'
  subst hplace
  unfold Impl.advanceSerialTurn
  simp only [harness.clampInstanceCount_testInstanceCount,
    Harness.isValidInstance_of_lt hlt, Bool.not_true, hge, decide_false, Bool.or_self,
    Bool.false_eq_true, if_false, wrap_pred, h.turn.serialFrame, h.turn.serialInstance,
    ne_eq, not_true, or_self]
  split
  · next hlast =>
    refine ⟨frame + 1, 0, h.finish ⟨?_, rfl, by omega⟩ hlt ?_ ?_⟩
    · exact Nat.mod_add_mod _ _ _
    · exact .begins hf
    · intro j hj hjk
      have hsame : completed (frame + 1) 0 j = completed frame k j := by
        have hjlt : j < k := by omega
        simp [completed, hjlt]
      rw [hsame]
      exact (hothers j hj hjk 0).congr rfl
  · next hmore =>
    refine ⟨frame, k + 1, h.finish ⟨rfl, rfl, by omega⟩ hlt ?_ ?_⟩
    · have hdone : completed frame (k + 1) k = frame + 1 := by simp [completed]
      rw [hdone]
      exact .begins hf
    · intro j hj hjk
      have hsame : completed frame (k + 1) j = completed frame k j := by
        have hiff : j < k + 1 ↔ j < k := by omega
        simp only [completed, hiff]
      rw [hsame]
      exact (hothers j hj hjk (k + 1)).congr rfl

variable (hbarrier : harness.usesBarrier = false)
include hbarrier

/-- The turn of an instance, once it has come. -/
theorem InvAt.takesTurn (h : InvAt harness s frame k) (hi : i < harness.testInstanceCount)
    {inputFrame r : Nat} (hframe : inputFrame = r % 2 ^ 32) (hr : r = completed frame k i)
    (hf : s.shared.testFrame i = r % 2 ^ 32) (timeoutMs : Int)
    (hplace : place = ⟨.serialTurn inputFrame, r⟩) :
    InvAt harness (s.finish harness.program i place
      (if s.shared.serialFrame = inputFrame ∧ s.shared.serialInstance = i then
        s.shared.returns (.flag true)
      else s.shared.sleeps (.serialTurn inputFrame timeoutMs))) frame k := by
  subst hplace hframe hr
  split
  · next hturn =>
    refine h.unchanged hi ?_
    simp only [Program.moved, Harness.program, Harness.returned, Harness.atBeforeBarrier, hbarrier,
      Bool.false_eq_true, if_false]
    exact .runs hf ((h.turn.iff i).mp hturn)
  · exact h.unchanged hi (.waits hf)

/-- A sleeper looks again. -/
theorem InvAt.wake (h : InvAt harness s frame k) {wait : Wait} {notified : Bool}
    (hthread : s.thread i = .asleep place wait notified) :
    InvAt harness (s.finish harness.program i place (resume i wait s.shared)) frame k := by
  have hi : i < harness.testInstanceCount := by
    by_contra hge
    rw [h.others i (by omega)] at hthread
    cases hthread
  have hat := h.at_place i hi
  rw [hthread] at hat
  generalize hr : completed frame k i = r at hat
  cases hat with
  | @waits timeoutMs _ hf =>
    exact h.takesTurn hbarrier hi rfl hr.symm hf timeoutMs rfl

variable (hturns : harness.usesTurns = true)
include hturns

/-- An instance takes its next section. -/
theorem InvAt.enter (h : InvAt harness s frame k) {c : Call} (hthread : s.thread i = .outside place)
    (hnext : harness.program.next i place = some c) :
    Inv harness (s.finish harness.program i place (call i c s.shared)) := by
  have hi : i < harness.testInstanceCount := by
    simp only [Harness.program, Harness.next] at hnext
    split at hnext
    · assumption
    · cases hnext
  have hge : ¬ i ≥ harness.testInstanceCount := by omega
  have hat := h.at_place i hi
  rw [hthread] at hat
  simp only [Harness.program, Harness.next, hi, if_true, Option.some.injEq] at hnext
  subst hnext
  have hvalid := Harness.isValidInstance_of_lt hi
  generalize hr : completed frame k i = r at hat
  cases hat with
  | begins hf =>
    simp only [call, Impl.readTestFrame, hvalid, Bool.not_true, Bool.false_eq_true, if_false]
    refine ⟨frame, k, h.unchanged hi ?_⟩
    simp only [Program.moved, Harness.program, Harness.returned,
      Harness.atSerialTurn, hturns, if_true, hr, hf]
    exact .comes hf
  | comes hf =>
    simp only [call, Impl.waitForSerialTurn, harness.clampInstanceCount_testInstanceCount, hvalid,
      Bool.not_true, hge, decide_false, Bool.or_self, Bool.false_eq_true, if_false]
    exact ⟨frame, k, h.takesTurn hbarrier hi rfl hr.symm hf harness.waitTimeoutMs rfl⟩
  | runs hf hturn =>
    simp only [call, Impl.advanceTestFrame, hvalid, Bool.not_true, Bool.false_eq_true, if_false]
    have hcounted : (s.shared.testFrame i + 1) % 2 ^ 32 = (r + 1) % 2 ^ 32 := by
      rw [hf, Nat.mod_add_mod]
    refine ⟨frame, k, h.finish ⟨h.turn.serialFrame, h.turn.serialInstance, h.turn.lt⟩ hi ?_ ?_⟩
    · simp only [Program.moved, Impl.returns, Harness.program, Harness.returned,
        Harness.atAfterBarrier, hbarrier, Bool.false_eq_true, if_false, Harness.atAdvanceTurn,
        hturns, if_true, hcounted, hr]
      exact .handsOn (Function.update_self _ _ _) hturn
    · intro j hj hji
      exact (h.at_place j hj).congr (Function.update_of_ne hji _ _)
  | handsOn hf hturn =>
    subst hturn
    obtain rfl : frame = r := by rw [← hr, completed_self]
    exact h.handsOn hthread rfl hf

/-- Each event keeps the invariant. -/
theorem Inv.step (s : Harness.Frames) (e : Event Nat) (t : Harness.Frames) (h : Inv harness s)
    (htimely : e.Timely) (hstep : harness.step s e = some t) : Inv harness t := by
  obtain ⟨frame, k, h⟩ := h
  obtain ⟨i, place, ended, htook, rfl⟩ := step_eq_some.mp hstep
  cases htook with
  | enter hthread hnext => exact h.enter hbarrier hturns hthread hnext
  | wake hthread => exact ⟨frame, k, h.wake hbarrier hthread⟩
  | expire _ _ => exact htimely.elim

end Step

/-! ## Whole runs -/

/-- The instance is in its frame `r`: it runs the frame or is about to hand its turn on. -/
def InTurn (r : Nat) (t : Thread Place Wait) : Prop :=
  ∃ f, t = .outside ⟨.runFrame f, r⟩ ∨ t = .outside ⟨.advanceTurn f, r⟩

/-- Who is in its turn is the one whose turn it is. -/
theorem InvAt.inTurn {s : Harness.Frames} {frame k : Nat} (h : InvAt harness s frame k) {i r : Nat}
    (hi : InTurn r (s.thread i)) : i = k ∧ r = frame := by
  have hlt : i < harness.testInstanceCount := by
    by_contra hge
    rw [h.others i (by omega)] at hi
    obtain ⟨f, heq | heq⟩ := hi <;> cases heq
  have hat := h.at_place i hlt
  generalize hr : completed frame k i = r' at hat
  obtain ⟨f, heq | heq⟩ := hi
  · rw [heq] at hat
    cases hat with
    | runs _ hturn =>
      subst hturn
      exact ⟨rfl, by rw [← hr, completed_self]⟩
  · rw [heq] at hat
    cases hat with
    | handsOn _ hturn =>
      subst hturn
      exact ⟨rfl, by rw [← hr, completed_self]⟩

theorem At.rounds {s : Impl} {k i r : Nat} {t : Thread Place Wait} (h : At s k i r t) :
    t.place.rounds = r := by
  cases h <;> rfl

/-- The wait of the instance whose turn it is is over. -/
theorem InvAt.ready {s : Harness.Frames} {frame k : Nat}
    (h : InvAt harness s frame k) {place : Place}
    {wait : Wait} {notified : Bool} (hthread : s.thread k = .asleep place wait notified) :
    Ready k wait s.shared := by
  have hat := h.at_place k h.turn.lt
  rw [hthread] at hat
  generalize hr : completed frame k k = r at hat
  cases hat with
  | waits hf =>
    rw [← hr]
    exact (h.turn.iff k).mpr rfl

theorem inv_begin (harness : Harness) : Inv harness begin := by
  refine ⟨0, 0, ⟨rfl, rfl, harness.one_le_testInstanceCount⟩, ?_, fun _ _ => rfl⟩
  intro i _
  have hnone : completed 0 0 i = 0 := by simp [completed]
  rw [hnone]
  exact .begins rfl

/-- With serial runs on and as long as no wait times out: an instance that is in its frame `r` is
the only one in a frame; the ones before it have completed their frame `r`, those after it have not
begun it; and at any time some instance can go on. -/
theorem frames_in_turn (harness : Harness) (hbarrier : harness.usesBarrier = false)
    (hturns : harness.usesTurns = true) (es : List (Event Nat)) (htimely : ∀ e ∈ es, e.Timely)
    (s : Harness.Frames) (hrun : Run.run harness.step begin es = some s) :
    (∀ i r, InTurn r (s.thread i) → ∀ j < harness.testInstanceCount, j ≠ i →
      (∀ r', ¬ InTurn r' (s.thread j)) ∧
        (s.thread j).place.rounds = if j < i then r + 1 else r) ∧
    ∃ i < harness.testInstanceCount, CanGoOn Ready s i := by
  obtain ⟨frame, k, hinv⟩ : Inv harness s :=
    Run.run_invariant_of_forall (Inv.step hbarrier hturns) (inv_begin harness) htimely hrun
  constructor
  · intro i r hi j hj hji
    obtain ⟨rfl, rfl⟩ := hinv.inTurn hi
    refine ⟨fun r' hr' => hji (hinv.inTurn hr').1, ?_⟩
    rw [(hinv.at_place j hj).rounds]
    unfold completed
    split <;> rfl
  · refine ⟨k, hinv.turn.lt, (Harness.settled_of_run hrun).canGoOn ?_⟩
    intro place wait notified hthread
    exact hinv.ready hthread

/-- Two instances that take turns. -/
def twoInTurn : Harness where
  testInstanceCount := 2
  waitTimeoutMs := 0
  serialRunEnabled := true
  one_le_testInstanceCount := FrameLoop.one_le_two_instances
  testInstanceCount_le := FrameLoop.two_le_kMaxInstances

/-- Instance 0 has handed its turn on, and instance 1 is in its first frame. -/
def secondTurn : List (Event Nat) :=
  [.enter 0, .enter 1, .enter 1, .enter 0, .enter 0, .enter 0, .wake 1]

theorem frames_in_turn_two :
    ∃ s, Run.run twoInTurn.step begin secondTurn = some s ∧ InTurn 0 (s.thread 1) ∧
      (s.thread 0).place.rounds = 1 ∧ ∃ i < 2, CanGoOn Ready s i := by
  obtain ⟨hframes, hlive⟩ :=
    frames_in_turn twoInTurn (by decide) (by decide) secondTurn (by decide) _ rfl
  have hturn : InTurn 0 (.outside ⟨.runFrame 0, 0⟩) := ⟨0, .inl rfl⟩
  exact ⟨_, rfl, hturn, (hframes 1 0 hturn 0 (by decide) (by decide)).2, hlive⟩

end SerialRun

/-! ## Turns and barriers together -/

namespace TurnsAndBarriers

variable {harness : Harness}

/-- Before the first frame: instance 0 has the turn, and only it gets to the barrier. -/
inductive At (n i : Nat) : Thread Place Wait → Prop
  | begins : At n i (.outside ⟨.beforeRunFrame, 0⟩)
  | comes : At n i (.outside ⟨.serialTurn 0, 0⟩)
  | waitsTurn {timeoutMs : Int} {notified : Bool} :
      At n i (.asleep ⟨.serialTurn 0, 0⟩ (.serialTurn 0 timeoutMs) notified)
  | comesBarrier (hi : i = 0) : At n i (.outside ⟨.beforeBarrier 0, 0⟩)
  | waitsBarrier {timeoutMs : Int} {notified : Bool} (hi : i = 0) :
      At n i (.asleep ⟨.beforeBarrier 0, 0⟩ (.frameBarrier .before 0 0 n timeoutMs) notified)

/-- No turn has been handed on and no barrier released, and nobody but instance 0 waits at one. -/
structure Untouched (s : Impl) : Prop where
  serialFrame : s.serialFrame = 0
  serialInstance : s.serialInstance = 0
  testFrame : ∀ i, s.testFrame i = 0
  generation : (s.frameBarriers .before).generation = 0
  waiting : ∀ i, i ≠ 0 → (s.frameBarriers .before).waiting i = false

/-- Nothing has been passed, and every instance is at its place. -/
structure Inv (harness : Harness) (s : Harness.Frames) : Prop where
  untouched : Untouched s.shared
  at_place : ∀ i, At harness.testInstanceCount i (s.thread i)

theorem At.notify {n i : Nat} {t : Thread Place Wait} (h : At n i t) : At n i t.notify := by
  cases h with
  | begins => exact .begins
  | comes => exact .comes
  | waitsTurn => exact .waitsTurn
  | comesBarrier hi => exact .comesBarrier hi
  | waitsBarrier hi => exact .waitsBarrier hi

section Step

variable {s : Harness.Frames} {i : Nat} {place : Place} {ended : Section Impl Wait Result}

theorem Inv.finish (h : Inv harness s) (huntouched : Untouched ended.shared)
    (hself : At harness.testInstanceCount i (harness.program.moved i place ended.outcome)) :
    Inv harness (s.finish harness.program i place ended) :=
  ⟨huntouched, forall_finish (fun _ _ hat => hat.notify) hself fun j _ => h.at_place j⟩

variable (hbarrier : harness.usesBarrier = true)
include hbarrier

theorem one_lt_testInstanceCount : 1 < harness.testInstanceCount := by
  simp only [Harness.usesBarrier, Bool.and_eq_true, decide_eq_true_eq] at hbarrier
  exact hbarrier.2

/-- Instance 1 is missing at the barrier. -/
theorem Untouched.not_allArrived {s : Impl} (h : Untouched s) (frame : Nat) :
    (s.frameBarriers .before).allArrived frame harness.testInstanceCount = false :=
  FrameLoop.not_allArrived (one_lt_testInstanceCount hbarrier) (h.waiting 1 (by simp))

/-- The wait of an instance for its turn: only instance 0 gets past it. -/
theorem Inv.takesTurn (h : Inv harness s) (timeoutMs : Int) :
    Inv harness (s.finish harness.program i ⟨.serialTurn 0, 0⟩
      (if s.shared.serialFrame = 0 ∧ s.shared.serialInstance = i then s.shared.returns (.flag true)
      else s.shared.sleeps (.serialTurn 0 timeoutMs))) := by
  split
  · next hturn =>
    refine h.finish h.untouched ?_
    simp only [Program.moved, Impl.returns, Harness.program, Harness.returned,
      Harness.atBeforeBarrier, hbarrier, if_true]
    exact .comesBarrier (hturn.2.symm.trans h.untouched.serialInstance)
  · exact h.finish h.untouched .waitsTurn

/-- Instance 0 waits at the barrier for the others. -/
theorem Inv.arrive (h : Inv harness s) :
    Inv harness (s.finish harness.program 0 ⟨.beforeBarrier 0, 0⟩
      (s.shared.waitAtFrameBarrier .before 0 0 harness.testInstanceCount
        harness.waitTimeoutMs)) := by
  have hlt : 0 < harness.testInstanceCount := harness.one_le_testInstanceCount
  have harrived : Untouched (FrameLoop.arrive s.shared .before 0 0) := by
    refine ⟨h.untouched.serialFrame, h.untouched.serialInstance, h.untouched.testFrame,
      h.untouched.generation, ?_⟩
    intro j hj
    rw [(FrameLoop.arrive_same s.shared .before 0 hj).waiting]
    exact h.untouched.waiting j hj
  rw [FrameLoop.waitAtFrameBarrier_eq harness s.shared .before hlt,
    harrived.not_allArrived hbarrier 0,
    if_neg (by simp), h.untouched.generation]
  exact h.finish harrived (.waitsBarrier rfl)

theorem Inv.wake (h : Inv harness s) {wait : Wait} {notified : Bool}
    (hthread : s.thread i = .asleep place wait notified) :
    Inv harness (s.finish harness.program i place (resume i wait s.shared)) := by
  have hat := h.at_place i
  rw [hthread] at hat
  cases hat with
  | @waitsTurn timeoutMs _ => exact h.takesTurn hbarrier timeoutMs
  | waitsBarrier hzero =>
    unfold resume
    dsimp only
    rw [h.untouched.not_allArrived hbarrier 0, if_neg (by simp), if_pos h.untouched.generation]
    exact h.finish h.untouched (.waitsBarrier hzero)

variable (hturns : harness.usesTurns = true)
include hturns

theorem Inv.enter (h : Inv harness s) {c : Call} (hthread : s.thread i = .outside place)
    (hnext : harness.program.next i place = some c) :
    Inv harness (s.finish harness.program i place (call i c s.shared)) := by
  have hi : i < harness.testInstanceCount := by
    simp only [Harness.program, Harness.next] at hnext
    split at hnext
    · assumption
    · cases hnext
  have hge : ¬ i ≥ harness.testInstanceCount := by omega
  have hat := h.at_place i
  rw [hthread] at hat
  simp only [Harness.program, Harness.next, hi, if_true, Option.some.injEq] at hnext
  subst hnext
  have hvalid := Harness.isValidInstance_of_lt hi
  cases hat with
  | begins =>
    simp only [call, Impl.readTestFrame, hvalid, Bool.not_true, Bool.false_eq_true, if_false]
    refine h.finish h.untouched ?_
    simp only [Program.moved, Impl.returns, Harness.program, Harness.returned,
      Harness.atSerialTurn, hturns, if_true, h.untouched.testFrame]
    exact .comes
  | comes =>
    simp only [call, Impl.waitForSerialTurn, harness.clampInstanceCount_testInstanceCount, hvalid,
      Bool.not_true, hge, decide_false, Bool.or_self, Bool.false_eq_true, if_false]
    exact h.takesTurn hbarrier harness.waitTimeoutMs
  | comesBarrier hzero =>
    subst hzero
    exact h.arrive hbarrier

theorem Inv.step (s : Harness.Frames) (e : Event Nat) (t : Harness.Frames) (h : Inv harness s)
    (htimely : e.Timely) (hstep : harness.step s e = some t) : Inv harness t := by
  obtain ⟨i, place, ended, htook, rfl⟩ := step_eq_some.mp hstep
  cases htook with
  | enter hthread hnext => exact h.enter hbarrier hturns hthread hnext
  | wake hthread => exact h.wake hbarrier hthread
  | expire _ _ => exact htimely.elim

end Step

/-- With serial runs and the frame barriers on at once, no instance ever runs a frame, unless a wait
times out. -/
theorem no_frame_is_run (harness : Harness) (hbarrier : harness.usesBarrier = true)
    (hturns : harness.usesTurns = true) (es : List (Event Nat)) (htimely : ∀ e ∈ es, e.Timely)
    (s : Harness.Frames) (hrun : Run.run harness.step begin es = some s) :
    ∀ i f r, s.thread i ≠ .outside ⟨.runFrame f, r⟩ := by
  have hinit : Inv harness begin :=
    ⟨⟨rfl, rfl, fun _ => rfl, rfl, fun _ _ => rfl⟩, fun _ => .begins⟩
  have hinv : Inv harness s :=
    Run.run_invariant_of_forall (Inv.step hbarrier hturns) hinit htimely hrun
  intro i f r hruns
  have hat := hinv.at_place i
  rw [hruns] at hat
  cases hat

/-- Two instances with both switched on. -/
def twoWithBoth : Harness where
  testInstanceCount := 2
  waitTimeoutMs := 0
  frameBarrierEnabled := true
  serialRunEnabled := true
  one_le_testInstanceCount := FrameLoop.one_le_two_instances
  testInstanceCount_le := FrameLoop.two_le_kMaxInstances

/-- Instance 0 waits at the barrier, instance 1 for its turn, and neither has been notified. -/
theorem no_frame_is_run_two :
    ∃ s, Run.run twoWithBoth.step begin [.enter 0, .enter 1, .enter 0, .enter 1, .enter 0] =
      some s ∧
      (∃ wait, s.thread 0 = .asleep ⟨.beforeBarrier 0, 0⟩ wait false) ∧
      (∃ wait, s.thread 1 = .asleep ⟨.serialTurn 0, 0⟩ wait false) ∧
      ∀ i f r, s.thread i ≠ .outside ⟨.runFrame f, r⟩ := by
  have hnone := no_frame_is_run twoWithBoth (by decide) (by decide)
    [.enter 0, .enter 1, .enter 0, .enter 1, .enter 0] (by decide) _ rfl
  exact ⟨_, rfl, ⟨_, rfl⟩, ⟨_, rfl⟩, hnone⟩

end TurnsAndBarriers

end Bigstar.Netplay.Coordination
