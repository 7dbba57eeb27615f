import Bigstar.Netplay.InstanceFrames
import Bigstar.Netplay.Proofs.CoordinatorProofs

/-!
# Instances in lockstep

With the frame barriers on, the number of times that a barrier has been released says for every
instance in which of its frames it is and on which side of the barrier it stands. While one instance
runs a frame, all others are in the same frame, and as long as no wait times out some instance can
always go on.
-/

namespace Bigstar.Netplay.Coordination

open Monitor

namespace Harness

variable {harness : Harness}

theorem clampInstanceCount_testInstanceCount (harness : Harness) :
    clampInstanceCount harness.testInstanceCount = harness.testInstanceCount := by
  have hlow := harness.one_le_testInstanceCount
  have hhigh := harness.testInstanceCount_le
  unfold clampInstanceCount
  omega

theorem isValidInstance_of_lt {i : Nat} (h : i < harness.testInstanceCount) :
    isValidInstance i = true := by
  have hhigh := harness.testInstanceCount_le
  exact decide_eq_true (by omega)

theorem next_counts (i : Nat) (place : Place) (c : Call)
    (h : harness.program.next i place = some c) :
    c.Counts harness.testInstanceCount := by
  simp only [program, next] at h
  split at h
  · cases hpoint : place.point with
    | beforeRunFrame => rw [hpoint] at h; cases h; trivial
    | serialTurn _ => rw [hpoint] at h; cases h; trivial
    | beforeBarrier _ =>
      rw [hpoint] at h
      cases h
      exact harness.clampInstanceCount_testInstanceCount
    | runFrame _ => rw [hpoint] at h; cases h; trivial
    | afterBarrier _ =>
      rw [hpoint] at h
      cases h
      exact harness.clampInstanceCount_testInstanceCount
    | advanceTurn _ => rw [hpoint] at h; cases h; trivial
  · exact absurd h (by simp)

/-- In a run, who sleeps is either notified or not yet released. -/
theorem settled_of_run {es : List (Event Nat)} {s : Frames}
    (hrun : Run.run harness.step begin es = some s) : Settled Ready s :=
  (Awake.run next_counts hrun).settled

end Harness

namespace FrameLoop

variable {harness : Harness}

/-- What the coordinator knows of instance `i`: how often the barriers have been released, how many
frames the instance has counted, and at which barrier it is waiting. -/
structure Stands (s : Impl) (i before after counted : Nat) (waitsBefore waitsAfter : Bool) :
    Prop where
  before_generation : (s.frameBarriers .before).generation = before
  after_generation : (s.frameBarriers .after).generation = after
  testFrame : s.testFrame i = counted % 2 ^ 32
  before_waiting : (s.frameBarriers .before).waiting i = waitsBefore
  after_waiting : (s.frameBarriers .after).waiting i = waitsAfter

/-- The places of an instance in its frame `r`, with what the coordinator knows there. -/
inductive At (n : Nat) (s : Impl) (i : Nat) : Thread Place Wait → Prop
  | begins {r : Nat} (h : Stands s i r r r false false) : At n s i (.outside ⟨.beforeRunFrame, r⟩)
  | comesBefore {r : Nat} (h : Stands s i r r r false false) :
      At n s i (.outside ⟨.beforeBarrier (r % 2 ^ 32), r⟩)
  | waitsBefore {r : Nat} {timeoutMs : Int} {notified : Bool} (h : Stands s i r r r true false)
      (hframe : (s.frameBarriers .before).frame i = r % 2 ^ 32) :
      At n s i (.asleep ⟨.beforeBarrier (r % 2 ^ 32), r⟩
        (.frameBarrier .before (r % 2 ^ 32) r n timeoutMs) notified)
  | metBefore {r : Nat} {timeoutMs : Int} {notified : Bool}
    (h : Stands s i (r + 1) r r false false) :
      At n s i (.asleep ⟨.beforeBarrier (r % 2 ^ 32), r⟩
        (.frameBarrier .before (r % 2 ^ 32) r n timeoutMs) notified)
  | runs {r : Nat} (h : Stands s i (r + 1) r r false false) :
      At n s i (.outside ⟨.runFrame (r % 2 ^ 32), r⟩)
  | comesAfter {r : Nat} (h : Stands s i (r + 1) r (r + 1) false false) :
      At n s i (.outside ⟨.afterBarrier ((r + 1) % 2 ^ 32), r⟩)
  | waitsAfter {r : Nat} {timeoutMs : Int} {notified : Bool}
    (h : Stands s i (r + 1) r (r + 1) false true)
      (hframe : (s.frameBarriers .after).frame i = (r + 1) % 2 ^ 32) :
      At n s i (.asleep ⟨.afterBarrier ((r + 1) % 2 ^ 32), r⟩
        (.frameBarrier .after ((r + 1) % 2 ^ 32) r n timeoutMs) notified)
  | metAfter {r : Nat} {timeoutMs : Int} {notified : Bool}
      (h : Stands s i (r + 1) (r + 1) (r + 1) false false) :
      At n s i (.asleep ⟨.afterBarrier ((r + 1) % 2 ^ 32), r⟩
        (.frameBarrier .after ((r + 1) % 2 ^ 32) r n timeoutMs) notified)

/-- Every instance is at one of these places. -/
structure Inv (harness : Harness) (s : Harness.Frames) : Prop where
  at_place : ∀ i < harness.testInstanceCount, At harness.testInstanceCount s.shared i (s.thread i)
  others : ∀ i, harness.testInstanceCount ≤ i → s.thread i = .outside {}

/-! ## What another instance leaves as it is -/

variable {n : Nat} {s s' : Impl} {i j : Nat} {t : Thread Place Wait}

theorem At.notify (h : At n s i t) : At n s i t.notify := by
  cases h with
  | begins h => exact .begins h
  | comesBefore h => exact .comesBefore h
  | waitsBefore h hframe => exact .waitsBefore h hframe
  | metBefore h => exact .metBefore h
  | runs h => exact .runs h
  | comesAfter h => exact .comesAfter h
  | waitsAfter h hframe => exact .waitsAfter h hframe
  | metAfter h => exact .metAfter h

/-- The coordinator knows the same of instance `i`. -/
structure Same (s s' : Impl) (i : Nat) : Prop where
  generation : ∀ kind, (s'.frameBarriers kind).generation = (s.frameBarriers kind).generation
  testFrame : s'.testFrame i = s.testFrame i
  waiting : ∀ kind, (s'.frameBarriers kind).waiting i = (s.frameBarriers kind).waiting i
  frame : ∀ kind, (s'.frameBarriers kind).frame i = (s.frameBarriers kind).frame i

theorem Same.stands {before after counted : Nat} {waitsBefore waitsAfter : Bool} (h : Same s s' i)
    (hs : Stands s i before after counted waitsBefore waitsAfter) :
    Stands s' i before after counted waitsBefore waitsAfter :=
  ⟨(h.generation _).trans hs.before_generation, (h.generation _).trans hs.after_generation,
    h.testFrame.trans hs.testFrame, (h.waiting _).trans hs.before_waiting,
    (h.waiting _).trans hs.after_waiting⟩

/-- What an instance stands on is its own. -/
theorem At.same (hs : At n s i t) (h : Same s s' i) : At n s' i t := by
  cases hs with
  | begins hs => exact .begins (h.stands hs)
  | comesBefore hs => exact .comesBefore (h.stands hs)
  | waitsBefore hs hframe => exact .waitsBefore (h.stands hs) ((h.frame _).trans hframe)
  | metBefore hs => exact .metBefore (h.stands hs)
  | runs hs => exact .runs (h.stands hs)
  | comesAfter hs => exact .comesAfter (h.stands hs)
  | waitsAfter hs hframe => exact .waitsAfter (h.stands hs) ((h.frame _).trans hframe)
  | metAfter hs => exact .metAfter (h.stands hs)

/-! ## Arriving -/

/-- Instance `i` registers at a barrier. -/
def arrive (s : Impl) (kind : FrameBarrierKind) (i frame : Nat) : Impl :=
  s.setFrameBarrier kind
    { s.frameBarriers kind with
      waiting := Function.update (s.frameBarriers kind).waiting i true
      frame := Function.update (s.frameBarriers kind).frame i frame }

/-- An instance arrives, and releases the barrier if it is the last one. -/
theorem waitAtFrameBarrier_eq (harness : Harness) (s : Impl) (kind : FrameBarrierKind) {i : Nat}
    (hi : i < harness.testInstanceCount) (frame : Nat) (timeoutMs : Int) :
    s.waitAtFrameBarrier kind i frame harness.testInstanceCount timeoutMs =
      if ((arrive s kind i frame).frameBarriers kind).allArrived frame
        harness.testInstanceCount then
        (arrive s kind i frame).releaseFrameBarrier kind harness.testInstanceCount
      else
        (arrive s kind i frame).sleeps
          (.frameBarrier kind frame (s.frameBarriers kind).generation harness.testInstanceCount
            timeoutMs) := by
  have hge : ¬ i ≥ harness.testInstanceCount := by omega
  unfold Impl.waitAtFrameBarrier arrive
  simp only [harness.clampInstanceCount_testInstanceCount, Harness.isValidInstance_of_lt hi,
    Bool.not_true, hge, decide_false, Bool.or_self, Bool.false_eq_true, if_false,
    setFrameBarrier_frameBarriers]

theorem arrive_same (s : Impl) (kind : FrameBarrierKind) (frame : Nat) (h : j ≠ i) :
    Same s (arrive s kind i frame) j := by
  have hcases : ∀ kind', (arrive s kind i frame).frameBarriers kind' = s.frameBarriers kind' ∨
      kind' = kind ∧ (arrive s kind i frame).frameBarriers kind' =
        { s.frameBarriers kind with
          waiting := Function.update (s.frameBarriers kind).waiting i true
          frame := Function.update (s.frameBarriers kind).frame i frame } := by
    intro kind'
    by_cases hkind : kind' = kind
    · subst hkind
      exact .inr ⟨rfl, setFrameBarrier_frameBarriers _ _ _⟩
    · exact .inl (setFrameBarrier_frameBarriers_of_ne _ _ hkind)
  refine ⟨fun kind' => ?_, rfl, fun kind' => ?_, fun kind' => ?_⟩
  · rcases hcases kind' with heq | ⟨rfl, heq⟩ <;> rw [heq]
  · rcases hcases kind' with heq | ⟨rfl, heq⟩
    · rw [heq]
    · rw [heq]
      exact Function.update_of_ne h _ _
  · rcases hcases kind' with heq | ⟨rfl, heq⟩
    · rw [heq]
    · rw [heq]
      exact Function.update_of_ne h _ _

/-- What the coordinator knows of an instance that has just registered at the barrier before a
frame. -/
theorem arrive_before {before after counted : Nat} {waitsAfter : Bool} (frame : Nat)
    (h : Stands s i before after counted false waitsAfter) :
    Stands (arrive s .before i frame) i before after counted true waitsAfter ∧
      ((arrive s .before i frame).frameBarriers .before).frame i = frame := by
  refine ⟨⟨?_, ?_, h.testFrame, ?_, ?_⟩, ?_⟩
  · exact h.before_generation
  · exact h.after_generation
  · exact Function.update_self _ _ _
  · exact h.after_waiting
  · exact Function.update_self _ _ _

theorem arrive_after {before after counted : Nat} {waitsBefore : Bool} (frame : Nat)
    (h : Stands s i before after counted waitsBefore false) :
    Stands (arrive s .after i frame) i before after counted waitsBefore true ∧
      ((arrive s .after i frame).frameBarriers .after).frame i = frame := by
  refine ⟨⟨?_, ?_, h.testFrame, ?_, ?_⟩, ?_⟩
  · exact h.before_generation
  · exact h.after_generation
  · exact h.before_waiting
  · exact Function.update_self _ _ _
  · exact Function.update_self _ _ _

/-! ## Releasing -/

/-- A released barrier lets everybody pass once. -/
theorem release_before (hn : i < n) {before after counted : Nat} {waitsBefore waitsAfter : Bool}
    (h : Stands s i before after counted waitsBefore waitsAfter) :
    Stands (s.releaseFrameBarrier .before n).shared i
      (before + 1) after counted false waitsAfter := by
  refine ⟨?_, h.after_generation, h.testFrame, ?_, h.after_waiting⟩
  · exact congrArg (· + 1) h.before_generation
  · exact if_pos hn

theorem release_after (hn : i < n) {before after counted : Nat} {waitsBefore waitsAfter : Bool}
    (h : Stands s i before after counted waitsBefore waitsAfter) :
    Stands (s.releaseFrameBarrier .after n).shared i before
      (after + 1) counted waitsBefore false := by
  refine ⟨h.before_generation, ?_, h.testFrame, h.before_waiting, ?_⟩
  · exact congrArg (· + 1) h.after_generation
  · exact if_pos hn

/-- Whoever is registered when a barrier is released has met the others there. -/
theorem At.released (hn : i < n) {kind : FrameBarrierKind}
    (hkind : kind ≠ .netplay) (h : At n s i t)
    (hwaiting : (s.frameBarriers kind).waiting i = true) :
    At n (s.releaseFrameBarrier kind n).shared i t := by
  cases kind with
  | netplay => exact absurd rfl hkind
  | before =>
    cases h with
    | waitsBefore h _ => exact .metBefore (release_before hn h)
    | begins h | comesBefore h | metBefore h | runs h | comesAfter h | waitsAfter h _
    | metAfter h =>
      rw [h.before_waiting] at hwaiting
      cases hwaiting
  | after =>
    cases h with
    | waitsAfter h _ => exact .metAfter (release_after hn h)
    | begins h | comesBefore h | waitsBefore h _ | metBefore h | runs h | comesAfter h
    | metAfter h =>
      rw [h.after_waiting] at hwaiting
      cases hwaiting

/-! ## Steps -/

section Step

variable {s : Harness.Frames} {i : Nat} {place : Place} {ended : Section Impl Wait Result}

/-- A section of one instance leaves the others where they are. -/
theorem Inv.finish (h : Inv harness s) (hi : i < harness.testInstanceCount)
    (hself : At harness.testInstanceCount ended.shared i
      (harness.program.moved i place ended.outcome))
    (hothers : ∀ j < harness.testInstanceCount, j ≠ i →
      At harness.testInstanceCount ended.shared j (s.thread j)) :
    Inv harness (s.finish harness.program i place ended) := by
  constructor
  · intro j hj
    exact forall_finish (P := fun j t => j < harness.testInstanceCount →
      At harness.testInstanceCount ended.shared j t)
      (fun _ _ hat hlt => (hat hlt).notify) (fun _ => hself)
        (fun j hji hlt => hothers j hlt hji) j hj
  · intro j hj
    rw [finish_thread_of_ne s i place ended (by omega), h.others j hj]
    split <;> rfl

/-- The last one to arrive releases all others. -/
theorem Inv.release (h : Inv harness s) (hi : i < harness.testInstanceCount)
    {kind : FrameBarrierKind} (hkind : kind ≠ .netplay) {registered : Impl} {frame : Nat}
    (harrived : (registered.frameBarriers kind).allArrived frame harness.testInstanceCount = true)
    (hothers : ∀ j < harness.testInstanceCount, j ≠ i →
      At harness.testInstanceCount registered j (s.thread j))
    (hself : At harness.testInstanceCount
      (registered.releaseFrameBarrier kind harness.testInstanceCount).shared i
      (.outside (harness.returned place (.flag true)))) :
    Inv harness (s.finish harness.program i place
      (registered.releaseFrameBarrier kind harness.testInstanceCount)) := by
  refine h.finish hi hself ?_
  intro j hj hji
  have hwaiting := (FrameBarrier.allArrived_iff.mp harrived j hj).1
  exact (hothers j hj hji).released hj hkind hwaiting

/-- An instance comes to a barrier: it waits there, or it is the last one. -/
theorem Inv.arrive (h : Inv harness s) (hi : i < harness.testInstanceCount)
    {kind : FrameBarrierKind} (hkind : kind ≠ .netplay) {frame generation : Nat} {timeoutMs : Int}
    (hgeneration : (s.shared.frameBarriers kind).generation = generation)
    (hwaits : At harness.testInstanceCount (arrive s.shared kind i frame) i
      (.asleep place (.frameBarrier kind frame generation harness.testInstanceCount timeoutMs)
        false))
    (hmet : At harness.testInstanceCount
      ((FrameLoop.arrive s.shared kind i frame).releaseFrameBarrier kind
        harness.testInstanceCount).shared i
      (.outside (harness.returned place (.flag true)))) :
    Inv harness (s.finish harness.program i place
      (s.shared.waitAtFrameBarrier kind i frame harness.testInstanceCount timeoutMs)) := by
  have hothers : ∀ j < harness.testInstanceCount, j ≠ i →
      At harness.testInstanceCount (FrameLoop.arrive s.shared kind i frame) j (s.thread j) := by
    intro j hj hji
    exact (h.at_place j hj).same (arrive_same s.shared kind frame hji)
  rw [waitAtFrameBarrier_eq harness s.shared kind hi frame timeoutMs, hgeneration]
  split
  · next harrived => exact h.release hi hkind harrived hothers hmet
  · exact h.finish hi hwaits hothers

/-- A section that returns and changes nothing. -/
theorem Inv.unchanged (h : Inv harness s) (hi : i < harness.testInstanceCount)
    {outcome : Outcome Wait Result}
    (hself : At harness.testInstanceCount s.shared i (harness.program.moved i place outcome)) :
    Inv harness (s.finish harness.program i place { shared := s.shared, outcome := outcome }) :=
  h.finish hi hself fun j hj _ => h.at_place j hj

/-- As long as somebody is missing, nobody passes. -/
theorem not_allArrived {barrier : FrameBarrier} {frame : Nat} {n : Nat} (hi : i < n)
    (hwaiting : barrier.waiting i = false) : barrier.allArrived frame n = false := by
  rw [Bool.eq_false_iff]
  intro harrived
  have htrue := (FrameBarrier.allArrived_iff.mp harrived i hi).1
  rw [hwaiting] at htrue
  cases htrue

variable (hturns : harness.usesTurns = false)
include hturns

/-- The steps that go on after a wait. -/
theorem Inv.wake (h : Inv harness s) {wait : Wait} {notified : Bool}
    (hthread : s.thread i = .asleep place wait notified) :
    Inv harness (s.finish harness.program i place (resume i wait s.shared)) := by
  have hi : i < harness.testInstanceCount := by
    by_contra hge
    rw [h.others i (by omega)] at hthread
    cases hthread
  have hat := h.at_place i hi
  rw [hthread] at hat
  have hothers : ∀ j < harness.testInstanceCount, j ≠ i →
      At harness.testInstanceCount s.shared j (s.thread j) := fun j hj _ => h.at_place j hj
  cases hat with
  | waitsBefore hs hframe =>
    unfold resume
    dsimp only
    split
    · next harrived =>
      exact h.release hi (by simp) harrived hothers (.runs (release_before hi hs))
    · rw [if_pos hs.before_generation]
      exact h.unchanged hi (.waitsBefore hs hframe)
  | metBefore hs =>
    unfold resume
    dsimp only
    rw [not_allArrived hi hs.before_waiting, hs.before_generation,
      if_neg (by simp), if_neg (by omega)]
    exact h.unchanged hi (.runs hs)
  | waitsAfter hs hframe =>
    unfold resume
    dsimp only
    split
    · next harrived =>
      refine h.release hi (by simp) harrived hothers ?_
      simp only [Harness.returned, Harness.atAdvanceTurn, hturns, Bool.false_eq_true, if_false]
      exact .begins (release_after hi hs)
    · rw [if_pos hs.after_generation]
      exact h.unchanged hi (.waitsAfter hs hframe)
  | metAfter hs =>
    unfold resume
    dsimp only
    rw [not_allArrived hi hs.after_waiting, hs.after_generation,
      if_neg (by simp), if_neg (by omega)]
    refine h.unchanged hi ?_
    simp only [Program.moved, Harness.program, Harness.returned, Harness.atAdvanceTurn, hturns,
      Bool.false_eq_true, if_false]
    exact .begins hs

variable (hbarrier : harness.usesBarrier = true)
include hbarrier

/-- The steps that begin a call. -/
theorem Inv.enter (h : Inv harness s) {c : Call} (hthread : s.thread i = .outside place)
    (hnext : harness.program.next i place = some c) :
    Inv harness (s.finish harness.program i place (call i c s.shared)) := by
  have hi : i < harness.testInstanceCount := by
    simp only [Harness.program, Harness.next] at hnext
    split at hnext
    · assumption
    · cases hnext
  have hat := h.at_place i hi
  rw [hthread] at hat
  simp only [Harness.program, Harness.next, hi, if_true, Option.some.injEq] at hnext
  subst hnext
  have hvalid := Harness.isValidInstance_of_lt hi
  cases hat with
  | begins hs =>
    simp only [call, Impl.readTestFrame, hvalid, Bool.not_true, Bool.false_eq_true, if_false]
    refine h.unchanged hi ?_
    simp only [Program.moved, Harness.program, Harness.returned, Harness.atSerialTurn, hturns,
      Bool.false_eq_true, if_false, Harness.atBeforeBarrier, hbarrier, if_true, hs.testFrame]
    exact .comesBefore hs
  | @comesBefore r hs =>
    obtain ⟨harrived, hframe⟩ := arrive_before (r % 2 ^ 32) hs
    exact h.arrive hi (by simp) hs.before_generation (.waitsBefore harrived hframe)
      (.runs (release_before hi harrived))
  | @runs r hs =>
    simp only [call, Impl.advanceTestFrame, hvalid, Bool.not_true, Bool.false_eq_true, if_false]
    have hcounted : (s.shared.testFrame i + 1) % 2 ^ 32 = (r + 1) % 2 ^ 32 := by
      rw [hs.testFrame, Nat.mod_add_mod]
    refine h.finish hi ?_ ?_
    · simp only [Program.moved, Impl.returns, Harness.program, Harness.returned,
        Harness.atAfterBarrier, hbarrier, if_true, hcounted]
      exact .comesAfter ⟨hs.before_generation, hs.after_generation,
        Function.update_self _ _ _, hs.before_waiting, hs.after_waiting⟩
    · intro j hj hji
      exact (h.at_place j hj).same
        ⟨fun _ => rfl, Function.update_of_ne hji _ _, fun _ => rfl, fun _ => rfl⟩
  | @comesAfter r hs =>
    obtain ⟨harrived, hframe⟩ := arrive_after ((r + 1) % 2 ^ 32) hs
    refine h.arrive hi (by simp) hs.after_generation (.waitsAfter harrived hframe) ?_
    simp only [Harness.returned, Harness.atAdvanceTurn, hturns, Bool.false_eq_true, if_false]
    exact .begins (release_after hi harrived)

theorem Inv.step (s : Harness.Frames) (e : Event Nat) (t : Harness.Frames) (h : Inv harness s)
    (htimely : e.Timely) (hstep : harness.step s e = some t) : Inv harness t := by
  obtain ⟨i, place, ended, htook, rfl⟩ := step_eq_some.mp hstep
  cases htook with
  | enter hthread hnext => exact h.enter hturns hbarrier hthread hnext
  | wake hthread => exact h.wake hturns hthread
  | expire _ _ => exact htimely.elim

end Step

/-! ## Whole runs -/

/-- An instance is in its frame `r`, numbered `f`: it waits at the barrier before the frame, runs
it, or has not yet left the barrier after it. -/
def InFrame (f r : Nat) (t : Thread Place Wait) : Prop :=
  (∃ wait notified, t = .asleep ⟨.beforeBarrier f, r⟩ wait notified) ∨
    t = .outside ⟨.runFrame f, r⟩ ∨
    t.place = ⟨.afterBarrier ((f + 1) % 2 ^ 32), r⟩

/-- While one instance runs a frame, all are in it. -/
theorem Inv.inFrame {s : Harness.Frames} (h : Inv harness s) {i f r : Nat}
    (hruns : s.thread i = .outside ⟨.runFrame f, r⟩) {j : Nat}
    (hj : j < harness.testInstanceCount) :
    InFrame f r (s.thread j) := by
  have hi : i < harness.testInstanceCount := by
    by_contra hge
    rw [h.others i (by omega)] at hruns
    cases hruns
  have hat := h.at_place i hi
  rw [hruns] at hat
  cases hat with
  | runs hs =>
    have hbefore := hs.before_generation
    have hafter := hs.after_generation
    have hother := h.at_place j hj
    generalize s.thread j = t at hother ⊢
    cases hother with
    | begins ht | comesBefore ht =>
      -- would have to be past the barrier before the frame
      have hb := ht.before_generation
      have ha := ht.after_generation
      omega
    | @waitsBefore r' _ _ ht _ =>
      have hb := ht.before_generation
      have ha := ht.after_generation
      omega
    | @metBefore r' _ _ ht =>
      obtain rfl : r' = r := by
        have ha := ht.after_generation
        omega
      exact .inl ⟨_, _, rfl⟩
    | @runs r' ht =>
      obtain rfl : r' = r := by
        have ha := ht.after_generation
        omega
      exact .inr (.inl rfl)
    | @comesAfter r' ht | @waitsAfter r' _ _ ht _ =>
      obtain rfl : r' = r := by
        have ha := ht.after_generation
        omega
      refine .inr (.inr ?_)
      rw [Nat.mod_add_mod]
      rfl
    | @metAfter r' _ _ ht =>
      have hb := ht.before_generation
      have ha := ht.after_generation
      omega

/-- A wait that is not over is at a barrier that has not been released since the instance came. -/
theorem At.of_not_ready {place : Place} {wait : Wait} {notified : Bool}
    (h : At n s i (.asleep place wait notified)) (hready : ¬ Ready i wait s) :
    (∃ r timeoutMs, Stands s i r r r true false ∧ (s.frameBarriers .before).frame i = r % 2 ^ 32 ∧
      wait = .frameBarrier .before (r % 2 ^ 32) r n timeoutMs) ∨
    (∃ r timeoutMs, Stands s i (r + 1) r (r + 1) false true ∧
      (s.frameBarriers .after).frame i = (r + 1) % 2 ^ 32 ∧
      wait = .frameBarrier .after ((r + 1) % 2 ^ 32) r n timeoutMs) := by
  cases h with
  | @waitsBefore r timeoutMs _ hs hframe => exact .inl ⟨r, timeoutMs, hs, hframe, rfl⟩
  | metBefore hs =>
    refine absurd (.inl ?_) hready
    rw [hs.before_generation]
    omega
  | @waitsAfter r timeoutMs _ hs hframe => exact .inr ⟨r, timeoutMs, hs, hframe, rfl⟩
  | metAfter hs =>
    refine absurd (.inl ?_) hready
    rw [hs.after_generation]
    omega

/-- If all were asleep, with no wait over, they would all be waiting at one barrier for one
frame. -/
theorem Inv.exists_ready {s : Harness.Frames} (h : Inv harness s) :
    ∃ i < harness.testInstanceCount, ∀ place wait notified,
      s.thread i = .asleep place wait notified → Ready i wait s.shared := by
  by_contra hnone
  push Not at hnone
  have hzero : 0 < harness.testInstanceCount := harness.one_le_testInstanceCount
  obtain ⟨place, wait, notified, hthread, hready⟩ := hnone 0 hzero
  have hat := h.at_place 0 hzero
  rw [hthread] at hat
  rcases hat.of_not_ready hready with
    ⟨r, timeoutMs, hs, hframe, rfl⟩ | ⟨r, timeoutMs, hs, hframe, rfl⟩
  · refine hready (.inr (FrameBarrier.allArrived_iff.mpr ?_))
    intro j hj
    obtain ⟨place', wait', notified', hthread', hready'⟩ := hnone j hj
    have hat' := h.at_place j hj
    rw [hthread'] at hat'
    have hb := hs.before_generation
    have ha := hs.after_generation
    rcases hat'.of_not_ready hready' with ⟨r', -, ht, hframe', -⟩ | ⟨r', -, ht, -⟩
    · obtain rfl : r' = r := by
        have hb' := ht.before_generation
        omega
      exact ⟨ht.before_waiting, hframe'⟩
    · have hb' := ht.before_generation
      have ha' := ht.after_generation
      omega
  · refine hready (.inr (FrameBarrier.allArrived_iff.mpr ?_))
    intro j hj
    obtain ⟨place', wait', notified', hthread', hready'⟩ := hnone j hj
    have hat' := h.at_place j hj
    rw [hthread'] at hat'
    have hb := hs.before_generation
    have ha := hs.after_generation
    rcases hat'.of_not_ready hready' with ⟨r', -, ht, -⟩ | ⟨r', -, ht, hframe', -⟩
    · have hb' := ht.before_generation
      have ha' := ht.after_generation
      omega
    · obtain rfl : r' = r := by
        have ha' := ht.after_generation
        omega
      exact ⟨ht.after_waiting, hframe'⟩

theorem inv_begin (harness : Harness) : Inv harness begin :=
  ⟨fun _ _ => .begins ⟨rfl, rfl, rfl, rfl, rfl⟩, fun _ _ => rfl⟩

/-- With the frame barriers on and as long as no wait times out: while an instance runs a frame,
every other one is in the same frame, and at any time some instance can go on. -/
theorem frames_in_lockstep (harness : Harness) (hbarrier : harness.usesBarrier = true)
    (hturns : harness.usesTurns = false) (es : List (Event Nat)) (htimely : ∀ e ∈ es, e.Timely)
    (s : Harness.Frames) (hrun : Run.run harness.step begin es = some s) :
    (∀ i f r, s.thread i = .outside ⟨.runFrame f, r⟩ →
      ∀ j < harness.testInstanceCount, InFrame f r (s.thread j)) ∧
    ∃ i < harness.testInstanceCount, CanGoOn Ready s i := by
  have hinv : Inv harness s :=
    Run.run_invariant_of_forall (Inv.step hturns hbarrier) (inv_begin harness) htimely hrun
  refine ⟨fun _ f r hruns j hj => hinv.inFrame hruns hj, ?_⟩
  obtain ⟨i, hi, hready⟩ := hinv.exists_ready
  exact ⟨i, hi, (Harness.settled_of_run hrun).canGoOn hready⟩

theorem one_le_two_instances : 1 ≤ 2 := Nat.le_succ 1

theorem two_le_kMaxInstances : 2 ≤ kMaxInstances := by decide

/-- Two instances that meet at the barriers, without a limit on their waits. -/
def twoWithBarrier : Harness where
  testInstanceCount := 2
  waitTimeoutMs := 0
  frameBarrierEnabled := true
  one_le_testInstanceCount := one_le_two_instances
  testInstanceCount_le := two_le_kMaxInstances

/-- Instance 1 comes last and runs its first frame, while instance 0 has not woken up yet. -/
theorem frames_in_lockstep_two :
    ∃ s, Run.run twoWithBarrier.step begin [.enter 0, .enter 1, .enter 0, .enter 1] = some s ∧
      s.thread 1 = .outside ⟨.runFrame 0, 0⟩ ∧ InFrame 0 0 (s.thread 0) ∧
      ∃ i < 2, CanGoOn Ready s i := by
  obtain ⟨hframes, hlive⟩ := frames_in_lockstep twoWithBarrier (by decide) (by decide)
    [.enter 0, .enter 1, .enter 0, .enter 1] (by decide) _ rfl
  exact ⟨_, rfl, rfl, hframes 1 0 0 rfl 0 (by decide), hlive⟩

end FrameLoop

end Bigstar.Netplay.Coordination
