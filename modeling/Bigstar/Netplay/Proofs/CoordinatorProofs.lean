import Bigstar.Netplay.Coordinator

/-!
# No lost wakeups

Whatever calls the instances make, a thread that sleeps in the coordinator without having been
notified waits for something that has not happened. The only thing this needs is that all calls of
the frame barriers count the same instances: the last one to arrive releases the barrier by itself,
and a timeout only ever takes an arrival back.
-/

namespace Bigstar.Netplay.Coordination

open Monitor

/-- The condition of a waiting loop has come true. -/
def Ready (instanceID : Nat) (wait : Wait) (s : Impl) : Prop :=
  match wait with
  | .netplayStartLeader instanceCount _ => s.allStartArrived instanceCount = true
  | .netplayStartPeer _ => s.netplayStartComplete = true
  | .frameBarrier kind frame generation instanceCount _ =>
    (s.frameBarriers kind).generation ≠ generation ∨
      (s.frameBarriers kind).allArrived frame instanceCount = true
  | .serialTurn frame _ => s.serialFrame = frame ∧ s.serialInstance = instanceID

/-- The calls of the frame barriers count `n` instances. -/
def Call.Counts (n : Nat) : Call → Prop
  | .waitAtFrameBarrier _ _ instanceCount _ => clampInstanceCount instanceCount = n
  | _ => True

/-- A wait at the barrier is for as many instances. -/
def Wait.Counts (n : Nat) : Wait → Prop
  | .frameBarrier _ _ _ instanceCount _ => instanceCount = n
  | _ => True

/-! ## The sections -/

/-- What the threads that sleep rely on in a section of instance `i`. -/
structure Fair (n i : Nat) (before : Impl) (ended : Section Impl Wait Result) : Prop where
  sleeps : ∀ wait, ended.outcome = .sleeps wait → wait.Counts n ∧ ¬ Ready i wait ended.shared
  quiet : ended.notifyAll = false → ∀ j wait, j ≠ i → wait.Counts n → Ready j wait ended.shared →
    Ready j wait before

variable {n i : Nat} {s : Impl}

/-- A section that returns and changes nothing that a thread waits for. -/
theorem Fair.of_same {ended : Section Impl Wait Result}
    (hreturns : ∀ wait, ended.outcome ≠ .sleeps wait)
    (hsame : ∀ j wait, Ready j wait ended.shared → Ready j wait s) : Fair n i s ended :=
  ⟨fun wait h => absurd h (hreturns wait), fun _ j wait _ _ h => hsame j wait h⟩

theorem Fair.returns (result : Result) : Fair n i s (s.returns result) :=
  Fair.of_same (fun _ h => by cases h) fun _ _ h => h

theorem Fair.returnsNotifying (t : Impl) (result : Result) :
    Fair n i s (t.returnsNotifying result) :=
  ⟨fun _ h => (nomatch h), fun h => (nomatch h)⟩

theorem Fair.sleeps_same {wait : Wait} (hcounts : wait.Counts n) (hready : ¬ Ready i wait s) :
    Fair n i s (s.sleeps wait) := by
  refine ⟨?_, fun _ j wait' _ _ h => h⟩
  intro wait' h
  cases h
  exact ⟨hcounts, hready⟩

@[simp]
theorem setFrameBarrier_frameBarriers (s : Impl) (kind : FrameBarrierKind)
    (barrier : FrameBarrier) :
    (s.setFrameBarrier kind barrier).frameBarriers kind = barrier :=
  Function.update_self _ _ _

theorem setFrameBarrier_frameBarriers_of_ne (s : Impl) {kind kind' : FrameBarrierKind}
    (barrier : FrameBarrier) (h : kind' ≠ kind) :
    (s.setFrameBarrier kind barrier).frameBarriers kind' = s.frameBarriers kind' :=
  Function.update_of_ne h _ _

theorem FrameBarrier.allArrived_iff {barrier : FrameBarrier} {frame instanceCount : Nat} :
    barrier.allArrived frame instanceCount = true ↔
      ∀ j < instanceCount, barrier.waiting j = true ∧ barrier.frame j = frame := by
  simp [FrameBarrier.allArrived, List.all_eq_true]

/-- The frames of an arriving instance and of one that is counted with it agree once all have
arrived. -/
theorem Fair.waitAtFrameBarrier (kind : FrameBarrierKind) (frame : Nat) {instanceCount : Int}
    (timeoutMs : Int) (hcounts : clampInstanceCount instanceCount = n) :
    Fair n i s (s.waitAtFrameBarrier kind i frame instanceCount timeoutMs) := by
  unfold Impl.waitAtFrameBarrier
  dsimp only
  rw [hcounts]
  split
  · exact Fair.returns _
  · next hi =>
    have hlt : i < n := by
      simp only [ge_iff_le, Bool.or_eq_true, Bool.not_eq_true', decide_eq_true_eq, not_or] at hi
      omega
    split
    · exact Fair.returnsNotifying _ _
    · next hmissing =>
      constructor
      · intro wait h
        cases h
        refine ⟨rfl, ?_⟩
        intro hready
        simp only [Ready, Impl.sleeps, setFrameBarrier_frameBarriers, ne_eq,
          not_true, false_or] at hready
        exact hmissing hready
      · intro _ j wait _ hwait hready
        cases wait with
        | netplayStartLeader _ _ => exact hready
        | netplayStartPeer _ => exact hready
        | serialTurn _ _ => exact hready
        | frameBarrier kind' frame' generation instanceCount' _ =>
          have hcount : instanceCount' = n := hwait
          subst hcount
          by_cases hkind : kind' = kind
          · subst hkind
            simp only [Ready, Impl.sleeps, setFrameBarrier_frameBarriers] at hready
            rcases hready with hgeneration | harrived
            · exact .inl hgeneration
            · -- the arriving instance has arrived too, with its own frame
              have hframe := (FrameBarrier.allArrived_iff.mp harrived i hlt).2
              dsimp only at hframe
              rw [Function.update_self] at hframe
              rw [← hframe] at harrived
              exact absurd harrived hmissing
          · simp only [Ready, Impl.sleeps, setFrameBarrier_frameBarriers_of_ne s _ hkind] at hready
            exact hready

theorem Fair.waitForNetplayStart (localInstance : Nat) (instanceCount timeoutMs : Int) :
    Fair n i s (s.waitForNetplayStart i localInstance instanceCount timeoutMs) := by
  unfold Impl.waitForNetplayStart
  dsimp only
  split
  · exact Fair.returns _
  · split
    · exact Fair.returns _
    · next hcomplete =>
      split
      · split
        · exact Fair.returnsNotifying _ _
        · next hmissing =>
          refine ⟨?_, fun h => by cases h⟩
          intro wait h
          cases h
          exact ⟨trivial, hmissing⟩
      · refine ⟨?_, fun h => by cases h⟩
        intro wait h
        cases h
        exact ⟨trivial, hcomplete⟩

theorem Fair.waitForSerialTurn (frame : Nat) (instanceCount timeoutMs : Int) :
    Fair n i s (s.waitForSerialTurn i frame instanceCount timeoutMs) := by
  unfold Impl.waitForSerialTurn
  dsimp only
  split
  · exact Fair.returns _
  · split
    · exact Fair.returns _
    · next hturn => exact Fair.sleeps_same trivial hturn

theorem Fair.advanceSerialTurn (frame : Nat) (instanceCount : Int) :
    Fair n i s (s.advanceSerialTurn i frame instanceCount) := by
  unfold Impl.advanceSerialTurn
  dsimp only
  split
  · exact Fair.returns _
  · split
    · exact Fair.returns _
    · split
      · exact Fair.returnsNotifying _ _
      · exact Fair.returnsNotifying _ _

theorem Fair.call (c : Call) (hcounts : c.Counts n) : Fair n i s (call i c s) := by
  cases c with
  | waitForNetplayStart localInstance instanceCount timeoutMs =>
    exact Fair.waitForNetplayStart _ _ _
  | waitAtFrameBarrier kind frame instanceCount timeoutMs =>
    exact Fair.waitAtFrameBarrier kind frame timeoutMs hcounts
  | waitForSerialTurn frame instanceCount timeoutMs => exact Fair.waitForSerialTurn _ _ _
  | advanceSerialTurn frame instanceCount => exact Fair.advanceSerialTurn _ _
  | resetNetplayStartWait => exact Fair.returnsNotifying _ _
  | completeNetplayStartWait => exact Fair.returnsNotifying _ _
  | isNetplayLockstepStarted => exact Fair.returns _
  | needsInitialRemoteInput _ => exact Fair.returns _
  | testFrame =>
    simp only [Coordination.call, Impl.readTestFrame]
    split <;> exact Fair.returns _
  | allTestFramesReached _ _ => exact Fair.returns _
  | isStateSaved => exact Fair.returns _
  | allStatesSaved _ => exact Fair.returns _
  | isStateLoaded => exact Fair.returns _
  | allStatesLoaded _ => exact Fair.returns _
  | localMPLoadStatus => exact Fair.returns _
  -- the others change fields that nobody waits for
  | markNetplayLockstepStarted =>
    simp only [Coordination.call, Impl.markNetplayLockstepStarted]
    split
    · exact Fair.returns _
    · exact Fair.of_same (fun _ h => by cases h) fun _ wait h => by cases wait <;> exact h
  | resetNetplayLockstep =>
    simp only [Coordination.call, Impl.resetNetplayLockstep]
    split
    · exact Fair.returns _
    · exact Fair.of_same (fun _ h => by cases h) fun _ wait h => by cases wait <;> exact h
  | advanceTestFrame =>
    simp only [Coordination.call, Impl.advanceTestFrame]
    split
    · exact Fair.returns _
    · exact Fair.of_same (fun _ h => by cases h) fun _ wait h => by cases wait <;> exact h
  | markStateSaved =>
    simp only [Coordination.call, Impl.markStateSaved]
    split
    · exact Fair.returns _
    · exact Fair.of_same (fun _ h => by cases h) fun _ wait h => by cases wait <;> exact h
  | tryBeginLocalMPSave _ =>
    simp only [Coordination.call, Impl.tryBeginLocalMPSave]
    split
    · exact Fair.returns _
    · split
      · exact Fair.returns _
      · exact Fair.of_same (fun _ h => by cases h) fun _ wait h => by cases wait <;> exact h
  | markStateLoaded =>
    simp only [Coordination.call, Impl.markStateLoaded]
    split
    · exact Fair.returns _
    · exact Fair.of_same (fun _ h => by cases h) fun _ wait h => by cases wait <;> exact h
  | tryBeginLocalMPLoad =>
    simp only [Coordination.call, Impl.tryBeginLocalMPLoad]
    split
    · exact Fair.returns _
    · exact Fair.of_same (fun _ h => by cases h) fun _ wait h => by cases wait <;> exact h
  | finishLocalMPLoad _ =>
    exact Fair.of_same (fun _ h => by cases h) fun _ wait h => by cases wait <;> exact h

theorem Fair.resume (wait : Wait) (hcounts : wait.Counts n) : Fair n i s (resume i wait s) := by
  cases wait with
  | netplayStartLeader instanceCount timeoutMs =>
    simp only [Coordination.resume]
    split
    · exact Fair.returns _
    · next hmissing => exact Fair.sleeps_same hcounts hmissing
  | netplayStartPeer timeoutMs =>
    simp only [Coordination.resume]
    split
    · exact Fair.returns _
    · next hcomplete => exact Fair.sleeps_same hcounts hcomplete
  | frameBarrier kind frame generation instanceCount timeoutMs =>
    simp only [Coordination.resume]
    split
    · exact Fair.returnsNotifying _ _
    · next hmissing =>
      split
      · next hgeneration =>
          exact Fair.sleeps_same hcounts (not_or.mpr ⟨not_not.mpr hgeneration, hmissing⟩)
      · exact Fair.returns _
  | serialTurn frame timeoutMs =>
    simp only [Coordination.resume]
    split
    · exact Fair.returns _
    · next hturn => exact Fair.sleeps_same hcounts hturn

theorem Fair.expire {wait : Wait} {ended : Section Impl Wait Result}
    (h : expire i wait s = some ended) : Fair n i s ended := by
  cases wait with
  | netplayStartLeader _ _ =>
    simp only [Coordination.expire, Option.ite_none_right_eq_some, Option.some.injEq] at h
    rw [← h.2]
    exact Fair.returns _
  | netplayStartPeer _ =>
    simp only [Coordination.expire, Option.ite_none_right_eq_some, Option.some.injEq] at h
    rw [← h.2]
    exact Fair.returns _
  | frameBarrier _ _ _ _ _ =>
    simp only [Coordination.expire, Option.ite_none_right_eq_some, Option.some.injEq] at h
    rw [← h.2]
    exact Fair.returnsNotifying _ _
  | serialTurn _ _ =>
    simp only [Coordination.expire, Option.ite_none_right_eq_some, Option.some.injEq] at h
    rw [← h.2]
    exact Fair.returns _

/-! ## Whole runs -/

section

variable {α : Type} {program : Program Nat α Call Result}

/-- No wakeup is lost, and every sleeping call counts the same instances. -/
structure Awake (n : Nat) (s : State Nat Impl α Wait) : Prop where
  settled : Settled Ready s
  counts : ∀ i place wait notified, s.thread i = .asleep place wait notified → wait.Counts n

theorem Awake.finish {s : State Nat Impl α Wait} (h : Awake n s) (place : α)
    {ended : Section Impl Wait Result} (hfair : Fair n i s.shared ended) :
    Awake n (s.finish program i place ended) := by
  constructor
  · refine h.settled.finish (fun wait hwait => (hfair.sleeps wait hwait).2) ?_
    intro hquiet j place' wait hj hthread hready
    exact hfair.quiet hquiet j wait hj (h.counts j place' wait false hthread) hready
  · intro j place' wait notified hthread
    by_cases hj : j = i
    · subst hj
      rw [finish_thread_self] at hthread
      exact (hfair.sleeps wait (moved_eq_asleep hthread)).1
    · obtain ⟨before, hbefore, -⟩ := finish_asleep_of_ne hj hthread
      exact h.counts j place' wait before hbefore

theorem Awake.step (hcounts : ∀ i place c, program.next i place = some c → c.Counts n)
    (s : State Nat Impl α Wait) (e : Event Nat) (t : State Nat Impl α Wait) (h : Awake n s)
    (hstep : Monitor.step operations program s e = some t) : Awake n t := by
  obtain ⟨i, place, ended, htook, rfl⟩ := step_eq_some.mp hstep
  cases htook with
  | enter hthread hnext => exact h.finish place (Fair.call _ (hcounts _ _ _ hnext))
  | wake hthread => exact h.finish place (Fair.resume _ (h.counts _ _ _ _ hthread))
  | expire hthread hended => exact h.finish place (Fair.expire hended)

/-- The threads at the beginning of their programs. -/
def initial (start : Nat → α) : State Nat Impl α Wait :=
  { shared := {}, thread := fun i => .outside (start i) }

theorem Awake.run (hcounts : ∀ i place c, program.next i place = some c →
    c.Counts n) {start : Nat → α}
    {es : List (Event Nat)} {s : State Nat Impl α Wait}
    (hrun : Run.run (Monitor.step operations program) (initial start) es = some s) : Awake n s := by
  have hinit : Awake n (initial start) := by
    constructor
    · intro i place wait hthread
      cases hthread
    · intro i place wait notified hthread
      cases hthread
  exact Run.run_invariant' (Awake.step hcounts) hinit hrun

/-- Whatever the instances call, in any order and with any waits timing out or waking up spuriously:
a thread that sleeps without having been notified waits for a condition that is false. -/
theorem no_lost_wakeup (program : Program Nat α Call Result) (n : Nat)
    (hcounts : ∀ i place c, program.next i place = some c → c.Counts n) (start : Nat → α)
    (es : List (Event Nat)) (s : State Nat Impl α Wait)
    (hrun : Run.run (Monitor.step operations program) (initial start) es = some s) :
    Settled Ready s := (Awake.run hcounts hrun).settled

end

/-- Instance 1 asks for its turn in frame 0 and instance 0 hands its own on; each makes one call. -/
def handOver : Program Nat Bool Call Result where
  next := fun i called =>
    match i, called with
    | 0, false => some (.advanceSerialTurn 0 2)
    | 1, false => some (.waitForSerialTurn 0 2 0)
    | _, _ => none
  returned := fun _ _ _ => true

theorem handOver_counts (i : Nat) (called : Bool) (c : Call) (h : handOver.next i called = some c) :
    c.Counts 2 := by
  unfold handOver at h
  dsimp only at h
  split at h
  · cases h
    trivial
  · cases h
    trivial
  · cases h

/-- Instance 1 sleeps, and has not been notified, before instance 0 has handed its turn on. -/
theorem no_lost_wakeup_handOver :
    ∃ s, Run.run (Monitor.step operations handOver) (initial fun _ => false) [.enter 1] = some s ∧
      s.thread 1 = .asleep false (.serialTurn 0 0) false ∧
      ¬ Ready 1 (.serialTurn 0 0) s.shared := by
  have hsettled := no_lost_wakeup handOver 2 handOver_counts (fun _ => false) [.enter 1] _ rfl
  exact ⟨_, rfl, rfl, hsettled 1 false (.serialTurn 0 0) rfl⟩

end Bigstar.Netplay.Coordination
