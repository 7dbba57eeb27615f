import Bigstar.Lib.Run
import Mathlib.Logic.Function.Basic

/-!
# Monitors

Threads that share a state under one mutex, and wait on one condition variable that is only ever
notified as a whole. A thread gives the mutex up when it waits and when its call returns, and
nothing else happens between two such points, so that a step is the section from one to the next. A
thread that waits may go on at any time, since condition variables wake up spuriously, and where its
wait has a deadline it may find that the deadline has passed.

What a thread does outside the monitor is a program: from its local state comes the next call, and
from the result of the call the next local state.
-/

namespace Monitor

/-- How a section ends: the thread waits on the condition variable, or its call returns. -/
inductive Outcome (ω ρ : Type) where
  /-- The thread waits for a notification. -/
  | sleeps (wait : ω)
  /-- The call is over. -/
  | returns (result : ρ)
  deriving DecidableEq

/-- What a section leaves behind. -/
structure Section (σ ω ρ : Type) where
  /-- The shared state at the end of the section. -/
  shared : σ
  /-- Whether the waiting threads are notified. -/
  notifyAll : Bool := false
  /-- What becomes of the thread. -/
  outcome : Outcome ω ρ

/-- The code of the monitor: `call` runs from the beginning of a call, `resume` from the return of a
wait and `expire` from a wait whose deadline has passed, if it has one. -/
structure Operations (ι σ κ ω ρ : Type) where
  /-- The section at the beginning of a call. -/
  call : ι → κ → σ → Section σ ω ρ
  /-- The section after a notification. -/
  resume : ι → ω → σ → Section σ ω ρ
  /-- The section after the time of a wait is over, if the wait has one. -/
  expire : ι → ω → σ → Option (Section σ ω ρ)

/-- What the threads do outside the monitor. A thread with no next call has ended. -/
structure Program (ι α κ ρ : Type) where
  /-- The call that a thread makes next, if any. -/
  next : ι → α → Option κ
  /-- Where the thread goes on with a result. -/
  returned : ι → α → ρ → α

/-- A thread is in its own code or waits inside a call. -/
inductive Thread (α ω : Type) where
  /-- In its own code. -/
  | outside (place : α)
  /-- Inside a call, notified or not. -/
  | asleep (place : α) (wait : ω) (notified : Bool)

namespace Thread

variable {α ω : Type}

/-- A notification wakes a thread that waits. -/
def notify : Thread α ω → Thread α ω
  | .outside place => .outside place
  | .asleep place wait _ => .asleep place wait true

/-- Where the thread is in its program. -/
def place : Thread α ω → α
  | .outside place => place
  | .asleep place _ _ => place

@[simp]
theorem place_notify (t : Thread α ω) : t.notify.place = t.place := by
  cases t <;> rfl

@[simp]
theorem notify_eq_outside {t : Thread α ω} {place : α} :
    t.notify = .outside place ↔ t = .outside place := by
  cases t <;> simp [notify]

theorem notify_eq_asleep {t : Thread α ω} {place : α} {wait : ω} {notified : Bool} :
    t.notify = .asleep place wait notified ↔
      notified = true ∧ ∃ before, t = .asleep place wait before := by
  cases t with
  | outside _ => simp [notify]
  | asleep place' wait' notified' =>
    constructor
    · intro h
      cases h
      exact ⟨rfl, notified', rfl⟩
    · rintro ⟨rfl, before, h⟩
      cases h
      rfl

end Thread

/-- The shared state and all threads. -/
structure State (ι σ α ω : Type) where
  /-- What the mutex protects. -/
  shared : σ
  /-- The threads, by their indices. -/
  thread : ι → Thread α ω

/-- What the scheduler may do. -/
inductive Event (ι : Type) where
  /-- A thread begins its next call. -/
  | enter (i : ι)
  /-- A waiting thread goes on, whether it has been notified or not. -/
  | wake (i : ι)
  /-- The time of a wait is over. -/
  | expire (i : ι)
  deriving DecidableEq

namespace Event

variable {ι : Type}

/-- No deadline has passed. -/
def Timely : Event ι → Prop
  | .expire _ => False
  | _ => True

instance : (e : Event ι) → Decidable e.Timely
  | .expire _ => isFalse id
  | .enter _ | .wake _ => isTrue trivial

end Event

section

variable {ι σ κ α ω ρ : Type} [DecidableEq ι] (ops : Operations ι σ κ ω ρ)
  (program : Program ι α κ ρ)

/-- Where thread `i` is after a section. -/
def Program.moved (i : ι) (place : α) : Outcome ω ρ → Thread α ω
  | .sleeps wait => .asleep place wait false
  | .returns result => .outside (program.returned i place result)

/-- The section of thread `i`, which is at `place` in its program, has ended. -/
def State.finish (s : State ι σ α ω) (i : ι) (place : α) (ended : Section σ ω ρ) :
    State ι σ α ω where
  shared := ended.shared
  thread := Function.update
    (fun j => if ended.notifyAll then (s.thread j).notify else s.thread j) i
    (program.moved i place ended.outcome)

/-- `none` for an event that cannot happen. -/
def step (s : State ι σ α ω) : Event ι → Option (State ι σ α ω)
  | .enter i =>
    match s.thread i with
    | .outside place =>
      match program.next i place with
      | some c => some (s.finish program i place (ops.call i c s.shared))
      | none => none
    | .asleep _ _ _ => none
  | .wake i =>
    match s.thread i with
    | .outside _ => none
    | .asleep place wait _ => some (s.finish program i place (ops.resume i wait s.shared))
  | .expire i =>
    match s.thread i with
    | .outside _ => none
    | .asleep place wait _ =>
      match ops.expire i wait s.shared with
      | some ended => some (s.finish program i place ended)
      | none => none

/-- The section that a step consists of. -/
inductive Took (s : State ι σ α ω) : Event ι → ι → α → Section σ ω ρ → Prop
  /-- A call was begun. -/
  | enter {i : ι} {place : α} {c : κ} (hthread : s.thread i = .outside place)
      (hnext : program.next i place = some c) : Took s (.enter i) i place (ops.call i c s.shared)
  /-- A wait was left after a notification. -/
  | wake {i : ι} {place : α} {wait : ω} {notified : Bool}
      (hthread : s.thread i = .asleep place wait notified) :
      Took s (.wake i) i place (ops.resume i wait s.shared)
  /-- A wait was left because its time was over. -/
  | expire {i : ι} {place : α} {wait : ω} {notified : Bool} {ended : Section σ ω ρ}
      (hthread : s.thread i = .asleep place wait notified)
      (hended : ops.expire i wait s.shared = some ended) : Took s (.expire i) i place ended

variable {ops program}

theorem step_eq_some {s t : State ι σ α ω} {e : Event ι} :
    step ops program s e = some t ↔
      ∃ i place ended, Took ops program s e i place ended ∧ t = s.finish program i place ended := by
  constructor
  · intro h
    cases e with
    | enter i =>
      simp only [step] at h
      cases hthread : s.thread i with
      | asleep _ _ _ => simp [hthread] at h
      | outside place =>
        cases hnext : program.next i place with
        | none => simp [hthread, hnext] at h
        | some c =>
          simp only [hthread, hnext, Option.some.injEq] at h
          exact ⟨i, place, _, .enter hthread hnext, h.symm⟩
    | wake i =>
      simp only [step] at h
      cases hthread : s.thread i with
      | outside _ => simp [hthread] at h
      | asleep place wait notified =>
        simp only [hthread, Option.some.injEq] at h
        exact ⟨i, place, _, .wake hthread, h.symm⟩
    | expire i =>
      simp only [step] at h
      cases hthread : s.thread i with
      | outside _ => simp [hthread] at h
      | asleep place wait notified =>
        cases hended : ops.expire i wait s.shared with
        | none => simp [hthread, hended] at h
        | some ended =>
          simp only [hthread, hended, Option.some.injEq] at h
          exact ⟨i, place, _, .expire hthread hended, h.symm⟩
  · rintro ⟨i, place, ended, htook, rfl⟩
    cases htook with
    | enter hthread hnext => simp [step, hthread, hnext]
    | wake hthread => simp [step, hthread]
    | expire hthread hended => simp [step, hthread, hended]

section Finish

variable (s : State ι σ α ω) (i : ι) (place : α) (ended : Section σ ω ρ)

@[simp]
theorem finish_shared : (s.finish program i place ended).shared = ended.shared := rfl

theorem finish_thread_self :
    (s.finish program i place ended).thread i = program.moved i place ended.outcome := by
  unfold State.finish
  dsimp only
  rw [Function.update_self]

omit [DecidableEq ι] in
theorem moved_eq_asleep {program : Program ι α κ ρ} {i : ι} {place place' : α}
    {outcome : Outcome ω ρ} {wait : ω} {notified : Bool}
    (h : program.moved i place outcome = .asleep place' wait notified) :
    outcome = .sleeps wait := by
  cases outcome with
  | sleeps wait' =>
    cases h
    rfl
  | returns result => cases h

theorem finish_thread_of_ne {j : ι} (h : j ≠ i) :
    (s.finish program i place ended).thread j =
      if ended.notifyAll then (s.thread j).notify else s.thread j := by
  unfold State.finish
  dsimp only
  rw [Function.update_of_ne h]

variable {s i place ended}

/-- The rule for what holds of each thread: the one that has moved is looked at alone, and the
others have at most been notified. -/
theorem forall_finish {P : ι → Thread α ω → Prop} (hnotify : ∀ j t, P j t → P j t.notify)
    (hself : P i (program.moved i place ended.outcome)) (hothers : ∀ j, j ≠ i → P j (s.thread j))
    (j : ι) : P j ((s.finish program i place ended).thread j) := by
  by_cases hj : j = i
  · subst hj
    rw [finish_thread_self]
    exact hself
  · rw [finish_thread_of_ne s i place ended hj]
    split
    · exact hnotify j _ (hothers j hj)
    · exact hothers j hj

/-- Another thread that sleeps afterwards has slept before, and has now been notified or is as it
was. -/
theorem finish_asleep_of_ne {j : ι} {place' : α} {wait : ω} {notified : Bool} (h : j ≠ i)
    (hthread : (s.finish program i place ended).thread j = .asleep place' wait notified) :
    ∃ before, s.thread j = .asleep place' wait before ∧
      (notified = false → before = false ∧ ended.notifyAll = false) := by
  rw [finish_thread_of_ne s i place ended h] at hthread
  split at hthread
  · obtain ⟨rfl, before, hbefore⟩ := Thread.notify_eq_asleep.mp hthread
    exact ⟨before, hbefore, fun hfalse => absurd hfalse (by simp)⟩
  · next hquiet => exact ⟨notified, hthread, fun hfalse => ⟨hfalse, by simpa using hquiet⟩⟩

end Finish

/-! ## Lost wakeups -/

/-- No wait that is over has gone unnoticed: a thread whose wait is over has been notified. -/
def Settled (ready : ι → ω → σ → Prop) (s : State ι σ α ω) : Prop :=
  ∀ i place wait, s.thread i = .asleep place wait false → ¬ ready i wait s.shared

/-- A section keeps this if it only ends in waits that are not over, and notifies when it ends the
wait of another thread. -/
theorem Settled.finish {ready : ι → ω → σ → Prop} {s : State ι σ α ω} {i : ι} {place : α}
    {ended : Section σ ω ρ} (h : Settled ready s)
    (hsleep : ∀ wait, ended.outcome = .sleeps wait → ¬ ready i wait ended.shared)
    (hquiet : ended.notifyAll = false → ∀ j place' wait, j ≠ i →
      s.thread j = .asleep place' wait false → ready j wait ended.shared → ready j wait s.shared) :
    Settled ready (s.finish program i place ended) := by
  intro j place' wait hthread hready
  by_cases hj : j = i
  · subst hj
    rw [finish_thread_self] at hthread
    exact hsleep wait (moved_eq_asleep hthread) hready
  · obtain ⟨before, hbefore, hfalse⟩ := finish_asleep_of_ne hj hthread
    obtain ⟨rfl, hnotify⟩ := hfalse rfl
    exact h j place' wait hbefore (hquiet hnotify j place' wait hj hbefore hready)

end

section

variable {ι σ α ω : Type}

/-- A thread is outside the monitor, or its wait is over and it knows. -/
def CanGoOn (ready : ι → ω → σ → Prop) (s : State ι σ α ω) (i : ι) : Prop :=
  (∃ place, s.thread i = .outside place) ∨
    ∃ place wait, s.thread i = .asleep place wait true ∧ ready i wait s.shared

theorem Settled.canGoOn {ready : ι → ω → σ → Prop} {s : State ι σ α ω} (h : Settled ready s) {i : ι}
    (hi : ∀ place wait notified, s.thread i = .asleep place wait notified → ready i wait s.shared) :
    CanGoOn ready s i := by
  cases hthread : s.thread i with
  | outside place => exact .inl ⟨place, hthread⟩
  | asleep place wait notified =>
    have hready := hi place wait notified hthread
    cases notified with
    | false => exact absurd hready (h i place wait hthread)
    | true => exact .inr ⟨place, wait, hthread, hready⟩

end

end Monitor
