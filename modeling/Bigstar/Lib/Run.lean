import Mathlib.Data.List.Range
import Mathlib.Tactic.Common

/-!
# Runs of a partial step function

A component is given by a partial step function `σ → ε → Option σ`: an event that the component
refuses, or that stops it, yields `none`. A run is a list of events. The rules below carry a
property from one step to a whole run, where the events may be restricted by a condition on the
state in which they happen.

The second half is about a deterministic machine driven by one input per frame, and the state it
reaches after the frames of an interval.
-/

namespace Run

universe u v

section Events

variable {σ : Type u} {ε : Type v} (step : σ → ε → Option σ)

/-- The state after a list of events, if none of them was refused. -/
def run : σ → List ε → Option σ
  | s, [] => some s
  | s, e :: es => (step s e).bind fun t => run t es

/-- Every event of the run meets `ok` in the state in which it happens. -/
def Along (ok : σ → ε → Prop) : σ → List ε → Prop
  | _, [] => True
  | s, e :: es => ok s e ∧ ∀ t, step s e = some t → Along ok t es

@[simp]
theorem run_nil (s : σ) : run step s [] = some s := rfl

theorem run_cons (s : σ) (e : ε) (es : List ε) :
    run step s (e :: es) = (step s e).bind fun t => run step t es := rfl

variable {step}

theorem run_cons_eq_some {s t : σ} {e : ε} {es : List ε} (h : run step s (e :: es) = some t) :
    ∃ r, step s e = some r ∧ run step r es = some t :=
  Option.bind_eq_some_iff.mp h

/-- The invariant rule: what every permitted step preserves holds after every permitted run. -/
theorem run_invariant {Inv : σ → Prop} {ok : σ → ε → Prop}
    (hstep : ∀ s e t, Inv s → ok s e → step s e = some t → Inv t) {s t : σ} {es : List ε}
    (hs : Inv s) (hok : Along step ok s es) (hrun : run step s es = some t) : Inv t := by
  induction es generalizing s with
  | nil =>
    obtain rfl : s = t := Option.some.inj hrun
    exact hs
  | cons e es ih =>
    obtain ⟨r, hr, hrun⟩ := run_cons_eq_some hrun
    exact ih (hstep s e r hs hok.1 hr) (hok.2 r hr) hrun

theorem along_of_forall {ok : ε → Prop} {s : σ} {es : List ε} (h : ∀ e ∈ es, ok e) :
    Along step (fun _ e => ok e) s es := by
  induction es generalizing s with
  | nil => trivial
  | cons e es ih =>
    exact ⟨h e List.mem_cons_self, fun t _ => ih fun e he => h e (List.mem_cons_of_mem _ he)⟩

theorem along_imp {ok ok' : σ → ε → Prop} {s : σ} {es : List ε} (h : Along step ok s es)
    (himp : ∀ s e, ok s e → ok' s e) : Along step ok' s es := by
  induction es generalizing s with
  | nil => trivial
  | cons e es ih => exact ⟨himp s e h.1, fun t ht => ih (h.2 t ht)⟩

theorem along_and {ok ok' : σ → ε → Prop} {s : σ} {es : List ε} (h : Along step ok s es)
    (h' : Along step ok' s es) : Along step (fun s e => ok s e ∧ ok' s e) s es := by
  induction es generalizing s with
  | nil => trivial
  | cons e es ih => exact ⟨⟨h.1, h'.1⟩, fun t ht => ih (h.2 t ht) (h'.2 t ht)⟩

/-- What the invariant and one condition on the events give together holds along the whole run. -/
theorem along_of_invariant {Inv : σ → Prop} {ok ok' : σ → ε → Prop}
    (hstep : ∀ s e t, Inv s → ok s e → step s e = some t → Inv t)
    (himp : ∀ s e, Inv s → ok s e → ok' s e) {s : σ} {es : List ε} (hs : Inv s)
    (h : Along step ok s es) : Along step ok' s es := by
  induction es generalizing s with
  | nil => trivial
  | cons e es ih => exact ⟨himp s e hs h.1, fun t ht => ih (hstep s e t hs h.1 ht) (h.2 t ht)⟩

/-- The invariant rule where the events are restricted independently of the state. -/
theorem run_invariant_of_forall {Inv : σ → Prop} {ok : ε → Prop}
    (hstep : ∀ s e t, Inv s → ok e → step s e = some t → Inv t) {s t : σ} {es : List ε}
    (hs : Inv s) (hok : ∀ e ∈ es, ok e) (hrun : run step s es = some t) : Inv t := by
  have halong : Along step (fun _ e => ok e) s es := along_of_forall hok
  exact run_invariant hstep hs halong hrun

/-- The invariant rule where every event is permitted. -/
theorem run_invariant' {Inv : σ → Prop} (hstep : ∀ s e t, Inv s → step s e = some t → Inv t)
    {s t : σ} {es : List ε} (hs : Inv s) (hrun : run step s es = some t) : Inv t := by
  have hok : ∀ e ∈ es, (fun _ : ε => True) e := fun _ _ => trivial
  exact run_invariant_of_forall (fun s e t h _ => hstep s e t h) hs hok hrun

/-- A relation between the first and the last state that is reflexive, transitive and respected by
every permitted step holds across every permitted run. -/
theorem run_relation {Inv : σ → Prop} {R : σ → σ → Prop} {ok : σ → ε → Prop}
    (hrefl : ∀ s, R s s) (htrans : ∀ s t r, R s t → R t r → R s r)
    (hstep : ∀ s e t, Inv s → ok s e → step s e = some t → Inv t ∧ R s t) {s t : σ} {es : List ε}
    (hs : Inv s) (hok : Along step ok s es) (hrun : run step s es = some t) : R s t := by
  induction es generalizing s with
  | nil =>
    obtain rfl : s = t := Option.some.inj hrun
    exact hrefl s
  | cons e es ih =>
    obtain ⟨r, hr, hrun⟩ := run_cons_eq_some hrun
    obtain ⟨hinv, hR⟩ := hstep s e r hs hok.1 hr
    exact htrans s r t hR (ih hinv (hok.2 r hr) hrun)

theorem run_append {s : σ} (es fs : List ε) :
    run step s (es ++ fs) = (run step s es).bind fun t => run step t fs := by
  induction es generalizing s with
  | nil => rfl
  | cons e es ih =>
    rw [List.cons_append, run_cons, run_cons, Option.bind_assoc]
    congr 1
    funext t
    exact ih

theorem along_append {ok : σ → ε → Prop} {s : σ} {es fs : List ε} :
    Along step ok s (es ++ fs) ↔
      Along step ok s es ∧ ∀ t, run step s es = some t → Along step ok t fs := by
  induction es generalizing s with
  | nil => simp [Along]
  | cons e es ih =>
    constructor
    · intro h
      refine ⟨⟨h.1, fun t ht => (ih.mp (h.2 t ht)).1⟩, fun t ht => ?_⟩
      obtain ⟨r, hr, hrun⟩ := run_cons_eq_some ht
      exact (ih.mp (h.2 r hr)).2 t hrun
    · intro h
      refine ⟨h.1.1, fun t ht => ih.mpr ⟨h.1.2 t ht, fun r hr => h.2 r ?_⟩⟩
      rw [run_cons, ht]
      exact hr

/-- Whether the events of a concrete run meet a decidable condition can be computed. -/
instance decidableAlong {ok : σ → ε → Prop} [∀ s e, Decidable (ok s e)] :
    (s : σ) → (es : List ε) → Decidable (Along step ok s es)
  | _, [] => isTrue trivial
  | s, e :: es =>
    match h : step s e with
    | none =>
      decidable_of_iff (ok s e)
        ⟨fun hok => ⟨hok, fun t ht => absurd (h.symm.trans ht) (by simp)⟩, fun h => h.1⟩
    | some t =>
      have : Decidable (Along step ok t es) := decidableAlong t es
      decidable_of_iff (ok s e ∧ Along step ok t es)
        ⟨fun hok => ⟨hok.1, fun r hr => Option.some.inj (h.symm.trans hr) ▸ hok.2⟩,
          fun hok => ⟨hok.1, hok.2 t h⟩⟩

variable (step) in
/-- The state after a run that is known to succeed. -/
def final (s : σ) (es : List ε) : σ := (run step s es).getD s

variable (step) in
theorem run_eq_final (s : σ) (es : List ε) (h : (run step s es).isSome) :
    run step s es = some (final step s es) := by
  obtain ⟨t, ht⟩ := Option.isSome_iff_exists.mp h
  unfold final
  rw [ht]
  rfl

end Events

section Frames

variable {σ : Type u} {ι : Type v} (tick : σ → ι → σ)

/-- The state reached from `s`, taken before frame `start`, once the frames below `f` have run. -/
def stateAt (inputs : Nat → ι) (s : σ) (start f : Nat) : σ :=
  (List.range' start (f - start)).foldl (fun s k => tick s (inputs k)) s

theorem stateAt_of_le (inputs : Nat → ι) (s : σ) {start f : Nat} (h : f ≤ start) :
    stateAt tick inputs s start f = s := by
  unfold stateAt
  rw [Nat.sub_eq_zero_of_le h]
  rfl

@[simp]
theorem stateAt_self (inputs : Nat → ι) (s : σ) (start : Nat) :
    stateAt tick inputs s start start = s := stateAt_of_le tick inputs s (Nat.le_refl start)

theorem stateAt_succ (inputs : Nat → ι) (s : σ) {start f : Nat} (h : start ≤ f) :
    stateAt tick inputs s start (f + 1) = tick (stateAt tick inputs s start f) (inputs f) := by
  unfold stateAt
  rw [show f + 1 - start = (f - start) + 1 by omega, List.range'_concat, List.foldl_append]
  simp only [List.foldl_cons, List.foldl_nil]
  rw [show start + 1 * (f - start) = f by omega]

/-- Only the inputs of the frames that ran matter. -/
theorem stateAt_congr {inputs inputs' : Nat → ι} (s : σ) {start f : Nat}
    (h : ∀ k, start ≤ k → k < f → inputs k = inputs' k) :
    stateAt tick inputs s start f = stateAt tick inputs' s start f := by
  unfold stateAt
  apply List.foldl_ext
  intro t k hk
  rw [List.mem_range'_1] at hk
  rw [h k hk.1 (by omega)]

end Frames

end Run
