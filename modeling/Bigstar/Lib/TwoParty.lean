import Mathlib.Algebra.Ring.Nat
import Mathlib.Logic.Function.Basic
import Mathlib.Tactic.Common

/-!
# Two parties and what they have sent

The state of a protocol between two parties: the local state of each one, and the messages that each
one has sent. These are all messages ever sent, where the network may lose, repeat and reorder them,
or the ones in flight on a connection that delivers in order. A step changes one party, which may
append messages; on a connection, it may take the oldest message of the other one, and a loss of the
connection drops what is in flight. The rules reduce an invariant that relates each party to the
other one to the two sides of such a step.
-/

namespace TwoParty

/-- There is a first party, which gives the literals of `Fin 2` their meaning. -/
instance neZero_two : NeZero 2 := ⟨Nat.succ_ne_zero 1⟩

/-- The party on the other side. -/
def other : Fin 2 → Fin 2
  | 0 => 1
  | 1 => 0

@[simp]
theorem other_other (p : Fin 2) : other (other p) = p := by
  revert p
  decide

theorem other_ne (p : Fin 2) : other p ≠ p := by
  revert p
  decide

theorem eq_or_eq_other (p q : Fin 2) : q = p ∨ q = other p := by
  revert p q
  decide

/-- Two parties with local states in `σ` and messages in `μ`. -/
structure Net (σ μ : Type) where
  /-- The states of the two parties. -/
  side : Fin 2 → σ
  /-- The messages a party has sent, the oldest one first. -/
  sent : Fin 2 → List μ

namespace Net

variable {σ μ : Type}

/-- Puts party `p` in state `a` after it has sent `messages`. -/
def put (s : Net σ μ) (p : Fin 2) (a : σ) (messages : List μ := []) : Net σ μ :=
  { side := Function.update s.side p a
    sent := Function.update s.sent p (s.sent p ++ messages) }

variable (s : Net σ μ) (p : Fin 2) (a : σ) (messages : List μ)

@[simp]
theorem put_side_self : (s.put p a messages).side p = a := Function.update_self _ _ _

@[simp]
theorem put_side_other : (s.put p a messages).side (other p) = s.side (other p) :=
  Function.update_of_ne (other_ne p) _ _

@[simp]
theorem put_sent_self : (s.put p a messages).sent p = s.sent p ++ messages :=
  Function.update_self _ _ _

@[simp]
theorem put_sent_other : (s.put p a messages).sent (other p) = s.sent (other p) :=
  Function.update_of_ne (other_ne p) _ _

/-- The messages of party `q` in flight are `rest` from now on. -/
def remain (s : Net σ μ) (q : Fin 2) (rest : List μ) : Net σ μ :=
  { s with sent := Function.update s.sent q rest }

@[simp]
theorem remain_side (q : Fin 2) (rest : List μ) : (s.remain q rest).side = s.side := rfl

@[simp]
theorem remain_sent_self (q : Fin 2) (rest : List μ) : (s.remain q rest).sent q = rest :=
  Function.update_self _ _ _

@[simp]
theorem remain_sent_other (rest : List μ) : (s.remain (other p) rest).sent p = s.sent p :=
  Function.update_of_ne (other_ne p).symm _ _

theorem put_remain (rest : List μ) :
    (s.put p a messages).remain (other p) rest = (s.remain (other p) rest).put p a messages := by
  unfold put remain
  dsimp only
  rw [Function.update_of_ne (other_ne p).symm]
  congr 1
  exact Function.update_comm (other_ne p).symm _ _ _

/-- Nothing is in flight any more. -/
def drop (s : Net σ μ) : Net σ μ := { s with sent := fun _ => [] }

@[simp]
theorem drop_side : s.drop.side = s.side := rfl

@[simp]
theorem drop_sent (q : Fin 2) : s.drop.sent q = [] := rfl

variable {s p a messages}

/-- What relates each party, and what it has sent, to the other one is to be shown for the party
that has changed and for the one that has not. -/
theorem forall_put {I : Fin 2 → σ → σ → List μ → List μ → Prop}
    (hself : I p a (s.side (other p)) (s.sent p ++ messages) (s.sent (other p)))
    (hother : I (other p) (s.side (other p)) a (s.sent (other p)) (s.sent p ++ messages))
    (q : Fin 2) :
    I q ((s.put p a messages).side q) ((s.put p a messages).side (other q))
      ((s.put p a messages).sent q) ((s.put p a messages).sent (other q)) := by
  rcases eq_or_eq_other p q with rfl | rfl
  · rw [put_side_self, put_side_other, put_sent_self, put_sent_other]
    exact hself
  · rw [other_other, put_side_other, put_side_self, put_sent_other, put_sent_self]
    exact hother

end Net

end TwoParty
