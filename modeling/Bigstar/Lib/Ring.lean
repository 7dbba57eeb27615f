import Mathlib.Data.List.Rotate

/-!
# Ring buffers

A fixed number of slots, of which one is next to be overwritten. What a ring holds is read off by
walking once around it from the next slot, so that the oldest entry comes first.
-/

namespace Ring

universe u v

variable {α : Type u} {β : Type v}

/-- The slots in the order in which they will be overwritten. -/
def walk (slots : List α) (next : Nat) : List α := slots.rotate next

@[simp]
theorem length_walk (slots : List α) (next : Nat) : (walk slots next).length = slots.length :=
  List.length_rotate slots next

@[simp]
theorem mem_walk {slots : List α} {next : Nat} {x : α} : x ∈ walk slots next ↔ x ∈ slots :=
  List.mem_rotate

theorem walk_map (f : α → β) (slots : List α) (next : Nat) :
    walk (slots.map f) next = (walk slots next).map f :=
  (List.map_rotate f slots next).symm

/-- Overwriting the next slot and moving on drops the first entry of the walk and adds one at its
end. -/
theorem walk_write {slots : List α} {next : Nat} (h : next < slots.length) (x : α) :
    walk (slots.set next x) ((next + 1) % slots.length) = (walk slots next).tail ++ [x] := by
  have hset : slots.set next x = slots.take next ++ x :: slots.drop (next + 1) := by
    rw [List.set_eq_take_append_cons_drop, if_pos h]
  have hlen : (slots.take next ++ [x]).length = next + 1 := by
    simp only [List.length_append, List.length_take, List.length_singleton]
    omega
  have hwritten : (slots.set next x).rotate (next + 1) =
      slots.drop (next + 1) ++ (slots.take next ++ [x]) := by
    rw [hset, List.append_cons, ← hlen, List.rotate_append_length_eq, hlen]
  have hold : slots.rotate next = slots.drop next ++ slots.take next :=
    List.rotate_eq_drop_append_take (Nat.le_of_lt h)
  unfold walk
  rw [show slots.length = (slots.set next x).length from (List.length_set ..).symm, List.rotate_mod,
    hwritten, hold, List.drop_eq_getElem_cons h, List.cons_append,
    List.tail_cons, List.append_assoc]

/-- Walking from the slot of an entry that is told apart from all others starts with that entry. -/
theorem walk_from {slots before after : List α} {next i : Nat} {x y : α} (p : α → Prop)
    (hwalk : walk slots next = before ++ x :: after) (hnext : next < slots.length)
    (hi : slots[i]? = some y) (hy : p y) (hbefore : ∀ z ∈ before, ¬ p z)
    (hafter : ∀ z ∈ after, ¬ p z) : walk slots i = x :: after ++ before := by
  have hilt : i < slots.length := by
    by_contra hge
    rw [List.getElem?_eq_none (by omega)] at hi
    exact absurd hi (by simp)
  -- going on from `next` for `k` slots leads to slot `i`
  obtain ⟨k, hk, hki⟩ : ∃ k, k < slots.length ∧ (k + next) % slots.length = i := by
    by_cases hle : next ≤ i
    · exact ⟨i - next, by omega, by rw [Nat.sub_add_cancel hle, Nat.mod_eq_of_lt hilt]⟩
    · refine ⟨i + slots.length - next, by omega, ?_⟩
      rw [show i + slots.length - next + next = i + slots.length by omega, Nat.add_mod_right,
        Nat.mod_eq_of_lt hilt]
  have hshift : walk slots i = (walk slots next).rotate k := by
    unfold walk
    rw [List.rotate_rotate, ← hki, Nat.add_comm next k, List.rotate_mod]
  have hget : (before ++ x :: after)[k]? = some y := by
    rw [← hwalk]
    unfold walk
    rw [List.getElem?_rotate hk, hki, hi]
  have hkb : k = before.length := by
    rcases Nat.lt_trichotomy k before.length with hlt | heq | hgt
    · rw [List.getElem?_append_left hlt] at hget
      exact absurd hy (hbefore y (List.mem_of_getElem? hget))
    · exact heq
    · rw [List.getElem?_append_right (by omega), List.getElem?_cons, if_neg (by omega)] at hget
      exact absurd hy (hafter y (List.mem_of_getElem? hget))
  rw [hshift, hwalk, hkb, List.rotate_append_length_eq]

end Ring
