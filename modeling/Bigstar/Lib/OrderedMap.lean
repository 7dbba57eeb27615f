import Mathlib.Data.Finset.Max
import Mathlib.Data.List.Sort
import Mathlib.Tactic.Common

/-!
# Ordered maps with natural-number keys

The range operations of an ordered associative container (`lower_bound`, `upper_bound`, erasing a
prefix or a suffix, stepping back from a bound), expressed on `Std.ExtTreeMap`. Every operation gets
its lookup lemma, so that proofs about a program never look inside the tree.
-/

namespace OrderedMap

open Std

/-- An ordered map from natural numbers to `β`. -/
abbrev NatMap (β : Type) := ExtTreeMap Nat β

variable {β : Type}

namespace NatMap

/-- Erases the keys from `lower_bound(k)` to the end. -/
def eraseFrom (m : NatMap β) (k : Nat) : NatMap β := m.filter fun x _ => decide (x < k)

/-- Erases the keys from the beginning to `lower_bound(k)`. -/
def eraseBelow (m : NatMap β) (k : Nat) : NatMap β := m.filter fun x _ => decide (k ≤ x)

/-- Erases the keys from `upper_bound(k)` to the end. -/
def eraseAfter (m : NatMap β) (k : Nat) : NatMap β := m.filter fun x _ => decide (x ≤ k)

/-- The first key of the map. -/
def firstKey (m : NatMap β) : Option Nat := m.keys.head?

/-- The last key of the map. -/
def lastKey (m : NatMap β) : Option Nat := m.keys.getLast?

/-- The entry just before `lower_bound(k)`. -/
def entryBefore (m : NatMap β) (k : Nat) : Option (Nat × β) := (m.eraseFrom k).toList.getLast?

/-- The entry just before `upper_bound(k)`. -/
def entryAtOrBefore (m : NatMap β) (k : Nat) : Option (Nat × β) := (m.eraseAfter k).toList.getLast?

/-- The entries from `upper_bound(k)` to the end, in ascending order. -/
def entriesAfter (m : NatMap β) (k : Nat) : List (Nat × β) :=
  m.toList.filter fun e => decide (k < e.1)

end NatMap

/-! ## Lookups -/

theorem getElem?_insert_eq (m : NatMap β) (k a : Nat) (v : β) :
    (m.insert k v)[a]? = if k = a then some v else m[a]? := by
  rw [ExtTreeMap.getElem?_insert]
  simp only [Nat.compare_eq_eq]

theorem getElem?_insertIfNew_eq (m : NatMap β) (k a : Nat) (v : β) :
    (m.insertIfNew k v)[a]? = if k = a ∧ m[k]? = none then some v else m[a]? := by
  rw [ExtTreeMap.getElem?_insertIfNew]
  simp only [Nat.compare_eq_eq, ExtTreeMap.mem_iff_isSome_getElem?, Bool.not_eq_true,
    Option.isSome_eq_false_iff, Option.isNone_iff_eq_none]

theorem getElem?_filter_eq (m : NatMap β) (p : Nat → β → Bool) (a : Nat) :
    (m.filter p)[a]? = m[a]?.filter (p a) :=
  ExtTreeMap.getElem?_filter'

theorem getElem?_erase_eq (m : NatMap β) (k a : Nat) :
    (m.erase k)[a]? = if k = a then none else m[a]? := by
  rw [ExtTreeMap.getElem?_erase]
  simp only [Nat.compare_eq_eq]

@[simp]
theorem getElem?_eraseFrom (m : NatMap β) (k a : Nat) :
    (m.eraseFrom k)[a]? = if a < k then m[a]? else none := by
  unfold NatMap.eraseFrom
  rw [getElem?_filter_eq]
  by_cases h : a < k <;> cases m[a]? <;> simp [h]

@[simp]
theorem getElem?_eraseBelow (m : NatMap β) (k a : Nat) :
    (m.eraseBelow k)[a]? = if k ≤ a then m[a]? else none := by
  unfold NatMap.eraseBelow
  rw [getElem?_filter_eq]
  by_cases h : k ≤ a <;> cases m[a]? <;> simp [h]

@[simp]
theorem getElem?_eraseAfter (m : NatMap β) (k a : Nat) :
    (m.eraseAfter k)[a]? = if a ≤ k then m[a]? else none := by
  unfold NatMap.eraseAfter
  rw [getElem?_filter_eq]
  by_cases h : a ≤ k <;> cases m[a]? <;> simp [h]

/-! ## Entries next to a bound -/

theorem getElem?_of_getLast?_toList {m : NatMap β} {e : Nat × β} (h : m.toList.getLast? = some e) :
    m[e.1]? = some e.2 :=
  ExtTreeMap.mem_toList_iff_getElem?_eq_some.mp (List.mem_of_getLast? h)

/-- The entry is in the map, and not after the key. -/
theorem entryAtOrBefore_eq_some {m : NatMap β} {k a : Nat} {v : β}
    (h : m.entryAtOrBefore k = some (a, v)) : m[a]? = some v ∧ a ≤ k := by
  have ha := getElem?_of_getLast?_toList h
  rw [getElem?_eraseAfter] at ha
  split at ha
  · next hle => exact ⟨ha, hle⟩
  · exact absurd ha (by simp)

/-! ## Counting keys

A loop that visits a new key of the map in every round makes at most as many rounds as there are
keys in the interval it moves through. -/

/-- The number of keys above `lo` and at most `hi`. -/
def keysIn (m : NatMap β) (lo hi : Nat) : Nat :=
  (m.keys.toFinset.filter fun k => lo < k ∧ k ≤ hi).card

theorem mem_keys_of_getElem? {m : NatMap β} {k : Nat} {v : β} (h : m[k]? = some v) :
    k ∈ m.keys := by
  rw [ExtTreeMap.mem_keys, ExtTreeMap.mem_iff_isSome_getElem?, h]
  rfl

theorem card_keys_le_size (m : NatMap β) (P : Nat → Prop) [DecidablePred P] :
    (m.keys.toFinset.filter P).card ≤ m.size := by
  calc (m.keys.toFinset.filter P).card ≤ m.keys.toFinset.card := Finset.card_filter_le _ _
    _ ≤ m.keys.length := List.toFinset_card_le _
    _ = m.size := ExtTreeMap.length_keys

/-- Leaving out a key lowers the count. -/
theorem card_keys_lt {m : NatMap β} {P Q : Nat → Prop} [DecidablePred P] [DecidablePred Q] {k : Nat}
    {v : β} (h : m[k]? = some v) (hQ : Q k) (hP : ¬ P k) (himp : ∀ a, P a → Q a) :
    (m.keys.toFinset.filter P).card < (m.keys.toFinset.filter Q).card := by
  apply Finset.card_lt_card
  rw [Finset.ssubset_iff_of_subset]
  · refine ⟨k, ?_, ?_⟩
    · simp only [Finset.mem_filter, List.mem_toFinset]
      exact ⟨mem_keys_of_getElem? h, hQ⟩
    · simp only [Finset.mem_filter]
      exact fun hk => hP hk.2
  · intro a ha
    simp only [Finset.mem_filter] at ha ⊢
    exact ⟨ha.1, himp a ha.2⟩

theorem keysIn_le_size (m : NatMap β) (lo hi : Nat) : keysIn m lo hi ≤ m.size :=
  card_keys_le_size m _

/-- Moving the upper end of the interval below one of its keys lowers the count. -/
theorem keysIn_lt_of_key_right {m : NatMap β} {lo hi hi' : Nat} {v : β} (h : m[hi]? = some v)
    (hlo : lo < hi) (hlt : hi' < hi) : keysIn m lo hi' < keysIn m lo hi := by
  refine card_keys_lt h ⟨hlo, Nat.le_refl hi⟩ (by omega) ?_
  intro a ha
  exact ⟨ha.1, by omega⟩

/-- The number of keys from `lo` on. -/
def keysFrom (m : NatMap β) (lo : Nat) : Nat := (m.keys.toFinset.filter fun k => lo ≤ k).card

theorem keysFrom_le_size (m : NatMap β) (lo : Nat) : keysFrom m lo ≤ m.size := card_keys_le_size m _

/-- Fewer keys are left behind one that is there. -/
theorem keysFrom_succ_lt {m : NatMap β} {lo : Nat} {v : β} (h : m[lo]? = some v) :
    keysFrom m (lo + 1) < keysFrom m lo := by
  refine card_keys_lt h (Nat.le_refl lo) (by omega) ?_
  intro a ha
  omega

/-! ## Ascending keys -/

theorem pairwise_keys (m : NatMap β) : m.keys.Pairwise (· < ·) := by
  have h : m.keys.Pairwise fun a b => compare a b = .lt := ExtTreeMap.ordered_keys
  refine h.imp ?_
  intro a b hab
  exact Nat.compare_eq_lt.mp hab

/-! ## The first and the last key -/

theorem exists_of_mem_keys {m : NatMap β} {k : Nat} (h : k ∈ m.keys) : ∃ v, m[k]? = some v := by
  rw [ExtTreeMap.mem_keys, ExtTreeMap.mem_iff_isSome_getElem?, Option.isSome_iff_exists] at h
  exact h

/-- The first key is the least one. -/
theorem firstKey_eq_some {m : NatMap β} {k : Nat} {v : β} (h : m[k]? = some v)
    (hleast : ∀ a w, m[a]? = some w → k ≤ a) : m.firstKey = some k := by
  unfold NatMap.firstKey
  have hmem := mem_keys_of_getElem? h
  cases hkeys : m.keys with
  | nil =>
    rw [hkeys] at hmem
    exact absurd hmem List.not_mem_nil
  | cons first rest =>
    obtain ⟨w, hw⟩ := exists_of_mem_keys
      (show first ∈ m.keys by rw [hkeys]; exact List.mem_cons_self)
    have hle := hleast first w hw
    rw [hkeys] at hmem
    rcases List.mem_cons.mp hmem with heq | hrest
    · rw [heq]
      rfl
    · have hsorted := pairwise_keys m
      rw [hkeys] at hsorted
      have hlt := List.rel_of_pairwise_cons hsorted hrest
      omega

/-- The last key is the greatest one. -/
theorem le_lastKey {m : NatMap β} {k : Nat} {v : β} (h : m[k]? = some v) :
    ∃ last w, m.lastKey = some last ∧ m[last]? = some w ∧ k ≤ last := by
  have hmem := mem_keys_of_getElem? h
  have hne : m.keys ≠ [] := List.ne_nil_of_mem hmem
  obtain ⟨w, hw⟩ := exists_of_mem_keys (List.getLast_mem hne)
  refine ⟨m.keys.getLast hne, w, List.getLast?_eq_some_getLast hne, hw, ?_⟩
  rw [← List.dropLast_append_getLast hne] at hmem
  rcases List.mem_append.mp hmem with hk | hk
  · have hsorted := pairwise_keys m
    rw [← List.dropLast_append_getLast hne] at hsorted
    exact Nat.le_of_lt ((List.pairwise_append.mp hsorted).2.2 k hk _ (List.mem_singleton_self _))
  · rw [List.mem_singleton.mp hk]

/-- The entry next to a bound is the last one of those up to it. -/
theorem le_of_entryAtOrBefore {m : NatMap β} {k a b : Nat} {v w : β}
    (h : m.entryAtOrBefore k = some (a, v)) (hb : m[b]? = some w) (hbk : b ≤ k) : b ≤ a := by
  have hkept : (m.eraseAfter k)[b]? = some w := by
    rw [getElem?_eraseAfter, if_pos hbk]
    exact hb
  obtain ⟨last, _, hlast, -, hle⟩ := le_lastKey hkept
  have heq : (m.eraseAfter k).lastKey = some a := by
    unfold NatMap.lastKey
    rw [← ExtTreeMap.map_fst_toList_eq_keys, List.getLast?_map]
    exact congrArg (Option.map Prod.fst) h
  obtain rfl : last = a := Option.some.inj (hlast.symm.trans heq)
  exact hle

/-! ## Entries after a bound -/

/-- The entries after a key are those of the map. -/
theorem mem_entriesAfter {m : NatMap β} {k : Nat} {e : Nat × β} :
    e ∈ m.entriesAfter k ↔ m[e.1]? = some e.2 ∧ k < e.1 := by
  unfold NatMap.entriesAfter
  rw [List.mem_filter, ExtTreeMap.mem_toList_iff_getElem?_eq_some, decide_eq_true_eq]

theorem pairwise_entriesAfter (m : NatMap β) (k : Nat) :
    ((m.entriesAfter k).map Prod.fst).Pairwise (· < ·) := by
  have hsub : List.Sublist ((m.entriesAfter k).map Prod.fst) m.keys := by
    rw [← ExtTreeMap.map_fst_toList_eq_keys]
    exact (List.filter_sublist).map Prod.fst
  exact (pairwise_keys m).sublist hsub

/-- In a map without gaps, the entries after a bound are an interval. -/
theorem map_fst_entriesAfter {m : NatMap β} {lo hi : Nat}
    (h : ∀ f, (∃ v, m[f]? = some v) ↔ lo ≤ f ∧ f < hi) (k : Nat) :
    (m.entriesAfter k).map Prod.fst =
      List.range' (max (k + 1) lo) (hi - max (k + 1) lo) := by
  refine (pairwise_entriesAfter m k).eq_of_mem_iff List.pairwise_lt_range' ?_
  intro f
  rw [List.mem_range'_1, List.mem_map]
  constructor
  · rintro ⟨⟨_, v⟩, he, rfl⟩
    obtain ⟨hv, hk⟩ := mem_entriesAfter.mp he
    have hf := (h _).mp ⟨v, hv⟩
    dsimp only at hk ⊢
    omega
  · intro hf
    obtain ⟨v, hv⟩ := (h f).mpr (by omega)
    exact ⟨(f, v), mem_entriesAfter.mpr ⟨hv, by omega⟩, rfl⟩

end OrderedMap
