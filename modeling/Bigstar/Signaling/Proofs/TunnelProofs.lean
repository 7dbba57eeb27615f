import Bigstar.Signaling.Tunnel
import Mathlib.Data.List.Nodup

/-!
# Early datagrams

A datagram that a bridge passes to its emulator before it has heard the emulator is sent again. Each
such copy is traced to the entry that sent the datagram first: the bridge stops when it hears the
emulator, when the connection ends, when 64 newer datagrams have come, and after 8 seconds.
-/

namespace Bigstar.Signaling

variable {Addr : Type}

namespace Entry

/-- The entry is a datagram that was sent. -/
def isSent : Entry Addr → Bool
  | .sent _ _ _ => true
  | _ => false

/-- The bridge has sent something to the emulator. -/
def toEmulator : Entry Addr → Bool
  | .sent _ _ _ => true
  | .replayed _ _ _ => true
  | _ => false

end Entry

/-- The emulator has not been heard, the connection is the same, and few new datagrams have come. -/
def Undisturbed (entries : List (Entry Addr)) : Prop :=
  (∀ x ∈ entries, x.toEmulator) ∧ entries.countP Entry.isSent < localAppReplayLimit

/-- The entries between the numbers `o` and `r`. -/
def between (entries : List (Entry Addr)) (o r : Nat) : List (Entry Addr) :=
  (entries.take r).drop (o + 1)

/-- Entry `r`, where it is a copy, is a copy of what entry `owner r` has sent. -/
structure Accounted (entries : List (Entry Addr)) (owner : Nat → Nat) : Prop where
  copy : ∀ r payload target time, entries[r]? = some (.replayed payload target time) →
    ∃ first, owner r < r ∧ entries[owner r]? = some (.sent payload target first) ∧
      first + localAppReplayInterval ≤ time ∧ time ≤ first + localAppReplayTtl ∧
      Undisturbed (between entries (owner r) r)
  apart : ∀ r r' payload target time payload' target' time', r < r' → owner r = owner r' →
    entries[r]? = some (.replayed payload target time) →
    entries[r']? = some (.replayed payload' target' time') → time + localAppReplayInterval ≤ time'

/-- What is known of a pending datagram that entry `id` has sent first, with `newer` sent since. -/
structure Tagged (entries : List (Entry Addr)) (owner : Nat → Nat) (clock newer id : Nat)
    (p : PendingLocalDatagram Addr) : Prop where
  entry : entries[id]? = some (.sent p.payload p.target p.firstSent)
  first_le : p.firstSent ≤ p.lastSent
  last_le : p.lastSent ≤ clock
  copies : ∀ r payload target time, entries[r]? = some (.replayed payload target time) →
    owner r = id →
    time ≤ p.lastSent
  last : p.lastSent = p.firstSent ∨
    ∃ r, owner r = id ∧ entries[r]? = some (.replayed p.payload p.target p.lastSent)
  quiet : ∀ x ∈ entries.drop (id + 1), x.toEmulator
  newer : (entries.drop (id + 1)).countP Entry.isSent = newer

/-- The pending datagrams, each with the number of the entry that has sent it first, are those that
were sent last. -/
structure Tracks (entries : List (Entry Addr)) (owner : Nat → Nat) (clock : Nat)
    (tags : List (Nat × PendingLocalDatagram Addr)) : Prop where
  tagged : ∀ j x, tags[j]? = some x → Tagged entries owner clock (tags.length - 1 - j) x.1 x.2
  sorted : tags.Pairwise fun x y => x.2.firstSent ≤ y.2.firstSent
  limit : tags.length ≤ localAppReplayLimit

/-- No early datagram has been given up before its time. -/
def Complete (entries : List (Entry Addr)) (clock : Nat)
    (tags : List (Nat × PendingLocalDatagram Addr)) : Prop :=
  ∀ o payload target first, entries[o]? = some (.sent payload target first) →
    Undisturbed (entries.drop (o + 1)) →
    (∃ x ∈ tags, x.1 = o) ∨ first + localAppReplayTtl < clock

theorem lt_length_of_getElem? {α : Type} {l : List α} {i : Nat} {x : α} (h : l[i]? = some x) :
    i < l.length := (List.getElem?_eq_some_iff.mp h).1

/-- What is at a number stays there. -/
theorem getElem?_append_of_eq_some {α : Type} {l : List α} {i : Nat} {x : α} (h : l[i]? = some x)
    (m : List α) : (l ++ m)[i]? = some x := by
  rw [List.getElem?_append_left (lt_length_of_getElem? h)]
  exact h

theorem drop_append_of_getElem? {α : Type} {l : List α} {i : Nat} {x : α} (h : l[i]? = some x)
    (m : List α) : (l ++ m).drop (i + 1) = l.drop (i + 1) ++ m :=
  List.drop_append_of_le_length (lt_length_of_getElem? h)

/-- What happened in a stretch of the log does not change later. -/
theorem between_append {entries more : List (Entry Addr)} {o r : Nat} (h : r ≤ entries.length) :
    between (entries ++ more) o r = between entries o r := by
  unfold between
  rw [List.take_append_of_le_length h]

/-! ## Entries that are no copies -/

section Other

variable {entries : List (Entry Addr)} {owner : Nat → Nat} {e : Entry Addr}

/-- A replay in the log was there before, if the new entry is none. -/
theorem getElem?_concat_replayed (he : ∀ payload target time, e ≠ .replayed payload target time)
    {r : Nat} {payload : List UInt8} {target : Addr} {time : Nat}
    (h : (entries ++ [e])[r]? = some (.replayed payload target time)) :
    entries[r]? = some (.replayed payload target time) := by
  rcases Nat.lt_trichotomy r entries.length with hlt | heq | hgt
  · rwa [List.getElem?_append_left hlt] at h
  · subst heq
    rw [List.getElem?_concat_length] at h
    exact absurd (Option.some.inj h) (he payload target time)
  · have hnone : (entries ++ [e])[r]? = none := by
      rw [List.getElem?_eq_none_iff, List.length_append, List.length_singleton]
      omega
    rw [hnone] at h
    cases h

/-- An entry that is no replay needs no owner. -/
theorem Accounted.concat (h : Accounted entries owner)
    (he : ∀ payload target time, e ≠ .replayed payload target time) :
    Accounted (entries ++ [e]) owner where
  copy r payload target time hr := by
    have hr' := getElem?_concat_replayed he hr
    obtain ⟨first, hlt, hentry, hafter, hbefore, hbetween⟩ := h.copy r payload target time hr'
    refine ⟨first, hlt, getElem?_append_of_eq_some hentry [e], hafter, hbefore, ?_⟩
    rw [between_append (Nat.le_of_lt (lt_length_of_getElem? hr'))]
    exact hbetween
  apart r r' payload target time payload' target' time' hlt howner hr hr' :=
    h.apart r r' payload target time payload' target' time' hlt howner
      (getElem?_concat_replayed he hr) (getElem?_concat_replayed he hr')

end Other

/-! ## The arms that send nothing again -/

section Tags

variable {entries : List (Entry Addr)} {owner : Nat → Nat} {clock now : Nat}
  {tags : List (Nat × PendingLocalDatagram Addr)}

theorem tracks_nil : Tracks entries owner clock [] where
  tagged j x hx := by simp at hx
  sorted := List.Pairwise.nil
  limit := Nat.zero_le _

/-- What is due is so later, too. -/
theorem Tagged.later {newer id : Nat} {p : PendingLocalDatagram Addr}
    (h : Tagged entries owner clock newer id p) (hnow : clock ≤ now) :
    Tagged entries owner now newer id p :=
  { h with last_le := Nat.le_trans h.last_le hnow }

theorem Tracks.later (h : Tracks entries owner clock tags) (hnow : clock ≤ now) :
    Tracks entries owner now tags :=
  { h with tagged := fun j x hx => (h.tagged j x hx).later hnow }

theorem Complete.later (h : Complete entries clock tags) (hnow : clock ≤ now) :
    Complete entries now tags := by
  intro o payload target first ho hquiet
  rcases h o payload target first ho hquiet with hmem | hlt
  · exact .inl hmem
  · exact .inr (Nat.lt_of_lt_of_le hlt hnow)

/-- The oldest of the pending datagrams can be given up. -/
theorem Tracks.of_append {gone kept : List (Nat × PendingLocalDatagram Addr)}
    (h : Tracks entries owner clock (gone ++ kept)) : Tracks entries owner clock kept where
  tagged j x hx := by
    have hj := lt_length_of_getElem? hx
    have hx' : (gone ++ kept)[gone.length + j]? = some x := by
      rw [List.getElem?_append_right (Nat.le_add_right _ _), Nat.add_sub_cancel_left]
      exact hx
    have hcount : (gone ++ kept).length - 1 - (gone.length + j) = kept.length - 1 - j := by
      rw [List.length_append]
      omega
    rw [← hcount]
    exact h.tagged _ x hx'
  sorted := (List.pairwise_append.mp h.sorted).2.1
  limit := by
    have hlimit := h.limit
    rw [List.length_append] at hlimit
    omega

/-- A new datagram stands behind the pending ones. -/
theorem Tracks.concat (h : Tracks entries owner clock tags)
    (hroom : tags.length < localAppReplayLimit)
    (hnow : clock ≤ now) (haccounted : Accounted entries owner)
    (payload : List UInt8) (target : Addr) :
    Tracks (entries ++ [.sent payload target now]) owner now
      (tags ++ [(entries.length,
        { payload := payload, target := target, firstSent := now, lastSent := now,
          attempts := 1 })]) where
  tagged j x hx := by
    have hreplayed : ∀ payload' target' time,
        Entry.sent payload target now ≠ .replayed payload' target' time := fun _ _ _ => nofun
    rcases Nat.lt_or_ge j tags.length with hj | hj
    · rw [List.getElem?_append_left hj] at hx
      have hold := h.tagged j x hx
      have hdrop := drop_append_of_getElem? hold.entry [Entry.sent payload target now]
      exact {
        entry := getElem?_append_of_eq_some hold.entry _
        first_le := hold.first_le
        last_le := Nat.le_trans hold.last_le hnow
        copies := fun r payload' target' time hr =>
          hold.copies r payload' target' time (getElem?_concat_replayed hreplayed hr)
        last := by
          rcases hold.last with heq | ⟨r, howner, hr⟩
          · exact .inl heq
          · exact .inr ⟨r, howner, getElem?_append_of_eq_some hr _⟩
        quiet := by
          intro y hy
          rw [hdrop, List.mem_append, List.mem_singleton] at hy
          rcases hy with hy | rfl
          · exact hold.quiet y hy
          · rfl
        newer := by
          rw [hdrop, List.countP_append, hold.newer, List.length_append]
          simp only [List.countP_singleton, Entry.isSent, if_true, List.length_singleton]
          omega }
    · have hlast : j = tags.length := by
        have := lt_length_of_getElem? hx
        rw [List.length_append, List.length_singleton] at this
        omega
      subst hlast
      rw [List.getElem?_concat_length] at hx
      obtain rfl := Option.some.inj hx
      have hdrop : (entries ++ [Entry.sent payload target now]).drop (entries.length + 1) = [] := by
        rw [List.drop_eq_nil_iff, List.length_append, List.length_singleton]
      exact {
        entry := List.getElem?_concat_length
        first_le := Nat.le_refl _
        last_le := Nat.le_refl _
        copies := by
          intro r payload' target' time hr howner
          have hr' := getElem?_concat_replayed hreplayed hr
          obtain ⟨first, hlt, -⟩ := haccounted.copy r payload' target' time hr'
          have := lt_length_of_getElem? hr'
          rw [howner] at hlt
          omega
        last := .inl rfl
        quiet := by simp [hdrop]
        newer := by
          rw [hdrop, List.length_append, List.length_singleton]
          simp }
  sorted := by
    rw [List.pairwise_append]
    refine ⟨h.sorted, List.pairwise_singleton _ _, ?_⟩
    intro x hx y hy
    obtain rfl := List.mem_singleton.mp hy
    obtain ⟨j, hj⟩ := List.mem_iff_getElem?.mp hx
    have hold := h.tagged j x hj
    exact Nat.le_trans hold.first_le (Nat.le_trans hold.last_le hnow)
  limit := by
    rw [List.length_append, List.length_singleton]
    exact hroom

/-- A datagram that was sent is kept for its replays. -/
theorem Complete.concat (h : Complete entries clock tags) (hnow : clock ≤ now)
    (payload : List UInt8) (target : Addr) (p : PendingLocalDatagram Addr) :
    Complete (entries ++ [.sent payload target now]) now (tags ++ [(entries.length, p)]) := by
  intro o payload' target' first ho hquiet
  rcases Nat.lt_or_ge o entries.length with hlt | hge
  · have ho' : entries[o]? = some (.sent payload' target' first) := by
      rwa [List.getElem?_append_left hlt] at ho
    rw [drop_append_of_getElem? ho'] at hquiet
    have hbefore : Undisturbed (entries.drop (o + 1)) := by
      refine ⟨fun x hx => hquiet.1 x (List.mem_append_left _ hx), ?_⟩
      have := hquiet.2
      rw [List.countP_append] at this
      omega
    rcases h o payload' target' first ho' hbefore with ⟨x, hx, hxo⟩ | hlt
    · exact .inl ⟨x, List.mem_append_left _ hx, hxo⟩
    · exact .inr (Nat.lt_of_lt_of_le hlt hnow)
  · refine .inl ⟨(entries.length, p), List.mem_append_right _ (List.mem_singleton.mpr rfl), ?_⟩
    have := lt_length_of_getElem? ho
    rw [List.length_append, List.length_singleton] at this
    show entries.length = o
    omega

/-- With 64 datagrams pending, the oldest makes room for the next one. -/
theorem Complete.of_full {e : Entry Addr} {last : Nat × PendingLocalDatagram Addr}
    (oldest : Nat × PendingLocalDatagram Addr)
    (h : Complete (entries ++ [e]) now (oldest :: tags ++ [last]))
    (hfull : localAppReplayLimit ≤ ((entries ++ [e]).drop (oldest.1 + 1)).countP Entry.isSent) :
    Complete (entries ++ [e]) now (tags ++ [last]) := by
  intro o payload target first ho hquiet
  rcases h o payload target first ho hquiet with ⟨x, hx, hxo⟩ | hlt
  · rw [List.cons_append, List.mem_cons] at hx
    rcases hx with rfl | hx
    · have := hquiet.2
      rw [← hxo] at this
      omega
    · exact .inl ⟨x, hx, hxo⟩
  · exact .inr hlt

end Tags

/-! ## The replay tick -/

namespace Tunnel

/-- Whether the loop of the tick sends the datagram again. -/
def due (now : Nat) (p : PendingLocalDatagram Addr) : Bool :=
  !decide (now - p.lastSent < localAppReplayInterval)

/-- The entry of a replay. -/
def copyOf (now : Nat) (p : PendingLocalDatagram Addr) : Entry Addr :=
  .replayed p.payload p.target now

/-- The datagram with its next time, where it was replayed. -/
def touchIfDue (now : Nat) (p : PendingLocalDatagram Addr) : PendingLocalDatagram Addr :=
  if due now p then touch now p else p

/-- Without a failing send the loop sends every due datagram, and otherwise those before it. -/
theorem replayPending_entries (now : Nat) (failing : Option Nat)
    (queue : List (PendingLocalDatagram Addr)) :
    (replayPending now failing queue).2.1 =
      ((queue.filter (due now)).take (failing.getD queue.length)).map (copyOf now) := by
  induction queue generalizing failing with
  | nil => simp [replayPending]
  | cons p ps ih =>
    by_cases hdue : now - p.lastSent < localAppReplayInterval
    · have hfilter : (p :: ps).filter (due now) = ps.filter (due now) := by simp [due, hdue]
      simp only [replayPending, hdue, if_true, hfilter, ih failing]
      cases failing with
      | some k => rfl
      | none =>
        have hlength := List.length_filter_le (due now) ps
        simp only [Option.getD_none, List.length_cons]
        rw [List.take_of_length_le hlength, List.take_of_length_le (by omega)]
    · have hfilter : (p :: ps).filter (due now) = p :: ps.filter (due now) := by simp [due, hdue]
      simp only [replayPending, hdue, if_false, hfilter]
      cases failing with
      | none => simp [ih none, copyOf]
      | some k =>
        cases k with
        | zero => simp
        | succ k => simp [ih (some k), copyOf]

/-- A tick gives what was due its next time. -/
theorem replayPending_queue (now : Nat) (queue : List (PendingLocalDatagram Addr)) :
    (replayPending now none queue).1 = queue.map (touchIfDue now) := by
  induction queue with
  | nil => rfl
  | cons p ps ih =>
    by_cases hdue : now - p.lastSent < localAppReplayInterval
    · simp [replayPending, touchIfDue, due, hdue, ih]
    · simp [replayPending, touchIfDue, due, hdue, ih]

/-- Where no send fails, it is as if none could. -/
theorem replayPending_of_not_failed {now : Nat} {failing : Option Nat}
    {queue : List (PendingLocalDatagram Addr)} (h : (replayPending now failing queue).2.2 = false) :
    replayPending now failing queue = replayPending now none queue := by
  induction queue generalizing failing with
  | nil => simp [replayPending]
  | cons p ps ih =>
    by_cases hdue : now - p.lastSent < localAppReplayInterval
    · simp only [replayPending, hdue, if_true] at h ⊢
      rw [ih h]
    · by_cases hzero : failing = some 0
      · simp [replayPending, hdue, hzero] at h
      · simp only [replayPending, hdue, hzero, if_false] at h ⊢
        rw [ih h]
        rfl
/-- What is given up for its age stands in front. -/
theorem dropExpired_eq (now : Nat) (tags : List (Nat × PendingLocalDatagram Addr))
    (hsorted : tags.Pairwise fun x y => x.2.firstSent ≤ y.2.firstSent) :
    ∃ gone kept, tags = gone ++ kept ∧ dropExpired now (tags.map Prod.snd) = kept.map Prod.snd ∧
      (∀ x ∈ gone, now - x.2.firstSent > localAppReplayTtl) ∧
      ∀ x ∈ kept, now - x.2.firstSent ≤ localAppReplayTtl := by
  induction tags with
  | nil => exact ⟨[], [], rfl, rfl, nofun, nofun⟩
  | cons y tags ih =>
    obtain ⟨hle, hsorted⟩ := List.pairwise_cons.mp hsorted
    by_cases hold : now - y.2.firstSent > localAppReplayTtl
    · obtain ⟨gone, kept, htags, hdrop, hgone, hkept⟩ := ih hsorted
      refine ⟨y :: gone, kept, ?_, ?_, ?_, hkept⟩
      · rw [htags]
        rfl
      · simpa [dropExpired, hold] using hdrop
      · intro x hx
        rcases List.mem_cons.mp hx with rfl | hx
        · exact hold
        · exact hgone x hx
    · refine ⟨[], y :: tags, rfl, ?_, nofun, ?_⟩
      · simp [dropExpired, hold]
      · intro x hx
        rcases List.mem_cons.mp hx with rfl | hx
        · omega
        · have := hle x hx
          omega

end Tunnel

section Copies

open Tunnel

variable {entries : List (Entry Addr)} {owner : Nat → Nat} {clock now : Nat}
  {tags : List (Nat × PendingLocalDatagram Addr)}

/-- The owners of the entries that a tick appends. -/
def ownerAfter (owner : Nat → Nat) (length : Nat) (chosen : List (Nat × PendingLocalDatagram Addr))
    (r : Nat) : Nat :=
  if r < length then owner r else ((chosen[r - length]?).map Prod.fst).getD 0

/-- Owners do not change. -/
theorem ownerAfter_of_lt {length r : Nat} {chosen : List (Nat × PendingLocalDatagram Addr)}
    (h : r < length) : ownerAfter owner length chosen r = owner r := if_pos h

/-- A new copy is owned by the datagram that it is a copy of. -/
theorem ownerAfter_add {length k : Nat} {chosen : List (Nat × PendingLocalDatagram Addr)}
    {x : Nat × PendingLocalDatagram Addr} (h : chosen[k]? = some x) :
    ownerAfter owner length chosen (length + k) = x.1 := by
  unfold ownerAfter
  rw [if_neg (by omega), Nat.add_sub_cancel_left, h]
  rfl

/-- Different pending datagrams have been sent first by different entries. -/
theorem Tracks.nodup (h : Tracks entries owner clock tags) : (tags.map Prod.fst).Nodup := by
  rw [List.nodup_iff_injective_getElem]
  rintro ⟨i, hi⟩ ⟨j, hj⟩ heq
  rw [List.length_map] at hi hj
  simp only [List.getElem_map] at heq
  have hnewer := (h.tagged i _ (List.getElem?_eq_getElem hi)).newer
  have hnewer' := (h.tagged j _ (List.getElem?_eq_getElem hj)).newer
  rw [heq, hnewer'] at hnewer
  simp only [Fin.mk.injEq]
  omega

/-- A datagram in the queue is not too old. -/
theorem Tracks.tagged_of_mem (h : Tracks entries owner clock tags)
    {x : Nat × PendingLocalDatagram Addr} (hx : x ∈ tags) :
    ∃ newer, newer < localAppReplayLimit ∧ Tagged entries owner clock newer x.1 x.2 := by
  obtain ⟨j, hj⟩ := List.mem_iff_getElem?.mp hx
  have hlt := lt_length_of_getElem? hj
  have hlimit := h.limit
  exact ⟨_, by omega, h.tagged j x hj⟩

/-- A copy is among the entries that were there, or the tick has appended it. -/
theorem getElem?_append_copies {chosen : List (Nat × PendingLocalDatagram Addr)} {r : Nat}
    {e : Entry Addr} (h : (entries ++ chosen.map fun x => copyOf now x.2)[r]? = some e) :
    entries[r]? = some e ∨
      ∃ k x, r = entries.length + k ∧ chosen[k]? = some x ∧ e = copyOf now x.2 := by
  rcases Nat.lt_or_ge r entries.length with hlt | hge
  · rw [List.getElem?_append_left hlt] at h
    exact .inl h
  · rw [List.getElem?_append_right hge, List.getElem?_map, Option.map_eq_some_iff] at h
    obtain ⟨x, hx, rfl⟩ := h
    exact .inr ⟨r - entries.length, x, by omega, hx, rfl⟩

variable {chosen : List (Nat × PendingLocalDatagram Addr)}

theorem toEmulator_of_mem_copies {e : Entry Addr} (h : e ∈ chosen.map fun x => copyOf now x.2) :
    e.toEmulator = true ∧ e.isSent = false := by
  obtain ⟨x, -, rfl⟩ := List.mem_map.mp h
  exact ⟨rfl, rfl⟩

theorem countP_copies (copies : List (Entry Addr)) (h : ∀ e ∈ copies, e.isSent = false) :
    copies.countP Entry.isSent = 0 := by
  rw [List.countP_eq_zero]
  intro e he
  simp [h e he]

/-- The copies that a tick sends are accounted for. -/
theorem Accounted.tick (h : Accounted entries owner) (htracks : Tracks entries owner clock tags)
    (hchosen : chosen.Sublist tags) (hdue : ∀ x ∈ chosen, due now x.2 = true)
    (hyoung : ∀ x ∈ chosen, now - x.2.firstSent ≤ localAppReplayTtl) :
    Accounted (entries ++ chosen.map fun x => copyOf now x.2)
      (ownerAfter owner entries.length chosen) where
  copy := by
    intro r payload target time hr
    rcases getElem?_append_copies hr with hr | ⟨k, x, rfl, hk, hcopy⟩
    · have hlt := lt_length_of_getElem? hr
      obtain ⟨first, hfirst, hentry, hafter, hbefore, hbetween⟩ := h.copy r payload target time hr
      rw [ownerAfter_of_lt hlt]
      refine ⟨first, hfirst, getElem?_append_of_eq_some hentry _, hafter, hbefore, ?_⟩
      rw [between_append (Nat.le_of_lt hlt)]
      exact hbetween
    · have hmem := List.mem_of_getElem? hk
      obtain ⟨newer, hnewer, htag⟩ := htracks.tagged_of_mem (hchosen.subset hmem)
      have hlt := lt_length_of_getElem? htag.entry
      have hdue := hdue x hmem
      have hyoung := hyoung x hmem
      have hfirst := htag.first_le
      cases hcopy
      rw [ownerAfter_add hk]
      simp only [due, Bool.not_eq_true', decide_eq_false_iff_not, Nat.not_lt] at hdue
      have hpositive : 0 < localAppReplayInterval := by decide
      refine ⟨x.2.firstSent, by omega, getElem?_append_of_eq_some htag.entry _, by omega, by omega,
        ?_⟩
      have hbetween : between (entries ++ chosen.map fun x => copyOf now x.2) x.1
        (entries.length + k) =
          entries.drop (x.1 + 1) ++ (chosen.map fun x => copyOf now x.2).take k := by
        unfold between
        rw [List.take_length_add_append, drop_append_of_getElem? htag.entry]
      rw [hbetween]
      constructor
      · intro e he
        rcases List.mem_append.mp he with he | he
        · exact htag.quiet e he
        · exact (toEmulator_of_mem_copies (List.mem_of_mem_take he)).1
      · rw [List.countP_append, htag.newer, countP_copies _ fun e he =>
          (toEmulator_of_mem_copies (List.mem_of_mem_take he)).2]
        exact hnewer
  apart := by
    intro r r' payload target time payload' target' time' hlt howner hr hr'
    rcases getElem?_append_copies hr' with hr' | ⟨k', x', rfl, hk', hcopy'⟩
    · have hlt' := lt_length_of_getElem? hr'
      have hrlt : r < entries.length := by omega
      rw [List.getElem?_append_left hrlt] at hr
      rw [ownerAfter_of_lt hrlt, ownerAfter_of_lt hlt'] at howner
      exact h.apart r r' payload target time payload' target' time' hlt howner hr hr'
    · have hmem' := List.mem_of_getElem? hk'
      obtain ⟨newer, hnewer, htag⟩ := htracks.tagged_of_mem (hchosen.subset hmem')
      have hdue := hdue x' hmem'
      rw [ownerAfter_add hk'] at howner
      rcases getElem?_append_copies hr with hr | ⟨k, x, rfl, hk, hcopy⟩
      · rw [ownerAfter_of_lt (lt_length_of_getElem? hr)] at howner
        have hle := htag.copies r payload target time hr howner
        cases hcopy'
        simp only [due, Bool.not_eq_true', decide_eq_false_iff_not, Nat.not_lt] at hdue
        have hpositive : 0 < localAppReplayInterval := by decide
        omega
      · -- one tick sends a datagram once
        rw [ownerAfter_add hk] at howner
        have hnodup : (chosen.map Prod.fst).Nodup := htracks.nodup.sublist (hchosen.map Prod.fst)
        have hi : (chosen.map Prod.fst)[k]? = some x.1 := by rw [List.getElem?_map, hk]; rfl
        have hi' : (chosen.map Prod.fst)[k']? = some x.1 := by
          rw [List.getElem?_map, hk', howner]; rfl
        have heq : k = k' := by
          have hbound := lt_length_of_getElem? hi
          exact (List.getElem?_inj hbound hnodup).mp (hi.trans hi'.symm)
        omega

/-- A tick in which every due datagram is sent again keeps the pending datagrams tracked. -/
theorem Tracks.tick (h : Tracks entries owner clock tags) (hnow : clock ≤ now) :
    Tracks (entries ++ (tags.filter fun x => due now x.2).map fun x => copyOf now x.2)
      (ownerAfter owner entries.length (tags.filter fun x => due now x.2)) now
      (tags.map fun x => (x.1, touchIfDue now x.2)) where
  tagged := by
    intro j x hx
    rw [List.getElem?_map, Option.map_eq_some_iff] at hx
    obtain ⟨y, hy, rfl⟩ := hx
    have hold := h.tagged j y hy
    have hdrop := drop_append_of_getElem? hold.entry
      ((tags.filter fun x => due now x.2).map fun x => copyOf now x.2)
    have hpayload : (touchIfDue now y.2).payload = y.2.payload := by
      unfold touchIfDue
      split <;> rfl
    have htarget : (touchIfDue now y.2).target = y.2.target := by
      unfold touchIfDue
      split <;> rfl
    have hfirst : (touchIfDue now y.2).firstSent = y.2.firstSent := by
      unfold touchIfDue
      split <;> rfl
    have hlast : y.2.lastSent ≤ (touchIfDue now y.2).lastSent ∧
        (touchIfDue now y.2).lastSent ≤ now := by
      have := hold.last_le
      unfold touchIfDue
      split
      · exact ⟨Nat.le_trans this hnow, Nat.le_refl now⟩
      · exact ⟨Nat.le_refl _, Nat.le_trans this hnow⟩
    dsimp only
    rw [List.length_map]
    exact {
      entry := by
        rw [hpayload, htarget, hfirst]
        exact getElem?_append_of_eq_some hold.entry _
      first_le := by
        rw [hfirst]
        exact Nat.le_trans hold.first_le hlast.1
      last_le := hlast.2
      copies := by
        intro r payload target time hr howner
        rcases getElem?_append_copies hr with hr | ⟨k, x, rfl, hk, hcopy⟩
        · rw [ownerAfter_of_lt (lt_length_of_getElem? hr)] at howner
          exact Nat.le_trans (hold.copies r payload target time hr howner) hlast.1
        · rw [ownerAfter_add hk] at howner
          obtain ⟨hxmem, hxdue⟩ := List.mem_filter.mp (List.mem_of_getElem? hk)
          have hxy : x = y := List.inj_on_of_nodup_map h.nodup hxmem
            (List.mem_of_getElem? hy) howner
          subst hxy
          cases hcopy
          unfold touchIfDue
          rw [if_pos hxdue]
          exact Nat.le_refl now
      last := by
        by_cases hdue : due now y.2 = true
        · have hmem : y ∈ tags.filter fun x => due now x.2 :=
            List.mem_filter.mpr ⟨List.mem_of_getElem? hy, hdue⟩
          obtain ⟨k, hk⟩ := List.mem_iff_getElem?.mp hmem
          refine .inr ⟨entries.length + k, ownerAfter_add hk, ?_⟩
          rw [List.getElem?_append_right (Nat.le_add_right _ _), Nat.add_sub_cancel_left,
            List.getElem?_map, hk]
          unfold touchIfDue
          rw [if_pos hdue]
          rfl
        · unfold touchIfDue
          rw [if_neg hdue]
          rcases hold.last with heq | ⟨r, howner, hr⟩
          · exact .inl heq
          · refine .inr ⟨r, ?_, getElem?_append_of_eq_some hr _⟩
            rw [ownerAfter_of_lt (lt_length_of_getElem? hr)]
            exact howner
      quiet := by
        intro e he
        rw [hdrop, List.mem_append] at he
        rcases he with he | he
        · exact hold.quiet e he
        · exact (toEmulator_of_mem_copies he).1
      newer := by
        rw [hdrop, List.countP_append, hold.newer,
          countP_copies _ fun e he => (toEmulator_of_mem_copies he).2]
        rfl }
  sorted := by
    rw [List.pairwise_map]
    refine h.sorted.imp ?_
    intro x y hle
    have hfirst : ∀ p : PendingLocalDatagram Addr, (touchIfDue now p).firstSent = p.firstSent := by
      intro p
      unfold touchIfDue
      split <;> rfl
    simpa [hfirst] using hle
  limit := by
    rw [List.length_map]
    exact h.limit

/-- What is given up in a tick is too old. -/
theorem Complete.tick {gone kept : List (Nat × PendingLocalDatagram Addr)}
    (h : Complete entries clock (gone ++ kept))
    (htracks : Tracks entries owner clock (gone ++ kept))
    (hnow : clock ≤ now) (hgone : ∀ x ∈ gone, now - x.2.firstSent > localAppReplayTtl) :
    Complete (entries ++ chosen.map fun x => copyOf now x.2) now
      (kept.map fun x => (x.1, touchIfDue now x.2)) := by
  intro o payload target first ho hquiet
  have ho' : entries[o]? = some (.sent payload target first) := by
    rcases getElem?_append_copies ho with ho | ⟨k, x, -, -, hcopy⟩
    · exact ho
    · cases hcopy
  rw [drop_append_of_getElem? ho'] at hquiet
  have hbefore : Undisturbed (entries.drop (o + 1)) := by
    refine ⟨fun x hx => hquiet.1 x (List.mem_append_left _ hx), ?_⟩
    have := hquiet.2
    rw [List.countP_append] at this
    omega
  rcases h o payload target first ho' hbefore with ⟨x, hx, hxo⟩ | hlt
  · rcases List.mem_append.mp hx with hx' | hx'
    · obtain ⟨newer, -, htag⟩ := htracks.tagged_of_mem hx
      have hentry := htag.entry
      rw [hxo, ho'] at hentry
      cases hentry
      have := hgone x hx'
      exact .inr (by omega)
    · exact .inl ⟨_, List.mem_map_of_mem hx', hxo⟩
  · exact .inr (Nat.lt_of_lt_of_le hlt hnow)

end Copies

/-! ## The invariant of a bridge -/

/-- What holds of everything that has been sent to the emulator. -/
structure Delivered (fixed : Bool) (target : Option Addr) (entries : List (Entry Addr))
    (owner : Nat → Nat) : Prop where
  accounted : Accounted entries owner
  sent : ∀ payload address time, .sent payload address time ∈ entries →
    target = some address ∧ payload ≠ heartbeat
  replayed : ∀ payload address time, .replayed payload address time ∈ entries →
    target = some address ∧ fixed = true

/-- What holds of the tunnel that runs. -/
structure Running (fixed : Bool) (entries : List (Entry Addr)) (owner : Nat → Nat) (clock : Nat)
    (tags : List (Nat × PendingLocalDatagram Addr)) (t : Tunnel Addr) : Prop where
  fixed_eq : t.fixedLocalTarget = fixed
  pending : t.pendingLocalReplays = tags.map Prod.snd
  seen : t.localAppSeen = true → tags = []
  unfixed : fixed = false → tags = []
  tracks : Tracks entries owner clock tags
  complete : fixed = true → t.localAppSeen = false → Complete entries clock tags

section Arms

variable {fixed : Bool} {target : Option Addr} {entries : List (Entry Addr)} {owner : Nat → Nat}
  {clock now : Nat} {tags : List (Nat × PendingLocalDatagram Addr)} {t t' : Tunnel Addr}

/-- An arm that sends nothing to the emulator and leaves the pending datagrams alone. -/
theorem Running.quiet (h : Running fixed entries owner clock tags t) (hnow : clock ≤ now)
    (hfixed : t'.fixedLocalTarget = t.fixedLocalTarget)
    (hpending : t'.pendingLocalReplays = t.pendingLocalReplays)
    (hseen : t'.localAppSeen = t.localAppSeen) : Running fixed entries owner now tags t' where
  fixed_eq := hfixed.trans h.fixed_eq
  pending := hpending.trans h.pending
  seen hs := h.seen (hseen.symm.trans hs)
  unfixed := h.unfixed
  tracks := h.tracks.later hnow
  complete hf hs := (h.complete hf (hseen.symm.trans hs)).later hnow

/-- Once the emulator has been heard, nothing is pending. -/
theorem Running.of_seen (h : Running fixed entries owner clock tags t)
    (hfixed : t'.fixedLocalTarget = t.fixedLocalTarget) (hpending : t'.pendingLocalReplays = [])
    (hseen : t'.localAppSeen = true) (entries' : List (Entry Addr)) :
    Running fixed entries' owner now [] t' where
  fixed_eq := hfixed.trans h.fixed_eq
  pending := hpending
  seen _ := rfl
  unfixed _ := rfl
  tracks := tracks_nil
  complete _ hs := by
    rw [hseen] at hs
    cases hs

/-- One entry more. -/
theorem Delivered.concat {e : Entry Addr} {target' : Option Addr}
    (h : Delivered fixed target entries owner)
    (htarget : ∀ address, target = some address → target' = some address)
    (hsent : ∀ payload address time, e = .sent payload address time →
      target' = some address ∧ payload ≠ heartbeat)
    (he : ∀ payload address time, e ≠ .replayed payload address time) :
    Delivered fixed target' (entries ++ [e]) owner where
  accounted := h.accounted.concat he
  sent payload address time hmem := by
    rcases List.mem_append.mp hmem with hmem | hmem
    · obtain ⟨haddress, hpayload⟩ := h.sent payload address time hmem
      exact ⟨htarget address haddress, hpayload⟩
    · exact hsent payload address time (List.mem_singleton.mp hmem).symm
  replayed payload address time hmem := by
    rcases List.mem_append.mp hmem with hmem | hmem
    · obtain ⟨haddress, hfixed⟩ := h.replayed payload address time hmem
      exact ⟨htarget address haddress, hfixed⟩
    · exact absurd (List.mem_singleton.mp hmem).symm (he payload address time)

/-- The arm of a message that is sent to the emulator. -/
theorem Running.remember (h : Running fixed entries owner clock tags t) (hnow : clock ≤ now)
    (haccounted : Accounted entries owner) (msg : List UInt8) (address : Addr) :
    ∃ tags', Running fixed (entries ++ [.sent msg address now]) owner now tags'
      (t.remember msg address now) := by
  have hfixed := h.fixed_eq
  by_cases hkept : t.fixedLocalTarget = true ∧ t.localAppSeen = false
  · obtain ⟨hf, hs⟩ := hkept
    have hcomplete := h.complete (hfixed.symm.trans hf) hs
    let p : PendingLocalDatagram Addr :=
      { payload := msg, target := address, firstSent := now, lastSent := now, attempts := 1 }
    by_cases hfull : tags.length ≥ localAppReplayLimit
    · -- the oldest datagram has 64 newer ones behind it now
      obtain ⟨oldest, rest, rfl⟩ : ∃ oldest rest, tags = oldest :: rest := by
        cases tags with
        | nil =>
          have : (0 : Nat) < localAppReplayLimit := by decide
          simp at hfull
          omega
        | cons oldest rest => exact ⟨oldest, rest, rfl⟩
      have htracks : Tracks entries owner clock ([oldest] ++ rest) := h.tracks
      have hrest : Tracks entries owner clock rest := htracks.of_append
      have hlimit := h.tracks.limit
      rw [List.length_cons] at hlimit hfull
      refine ⟨rest ++ [(entries.length, p)], ?_⟩
      have holdest := h.tracks.tagged 0 oldest rfl
      exact {
        fixed_eq := by simp [Tunnel.remember, hf, hs, ← hfixed]
        pending := by
          simp [Tunnel.remember, hf, hs, hfull, h.pending, p]
        seen := by simp [Tunnel.remember, hf, hs]
        unfixed := fun hfalse => by rw [← hfixed, hf] at hfalse; cases hfalse
        tracks := hrest.concat (by omega) hnow haccounted msg address
        complete := fun _ _ => by
          refine Complete.of_full oldest (hcomplete.concat hnow msg address p) ?_
          rw [drop_append_of_getElem? holdest.entry, List.countP_append, holdest.newer,
            List.length_cons]
          simp only [List.countP_singleton, Entry.isSent, if_true]
          omega }
    · refine ⟨tags ++ [(entries.length, p)], ?_⟩
      exact {
        fixed_eq := by simp [Tunnel.remember, hf, hs, ← hfixed]
        pending := by simp [Tunnel.remember, hf, hs, hfull, h.pending, p]
        seen := by simp [Tunnel.remember, hf, hs]
        unfixed := fun hfalse => by rw [← hfixed, hf] at hfalse; cases hfalse
        tracks := h.tracks.concat (by omega) hnow haccounted msg address
        complete := fun _ _ => hcomplete.concat hnow msg address p }
  · have hremember : t.remember msg address now = t := by
      unfold Tunnel.remember
      rw [if_neg]
      simp only [Bool.and_eq_true, Bool.not_eq_true']
      exact hkept
    have htags : tags = [] := by
      by_cases hf : fixed = true
      · refine h.seen ?_
        by_contra hs
        exact hkept ⟨hfixed.trans hf, by simpa using hs⟩
      · exact h.unfixed (by simpa using hf)
    subst htags
    rw [hremember]
    exact ⟨[], {
      fixed_eq := hfixed
      pending := h.pending
      seen := fun _ => rfl
      unfixed := fun _ => rfl
      tracks := tracks_nil
      complete := fun hf hs => absurd ⟨hfixed.trans hf, hs⟩ hkept }⟩

/-- The tick: its copies are accounted for, and where no send fails every pending datagram has a
recent one. -/
theorem Running.tick (h : Running fixed entries owner clock tags t)
    (hdelivered : Delivered fixed t.localTarget entries owner) (hnow : clock ≤ now)
    (hpendingTarget : ∀ x ∈ tags, t.localTarget = some x.2.target) (failing : Option Nat) :
    ∃ owner', Delivered fixed (t.localReplayTick now failing).tunnel.localTarget
        (entries ++ (t.localReplayTick now failing).entries) owner' ∧
      ((t.localReplayTick now failing).error = none → ∃ tags',
        Running fixed (entries ++ (t.localReplayTick now failing).entries) owner' now tags'
          (t.localReplayTick now failing).tunnel ∧ ∀ x ∈ tags', Tunnel.due now x.2 = false) := by
  by_cases hidle : (t.localAppSeen || t.pendingLocalReplays.isEmpty) = true
  · have htags : tags = [] := by
      rcases Bool.or_eq_true_iff.mp hidle with hs | he
      · exact h.seen hs
      · rw [List.isEmpty_iff, h.pending, List.map_eq_nil_iff] at he
        exact he
    subst htags
    simp only [Tunnel.localReplayTick, hidle, if_true, List.append_nil]
    exact ⟨owner, hdelivered, fun _ => ⟨[], h.quiet hnow rfl rfl rfl, nofun⟩⟩
  · obtain ⟨gone, kept, rfl, hdrop, hgone, hkept⟩ := Tunnel.dropExpired_eq now tags h.tracks.sorted
    have htick : t.localReplayTick now failing =
        { tunnel := { t with
            pendingLocalReplays := (Tunnel.replayPending now failing (kept.map Prod.snd)).1 }
          entries := (Tunnel.replayPending now failing (kept.map Prod.snd)).2.1
          error :=
            if (Tunnel.replayPending now failing (kept.map Prod.snd)).2.2 then some .sendFailed
            else none } := by
      unfold Tunnel.localReplayTick
      rw [if_neg hidle, h.pending, hdrop]
    rw [htick]
    have htracks : Tracks entries owner clock kept := h.tracks.of_append
    have hcopies := Tunnel.replayPending_entries now failing (kept.map Prod.snd)
    -- the copies of this tick, with the pending datagrams they are taken from
    let chosen := (kept.filter fun x => Tunnel.due now x.2).take
      (failing.getD (kept.map Prod.snd).length)
    have hchosen : chosen.Sublist kept :=
      (List.take_sublist _ _).trans List.filter_sublist
    have hentries : (Tunnel.replayPending now failing (kept.map Prod.snd)).2.1 =
        chosen.map fun x => Tunnel.copyOf now x.2 := by
      rw [hcopies, List.filter_map, ← List.map_take, List.map_map]
      rfl
    have hdue : ∀ x ∈ chosen, Tunnel.due now x.2 = true := fun x hx =>
      (List.mem_filter.mp (List.mem_of_mem_take hx)).2
    have hfixed : ∀ x ∈ chosen, fixed = true := by
      intro x hx
      by_contra hf
      have hnil := h.unfixed (by simpa using hf)
      rw [List.append_eq_nil_iff] at hnil
      rw [hnil.2] at hchosen
      exact absurd (hchosen.subset hx) (by simp)
    refine ⟨ownerAfter owner entries.length chosen, ?_, ?_⟩
    · dsimp only
      rw [hentries]
      exact {
        accounted := hdelivered.accounted.tick htracks hchosen hdue
          fun x hx => hkept x (hchosen.subset hx)
        sent := by
          intro payload address time hmem
          rcases List.mem_append.mp hmem with hmem | hmem
          · exact hdelivered.sent payload address time hmem
          · obtain ⟨x, -, hx⟩ := List.mem_map.mp hmem
            cases hx
        replayed := by
          intro payload address time hmem
          rcases List.mem_append.mp hmem with hmem | hmem
          · exact hdelivered.replayed payload address time hmem
          · obtain ⟨x, hx, hxe⟩ := List.mem_map.mp hmem
            cases hxe
            exact ⟨hpendingTarget x (List.mem_append_right _ (hchosen.subset hx)), hfixed x hx⟩ }
    · intro herror
      dsimp only at herror ⊢
      have hok : (Tunnel.replayPending now failing (kept.map Prod.snd)).2.2 = false := by
        by_contra hfailed
        simp [hfailed] at herror
      have hnone := Tunnel.replayPending_of_not_failed hok
      have hall : (Tunnel.replayPending now failing (kept.map Prod.snd)).2.1 =
          (kept.filter fun x => Tunnel.due now x.2).map fun x => Tunnel.copyOf now x.2 := by
        rw [hnone, Tunnel.replayPending_entries, Option.getD_none,
          List.take_of_length_le (List.length_filter_le _ _), List.filter_map, List.map_map]
        rfl
      have hlengths : chosen = kept.filter fun x => Tunnel.due now x.2 := by
        have hsame := congrArg List.length (hentries.symm.trans hall)
        rw [List.length_map, List.length_map] at hsame
        exact (List.take_sublist _ _).eq_of_length hsame
      rw [hall, hlengths, hnone, Tunnel.replayPending_queue]
      refine ⟨kept.map fun x => (x.1, Tunnel.touchIfDue now x.2), ?_, ?_⟩
      · exact {
          fixed_eq := h.fixed_eq
          pending := by
            rw [List.map_map, List.map_map]
            rfl
          seen := fun hs => by
            rw [(List.append_eq_nil_iff.mp (h.seen hs)).2]
            rfl
          unfixed := fun hf => by
            rw [(List.append_eq_nil_iff.mp (h.unfixed hf)).2]
            rfl
          tracks := htracks.tick hnow
          complete := fun hf hs => (h.complete hf hs).tick h.tracks hnow hgone }
      · intro x hx
        obtain ⟨y, -, rfl⟩ := List.mem_map.mp hx
        have hpositive : 0 < localAppReplayInterval := by decide
        dsimp only
        unfold Tunnel.touchIfDue
        split
        · simp only [Tunnel.due, Tunnel.touch, Nat.sub_self, hpositive, decide_true, Bool.not_true]
        · next hnot => simpa using hnot

/-- An arm that sends nothing to the emulator keeps everything. -/
theorem Running.idle (h : Running fixed entries owner clock tags t)
    (hdelivered : Delivered fixed t.localTarget entries owner) (hnow : clock ≤ now)
    (htarget : t'.localTarget = t.localTarget) (hfixed : t'.fixedLocalTarget = t.fixedLocalTarget)
    (hpending : t'.pendingLocalReplays = t.pendingLocalReplays)
    (hseen : t'.localAppSeen = t.localAppSeen) :
    Delivered fixed t'.localTarget (entries ++ []) owner ∧
      Running fixed (entries ++ []) owner now tags t' := by
  rw [List.append_nil, htarget]
  exact ⟨hdelivered, h.quiet hnow hfixed hpending hseen⟩

/-- What an arm keeps. -/
def ArmKeeps (fixed : Bool) (entries : List (Entry Addr)) (now : Nat) (arm : Arm Addr) : Prop :=
  ∃ owner, Delivered fixed arm.tunnel.localTarget (entries ++ arm.entries) owner ∧
    (arm.error = none → ∃ tags, Running fixed (entries ++ arm.entries) owner now tags arm.tunnel)

/-- An arm that does nothing to the queue. -/
theorem Running.kept_idle (h : Running fixed entries owner clock tags t)
    (hdelivered : Delivered fixed t.localTarget entries owner) (hnow : clock ≤ now) {arm : Arm Addr}
    (hentries : arm.entries = []) (htarget : arm.tunnel.localTarget = t.localTarget)
    (hfixed : arm.tunnel.fixedLocalTarget = t.fixedLocalTarget)
    (hpending : arm.tunnel.pendingLocalReplays = t.pendingLocalReplays)
    (hseen : arm.tunnel.localAppSeen = t.localAppSeen) : ArmKeeps fixed entries now arm := by
  obtain ⟨hd, hr⟩ := h.idle hdelivered hnow htarget hfixed hpending hseen
  unfold ArmKeeps
  rw [hentries]
  exact ⟨owner, hd, fun _ => ⟨tags, hr⟩⟩

/-- One lemma for each arm: a datagram of the emulator arrives. -/
theorem kept_localReceived (h : Running fixed entries owner clock tags t)
    (hdelivered : Delivered fixed t.localTarget entries owner) (hnow : clock ≤ now)
    (payload : List UInt8) (source : Addr) (outage sent : Bool) :
    ArmKeeps fixed entries now (t.localReceived payload source outage sent) := by
  unfold Tunnel.localReceived
  cases outage with
  | true => exact h.kept_idle hdelivered hnow rfl rfl rfl rfl rfl
  | false =>
    have hpending : (t.hear source).pendingLocalReplays = [] := by
      unfold Tunnel.hear
      dsimp only
      split
      · next hseen => rw [h.pending, h.seen hseen]; rfl
      · rfl
    have hd : Delivered fixed (some (t.localTarget.getD source))
        (entries ++ [.heard payload]) owner := by
      refine hdelivered.concat ?_ (fun _ _ _ heq => by cases heq) (fun _ _ _ heq => by cases heq)
      intro address haddress
      rw [haddress]
      rfl
    have hr : ∀ t' : Tunnel Addr, t'.fixedLocalTarget = t.fixedLocalTarget →
        t'.pendingLocalReplays = [] → t'.localAppSeen = true →
        ∃ tags, Running fixed (entries ++ [.heard payload]) owner now tags t' :=
      fun t' hf hp hs => ⟨[], h.of_seen hf hp hs _⟩
    simp only [Bool.false_eq_true, if_false]
    split
    · exact ⟨owner, hd, fun _ => hr _ rfl hpending rfl⟩
    · split
      · exact ⟨owner, hd, fun _ => hr _ rfl hpending rfl⟩
      · exact ⟨owner, hd, fun herror => by cases herror⟩

/-- A datagram of the peer arrives. -/
theorem kept_peerReceived (h : Running fixed entries owner clock tags t)
    (hdelivered : Delivered fixed t.localTarget entries owner) (hnow : clock ≤ now)
    (msg : List UInt8) (arrived : Nat) (outage : Bool) (sent : Option Nat) :
    ArmKeeps fixed entries now (t.peerReceived msg arrived now outage sent) := by
  unfold Tunnel.peerReceived
  cases outage with
  | true => exact h.kept_idle hdelivered hnow rfl rfl rfl rfl rfl
  | false =>
    simp only [Bool.false_eq_true, if_false]
    split
    · exact h.kept_idle hdelivered hnow rfl rfl rfl rfl rfl
    · next hmsg =>
      split
      · exact h.kept_idle hdelivered hnow rfl rfl rfl rfl rfl
      · next target htarget =>
        split
        · exact h.kept_idle hdelivered hnow rfl rfl rfl rfl rfl
        · exact h.kept_idle hdelivered hnow rfl rfl rfl rfl rfl
        · -- the message goes to the emulator
          have hsame : Running fixed entries owner clock tags
              { t with
                lastPeerActivity := arrived
                impairment := t.impairment.beforeWebrtcToAppSend.2 } :=
            h.quiet (Nat.le_refl clock) rfl rfl rfl
          obtain ⟨tags', hr⟩ := hsame.remember hnow hdelivered.accounted msg target
          have hlocal : ∀ t' : Tunnel Addr, (t'.remember msg target now).localTarget =
              t'.localTarget := by
            intro t'
            unfold Tunnel.remember
            split <;> rfl
          refine ⟨owner, ?_, fun _ => ⟨tags', hr.quiet (Nat.le_refl now) rfl rfl rfl⟩⟩
          dsimp only
          rw [hlocal]
          refine hdelivered.concat (fun _ haddress => haddress) ?_ (fun _ _ _ heq => by cases heq)
          intro payload address time heq
          cases heq
          exact ⟨htarget, hmsg⟩

/-- Everything in the queue goes to the emulator. -/
theorem Running.pending_target (h : Running fixed entries owner clock tags t)
    (hdelivered : Delivered fixed target entries owner) {x : Nat × PendingLocalDatagram Addr}
    (hx : x ∈ tags) : target = some x.2.target := by
  obtain ⟨newer, -, htag⟩ := h.tracks.tagged_of_mem hx
  exact (hdelivered.sent _ _ _ (List.mem_of_getElem? htag.entry)).1

/-- Each arm keeps the account. -/
theorem kept_arm (h : Running fixed entries owner clock tags t)
    (hdelivered : Delivered fixed t.localTarget entries owner) (event : TunnelEvent Addr)
    (hnow : clock ≤ (event.span.map Prod.snd).getD clock) :
    ArmKeeps fixed entries ((event.span.map Prod.snd).getD clock) (t.arm event) := by
  cases event with
  | heartbeatTick now outage sent =>
    simp only [Tunnel.arm, Tunnel.heartbeatTick]
    split
    · exact h.kept_idle hdelivered hnow rfl rfl rfl rfl rfl
    · split
      · exact h.kept_idle hdelivered hnow rfl rfl rfl rfl rfl
      · split <;> exact h.kept_idle hdelivered hnow rfl rfl rfl rfl rfl
  | localReceived payload source arrived now outage sent =>
    exact kept_localReceived h hdelivered hnow payload source outage sent
  | peerReceived msg arrived now outage sent =>
    exact kept_peerReceived h hdelivered hnow msg arrived outage sent
  | connectionStateChange state =>
    cases state <;> exact h.kept_idle hdelivered hnow rfl rfl rfl rfl rfl
  | localReplayTick now failing =>
    obtain ⟨owner', hd, hr⟩ :=
      h.tick hdelivered hnow (fun x hx => h.pending_target hdelivered hx) failing
    refine ⟨owner', hd, fun herror => ?_⟩
    obtain ⟨tags', hrunning, -⟩ := hr herror
    exact ⟨tags', hrunning⟩
  | localReset => exact h.kept_idle hdelivered hnow rfl rfl rfl rfl rfl
  | localFailed => exact h.kept_idle hdelivered hnow rfl rfl rfl rfl rfl
  | channelClosed => exact h.kept_idle hdelivered hnow rfl rfl rfl rfl rfl
  | otherPeerEvent => exact h.kept_idle hdelivered hnow rfl rfl rfl rfl rfl
  | eventStreamClosed => exact h.kept_idle hdelivered hnow rfl rfl rfl rfl rfl
  | cancelled => exact h.kept_idle hdelivered hnow rfl rfl rfl rfl rfl

end Arms

namespace TunnelHost

/-- The invariant of a bridge whose target was given, or is learned. -/
structure Inv (fixed : Bool) (owner : Nat → Nat) (h : TunnelHost Addr) : Prop where
  fixed_eq : h.fixedLocalTarget = fixed
  delivered : Delivered fixed h.target h.entries owner
  running : ∀ t, h.tunnel = some t → t.localTarget = h.target ∧
    ∃ tags, Running fixed h.entries owner h.clock tags t

/-- Nothing has happened in the beginning. -/
theorem inv_start (config : ImpairmentConfig) (localTarget : Option Addr) (owner : Nat → Nat) :
    Inv localTarget.isSome owner (start config localTarget) where
  fixed_eq := rfl
  delivered := {
    accounted := {
      copy := fun r payload target time hr => by simp [start] at hr
      apart := fun r r' payload target time payload' target' time' _ _ hr => by simp [start] at hr }
    sent := fun _ _ _ hmem => by simp [start] at hmem
    replayed := fun _ _ _ hmem => by simp [start] at hmem }
  running t ht := by cases ht

variable {fixed : Bool} {owner : Nat → Nat} {h h' : TunnelHost Addr}

/-- A new tunnel begins with an empty queue. -/
theorem inv_connect (hinv : Inv fixed owner h) (now : Nat) : Inv fixed owner (h.connect now) where
  fixed_eq := hinv.fixed_eq
  delivered := hinv.delivered.concat (fun _ haddress => haddress) (fun _ _ _ heq => by cases heq)
    (fun _ _ _ heq => by cases heq)
  running t ht := by
    obtain rfl := Option.some.inj ht
    refine ⟨rfl, [], ?_⟩
    exact {
      fixed_eq := hinv.fixed_eq
      pending := rfl
      seen := fun _ => rfl
      unfixed := fun _ => rfl
      tracks := tracks_nil
      complete := by
        -- what was sent before belongs to an earlier connection
        intro _ _ o payload target first ho hquiet
        rcases Nat.lt_or_ge o h.entries.length with hlt | hge
        · have ho' : h.entries[o]? = some (.sent payload target first) := by
            unfold connect at ho
            rwa [List.getElem?_append_left hlt] at ho
          have hmem : Entry.connected ∈ (h.connect now).entries.drop (o + 1) := by
            unfold connect
            rw [drop_append_of_getElem? ho']
            exact List.mem_append_right _ (List.mem_singleton.mpr rfl)
          exact absurd (hquiet.1 _ hmem) (by simp [Entry.toEmulator])
        · have heq : o = h.entries.length := by
            have := lt_length_of_getElem? ho
            unfold connect at this
            rw [List.length_append, List.length_singleton] at this
            omega
          subst heq
          unfold connect at ho
          rw [List.getElem?_concat_length] at ho
          cases ho }

/-- The clock does not go back. -/
theorem clock_le_of_timely {t : Tunnel Addr} {event : TunnelEvent Addr}
    (htimely : h.timely t event = true) :
    h.clock ≤ (event.span.map Prod.snd).getD h.clock := by
  unfold timely at htimely
  cases hspan : event.span with
  | none => exact Nat.le_refl _
  | some span =>
    rw [hspan] at htimely
    simp only [Bool.and_eq_true, decide_eq_true_eq] at htimely
    simp only [Option.map_some, Option.getD_some]
    omega

theorem step_arm {event : TunnelEvent Addr} (hstep : h.step (.arm event) = some h') :
    ∃ t, h.tunnel = some t ∧ h.timely t event = true ∧ h' = h.finish event (t.arm event) := by
  simp only [step, act] at hstep
  cases htunnel : h.tunnel with
  | none => simp [htunnel] at hstep
  | some t =>
    by_cases htimely : h.timely t event = true
    · simp only [htunnel, htimely, if_true, Option.map_some, Option.some.injEq] at hstep
      exact ⟨t, rfl, htimely, hstep.symm⟩
    · simp [htunnel, htimely] at hstep

theorem step_connect {now : Nat} (hstep : h.step (.connect now) = some h') :
    h' = h.connect now := by
  simp only [step, act] at hstep
  split at hstep
  · exact (Option.some.inj hstep).symm
  · cases hstep

/-- Each event keeps the account. -/
theorem inv_step (hinv : Inv fixed owner h) {event : Event Addr} (hstep : h.step event = some h') :
    ∃ owner', Inv fixed owner' h' := by
  cases event with
  | connect now =>
    obtain rfl := step_connect hstep
    exact ⟨owner, inv_connect hinv now⟩
  | arm event =>
    obtain ⟨t, htunnel, htimely, rfl⟩ := step_arm hstep
    obtain ⟨htarget, tags, hrunning⟩ := hinv.running t htunnel
    have hdelivered := hinv.delivered
    rw [← htarget] at hdelivered
    obtain ⟨owner', hd, hr⟩ := kept_arm hrunning hdelivered event (clock_le_of_timely htimely)
    refine ⟨owner', hinv.fixed_eq, hd, ?_⟩
    intro t' ht'
    unfold finish at ht'
    dsimp only at ht'
    split at ht'
    · cases ht'
    · next herror =>
      obtain rfl := Option.some.inj ht'
      exact ⟨rfl, hr (by simpa using herror)⟩

/-- The last event was a replay tick without a failing send: every datagram that is still early has
a copy of the last 100 ms. -/
theorem copied_after_tick (hinv : Inv fixed owner h) (hfixed : fixed = true) {now : Nat}
    (hstep : h.step (.arm (.localReplayTick now none)) = some h') :
    ∃ owner', Inv fixed owner' h' ∧ ∀ t', h'.tunnel = some t' → t'.localAppSeen = false →
      ∀ o payload target first, h'.entries[o]? = some (.sent payload target first) →
        Undisturbed (h'.entries.drop (o + 1)) → now ≤ first + localAppReplayTtl →
        now < first + localAppReplayInterval ∨ ∃ r time, owner' r = o ∧
          h'.entries[r]? = some (.replayed payload target time) ∧
          now < time + localAppReplayInterval := by
  obtain ⟨t, htunnel, htimely, rfl⟩ := step_arm hstep
  obtain ⟨htarget, tags, hrunning⟩ := hinv.running t htunnel
  have hdelivered := hinv.delivered
  rw [← htarget] at hdelivered
  have hnow : h.clock ≤ now := clock_le_of_timely htimely
  obtain ⟨owner', hd, hr⟩ := hrunning.tick hdelivered hnow
    (fun x hx => hrunning.pending_target hdelivered hx) none
  refine ⟨owner', ⟨hinv.fixed_eq, hd, ?_⟩, ?_⟩
  · intro t' ht'
    unfold finish at ht'
    dsimp only at ht'
    split at ht'
    · cases ht'
    · next herror =>
      obtain rfl := Option.some.inj ht'
      obtain ⟨tags', hrunning', -⟩ := hr (by simpa [Tunnel.arm] using herror)
      exact ⟨rfl, tags', hrunning'⟩
  · intro t' ht' hseen o payload target first ho hquiet hyoung
    unfold finish at ht'
    dsimp only at ht'
    split at ht'
    · cases ht'
    · next herror =>
      obtain rfl := Option.some.inj ht'
      obtain ⟨tags', hrunning', hrecent⟩ := hr (by simpa [Tunnel.arm] using herror)
      rcases hrunning'.complete hfixed hseen o payload target first ho hquiet with
        ⟨x, hx, rfl⟩ | hlt
      · obtain ⟨newer, -, htag⟩ := hrunning'.tracks.tagged_of_mem hx
        have hentry := htag.entry.symm.trans ho
        have hnotDue := hrecent x hx
        simp only [Tunnel.due, Bool.not_eq_false', decide_eq_true_eq] at hnotDue
        simp only [Option.some.injEq, Entry.sent.injEq] at hentry
        obtain ⟨rfl, rfl, rfl⟩ := hentry
        rcases htag.last with hlast | ⟨r, howner, hr⟩
        · left
          omega
        · exact .inr ⟨r, x.2.lastSent, howner, hr, by omega⟩
      · omega

/-- The datagrams that a bridge sends to its emulator, over any number of connections. Each copy is
a copy of one datagram that was sent first in the same connection, with at most 63 newer ones since
and the emulator not heard yet; the copies of one datagram are at least 100 ms apart and none is
later than 8 s. After a replay tick in which no send fails, no such datagram is without a copy of
the last 100 ms. All go to one address, which an emulator that is configured has from the beginning,
and only to such an emulator anything is sent twice. -/
theorem early_datagrams_replayed {config : ImpairmentConfig} {localTarget : Option Addr}
    {events : List (Event Addr)} (hrun : Run.run step (start config localTarget) events = some h) :
    ∃ owner, Accounted h.entries owner ∧
      (∀ payload target time, .sent payload target time ∈ h.entries →
        h.target = some target ∧ payload ≠ heartbeat) ∧
      (∀ payload target time, .replayed payload target time ∈ h.entries →
        h.target = some target ∧ localTarget.isSome) ∧
      ∀ before now, events = before ++ [.arm (.localReplayTick now none)] → localTarget.isSome →
        ∀ t, h.tunnel = some t → t.localAppSeen = false →
        ∀ o payload target first, h.entries[o]? = some (.sent payload target first) →
          Undisturbed (h.entries.drop (o + 1)) → now ≤ first + localAppReplayTtl →
          now < first + localAppReplayInterval ∨ ∃ r time, owner r = o ∧
            h.entries[r]? = some (.replayed payload target time) ∧
            now < time + localAppReplayInterval := by
  have hreach : ∀ (es : List (Event Addr)) g, Run.run step (start config localTarget) es = some g →
      ∃ owner, Inv localTarget.isSome owner g := by
    intro es g hg
    have hkeep : ∀ (s : TunnelHost Addr) e t, (∃ owner, Inv localTarget.isSome owner s) →
        step s e = some t → ∃ owner, Inv localTarget.isSome owner t := by
      rintro s e t ⟨owner, hs⟩ hstep
      exact inv_step hs hstep
    exact Run.run_invariant' hkeep ⟨id, inv_start config localTarget id⟩ hg
  by_cases htick : ∃ before now, events = before ++ [.arm (.localReplayTick now none)] ∧
    localTarget.isSome
  · obtain ⟨before, now, rfl, hfixed⟩ := htick
    rw [Run.run_append] at hrun
    obtain ⟨g, hg, hlast⟩ := Option.bind_eq_some_iff.mp hrun
    obtain ⟨g', hstep, hend⟩ := Run.run_cons_eq_some hlast
    obtain rfl : g' = h := Option.some.inj hend
    obtain ⟨owner, hinv⟩ := hreach before g hg
    obtain ⟨owner', hinv', hcopied⟩ := copied_after_tick hinv hfixed hstep
    refine ⟨owner', hinv'.delivered.accounted, hinv'.delivered.sent, hinv'.delivered.replayed, ?_⟩
    intro before' now' heq _
    obtain ⟨-, hevent⟩ := List.append_inj' heq rfl
    simp only [List.cons.injEq, Event.arm.injEq,
      TunnelEvent.localReplayTick.injEq, and_true] at hevent
    subst hevent
    exact hcopied
  · obtain ⟨owner, hinv⟩ := hreach events h hrun
    refine ⟨owner, hinv.delivered.accounted, hinv.delivered.sent, hinv.delivered.replayed, ?_⟩
    intro before now heq hsome
    exact absurd ⟨before, now, heq, hsome⟩ htick

/-- A message arrives before the emulator listens, and a tick later it is sent again. -/
def earlyRun : List (Event Nat) :=
  [.connect 0, .arm (.peerReceived [7] 5 5 false (some 1)), .arm (.localReplayTick 100000005 none)]

theorem early_datagrams_replayed_oneTick :
    ∃ owner, Accounted [.connected, .sent [7] 1 5, .replayed [7] (1 : Nat) 100000005] owner := by
  have hrun : Run.run step (start {} (some 1)) earlyRun =
      some (Run.final step (start {} (some 1)) earlyRun) :=
    Run.run_eq_final step _ _ (by decide +kernel)
  obtain ⟨owner, haccounted, -⟩ := early_datagrams_replayed hrun
  have hentries : (Run.final step (start {} (some 1)) earlyRun).entries =
      [.connected, .sent [7] 1 5, .replayed [7] 1 100000005] := by decide +kernel
  rw [hentries] at haccounted
  exact ⟨owner, haccounted⟩

end TunnelHost

end Bigstar.Signaling
