import Bigstar.Signaling.Proofs.TunnelProofs
import Mathlib.Algebra.Order.BigOperators.Group.Finset
import Mathlib.Order.Interval.Finset.Nat

/-!
# From one emulator to the other

What the bridges deliver: nothing that the other emulator has not sent, no datagram as a new one
more often than it was sent, and at most 80 copies of it.
-/

namespace Bigstar.Signaling

variable {Addr : Type}

namespace Entry

/-- What was sent to the emulator for the first time. -/
def sentPayload : Entry Addr → Option (List UInt8)
  | .sent payload _ _ => some payload
  | _ => none

/-- The payload of a replay. -/
def replayedPayload : Entry Addr → Option (List UInt8)
  | .replayed payload _ _ => some payload
  | _ => none

/-- The payload of what a bridge has heard. -/
def heardPayload : Entry Addr → Option (List UInt8)
  | .heard payload => some payload
  | _ => none

/-- The time of a replay. -/
def replayedAt : Entry Addr → Nat
  | .replayed _ _ time => time
  | _ => 0

/-- All that the emulator receives. -/
def deliveredPayload : Entry Addr → Option (List UInt8)
  | .sent payload _ _ => some payload
  | .replayed payload _ _ => some payload
  | _ => none

end Entry

/-! ## Copies are few -/

/-- How many entries of a list have a property is the number of places where one stands. -/
theorem card_filter_getElem? {α : Type} (P : α → Bool) (l : List α) :
    ((Finset.range l.length).filter fun i => (l[i]?).any P).card = l.countP P := by
  induction l using List.reverseRecOn with
  | nil => rfl
  | append_singleton l x ih =>
    have hcongr : (Finset.range l.length).filter (fun i => ((l ++ [x])[i]?).any P) =
        (Finset.range l.length).filter fun i => (l[i]?).any P := by
      apply Finset.filter_congr
      intro i hi
      rw [List.getElem?_append_left (Finset.mem_range.mp hi)]
    rw [List.length_append, List.length_singleton, Finset.range_add_one, Finset.filter_insert,
      List.getElem?_concat_length, List.countP_append, hcongr]
    cases hx : P x with
    | true => simp [hx, ih]
    | false => simp [hx, ih]

/-- The copies of one datagram are 100 ms apart and stay within 8 s. -/
theorem Accounted.card_copies_le {entries : List (Entry Addr)} {owner : Nat → Nat}
    (h : Accounted entries owner) (copies : Finset Nat) (o : Nat)
    (hcopies : ∀ r ∈ copies, owner r = o ∧
      ∃ payload target time, entries[r]? = some (.replayed payload target time)) :
    copies.card ≤ 80 := by
  classical
  let time : Nat → Nat := fun r => (entries[r]?).elim 0 Entry.replayedAt
  by_cases hempty : copies = ∅
  · rw [hempty]
    exact Nat.zero_le _
  obtain ⟨r₀, hr₀⟩ := Finset.nonempty_iff_ne_empty.mpr hempty
  obtain ⟨rfl, payload₀, target₀, time₀, hentry₀⟩ := hcopies r₀ hr₀
  obtain ⟨first, -, hfirst, -⟩ := h.copy r₀ payload₀ target₀ time₀ hentry₀
  have hspan : ∀ r ∈ copies, first + localAppReplayInterval ≤ time r ∧
      time r ≤ first + localAppReplayTtl := by
    intro r hr
    obtain ⟨howner, payload, target, at', hentry⟩ := hcopies r hr
    obtain ⟨first', -, hfirst', hafter, hbefore, -⟩ := h.copy r payload target at' hentry
    rw [howner, hfirst] at hfirst'
    simp only [Option.some.injEq, Entry.sent.injEq] at hfirst'
    obtain ⟨-, -, rfl⟩ := hfirst'
    simp only [time, hentry, Option.elim_some, Entry.replayedAt]
    exact ⟨hafter, hbefore⟩
  have hapart : ∀ r ∈ copies, ∀ r' ∈ copies, r < r' →
      time r + localAppReplayInterval ≤ time r' := by
    intro r hr r' hr' hlt
    obtain ⟨howner, payload, target, at', hentry⟩ := hcopies r hr
    obtain ⟨howner', payload', target', at'', hentry'⟩ := hcopies r' hr'
    simp only [time, hentry, hentry', Option.elim_some, Entry.replayedAt]
    exact h.apart r r' _ _ _ _ _ _ hlt (howner.trans howner'.symm) hentry hentry'
  -- each copy stands in a slot of its own
  let slot : Nat → Nat := fun r => (time r - first) / localAppReplayInterval
  have hpositive : 0 < localAppReplayInterval := by decide
  have hslot : ∀ r ∈ copies, slot r ∈ Finset.Icc 1 80 := by
    intro r hr
    obtain ⟨hafter, hbefore⟩ := hspan r hr
    rw [Finset.mem_Icc]
    constructor
    · rw [Nat.le_div_iff_mul_le hpositive]
      omega
    · have hle : time r - first ≤ localAppReplayTtl := by omega
      exact Nat.div_le_div_right hle
  have hlt : ∀ r ∈ copies, ∀ r' ∈ copies, r < r' → slot r < slot r' := by
    intro r hr r' hr' hrr'
    have hgap := hapart r hr r' hr' hrr'
    have hafter := (hspan r hr).1
    have hmono : (time r - first + localAppReplayInterval) / localAppReplayInterval ≤
        (time r' - first) / localAppReplayInterval := Nat.div_le_div_right (by omega)
    rw [Nat.add_div_right _ hpositive] at hmono
    exact hmono
  have hinj : Set.InjOn slot copies := by
    intro r hr r' hr' heq
    rcases Nat.lt_trichotomy r r' with h' | h' | h'
    · have := hlt r hr r' hr' h'
      omega
    · exact h'
    · have := hlt r' hr' r hr h'
      omega
  calc copies.card ≤ (Finset.Icc 1 80).card :=
        Finset.card_le_card_of_injOn slot (fun r hr => hslot r hr) hinj
    _ = 80 := by decide

theorem count_filterMap_eq_countP (f : Entry Addr → Option (List UInt8))
    (entries : List (Entry Addr)) (payload : List UInt8) :
    (entries.filterMap f).count payload = entries.countP fun e => f e == some payload := by
  induction entries with
  | nil => rfl
  | cons e entries ih =>
    cases hf : f e with
    | none => simp [hf, ih]
    | some p => simp [hf, ih, List.count_cons, List.countP_cons]

/-- A datagram is copied at most 80 times. -/
theorem Accounted.count_replayed_le {entries : List (Entry Addr)} {owner : Nat → Nat}
    (h : Accounted entries owner) (payload : List UInt8) :
    (entries.filterMap Entry.replayedPayload).count payload ≤
      80 * (entries.filterMap Entry.sentPayload).count payload := by
  classical
  rw [count_filterMap_eq_countP, count_filterMap_eq_countP, ← card_filter_getElem?,
    ← card_filter_getElem?]
  have hreplayed : ∀ r : Nat,
    (entries[r]?).any (fun e : Entry Addr => e.replayedPayload == some payload) = true →
      ∃ target time, entries[r]? = some (Entry.replayed payload target time) := by
    intro r hr
    rw [Option.any_eq_true] at hr
    obtain ⟨e, he, hpayload⟩ := hr
    cases e with
    | replayed payload' target time =>
      simp only [Entry.replayedPayload, beq_iff_eq, Option.some.injEq] at hpayload
      subst hpayload
      exact ⟨target, time, he⟩
    | connected => simp [Entry.replayedPayload] at hpayload
    | heard _ => simp [Entry.replayedPayload] at hpayload
    | sent _ _ _ => simp [Entry.replayedPayload] at hpayload
  refine Finset.card_le_mul_card_image_of_maps_to (f := owner) ?_ 80 ?_
  · intro r hr
    rw [Finset.mem_filter] at hr
    obtain ⟨target, time, hentry⟩ := hreplayed r hr.2
    obtain ⟨first, -, hfirst, -⟩ := h.copy r payload target time hentry
    rw [Finset.mem_filter, Finset.mem_range]
    refine ⟨lt_length_of_getElem? hfirst, ?_⟩
    rw [hfirst]
    simp [Entry.sentPayload]
  · intro o _
    refine h.card_copies_le _ o ?_
    intro r hr
    rw [Finset.mem_filter, Finset.mem_filter] at hr
    obtain ⟨target, time, hentry⟩ := hreplayed r hr.1.2
    exact ⟨hr.2, payload, target, time, hentry⟩

/-- What an emulator receives is sent for the first time or again. -/
theorem count_delivered (entries : List (Entry Addr)) (payload : List UInt8) :
    (entries.filterMap Entry.deliveredPayload).count payload =
      (entries.filterMap Entry.sentPayload).count payload +
        (entries.filterMap Entry.replayedPayload).count payload := by
  rw [count_filterMap_eq_countP, count_filterMap_eq_countP, count_filterMap_eq_countP]
  induction entries with
  | nil => rfl
  | cons e entries ih =>
    rw [List.countP_cons, List.countP_cons, List.countP_cons, ih]
    cases e with
    | connected => simp [Entry.deliveredPayload, Entry.sentPayload, Entry.replayedPayload]
    | heard _ => simp [Entry.deliveredPayload, Entry.sentPayload, Entry.replayedPayload]
    | sent _ _ _ =>
      simp only [Entry.deliveredPayload, Entry.sentPayload, Entry.replayedPayload]
      simp
      omega
    | replayed _ _ _ =>
      simp only [Entry.deliveredPayload, Entry.sentPayload, Entry.replayedPayload]
      simp
      omega

/-! ## What an arm passes on -/

namespace Tunnel

variable (t : Tunnel Addr)

/-- A tick sends nothing for the first time. -/
theorem localReplayTick_sent (now : Nat) (failing : Option Nat) :
    (t.localReplayTick now failing).entries.filterMap Entry.sentPayload = [] := by
  unfold localReplayTick
  split
  · rfl
  · dsimp only
    rw [replayPending_entries, List.filterMap_map]
    exact List.filterMap_eq_nil_iff.mpr fun _ _ => rfl

theorem localReplayTick_toPeer (now : Nat) (failing : Option Nat) :
    (t.localReplayTick now failing).toPeer = [] := by
  unfold localReplayTick
  split <;> rfl

/-- Only what the emulator has sent goes to the peer, and the heartbeat. -/
theorem localReceived_relays (payload : List UInt8) (source : Addr) (outage sent : Bool) :
    (t.localReceived payload source outage sent).entries.filterMap Entry.sentPayload = [] ∧
      ∀ p, (t.localReceived payload source outage sent).toPeer.count p ≤
        ((t.localReceived payload source outage sent).entries.filterMap Entry.heardPayload).count
          p := by
  unfold localReceived
  split
  · exact ⟨rfl, fun _ => Nat.le_refl 0⟩
  · dsimp only
    split
    · exact ⟨rfl, fun _ => Nat.zero_le _⟩
    · split
      · exact ⟨rfl, fun _ => Nat.le_refl _⟩
      · exact ⟨rfl, fun _ => Nat.zero_le _⟩

theorem heartbeatTick_relays (now : Nat) (outage sent : Bool) :
    (t.heartbeatTick now outage sent).entries = [] ∧
      ∀ p, p ≠ heartbeat → (t.heartbeatTick now outage sent).toPeer.count p = 0 := by
  unfold heartbeatTick
  split
  · exact ⟨rfl, fun _ _ => rfl⟩
  · split
    · exact ⟨rfl, fun _ _ => rfl⟩
    · split
      · refine ⟨rfl, fun p hp => List.count_eq_zero.mpr ?_⟩
        intro hmem
        exact hp (List.mem_singleton.mp hmem)
      · exact ⟨rfl, fun _ _ => rfl⟩

/-- A message is sent to the emulator once, and nothing goes back to the peer. -/
theorem peerReceived_relays (msg : List UInt8) (arrived now : Nat) (outage : Bool)
    (sent : Option Nat) :
    (t.peerReceived msg arrived now outage sent).toPeer = [] ∧
      (t.peerReceived msg arrived now outage sent).entries.filterMap Entry.heardPayload = [] ∧
      ∀ p,
        ((t.peerReceived msg arrived now outage sent).entries.filterMap Entry.sentPayload).count p ≤
        [msg].count p := by
  unfold peerReceived
  split
  · exact ⟨rfl, rfl, fun _ => Nat.zero_le _⟩
  · dsimp only
    split
    · exact ⟨rfl, rfl, fun _ => Nat.zero_le _⟩
    · split
      · exact ⟨rfl, rfl, fun _ => Nat.zero_le _⟩
      · split
        · exact ⟨rfl, rfl, fun _ => Nat.zero_le _⟩
        · exact ⟨rfl, rfl, fun _ => Nat.zero_le _⟩
        · exact ⟨rfl, rfl, fun _ => Nat.le_refl _⟩

/-- An arm that takes nothing from the data channel. -/
theorem arm_relays {event : TunnelEvent Addr}
    (hevent : ∀ msg arrived now outage sent, event ≠ .peerReceived msg arrived now outage sent)
    {p : List UInt8} (hp : p ≠ heartbeat) :
    (t.arm event).entries.filterMap Entry.sentPayload = [] ∧
      (t.arm event).toPeer.count p ≤
        ((t.arm event).entries.filterMap Entry.heardPayload).count p := by
  cases event with
  | heartbeatTick now outage sent =>
    obtain ⟨hentries, hcount⟩ := t.heartbeatTick_relays now outage sent
    simp only [arm, hentries, hcount p hp]
    exact ⟨rfl, Nat.zero_le _⟩
  | localReceived payload source arrived now outage sent =>
    obtain ⟨hsent, hcount⟩ := t.localReceived_relays payload source outage sent
    exact ⟨hsent, hcount p⟩
  | peerReceived msg arrived now outage sent =>
    exact absurd rfl (hevent msg arrived now outage sent)
  | connectionStateChange state => cases state <;> exact ⟨rfl, Nat.le_refl 0⟩
  | localReplayTick now failing =>
    refine ⟨t.localReplayTick_sent now failing, ?_⟩
    simp only [arm, localReplayTick_toPeer]
    exact Nat.zero_le _
  | localReset => exact ⟨rfl, Nat.le_refl 0⟩
  | localFailed => exact ⟨rfl, Nat.le_refl 0⟩
  | channelClosed => exact ⟨rfl, Nat.le_refl 0⟩
  | otherPeerEvent => exact ⟨rfl, Nat.le_refl 0⟩
  | eventStreamClosed => exact ⟨rfl, Nat.le_refl 0⟩
  | cancelled => exact ⟨rfl, Nat.le_refl 0⟩

end Tunnel

/-! ## Runs of two bridges -/

namespace TunnelHost

/-- What was sent, in order. -/
def sentPayloads (h : TunnelHost Addr) : List (List UInt8) := h.entries.filterMap Entry.sentPayload

/-- What was heard, in order. -/
def heardPayloads (h : TunnelHost Addr) : List (List UInt8) :=
  h.entries.filterMap Entry.heardPayload

/-- What was delivered, in order. -/
def deliveredPayloads (h : TunnelHost Addr) : List (List UInt8) :=
  h.entries.filterMap Entry.deliveredPayload

/-- What a step of a bridge adds to what it has received and sent. -/
theorem act_entries {h h' : TunnelHost Addr} {event : Event Addr} {messages : List (List UInt8)}
    (hact : h.act event = some (h', messages)) :
    h.step event = some h' ∧
      ((∃ now, event = .connect now ∧ messages = [] ∧ h'.entries = h.entries ++ [.connected]) ∨
        ∃ e t, event = .arm e ∧ messages = (Tunnel.arm t e).toPeer ∧
          h'.entries = h.entries ++ (Tunnel.arm t e).entries) := by
  refine ⟨by rw [step, hact]; rfl, ?_⟩
  cases event with
  | connect now =>
    simp only [act] at hact
    split at hact
    · cases hact
      exact .inl ⟨now, rfl, rfl, rfl⟩
    · cases hact
  | arm e =>
    simp only [act] at hact
    split at hact
    · cases hact
    · next t _ =>
      split at hact
      · cases hact
        exact .inr ⟨e, t, rfl, rfl, rfl⟩
      · cases hact

end TunnelHost

namespace TunnelPair

open TwoParty

/-- Between bridge `p` in state `a` and the other one in state `b`, with `out` on its way to that
one: what has been or may still be delivered has been heard. -/
def Relayed (fixed : Fin 2 → Bool) (p : Fin 2) (a b : TunnelHost Addr)
    (out _back : List (List UInt8)) : Prop :=
  (∃ owner, TunnelHost.Inv (fixed p) owner a) ∧
    ∀ payload, payload ≠ heartbeat →
      b.sentPayloads.count payload + out.count payload ≤ a.heardPayloads.count payload

/-- What a host has heard and delivered comes from the other one. -/
def Inv (fixed : Fin 2 → Bool) (s : TunnelPair Addr) : Prop :=
  ∀ p, Relayed fixed p (s.side p) (s.side (other p)) (s.sent p) (s.sent (other p))

variable {fixed : Fin 2 → Bool} {s s' : TunnelPair Addr}

theorem inv_start (config : Fin 2 → ImpairmentConfig) (localTarget : Fin 2 → Option Addr) :
    Inv (fun p => (localTarget p).isSome) (start config localTarget) := by
  intro p
  refine ⟨⟨id, TunnelHost.inv_start (config p) (localTarget p) id⟩, ?_⟩
  intro payload _
  exact Nat.le_refl 0

/-- A step of bridge `p` that adds to its entries and to what it has on its way. -/
theorem Inv.put {p : Fin 2} (h : Inv fixed s) {h' : TunnelHost Addr} {messages : List (List UInt8)}
    {entries : List (Entry Addr)} (hside : ∃ owner, TunnelHost.Inv (fixed p) owner h')
    (hentries : h'.entries = (s.side p).entries ++ entries)
    (hsent : ∀ payload, payload ≠ heartbeat →
      (entries.filterMap Entry.sentPayload).count payload + (s.side p).sentPayloads.count payload +
        (s.sent (other p)).count payload ≤ (s.side (other p)).heardPayloads.count payload)
    (hheard : ∀ payload, payload ≠ heartbeat →
      messages.count payload ≤ (entries.filterMap Entry.heardPayload).count payload) :
    Inv fixed (s.put p h' messages) := by
  intro q
  refine Net.forall_put (I := Relayed fixed) ?_ ?_ q
  · refine ⟨hside, fun payload hne => ?_⟩
    have hbefore := (h p).2 payload hne
    have hnew := hheard payload hne
    unfold TunnelHost.heardPayloads at hbefore ⊢
    rw [hentries, List.filterMap_append, List.count_append, List.count_append]
    omega
  · refine ⟨(h (other p)).1, fun payload hne => ?_⟩
    have hnew := hsent payload hne
    unfold TunnelHost.sentPayloads at hnew ⊢
    rw [hentries, List.filterMap_append, List.count_append]
    omega

/-- A message that is on its way no longer counts. -/
theorem Inv.remain (h : Inv fixed s) (q : Fin 2) {rest : List (List UInt8)}
    (hrest : ∀ payload, rest.count payload ≤ (s.sent q).count payload) :
    Inv fixed (s.remain q rest) := by
  intro p
  rw [Net.remain_side]
  refine ⟨(h p).1, fun payload hne => ?_⟩
  have hbefore := (h p).2 payload hne
  have hle : ((s.remain q rest).sent p).count payload ≤ (s.sent p).count payload := by
    by_cases hp : p = q
    · subst hp
      rw [Net.remain_sent_self]
      exact hrest payload
    · unfold Net.remain
      dsimp only
      rw [Function.update_of_ne hp]
  omega

theorem count_erase_le (l : List (List UInt8)) (msg payload : List UInt8) :
    (l.erase msg).count payload ≤ l.count payload := List.erase_sublist.count_le payload

theorem actAs_eq_some {p : Fin 2} {event : TunnelHost.Event Addr} (h : actAs s p event = some s') :
    ∃ h' messages, (s.side p).act event = some (h', messages) ∧ s' = s.put p h' messages := by
  unfold actAs at h
  rw [Option.map_eq_some_iff] at h
  obtain ⟨⟨h', messages⟩, hact, rfl⟩ := h
  exact ⟨h', messages, hact, rfl⟩

theorem inv_step (hinv : Inv fixed s) {event : Event Addr} (hstep : step s event = some s') :
    Inv fixed s' := by
  cases event with
  | connect p now =>
    obtain ⟨h', messages, hact, rfl⟩ := actAs_eq_some hstep
    obtain ⟨hside, hentries⟩ := TunnelHost.act_entries hact
    obtain ⟨owner, hp⟩ := (hinv p).1
    rcases hentries with ⟨now', -, rfl, hentries⟩ | ⟨e, t, heq, -⟩
    · refine hinv.put (TunnelHost.inv_step hp hside) hentries ?_ (fun _ _ => Nat.zero_le _)
      intro payload hne
      have hbefore := (hinv (other p)).2 payload hne
      have hnone : [(Entry.connected : Entry Addr)].filterMap Entry.sentPayload = [] := rfl
      rw [other_other] at hbefore
      rw [hnone, List.count_nil]
      omega
    · cases heq
  | arm p event =>
    have hpeer : ∀ msg arrived now outage sent, event ≠
        .peerReceived msg arrived now outage sent := by
      intro msg arrived now outage sent heq
      subst heq
      cases hstep
    have hactAs : actAs s p (.arm event) = some s' := by
      cases event with
      | peerReceived msg arrived now outage sent =>
        exact absurd rfl (hpeer msg arrived now outage sent)
      | _ => exact hstep
    obtain ⟨h', messages, hact, rfl⟩ := actAs_eq_some hactAs
    obtain ⟨hside, hentries⟩ := TunnelHost.act_entries hact
    obtain ⟨owner, hp⟩ := (hinv p).1
    rcases hentries with ⟨now', heq, -⟩ | ⟨e, t, heq, rfl, hentries⟩
    · cases heq
    · cases heq
      refine hinv.put (TunnelHost.inv_step hp hside) hentries ?_ ?_
      · intro payload hne
        have hbefore := (hinv (other p)).2 payload hne
        rw [other_other] at hbefore
        rw [(t.arm_relays hpeer hne).1, List.count_nil]
        omega
      · exact fun payload hne => (t.arm_relays hpeer hne).2
  | deliver p msg arrived now outage sent =>
    simp only [step] at hstep
    split at hstep
    · next hmem =>
      have hrest : Inv fixed (s.remain (other p) ((s.sent (other p)).erase msg)) :=
        hinv.remain (other p) fun payload => count_erase_le _ msg payload
      obtain ⟨h', messages, hact, rfl⟩ := actAs_eq_some hstep
      obtain ⟨hside, hentries⟩ := TunnelHost.act_entries hact
      obtain ⟨owner, hp⟩ := (hrest p).1
      rcases hentries with ⟨now', heq, -⟩ | ⟨e, t, heq, rfl, hentries⟩
      · cases heq
      · cases heq
        obtain ⟨htoPeer, -, hsent⟩ := t.peerReceived_relays msg arrived now outage sent
        refine hrest.put (TunnelHost.inv_step hp hside) hentries ?_ ?_
        · -- the message counts as delivered now, and no longer as on its way
          intro payload hne
          have hbefore := (hinv (other p)).2 payload hne
          have hnew := hsent payload
          have herase := List.perm_cons_erase hmem
          have hcount := herase.count_eq payload
          rw [List.count_cons] at hcount
          rw [List.count_singleton] at hnew
          rw [other_other] at hbefore
          rw [Net.remain_sent_self]
          simp only [Net.remain_side, Tunnel.arm] at hbefore hnew ⊢
          omega
        · intro payload _
          simp only [Tunnel.arm, htoPeer, List.count_nil]
          exact Nat.zero_le _
    · cases hstep
  | lose p msg =>
    simp only [step] at hstep
    split at hstep
    · obtain rfl := Option.some.inj hstep
      exact hinv.remain p fun payload => count_erase_le _ msg payload
    · cases hstep

/-- Two bridges, each over any number of connections, joined by a channel that may lose and reorder:
no datagram is sent to an emulator for the first time more often than the other emulator has sent
it, and never the heartbeat of the bridges. An emulator whose address was given receives each
datagram at most 81 times for every time it was sent, and one whose address is learned at most
once. -/
theorem deliveries_bounded {config : Fin 2 → ImpairmentConfig} {localTarget : Fin 2 → Option Addr}
    {events : List (Event Addr)} (hrun : Run.run step (start config localTarget) events = some s)
    (p : Fin 2) (payload : List UInt8) :
    (s.side (other p)).sentPayloads.count payload ≤ (s.side p).heardPayloads.count payload ∧
      (s.side (other p)).deliveredPayloads.count payload ≤
        81 * (s.side p).heardPayloads.count payload ∧
      (localTarget (other p) = none → (s.side (other p)).deliveredPayloads.count payload ≤
        (s.side p).heardPayloads.count payload) ∧
      (payload = heartbeat → (s.side (other p)).deliveredPayloads.count payload = 0) := by
  have hinv : Inv (fun p => (localTarget p).isSome) s :=
    Run.run_invariant' (fun _ _ _ hbefore hstep => inv_step hbefore hstep)
      (inv_start config localTarget) hrun
  obtain ⟨owner, hside⟩ := (hinv (other p)).1
  have hcopies := hside.delivered.accounted.count_replayed_le payload
  have hdelivered := count_delivered (s.side (other p)).entries payload
  have hheartbeat : payload = heartbeat → (s.side (other p)).sentPayloads.count payload = 0 := by
    rintro rfl
    rw [List.count_eq_zero]
    intro hmem
    obtain ⟨e, he, hpayload⟩ := List.mem_filterMap.mp hmem
    cases e with
    | sent payload' target time =>
      simp only [Entry.sentPayload, Option.some.injEq] at hpayload
      exact (hside.delivered.sent payload' target time he).2 hpayload
    | connected => cases hpayload
    | heard _ => cases hpayload
    | replayed _ _ _ => cases hpayload
  have hfirst : (s.side (other p)).sentPayloads.count payload ≤
      (s.side p).heardPayloads.count payload := by
    by_cases hne : payload = heartbeat
    · rw [hheartbeat hne]
      exact Nat.zero_le _
    · have := (hinv p).2 payload hne
      omega
  have hlearned : localTarget (other p) = none →
      ((s.side (other p)).entries.filterMap Entry.replayedPayload).count payload = 0 := by
    intro hnone
    rw [List.count_eq_zero]
    intro hmem
    obtain ⟨e, he, hpayload⟩ := List.mem_filterMap.mp hmem
    cases e with
    | replayed payload' target time =>
      have hfixed := (hside.delivered.replayed payload' target time he).2
      simp [hnone] at hfixed
    | connected => cases hpayload
    | heard _ => cases hpayload
    | sent _ _ _ => cases hpayload
  unfold TunnelHost.deliveredPayloads
  unfold TunnelHost.sentPayloads at hheartbeat hfirst ⊢
  refine ⟨hfirst, by omega, fun hnone => ?_, fun hpayload => ?_⟩
  · have := hlearned hnone
    omega
  · have := hheartbeat hpayload
    omega

/-- The emulator of bridge 1 sends before that of bridge 0 listens. -/
def earlyPairRun : List (Event Nat) :=
  [.connect 0 0, .connect 1 0,
    .arm 1 (.localReceived [7] 3 1 1 false true),
    .deliver 0 [7] 2 2 false (some 1),
    .arm 0 (.localReplayTick 100000002 none)]

theorem deliveries_bounded_earlyPairRun :
    ((Run.final step (start (fun _ => {}) fun _ => some 1) earlyPairRun).side
        (other 1)).deliveredPayloads.count [7] = 2 ∧
      ((Run.final step (start (fun _ => {}) fun _ => some 1) earlyPairRun).side
        (other 1)).deliveredPayloads.count [7] ≤
        81 * ((Run.final step (start (fun _ => {}) fun _ => some 1) earlyPairRun).side
          1).heardPayloads.count [7] := by
  have hrun : Run.run step (start (fun _ => {}) fun _ => some 1) earlyPairRun =
      some (Run.final step (start (fun _ => {}) fun _ => some 1) earlyPairRun) :=
    Run.run_eq_final step _ _ (by decide +kernel)
  exact ⟨by decide +kernel, (deliveries_bounded hrun 1 [7]).2.1⟩

end TunnelPair

end Bigstar.Signaling
