import Bigstar.Lib.Run
import Bigstar.Signaling.Proofs.PairedRoomProofs
import Mathlib.Algebra.BigOperators.Group.List.Basic

/-!
# Connection ids on the signaling server

What each event of a room delivers, and the invariant that carries a whole run. Only the first join
of the second role awaits the lobby, when no id is stored yet.
-/

namespace Bigstar.Signaling

namespace SignalingRoom

variable {o o' o'' : SignalingRoom}

/-! ## Counting deliveries -/

/-- A sum with one term that is not 0. -/
theorem sum_le_of_single {l : List Nat} (hnodup : l.Nodup) (f : Nat → Nat) (target : Nat)
    (h : ∀ x, x ≠ target → f x = 0) : (l.map f).sum ≤ f target := by
  induction l with
  | nil => exact Nat.zero_le _
  | cons x l ih =>
    obtain ⟨hnot, hl⟩ := List.nodup_cons.mp hnodup
    rw [List.map_cons, List.sum_cons]
    by_cases heq : x = target
    · have hrest : (l.map f).sum = 0 := by
        refine List.sum_eq_zero ?_
        intro y hy
        obtain ⟨z, hz, rfl⟩ := List.mem_map.mp hy
        exact h z (fun hzx => hnot (heq ▸ hzx ▸ hz))
      rw [hrest, heq]
      exact Nat.le_refl _
    · rw [h x heq, Nat.zero_add]
      exact ih hl

/-- How often `m` waits in the queue. -/
def waiting (o : SignalingRoom) (m : ServerMessage) : Nat :=
  (o.queuedSignals.map QueuedSignalMessage.message).count m

/-- Deliveries are counted socket by socket. -/
theorem deliveries_of_toClient {new : Nat → List ServerMessage}
    (h : ∀ ws, (o'.sockets ws).toClient = (o.sockets ws).toClient ++ new ws) (n : Nat)
    (m : ServerMessage) :
    deliveries o' n m = deliveries o n m + ((List.range n).map fun ws => (new ws).count m).sum := by
  unfold deliveries
  rw [← List.sum_map_add]
  congr 1
  refine List.map_congr_left ?_
  intro ws _
  rw [h, List.count_append]

/-- At most one socket is sent something. -/
theorem deliveries_le_of_single {new : Nat → List ServerMessage}
    (h : ∀ ws, (o'.sockets ws).toClient = (o.sockets ws).toClient ++ new ws) (target : Nat)
    (htarget : ∀ ws, ws ≠ target → new ws = []) (n : Nat) (m : ServerMessage) :
    deliveries o' n m ≤ deliveries o n m + (new target).count m := by
  rw [deliveries_of_toClient h]
  refine Nat.add_le_add_left
    (sum_le_of_single List.nodup_range (fun ws => (new ws).count m) target ?_) _
  intro ws hws
  rw [htarget ws hws]
  rfl

/-- Only what waits is delivered by a flush, and it no longer waits. -/
theorem deliveries_flushQueuedSignals (o : SignalingRoom) (role : Role) (n : Nat)
    (m : ServerMessage) :
    deliveries (o.flushQueuedSignals role) n m + (o.flushQueuedSignals role).waiting m ≤
      deliveries o n m + o.waiting m := by
  have hnew := appends_flushQueuedSignals o role
  cases htarget : o.getSocketByRole role with
  | none =>
    have hflush : o.flushQueuedSignals role = o := by
      unfold flushQueuedSignals
      rw [htarget]
    rw [hflush]
  | some target =>
    have hsingle := deliveries_le_of_single hnew.toClient target (by
      intro ws hws
      rw [if_neg]
      rintro ⟨h, -⟩
      rw [htarget] at h
      exact hws (Option.some.inj h).symm) n m
    have hcount : (if o.getSocketByRole role = some target ∧ (o.sockets target).isOpen then
        o.waitingFor role else []).count m ≤ (o.waitingFor role).count m := by
      split
      · exact Nat.le_refl _
      · exact Nat.zero_le _
    have hqueue : (o.flushQueuedSignals role).queuedSignals =
        o.queuedSignals.filter fun entry => entry.targetRole != role := by
      unfold flushQueuedSignals
      rw [htarget]
    have hsplit : (o.waitingFor role).count m + (o.flushQueuedSignals role).waiting m =
        o.waiting m := by
      unfold waitingFor waiting
      rw [hqueue]
      induction o.queuedSignals with
      | nil => rfl
      | cons entry entries ih =>
        by_cases hrole : entry.targetRole = role
        · rw [List.filter_cons_of_pos (by simpa using hrole),
            List.filter_cons_of_neg (by simpa using hrole), List.map_cons, List.map_cons,
            List.count_cons, List.count_cons, ← ih]
          omega
        · rw [List.filter_cons_of_neg (by simpa using hrole),
            List.filter_cons_of_pos (by simpa using hrole), List.map_cons, List.map_cons,
            List.count_cons, List.count_cons, ← ih]
          omega
    omega

/-! ## Handlers that relay nothing -/

/-- The message holds a candidate. -/
def isCandidate : ServerMessage → Bool
  | .candidate _ _ => true
  | _ => false

/-- No session description with an id is delivered, and other relay messages only from the queue. -/
structure Quiet (o o' : SignalingRoom) : Prop where
  sent : ∀ ws, ∃ new, (o'.sockets ws).toClient = (o.sockets ws).toClient ++ new ∧
    ∀ m ∈ new, ofRecovery m = false
  count : ∀ n m, isCandidate m = true →
    deliveries o' n m + o'.waiting m ≤ deliveries o n m + o.waiting m

namespace Quiet

theorem trans (h : Quiet o o') (h' : Quiet o' o'') : Quiet o o'' where
  sent := by
    intro ws
    obtain ⟨new, hnew, hplain⟩ := h.sent ws
    obtain ⟨new', hnew', hplain'⟩ := h'.sent ws
    refine ⟨new ++ new', by rw [hnew', hnew, List.append_assoc], ?_⟩
    intro m hm
    rcases List.mem_append.mp hm with hm | hm
    · exact hplain m hm
    · exact hplain' m hm
  count := fun n m hm => (h'.count n m hm).trans (h.count n m hm)

theorem of_toClient (hclient : ∀ ws, (o'.sockets ws).toClient = (o.sockets ws).toClient)
    (hwaiting : ∀ m, o'.waiting m ≤ o.waiting m) : Quiet o o' where
  sent := by
    intro ws
    exact ⟨[], by rw [hclient, List.append_nil], fun _ hm => (List.not_mem_nil hm).elim⟩
  count := by
    intro n m _
    have hdeliveries : deliveries o' n m = deliveries o n m := by
      unfold deliveries
      simp only [hclient]
    have hle := hwaiting m
    omega

/-- Plain messages do not count. -/
theorem of_appends {new : Nat → List ServerMessage} (h : Appends new o o')
    (hqueue : o'.queuedSignals = o.queuedSignals)
    (hplain : ∀ ws, ∀ m ∈ new ws, ofRecovery m = false ∧ isCandidate m = false) : Quiet o o' where
  sent := fun ws => ⟨new ws, h.toClient ws, fun m hm => (hplain ws m hm).1⟩
  count := by
    intro n m hm
    have hzero : ((List.range n).map fun ws => (new ws).count m).sum = 0 := by
      refine List.sum_eq_zero ?_
      intro k hk
      obtain ⟨ws, -, rfl⟩ := List.mem_map.mp hk
      refine List.count_eq_zero.mpr ?_
      intro hmem
      rw [(hplain ws m hmem).2] at hm
      cases hm
    rw [deliveries_of_toClient h.toClient, hzero]
    unfold waiting
    rw [hqueue]
    omega

theorem refl (o : SignalingRoom) : Quiet o o := of_toClient (fun _ => rfl) (fun _ => Nat.le_refl _)

/-- What has waited is delivered, no more often than it waited. -/
theorem flush (h : ∀ entry ∈ o.queuedSignals, ofRecovery entry.message = false) (role : Role) :
    Quiet o (o.flushQueuedSignals role) where
  sent := by
    intro ws
    refine ⟨_, (appends_flushQueuedSignals o role).toClient ws, ?_⟩
    intro m hm
    split at hm
    · obtain ⟨entry, hentry, rfl⟩ := List.mem_map.mp hm
      exact h entry (List.mem_filter.mp hentry).1
    · cases hm
  count := fun n m _ => deliveries_flushQueuedSignals o role n m

end Quiet

/-- A connection is started without a delivery. -/
theorem quiet_startConnection (h : o.Base) {expectedId : Option Nat}
    (hexpected : ∀ id, expectedId = some id → id = o.current) :
    Quiet o (o.startConnection expectedId) := by
  have hnext : Quiet o o.nextId := by
    refine Quiet.of_toClient (fun _ => rfl) ?_
    intro m
    exact (List.filter_sublist.map _).count_le m
  refine hnext.trans ?_
  refine Quiet.of_appends (appends_startConnection h hexpected)
    (queuedSignals_startConnection hexpected) ?_
  intro ws m hm
  split at hm
  · rw [List.mem_singleton.mp hm]
    exact ⟨rfl, rfl⟩
  · cases hm

/-- Nothing of an old connection waits behind a new one. -/
theorem not_ofRecovery_startConnection {expectedId : Option Nat}
    (hexpected : ∀ id, expectedId = some id → id = o.current) :
    ∀ entry ∈ (o.startConnection expectedId).queuedSignals, ofRecovery entry.message = false := by
  intro entry hentry
  rw [queuedSignals_startConnection hexpected] at hentry
  simpa using (List.mem_filter.mp hentry).2

/-- No id is asked for. -/
theorem no_expectedId (o : SignalingRoom) : ∀ id, (none : Option Nat) = some id → id = o.current :=
  fun _ h => nomatch h

/-- Telling who is there delivers nothing. -/
theorem quiet_fetchConnected (h : o.Base) (role : Role) : Quiet o (o.fetchConnected role) :=
  (quiet_startConnection h o.no_expectedId).trans
    (Quiet.flush (not_ofRecovery_startConnection o.no_expectedId) role)

/-- It keeps the room in order. -/
theorem base_fetchConnected (h : o.Base) (role : Role) : (o.fetchConnected role).Base :=
  (base_startConnection h o.no_expectedId).flush role

theorem ready_fetchConnected (h : o.Base) (role : Role) : (o.fetchConnected role).Ready :=
  (ready_startConnection h o.no_expectedId).flush (base_startConnection h o.no_expectedId) role

/-! ## Closing -/

/-- A socket that goes leaves the room in order. -/
theorem Base.dropSocket (h : o.Base) (ws : Nat) : (o.dropSocket ws).Base where
  toOnePerRole := h.toOnePerRole.dropSocket ws
  attached := by
    intro ws' hws' a ha
    obtain ⟨hmem, hne⟩ := mem_dropSocket hws'
    rw [sockets_dropSocket_of_ne o hne] at ha ⊢
    exact h.attached ws' hmem a ha
  queue := h.queue
  relays := h.relays

/-- Who is paired without a socket was so with it. -/
theorem paired_of_dropSocket {ws : Nat} (h : (o.dropSocket ws).Paired) : o.Paired := by
  have hrole : ∀ role, ((o.dropSocket ws).getSocketByRole role).isSome →
      (o.getSocketByRole role).isSome := by
    intro role hsome
    obtain ⟨ws', hws'⟩ := Option.isSome_iff_exists.mp hsome
    obtain ⟨hmem, a, ha, rfl⟩ := getSocketByRole_eq_some hws'
    obtain ⟨hmem, hne⟩ := mem_dropSocket hmem
    rw [sockets_dropSocket_of_ne o hne] at ha
    exact isSome_getSocketByRole hmem ha
  exact ⟨hrole _ h.1, hrole _ h.2⟩

theorem Ready.dropSocket (h : o.Ready) (ws : Nat) : (o.dropSocket ws).Ready := by
  intro hpaired id hid ws' hws' hattached
  obtain ⟨hmem, hne⟩ := mem_dropSocket hws'
  rw [sockets_dropSocket_of_ne o hne] at hattached ⊢
  exact h (paired_of_dropSocket hpaired) id hid ws' hmem hattached

/-- A socket that goes is delivered nothing. -/
theorem quiet_dropSocket (o : SignalingRoom) (ws : Nat) : Quiet o (o.dropSocket ws) := by
  refine Quiet.of_toClient ?_ (fun _ => Nat.le_refl _)
  intro ws'
  by_cases heq : ws' = ws
  · subst heq
    have hself : (o.dropSocket ws').sockets ws' = { o.sockets ws' with isOpen := false } :=
      sockets_setSocket_self o ws' _
    rw [hself]
  · rw [sockets_dropSocket_of_ne o heq]

/-- A closed socket leaves the room in order. -/
theorem Base.webSocketClose (h : o.Base) (ws : Nat) : (o.webSocketClose ws).Base := by
  obtain ⟨new, hnew, hqueue, -⟩ := webSocketClose_spec h.nodup ws
  exact (h.dropSocket ws).appends hnew (fun entry hentry => hqueue ▸ hentry)

theorem Ready.webSocketClose (h : o.Ready) (hbase : o.Base) (ws : Nat) :
    (o.webSocketClose ws).Ready := by
  obtain ⟨new, hnew, -, hleft⟩ := webSocketClose_spec hbase.nodup ws
  refine (h.dropSocket ws).appends hnew ?_
  intro ws' m hm
  obtain ⟨role, rfl⟩ := hleft ws' m hm
  rfl

theorem quiet_webSocketClose (h : o.Base) (ws : Nat) : Quiet o (o.webSocketClose ws) := by
  obtain ⟨new, hnew, hqueue, hleft⟩ := webSocketClose_spec h.nodup ws
  refine (quiet_dropSocket o ws).trans (Quiet.of_appends hnew hqueue ?_)
  intro ws' m hm
  obtain ⟨role, rfl⟩ := hleft ws' m hm
  exact ⟨rfl, rfl⟩

/-! ## Joining -/

/-- A role that is free, for a socket that is new. -/
structure Joins (o : SignalingRoom) (server : Nat) (a : Attachment) : Prop where
  base : o.Base
  new : server ∉ o.webSockets
  isOpen : (o.sockets server).isOpen = true
  recovery : a.recovery = true
  free : o.getSocketByRole a.role = none

namespace Joins

variable {server : Nat} {a : Attachment}

theorem attach (h : Joins o server a) : (o.attach server a).Base :=
  h.base.attach h.new h.isOpen h.recovery h.free

/-- A greeting leaves the queue alone. -/
theorem queuedSignals_greet (o : SignalingRoom) (server : Nat) (a : Attachment) :
    (o.greet server a).queuedSignals = o.queuedSignals := by
  unfold greet
  rw [queuedSignals_broadcast, queuedSignals_send]
  rfl

theorem greet (h : Joins o server a) : (o.greet server a).Base := by
  obtain ⟨new, hnew, -⟩ := appends_greet h.attach.nodup
  refine h.attach.appends hnew ?_
  intro entry hentry
  rw [queuedSignals_greet] at hentry
  exact hentry

/-- It starts no connection. -/
theorem connectionId_greet (h : Joins o server a) :
    (o.greet server a).connectionId = o.connectionId := by
  obtain ⟨new, hnew, -⟩ := appends_greet h.attach.nodup
  exact hnew.connectionId

theorem quiet_greet (h : Joins o server a) : Quiet o (o.greet server a) := by
  have hattach : Quiet o (o.attach server a) := by
    refine Quiet.of_toClient ?_ (fun _ => Nat.le_refl _)
    intro ws
    by_cases heq : ws = server
    · subst heq
      have hself : (o.attach ws a).sockets ws = { o.sockets ws with attachment := some a } :=
        sockets_setSocket_self o ws _
      rw [hself]
    · rw [sockets_attach_of_ne o a heq]
  obtain ⟨new, hnew, hgreets⟩ := appends_greet h.attach.nodup
  refine hattach.trans (Quiet.of_appends hnew (queuedSignals_greet o server a) ?_)
  intro ws m hm
  rcases hgreets ws m hm with rfl | rfl
  · exact ⟨rfl, rfl⟩
  · exact ⟨rfl, rfl⟩

/-- The socket has its role. -/
theorem socket_greet (h : Joins o server a) :
    (o.greet server a).getSocketByRole a.role = some server := by
  obtain ⟨new, hnew, -⟩ := appends_greet h.attach.nodup
  rw [hnew.getSocketByRole]
  exact h.attach.socket_eq (List.mem_append_right _ (List.mem_singleton_self server))
    (attachment_attach_self o server a)

/-- If the peer has no socket after the join, it had none before. -/
theorem peer_of_not_paired (h : Joins o server a) (hpaired : ¬ (o.greet server a).Paired) :
    o.getSocketByRole (peerRole a.role) = none := by
  refine getSocketByRole_eq_none.mpr ?_
  intro ws hws b hb hrole
  obtain ⟨new, hnew, -⟩ := appends_greet h.attach.nodup
  have hne : ws ≠ server := fun heq => h.new (heq ▸ hws)
  have hpeer : ((o.greet server a).getSocketByRole (peerRole a.role)).isSome := by
    rw [hnew.getSocketByRole, ← hrole]
    refine isSome_getSocketByRole (List.mem_append_left _ hws) ?_
    rw [sockets_attach_of_ne o a hne]
    exact hb
  exact hpaired (paired_of (by rw [h.socket_greet]; rfl) hpeer)

end Joins

/-- A session description with an id was delivered after its own id was announced on the socket, or
`alone` explains it; other relay messages are delivered no more often than they were handed in. -/
structure Relayed (o o' : SignalingRoom) (handedIn : List ServerMessage)
    (alone : Nat → ServerMessage → Prop) : Prop where
  sdp : ∀ ws before sender kind sdp id, Delivers o o' ws before (.sdp sender kind sdp (some id)) →
    o'.connectionId = some id ∧ kind = sender ∧
      (lastReady before = some id ∨ alone ws (.sdp sender kind sdp (some id)))
  count : ∀ n m, isCandidate m = true →
    deliveries o' n m + o'.waiting m ≤ deliveries o n m + o.waiting m + handedIn.count m

/-- A message among those that were delivered in a step. -/
theorem exists_split_of_delivers {ws : Nat} {before new : List ServerMessage} {m : ServerMessage}
    (h : Delivers o o' ws before m)
    (hnew : (o'.sockets ws).toClient = (o.sockets ws).toClient ++ new) :
    ∃ first rest, before = (o.sockets ws).toClient ++ first ∧ new = first ++ m :: rest := by
  obtain ⟨hlength, after, hafter⟩ := h
  rw [hafter] at hnew
  rcases List.append_eq_append_iff.mp hnew with
    ⟨between, hclient, hrest⟩ | ⟨between, hbefore, hrest⟩
  · have hnil : between = [] := by
      have hsum := congrArg List.length hclient
      rw [List.length_append] at hsum
      exact List.eq_nil_of_length_eq_zero (by omega)
    subst hnil
    rw [List.append_nil] at hclient
    exact ⟨[], after, by rw [hclient, List.append_nil], hrest.symm⟩
  · exact ⟨between, after, hbefore, hrest⟩

/-- Where nothing is delivered, nothing is handed in twice. -/
theorem Quiet.relayed {alone : Nat → ServerMessage → Prop} (h : Quiet o o') :
    Relayed o o' [] alone where
  sdp := by
    intro ws before sender kind sdp id hdelivers
    obtain ⟨new, hnew, hplain⟩ := h.sent ws
    obtain ⟨first, rest, -, hsplit⟩ := exists_split_of_delivers hdelivers hnew
    have hrecovery := hplain _ (hsplit ▸ List.mem_append_right first List.mem_cons_self)
    rw [ofRecovery_sdp] at hrecovery
    cases hrecovery
  count := fun n m hm => h.count n m hm

/-- A participant that joins without its peer is sent what waits for it. -/
theorem Joins.relayed_flush {server : Nat} {a : Attachment} (h : Joins o server a) :
    Relayed o ((o.greet server a).flushQueuedSignals a.role) []
      (fun ws m => ws = server ∧ ∃ entry ∈ o.queuedSignals,
        entry.message = m ∧ entry.targetRole = a.role) where
  sdp := by
    intro ws before sender kind sdp id hdelivers
    obtain ⟨new, hnew, hplain⟩ := h.quiet_greet.sent ws
    have hflush := appends_flushQueuedSignals (o.greet server a) a.role
    have htotal := hflush.toClient ws
    rw [hnew, List.append_assoc] at htotal
    obtain ⟨first, rest, -, hsplit⟩ := exists_split_of_delivers hdelivers htotal
    have hmem : ServerMessage.sdp sender kind sdp (some id) ∈ first ++
        .sdp sender kind sdp (some id) :: rest :=
      List.mem_append_right first List.mem_cons_self
    rw [← hsplit] at hmem
    rcases List.mem_append.mp hmem with hmem | hmem
    · have hrecovery := hplain _ hmem
      rw [ofRecovery_sdp] at hrecovery
      cases hrecovery
    · split at hmem
      · next hsocket =>
        obtain ⟨entry, hentry, hmessage⟩ := List.mem_map.mp hmem
        obtain ⟨hqueued, hrole⟩ := List.mem_filter.mp hentry
        obtain ⟨hid, hkind⟩ := h.greet.queue entry hqueued sender kind sdp id hmessage
        rw [h.socket_greet] at hsocket
        rw [Joins.queuedSignals_greet] at hqueued
        refine ⟨hflush.connectionId ▸ hid, hkind,
          Or.inr ⟨(Option.some.inj hsocket.1).symm, entry, hqueued, ?_⟩⟩
        exact ⟨hmessage, of_decide_eq_true hrole⟩
      · cases hmem
  count := fun n m hm =>
    (deliveries_flushQueuedSignals (o.greet server a) a.role n m).trans (h.quiet_greet.count n m hm)

theorem paired_of_replace {existing : Nat} (h : (o.replace existing).Paired) : o.Paired := by
  have hrole : ∀ role, ((o.replace existing).getSocketByRole role).isSome →
      (o.getSocketByRole role).isSome := by
    intro role hsome
    obtain ⟨ws, hws⟩ := Option.isSome_iff_exists.mp hsome
    obtain ⟨hmem, a, ha, rfl⟩ := getSocketByRole_eq_some hws
    rw [sockets_replace_of_ne o (ne_of_attachment_replace ha)] at ha
    exact isSome_getSocketByRole hmem ha
  exact ⟨hrole _ h.1, hrole _ h.2⟩

theorem Ready.replace (h : o.Ready) (existing : Nat) : (o.replace existing).Ready := by
  intro hpaired id hid ws hws hattached
  obtain ⟨a, ha⟩ := Option.isSome_iff_exists.mp hattached
  rw [sockets_replace_of_ne o (ne_of_attachment_replace ha)] at hattached ⊢
  exact h (paired_of_replace hpaired) id hid ws hws hattached

/-- A replaced socket is delivered nothing. -/
theorem quiet_replace (o : SignalingRoom) (existing : Nat) : Quiet o (o.replace existing) := by
  refine Quiet.of_toClient ?_ (fun _ => Nat.le_refl _)
  intro ws
  by_cases heq : ws = existing
  · subst heq
    unfold SignalingRoom.replace close
    rw [sockets_setSocket_self, sockets_setSocket_self]
  · rw [sockets_replace_of_ne o heq]

/-- Closing a socket without an attachment is what replacing it again would do. -/
theorem close_eq_replace {ws : Nat} (h : (o.sockets ws).attachment = none) :
    o.close ws = o.replace ws := by
  have hsame : o.setSocket ws { o.sockets ws with attachment := none } = o := by
    unfold setSocket
    rw [← h, Function.update_eq_self]
  unfold SignalingRoom.replace
  rw [hsame]

/-! ## Messages -/

section Message

variable {ws : Nat} {a : Attachment} {message : ServerMessage}

/-- A relayed message leaves the room in order. -/
theorem base_relay (h : o.Base) (role : Role) (hready : message.readyId = none)
    (hsdp : ∀ sender kind sdp id, message = .sdp sender kind sdp (some id) →
      o.connectionId = some id ∧ kind = sender) : (o.relay role message).Base := by
  unfold relay
  split
  · refine ⟨⟨h.nodup, h.unique⟩, h.attached, ?_, ?_⟩
    · intro entry hentry
      rcases List.mem_append.mp hentry with hentry | hentry
      · exact h.queue entry hentry
      · rw [List.mem_singleton.mp hentry]
        exact hsdp
    · intro entry hentry
      rcases List.mem_append.mp hentry with hentry | hentry
      · exact h.relays entry hentry
      · rw [List.mem_singleton.mp hentry]
        exact hready
  · next target _ =>
    exact h.appends (appends_send o target message)
      (fun entry hentry => queuedSignals_send o target message ▸ hentry)

theorem ready_relay (h : o.Ready) (role : Role) (hready : message.readyId = none) :
    (o.relay role message).Ready := by
  unfold relay
  split
  · exact h
  · next target _ =>
    refine h.appends (appends_send o target message) ?_
    intro ws m hm
    split at hm
    · rw [List.mem_singleton.mp hm]
      exact hready
    · cases hm

/-- It starts no connection. -/
theorem connectionId_relay (o : SignalingRoom) (role : Role) (message : ServerMessage) :
    (o.relay role message).connectionId = o.connectionId := by
  unfold relay
  split
  · rfl
  · exact connectionId_send o _ message

theorem paired_of_relay {role : Role} (h : (o.relay role message).Paired) : o.Paired := by
  unfold relay at h
  split at h
  · exact h
  · exact (appends_send o _ message).paired.mp h

/-- A relayed message is delivered or waits once. -/
theorem relayed_relay (hready : o.Ready) (hws : ws ∈ o.webSockets)
    (ha : (o.sockets ws).attachment = some a)
    (hsdp : ∀ sender kind sdp id, message = .sdp sender kind sdp (some id) →
      o.connectionId = some id ∧ kind = sender) {handedIn : List ServerMessage}
    (hhanded : ∀ m, isCandidate m = true → [message].count m ≤ handedIn.count m) :
    Relayed o (o.relay a.role message) handedIn (fun _ _ => False) := by
  unfold relay
  cases htarget : o.getSocketByRole (peerRole a.role) with
  | none =>
    refine ⟨?_, ?_⟩
    · intro ws' before sender kind sdp id hdelivers
      obtain ⟨first, rest, -, hsplit⟩ := exists_split_of_delivers hdelivers (List.append_nil _).symm
      exact absurd hsplit (by simp)
    · intro n m hm
      have hle := hhanded m hm
      have hwaiting : (o.queueSignal (peerRole a.role) message).waiting m =
          o.waiting m + [message].count m := by
        unfold waiting queueSignal
        rw [List.map_append, List.count_append]
        rfl
      have hsame : deliveries (o.queueSignal (peerRole a.role) message) n m = deliveries o n m :=
        rfl
      dsimp only
      omega
  | some target =>
    have hnew := appends_send o target message
    obtain ⟨htargetMem, b, hb, -⟩ := getSocketByRole_eq_some htarget
    have hpaired : o.Paired := paired_of (isSome_getSocketByRole hws ha) (by rw [htarget]; rfl)
    refine ⟨?_, ?_⟩
    · intro ws' before sender kind sdp id hdelivers
      obtain ⟨first, rest, hbefore, hsplit⟩ :=
        exists_split_of_delivers hdelivers (hnew.toClient ws')
      split at hsplit
      · next hsocket =>
        obtain ⟨hfirst, hmessage⟩ : first = [] ∧ message = .sdp sender kind sdp (some id) := by
          cases first with
          | nil => exact ⟨rfl, (List.cons.inj hsplit).1⟩
          | cons x xs => exact absurd (congrArg List.length hsplit) (by simp)
        obtain ⟨hid, hkind⟩ := hsdp sender kind sdp id hmessage
        rw [hfirst, List.append_nil] at hbefore
        refine ⟨(connectionId_send o target message).trans hid, hkind, Or.inl ?_⟩
        rw [hbefore, hsocket.1]
        exact hready hpaired id hid target htargetMem (by rw [hb]; rfl)
      · exact absurd hsplit (by simp)
    · intro n m hm
      have hle := hhanded m hm
      have hdeliveries := deliveries_le_of_single hnew.toClient target (by
        intro ws' hne
        rw [if_neg (fun h => hne h.1)]) n m
      have hcount : (if target = target ∧ (o.sockets target).isOpen then
        [message] else []).count m ≤
          [message].count m := by
        split
        · exact Nat.le_refl _
        · exact Nat.zero_le _
      have hwaiting : (o.send target message).waiting m = o.waiting m := by
        unfold waiting
        rw [queuedSignals_send]
      dsimp only
      omega

/-- What a message to the room comes to. -/
structure Handled (o o' : SignalingRoom) (ws : Nat) (message : ClientMessage) : Prop where
  base : o'.Base
  ready : o'.Ready
  relayed : Relayed o o' (RoomRun.relayed o ws message) (fun _ _ => False)
  id : o'.connectionId = o.connectionId ∨
    ∃ id, message = .restart id ∧ o.current = id ∧ o'.connectionId = some (id + 1) ∧ o.Paired
  paired : o'.Paired → o.Paired

theorem Quiet.handed {handedIn : List ServerMessage} {alone : Nat → ServerMessage → Prop}
    (h : Quiet o o') : Relayed o o' handedIn alone where
  sdp := h.relayed.sdp
  count := fun n m hm => (h.count n m hm).trans (Nat.le_add_right _ _)

/-- A restart starts the connection that was asked for, or none. -/
theorem handled_restart (h : o.Base) (hready : o.Ready)
    (ha : (o.sockets ws).attachment = some a) (id : Nat) :
    Handled o (o.webSocketMessage ws (.restart id)) ws (.restart id) := by
  have hself : Handled o o ws (.restart id) :=
    ⟨h, hready, (Quiet.refl o).handed, Or.inl rfl, fun h => h⟩
  unfold webSocketMessage
  rw [ha]
  dsimp only
  split
  · exact hself
  split
  · next hid =>
    have hexpected : ∀ id', some id = some id' → id' = o.current := by
      rintro id' ⟨⟩
      exact hid.1
    refine ⟨base_startConnection h hexpected, ready_startConnection h hexpected,
      (quiet_startConnection h hexpected).handed, Or.inr ⟨id, rfl, hid.1.symm, ?_, hid.2⟩,
      fun _ => hid.2⟩
    rw [(appends_startConnection h hexpected).connectionId]
    exact congrArg (fun k => some (k + 1)) hid.1.symm
  split
  · next hlt =>
    have hcurrent : o.connectionId = some (o.connectionId.getD 0) := by
      cases hid : o.connectionId with
      | none =>
        rw [hid] at hlt
        exact absurd hlt (Nat.not_lt_zero id)
      | some k => rfl
    have hnew := appends_send o ws (.readyForOffer (o.connectionId.getD 0))
    refine ⟨h.appends hnew (fun entry hentry => queuedSignals_send o ws _ ▸ hentry), ?_, ?_,
      Or.inl (connectionId_send o ws _), hnew.paired.mp⟩
    · intro hpaired k hk ws' hws' hattached
      rw [hnew.connectionId, hcurrent] at hk
      rw [hnew.webSockets] at hws'
      rw [hnew.attachment] at hattached
      rw [hnew.toClient]
      split
      · rw [lastReady_concat]
        exact hk
      · rw [List.append_nil]
        exact hready (hnew.paired.mp hpaired) k (hcurrent.trans hk) ws' hws' hattached
    · refine (Quiet.of_appends hnew (queuedSignals_send o ws _) ?_).handed
      intro ws' m hm
      split at hm
      · rw [List.mem_singleton.mp hm]
        exact ⟨rfl, rfl⟩
      · cases hm
  · exact hself

/-- Whatever a client says is handled in one of these ways. -/
theorem handled_webSocketMessage (h : o.Base) (hready : o.Ready) (hws : ws ∈ o.webSockets)
    (message : ClientMessage) : Handled o (o.webSocketMessage ws message) ws message := by
  cases ha : (o.sockets ws).attachment with
  | none =>
    have hclose : o.webSocketMessage ws message = o.replace ws := by
      unfold webSocketMessage
      rw [ha]
      exact close_eq_replace ha
    rw [hclose]
    exact ⟨h.replace ws, hready.replace ws, (quiet_replace o ws).handed,
      Or.inl rfl, paired_of_replace⟩
  | some a =>
    cases message with
    | ping =>
      have hpong : o.webSocketMessage ws .ping = o.send ws .pong := by
        unfold webSocketMessage
        rw [ha]
      have hnew := appends_send o ws .pong
      rw [hpong]
      refine ⟨h.appends hnew (fun entry hentry => queuedSignals_send o ws _ ▸ hentry),
        hready.appends hnew ?_,
        (Quiet.of_appends hnew (queuedSignals_send o ws _) ?_).handed,
        Or.inl (connectionId_send o ws _), hnew.paired.mp⟩
      · intro ws' m hm
        split at hm
        · rw [List.mem_singleton.mp hm]
          rfl
        · cases hm
      · intro ws' m hm
        split at hm
        · rw [List.mem_singleton.mp hm]
          exact ⟨rfl, rfl⟩
        · cases hm
    | restart id => exact handled_restart h hready ha id
    | sdp kind sdp id =>
      have hrecovery := (h.attached ws hws a ha).2
      unfold webSocketMessage
      rw [ha]
      dsimp only
      split
      · exact ⟨h, hready, (Quiet.refl o).handed, Or.inl rfl, fun h => h⟩
      · next hcheck =>
        have hsdp : ∀ sender kind' sdp' id', ServerMessage.sdp a.role kind sdp id =
            .sdp sender kind' sdp' (some id') → o.connectionId = some id' ∧ kind' = sender := by
          rintro sender kind' sdp' id' ⟨⟩
          refine ⟨?_, ?_⟩
          · by_contra hne
            exact hcheck ⟨hrecovery, Or.inl fun h => hne h.symm⟩
          · by_contra hne
            exact hcheck ⟨hrecovery, Or.inr hne⟩
        refine ⟨base_relay h a.role rfl hsdp, ready_relay hready a.role rfl,
          relayed_relay hready hws ha hsdp ?_, Or.inl (connectionId_relay o a.role _),
          paired_of_relay⟩
        intro m hm
        have hne : m ≠ .sdp a.role kind sdp id := by
          rintro rfl
          cases hm
        rw [List.count_eq_zero.mpr (fun hmem => hne (List.mem_singleton.mp hmem))]
        exact Nat.zero_le _
    | candidate candidate =>
      unfold webSocketMessage
      rw [ha]
      dsimp only
      have hsdp : ∀ sender kind sdp id, ServerMessage.candidate a.role candidate =
          .sdp sender kind sdp (some id) → o.connectionId = some id ∧ kind = sender :=
        fun _ _ _ _ h => nomatch h
      have hrelayed : RoomRun.relayed o ws (.candidate candidate) =
          [.candidate a.role candidate] := by
        unfold RoomRun.relayed
        dsimp only
        rw [ha]
      refine ⟨base_relay h a.role rfl hsdp, ready_relay hready a.role rfl, ?_,
        Or.inl (connectionId_relay o a.role _), paired_of_relay⟩
      rw [hrelayed]
      exact relayed_relay hready hws ha hsdp (fun _ _ => Nat.le_refl _)

end Message

end SignalingRoom

end Bigstar.Signaling
