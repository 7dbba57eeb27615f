import Bigstar.Signaling.ConnectionIds
import Bigstar.Signaling.Proofs.RoomSocketProofs

/-!
# The sockets of a pair

In a room of two participants that use recovery, every socket of a pair was told the stored id last,
and what waits in the queue carries no other id than the stored one.
-/

namespace Bigstar.Signaling.SignalingRoom

variable {o o' o'' : SignalingRoom}

/-! ## Sockets by role -/

/-- The socket of a role is in the room and has the role. -/
theorem getSocketByRole_eq_some {role : Role} {ws : Nat} (h : o.getSocketByRole role = some ws) :
    ws ∈ o.webSockets ∧ ∃ a, (o.sockets ws).attachment = some a ∧ a.role = role := by
  have hmem := List.mem_of_find?_eq_some h
  have hrole := List.find?_some h
  refine ⟨hmem, ?_⟩
  exact Option.map_eq_some_iff.mp (of_decide_eq_true hrole)

/-- No socket of the room has the role. -/
theorem getSocketByRole_eq_none {role : Role} :
    o.getSocketByRole role = none ↔
      ∀ ws ∈ o.webSockets, ∀ a, (o.sockets ws).attachment = some a → a.role ≠ role := by
  unfold getSocketByRole
  rw [List.find?_eq_none]
  refine forall_congr' fun ws => imp_congr_right fun _ => ?_
  rw [decide_eq_true_iff, Option.map_eq_some_iff]
  constructor
  · intro h a ha hrole
    exact h ⟨a, ha, hrole⟩
  · rintro h ⟨a, ha, hrole⟩
    exact h a ha hrole

theorem isSome_getSocketByRole {ws : Nat} {a : Attachment} (hws : ws ∈ o.webSockets)
    (ha : (o.sockets ws).attachment = some a) : (o.getSocketByRole a.role).isSome := by
  rw [Option.isSome_iff_ne_none]
  intro hnone
  exact getSocketByRole_eq_none.mp hnone ws hws a ha rfl

/-- Both roles have a socket. -/
def Paired (o : SignalingRoom) : Prop :=
  (o.getSocketByRole .offer).isSome ∧ (o.getSocketByRole .answer).isSome

theorem Paired.isSome (h : o.Paired) (role : Role) : (o.getSocketByRole role).isSome := by
  cases role with
  | offer => exact h.1
  | answer => exact h.2

/-- A role and its peer are all there is. -/
theorem paired_of {role : Role} (h : (o.getSocketByRole role).isSome)
    (h' : (o.getSocketByRole (peerRole role)).isSome) : o.Paired := by
  cases role with
  | offer => exact ⟨h, h'⟩
  | answer => exact ⟨h', h⟩

/-! ## The invariant of the sockets -/

/-- A role has at most one socket. -/
structure OnePerRole (o : SignalingRoom) : Prop where
  nodup : o.webSockets.Nodup
  unique : ∀ ws ∈ o.webSockets, ∀ ws' ∈ o.webSockets, ∀ a a', (o.sockets ws).attachment = some a →
    (o.sockets ws').attachment = some a' → a.role = a'.role → ws = ws'

/-- Sockets of participants are open and use recovery, and the session descriptions in the queue
carry the stored id and the role of their sender. -/
structure Base (o : SignalingRoom) : Prop extends OnePerRole o where
  attached : ∀ ws ∈ o.webSockets, ∀ a, (o.sockets ws).attachment = some a →
    (o.sockets ws).isOpen ∧ a.recovery = true
  queue : ∀ entry ∈ o.queuedSignals, ∀ sender kind sdp id, entry.message =
    .sdp sender kind sdp (some id) →
    o.connectionId = some id ∧ kind = sender
  relays : ∀ entry ∈ o.queuedSignals, entry.message.readyId = none

/-- The sockets of a pair were told the stored id last. -/
def Ready (o : SignalingRoom) : Prop :=
  o.Paired → ∀ id, o.connectionId = some id →
    ∀ ws ∈ o.webSockets, (o.sockets ws).attachment.isSome →
    lastReady (o.sockets ws).toClient = some id

/-- A socket of the room is the one of its role. -/
theorem OnePerRole.socket_eq (h : o.OnePerRole) {ws : Nat} {a : Attachment}
    (hws : ws ∈ o.webSockets)
    (ha : (o.sockets ws).attachment = some a) : o.getSocketByRole a.role = some ws := by
  obtain ⟨ws', hws'⟩ := Option.isSome_iff_exists.mp (isSome_getSocketByRole hws ha)
  obtain ⟨hmem, a', ha', hrole⟩ := getSocketByRole_eq_some hws'
  rw [hws', h.unique ws hws ws' hmem a a' ha ha' hrole.symm]

/-- The room has the same sockets with the same attachments. -/
structure Keeps (o o' : SignalingRoom) : Prop where
  attachment : ∀ ws, (o'.sockets ws).attachment = (o.sockets ws).attachment
  webSockets : o'.webSockets = o.webSockets

/-- Sending messages leaves the sockets as they are. -/
theorem Appends.keeps {new : Nat → List ServerMessage} (h : Appends new o o') : Keeps o o' :=
  ⟨h.attachment, h.webSockets⟩

theorem OnePerRole.keeps (h : o.OnePerRole) (hkeeps : Keeps o o') : o'.OnePerRole where
  nodup := hkeeps.webSockets ▸ h.nodup
  unique := by
    intro ws hws ws' hws' a a' ha ha'
    rw [hkeeps.webSockets] at hws hws'
    rw [hkeeps.attachment] at ha ha'
    exact h.unique ws hws ws' hws' a a' ha ha'

/-- Sending messages keeps the room in order. -/
theorem Base.appends {new : Nat → List ServerMessage} (h : o.Base) (hnew : Appends new o o')
    (hqueue : ∀ entry ∈ o'.queuedSignals, entry ∈ o.queuedSignals) : o'.Base where
  toOnePerRole := h.toOnePerRole.keeps hnew.keeps
  attached := by
    intro ws hws a ha
    rw [hnew.webSockets] at hws
    rw [hnew.attachment] at ha
    rw [hnew.isOpen]
    exact h.attached ws hws a ha
  queue := by
    intro entry hentry
    rw [hnew.connectionId]
    exact h.queue entry (hqueue entry hentry)
  relays := fun entry hentry => h.relays entry (hqueue entry hentry)

/-- Sending messages pairs and parts nobody. -/
theorem Appends.paired {new : Nat → List ServerMessage} (hnew : Appends new o o') :
    o'.Paired ↔ o.Paired := by
  unfold Paired
  rw [hnew.getSocketByRole, hnew.getSocketByRole]

/-- Other messages do not count. -/
theorem lastReady_append (before : List ServerMessage) {new : List ServerMessage}
    (h : ∀ m ∈ new, m.readyId = none) : lastReady (before ++ new) = lastReady before := by
  unfold lastReady
  rw [List.filterMap_append, List.filterMap_eq_nil_iff.mpr h, List.append_nil]

theorem lastReady_concat (before : List ServerMessage) (id : Nat) :
    lastReady (before ++ [.readyForOffer id]) = some id := by
  unfold lastReady
  rw [List.filterMap_append]
  exact List.getLast?_concat

/-- Other messages leave the two sockets with the same connection. -/
theorem Ready.appends {new : Nat → List ServerMessage} (h : o.Ready) (hnew : Appends new o o')
    (hready : ∀ ws, ∀ m ∈ new ws, m.readyId = none) : o'.Ready := by
  intro hpaired id hid ws hws hattached
  rw [hnew.connectionId] at hid
  rw [hnew.webSockets] at hws
  rw [hnew.attachment] at hattached
  rw [hnew.toClient, lastReady_append _ (hready ws)]
  exact h (hnew.paired.mp hpaired) id hid ws hws hattached

/-- Without an id, nobody had to be told. -/
theorem ready_of_none (h : o.connectionId = none) : o.Ready := by
  intro _ id hid
  rw [h] at hid
  cases hid

/-- There is nothing to say of a room that is not paired. -/
theorem ready_of_not_paired (h : ¬ o.Paired) : o.Ready := fun hpaired => absurd hpaired h

/-- The room with the next id, before it is announced. -/
def nextId (o : SignalingRoom) : SignalingRoom :=
  { o with
    connectionId := some (o.current + 1)
    queuedSignals := o.queuedSignals.filter fun entry => !ofRecovery entry.message }

theorem ofRecovery_sdp (sender kind : Role) (sdp : String) (id : Nat) :
    ofRecovery (.sdp sender kind sdp (some id)) = true := rfl

theorem Base.nextId (h : o.Base) : o.nextId.Base where
  nodup := h.nodup
  unique := h.unique
  attached := h.attached
  queue := by
    intro entry hentry sender kind sdp id hmessage
    have hplain := (List.mem_filter.mp hentry).2
    rw [hmessage, ofRecovery_sdp] at hplain
    cases hplain
  relays := fun entry hentry => h.relays entry (List.mem_filter.mp hentry).1

/-- Both sockets are told the new id. -/
theorem appends_startConnection (h : o.Base) {expectedId : Option Nat}
    (hexpected : ∀ id, expectedId = some id → id = o.current) :
    Appends (fun ws => if ws ∈ o.webSockets ∧ Addressed o none ws then
      [.readyForOffer (o.current + 1)]
      else []) o.nextId (o.startConnection expectedId) := by
  rw [startConnection_eq o hexpected]
  exact appends_broadcast h.nextId.nodup _ _

theorem queuedSignals_startConnection {expectedId : Option Nat}
    (hexpected : ∀ id, expectedId = some id → id = o.current) :
    (o.startConnection expectedId).queuedSignals = o.nextId.queuedSignals := by
  rw [startConnection_eq o hexpected]
  exact queuedSignals_broadcast _ _ _

/-- A new connection keeps the room in order. -/
theorem base_startConnection (h : o.Base) {expectedId : Option Nat}
    (hexpected : ∀ id, expectedId = some id → id = o.current) :
    (o.startConnection expectedId).Base := by
  refine h.nextId.appends (appends_startConnection h hexpected) ?_
  intro entry hentry
  rwa [queuedSignals_startConnection hexpected] at hentry

/-- Everyone is told the new id. -/
theorem ready_startConnection (h : o.Base) {expectedId : Option Nat}
    (hexpected : ∀ id, expectedId = some id → id = o.current) :
    (o.startConnection expectedId).Ready := by
  have hnew := appends_startConnection h hexpected
  intro _ id hid ws hws hattached
  rw [hnew.connectionId] at hid
  rw [hnew.webSockets] at hws
  rw [hnew.attachment] at hattached
  obtain ⟨a, ha⟩ := Option.isSome_iff_exists.mp hattached
  have haddressed : Addressed o none ws :=
    ⟨Option.some_ne_none ws, hattached, (h.attached ws hws a ha).1⟩
  rw [hnew.toClient, if_pos ⟨hws, haddressed⟩, lastReady_concat]
  exact hid

/-- A flush puts nothing into the queue. -/
theorem queuedSignals_flushQueuedSignals (o : SignalingRoom) (role : Role) :
    ∀ entry ∈ (o.flushQueuedSignals role).queuedSignals, entry ∈ o.queuedSignals := by
  intro entry hentry
  unfold flushQueuedSignals at hentry
  split at hentry
  · exact hentry
  · exact (List.mem_filter.mp hentry).1

/-- A flush keeps the room in order. -/
theorem Base.flush (h : o.Base) (role : Role) : (o.flushQueuedSignals role).Base :=
  h.appends (appends_flushQueuedSignals o role) (queuedSignals_flushQueuedSignals o role)

/-- A flush tells nobody of a connection. -/
theorem Ready.flush (h : o.Ready) (hbase : o.Base) (role : Role) :
    (o.flushQueuedSignals role).Ready := by
  refine h.appends (appends_flushQueuedSignals o role) ?_
  intro ws m hm
  split at hm
  · obtain ⟨entry, hentry, rfl⟩ := List.mem_map.mp hm
    exact hbase.relays entry (List.mem_filter.mp hentry).1
  · cases hm

/-! ## Joining -/

/-- The room with one more socket. -/
def attach (o : SignalingRoom) (server : Nat) (a : Attachment) : SignalingRoom :=
  { o.setSocket server { o.sockets server with attachment := some a } with
    webSockets := o.webSockets ++ [server] }

/-- The room after the other sockets were told of a join. -/
def greet (o : SignalingRoom) (server : Nat) (a : Attachment) : SignalingRoom :=
  ((o.attach server a).send server (.hello 1)).broadcast (.peerJoined a.role) (some server)

/-- The second socket makes the room paired; nothing is flushed by itself. -/
theorem acceptWebSocket_of_paired {server : Nat} {a : Attachment} (h : (o.greet server a).Paired) :
    o.acceptWebSocket server a = (o.greet server a, true) := by
  unfold acceptWebSocket
  dsimp only
  rw [if_pos]
  · rfl
  · rw [Bool.and_eq_true]
    exact h

/-- The first one gets what has waited for it. -/
theorem acceptWebSocket_of_not_paired {server : Nat} {a : Attachment}
    (h : ¬ (o.greet server a).Paired) :
    o.acceptWebSocket server a = ((o.greet server a).flushQueuedSignals a.role, false) := by
  unfold acceptWebSocket
  dsimp only
  rw [if_neg]
  · rfl
  · rw [Bool.and_eq_true]
    exact h

theorem attachment_attach_self (o : SignalingRoom) (server : Nat) (a : Attachment) :
    ((o.attach server a).sockets server).attachment = some a := by
  unfold attach
  rw [sockets_setSocket_self]

theorem sockets_attach_of_ne (o : SignalingRoom) {server ws : Nat}
    (a : Attachment) (h : ws ≠ server) :
    (o.attach server a).sockets ws = o.sockets ws := by
  unfold attach
  exact sockets_setSocket_of_ne o h _

theorem mem_attach {server ws : Nat} {a : Attachment} (hws : ws ∈ (o.attach server a).webSockets)
    (hne : ws ≠ server) : ws ∈ o.webSockets := by
  rcases List.mem_append.mp hws with hws | hws
  · exact hws
  · exact absurd (List.mem_singleton.mp hws) hne

/-- A socket for a role that nobody has. -/
theorem OnePerRole.attach (h : o.OnePerRole) {server : Nat} {a : Attachment}
    (hserver : server ∉ o.webSockets)
    (hrole : o.getSocketByRole a.role = none) : (o.attach server a).OnePerRole := by
  have hfree := getSocketByRole_eq_none.mp hrole
  constructor
  · exact List.nodup_append.mpr ⟨h.nodup, List.pairwise_singleton _ server, fun x hx y hy hxy =>
      hserver (List.mem_singleton.mp hy ▸ hxy ▸ hx)⟩
  · intro ws hws ws' hws' b b' hb hb' hroles
    by_cases heq : ws = server <;> by_cases heq' : ws' = server
    · rw [heq, heq']
    · subst heq
      rw [attachment_attach_self] at hb
      cases hb
      rw [sockets_attach_of_ne o a heq'] at hb'
      exact absurd hroles.symm (hfree ws' (mem_attach hws' heq') b' hb')
    · subst heq'
      rw [attachment_attach_self] at hb'
      cases hb'
      rw [sockets_attach_of_ne o a heq] at hb
      exact absurd hroles (hfree ws (mem_attach hws heq) b hb)
    · rw [sockets_attach_of_ne o a heq] at hb
      rw [sockets_attach_of_ne o a heq'] at hb'
      exact h.unique ws (mem_attach hws heq) ws' (mem_attach hws' heq') b b' hb hb' hroles

/-- It keeps the room in order. -/
theorem Base.attach (h : o.Base) {server : Nat} {a : Attachment} (hserver : server ∉ o.webSockets)
    (hopen : (o.sockets server).isOpen) (hrecovery : a.recovery = true)
    (hrole : o.getSocketByRole a.role = none) : (o.attach server a).Base where
  toOnePerRole := h.toOnePerRole.attach hserver hrole
  attached := by
    intro ws hws a' ha'
    by_cases heq : ws = server
    · subst heq
      rw [attachment_attach_self] at ha'
      cases ha'
      refine ⟨?_, hrecovery⟩
      unfold SignalingRoom.attach
      rw [sockets_setSocket_self]
      exact hopen
    · rw [sockets_attach_of_ne o a heq] at ha' ⊢
      exact h.attached ws (mem_attach hws heq) a' ha'
  queue := h.queue
  relays := h.relays

/-- A socket gives way to the reconnect of its participant. -/
def replace (o : SignalingRoom) (existing : Nat) : SignalingRoom :=
  (o.setSocket existing { o.sockets existing with attachment := none }).close existing

theorem attachment_replace_self (o : SignalingRoom) (existing : Nat) :
    ((o.replace existing).sockets existing).attachment = none := by
  unfold replace close
  rw [sockets_setSocket_self, sockets_setSocket_self]

theorem sockets_replace_of_ne (o : SignalingRoom) {existing ws : Nat} (h : ws ≠ existing) :
    (o.replace existing).sockets ws = o.sockets ws := by
  unfold replace close
  rw [sockets_setSocket_of_ne _ h, sockets_setSocket_of_ne _ h]

/-- A replaced socket has no role. -/
theorem ne_of_attachment_replace {existing ws : Nat} {a : Attachment}
    (h : ((o.replace existing).sockets ws).attachment = some a) : ws ≠ existing := by
  rintro rfl
  rw [attachment_replace_self] at h
  cases h

/-- A role that is free again has no socket. -/
theorem OnePerRole.replace (h : o.OnePerRole) (existing : Nat) :
    (o.replace existing).OnePerRole where
  nodup := h.nodup
  unique := by
    intro ws hws ws' hws' a a' ha ha'
    have hne := ne_of_attachment_replace ha
    have hne' := ne_of_attachment_replace ha'
    rw [sockets_replace_of_ne o hne] at ha
    rw [sockets_replace_of_ne o hne'] at ha'
    exact h.unique ws hws ws' hws' a a' ha ha'

/-- A replacement keeps the room in order. -/
theorem Base.replace (h : o.Base) (existing : Nat) : (o.replace existing).Base where
  toOnePerRole := h.toOnePerRole.replace existing
  attached := by
    intro ws hws a ha
    have hne := ne_of_attachment_replace ha
    rw [sockets_replace_of_ne o hne] at ha ⊢
    exact h.attached ws hws a ha
  queue := h.queue
  relays := h.relays

/-- The role of a replaced socket is free. -/
theorem OnePerRole.free_of_replace (h : o.OnePerRole) {role : Role} {existing : Nat}
    (hexisting : o.getSocketByRole role = some existing) :
    (o.replace existing).getSocketByRole role = none := by
  obtain ⟨hmem, a, ha, hrole⟩ := getSocketByRole_eq_some hexisting
  refine getSocketByRole_eq_none.mpr ?_
  intro ws hws a' ha' hrole'
  have hne := ne_of_attachment_replace ha'
  rw [sockets_replace_of_ne o hne] at ha'
  exact hne (h.unique ws hws existing hmem a' a ha' ha (hrole'.trans hrole.symm))

/-- What a greeting appends. -/
theorem appends_greet {server : Nat} {a : Attachment} (h : (o.attach server a).webSockets.Nodup) :
    ∃ new, Appends new (o.attach server a) (o.greet server a) ∧
      ∀ ws, ∀ m ∈ new ws, m = .hello 1 ∨ m = .peerJoined a.role := by
  have hhello := appends_send (o.attach server a) server (.hello 1)
  have hnodup : ((o.attach server a).send server (.hello 1)).webSockets.Nodup :=
    hhello.webSockets ▸ h
  have hjoined := appends_broadcast hnodup (.peerJoined a.role) (some server)
  refine ⟨_, hhello.trans hjoined, ?_⟩
  intro ws m hm
  rcases List.mem_append.mp hm with hm | hm
  · split at hm
    · exact Or.inl (List.mem_singleton.mp hm)
    · cases hm
  · split at hm
    · exact Or.inr (List.mem_singleton.mp hm)
    · cases hm

/-! ## Leaving -/

/-- The room without a socket that is gone. -/
def dropSocket (o : SignalingRoom) (ws : Nat) : SignalingRoom :=
  { o.close ws with webSockets := o.webSockets.filter (· != ws) }

theorem sockets_dropSocket_of_ne (o : SignalingRoom) {ws ws' : Nat} (h : ws' ≠ ws) :
    (o.dropSocket ws).sockets ws' = o.sockets ws' :=
  sockets_setSocket_of_ne o h _

/-- Only the socket itself goes. -/
theorem mem_dropSocket {ws ws' : Nat} (h : ws' ∈ (o.dropSocket ws).webSockets) :
    ws' ∈ o.webSockets ∧ ws' ≠ ws := by
  have hmem := List.mem_filter.mp h
  exact ⟨hmem.1, by simpa using hmem.2⟩

theorem OnePerRole.dropSocket (h : o.OnePerRole) (ws : Nat) : (o.dropSocket ws).OnePerRole where
  nodup := h.nodup.filter _
  unique := by
    intro ws₁ h₁ ws₂ h₂ a₁ a₂ ha₁ ha₂
    obtain ⟨hmem₁, hne₁⟩ := mem_dropSocket h₁
    obtain ⟨hmem₂, hne₂⟩ := mem_dropSocket h₂
    rw [sockets_dropSocket_of_ne o hne₁] at ha₁
    rw [sockets_dropSocket_of_ne o hne₂] at ha₂
    exact h.unique ws₁ hmem₁ ws₂ hmem₂ a₁ a₂ ha₁ ha₂

/-- The others may be told that the socket is gone. -/
theorem webSocketClose_spec (h : o.webSockets.Nodup) (ws : Nat) :
    ∃ new, Appends new (o.dropSocket ws) (o.webSocketClose ws) ∧
      (o.webSocketClose ws).queuedSignals = o.queuedSignals ∧
      ∀ ws', ∀ m ∈ new ws', ∃ role, m = .peerLeft role := by
  unfold webSocketClose
  dsimp only
  split
  · exact ⟨_, Appends.refl _, rfl, fun _ _ hm => (List.not_mem_nil hm).elim⟩
  · next attachment _ =>
    have hnodup : (o.dropSocket ws).webSockets.Nodup := h.filter _
    refine ⟨_, appends_broadcast hnodup (.peerLeft attachment.role) (some ws),
      queuedSignals_broadcast _ _ _, ?_⟩
    intro ws' m hm
    split at hm
    · exact ⟨_, List.mem_singleton.mp hm⟩
    · cases hm

end Bigstar.Signaling.SignalingRoom
