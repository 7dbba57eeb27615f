import Bigstar.Signaling.SignalingRoom

/-!
# What the room can send

Each operation of the room is described by the messages that it adds to the sockets and to the queue
of signals, so that no later proof has to look into the loops over sockets.
-/

namespace Bigstar.Signaling.SignalingRoom

/-- The id of the newest connection, 0 before the first one. -/
def current (o : SignalingRoom) : Nat := o.connectionId.getD 0

@[simp]
theorem sockets_setSocket_self (o : SignalingRoom) (ws : Nat) (socket : Socket) :
    (o.setSocket ws socket).sockets ws = socket := by
  unfold setSocket
  exact Function.update_self ws socket o.sockets

@[simp]
theorem sockets_setSocket_of_ne (o : SignalingRoom) {ws ws' : Nat}
    (h : ws' ≠ ws) (socket : Socket) :
    (o.setSocket ws socket).sockets ws' = o.sockets ws' := by
  unfold setSocket
  exact Function.update_of_ne h socket o.sockets

/-- From `o` to `o'` only messages with `sent` were added to sockets and only messages with `queued`
to the queue. -/
structure Sends (sent : Nat → ServerMessage → Prop) (queued : ServerMessage → Prop)
    (o o' : SignalingRoom) : Prop where
  toClient : ∀ ws, ∀ m ∈ (o'.sockets ws).toClient, m ∈ (o.sockets ws).toClient ∨ sent ws m
  toServer : ∀ ws, (o'.sockets ws).toServer = (o.sockets ws).toServer
  queue : ∀ e ∈ o'.queuedSignals, e ∈ o.queuedSignals ∨ queued e.message

variable {sent sent' : Nat → ServerMessage → Prop} {queued queued' : ServerMessage → Prop}
  {o o' o'' : SignalingRoom}

namespace Sends

theorem refl (o : SignalingRoom) : Sends sent queued o o :=
  ⟨fun _ _ hm => Or.inl hm, fun _ => rfl, fun _ he => Or.inl he⟩

theorem trans (h : Sends sent queued o o') (h' : Sends sent queued o' o'') :
    Sends sent queued o o'' where
  toClient := by
    intro ws m hm
    rcases h'.toClient ws m hm with hm | hm
    · exact h.toClient ws m hm
    · exact Or.inr hm
  toServer := fun ws => (h'.toServer ws).trans (h.toServer ws)
  queue := by
    intro e he
    rcases h'.queue e he with he | he
    · exact h.queue e he
    · exact Or.inr he

theorem mono (h : Sends sent queued o o') (hsent : ∀ ws m, sent ws m → sent' ws m)
    (hqueued : ∀ m, queued m → queued' m) : Sends sent' queued' o o' where
  toClient := fun ws m hm => (h.toClient ws m hm).imp_right (hsent ws m)
  toServer := h.toServer
  queue := fun e he => (h.queue e he).imp_right (hqueued e.message)

end Sends

/-- A socket is replaced by one with the same messages on the way. -/
theorem sends_setSocket (o : SignalingRoom) (ws : Nat) (socket : Socket)
    (hclient : socket.toClient = (o.sockets ws).toClient)
    (hserver : socket.toServer = (o.sockets ws).toServer) :
    Sends sent queued o (o.setSocket ws socket) where
  toClient := by
    intro ws' m hm
    by_cases heq : ws' = ws
    · subst heq
      rw [sockets_setSocket_self, hclient] at hm
      exact Or.inl hm
    · rw [sockets_setSocket_of_ne _ heq] at hm
      exact Or.inl hm
  toServer := by
    intro ws'
    by_cases heq : ws' = ws
    · subst heq
      rw [sockets_setSocket_self, hserver]
    · rw [sockets_setSocket_of_ne _ heq]
  queue := fun _ he => Or.inl he

theorem sends_close (o : SignalingRoom) (ws : Nat) : Sends sent queued o (o.close ws) :=
  sends_setSocket o ws _ rfl rfl

/-- One message is sent. -/
theorem sends_send (o : SignalingRoom) (ws : Nat) (message : ServerMessage) (h : sent ws message) :
    Sends sent queued o (o.send ws message) := by
  unfold send
  by_cases hopen : (o.sockets ws).isOpen
  · simp only [hopen, if_true]
    refine ⟨?_, ?_, fun e he => Or.inl he⟩
    · intro ws' m hm
      by_cases heq : ws' = ws
      · subst heq
        rw [sockets_setSocket_self] at hm
        rcases List.mem_append.mp hm with hm | hm
        · exact Or.inl hm
        · rw [List.mem_singleton.mp hm]
          exact Or.inr h
      · rw [sockets_setSocket_of_ne _ heq] at hm
        exact Or.inl hm
    · intro ws'
      by_cases heq : ws' = ws
      · subst heq
        rw [sockets_setSocket_self]
      · rw [sockets_setSocket_of_ne _ heq]
  · simp only [hopen]
    exact Sends.refl o

/-- A loop of operations. -/
theorem sends_foldl {α : Type} {f : SignalingRoom → α → SignalingRoom} {l : List α}
    (hf : ∀ o, ∀ a ∈ l, Sends sent queued o (f o a)) (o : SignalingRoom) :
    Sends sent queued o (l.foldl f o) := by
  induction l generalizing o with
  | nil => exact Sends.refl o
  | cons a l ih =>
    have hfirst := hf o a List.mem_cons_self
    exact hfirst.trans (ih (fun o b hb => hf o b (List.mem_cons_of_mem a hb)) (f o a))

/-- One message is sent to all but one. -/
theorem sends_broadcast (o : SignalingRoom) (message : ServerMessage) (except : Option Nat)
    (h : ∀ ws, sent ws message) : Sends sent queued o (o.broadcast message except) := by
  refine sends_foldl ?_ o
  intro o ws hws
  unfold broadcastTo
  split
  · exact sends_send o ws message (h ws)
  · exact Sends.refl o

/-- The waiting signals are sent to the role they are for. -/
theorem sends_flushQueuedSignals (o : SignalingRoom) (role : Role)
    (h : ∀ ws, ∀ e ∈ o.queuedSignals, sent ws e.message) :
    Sends sent queued o (o.flushQueuedSignals role) := by
  unfold flushQueuedSignals
  split
  · exact Sends.refl o
  · next target _ =>
    have hloop : Sends sent queued o (o.queuedSignals.foldl (flushEntry role target) o) := by
      refine sends_foldl ?_ o
      intro o' e he
      unfold flushEntry
      split
      · exact sends_send o' target e.message (h target e he)
      · exact Sends.refl o'
    exact ⟨hloop.toClient, hloop.toServer, fun e he => Or.inl ((List.mem_filter.mp he).1)⟩

/-! ## The newest id -/

@[simp]
theorem connectionId_setSocket (o : SignalingRoom) (ws : Nat) (socket : Socket) :
    (o.setSocket ws socket).connectionId = o.connectionId := rfl

@[simp]
theorem connectionId_close (o : SignalingRoom) (ws : Nat) :
    (o.close ws).connectionId = o.connectionId := rfl

@[simp]
theorem connectionId_send (o : SignalingRoom) (ws : Nat) (message : ServerMessage) :
    (o.send ws message).connectionId = o.connectionId := by
  unfold send
  dsimp only
  split <;> rfl

theorem connectionId_foldl {α : Type} {f : SignalingRoom → α → SignalingRoom}
    (hf : ∀ o a, (f o a).connectionId = o.connectionId) (l : List α) (o : SignalingRoom) :
    (l.foldl f o).connectionId = o.connectionId := by
  induction l generalizing o with
  | nil => rfl
  | cons a l ih => rw [List.foldl_cons, ih, hf]

@[simp]
theorem connectionId_broadcast (o : SignalingRoom) (message : ServerMessage) (except : Option Nat) :
    (o.broadcast message except).connectionId = o.connectionId := by
  refine connectionId_foldl ?_ o.webSockets o
  intro o ws
  unfold broadcastTo
  split
  · exact connectionId_send o ws message
  · rfl

@[simp]
theorem connectionId_flushQueuedSignals (o : SignalingRoom) (role : Role) :
    (o.flushQueuedSignals role).connectionId = o.connectionId := by
  unfold flushQueuedSignals
  split
  · rfl
  · refine connectionId_foldl ?_ o.queuedSignals o
    intro o e
    unfold flushEntry
    split
    · exact connectionId_send o _ e.message
    · rfl

/-! ## Starting a connection -/

/-- A connection takes the next id and forgets what has waited. -/
theorem startConnection_eq (o : SignalingRoom) {expectedId : Option Nat}
    (hexpected : ∀ id, expectedId = some id → id = o.current) :
    o.startConnection expectedId =
      ({ o with
          connectionId := some (o.current + 1)
          queuedSignals := o.queuedSignals.filter fun entry => !ofRecovery entry.message }
        : SignalingRoom).broadcast (.readyForOffer (o.current + 1)) none := by
  have hany : expectedId.any (· != o.connectionId.getD 0) = false := by
    cases expectedId with
    | none => rfl
    | some id =>
      have hid : id = o.connectionId.getD 0 := hexpected id rfl
      simp [hid]
  unfold startConnection
  simp only [hany]
  rfl

/-- A connection is started under the next id, unless another one than the newest was expected. -/
theorem current_startConnection (o : SignalingRoom) {expectedId : Option Nat}
    (hexpected : ∀ id, expectedId = some id → id = o.current) :
    (o.startConnection expectedId).current = o.current + 1 := by
  rw [startConnection_eq o hexpected, current, connectionId_broadcast]
  rfl

/-- Both sockets are told. -/
theorem sends_startConnection (o : SignalingRoom) {expectedId : Option Nat}
    (hexpected : ∀ id, expectedId = some id → id = o.current)
    (h : ∀ ws, sent ws (.readyForOffer (o.current + 1))) :
    Sends sent queued o (o.startConnection expectedId) := by
  rw [startConnection_eq o hexpected]
  have hbroadcast : Sends sent queued _ _ := sends_broadcast
    { o with
      connectionId := some (o.current + 1)
      queuedSignals := o.queuedSignals.filter fun entry => !ofRecovery entry.message }
    (.readyForOffer (o.current + 1)) none h
  refine ⟨hbroadcast.toClient, hbroadcast.toServer, ?_⟩
  intro e he
  rcases hbroadcast.queue e he with he | he
  · exact Or.inl (List.mem_filter.mp he).1
  · exact Or.inr he

/-! ## The handlers -/

/-- Messages of the room itself. An id that is announced is newer than `low`. -/
def Announced (low high : Nat) : ServerMessage → Prop
  | .readyForOffer id => low < id ∧ id ≤ high
  | .sdp _ _ _ _ => False
  | .candidate _ _ => False
  | _ => True

/-- What a handler does: it announces, sends what was queued, and beyond that only what `sent` and
`queued` allow. -/
structure Handles (sent : Nat → ServerMessage → Prop) (queued : ServerMessage → Prop)
    (o o' : SignalingRoom) : Prop where
  sends : Sends (fun ws m => Announced o.current o'.current m ∨
    (∃ e ∈ o.queuedSignals, e.message = m) ∨ sent ws m) queued o o'
  current_le : o.current ≤ o'.current

theorem handles_close (o : SignalingRoom) (ws : Nat) : Handles sent queued o (o.close ws) :=
  ⟨sends_close o ws, Nat.le_refl _⟩

theorem handles_webSocketClose (o : SignalingRoom) (ws : Nat) :
    Handles sent queued o (o.webSocketClose ws) := by
  have hclose : ∀ {ok}, Sends ok queued o
      { o.close ws with webSockets := (o.close ws).webSockets.filter (· != ws) } := by
    intro ok
    have h : Sends ok queued o (o.close ws) := sends_close o ws
    exact ⟨h.toClient, h.toServer, h.queue⟩
  unfold webSocketClose
  dsimp only
  split
  · exact ⟨hclose, Nat.le_refl _⟩
  · refine ⟨hclose.trans (sends_broadcast _ _ _ fun _ => Or.inl trivial), ?_⟩
    simp [current]

/-- Steps that send nothing may come before a handler. -/
theorem Handles.after_sends {o₁ : SignalingRoom} (h : ∀ ok, Sends ok queued o o₁)
    (hqueue : o₁.queuedSignals = o.queuedSignals) (hid : o₁.connectionId = o.connectionId)
    (h' : Handles sent queued o₁ o') : Handles sent queued o o' := by
  obtain ⟨hsends, hle⟩ := h'
  have hcurrent : o₁.current = o.current := by rw [current, hid, current]
  rw [hqueue, hcurrent] at hsends
  exact ⟨(h _).trans hsends, hcurrent ▸ hle⟩

/-- A socket that joins gets what has waited for it. -/
theorem handles_acceptWebSocket (o : SignalingRoom) (server : Nat) (attachment : Attachment) :
    Handles sent (fun _ => False) o (o.acceptWebSocket server attachment).1 := by
  have hattach : ∀ ok, Sends ok (fun _ => False) o
      { o.setSocket server { o.sockets server with attachment := some attachment } with
        webSockets := (o.setSocket server { o.sockets server with
          attachment := some attachment }).webSockets ++ [server] } := by
    intro ok
    have h : Sends ok (fun _ => False) o
        (o.setSocket server { o.sockets server with attachment := some attachment }) :=
      sends_setSocket o server _ rfl rfl
    exact ⟨h.toClient, h.toServer, h.queue⟩
  refine Handles.after_sends hattach rfl rfl ?_
  unfold acceptWebSocket
  dsimp only
  generalize { o.setSocket server { o.sockets server with attachment := some attachment } with
    webSockets := (o.setSocket server { o.sockets server with
      attachment := some attachment }).webSockets ++ [server] } = o₁
  have hgreet : ∀ high, Sends (fun ws m => Announced o₁.current high m ∨
      (∃ e ∈ o₁.queuedSignals, e.message = m) ∨ sent ws m) (fun _ => False) o₁
      ((o₁.send server (.hello 1)).broadcast (.peerJoined attachment.role) (some server)) :=
    fun high => (sends_send o₁ server (.hello 1) (Or.inl trivial)).trans
      (sends_broadcast _ _ _ fun _ => Or.inl trivial)
  split
  · exact ⟨hgreet _, by simp [current]⟩
  · refine ⟨(hgreet _).trans (sends_flushQueuedSignals _ _ ?_), by simp [current]⟩
    intro ws e he
    rcases (hgreet 0).queue e he with he | he
    · exact Or.inr (Or.inl ⟨e, he, rfl⟩)
    · exact absurd he id

theorem handles_fetch {server : Nat} {attachment : Attachment} {both : Bool}
    (h : o.fetch server attachment = some (o', both)) : Handles sent (fun _ => False) o o' := by
  unfold fetch at h
  split at h
  · have hroom : (o.acceptWebSocket server attachment).1 = o' := by rw [Option.some.inj h]
    rw [← hroom]
    exact handles_acceptWebSocket o server attachment
  · next existing _ =>
    split at h
    · have hroom := congrArg Prod.fst (Option.some.inj h)
      dsimp only at hroom
      rw [← hroom]
      have hreplace : ∀ ok, Sends ok (fun _ => False) o
          ((o.setSocket existing { o.sockets existing with attachment := none }).close existing) :=
        fun ok => Sends.trans
          (sends_setSocket o existing { o.sockets existing with attachment := none } rfl rfl)
          (sends_close _ existing)
      exact Handles.after_sends hreplace rfl rfl (handles_acceptWebSocket _ server attachment)
    · cases h

/-- Telling who is there sends nothing else. -/
theorem handles_fetchConnected (o : SignalingRoom) (role : Role) :
    Handles sent (fun _ => False) o (o.fetchConnected role) := by
  have hexpected : ∀ id, none = some id → id = o.current := fun _ h => nomatch h
  have hsends : Sends (fun ws m => Announced o.current (o.current + 1) m ∨
      (∃ e ∈ o.queuedSignals, e.message = m) ∨ sent ws m) (fun _ => False) o
        (o.startConnection none) :=
    sends_startConnection o hexpected (fun _ => Or.inl ⟨Nat.lt_succ_self _, Nat.le_refl _⟩)
  have hnew : (o.fetchConnected role).current = o.current + 1 := by
    rw [← current_startConnection o hexpected]
    simp [fetchConnected, current]
  refine ⟨?_, by omega⟩
  rw [hnew]
  refine hsends.trans (sends_flushQueuedSignals _ _ ?_)
  intro ws e he
  rcases hsends.queue e he with he | he
  · exact Or.inr (Or.inl ⟨e, he, rfl⟩)
  · exact absurd he id

/-- What a relayed message becomes. -/
def Relays (message : ClientMessage) (m : ServerMessage) : Prop :=
  ∃ sender, (∃ kind sdp id, message = .sdp kind sdp id ∧ m = .sdp sender kind sdp id) ∨
    ∃ candidate, message = .candidate candidate ∧ m = .candidate sender candidate

/-- A relayed message is sent or put into the queue. -/
theorem handles_relay (o : SignalingRoom) (role : Role) {message : ServerMessage}
    (hsent : ∀ ws, sent ws message) (hqueued : queued message) :
    Handles sent queued o (o.relay role message) := by
  unfold relay
  split
  · refine ⟨⟨fun _ _ hm => Or.inl hm, fun _ => rfl, ?_⟩, Nat.le_refl _⟩
    intro e he
    rcases List.mem_append.mp he with he | he
    · exact Or.inl he
    · rw [List.mem_singleton.mp he]
      exact Or.inr hqueued
  · next target _ =>
    exact ⟨sends_send o target message (Or.inr (Or.inr (hsent target))), by simp [current]⟩

/-- A message from a socket is relayed, or answered with the newest id if it asks for a restart. -/
theorem handles_webSocketMessage (o : SignalingRoom) (ws : Nat) (message : ClientMessage) :
    Handles (fun ws' m => Relays message m ∨
      ws' = ws ∧ (∃ id, message = .restart id) ∧ m = .readyForOffer o.current) (Relays message) o
      (o.webSocketMessage ws message) := by
  unfold webSocketMessage
  split
  · exact handles_close o ws
  · next attachment _ =>
    cases message with
    | ping => exact ⟨sends_send o ws .pong (Or.inl trivial), by simp [current]⟩
    | restart id =>
      dsimp only
      split
      · exact ⟨Sends.refl o, Nat.le_refl _⟩
      split
      · next hid =>
        have hexpected : ∀ id', some id = some id' → id' = o.current := by
          rintro id' ⟨⟩
          exact hid.1
        have hcurrent : (o.startConnection (some id)).current = o.current + 1 :=
          current_startConnection o hexpected
        refine ⟨?_, by omega⟩
        rw [hcurrent]
        exact sends_startConnection o hexpected
          (fun _ => Or.inl ⟨Nat.lt_succ_self _, Nat.le_refl _⟩)
      split
      · exact ⟨sends_send o ws _
          (Or.inr (Or.inr (Or.inr ⟨rfl, ⟨id, rfl⟩, rfl⟩))), by simp [current]⟩
      · exact ⟨Sends.refl o, Nat.le_refl _⟩
    | sdp kind sdp id =>
      dsimp only
      have hrelays : Relays (.sdp kind sdp id) (.sdp attachment.role kind sdp id) :=
        ⟨attachment.role, Or.inl ⟨kind, sdp, id, rfl, rfl⟩⟩
      split
      · exact ⟨Sends.refl o, Nat.le_refl _⟩
      · exact handles_relay o attachment.role (fun _ => Or.inl hrelays) hrelays
    | candidate candidate =>
      have hrelays : Relays (.candidate candidate) (.candidate attachment.role candidate) :=
        ⟨attachment.role, Or.inr ⟨candidate, rfl, rfl⟩⟩
      exact handles_relay o attachment.role (fun _ => Or.inl hrelays) hrelays

end Bigstar.Signaling.SignalingRoom
