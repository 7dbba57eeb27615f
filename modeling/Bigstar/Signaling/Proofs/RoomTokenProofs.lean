import Bigstar.Signaling.Proofs.PairedRoomProofs
import Bigstar.Signaling.Proofs.RoomObjectProofs

/-!
# The sockets and the tokens of a room

Every socket of a participant was opened with the token of its role, and a role has one socket at a
time. The record only moves on: an open room has no join token, and what follows keeps both tokens.
-/

namespace Bigstar.Signaling

namespace SignalingRoom

variable {o o' o'' : SignalingRoom}

/-! ## Handlers that open no socket -/

namespace Keeps

theorem refl (o : SignalingRoom) : Keeps o o := ⟨fun _ => rfl, rfl⟩

theorem trans (h : Keeps o o') (h' : Keeps o' o'') : Keeps o o'' :=
  ⟨fun ws => (h'.attachment ws).trans (h.attachment ws), h'.webSockets.trans h.webSockets⟩

end Keeps

/-- Closing a socket leaves the attachments as they are. -/
theorem keeps_close (o : SignalingRoom) (ws : Nat) : Keeps o (o.close ws) where
  attachment := by
    intro ws'
    unfold close
    by_cases heq : ws' = ws
    · rw [heq, sockets_setSocket_self]
    · rw [sockets_setSocket_of_ne _ heq]
  webSockets := rfl

/-- A broadcast after a change of what is stored. -/
theorem keeps_broadcast (h : o.webSockets.Nodup) (hsockets : o'.sockets = o.sockets)
    (hwebSockets : o'.webSockets = o.webSockets) (message : ServerMessage) (except : Option Nat) :
    Keeps o (o'.broadcast message except) := by
  have hnew := appends_broadcast (o := o') (hwebSockets ▸ h) message except
  exact ⟨fun ws => (hnew.attachment ws).trans (by rw [hsockets]), hnew.webSockets.trans hwebSockets⟩

theorem keeps_startConnection (h : o.webSockets.Nodup) (expectedId : Option Nat) :
    Keeps o (o.startConnection expectedId) := by
  unfold startConnection
  dsimp only
  refine keeps_broadcast h ?_ ?_ _ _
  · split <;> rfl
  · split <;> rfl

theorem keeps_fetchConnected (h : o.webSockets.Nodup) (role : Role) :
    Keeps o (o.fetchConnected role) :=
  (keeps_startConnection h none).trans (appends_flushQueuedSignals _ role).keeps

theorem keeps_relay (o : SignalingRoom) (role : Role) (message : ServerMessage) :
    Keeps o (o.relay role message) := by
  unfold relay
  split
  · exact ⟨fun _ => rfl, rfl⟩
  · exact (appends_send o _ message).keeps

/-- So does whatever a client says. -/
theorem keeps_webSocketMessage (h : o.webSockets.Nodup) (ws : Nat) (message : ClientMessage) :
    Keeps o (o.webSocketMessage ws message) := by
  unfold webSocketMessage
  split
  · exact keeps_close o ws
  cases message with
  | ping => exact (appends_send o ws .pong).keeps
  | restart id =>
    dsimp only
    split
    · exact Keeps.refl o
    split
    · exact keeps_startConnection h (some id)
    split
    · exact (appends_send o ws _).keeps
    · exact Keeps.refl o
  | sdp kind sdp id =>
    dsimp only
    split
    · exact Keeps.refl o
    · exact keeps_relay o _ _
  | candidate candidate => exact keeps_relay o _ _

/-! ## Joining -/

theorem keeps_acceptWebSocket {server : Nat} {a : Attachment}
    (h : (o.attach server a).webSockets.Nodup) :
    Keeps (o.attach server a) (o.acceptWebSocket server a).1 := by
  obtain ⟨new, hnew, -⟩ := appends_greet h
  by_cases hpaired : (o.greet server a).Paired
  · rw [acceptWebSocket_of_paired hpaired]
    exact hnew.keeps
  · rw [acceptWebSocket_of_not_paired hpaired]
    exact hnew.keeps.trans (appends_flushQueuedSignals _ a.role).keeps

/-- The sockets after a join: the new one, and those of before except a replaced one. -/
structure Joined (o o' : SignalingRoom) (server : Nat) (a : Attachment) : Prop where
  onePerRole : o'.OnePerRole
  attached : ∀ ws ∈ o'.webSockets, ∀ b, (o'.sockets ws).attachment = some b →
    (ws = server ∧ b = a) ∨
      (ws ≠ server ∧ ws ∈ o.webSockets ∧ (o.sockets ws).attachment = some b)
  /-- A socket that has no attachment gets none by the join of another one. -/
  detached : ∀ ws, ws ≠ server → (o.sockets ws).attachment = none →
    (o'.sockets ws).attachment = none

/-- A socket joins for a role that is free. -/
theorem joined_acceptWebSocket (h : o.OnePerRole) {server : Nat} {a : Attachment}
    (hnew : server ∉ o.webSockets) (hfree : o.getSocketByRole a.role = none) :
    Joined o (o.acceptWebSocket server a).1 server a := by
  have hattach := h.attach hnew hfree
  have hkeeps := keeps_acceptWebSocket hattach.nodup
  refine ⟨hattach.keeps hkeeps, ?_, ?_⟩
  · intro ws hws b hb
    rw [hkeeps.webSockets] at hws
    rw [hkeeps.attachment] at hb
    by_cases heq : ws = server
    · subst heq
      rw [attachment_attach_self] at hb
      exact Or.inl ⟨rfl, (Option.some.inj hb).symm⟩
    · rw [sockets_attach_of_ne o a heq] at hb
      exact Or.inr ⟨heq, mem_attach hws heq, hb⟩
  · intro ws hne hnone
    rw [hkeeps.attachment, sockets_attach_of_ne o a hne]
    exact hnone

/-- It may have to be made free by a replacement. -/
theorem joined_fetch (h : o.OnePerRole) {server : Nat} {a : Attachment} {both : Bool}
    (hnew : server ∉ o.webSockets) (hfetch : o.fetch server a = some (o', both)) :
    Joined o o' server a := by
  unfold fetch at hfetch
  split at hfetch
  · next hfree =>
    have hroom : (o.acceptWebSocket server a).1 = o' := by rw [Option.some.inj hfetch]
    rw [← hroom]
    exact joined_acceptWebSocket h hnew hfree
  · next existing hexisting =>
    split at hfetch
    · have hroom : ((o.replace existing).acceptWebSocket server a).1 = o' :=
        congrArg Prod.fst (Option.some.inj hfetch)
      rw [← hroom]
      have hjoined := joined_acceptWebSocket (h.replace existing) hnew (h.free_of_replace hexisting)
      refine ⟨hjoined.onePerRole, ?_, ?_⟩
      · intro ws hws b hb
        rcases hjoined.attached ws hws b hb with hserver | ⟨hne, hmem, hattached⟩
        · exact Or.inl hserver
        · rw [sockets_replace_of_ne o (ne_of_attachment_replace hattached)] at hattached
          exact Or.inr ⟨hne, hmem, hattached⟩
      · intro ws hne hnone
        refine hjoined.detached ws hne ?_
        by_cases heq : ws = existing
        · subst heq
          exact attachment_replace_self o ws
        · rw [sockets_replace_of_ne o heq]
          exact hnone
    · cases hfetch

end SignalingRoom

/-! ## The record -/

open SignalingRoom RoomObject

/-- The order in which a room goes through its states. -/
def RoomStatus.rank : RoomStatus → Nat
  | .«open» => 0
  | .joining => 1
  | .connected => 2
  | .closed => 3

theorem RoomStatus.rank_le_closed (status : RoomStatus) : status.rank ≤ RoomStatus.closed.rank := by
  cases status <;> decide

/-- A record stays, does not go back, and keeps its expiry. -/
def Moves (o o' : RoomObject) : Prop :=
  ∀ record, o.record = some record → ∃ record', o'.record = some record' ∧
    record'.expiresAt = record.expiresAt ∧ record.status.rank ≤ record'.status.rank

/-- Where the record is the same, the room has not moved. -/
theorem moves_of_record {o o' : RoomObject} (h : o'.record = o.record) : Moves o o' :=
  fun record hrecord => ⟨record, h.trans hrecord, rfl, Nat.le_refl _⟩

/-- Every socket of a participant was opened with the token of its role. -/
structure RoomInv (roomId : String) (o : RoomObject) : Prop where
  onePerRole : o.room.OnePerRole
  opened : ∀ ws ∈ o.room.webSockets, ∀ a, (o.room.sockets ws).attachment = some a →
    ∃ request record, o.requests ws = some request ∧ request.session = roomId ∧
    request.role = a.role ∧
      o.record = some record ∧ request.token = expectedToken record a.role ∧ request.token.isSome
  record : ∀ record, o.record = some record →
    record.roomId = roomId ∧ (record.status = .«open» → record.joinToken = none)

variable {roomId : String} {o o' : RoomObject}

theorem RoomInv.keeps (h : RoomInv roomId o) {room : SignalingRoom} (hkeeps : Keeps o.room room) :
    RoomInv roomId { o with room } where
  onePerRole := h.onePerRole.keeps hkeeps
  opened := by
    intro ws hws a ha
    dsimp only at hws ha
    rw [hkeeps.webSockets] at hws
    rw [hkeeps.attachment] at ha
    exact h.opened ws hws a ha
  record := h.record

/-- The record changes, but not the tokens of the sockets there are. -/
theorem RoomInv.setRecord (h : RoomInv roomId o) {record next : RoomRecord}
    (hrecord : o.record = some record)
    (hroomId : next.roomId = record.roomId) (hstatus : next.status ≠ .«open»)
    (htoken : ∀ role, (expectedToken record role).isSome →
      expectedToken next role = expectedToken record role) :
    RoomInv roomId { o with record := some next } where
  onePerRole := h.onePerRole
  opened := by
    intro ws hws a ha
    obtain ⟨request, record', hrequest, hsession, hrole, hrecord', htoken', hsome⟩ :=
      h.opened ws hws a ha
    rw [hrecord] at hrecord'
    cases hrecord'
    refine ⟨request, next, hrequest, hsession, hrole, rfl, ?_, hsome⟩
    rw [htoken a.role (htoken' ▸ hsome)]
    exact htoken'
  record := by
    rintro record' ⟨⟩
    exact ⟨hroomId.trans (h.record record hrecord).1, fun hopen => absurd hopen hstatus⟩

/-- The invariant of a room is kept when its token is handed out, -/
theorem RoomInv.reserve (h : RoomInv roomId o) {params : ReserveJoinParams} {record : RoomRecord}
    (hreserve : o.reserveJoin params = .ok (o', record)) : RoomInv roomId o' := by
  obtain ⟨before, hbefore, hopen, -, rfl, rfl⟩ := reserveJoin_cases hreserve
  refine h.setRecord hbefore rfl (by simp) ?_
  intro role hsome
  cases role with
  | offer => rfl
  | answer =>
    -- an open room has no join token to be changed
    unfold expectedToken at hsome
    rw [(h.record before hbefore).2 hopen] at hsome
    cases hsome

/-- when it is closed, -/
theorem RoomInv.closeRoom (h : RoomInv roomId o) (now : Nat) :
    RoomInv roomId (o.closeRoom now) := by
  cases hrecord : o.record with
  | none =>
    have hsame : o.closeRoom now = o := by
      unfold RoomObject.closeRoom
      rw [hrecord, Option.map_none, ← hrecord]
    rw [hsame]
    exact h
  | some record =>
    have hclosed : o.closeRoom now =
        { o with record := some { record with
          status := .closed, updatedAt := now, canJoin := false } } := by
      unfold RoomObject.closeRoom
      rw [hrecord, Option.map_some]
    rw [hclosed]
    exact h.setRecord hrecord rfl (by simp) (fun role _ => by cases role <;> rfl)

/-- when a client says something, -/
theorem RoomInv.webSocketMessage (h : RoomInv roomId o) (ws : Nat) (message : ClientMessage) :
    RoomInv roomId (o.webSocketMessage ws message) :=
  h.keeps (keeps_webSocketMessage h.onePerRole.nodup ws message)

theorem RoomInv.fetchConnected (h : RoomInv roomId o) (role : Role) :
    RoomInv roomId (o.fetchConnected role) :=
  h.keeps (keeps_fetchConnected h.onePerRole.nodup role)

/-- when a socket is closed, -/
theorem RoomInv.webSocketClose (h : RoomInv roomId o) (ws now : Nat) :
    RoomInv roomId (o.webSocketClose ws now).1 := by
  have hclosed : RoomInv roomId { o with room := o.room.webSocketClose ws } := by
    obtain ⟨new, hnew, -, -⟩ := webSocketClose_spec h.onePerRole.nodup ws
    refine ⟨(h.onePerRole.dropSocket ws).keeps hnew.keeps, ?_, h.record⟩
    intro ws' hws' a ha
    dsimp only at hws' ha
    rw [hnew.webSockets] at hws'
    rw [hnew.attachment] at ha
    obtain ⟨hmem, hne⟩ := mem_dropSocket hws'
    rw [sockets_dropSocket_of_ne o.room hne] at ha
    exact h.opened ws' hmem a ha
  unfold RoomObject.webSocketClose
  dsimp only
  split
  · exact hclosed
  · split
    · exact hclosed.closeRoom now
    · exact hclosed

/-- and when a socket joins. -/
theorem RoomInv.fetch (h : RoomInv roomId o) {server : Nat} {request : FetchRequest} {now : Nat}
    {await : Option RoomSummary} (hsession : request.session = roomId) (hrecord : o.record.isSome)
    (hnew : server ∉ o.room.webSockets) (hfetch : o.fetch server request now = .ok (o', await)) :
    RoomInv roomId o' := by
  obtain ⟨record, hrecord⟩ := Option.isSome_iff_exists.mp hrecord
  obtain ⟨hcheck, hcases⟩ := fetch_cases hfetch
  obtain ⟨-, -, htoken, hsome⟩ := checkRecord_eq_none hcheck hrecord
  have hjoin : ∀ {room both},
    o.room.fetch server ⟨request.role, o.record.isNone, request.recovery⟩ =
      some (room, both) →
      RoomInv roomId ⟨o.record, room, Function.update o.requests server (some request)⟩ := by
    intro room both hroom
    have hjoined := joined_fetch h.onePerRole hnew hroom
    refine ⟨hjoined.onePerRole, ?_, h.record⟩
    intro ws hws b hb
    rcases hjoined.attached ws hws b hb with ⟨rfl, rfl⟩ | ⟨hne, hmem, hattached⟩
    · exact ⟨request, record, Function.update_self _ _ _, hsession, rfl, hrecord, htoken, hsome⟩
    · dsimp only
      rw [Function.update_of_ne hne]
      exact h.opened ws hmem b hattached
  cases hcases with
  | alone hroom => exact hjoin hroom
  | again hroom _ =>
    have hinv := hjoin hroom
    exact hinv.keeps (keeps_fetchConnected hinv.onePerRole.nodup request.role)
  | first hroom hrecord' _ =>
    exact (hjoin hroom).setRecord hrecord' rfl (by simp [connectedRecord])
      (fun role _ => by cases role <;> rfl)

/-! ## Replaced sockets -/

/-- A socket that a request opened and another one replaced. -/
structure Replaced (o : RoomObject) (ws : Nat) : Prop where
  /-- The request that it was opened with; its server side is no new one any more. -/
  requested : (o.requests ws).isSome
  /-- Its attachment is gone. -/
  detached : (o.room.sockets ws).attachment = none

namespace Replaced

variable {ws : Nat}

/-- A handler that opens no socket leaves a replaced one without an attachment. -/
theorem keeps (h : Replaced o ws) (hrequests : o'.requests = o.requests)
    (hkeeps : Keeps o.room o'.room) :
    Replaced o' ws where
  requested := by
    rw [hrequests]
    exact h.requested
  detached := by
    rw [hkeeps.attachment]
    exact h.detached

/-- A handler that changes only the record. -/
theorem of_record (h : Replaced o ws) (record : Option RoomRecord) :
    Replaced { o with record } ws :=
  ⟨h.requested, h.detached⟩

/-- A replaced socket stays replaced when another one joins, -/
theorem fetch (h : Replaced o ws) (hroom : RoomInv roomId o) {server : Nat} {request : FetchRequest}
    {now : Nat} {await : Option RoomSummary} (hnew : server ∉ o.room.webSockets)
    (hunused : o.requests server = none) (hfetch : o.fetch server request now = .ok (o', await)) :
    Replaced o' ws := by
  have hne : ws ≠ server := by
    rintro rfl
    have hrequested := h.requested
    rw [hunused] at hrequested
    cases hrequested
  obtain ⟨-, hcases⟩ := fetch_cases hfetch
  have hjoin : ∀ {room both},
    o.room.fetch server ⟨request.role, o.record.isNone, request.recovery⟩ =
      some (room, both) → room.OnePerRole ∧
        Replaced ⟨o.record, room, Function.update o.requests server (some request)⟩ ws := by
    intro room both hfetched
    have hjoined := joined_fetch hroom.onePerRole hnew hfetched
    refine ⟨hjoined.onePerRole, ?_, hjoined.detached ws hne h.detached⟩
    dsimp only
    rw [Function.update_of_ne hne]
    exact h.requested
  cases hcases with
  | alone hfetched => exact (hjoin hfetched).2
  | again hfetched _ =>
    obtain ⟨honePerRole, hreplaced⟩ := hjoin hfetched
    exact hreplaced.keeps rfl (keeps_fetchConnected honePerRole.nodup request.role)
  | first hfetched _ _ => exact (hjoin hfetched).2.of_record _

/-- and when one is closed. -/
theorem webSocketClose (h : Replaced o ws) (hroom : RoomInv roomId o) (closed now : Nat) :
    Replaced (o.webSocketClose closed now).1 ws := by
  have hclosed : Replaced { o with room := o.room.webSocketClose closed } ws := by
    obtain ⟨new, hnew, -, -⟩ := webSocketClose_spec hroom.onePerRole.nodup closed
    have hattachment : ((o.room.dropSocket closed).sockets ws).attachment =
        (o.room.sockets ws).attachment := (keeps_close o.room closed).attachment ws
    refine ⟨h.requested, ?_⟩
    dsimp only
    rw [hnew.attachment, hattachment]
    exact h.detached
  unfold RoomObject.webSocketClose
  dsimp only
  split
  · exact hclosed
  · split
    · exact hclosed.of_record _
    · exact hclosed

end Replaced

/-! ## The order of the states -/

theorem moves_closeRoom (o : RoomObject) (now : Nat) : Moves o (o.closeRoom now) := by
  intro record hrecord
  refine ⟨{ record with status := .closed, updatedAt := now, canJoin := false }, ?_, rfl, ?_⟩
  · unfold closeRoom
    rw [hrecord, Option.map_some]
  · exact record.status.rank_le_closed

theorem moves_reserveJoin {params : ReserveJoinParams} {record : RoomRecord}
    (h : o.reserveJoin params = .ok (o', record)) : Moves o o' := by
  obtain ⟨before, hbefore, hopen, -, rfl, rfl⟩ := reserveJoin_cases h
  intro record hrecord
  rw [hbefore] at hrecord
  cases hrecord
  refine ⟨_, rfl, rfl, ?_⟩
  rw [hopen]
  exact Nat.zero_le _

theorem moves_webSocketClose (o : RoomObject) (ws now : Nat) :
    Moves o (o.webSocketClose ws now).1 := by
  unfold RoomObject.webSocketClose
  dsimp only
  split
  · exact moves_of_record rfl
  · split
    · intro record hrecord
      exact moves_closeRoom { o with room := o.room.webSocketClose ws } now record hrecord
    · exact moves_of_record rfl

/-- A socket that joins moves the room on, or leaves it where it is. -/
theorem moves_fetch {server : Nat} {request : FetchRequest} {now : Nat} {await : Option RoomSummary}
    (h : o.fetch server request now = .ok (o', await)) : Moves o o' := by
  obtain ⟨hcheck, hcases⟩ := fetch_cases h
  cases hcases with
  | alone _ => exact moves_of_record rfl
  | again _ _ => exact moves_of_record rfl
  | @first room record _ hrecord hstatus =>
    intro record' hrecord'
    rw [hrecord] at hrecord'
    cases hrecord'
    have hclosed := (checkRecord_eq_none hcheck hrecord).1
    have hrank : record.status.rank ≤ RoomStatus.connected.rank := by
      cases hs : record.status with
      | «open» => decide
      | joining => decide
      | connected => decide
      | closed => exact absurd hs hclosed
    exact ⟨_, rfl, rfl, hrank⟩

end Bigstar.Signaling
