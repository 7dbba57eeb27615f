import Bigstar.Lib.Run
import Bigstar.Signaling.Lobby
import Bigstar.Signaling.Proofs.RoomTokenProofs

/-!
# One host and one guest per room

The invariant of the whole server. A room that is not open any more has a handler under way that
will tell the lobby so, or an entry that cannot be joined, or no entry at all.
-/

namespace Bigstar.Signaling

open SignalingRoom RoomObject

/-! ## The lobby -/

namespace LobbyObject

/-- A room is listed under its id, and replaces what was there. -/
theorem mem_upsertRoom {o : LobbyObject} {room : RoomSummary} {entry : String × RoomSummary} :
    entry ∈ (o.upsertRoom room).rooms ↔
      entry = (room.roomId, room) ∨ entry ∈ o.rooms ∧ entry.1 ≠ room.roomId := by
  unfold upsertRoom
  split
  · next hany =>
    obtain ⟨old, hold, hid⟩ := List.any_eq_true.mp hany
    have hid : old.1 = room.roomId := by simpa using hid
    rw [List.mem_map]
    constructor
    · rintro ⟨before, hbefore, rfl⟩
      by_cases heq : before.1 = room.roomId
      · rw [if_pos heq, heq]
        exact Or.inl rfl
      · rw [if_neg heq]
        exact Or.inr ⟨hbefore, heq⟩
    · rintro (rfl | ⟨hmem, hne⟩)
      · exact ⟨old, hold, by rw [if_pos hid, hid]⟩
      · exact ⟨entry, hmem, if_neg hne⟩
  · next hany =>
    have hall : ∀ before ∈ o.rooms, before.1 ≠ room.roomId := by
      intro before hbefore heq
      exact hany (List.any_eq_true.mpr ⟨before, hbefore, by simpa using heq⟩)
    rw [List.mem_append, List.mem_singleton]
    constructor
    · rintro (hmem | heq)
      · exact Or.inr ⟨hmem, hall entry hmem⟩
      · exact Or.inl heq
    · rintro (heq | ⟨hmem, -⟩)
      · exact Or.inr heq
      · exact Or.inl hmem

/-- A room is listed no more. -/
theorem mem_removeRoom {o : LobbyObject} {roomId : String} {entry : String × RoomSummary} :
    entry ∈ (o.removeRoom roomId).rooms ↔ entry ∈ o.rooms ∧ entry.1 ≠ roomId := by
  unfold removeRoom
  rw [List.mem_filter]
  simp

theorem mem_freshRooms {o : LobbyObject} {now : Nat} {entry : String × RoomSummary} :
    entry ∈ (o.freshRooms now).rooms ↔ entry ∈ o.rooms ∧ joinable now entry.2 = true :=
  List.mem_filter

/-- When a room is listed. -/
theorem joinable_iff {now : Nat} {room : RoomSummary} :
    joinable now room = true ↔ room.status ≠ .closed ∧ now < room.expiresAt ∧
    room.canJoin = true := by
  unfold joinable
  rw [Bool.and_eq_true, Bool.and_eq_true, bne_iff_ne, decide_eq_true_iff, and_assoc]

/-- A listing names the joinable rooms. -/
theorem mem_listRooms {o : LobbyObject} {now : Nat} {room : RoomSummary} :
    room ∈ (o.listRooms now).2 ↔ ∃ roomId, (roomId, room) ∈ o.rooms ∧ joinable now room = true := by
  unfold listRooms sortedJoinableRooms
  dsimp only
  rw [List.mem_mergeSort, List.mem_filter, List.mem_map]
  constructor
  · rintro ⟨⟨entry, hentry, rfl⟩, hjoinable⟩
    exact ⟨entry.1, (mem_freshRooms.mp hentry).1, hjoinable⟩
  · rintro ⟨roomId, hentry, hjoinable⟩
    exact ⟨⟨(roomId, room), mem_freshRooms.mpr ⟨hentry, hjoinable⟩, rfl⟩, hjoinable⟩

end LobbyObject

/-! ## Handlers under way -/

/-- The room that the handler is about to tell the lobby of. -/
def Handler.calls : Handler → Option String
  | .upsertRoom room => some room.roomId
  | .removeRoom roomId => some roomId
  | .markConnected roomId _ _ => some roomId
  | _ => none

/-- The room is not open any more. -/
def Left (objects : String → RoomObject) (roomId : String) : Prop :=
  ∃ record, (objects roomId).record = some record ∧ record.status ≠ .«open»

/-- An entry that a handler puts into the lobby: it cannot be joined. -/
structure Unjoinable (objects : String → RoomObject) (room : RoomSummary) : Prop where
  canJoin : room.canJoin = false
  record : ∃ record, (objects room.roomId).record = some record ∧ record.status ≠ .«open» ∧
    record.expiresAt = room.expiresAt

/-- What a handler has still to do does no harm. -/
def HandlerOk (objects : String → RoomObject) : Handler → Prop
  | .upsertRoom room => Unjoinable objects room
  | .removeRoom roomId => Left objects roomId
  | .markConnected roomId _ room => room.roomId = roomId ∧ Unjoinable objects room
  | _ => True

/-- A room that is not open does not become so. -/
theorem ne_open_of_rank {status status' : RoomStatus} (h : status ≠ .«open»)
    (hrank : status.rank ≤ status'.rank) : status' ≠ .«open» := by
  rintro rfl
  cases status with
  | «open» => exact h rfl
  | joining => exact absurd hrank (by decide)
  | connected => exact absurd hrank (by decide)
  | closed => exact absurd hrank (by decide)

variable {objects objects' : String → RoomObject}

/-- A room that was left stays so. -/
theorem Left.moves {roomId : String} (h : Left objects roomId)
    (hmoves : ∀ roomId, Moves (objects roomId) (objects' roomId)) : Left objects' roomId := by
  obtain ⟨record, hrecord, hstatus⟩ := h
  obtain ⟨record', hrecord', -, hrank⟩ := hmoves roomId record hrecord
  exact ⟨record', hrecord', ne_open_of_rank hstatus hrank⟩

/-- An entry that is out of date stays so. -/
theorem Unjoinable.moves {room : RoomSummary} (h : Unjoinable objects room)
    (hmoves : ∀ roomId, Moves (objects roomId) (objects' roomId)) : Unjoinable objects' room := by
  obtain ⟨hcanJoin, record, hrecord, hstatus, hexpires⟩ := h
  obtain ⟨record', hrecord', hexpires', hrank⟩ := hmoves room.roomId record hrecord
  exact ⟨hcanJoin, record', hrecord', ne_open_of_rank hstatus hrank, hexpires'.trans hexpires⟩

/-- What a handler has still to do stays harmless. -/
theorem HandlerOk.moves {handler : Handler} (h : HandlerOk objects handler)
    (hmoves : ∀ roomId, Moves (objects roomId) (objects' roomId)) : HandlerOk objects' handler := by
  cases handler with
  | join roomId params => trivial
  | upsertRoom room => exact Unjoinable.moves h hmoves
  | removeRoom roomId => exact Left.moves h hmoves
  | markConnected roomId role room => exact ⟨h.1, h.2.moves hmoves⟩
  | fetchConnected roomId role => trivial

/-! ## The invariant -/

/-- The tokens issued for a room. -/
def Server.issuedFor (s : Server) (roomId : String) : List (String × String) :=
  s.issued.filter fun token => token.1 = roomId

/-- The invariant of the server. -/
structure ServerInv (s : Server) : Prop where
  rooms : ∀ roomId, RoomInv roomId (s.objects roomId)
  entry : ∀ entry ∈ s.lobby.rooms, entry.2.roomId = entry.1 ∧
    (∃ record, (s.objects entry.1).record = some record ∧ record.expiresAt = entry.2.expiresAt) ∧
    (entry.2.canJoin = true → entry.1 ∉ s.dropped)
  handler : ∀ handler ∈ s.handlers, HandlerOk s.objects handler
  listed : ∀ roomId record, (s.objects roomId).record = some record → record.status = .«open» →
    roomId ∉ s.dropped →
    ∃ room, (roomId, room) ∈ s.lobby.rooms ∧ room.status = .«open» ∧ room.canJoin = true
  unlisted : ∀ roomId, Left s.objects roomId →
    (∃ handler ∈ s.handlers, handler.calls = some roomId) ∨
      ∀ room, (roomId, room) ∈ s.lobby.rooms → room.canJoin = false
  dropped : ∀ roomId ∈ s.dropped, (s.objects roomId).record.isSome
  once : ∀ roomId, (s.issuedFor roomId).length ≤ 1
  unissued : ∀ roomId, ¬ Left s.objects roomId → s.issuedFor roomId = []

variable {s s' : Server}

/-- Rooms move on; where one is left, a handler under way will tell the lobby. -/
structure Advances (s : Server) (objects : String → RoomObject) (added : List Handler) : Prop where
  rooms : ∀ roomId, RoomInv roomId (objects roomId)
  moves : ∀ roomId, Moves (s.objects roomId) (objects roomId)
  created : ∀ roomId, (objects roomId).record.isSome → (s.objects roomId).record.isSome
  handler : ∀ handler ∈ added, HandlerOk objects handler
  leaves : ∀ roomId, Left objects roomId → ¬ Left s.objects roomId →
    ∃ handler ∈ added, handler.calls = some roomId

/-- Rooms that move on, with new handlers, keep the invariant. -/
theorem ServerInv.advance (h : ServerInv s) {objects : String → RoomObject} {added : List Handler}
    (hadvance : Advances s objects added) :
    ServerInv { s with objects, handlers := s.handlers ++ added } where
  rooms := hadvance.rooms
  entry := by
    intro entry hentry
    obtain ⟨hid, ⟨record, hrecord, hexpires⟩, hdropped⟩ := h.entry entry hentry
    obtain ⟨record', hrecord', hexpires', -⟩ := hadvance.moves entry.1 record hrecord
    exact ⟨hid, ⟨record', hrecord', hexpires'.trans hexpires⟩, hdropped⟩
  handler := by
    intro handler hhandler
    rcases List.mem_append.mp hhandler with hhandler | hhandler
    · exact (h.handler handler hhandler).moves hadvance.moves
    · exact hadvance.handler handler hhandler
  listed := by
    intro roomId record hrecord hstatus hdropped
    obtain ⟨before, hbefore⟩ :=
      Option.isSome_iff_exists.mp (hadvance.created roomId (hrecord ▸ rfl))
    obtain ⟨record', hrecord', -, hrank⟩ := hadvance.moves roomId before hbefore
    rw [hrecord] at hrecord'
    cases hrecord'
    refine h.listed roomId before hbefore ?_ hdropped
    by_contra hne
    exact ne_open_of_rank hne hrank hstatus
  unlisted := by
    intro roomId hleft
    by_cases hbefore : Left s.objects roomId
    · rcases h.unlisted roomId hbefore with ⟨handler, hhandler, hcalls⟩ | hentries
      · exact Or.inl ⟨handler, List.mem_append_left _ hhandler, hcalls⟩
      · exact Or.inr hentries
    · obtain ⟨handler, hhandler, hcalls⟩ := hadvance.leaves roomId hleft hbefore
      exact Or.inl ⟨handler, List.mem_append_right _ hhandler, hcalls⟩
  dropped := by
    intro roomId hroomId
    obtain ⟨record, hrecord⟩ := Option.isSome_iff_exists.mp (h.dropped roomId hroomId)
    obtain ⟨record', hrecord', -, -⟩ := hadvance.moves roomId record hrecord
    exact hrecord' ▸ rfl
  once := h.once
  unissued := by
    intro roomId hnotLeft
    exact h.unissued roomId fun hleft => hnotLeft (hleft.moves hadvance.moves)

/-- One room moves on. -/
theorem advances_setObject (h : ServerInv s) {roomId : String} {o : RoomObject}
    {added : List Handler} (hroom : RoomInv roomId o) (hmoves : Moves (s.objects roomId) o)
    (hcreated : o.record.isSome → (s.objects roomId).record.isSome)
    (hhandler : ∀ handler ∈ added, HandlerOk (Function.update s.objects roomId o) handler)
    (hleaves : ∀ before, (s.objects roomId).record = some before → before.status = .«open» →
      ∀ record, o.record = some record → record.status ≠ .«open» →
      ∃ handler ∈ added, handler.calls = some roomId) :
    Advances s (Function.update s.objects roomId o) added := by
  refine ⟨?_, ?_, ?_, hhandler, ?_⟩
  · intro id
    by_cases heq : id = roomId
    · subst heq
      rw [Function.update_self]
      exact hroom
    · rw [Function.update_of_ne heq]
      exact h.rooms id
  · intro id
    by_cases heq : id = roomId
    · subst heq
      rw [Function.update_self]
      exact hmoves
    · rw [Function.update_of_ne heq]
      exact moves_of_record rfl
  · intro id
    by_cases heq : id = roomId
    · subst heq
      rw [Function.update_self]
      exact hcreated
    · rw [Function.update_of_ne heq]
      exact fun hsome => hsome
  · intro id hleft hnot
    by_cases heq : id = roomId
    · subst heq
      obtain ⟨record, hrecord, hstatus⟩ := hleft
      rw [Function.update_self] at hrecord
      obtain ⟨before, hbefore⟩ := Option.isSome_iff_exists.mp (hcreated (hrecord ▸ rfl))
      refine hleaves before hbefore ?_ record hrecord hstatus
      by_contra hne
      exact hnot ⟨before, hbefore, hne⟩
    · obtain ⟨record, hrecord, hstatus⟩ := hleft
      rw [Function.update_of_ne heq] at hrecord
      exact absurd ⟨record, hrecord, hstatus⟩ hnot

theorem left_update {roomId : String} {o : RoomObject} {record : RoomRecord}
    (hrecord : o.record = some record)
    (hstatus : record.status ≠ .«open») : Left (Function.update objects roomId o) roomId :=
  ⟨record, by rw [Function.update_self]; exact hrecord, hstatus⟩

/-- A room whose record stays. -/
theorem ServerInv.setRoom (h : ServerInv s) {roomId : String} {o : RoomObject}
    (hroom : RoomInv roomId o)
    (hrecord : o.record = (s.objects roomId).record) : ServerInv (s.setObject roomId o) := by
  have hadvances : Advances s (Function.update s.objects roomId o) [] := by
    refine advances_setObject h hroom (moves_of_record hrecord) (fun hsome => hrecord ▸ hsome)
      (fun _ hmem => (List.not_mem_nil hmem).elim) ?_
    intro before hbefore hopen record hsome hstatus
    rw [hrecord, hbefore] at hsome
    cases hsome
    exact absurd hopen hstatus
  have hadvance := h.advance hadvances
  rw [List.append_nil] at hadvance
  exact hadvance

/-- A room whose record changes, with a handler that will tell the lobby. -/
theorem ServerInv.leave (h : ServerInv s) {roomId : String} {o : RoomObject} {handler : Handler}
    (hroom : RoomInv roomId o) (hmoves : Moves (s.objects roomId) o)
    (hsome : (s.objects roomId).record.isSome) (hcalls : handler.calls = some roomId)
    (hhandler : HandlerOk (Function.update s.objects roomId o) handler) :
    ServerInv ((s.setObject roomId o).wait handler) := by
  refine h.advance (advances_setObject h hroom hmoves (fun _ => hsome) ?_ ?_)
  · intro handler' hmem
    rw [List.mem_singleton.mp hmem]
    exact hhandler
  · intro _ _ _ _ _ _
    exact ⟨handler, List.mem_singleton_self handler, hcalls⟩

/-! ## Calls of the lobby -/

/-- The lobby after the call of a handler. -/
def Handler.applied (o : LobbyObject) : Handler → LobbyObject
  | .upsertRoom room => o.upsertRoom room
  | .removeRoom roomId => o.removeRoom roomId
  | .markConnected _ _ room => o.upsertRoom room
  | _ => o

/-- Where an entry of the lobby comes from. -/
theorem entry_applied {handler : Handler} (hok : HandlerOk objects handler) {o : LobbyObject}
    {entry : String × RoomSummary} (h : entry ∈ (handler.applied o).rooms) :
    (entry ∈ o.rooms ∧ handler.calls ≠ some entry.1) ∨
      handler.calls = some entry.1 ∧ entry.2.roomId = entry.1 ∧ Unjoinable objects entry.2 ∨
      handler.calls = none ∧ entry ∈ o.rooms := by
  cases handler with
  | join roomId params => exact Or.inr (Or.inr ⟨rfl, h⟩)
  | upsertRoom room =>
    rcases LobbyObject.mem_upsertRoom.mp h with rfl | ⟨hmem, hne⟩
    · exact Or.inr (Or.inl ⟨rfl, rfl, hok⟩)
    · exact Or.inl ⟨hmem, fun heq => hne (Option.some.inj heq).symm⟩
  | removeRoom roomId =>
    obtain ⟨hmem, hne⟩ := LobbyObject.mem_removeRoom.mp h
    exact Or.inl ⟨hmem, fun heq => hne (Option.some.inj heq).symm⟩
  | markConnected roomId role room =>
    obtain ⟨rfl, hok⟩ := hok
    rcases LobbyObject.mem_upsertRoom.mp h with rfl | ⟨hmem, hne⟩
    · exact Or.inr (Or.inl ⟨rfl, rfl, hok⟩)
    · exact Or.inl ⟨hmem, fun heq => hne (Option.some.inj heq).symm⟩
  | fetchConnected roomId role => exact Or.inr (Or.inr ⟨rfl, h⟩)

/-- A handler touches the entry of its room only. -/
theorem mem_applied {handler : Handler} (hok : HandlerOk objects handler) {o : LobbyObject}
    {entry : String × RoomSummary} (h : entry ∈ o.rooms) (hne : handler.calls ≠ some entry.1) :
    entry ∈ (handler.applied o).rooms := by
  cases handler with
  | join roomId params => exact h
  | upsertRoom room =>
    exact LobbyObject.mem_upsertRoom.mpr (Or.inr ⟨h, fun heq => hne (by rw [heq]; rfl)⟩)
  | removeRoom roomId => exact LobbyObject.mem_removeRoom.mpr ⟨h, fun heq => hne (by rw [heq]; rfl)⟩
  | markConnected roomId role room =>
    refine LobbyObject.mem_upsertRoom.mpr (Or.inr ⟨h, fun heq => hne ?_⟩)
    rw [heq, hok.1]
    rfl
  | fetchConnected roomId role => exact h

/-- A handler whose room has no entry left that could be joined is done with it. -/
theorem HandlerOk.left {handler : Handler} (h : HandlerOk objects handler) {roomId : String}
    (hcalls : handler.calls = some roomId) : Left objects roomId := by
  cases handler with
  | join _ _ => cases hcalls
  | upsertRoom room =>
    cases hcalls
    obtain ⟨record, hrecord, hstatus, -⟩ := h.record
    exact ⟨record, hrecord, hstatus⟩
  | removeRoom _ =>
    cases hcalls
    exact h
  | markConnected _ _ room =>
    cases hcalls
    obtain ⟨hid, hok⟩ := h
    obtain ⟨record, hrecord, hstatus, -⟩ := hok.record
    exact ⟨record, hid ▸ hrecord, hstatus⟩
  | fetchConnected _ _ => cases hcalls

/-- One handler is done, the others are still there. -/
theorem mem_eraseIdx_or {handler other : Handler} {handlers : List Handler} {index : Nat}
    (hindex : handlers[index]? = some handler) (h : other ∈ handlers) :
    other ∈ handlers.eraseIdx index ∨ other = handler := by
  obtain ⟨i, hi⟩ := List.mem_iff_getElem?.mp h
  by_cases heq : i = index
  · subst heq
    rw [hindex] at hi
    exact Or.inr (Option.some.inj hi).symm
  · exact Or.inl (List.mem_eraseIdx_iff_getElem?.mpr ⟨i, heq, hi⟩)

/-- A handler has made its call. -/
theorem ServerInv.apply (h : ServerInv s) {index : Nat} {handler : Handler}
    (hindex : s.handlers[index]? = some handler) :
    ServerInv
      { s with handlers := s.handlers.eraseIdx index, lobby := handler.applied s.lobby } := by
  have hok := h.handler handler (List.mem_of_getElem? hindex)
  refine ⟨h.rooms, ?_, ?_, ?_, ?_, h.dropped, h.once, h.unissued⟩
  · intro entry hentry
    rcases entry_applied hok hentry with ⟨hmem, -⟩ | ⟨-, hid, hunjoinable⟩ | ⟨-, hmem⟩
    · exact h.entry entry hmem
    · obtain ⟨record, hrecord, -, hexpires⟩ := hunjoinable.record
      refine ⟨hid, ⟨record, hid ▸ hrecord, hexpires⟩, fun hcanJoin => ?_⟩
      rw [hunjoinable.canJoin] at hcanJoin
      cases hcanJoin
    · exact h.entry entry hmem
  · intro other hother
    exact h.handler other (List.mem_of_mem_eraseIdx hother)
  · intro roomId record hrecord hstatus hdropped
    obtain ⟨room, hroom, hopen, hcanJoin⟩ := h.listed roomId record hrecord hstatus hdropped
    refine ⟨room, mem_applied hok hroom ?_, hopen, hcanJoin⟩
    intro hcalls
    obtain ⟨record', hrecord', hstatus'⟩ := hok.left hcalls
    rw [hrecord] at hrecord'
    cases hrecord'
    exact hstatus' hstatus
  · intro roomId hleft
    by_cases hcalls : handler.calls = some roomId
    · right
      intro room hroom
      rcases entry_applied hok hroom with ⟨-, hne⟩ | ⟨-, -, hunjoinable⟩ | ⟨hnone, -⟩
      · exact absurd hcalls hne
      · exact hunjoinable.canJoin
      · rw [hnone] at hcalls
        cases hcalls
    · rcases h.unlisted roomId hleft with ⟨other, hother, hothers⟩ | hentries
      · rcases mem_eraseIdx_or hindex hother with hmem | rfl
        · exact Or.inl ⟨other, hmem, hothers⟩
        · exact absurd hothers hcalls
      · right
        intro room hroom
        rcases entry_applied hok hroom with ⟨hmem, -⟩ | ⟨hcall, -, -⟩ | ⟨-, hmem⟩
        · exact hentries room hmem
        · exact absurd hcall hcalls
        · exact hentries room hmem

/-- A handler goes on to something that makes no call. -/
theorem ServerInv.wait (h : ServerInv s) {handler : Handler} (hok : HandlerOk s.objects handler) :
    ServerInv (s.wait handler) := by
  have hadvances : Advances s s.objects [handler] := by
    refine ⟨h.rooms, fun _ => moves_of_record rfl, fun _ hsome => hsome, ?_, ?_⟩
    · intro other hother
      rw [List.mem_singleton.mp hother]
      exact hok
    · exact fun _ hleft hnot => absurd hleft hnot
  exact h.advance hadvances

theorem ServerInv.list (h : ServerInv s) (now : Nat) :
    ServerInv { s with
      lobby := (s.lobby.listRooms now).1
      dropped := s.dropped ++ (s.lobby.rooms.filter fun entry =>
        entry.2.expiresAt ≤ now).map Prod.fst } := by
  have hexpired : ∀ roomId ∈
    (s.lobby.rooms.filter fun entry => entry.2.expiresAt ≤ now).map Prod.fst,
      ∃ room, (roomId, room) ∈ s.lobby.rooms ∧ room.expiresAt ≤ now := by
    intro roomId hroomId
    obtain ⟨entry, hentry, rfl⟩ := List.mem_map.mp hroomId
    obtain ⟨hmem, hle⟩ := List.mem_filter.mp hentry
    exact ⟨entry.2, hmem, of_decide_eq_true hle⟩
  refine ⟨h.rooms, ?_, h.handler, ?_, ?_, ?_, h.once, h.unissued⟩
  · intro entry hentry
    obtain ⟨hmem, hjoinable⟩ := LobbyObject.mem_freshRooms.mp hentry
    obtain ⟨hid, ⟨record, hrecord, hexpires⟩, hdropped⟩ := h.entry entry hmem
    refine ⟨hid, ⟨record, hrecord, hexpires⟩, ?_⟩
    intro hcanJoin hin
    rcases List.mem_append.mp hin with hin | hin
    · exact hdropped hcanJoin hin
    · obtain ⟨room, hroom, hle⟩ := hexpired entry.1 hin
      obtain ⟨-, ⟨record', hrecord', hexpires'⟩, -⟩ := h.entry (entry.1, room) hroom
      dsimp only at hrecord' hexpires'
      rw [hrecord] at hrecord'
      cases hrecord'
      have hlt := (LobbyObject.joinable_iff.mp hjoinable).2.1
      omega
  · intro roomId record hrecord hstatus hdropped
    rw [List.mem_append, not_or] at hdropped
    obtain ⟨room, hroom, hopen, hcanJoin⟩ := h.listed roomId record hrecord hstatus hdropped.1
    refine ⟨room, LobbyObject.mem_freshRooms.mpr
      ⟨hroom, LobbyObject.joinable_iff.mpr ⟨?_, ?_, hcanJoin⟩⟩,
      hopen, hcanJoin⟩
    · rw [hopen]
      decide
    · by_contra hle
      refine hdropped.2 (List.mem_map.mpr ⟨(roomId, room), List.mem_filter.mpr ⟨hroom, ?_⟩, rfl⟩)
      exact decide_eq_true (Nat.le_of_not_lt hle)
  · intro roomId hleft
    rcases h.unlisted roomId hleft with hcalls | hentries
    · exact Or.inl hcalls
    · exact Or.inr fun room hroom => hentries room (LobbyObject.mem_freshRooms.mp hroom).1
  · intro roomId hroomId
    rcases List.mem_append.mp hroomId with hroomId | hroomId
    · exact h.dropped roomId hroomId
    · obtain ⟨room, hroom, -⟩ := hexpired roomId hroomId
      obtain ⟨-, ⟨record, hrecord, -⟩, -⟩ := h.entry (roomId, room) hroom
      exact hrecord ▸ rfl

/-! ## Creating a room and issuing its token -/

/-- A room without a record, and so without sockets, gets one. -/
theorem ServerInv.create (h : ServerInv s) (record : RoomRecord)
    (hnone : (s.objects record.roomId).record = none) (hopen : record.status = .«open»)
    (htoken : record.joinToken = none) :
    ServerInv { s.setObject record.roomId { s.objects record.roomId with
      record := some record } with
      lobby := s.lobby.upsertRoom (publicRoom record 0) } := by
  have hmoves : ∀ roomId, Moves (s.objects roomId)
      (Function.update s.objects record.roomId
        { s.objects record.roomId with record := some record } roomId) := by
    intro roomId
    by_cases heq : roomId = record.roomId
    · intro before hbefore
      rw [heq, hnone] at hbefore
      cases hbefore
    · rw [Function.update_of_ne heq]
      exact moves_of_record rfl
  have hleft : ∀ roomId, Left (Function.update s.objects record.roomId
      { s.objects record.roomId with record := some record }) roomId →
      roomId ≠ record.roomId ∧ Left s.objects roomId := by
    rintro roomId ⟨record', hrecord', hstatus⟩
    by_cases heq : roomId = record.roomId
    · rw [heq, Function.update_self] at hrecord'
      cases hrecord'
      exact absurd hopen hstatus
    · rw [Function.update_of_ne heq] at hrecord'
      exact ⟨heq, record', hrecord', hstatus⟩
  refine ⟨?_, ?_, ?_, ?_, ?_, ?_, h.once, ?_⟩
  · intro roomId
    dsimp only [Server.setObject]
    by_cases heq : roomId = record.roomId
    · subst heq
      rw [Function.update_self]
      refine ⟨(h.rooms record.roomId).onePerRole, ?_, ?_⟩
      · intro ws hws a ha
        obtain ⟨_, _, _, _, _, hrecord', _⟩ := (h.rooms record.roomId).opened ws hws a ha
        rw [hnone] at hrecord'
        cases hrecord'
      · rintro record' ⟨⟩
        exact ⟨rfl, fun _ => htoken⟩
    · rw [Function.update_of_ne heq]
      exact h.rooms roomId
  · intro entry hentry
    rcases LobbyObject.mem_upsertRoom.mp hentry with rfl | ⟨hmem, hne⟩
    · refine ⟨rfl, ⟨record, ?_, rfl⟩, ?_⟩
      · exact congrArg RoomObject.record (Function.update_self record.roomId _ s.objects)
      · intro _ hdropped
        have hsome := h.dropped record.roomId hdropped
        rw [hnone] at hsome
        cases hsome
    · obtain ⟨hid, ⟨before, hbefore, hexpires⟩, hdropped⟩ := h.entry entry hmem
      obtain ⟨after, hafter, hsame, -⟩ := hmoves entry.1 before hbefore
      exact ⟨hid, ⟨after, hafter, hsame.trans hexpires⟩, hdropped⟩
  · intro handler hhandler
    exact (h.handler handler hhandler).moves hmoves
  · intro roomId record' hrecord' hstatus hdropped
    dsimp only [Server.setObject] at hrecord'
    by_cases heq : roomId = record.roomId
    · subst heq
      refine ⟨publicRoom record 0, LobbyObject.mem_upsertRoom.mpr (Or.inl rfl), hopen, ?_⟩
      unfold publicRoom
      rw [hopen]
      rfl
    · rw [Function.update_of_ne heq] at hrecord'
      obtain ⟨room, hroom, hroomOpen, hcanJoin⟩ := h.listed roomId record' hrecord' hstatus hdropped
      exact ⟨room, LobbyObject.mem_upsertRoom.mpr (Or.inr ⟨hroom, heq⟩), hroomOpen, hcanJoin⟩
  · intro roomId hleftRoom
    obtain ⟨hne, hbefore⟩ := hleft roomId hleftRoom
    rcases h.unlisted roomId hbefore with hcalls | hentries
    · exact Or.inl hcalls
    · right
      intro room hroom
      rcases LobbyObject.mem_upsertRoom.mp hroom with heq | ⟨hmem, -⟩
      · exact absurd (congrArg Prod.fst heq) hne
      · exact hentries room hmem
  · intro roomId hroomId
    obtain ⟨before, hbefore⟩ := Option.isSome_iff_exists.mp (h.dropped roomId hroomId)
    obtain ⟨after, hafter, -, -⟩ := hmoves roomId before hbefore
    exact Option.isSome_iff_exists.mpr ⟨after, hafter⟩
  · intro roomId hnotLeft
    exact h.unissued roomId fun hbefore => hnotLeft (hbefore.moves hmoves)

/-- A token is issued for a room that is not open any more and has none yet. -/
theorem ServerInv.issue (h : ServerInv s) {roomId : String} (hleft : Left s.objects roomId)
    (hnone : s.issuedFor roomId = []) (token : String) :
    ServerInv { s with issued := s.issued ++ [(roomId, token)] } := by
  have hissued : ∀ id, ({ s with issued := s.issued ++ [(roomId, token)] } : Server).issuedFor id =
      s.issuedFor id ++ if id = roomId then [(roomId, token)] else [] := by
    intro id
    unfold Server.issuedFor
    dsimp only
    rw [List.filter_append]
    by_cases heq : id = roomId
    · rw [if_pos heq, heq, List.filter_cons_of_pos (by simp), List.filter_nil]
    · rw [if_neg heq, List.filter_cons_of_neg (by simpa using fun h : roomId = id => heq h.symm),
        List.filter_nil]
  refine ⟨h.rooms, h.entry, h.handler, h.listed, h.unlisted, h.dropped, ?_, ?_⟩
  · intro id
    rw [hissued]
    by_cases heq : id = roomId
    · rw [if_pos heq, heq, hnone]
      exact Nat.le_refl _
    · rw [if_neg heq, List.append_nil]
      exact h.once id
  · intro id hnotLeft
    have hne : id ≠ roomId := by
      rintro rfl
      exact hnotLeft hleft
    rw [hissued, if_neg hne, List.append_nil]
    exact h.unissued id hnotLeft

/-! ## Events -/

/-- The invariant is kept, and every room moves on. -/
structure Kept (s s' : Server) : Prop where
  inv : ServerInv s'
  moves : ∀ roomId, Moves (s.objects roomId) (s'.objects roomId)

theorem kept_of_objects (h : ServerInv s') (hobjects : s'.objects = s.objects) : Kept s s' :=
  ⟨h, fun roomId => moves_of_record (by rw [hobjects])⟩

theorem moves_setObject {roomId : String} {o : RoomObject} (h : Moves (s.objects roomId) o) :
    ∀ id, Moves (s.objects id) (Function.update s.objects roomId o id) := by
  intro id
  by_cases heq : id = roomId
  · subst heq
    rw [Function.update_self]
    exact h
  · rw [Function.update_of_ne heq]
    exact moves_of_record rfl

/-- One lemma for each event: a room is created. -/
theorem kept_createRoom (h : ServerInv s) {params : CreateRoomParams}
    (hstep : s.step (.createRoom params) = some s') : Kept s s' := by
  unfold Server.step at hstep
  dsimp only at hstep
  split at hstep
  · cases hstep
  next hnotSome =>
  have hnone : (s.objects params.roomId).record = none := by
    cases hrecord : (s.objects params.roomId).record with
    | none => rfl
    | some record =>
      rw [hrecord] at hnotSome
      exact absurd rfl hnotSome
  unfold createRoom at hstep
  rw [hnone, Option.any_none, if_neg Bool.false_ne_true] at hstep
  cases hstep
  refine ⟨h.create ⟨params.roomId, params.hostToken, none, .«open», params.romPairId,
    params.now, params.now,
    params.expiresAt, true⟩ hnone rfl rfl, moves_setObject ?_⟩
  intro record hrecord
  rw [hnone] at hrecord
  cases hrecord

/-- Somebody asks for a room. -/
theorem kept_join (h : ServerInv s) {roomId romPairId joinToken : String} {now : Nat}
    (hstep : s.step (.join roomId romPairId joinToken now) = some s') : Kept s s' := by
  unfold Server.step at hstep
  dsimp only at hstep
  split at hstep
  · cases hstep
    exact kept_of_objects h rfl
  · split at hstep
    · cases hstep
      exact kept_of_objects h rfl
    · cases hstep
      exact kept_of_objects (h.wait trivial) rfl

theorem record_closeRoom {o : RoomObject} {now : Nat} {record : RoomRecord}
    (h : o.record = some record) :
    (o.closeRoom now).record =
      some { record with status := .closed, updatedAt := now, canJoin := false } := by
  unfold closeRoom
  rw [h, Option.map_some]

/-- The host closes a room. -/
theorem kept_close (h : ServerInv s) {roomId : String} {now : Nat}
    (hstep : s.step (.close roomId now) = some s') : Kept s s' := by
  unfold Server.step at hstep
  dsimp only at hstep
  split at hstep
  · cases hstep
  next hnotNone =>
  cases hstep
  cases hrecord : (s.objects roomId).record with
  | none =>
    rw [hrecord] at hnotNone
    exact absurd rfl hnotNone
  | some record =>
    have hmoves := moves_closeRoom (s.objects roomId) now
    exact ⟨h.leave ((h.rooms roomId).closeRoom now) hmoves (hrecord ▸ rfl) rfl
      (left_update (record_closeRoom hrecord) (by simp)), moves_setObject hmoves⟩

/-- A socket is asked for. -/
theorem kept_fetch (h : ServerInv s) {server : Nat} {request : FetchRequest} {now : Nat}
    (hstep : s.step (.fetch server request now) = some s') : Kept s s' := by
  unfold Server.step at hstep
  dsimp only at hstep
  split at hstep
  · cases hstep
  next hguard =>
  have hguard : (s.objects request.session).record ≠ none ∧
      Server.isNew (s.objects request.session) server = true := by simpa using hguard
  obtain ⟨hsome, hisNew⟩ := hguard
  have hsome := Option.isSome_iff_ne_none.mpr hsome
  unfold Server.isNew at hisNew
  rw [Bool.and_eq_true] at hisNew
  have hnew := of_decide_eq_true hisNew.2
  split at hstep
  · cases hstep
    exact kept_of_objects h rfl
  · next o hfetch =>
    cases hstep
    have hroom := (h.rooms request.session).fetch rfl hsome hnew hfetch
    have hrecord : o.record = (s.objects request.session).record := by
      obtain ⟨-, hcases⟩ := fetch_cases hfetch
      cases hcases with
      | alone _ => rfl
      | again _ _ => rfl
    exact ⟨h.setRoom hroom hrecord, moves_setObject (moves_of_record hrecord)⟩
  · next o room hfetch =>
    cases hstep
    have hroom := (h.rooms request.session).fetch rfl hsome hnew hfetch
    have hmoves := moves_fetch hfetch
    obtain ⟨-, hcases⟩ := fetch_cases hfetch
    cases hcases with
    | @first signaling record _ hrecord _ =>
      have hid := ((h.rooms request.session).record record hrecord).1
      refine ⟨h.leave hroom hmoves hsome rfl ⟨hid, rfl, ?_⟩, moves_setObject hmoves⟩
      refine ⟨connectedRecord record now, ?_, by simp [connectedRecord], rfl⟩
      have hself : (publicRoom (connectedRecord record now) 2).roomId = request.session := hid
      rw [hself, Function.update_self]

/-- A client says something. -/
theorem kept_message (h : ServerInv s) {roomId : String} {ws : Nat} {message : ClientMessage}
    (hstep : s.step (.message roomId ws message) = some s') : Kept s s' := by
  unfold Server.step at hstep
  dsimp only at hstep
  split at hstep
  · cases hstep
    exact ⟨h.setRoom ((h.rooms roomId).webSocketMessage ws message) rfl,
      moves_setObject (moves_of_record rfl)⟩
  · cases hstep

/-- A socket is closed. -/
theorem kept_closed (h : ServerInv s) {roomId : String} {ws now : Nat}
    (hstep : s.step (.closed roomId ws now) = some s') : Kept s s' := by
  have hroom := (h.rooms roomId).webSocketClose ws now
  have hmoves := moves_webSocketClose (s.objects roomId) ws now
  unfold Server.step at hstep
  dsimp only at hstep
  split at hstep
  · next hws =>
    unfold RoomObject.webSocketClose at hstep hroom hmoves
    dsimp only at hstep hroom hmoves
    cases ha : ((s.objects roomId).room.sockets ws).attachment with
    | none =>
      rw [ha] at hstep hroom hmoves
      cases hstep
      exact ⟨h.setRoom hroom rfl, moves_setObject hmoves⟩
    | some a =>
      rw [ha] at hstep hroom hmoves
      dsimp only at hstep hroom hmoves
      obtain ⟨request, record, hrequest, hsession, -, hrecord, -, -⟩ :=
        (h.rooms roomId).opened ws hws a ha
      by_cases hplain : (!a.legacy && !a.recovery) = true
      · rw [if_pos hplain] at hstep hroom hmoves
        rw [hrequest, Option.map_some, hsession] at hstep
        cases hstep
        have hclosed : (RoomObject.closeRoom ⟨(s.objects roomId).record,
            (s.objects roomId).room.webSocketClose ws, (s.objects roomId).requests⟩ now).record =
            some { record with status := .closed, updatedAt := now, canJoin := false } :=
          record_closeRoom hrecord
        exact ⟨h.leave hroom hmoves (hrecord ▸ rfl) rfl (left_update hclosed (by simp)),
          moves_setObject hmoves⟩
      · rw [if_neg hplain] at hstep hroom hmoves
        cases hstep
        exact ⟨h.setRoom hroom rfl, moves_setObject hmoves⟩
  · cases hstep

/-- A handler goes on. -/
theorem kept_resume (h : ServerInv s) {index : Nat} (hstep : s.step (.resume index) = some s') :
    Kept s s' := by
  unfold Server.step at hstep
  dsimp only at hstep
  split at hstep
  · cases hstep
  next handler hindex =>
  cases hstep
  have happly := h.apply hindex
  cases handler with
  | join roomId params =>
    unfold Server.resume
    dsimp only
    split
    · exact kept_of_objects happly rfl
    · next o record hreserve =>
      have hmoves := moves_reserveJoin hreserve
      have hroom := (h.rooms roomId).reserve hreserve
      obtain ⟨before, hbefore, hopen, -, hrecord, ho⟩ := reserveJoin_cases hreserve
      have hstatus : record.status ≠ .«open» := by
        rw [hrecord]
        simp
      have hid : record.roomId = roomId := by
        rw [hrecord]
        exact ((h.rooms roomId).record before hbefore).1
      have hleft : Left (Function.update s.objects roomId o) roomId :=
        left_update (ho ▸ rfl) hstatus
      have hok : HandlerOk (Function.update s.objects roomId o)
          (.upsertRoom (publicRoom record 0)) := by
        refine ⟨?_, record, ?_, hstatus, rfl⟩
        · unfold publicRoom
          simpa using hstatus
        · have hself : (publicRoom record 0).roomId = roomId := hid
          rw [hself, Function.update_self, ho]
      have hcalls : (Handler.upsertRoom (publicRoom record 0)).calls = some roomId :=
        congrArg some hid
      have hleave := happly.leave hroom hmoves (hbefore ▸ rfl) hcalls hok
      refine ⟨hleave.issue hleft ?_ params.joinToken, moves_setObject hmoves⟩
      refine h.unissued roomId ?_
      rintro ⟨record', hrecord', hstatus'⟩
      rw [hbefore] at hrecord'
      cases hrecord'
      exact hstatus' hopen
  | upsertRoom room => exact kept_of_objects happly rfl
  | removeRoom roomId => exact kept_of_objects happly rfl
  | markConnected roomId role room => exact kept_of_objects (happly.wait trivial) rfl
  | fetchConnected roomId role =>
    exact ⟨happly.setRoom ((h.rooms roomId).fetchConnected role) rfl,
      moves_setObject (moves_of_record rfl)⟩

/-- Each event keeps the invariant, and moves rooms on only. -/
theorem kept {e : ServerEvent} (h : ServerInv s) (hstep : s.step e = some s') : Kept s s' := by
  cases e with
  | createRoom params => exact kept_createRoom h hstep
  | join roomId romPairId joinToken now => exact kept_join h hstep
  | close roomId now => exact kept_close h hstep
  | fetch server request now => exact kept_fetch h hstep
  | message roomId ws message => exact kept_message h hstep
  | closed roomId ws now => exact kept_closed h hstep
  | resume index => exact kept_resume h hstep
  | listRooms now =>
    cases hstep
    exact kept_of_objects (h.list now) rfl

/-- Nothing is stored in the beginning. -/
theorem serverInv_start : ServerInv {} where
  rooms := by
    intro roomId
    refine ⟨⟨List.nodup_nil, ?_⟩, ?_, ?_⟩
    · exact fun _ h => (List.not_mem_nil h).elim
    · exact fun _ h => (List.not_mem_nil h).elim
    · exact fun _ h => nomatch h
  entry := fun _ h => (List.not_mem_nil h).elim
  handler := fun _ h => (List.not_mem_nil h).elim
  listed := fun _ _ h => nomatch h
  unlisted := fun _ ⟨_, h, _⟩ => nomatch h
  dropped := fun _ h => (List.not_mem_nil h).elim
  once := fun _ => Nat.zero_le _
  unissued := fun _ _ => rfl

/-! ## Replaced sockets -/

theorem replaced_setObject {roomId id : String} {ws : Nat} {o : RoomObject}
    (h : Replaced (s.objects id) ws) (ho : roomId = id → Replaced o ws) :
    Replaced ((s.setObject roomId o).objects id) ws := by
  unfold Server.setObject
  dsimp only
  by_cases heq : id = roomId
  · subst heq
    rw [Function.update_self]
    exact ho rfl
  · rw [Function.update_of_ne heq]
    exact h

/-- No event gives a replaced socket an attachment again: a later request is for another server
side. -/
theorem replaced_step {e : ServerEvent} {roomId : String} {ws : Nat} (hinv : ServerInv s)
    (h : Replaced (s.objects roomId) ws) (hstep : s.step e = some s') :
    Replaced (s'.objects roomId) ws := by
  cases e with
  | createRoom params =>
    unfold Server.step at hstep
    dsimp only at hstep
    split at hstep
    · cases hstep
    split at hstep
    · cases hstep
      exact h
    · next o record hcreate =>
      cases hstep
      unfold createRoom at hcreate
      split at hcreate
      · cases hcreate
      · cases hcreate
        refine replaced_setObject h ?_
        rintro rfl
        exact h.of_record _
  | join id romPairId joinToken now =>
    unfold Server.step at hstep
    dsimp only at hstep
    split at hstep
    · cases hstep
      exact h
    · split at hstep
      · cases hstep
        exact h
      · cases hstep
        exact h
  | close id now =>
    unfold Server.step at hstep
    dsimp only at hstep
    split at hstep
    · cases hstep
    · cases hstep
      refine replaced_setObject h ?_
      rintro rfl
      exact h.of_record _
  | fetch server request now =>
    unfold Server.step at hstep
    dsimp only at hstep
    split at hstep
    · cases hstep
    next hguard =>
    have hguard : (s.objects request.session).record ≠ none ∧
        Server.isNew (s.objects request.session) server = true := by simpa using hguard
    have hisNew := hguard.2
    unfold Server.isNew at hisNew
    rw [Bool.and_eq_true, Bool.and_eq_true] at hisNew
    obtain ⟨⟨hunused, -⟩, hnew⟩ := hisNew
    have hfetched : ∀ {o await},
      (s.objects request.session).fetch server request now = .ok (o, await) →
        Replaced ((s.setObject request.session o).objects roomId) ws := by
      intro o await hfetch
      refine replaced_setObject h ?_
      rintro rfl
      exact h.fetch (hinv.rooms request.session) (of_decide_eq_true hnew)
        (Option.isNone_iff_eq_none.mp hunused) hfetch
    split at hstep
    · cases hstep
      exact h
    · next o hfetch =>
      cases hstep
      exact hfetched hfetch
    · next o room hfetch =>
      cases hstep
      exact hfetched hfetch
  | message id other message =>
    unfold Server.step at hstep
    dsimp only at hstep
    split at hstep
    · cases hstep
      refine replaced_setObject h ?_
      rintro rfl
      exact h.keeps rfl (keeps_webSocketMessage (hinv.rooms id).onePerRole.nodup other message)
    · cases hstep
  | closed id other now =>
    unfold Server.step at hstep
    dsimp only at hstep
    split at hstep
    · have hclosed := fun heq : id = roomId =>
        (heq ▸ h : Replaced (s.objects id) ws).webSocketClose (hinv.rooms id) other now
      split at hstep
      · next o hclose =>
        cases hstep
        rw [hclose] at hclosed
        exact replaced_setObject h hclosed
      · next o session hclose =>
        cases hstep
        rw [hclose] at hclosed
        exact replaced_setObject h hclosed
    · cases hstep
  | resume index =>
    unfold Server.step at hstep
    dsimp only at hstep
    split at hstep
    · cases hstep
    next handler _ =>
    cases hstep
    cases handler with
    | join id params =>
      unfold Server.resume
      dsimp only
      split
      · exact h
      · next o record hreserve =>
        obtain ⟨before, -, -, -, -, rfl⟩ := reserveJoin_cases hreserve
        refine replaced_setObject h ?_
        rintro rfl
        exact h.of_record _
    | upsertRoom room => exact h
    | removeRoom id => exact h
    | markConnected id role room => exact h
    | fetchConnected id role =>
      refine replaced_setObject h ?_
      rintro rfl
      exact h.keeps rfl (keeps_fetchConnected (hinv.rooms id).onePerRole.nodup role)
  | listRooms now =>
    cases hstep
    exact h

/-- A replaced socket stays without an attachment in every later state. -/
theorem replaced_stays {events later : List ServerEvent} {roomId : String} {ws : Nat}
    (hrun : Run.run Server.step {} events = some s) (h : Replaced (s.objects roomId) ws)
    (hlater : Run.run Server.step s later = some s') : Replaced (s'.objects roomId) ws := by
  have hinv : ServerInv s :=
    Run.run_invariant' (fun _ _ _ h hstep => (kept h hstep).inv) serverInv_start hrun
  have hkept : ∀ before e after, ServerInv before ∧ Replaced (before.objects roomId) ws →
      Server.step before e = some after → ServerInv after ∧ Replaced (after.objects roomId) ws := by
    rintro before e after ⟨hbefore, hreplaced⟩ hstep
    exact ⟨(kept hbefore hstep).inv, replaced_step hbefore hreplaced hstep⟩
  exact (Run.run_invariant' hkept ⟨hinv, h⟩ hlater).2

/-! ## The guarantees -/

/-- With no handler under way, the lobby lists the open rooms. -/
theorem ServerInv.listed_iff (h : ServerInv s) (hhandlers : s.handlers = [])
    (now : Nat) (roomId : String) :
    roomId ∈ (s.lobby.listRooms now).2.map RoomSummary.roomId ↔
      ∃ record, (s.objects roomId).record = some record ∧ record.status = .«open» ∧
        now < record.expiresAt ∧ roomId ∉ s.dropped := by
  rw [List.mem_map]
  constructor
  · rintro ⟨room, hroom, rfl⟩
    obtain ⟨id, hmem, hjoinable⟩ := LobbyObject.mem_listRooms.mp hroom
    obtain ⟨-, hlt, hcanJoin⟩ := LobbyObject.joinable_iff.mp hjoinable
    obtain ⟨hid, ⟨record, hrecord, hexpires⟩, hdropped⟩ := h.entry (id, room) hmem
    dsimp only at hid hrecord hexpires hdropped
    subst hid
    refine ⟨record, hrecord, ?_, hexpires ▸ hlt, hdropped hcanJoin⟩
    by_contra hstatus
    rcases h.unlisted room.roomId ⟨record, hrecord, hstatus⟩ with ⟨handler, hhandler, -⟩ | hentries
    · rw [hhandlers] at hhandler
      cases hhandler
    · rw [hentries room hmem] at hcanJoin
      cases hcanJoin
  · rintro ⟨record, hrecord, hstatus, hlt, hdropped⟩
    obtain ⟨room, hmem, hopen, hcanJoin⟩ := h.listed roomId record hrecord hstatus hdropped
    obtain ⟨hid, ⟨record', hrecord', hexpires⟩, -⟩ := h.entry (roomId, room) hmem
    dsimp only at hid hrecord' hexpires
    rw [hrecord] at hrecord'
    cases hrecord'
    refine ⟨room, LobbyObject.mem_listRooms.mpr
      ⟨roomId, hmem, LobbyObject.joinable_iff.mpr ⟨?_, ?_, hcanJoin⟩⟩,
      hid⟩
    · rw [hopen]
      decide
    · exact hexpires ▸ hlt

/-- What an event leaves alone: all rooms but for one socket of one of them, the lobby and the
handlers. -/
structure OnlySocket (s s' : Server) (roomId : String) (ws : Nat) : Prop where
  record : (s'.objects roomId).record = (s.objects roomId).record
  sockets : ∀ ws', ws' ≠ ws →
    (s'.objects roomId).room.sockets ws' = (s.objects roomId).room.sockets ws'
  webSockets : ∀ ws', ws' ≠ ws →
    (ws' ∈ (s'.objects roomId).room.webSockets ↔ ws' ∈ (s.objects roomId).room.webSockets)
  objects : ∀ id, id ≠ roomId → s'.objects id = s.objects id
  lobby : s'.lobby = s.lobby
  handlers : s'.handlers = s.handlers

/-- A replaced socket that says something is not heard. -/
theorem onlySocket_message {roomId : String} {ws : Nat} {message : ClientMessage}
    (ha : ((s.objects roomId).room.sockets ws).attachment = none)
    (hstep : s.step (.message roomId ws message) = some s') : OnlySocket s s' roomId ws := by
  unfold Server.step at hstep
  dsimp only at hstep
  split at hstep
  · cases hstep
    have hclose : (s.objects roomId).room.webSocketMessage ws message =
        (s.objects roomId).room.close ws := by
      unfold SignalingRoom.webSocketMessage
      rw [ha]
    have hobject :
      (s.setObject roomId ((s.objects roomId).webSocketMessage ws message)).objects roomId =
        { s.objects roomId with room := (s.objects roomId).room.close ws } := by
      rw [← hclose]
      exact Function.update_self _ _ _
    refine ⟨by rw [hobject], ?_, ?_, fun id hne => Function.update_of_ne hne _ _, rfl, rfl⟩
    · intro ws' hne
      rw [hobject]
      exact sockets_setSocket_of_ne _ hne _
    · intro ws' _
      rw [hobject]
      exact Iff.rfl
  · cases hstep

/-- A replaced socket that is closed leaves the room alone. -/
theorem onlySocket_closed {roomId : String} {ws now : Nat}
    (ha : ((s.objects roomId).room.sockets ws).attachment = none)
    (hstep : s.step (.closed roomId ws now) = some s') : OnlySocket s s' roomId ws := by
  unfold Server.step at hstep
  dsimp only at hstep
  split at hstep
  · have hclose : (s.objects roomId).webSocketClose ws now =
        ({ s.objects roomId with room := (s.objects roomId).room.dropSocket ws }, none) := by
      unfold RoomObject.webSocketClose SignalingRoom.webSocketClose
      rw [ha]
      rfl
    rw [hclose] at hstep
    cases hstep
    have hobject : (s.setObject roomId
        { s.objects roomId with room := (s.objects roomId).room.dropSocket ws }).objects roomId =
        { s.objects roomId with room := (s.objects roomId).room.dropSocket ws } :=
      Function.update_self _ _ _
    refine ⟨by rw [hobject], ?_, ?_, fun id hne => Function.update_of_ne hne _ _, rfl, rfl⟩
    · intro ws' hne
      rw [hobject]
      exact sockets_dropSocket_of_ne _ hne
    · intro ws' hne
      rw [hobject]
      constructor
      · exact fun hmem => (mem_dropSocket hmem).1
      · exact fun hmem => List.mem_filter.mpr ⟨hmem, by simpa using hne⟩
  · cases hstep

/-- In every run of the server: a room gets at most one join token; its record does not go back; a
role has at most one socket, opened with the token of that role; events of a socket without an
attachment, as a replaced one is, concern that socket only; and with no handler under way the lobby
lists the open rooms that have not expired, less those that it has dropped as expired. By
`replaced_stays` a replaced socket never gets an attachment again. -/
theorem one_host_one_guest {events : List ServerEvent}
    (hrun : Run.run Server.step {} events = some s) :
    (∀ roomId, (s.issuedFor roomId).length ≤ 1) ∧
    (∀ e s', s.step e = some s' → ∀ roomId record, (s.objects roomId).record = some record →
      ∃ record', (s'.objects roomId).record = some record' ∧
      record.status.rank ≤ record'.status.rank) ∧
    (∀ roomId, ∀ ws ∈ (s.objects roomId).room.webSockets, ∀ a,
      ((s.objects roomId).room.sockets ws).attachment = some a →
      (∀ ws' ∈ (s.objects roomId).room.webSockets, ∀ a',
        ((s.objects roomId).room.sockets ws').attachment = some a' → a'.role = a.role → ws' = ws) ∧
      ∃ request record, (s.objects roomId).requests ws = some request ∧ request.role = a.role ∧
        (s.objects roomId).record = some record ∧ request.token = expectedToken record a.role ∧
        request.token.isSome) ∧
    (∀ roomId ws, ((s.objects roomId).room.sockets ws).attachment = none →
      (∀ message s', s.step (.message roomId ws message) = some s' → OnlySocket s s' roomId ws) ∧
      ∀ now s', s.step (.closed roomId ws now) = some s' → OnlySocket s s' roomId ws) ∧
    (s.handlers = [] → ∀ now roomId,
      roomId ∈ (s.lobby.listRooms now).2.map RoomSummary.roomId ↔
        ∃ record, (s.objects roomId).record = some record ∧ record.status = .«open» ∧
          now < record.expiresAt ∧ roomId ∉ s.dropped) := by
  have hinv : ServerInv s :=
    Run.run_invariant' (fun _ _ _ h hstep => (kept h hstep).inv) serverInv_start hrun
  refine ⟨hinv.once, ?_, ?_, ?_, hinv.listed_iff⟩
  · intro e s' hstep roomId record hrecord
    obtain ⟨record', hrecord', -, hrank⟩ := (kept hinv hstep).moves roomId record hrecord
    exact ⟨record', hrecord', hrank⟩
  · intro roomId ws hws a ha
    constructor
    · intro ws' hws' a' ha' hrole
      exact (hinv.rooms roomId).onePerRole.unique ws' hws' ws hws a' a ha' ha hrole
    · obtain ⟨request, record, hrequest, -, hrole, hrecord, htoken, hsome⟩ :=
        (hinv.rooms roomId).opened ws hws a ha
      exact ⟨request, record, hrequest, hrole, hrecord, htoken, hsome⟩
  · intro roomId ws ha
    exact ⟨fun _ _ hstep => onlySocket_message ha hstep, fun _ _ hstep =>
      onlySocket_closed ha hstep⟩

/-- A host creates two rooms, and a guest joins one of them. The guest connects again, so its first
socket is replaced; a late message and the close of that socket follow. Then the host's socket goes,
and the room is closed. -/
def twoRooms : List ServerEvent :=
  [.createRoom ⟨"a", "hostA", "pair", 0, 100⟩, .createRoom ⟨"b", "hostB", "pair", 1, 101⟩,
    .join "a" "pair" "guestA" 2, .resume 0, .fetch 0 ⟨"a", .offer, some "hostA", true⟩ 3,
    .fetch 1 ⟨"a", .answer, some "guestA", true⟩ 4, .resume 1, .resume 0, .resume 0,
    .fetch 2 ⟨"a", .answer, some "guestA", true⟩ 5, .message "a" 1 .ping, .closed "a" 1 6,
    .closed "a" 0 7, .close "a" 8, .resume 0]

/-- Only the room that nobody has joined is listed; the guest's second socket is the one that is
left. -/
theorem one_host_one_guest_twoRooms :
    ∃ s, Run.run Server.step {} twoRooms = some s ∧ s.handlers = [] ∧
      (s.objects "a").room.webSockets = [2] ∧
      "a" ∉ (s.lobby.listRooms 9).2.map RoomSummary.roomId ∧
      "b" ∈ (s.lobby.listRooms 9).2.map RoomSummary.roomId := by
  have hrun : Run.run Server.step {} twoRooms = some _ := rfl
  have hlisted := (one_host_one_guest hrun).2.2.2.2 rfl 9
  refine ⟨_, hrun, rfl, rfl, ?_, ?_⟩
  · rw [hlisted]
    rintro ⟨record, hrecord, hstatus, -⟩
    cases hrecord
    cases hstatus
  · rw [hlisted]
    exact ⟨_, rfl, rfl, by decide, by decide⟩

end Bigstar.Signaling
