import Bigstar.Signaling.RoomObject

/-!
# What the handlers of a room can do

Each handler that may fail or end early is described once by its outcomes.
-/

namespace Bigstar.Signaling.RoomObject

variable {o o' : RoomObject}

/-- The record of a request that is not refused by it. -/
theorem checkRecord_eq_none {request : FetchRequest} {now : Nat} {record : RoomRecord}
    (h : o.checkRecord request now = none) (hrecord : o.record = some record) :
    record.status ≠ .closed ∧ now < record.expiresAt ∧
      request.token = expectedToken record request.role ∧ request.token.isSome := by
  unfold checkRecord at h
  rw [hrecord] at h
  dsimp only at h
  split at h
  · cases h
  · next htoken =>
    split at h
    · cases h
    · next hclosed =>
      rw [not_or] at htoken hclosed
      rw [not_or] at htoken
      have hequal : request.token = expectedToken record request.role := by
        by_contra hne
        exact htoken.2.2 hne
      refine ⟨hclosed.1, Nat.lt_of_not_le hclosed.2, hequal, ?_⟩
      rw [hequal]
      exact Option.isSome_iff_ne_none.mpr htoken.1

/-- The record after `markConnected` has changed it. -/
def connectedRecord (record : RoomRecord) (now : Nat) : RoomRecord :=
  { record with status := .connected, updatedAt := now, canJoin := false }

/-- The outcomes of an accepted request, by whether both roles are connected and whether the lobby
has to be told. -/
inductive Fetched (o : RoomObject) (server : Nat) (request : FetchRequest) (now : Nat) :
    RoomObject → Option RoomSummary → Prop where
  | alone {room : SignalingRoom}
      (hfetch : o.room.fetch server ⟨request.role, o.record.isNone, request.recovery⟩ =
        some (room, false)) :
      Fetched o server request now
        ⟨o.record, room, Function.update o.requests server (some request)⟩ none
  | again {room : SignalingRoom}
      (hfetch : o.room.fetch server ⟨request.role, o.record.isNone, request.recovery⟩ =
        some (room, true))
      (hconnected : ∀ record, o.record = some record → record.status = .connected) :
      Fetched o server request now
        ⟨o.record, room.fetchConnected request.role,
          Function.update o.requests server (some request)⟩ none
  | first {room : SignalingRoom} {record : RoomRecord}
      (hfetch : o.room.fetch server ⟨request.role, o.record.isNone, request.recovery⟩ =
        some (room, true))
      (hrecord : o.record = some record) (hstatus : record.status ≠ .connected) :
      Fetched o server request now
        ⟨some (connectedRecord record now), room, Function.update o.requests server (some request)⟩
        (some (publicRoom (connectedRecord record now) 2))

theorem fetch_cases {server : Nat} {request : FetchRequest} {now : Nat} {await : Option RoomSummary}
    (h : o.fetch server request now = .ok (o', await)) :
    o.checkRecord request now = none ∧ Fetched o server request now o' await := by
  unfold fetch at h
  split at h
  · cases h
  next hcheck =>
  refine ⟨hcheck, ?_⟩
  dsimp only at h
  split at h
  · cases h
  next room both hfetch =>
  split at h
  · next hboth =>
    have hfalse : both = false := by simpa using hboth
    subst hfalse
    cases h
    exact .alone hfetch
  next hboth =>
  have htrue : both = true := by simpa using hboth
  subst htrue
  cases hrecord : o.record with
  | none =>
    unfold markConnected at h
    rw [hrecord] at h
    cases h
    have hconnected : ∀ record, o.record = some record → record.status = .connected := by
      rw [hrecord]
      exact fun _ hnone => nomatch hnone
    have hagain : Fetched o server request now _ none := .again hfetch hconnected
    rw [hrecord] at hagain
    exact hagain
  | some record =>
    unfold markConnected at h
    rw [hrecord] at h
    dsimp only at h
    by_cases hstatus : record.status = .connected
    · rw [if_pos hstatus] at h
      cases h
      have hconnected : ∀ record, o.record = some record → record.status = .connected := by
        rw [hrecord]
        rintro record' ⟨⟩
        exact hstatus
      have hagain : Fetched o server request now _ none := .again hfetch hconnected
      rw [hrecord] at hagain
      exact hagain
    · rw [if_neg hstatus] at h
      cases h
      exact .first hfetch hrecord hstatus

theorem reserveJoin_cases {params : ReserveJoinParams} {record : RoomRecord}
    (h : o.reserveJoin params = .ok (o', record)) :
    ∃ before, o.record = some before ∧ before.status = .«open» ∧ params.now < before.expiresAt ∧
      record = { before with
        status := .joining
        joinToken := some params.joinToken
        updatedAt := params.now
        canJoin := false } ∧
      o' = { o with record := some record } := by
  unfold reserveJoin at h
  split at h
  · cases h
  next before hget =>
  obtain ⟨hrecord, hvalid⟩ := Option.filter_eq_some_iff.mp hget
  rw [Bool.and_eq_true] at hvalid
  split at h
  · cases h
  next hstatus =>
  have hopen : before.status = .«open» := by
    by_contra hne
    exact hstatus hne
  cases h
  exact ⟨before, hrecord, hopen, of_decide_eq_true hvalid.2, rfl, rfl⟩

theorem room_webSocketClose (o : RoomObject) (ws now : Nat) :
    (o.webSocketClose ws now).1.room = o.room.webSocketClose ws := by
  unfold webSocketClose
  dsimp only
  split
  · rfl
  · split <;> rfl

end Bigstar.Signaling.RoomObject
