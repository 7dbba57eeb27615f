import Bigstar.Signaling.Proofs.ConnectionIdProofs
import Bigstar.Signaling.Proofs.RoomObjectProofs

/-!
# Connection ids over whole runs

The invariant of a room in which both participants use recovery, and what every event of a run does
to the ids and delivers to the sockets.
-/

namespace Bigstar.Signaling

open SignalingRoom

namespace SignalingRoom

variable {o o' : SignalingRoom}

theorem Relayed.congr_left {o₁ : SignalingRoom} {handedIn : List ServerMessage}
    {alone : Nat → ServerMessage → Prop} (h : Relayed o₁ o' handedIn alone)
    (hclient : ∀ ws, (o₁.sockets ws).toClient = (o.sockets ws).toClient)
    (hqueue : o₁.queuedSignals = o.queuedSignals) : Relayed o o' handedIn alone where
  sdp := by
    intro ws before sender kind sdp id hdelivers
    refine h.sdp ws before sender kind sdp id ?_
    unfold Delivers at hdelivers ⊢
    rwa [hclient]
  count := by
    intro n m hm
    have hcount := h.count n m hm
    unfold deliveries waiting at hcount ⊢
    simp only [hclient, hqueue] at hcount
    exact hcount

/-- An accepted request finds its role free, after a replacement if need be. -/
structure Accepts (o o₁ : SignalingRoom) (server : Nat) (a : Attachment) : Prop where
  joins : Joins o₁ server a
  toClient : ∀ ws, (o₁.sockets ws).toClient = (o.sockets ws).toClient
  queuedSignals : o₁.queuedSignals = o.queuedSignals
  connectionId : o₁.connectionId = o.connectionId
  peer : o₁.getSocketByRole (peerRole a.role) = none → o.getSocketByRole (peerRole a.role) = none

theorem peerRole_ne (role : Role) : peerRole role ≠ role := by
  cases role <;> decide

theorem accepts_of_fetch (h : o.Base) {server : Nat} {a : Attachment} {both : Bool}
    (hnew : server ∉ o.webSockets) (hopen : (o.sockets server).isOpen = true)
    (hrecovery : a.recovery = true) (hfetch : o.fetch server a = some (o', both)) :
    ∃ o₁, Accepts o o₁ server a ∧ o₁.acceptWebSocket server a = (o', both) := by
  unfold fetch at hfetch
  split at hfetch
  · next hfree =>
      exact ⟨o, ⟨⟨h, hnew, hopen, hrecovery, hfree⟩, fun _ => rfl, rfl, rfl, fun h => h⟩,
      Option.some.inj hfetch⟩
  · next existing hexisting =>
    split at hfetch
    · obtain ⟨hmem, b, hb, hrole⟩ := getSocketByRole_eq_some hexisting
      have hserver : server ≠ existing := fun heq => hnew (heq ▸ hmem)
      refine ⟨o.replace existing,
        ⟨⟨h.replace existing, hnew, ?_, hrecovery, h.free_of_replace hexisting⟩,
        ?_, rfl, rfl, ?_⟩, Option.some.inj hfetch⟩
      · rw [sockets_replace_of_ne o hserver]
        exact hopen
      · intro ws
        by_cases heq : ws = existing
        · subst heq
          unfold replace close
          rw [sockets_setSocket_self, sockets_setSocket_self]
        · rw [sockets_replace_of_ne o heq]
      · intro hnone
        refine getSocketByRole_eq_none.mpr ?_
        intro ws hws c hc hpeer
        have hne : ws ≠ existing := by
          rintro rfl
          rw [hb] at hc
          cases hc
          exact peerRole_ne a.role (hpeer.symm.trans hrole)
        refine getSocketByRole_eq_none.mp hnone ws hws c ?_ hpeer
        rw [sockets_replace_of_ne o hne]
        exact hc
    · cases hfetch

end SignalingRoom

/-! ## The invariant -/

/-- A room whose record is open or reserved has no pair of sockets and no id yet. -/
def Early (o : RoomObject) (awaiting : List Role) : Prop :=
  ∀ record, o.record = some record → record.status = .«open» ∨ record.status = .joining →
    o.room.connectionId = none ∧ awaiting = [] ∧ ¬ o.room.Paired

/-- The invariant of a run: no candidate is delivered or waits more often than it was handed in. -/
structure RunInv (s : RoomRun) : Prop where
  base : s.object.room.Base
  ready : s.object.room.Ready
  early : Early s.object s.awaiting
  count : ∀ n m, isCandidate m = true →
    deliveries s.object.room n m + s.object.room.waiting m ≤ s.handedIn.count m

/-- The socket joins without its peer, and the message waited for it. -/
def JoinsAlone (s : RoomRun) (e : RoomEvent) (ws : Nat) (m : ServerMessage) : Prop :=
  ∃ request now, e = .join ws request now ∧
    s.object.room.getSocketByRole (peerRole request.role) = none ∧
    ∃ entry ∈ s.object.room.queuedSignals, entry.message = m ∧ entry.targetRole = request.role

variable {s s' : RoomRun} {e : RoomEvent}

/-- What one event does. -/
structure Stepped (s s' : RoomRun) (e : RoomEvent) : Prop where
  base : s'.object.room.Base
  ready : s'.object.room.Ready
  early : Early s'.object s'.awaiting
  relayed : ∃ handedIn, s'.handedIn = s.handedIn ++ handedIn ∧
    SignalingRoom.Relayed s.object.room s'.object.room handedIn (JoinsAlone s e)

theorem Stepped.inv (h : RunInv s) (hstep : Stepped s s' e) : RunInv s' where
  base := hstep.base
  ready := hstep.ready
  early := hstep.early
  count := by
    intro n m hm
    obtain ⟨handedIn, hhanded, hrelayed⟩ := hstep.relayed
    have hbefore := h.count n m hm
    have hafter := hrelayed.count n m hm
    rw [hhanded, List.count_append]
    omega

/-- An event that changes neither the sockets nor the queue. -/
theorem stepped_of_room (h : RunInv s) (hroom : s'.object.room = s.object.room)
    (hhanded : s'.handedIn = s.handedIn) (hearly : Early s'.object s'.awaiting) :
    Stepped s s' e where
  base := hroom ▸ h.base
  ready := hroom ▸ h.ready
  early := hearly
  relayed := ⟨[], by rw [hhanded, List.append_nil], hroom ▸ (Quiet.refl _).relayed⟩

theorem stepped_refl (h : RunInv s) : Stepped s s e := stepped_of_room h rfl rfl h.early

theorem quiet_accepted {o o₁ o' : SignalingRoom} {server : Nat} {a : Attachment}
    (h : Accepts o o₁ server a) (hquiet : Quiet o₁ o') {alone : Nat → ServerMessage → Prop} :
    SignalingRoom.Relayed o o' [] alone :=
  hquiet.relayed.congr_left h.toClient h.queuedSignals

theorem stepped_fetch (h : RunInv s) {server : Nat} {request : FetchRequest} {now : Nat}
    (hrecovery : request.recovery = true) (hopen : (s.object.room.sockets server).isOpen = true)
    (hnew : server ∉ s.object.room.webSockets) {object : RoomObject} {await : Option RoomSummary}
    (hfetch : s.object.fetch server request now = .ok (object, await)) {awaiting : List Role}
    (hawaiting : await = none → awaiting = s.awaiting) :
    Stepped s { s with object, awaiting } (.join server request now) := by
  obtain ⟨hcheck, hcases⟩ := RoomObject.fetch_cases hfetch
  cases hcases with
  | alone hroom =>
    obtain ⟨o₁, haccepts, haccept⟩ := accepts_of_fetch h.base hnew hopen hrecovery hroom
    by_cases hpaired :
      (o₁.greet server ⟨request.role, s.object.record.isNone, request.recovery⟩).Paired
    · rw [acceptWebSocket_of_paired hpaired] at haccept
      cases haccept
    rw [acceptWebSocket_of_not_paired hpaired] at haccept
    cases haccept
    have hflush := appends_flushQueuedSignals
      (o₁.greet server ⟨request.role, s.object.record.isNone, request.recovery⟩) request.role
    have hnotPaired := fun hp => hpaired (hflush.paired.mp hp)
    refine ⟨haccepts.joins.greet.flush _, ready_of_not_paired hnotPaired, ?_, [],
      (List.append_nil _).symm, ?_⟩
    · intro record hrecord hstatus
      obtain ⟨hid, hempty, -⟩ := h.early record hrecord hstatus
      refine ⟨?_, (hawaiting rfl).trans hempty, hnotPaired⟩
      rw [hflush.connectionId, haccepts.joins.connectionId_greet, haccepts.connectionId]
      exact hid
    · have hrelayed := haccepts.joins.relayed_flush.congr_left haccepts.toClient
        haccepts.queuedSignals
      refine ⟨?_, hrelayed.count⟩
      intro ws before sender kind sdp id hdelivers
      obtain ⟨hid, hkind, hready | ⟨rfl, entry, hentry, hentries⟩⟩ :=
        hrelayed.sdp ws before sender kind sdp id hdelivers
      · exact ⟨hid, hkind, Or.inl hready⟩
      · refine ⟨hid, hkind, Or.inr ⟨request, now, rfl, ?_, entry, ?_, hentries⟩⟩
        · exact haccepts.peer (haccepts.joins.peer_of_not_paired hpaired)
        · rw [← haccepts.queuedSignals]
          exact hentry
  | again hroom hconnected =>
    obtain ⟨o₁, haccepts, haccept⟩ := accepts_of_fetch h.base hnew hopen hrecovery hroom
    by_cases hpaired :
      (o₁.greet server ⟨request.role, s.object.record.isNone, request.recovery⟩).Paired
    · rw [acceptWebSocket_of_paired hpaired] at haccept
      cases haccept
      have hbase := haccepts.joins.greet
      refine ⟨base_fetchConnected hbase _, ready_fetchConnected hbase _, ?_, [],
        (List.append_nil _).symm,
        quiet_accepted haccepts (haccepts.joins.quiet_greet.trans (quiet_fetchConnected hbase _))⟩
      intro record hrecord hstatus
      rw [hconnected record hrecord] at hstatus
      rcases hstatus with hstatus | hstatus <;> cases hstatus
    · rw [acceptWebSocket_of_not_paired hpaired] at haccept
      cases haccept
  | @first room record hroom hrecord hstatus =>
    obtain ⟨o₁, haccepts, haccept⟩ := accepts_of_fetch h.base hnew hopen hrecovery hroom
    by_cases hpaired :
      (o₁.greet server ⟨request.role, s.object.record.isNone, request.recovery⟩).Paired
    · rw [acceptWebSocket_of_paired hpaired] at haccept
      cases haccept
      -- the record is neither closed nor connected yet, so there is no id
      have hearly : record.status = .«open» ∨ record.status = .joining := by
        have hclosed := (RoomObject.checkRecord_eq_none hcheck hrecord).1
        cases hs : record.status with
        | «open» => exact Or.inl rfl
        | joining => exact Or.inr rfl
        | connected => exact absurd hs hstatus
        | closed => exact absurd hs hclosed
      have hid := (h.early record hrecord hearly).1
      refine ⟨haccepts.joins.greet, ready_of_none ?_, ?_, [], (List.append_nil _).symm,
        quiet_accepted haccepts haccepts.joins.quiet_greet⟩
      · rw [haccepts.joins.connectionId_greet, haccepts.connectionId]
        exact hid
      · rintro record' ⟨⟩ hstatus'
        rcases hstatus' with hstatus' | hstatus' <;> cases hstatus'
    · rw [acceptWebSocket_of_not_paired hpaired] at haccept
      cases haccept

theorem stepped_join (h : RunInv s) {server : Nat} {request : FetchRequest} {now : Nat}
    (hrecovery : request.recovery = true) (hstep : s.step (.join server request now) = some s') :
    Stepped s s' (.join server request now) := by
  unfold RoomRun.step at hstep
  dsimp only at hstep
  split at hstep
  · cases hstep
  next hisNew =>
  have hisNew : s.isNew server = true := by simpa using hisNew
  unfold RoomRun.isNew at hisNew
  rw [Bool.and_eq_true, Bool.and_eq_true] at hisNew
  obtain ⟨⟨-, hopen⟩, hnew⟩ := hisNew
  split at hstep
  · cases hstep
    exact stepped_refl h
  · next hfetch =>
    cases hstep
    exact stepped_fetch h hrecovery hopen (of_decide_eq_true hnew) hfetch (fun _ => rfl)
  · next hfetch =>
    cases hstep
    exact stepped_fetch h hrecovery hopen (of_decide_eq_true hnew) hfetch
      (fun hnone => nomatch hnone)

theorem stepped_lobbyAnswered (h : RunInv s) {index : Nat}
    (hstep : s.step (.lobbyAnswered index) = some s') : Stepped s s' (.lobbyAnswered index) := by
  unfold RoomRun.step at hstep
  dsimp only at hstep
  split at hstep
  · cases hstep
  next role hrole =>
  cases hstep
  refine ⟨base_fetchConnected h.base role, ready_fetchConnected h.base role, ?_, [],
    (List.append_nil _).symm, (quiet_fetchConnected h.base role).relayed⟩
  intro record hrecord hstatus
  rw [(h.early record hrecord hstatus).2.1] at hrole
  cases hrole

theorem stepped_message (h : RunInv s) {ws : Nat} {message : ClientMessage}
    (hstep : s.step (.message ws message) = some s') : Stepped s s' (.message ws message) := by
  unfold RoomRun.step at hstep
  dsimp only at hstep
  split at hstep
  · next hws =>
    cases hstep
    have hhandled := handled_webSocketMessage h.base h.ready hws message
    refine ⟨hhandled.base, hhandled.ready, ?_, _, rfl, ?_⟩
    · intro record hrecord hstatus
      obtain ⟨hid, hawaiting, hpaired⟩ := h.early record hrecord hstatus
      refine ⟨?_, hawaiting, fun hp => hpaired (hhandled.paired hp)⟩
      rcases hhandled.id with hsame | ⟨-, -, -, -, hp⟩
      · exact hsame.trans hid
      · exact absurd hp hpaired
    · refine ⟨?_, hhandled.relayed.count⟩
      intro ws' before sender kind sdp id hdelivers
      obtain ⟨hid, hkind, hready⟩ := hhandled.relayed.sdp ws' before sender kind sdp id hdelivers
      exact ⟨hid, hkind, hready.imp_right False.elim⟩
  · cases hstep

theorem stepped_closed (h : RunInv s) {ws now : Nat} (hstep : s.step (.closed ws now) = some s') :
    Stepped s s' (.closed ws now) := by
  unfold RoomRun.step at hstep
  dsimp only at hstep
  split at hstep
  · cases hstep
    have hroom := RoomObject.room_webSocketClose s.object ws now
    have hrecord : (s.object.webSocketClose ws now).1.record = s.object.record ∨
        ∀ record, (s.object.webSocketClose ws now).1.record = some record →
          record.status = .closed := by
      unfold RoomObject.webSocketClose
      dsimp only
      split
      · exact Or.inl rfl
      · split
        · right
          intro record hclosed
          obtain ⟨before, -, rfl⟩ := Option.map_eq_some_iff.mp hclosed
          rfl
        · exact Or.inl rfl
    refine ⟨hroom ▸ h.base.webSocketClose ws, hroom ▸ h.ready.webSocketClose h.base ws, ?_, [],
      (List.append_nil _).symm, hroom ▸ (quiet_webSocketClose h.base ws).relayed⟩
    intro record hsome hstatus
    dsimp only at hsome ⊢
    rcases hrecord with hsame | hclosed
    · rw [hsame] at hsome
      obtain ⟨hid, hawaiting, hpaired⟩ := h.early record hsome hstatus
      obtain ⟨new, hnew, -, -⟩ := webSocketClose_spec h.base.nodup ws
      rw [hroom, hnew.connectionId]
      exact ⟨hid, hawaiting, fun hp => hpaired (paired_of_dropSocket (hnew.paired.mp hp))⟩
    · rw [hclosed record hsome] at hstatus
      rcases hstatus with hstatus | hstatus <;> cases hstatus
  · cases hstep

theorem stepped_reserveJoin (h : RunInv s) {params : ReserveJoinParams}
    (hstep : s.step (.reserveJoin params) = some s') : Stepped s s' (.reserveJoin params) := by
  unfold RoomRun.step at hstep
  dsimp only at hstep
  split at hstep
  · cases hstep
    exact stepped_refl h
  · next object record hreserve =>
    cases hstep
    obtain ⟨before, hbefore, hstatus, -, hrecord, hobject⟩ := RoomObject.reserveJoin_cases hreserve
    subst hobject
    refine stepped_of_room h rfl rfl ?_
    intro record' _ _
    exact h.early before hbefore (Or.inl hstatus)

theorem stepped_closeRoom (h : RunInv s) {now : Nat} (hstep : s.step (.closeRoom now) = some s') :
    Stepped s s' (.closeRoom now) := by
  cases hstep
  refine stepped_of_room h rfl rfl ?_
  intro record hrecord hstatus
  obtain ⟨before, -, rfl⟩ := Option.map_eq_some_iff.mp hrecord
  rcases hstatus with hstatus | hstatus <;> cases hstatus

theorem stepped (h : RunInv s) (hrecovery : e.usesRecovery = true) (hstep : s.step e = some s') :
    Stepped s s' e := by
  cases e with
  | join server request now => exact stepped_join h hrecovery hstep
  | lobbyAnswered index => exact stepped_lobbyAnswered h hstep
  | message ws message => exact stepped_message h hstep
  | closed ws now => exact stepped_closed h hstep
  | reserveJoin params => exact stepped_reserveJoin h hstep
  | closeRoom now => exact stepped_closeRoom h hstep

theorem runInv_start (record : Option RoomRecord) : RunInv (RoomRun.start record) where
  base := by
    refine ⟨⟨List.nodup_nil, ?_⟩, ?_, ?_, ?_⟩
    · exact fun _ h => (List.not_mem_nil h).elim
    · exact fun _ h => (List.not_mem_nil h).elim
    · exact fun _ h => (List.not_mem_nil h).elim
    · exact fun _ h => (List.not_mem_nil h).elim
  ready := ready_of_none rfl
  early := fun _ _ _ => ⟨rfl, rfl, fun h => nomatch h.1⟩
  count := by
    intro n m _
    have hzero : deliveries (RoomRun.start record).object.room n m = 0 := by
      refine List.sum_eq_zero ?_
      intro k hk
      obtain ⟨ws, -, rfl⟩ := List.mem_map.mp hk
      rfl
    rw [hzero]
    exact Nat.zero_le _

/-! ## Ids only grow -/

theorem current_le_step (hstep : s.step e = some s') :
    s.object.room.current ≤ s'.object.room.current := by
  unfold RoomRun.step at hstep
  cases e with
  | join server request now =>
    dsimp only at hstep
    split at hstep
    · cases hstep
    have hfetched : ∀ object await, s.object.fetch server request now = .ok (object, await) →
        s.object.room.current ≤ object.room.current := by
      intro object await hfetch
      obtain ⟨-, hcases⟩ := RoomObject.fetch_cases hfetch
      cases hcases with
      | alone hroom =>
        have hhandles : Handles (fun _ _ => False) _ _ _ := handles_fetch hroom
        exact hhandles.current_le
      | @again room hroom _ =>
        have hhandles : Handles (fun _ _ => False) _ _ _ := handles_fetch hroom
        have hconnected : Handles (fun _ _ => False) _ _ _ :=
          handles_fetchConnected room request.role
        exact hhandles.current_le.trans hconnected.current_le
      | first hroom _ _ =>
        have hhandles : Handles (fun _ _ => False) _ _ _ := handles_fetch hroom
        exact hhandles.current_le
    split at hstep
    · cases hstep
      exact Nat.le_refl _
    · next hfetch =>
      cases hstep
      exact hfetched _ _ hfetch
    · next hfetch =>
      cases hstep
      exact hfetched _ _ hfetch
  | lobbyAnswered index =>
    dsimp only at hstep
    split at hstep
    · cases hstep
    next role _ =>
    cases hstep
    have hconnected : Handles (fun _ _ => False) _ _ _ := handles_fetchConnected s.object.room role
    exact hconnected.current_le
  | message ws message =>
    dsimp only at hstep
    split at hstep
    · cases hstep
      exact (handles_webSocketMessage s.object.room ws message).current_le
    · cases hstep
  | closed ws now =>
    dsimp only at hstep
    split at hstep
    · cases hstep
      have hclose : Handles (fun _ _ => False) (fun _ => False) _ _ :=
        handles_webSocketClose s.object.room ws
      dsimp only
      rw [RoomObject.room_webSocketClose]
      exact hclose.current_le
    · cases hstep
  | reserveJoin params =>
    dsimp only at hstep
    split at hstep
    · cases hstep
      exact Nat.le_refl _
    · next object record hreserve =>
      cases hstep
      obtain ⟨before, -, -, -, -, hobject⟩ := RoomObject.reserveJoin_cases hreserve
      rw [hobject]
  | closeRoom now =>
    cases hstep
    exact Nat.le_refl _

theorem current_le_run {events : List RoomEvent} (hrun : Run.run RoomRun.step s events = some s') :
    s.object.room.current ≤ s'.object.room.current := by
  induction events generalizing s with
  | nil =>
    cases hrun
    exact Nat.le_refl _
  | cons e events ih =>
    obtain ⟨t, hstep, hrun⟩ := Run.run_cons_eq_some hrun
    exact (current_le_step hstep).trans (ih hrun)

/-- A request to restart an older connection starts none. -/
theorem current_restart_of_lt {o : SignalingRoom} {ws id : Nat} (h : id < o.current) :
    (o.webSocketMessage ws (.restart id)).current = o.current := by
  have hne : id ≠ o.connectionId.getD 0 := Nat.ne_of_lt h
  unfold webSocketMessage
  split
  · rfl
  dsimp only
  split
  · rfl
  rw [if_neg (fun hid => hne hid.1)]
  split
  · unfold current
    rw [connectionId_send]
  · rfl

/-- A request to restart a connection starts the next one or none. -/
theorem current_restart {o : SignalingRoom} {ws id : Nat}
    (h : (o.webSocketMessage ws (.restart id)).current ≠ o.current) :
    o.current = id ∧ (o.webSocketMessage ws (.restart id)).current = id + 1 := by
  revert h
  unfold webSocketMessage
  split
  · exact fun h => absurd rfl h
  dsimp only
  split
  · exact fun h => absurd rfl h
  split
  · next hid =>
    intro _
    have hexpected : ∀ id', some id = some id' → id' = o.current := by
      rintro id' ⟨⟩
      exact hid.1
    exact ⟨hid.1.symm, by
      rw [current_startConnection o hexpected]; exact congrArg (· + 1) hid.1.symm⟩
  split
  · unfold current
    rw [connectionId_send]
    exact fun h => absurd rfl h
  · exact fun h => absurd rfl h

theorem step_message {ws : Nat} {message : ClientMessage}
    (hstep : s.step (.message ws message) = some s') :
    s'.object.room = s.object.room.webSocketMessage ws message := by
  unfold RoomRun.step at hstep
  dsimp only at hstep
  split at hstep
  · cases hstep
    rfl
  · cases hstep

/-- In every run of a room whose participants both use recovery, an event does not lower the stored
id; a request to restart `id` starts at most `id + 1`, and no later one does again; a session
description with an id carries the stored one and the role of its sender, and was announced last on
that socket, unless it waited for a socket that joins without its peer; any other relay message is
delivered no more often than it was handed in. -/
theorem connection_ids {record : Option RoomRecord} {events : List RoomEvent}
    (hrecovery : ∀ e ∈ events, e.usesRecovery = true)
    (hrun : Run.run RoomRun.step (RoomRun.start record) events = some s)
    (he : e.usesRecovery = true) (hstep : s.step e = some s') :
    s.object.room.current ≤ s'.object.room.current ∧
    (∀ ws id, e = .message ws (.restart id) → s'.object.room.current ≠ s.object.room.current →
      s.object.room.current = id ∧ s'.object.room.current = id + 1 ∧
      ∀ later t ws' t', Run.run RoomRun.step s' later = some t →
        t.step (.message ws' (.restart id)) = some t' →
          t'.object.room.current = t.object.room.current) ∧
    (∀ ws before sender kind sdp id,
      Delivers s.object.room s'.object.room ws before (.sdp sender kind sdp (some id)) →
      s'.object.room.connectionId = some id ∧ kind = sender ∧
        (lastReady before = some id ∨ JoinsAlone s e ws (.sdp sender kind sdp (some id)))) ∧
    ∀ n m, isCandidate m = true → deliveries s'.object.room n m ≤ s'.handedIn.count m := by
  have hinv : RunInv s := Run.run_invariant_of_forall
    (fun _ _ _ h hok hstep => (stepped h hok hstep).inv h) (runInv_start record) hrecovery hrun
  have hstepped := stepped hinv he hstep
  refine ⟨current_le_step hstep, ?_, ?_, ?_⟩
  · rintro ws id rfl hne
    rw [step_message hstep] at hne
    obtain ⟨hcurrent, hnext⟩ := current_restart hne
    refine ⟨hcurrent, by rw [step_message hstep]; exact hnext, ?_⟩
    intro later t ws' t' hlater hrestart
    have hle := current_le_run hlater
    rw [step_message hstep, hnext] at hle
    rw [step_message hrestart]
    exact current_restart_of_lt hle
  · obtain ⟨handedIn, -, hrelayed⟩ := hstepped.relayed
    exact hrelayed.sdp
  · intro n m hm
    have hcount := (hstepped.inv hinv).count n m hm
    omega

/-- The record of a room that a guest has reserved. -/
def reserved : RoomRecord where
  roomId := "room"
  hostToken := "host"
  joinToken := some "guest"
  status := .joining
  romPairId := "pair"
  createdAt := 0
  updatedAt := 0
  expiresAt := 100
  canJoin := false

/-- The host asks for a socket. -/
def hostRequest : FetchRequest := ⟨"room", .offer, some "host", true⟩
/-- The guest asks for a socket. -/
def guestRequest : FetchRequest := ⟨"room", .answer, some "guest", true⟩

/-- Both join, and the lobby answers. -/
def bothJoin : List RoomEvent := [.join 0 hostRequest 1, .join 1 guestRequest 2, .lobbyAnswered 0]

/-- The offer of the first connection follows the announcement of its id. -/
theorem connection_ids_firstOffer :
    ∃ s s', Run.run RoomRun.step (RoomRun.start (some reserved)) bothJoin = some s ∧
      s.step (.message 0 (.sdp .offer "offer" (some 1))) = some s' ∧
      Delivers s.object.room s'.object.room 1 [.hello 1, .readyForOffer 1]
        (.sdp .offer .offer "offer" (some 1)) ∧
      s'.object.room.connectionId = some 1 := by
  refine ⟨_, _, rfl, rfl, ?_, ?_⟩
  · exact ⟨by decide, [], rfl⟩
  · have hrun : Run.run RoomRun.step (RoomRun.start (some reserved)) bothJoin = some _ := rfl
    exact ((connection_ids (e := .message 0 (.sdp .offer "offer" (some 1)))
      (by decide) hrun rfl rfl).2.2.1 1
      [.hello 1, .readyForOffer 1] .offer .offer "offer" 1 ⟨by decide, [], rfl⟩).1

/-- The guest is gone when the host sends its offer, and the host when the guest returns. -/
theorem offer_without_announcement :
    ∃ s s', Run.run RoomRun.step (RoomRun.start (some reserved))
        (bothJoin ++ [.closed 1 3, .message 0 (.sdp .offer "offer" (some 1)), .closed 0 4]) =
          some s ∧
      s.step (.join 2 guestRequest 5) = some s' ∧
      s'.object.room.getSocketByRole .answer = some 2 ∧
      Delivers s.object.room s'.object.room 2 [.hello 1] (.sdp .offer .offer "offer" (some 1)) ∧
      lastReady [.hello 1] ≠ some 1 := by
  refine ⟨_, _, rfl, rfl, ?_, ⟨by decide, [], ?_⟩, by decide⟩
  · rfl
  · rfl

end Bigstar.Signaling
