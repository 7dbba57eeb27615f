import Bigstar.Signaling.Proofs.SignalingRoomProofs

/-!
# What each socket is sent

Sending, broadcasting and flushing leave the sockets as they are, up to the messages that they
append. These are given exactly, in their order.
-/

namespace Bigstar.Signaling.SignalingRoom

/-- From `o` to `o'` the messages `new` are appended, and nothing else happens to sockets or ids. -/
structure Appends (new : Nat → List ServerMessage) (o o' : SignalingRoom) : Prop where
  attachment : ∀ ws, (o'.sockets ws).attachment = (o.sockets ws).attachment
  isOpen : ∀ ws, (o'.sockets ws).isOpen = (o.sockets ws).isOpen
  toClient : ∀ ws, (o'.sockets ws).toClient = (o.sockets ws).toClient ++ new ws
  webSockets : o'.webSockets = o.webSockets
  connectionId : o'.connectionId = o.connectionId

variable {new new' : Nat → List ServerMessage} {o o' o'' : SignalingRoom}

namespace Appends

theorem refl (o : SignalingRoom) : Appends (fun _ => []) o o :=
  ⟨fun _ => rfl, fun _ => rfl, fun _ => (List.append_nil _).symm, rfl, rfl⟩

theorem trans (h : Appends new o o') (h' : Appends new' o' o'') :
    Appends (fun ws => new ws ++ new' ws) o o'' where
  attachment := fun ws => (h'.attachment ws).trans (h.attachment ws)
  isOpen := fun ws => (h'.isOpen ws).trans (h.isOpen ws)
  toClient := by
    intro ws
    rw [h'.toClient, h.toClient, List.append_assoc]
  webSockets := h'.webSockets.trans h.webSockets
  connectionId := h'.connectionId.trans h.connectionId

theorem congr (h : Appends new o o') (heq : ∀ ws, new' ws = new ws) : Appends new' o o' :=
  ⟨h.attachment, h.isOpen, fun ws => heq ws ▸ h.toClient ws, h.webSockets, h.connectionId⟩

theorem getSocketByRole (h : Appends new o o') (role : Role) :
    o'.getSocketByRole role = o.getSocketByRole role := by
  unfold SignalingRoom.getSocketByRole
  rw [h.webSockets]
  congr 1
  funext ws
  rw [h.attachment]

end Appends

theorem appends_send (o : SignalingRoom) (ws : Nat) (message : ServerMessage) :
    Appends (fun ws' => if ws' = ws ∧ (o.sockets ws).isOpen then [message] else []) o
      (o.send ws message) := by
  unfold send
  by_cases hopen : (o.sockets ws).isOpen
  · dsimp only
    rw [if_pos hopen]
    have hsocket : ∀ ws', (o.setSocket ws
        { o.sockets ws with toClient := (o.sockets ws).toClient ++ [message] }).sockets ws' =
        if ws' = ws then { o.sockets ws with toClient := (o.sockets ws).toClient ++ [message] }
        else o.sockets ws' := by
      intro ws'
      by_cases heq : ws' = ws
      · rw [if_pos heq, heq, sockets_setSocket_self]
      · rw [if_neg heq, sockets_setSocket_of_ne _ heq]
    refine ⟨?_, ?_, ?_, rfl, rfl⟩
    · intro ws'
      rw [hsocket]
      by_cases heq : ws' = ws
      · rw [if_pos heq, heq]
      · rw [if_neg heq]
    · intro ws'
      rw [hsocket]
      by_cases heq : ws' = ws
      · rw [if_pos heq, heq]
      · rw [if_neg heq]
    · intro ws'
      rw [hsocket]
      by_cases heq : ws' = ws
      · rw [if_pos heq, if_pos ⟨heq, hopen⟩, heq]
      · rw [if_neg heq, if_neg (fun h => heq h.1), List.append_nil]
  · dsimp only
    rw [if_neg hopen]
    refine (Appends.refl o).congr ?_
    intro ws'
    rw [if_neg (fun h => hopen h.2)]

/-- The socket takes part in a broadcast. -/
def Addressed (o : SignalingRoom) (except : Option Nat) (ws : Nat) : Prop :=
  some ws ≠ except ∧ (o.sockets ws).attachment.isSome ∧ (o.sockets ws).isOpen

instance (o : SignalingRoom) (except : Option Nat) (ws : Nat) : Decidable (Addressed o except ws) :=
  inferInstanceAs (Decidable (_ ∧ _))

theorem appends_broadcastTo (o : SignalingRoom) (message : ServerMessage)
    (except : Option Nat) (ws : Nat) :
    Appends (fun ws' => if ws' = ws ∧ Addressed o except ws then [message] else []) o
      (broadcastTo message except o ws) := by
  unfold broadcastTo
  split
  · next h =>
    refine (appends_send o ws message).congr ?_
    intro ws'
    have haddressed : Addressed o except ws := h
    simp only [haddressed, haddressed.2.2]
  · next h =>
    refine (Appends.refl o).congr ?_
    intro ws'
    rw [if_neg (fun h' => h h'.2)]

/-- The loop of a broadcast over sockets that are all different. -/
theorem appends_foldl_broadcastTo (message : ServerMessage) (except : Option Nat) {l : List Nat}
    (hnodup : l.Nodup) (o : SignalingRoom) :
    Appends (fun ws => if ws ∈ l ∧ Addressed o except ws then [message] else []) o
      (l.foldl (broadcastTo message except) o) := by
  induction l generalizing o with
  | nil =>
    refine (Appends.refl o).congr ?_
    intro ws
    rw [if_neg (fun h => (List.not_mem_nil h.1).elim)]
  | cons ws l ih =>
    obtain ⟨hnot, hl⟩ := List.nodup_cons.mp hnodup
    have hfirst := appends_broadcastTo o message except ws
    have haddressed : ∀ ws', Addressed (broadcastTo message except o ws) except ws' ↔
        Addressed o except ws' := by
      intro ws'
      unfold Addressed
      rw [hfirst.attachment, hfirst.isOpen]
    refine (hfirst.trans (ih hl _)).congr ?_
    intro ws'
    simp only [haddressed, List.mem_cons]
    by_cases heq : ws' = ws
    · subst heq
      simp only [hnot, or_false, true_and, false_and, if_false, List.append_nil]
    · simp only [heq, false_or, false_and, if_false, List.nil_append]

theorem appends_broadcast (hnodup : o.webSockets.Nodup) (message : ServerMessage)
    (except : Option Nat) :
    Appends (fun ws => if ws ∈ o.webSockets ∧ Addressed o except ws then [message] else []) o
      (o.broadcast message except) :=
  appends_foldl_broadcastTo message except hnodup o

@[simp]
theorem queuedSignals_send (o : SignalingRoom) (ws : Nat) (message : ServerMessage) :
    (o.send ws message).queuedSignals = o.queuedSignals := by
  unfold send
  dsimp only
  split <;> rfl

@[simp]
theorem queuedSignals_broadcast (o : SignalingRoom) (message : ServerMessage)
    (except : Option Nat) :
    (o.broadcast message except).queuedSignals = o.queuedSignals := by
  have hloop : ∀ (l : List Nat) (o : SignalingRoom),
      (l.foldl (broadcastTo message except) o).queuedSignals = o.queuedSignals := by
    intro l
    induction l with
    | nil => exact fun _ => rfl
    | cons ws l ih =>
      intro o
      rw [List.foldl_cons, ih]
      unfold broadcastTo
      split
      · exact queuedSignals_send o ws message
      · rfl
  exact hloop o.webSockets o

/-- The signals that wait for a role. -/
def waitingFor (o : SignalingRoom) (role : Role) : List ServerMessage :=
  (o.queuedSignals.filter fun entry => entry.targetRole = role).map QueuedSignalMessage.message

theorem appends_foldl_flushEntry (role : Role) (target : Nat) (entries : List QueuedSignalMessage)
    (o : SignalingRoom) :
    Appends (fun ws => if ws = target ∧ (o.sockets target).isOpen then
        (entries.filter fun entry => entry.targetRole = role).map QueuedSignalMessage.message
        else []) o
      (entries.foldl (flushEntry role target) o) := by
  induction entries generalizing o with
  | nil =>
    refine (Appends.refl o).congr ?_
    intro ws
    exact ite_self _
  | cons entry entries ih =>
    rw [List.foldl_cons]
    unfold flushEntry
    by_cases hrole : entry.targetRole = role
    · rw [if_pos hrole]
      have hfirst := appends_send o target entry.message
      refine (hfirst.trans (ih _)).congr ?_
      intro ws
      rw [hfirst.isOpen, List.filter_cons_of_pos (by simpa using hrole), List.map_cons]
      by_cases hws : ws = target ∧ (o.sockets target).isOpen
      · rw [if_pos hws, if_pos hws, if_pos hws, List.singleton_append]
      · rw [if_neg hws, if_neg hws, if_neg hws, List.append_nil]
    · rw [if_neg hrole, List.filter_cons_of_neg (by simpa using hrole)]
      exact ih o

/-- The signals that wait for the role are sent to its socket, and no longer wait. -/
theorem appends_flushQueuedSignals (o : SignalingRoom) (role : Role) :
    Appends (fun ws => if o.getSocketByRole role = some ws ∧
      (o.sockets ws).isOpen then o.waitingFor role
      else []) o (o.flushQueuedSignals role) := by
  unfold flushQueuedSignals
  cases hrole : o.getSocketByRole role with
  | none =>
    refine (Appends.refl o).congr ?_
    intro ws
    rw [if_neg (fun h => nomatch h.1)]
  | some target =>
    have h := appends_foldl_flushEntry role target o.queuedSignals o
    refine Appends.congr ⟨h.attachment, h.isOpen, h.toClient, h.webSockets, h.connectionId⟩ ?_
    intro ws
    by_cases hws : ws = target
    · subst hws
      simp only [true_and]
      rfl
    · rw [if_neg (fun h => hws (Option.some.inj h.1).symm), if_neg (fun h => hws h.1)]

end Bigstar.Signaling.SignalingRoom
