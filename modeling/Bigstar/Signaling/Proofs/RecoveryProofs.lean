import Bigstar.Lib.Run
import Bigstar.Signaling.Recovery
import Bigstar.Signaling.Proofs.SignalingRoomProofs

/-!
# Both bridges negotiate the same connection

A bridge forgets `last_id` with its websocket, and takes the first id that it reads from the next
one, whatever that is. The id is new all the same: a socket is told only ids that were handed out
after it was accepted, until its bridge has asked for a restart on it.
-/

namespace Bigstar.Signaling

open SignalingRoom

namespace Bridge

/-- The bridge has made this description for the connection of the id. -/
def Made (b : Bridge) (id : Nat) (sdp : String) : Prop :=
  ∃ n ∈ b.history, n.id = id ∧ n.made = some sdp

/-- No id was read from the present socket. -/
def Fresh (b : Bridge) : Prop := (∃ ws, b.phase = .hello ws) ∨ b.lastId = 0

/-- The newest negotiation is the one of `last_id`. -/
def Newest (b : Bridge) (P : Negotiation → Prop) : Prop :=
  ∃ n rest, b.history = n :: rest ∧ n.id = b.lastId ∧ b.lastId ≠ 0 ∧ P n

/-- How far the newest negotiation has come. -/
def Progress (role : Role) (b : Bridge) (made : Nat → String → Prop) : Prop :=
  match b.phase with
  | .createEndpoint none => role = .offer ∧ b.Newest fun n => n.made = none
  | .createEndpoint (some offer) =>
    role = .answer ∧ made b.lastId offer ∧ b.Newest fun n => n.made = none
  | .waitSdp => b.Newest fun n => (role = .offer → n.made.isSome) ∧ (role = .answer → n.made = none)
  | .sendAnswer => role = .answer ∧ b.Newest fun n => n.made = none ∧ n.applied.isSome
  | .waitConnected => b.Newest fun n => n.made.isSome ∧ n.applied.isSome
  | .tunnel => b.Newest fun _ => True
  | _ => True

/-- The invariant of one bridge, where `made` are the descriptions that the other one has made. -/
structure Sound (role : Role) (b : Bridge) (current : Nat) (sockets : Nat → Socket)
    (made : Nat → String → Prop) : Prop where
  ordered : b.history.Pairwise fun n m => m.id < n.id
  le_current : ∀ n ∈ b.history, n.id ≤ current
  fresh : b.Fresh → ∀ ws, b.socket = some ws → b.pendingId = none ∧
    (∀ id, .readyForOffer id ∈ (sockets ws).toClient → ∀ n ∈ b.history, n.id < id) ∧
    ∀ id, .restart id ∉ (sockets ws).toServer
  used : ¬ b.Fresh → ∀ ws, b.socket = some ws → ∀ n ∈ b.history, n.id ≤ b.lastId
  pending : ∀ id, b.pendingId = some id →
    b.lastId < id ∧ id ≤ current ∧ b.ws.isSome ∧ (b.phase = .attempt ∨ b.phase = .ended)
  hello : ∀ ws, b.phase = .hello ws → b.ws = none
  progress : b.Progress role made
  applied : ∀ n ∈ b.history, ∀ sdp, n.applied = some sdp → made n.id sdp
  finished : ∀ n ∈ b.history, n.finished → n.made.isSome ∧ n.applied.isSome

variable {role : Role} {b : Bridge} {current current' : Nat} {sockets sockets' : Nat → Socket}
  {made made' : Nat → String → Prop}

theorem Progress.mono (h : b.Progress role made) (hmade : ∀ id sdp, made id sdp → made' id sdp) :
    b.Progress role made' := by
  unfold Progress at h ⊢
  split at h <;> try exact h
  exact ⟨h.1, hmade _ _ h.2.1, h.2.2⟩

/-- The world around a bridge moves on. -/
theorem Sound.mono (h : b.Sound role current sockets made) (hcurrent : current ≤ current')
    (hmade : ∀ id sdp, made id sdp → made' id sdp)
    (hready : b.Fresh → ∀ ws, b.socket = some ws → ∀ id,
      .readyForOffer id ∈ (sockets' ws).toClient →
        .readyForOffer id ∈ (sockets ws).toClient ∨ current < id)
    (hrestart : b.Fresh → ∀ ws, b.socket = some ws → ∀ id,
      .restart id ∈ (sockets' ws).toServer → .restart id ∈ (sockets ws).toServer) :
    b.Sound role current' sockets' made' where
  ordered := h.ordered
  le_current := fun n hn => Nat.le_trans (h.le_current n hn) hcurrent
  fresh := by
    intro hfresh ws hws
    obtain ⟨hpending, hnew, hnone⟩ := h.fresh hfresh ws hws
    refine ⟨hpending, ?_, fun id hid => hnone id (hrestart hfresh ws hws id hid)⟩
    intro id hid n hn
    rcases hready hfresh ws hws id hid with hid | hid
    · exact hnew id hid n hn
    · exact Nat.lt_of_le_of_lt (h.le_current n hn) hid
  used := h.used
  pending := by
    intro id hid
    obtain ⟨hlt, hle, hrest⟩ := h.pending id hid
    exact ⟨hlt, Nat.le_trans hle hcurrent, hrest⟩
  hello := h.hello
  progress := h.progress.mono hmade
  applied := fun n hn sdp happlied => hmade _ _ (h.applied n hn sdp happlied)
  finished := h.finished

/-- Only in front of an attempt is an id pending. -/
theorem Sound.pendingId_eq_none (h : b.Sound role current sockets made)
    (hattempt : b.phase ≠ .attempt) (hended : b.phase ≠ .ended) : b.pendingId = none := by
  cases hid : b.pendingId with
  | none => rfl
  | some id =>
    rcases (h.pending id hid).2.2.2 with hphase | hphase
    · exact absurd hphase hattempt
    · exact absurd hphase hended

theorem Newest.not_fresh {P : Negotiation → Prop} (h : b.Newest P)
    (hhello : ∀ ws, b.phase ≠ .hello ws) :
    ¬ b.Fresh := by
  obtain ⟨n, rest, -, -, hne, -⟩ := h
  rintro (⟨ws, hws⟩ | hzero)
  · exact hhello ws hws
  · exact hne hzero

/-- A weaker property of the newest negotiation. -/
theorem Newest.imp {P Q : Negotiation → Prop} (h : b.Newest P) (himp : ∀ n, P n → Q n) :
    b.Newest Q := by
  obtain ⟨n, rest, hhistory, hid, hne, hn⟩ := h
  exact ⟨n, rest, hhistory, hid, hne, himp n hn⟩

/-- The socket is given up. -/
theorem Sound.retry (h : b.Sound role current sockets made) (hpending : b.pendingId = none) :
    b.retry.Sound role current sockets made where
  ordered := h.ordered
  le_current := h.le_current
  fresh := fun _ _ hws => nomatch hws
  used := fun _ _ hws => nomatch hws
  pending := fun _ hid => nomatch hpending.symm.trans hid
  hello := fun _ _ => rfl
  progress := trivial
  applied := h.applied
  finished := h.finished

/-- A negotiation begins, with an id above all earlier ones. -/
theorem Sound.negotiate (h : b.Sound role current sockets made) {id : Nat}
    (habove : ∀ n ∈ b.history, n.id < id) (hpos : 0 < id) (hle : id ≤ current) :
    (b.negotiate role id).Sound role current sockets made := by
  have hnewest : ∀ P : Negotiation → Prop, P { id } → (b.negotiate role id).Newest P := fun P hP =>
    ⟨{ id }, b.history, rfl, rfl, Nat.ne_of_gt hpos, hP⟩
  have hfresh : ¬ (b.negotiate role id).Fresh := by
    refine (hnewest (fun _ => True) trivial).not_fresh ?_
    intro ws
    cases role <;> exact Phase.noConfusion
  refine ⟨List.Pairwise.cons habove h.ordered, ?_, fun hf => absurd hf hfresh, ?_,
    fun _ hid => (nomatch hid), ?_, ?_, ?_, ?_⟩
  · intro n hn
    rcases List.mem_cons.mp hn with rfl | hn
    · exact hle
    · exact h.le_current n hn
  · intro _ ws _ n hn
    rcases List.mem_cons.mp hn with rfl | hn
    · exact Nat.le_refl _
    · exact Nat.le_of_lt (habove n hn)
  · intro ws hws
    cases role <;> cases hws
  · cases role with
    | offer => exact ⟨rfl, hnewest _ rfl⟩
    | answer => exact hnewest _ ⟨fun h => (nomatch h), fun _ => rfl⟩
  · intro n hn sdp happlied
    rcases List.mem_cons.mp hn with rfl | hn
    · cases happlied
    · exact h.applied n hn sdp happlied
  · intro n hn hfinished
    rcases List.mem_cons.mp hn with rfl | hn
    · cases hfinished
    · exact h.finished n hn hfinished

/-- The place in the loop changes, with the same socket and ids. -/
theorem Sound.goTo (h : b.Sound role current sockets made) {phase : Phase}
    (hhello : ∀ ws, b.phase ≠ .hello ws) (hhello' : ∀ ws, phase ≠ .hello ws)
    (hpending : b.pendingId ≠ none → phase = .attempt ∨ phase = .ended)
    (hprogress : ({ b with phase } : Bridge).Progress role made) :
    ({ b with phase } : Bridge).Sound role current sockets made := by
  have hsocket : ({ b with phase } : Bridge).socket = b.socket := by
    unfold socket
    cases hp : b.phase <;> cases hp' : phase <;> first | rfl | exact absurd hp (hhello _) |
      exact absurd hp' (hhello' _)
  have hfresh : ({ b with phase } : Bridge).Fresh ↔ b.Fresh := by
    constructor
    · rintro (⟨ws, hws⟩ | hzero)
      · exact absurd hws (hhello' ws)
      · exact Or.inr hzero
    · rintro (⟨ws, hws⟩ | hzero)
      · exact absurd hws (hhello ws)
      · exact Or.inr hzero
  refine ⟨h.ordered, h.le_current, ?_, ?_, ?_, fun ws hws => absurd hws (hhello' ws), hprogress,
    h.applied, h.finished⟩
  · intro hf ws hws
    exact h.fresh (hfresh.mp hf) ws (hsocket ▸ hws)
  · intro hf ws hws
    exact h.used (fun hf' => hf (hfresh.mpr hf')) ws (hsocket ▸ hws)
  · intro id hid
    obtain ⟨hlt, hle, hws, -⟩ := h.pending id hid
    refine ⟨hlt, hle, hws, hpending ?_⟩
    intro hnone
    cases hnone.symm.trans hid

/-- The newest negotiation comes further. -/
theorem Sound.update (h : b.Sound role current sockets made) {f : Negotiation → Negotiation}
    (hid : ∀ n, (f n).id = n.id)
    (happlied : ∀ n rest, b.history = n :: rest → ∀ sdp, (f n).applied = some sdp → made n.id sdp)
    (hfinished : ∀ n rest, b.history = n :: rest → (f n).finished →
      (f n).made.isSome ∧ (f n).applied.isSome)
    (hprogress : (b.update f).Progress role made) :
    (b.update f).Sound role current sockets made := by
  unfold Bridge.update at hprogress ⊢
  cases hhistory : b.history with
  | nil =>
    rw [hhistory] at hprogress
    exact h
  | cons n rest =>
    rw [hhistory] at hprogress
    dsimp only at hprogress ⊢
    have hids : ∀ P : Nat → Prop, (∀ m ∈ b.history, P m.id) → ∀ m ∈ f n :: rest, P m.id := by
      intro P hP m hm
      rw [hhistory] at hP
      rcases List.mem_cons.mp hm with rfl | hm
      · rw [hid]
        exact hP n List.mem_cons_self
      · exact hP m (List.mem_cons_of_mem n hm)
    have hordered := h.ordered
    rw [hhistory, List.pairwise_cons] at hordered
    refine ⟨List.Pairwise.cons ?_ hordered.2, hids (· ≤ current) h.le_current, ?_, ?_, h.pending,
      h.hello, hprogress, ?_, ?_⟩
    · intro m hm
      rw [hid]
      exact hordered.1 m hm
    · intro hf ws hws
      obtain ⟨hpending, hnew, hnone⟩ := h.fresh hf ws hws
      exact ⟨hpending, fun id hmem => hids (· < id) (hnew id hmem), hnone⟩
    · intro hf ws hws
      exact hids (· ≤ b.lastId) (h.used hf ws hws)
    · intro m hm sdp hsdp
      rcases List.mem_cons.mp hm with rfl | hm
      · rw [hid]
        exact happlied n rest hhistory sdp hsdp
      · exact h.applied m (hhistory ▸ List.mem_cons_of_mem n hm) sdp hsdp
    · intro m hm hfin
      rcases List.mem_cons.mp hm with rfl | hm
      · exact hfinished n rest hhistory hfin
      · exact h.finished m (hhistory ▸ List.mem_cons_of_mem n hm) hfin

theorem Made.of_history {b' : Bridge} (h : b'.history = b.history) {id : Nat} {sdp : String}
    (hmade : b.Made id sdp) : b'.Made id sdp := by
  unfold Made
  rw [h]
  exact hmade

theorem Made.negotiate {id id' : Nat} {sdp : String} (h : b.Made id sdp) :
    (b.negotiate role id').Made id sdp := by
  obtain ⟨n, hn, hrest⟩ := h
  exact ⟨n, List.mem_cons_of_mem _ hn, hrest⟩

/-- What was made stays made while the newest negotiation comes further. -/
theorem Made.update {f : Negotiation → Negotiation} (hid : ∀ n, (f n).id = n.id)
    (hmade : ∀ n rest, b.history = n :: rest → ∀ sdp, n.made = some sdp → (f n).made = some sdp)
    {id : Nat} {sdp : String} (h : b.Made id sdp) : (b.update f).Made id sdp := by
  obtain ⟨n, hn, hnid, hsdp⟩ := h
  unfold Bridge.update
  cases hhistory : b.history with
  | nil =>
    rw [hhistory] at hn
    cases hn
  | cons m rest =>
    rw [hhistory] at hn
    rcases List.mem_cons.mp hn with rfl | hn
    · exact ⟨f n, List.mem_cons_self, (hid n).trans hnid, hmade n rest hhistory sdp hsdp⟩
    · exact ⟨n, List.mem_cons_of_mem _ hn, hnid, hsdp⟩

/-- What a step of a bridge guarantees to the rest. -/
structure Advances (role : Role) (b b' : Bridge) (sent : List ClientMessage) (current : Nat)
    (sockets : Nat → Socket) (made : Nat → String → Prop) : Prop where
  sound : b'.Sound role current sockets made
  made : ∀ id sdp, b.Made id sdp → b'.Made id sdp
  socket : ∀ ws, b'.socket = some ws → b.socket = some ws
  sdp : ∀ kind sdp id, .sdp kind sdp (some id) ∈ sent → kind = role ∧ b'.Made id sdp
  restart : ∀ id, .restart id ∈ sent → ¬ b'.Fresh
  sends : sent ≠ [] → b.socket = b.ws

/-- A step that sends nothing. -/
theorem Advances.silent {b' : Bridge} (hsound : b'.Sound role current sockets made)
    (hmade : ∀ id sdp, b.Made id sdp → b'.Made id sdp)
    (hsocket : ∀ ws, b'.socket = some ws → b.socket = some ws) :
    Advances role b b' [] current sockets made :=
  ⟨hsound, hmade, hsocket, fun _ _ _ hm => absurd hm List.not_mem_nil,
    fun _ hm => absurd hm List.not_mem_nil, fun hne => absurd rfl hne⟩

/-- A bridge gives up its attempt. -/
theorem Sound.advances_retry (h : b.Sound role current sockets made) (hattempt : b.phase ≠ .attempt)
    (hended : b.phase ≠ .ended) : Advances role b b.retry [] current sockets made :=
  Advances.silent (h.retry (h.pendingId_eq_none hattempt hended)) (fun _ _ hm => hm)
    (fun _ hws => nomatch hws)

theorem socket_eq_ws (hhello : ∀ ws, b.phase ≠ .hello ws) : b.socket = b.ws := by
  unfold socket
  split
  · next hphase => exact absurd hphase (hhello _)
  · rfl

theorem Newest.goTo {P : Negotiation → Prop} (h : b.Newest P) (phase : Phase) :
    ({ b with phase } : Bridge).Newest P := h

/-- Inside of `negotiate` and in the tunnel there is a newest negotiation. -/
theorem newest_of_progress (h : b.Progress role made)
    (hphase : b.negotiating = true ∨ b.phase = .tunnel) :
    (∀ ws, b.phase ≠ .hello ws) ∧ b.Newest fun _ => True := by
  unfold Progress at h
  unfold negotiating at hphase
  split at h
  · next heq => exact ⟨fun ws hws => (nomatch heq.symm.trans hws), h.2.imp fun _ _ => trivial⟩
  · next heq => exact ⟨fun ws hws => (nomatch heq.symm.trans hws), h.2.2.imp fun _ _ => trivial⟩
  · next heq => exact ⟨fun ws hws => (nomatch heq.symm.trans hws), h.imp fun _ _ => trivial⟩
  · next heq => exact ⟨fun ws hws => (nomatch heq.symm.trans hws), h.2.imp fun _ _ => trivial⟩
  · next heq => exact ⟨fun ws hws => (nomatch heq.symm.trans hws), h.imp fun _ _ => trivial⟩
  · next heq => exact ⟨fun ws hws => (nomatch heq.symm.trans hws), h⟩
  · next h₁ h₂ h₃ h₄ h₅ h₆ =>
    rcases hphase with hphase | hphase
    · split at hphase
      · next offer heq =>
        cases offer with
        | none => exact absurd heq h₁
        | some offer => exact absurd heq (h₂ offer)
      · next heq => exact absurd heq h₃
      · next heq => exact absurd heq h₄
      · next heq => exact absurd heq h₅
      · cases hphase
    · exact absurd hphase h₆

/-- `request_restart`, from a negotiation or from the tunnel. -/
theorem Sound.advances_requestRestart (h : b.Sound role current sockets made)
    (hphase : b.negotiating = true ∨ b.phase = .tunnel) (sent : Bool) :
    Advances role b (b.requestRestart sent).1 (b.requestRestart sent).2 current sockets made := by
  obtain ⟨hhello, hnewest⟩ := newest_of_progress h.progress hphase
  have hattempt : b.phase ≠ .attempt := by
    intro heq
    simp [negotiating, heq] at hphase
  have hended : b.phase ≠ .ended := by
    intro heq
    simp [negotiating, heq] at hphase
  unfold requestRestart
  cases sent with
  | false => exact h.advances_retry hattempt hended
  | true =>
    refine ⟨h.goTo hhello (fun _ => Phase.noConfusion) (fun _ => Or.inl rfl) trivial,
      fun _ _ hm => hm, ?_, ?_, ?_, fun _ => socket_eq_ws hhello⟩
    · intro ws hws
      rw [socket_eq_ws hhello]
      exact hws
    · intro kind sdp id hm
      simp at hm
    · intro id _
      exact (hnewest.goTo .attempt).not_fresh fun _ => Phase.noConfusion

/-- The newest negotiation has come further, and the loop waits for the next thing. -/
theorem Sound.advances_update (h : b.Sound role current sockets made)
    {f : Negotiation → Negotiation}
    {phase : Phase} {sent : List ClientMessage} (hphase : b.negotiating = true)
    (hhello : ∀ ws, phase ≠ .hello ws) (hid : ∀ n, (f n).id = n.id)
    (happlied : ∀ n rest, b.history = n :: rest → ∀ sdp, (f n).applied = some sdp → made n.id sdp)
    (hfinished : ∀ n rest, b.history = n :: rest → (f n).finished →
      (f n).made.isSome ∧ (f n).applied.isSome)
    (hkept : ∀ n rest, b.history = n :: rest → ∀ sdp, n.made = some sdp → (f n).made = some sdp)
    (hprogress : ({ b.update f with phase } : Bridge).Progress role made)
    (hsdp : ∀ m ∈ sent, ∃ sdp, m = .sdp role sdp (some b.lastId) ∧ (b.update f).Made b.lastId sdp) :
    Advances role b { b.update f with phase } sent current sockets made := by
  obtain ⟨hhello₀, -⟩ := newest_of_progress h.progress (Or.inl hphase)
  have hpending : b.pendingId = none := by
    refine h.pendingId_eq_none ?_ ?_
    · intro heq
      simp [negotiating, heq] at hphase
    · intro heq
      simp [negotiating, heq] at hphase
  have hfields : (b.update f).ws = b.ws ∧ (b.update f).pendingId = b.pendingId := by
    unfold Bridge.update
    split <;> exact ⟨rfl, rfl⟩
  -- at the top of the loop nothing is promised about the newest negotiation
  have hat := h.goTo hhello₀ (fun _ => Phase.noConfusion) (fun _ => Or.inl rfl)
    (show ({ b with phase := .attempt } : Bridge).Progress role made from trivial)
  have hup : (({ b with phase := .attempt } : Bridge).update f).Sound role
      current sockets made := by
    refine hat.update hid happlied hfinished ?_
    unfold Bridge.update
    split <;> trivial
  have hshape : (({ b with phase := .attempt } : Bridge).update f) =
      { b.update f with phase := .attempt } := by
    unfold Bridge.update
    dsimp only
    split <;> rfl
  rw [hshape] at hup
  refine ⟨hup.goTo (fun _ => Phase.noConfusion) hhello (fun hne => absurd ?_ hne) hprogress,
    fun id sdp hm => (hm.update hid hkept).of_history rfl, ?_, ?_, ?_,
    fun _ => socket_eq_ws hhello₀⟩
  · exact hfields.2.trans hpending
  · intro ws hws
    rw [socket_eq_ws hhello₀, ← hfields.1]
    rwa [socket_eq_ws hhello] at hws
  · intro kind sdp id hm
    obtain ⟨sdp', heq, hmade⟩ := hsdp _ hm
    cases heq
    exact ⟨rfl, hmade⟩
  · intro id hm
    obtain ⟨sdp', heq, -⟩ := hsdp _ hm
    cases heq

/-- A bridge goes on from where it is. -/
theorem Sound.advances_goOn (h : b.Sound role current sockets made) {b' : Bridge}
    {sent : List ClientMessage} (hact : b.act role .goOn = some (b', sent)) :
    Advances role b b' sent current sockets made := by
  unfold act at hact
  dsimp only at hact
  split at hact
  · next hphase hws hpending =>
    cases hact
    have hhello : ∀ ws, b.phase ≠ .hello ws := fun ws heq => (nomatch hphase.symm.trans heq)
    obtain ⟨hlt, hle, -⟩ := h.pending _ hpending
    have hfresh : ¬ b.Fresh := by
      intro hf
      have hnone := (h.fresh hf _ ((socket_eq_ws hhello).trans hws)).1
      cases hnone.symm.trans hpending
    have hused := h.used hfresh _ ((socket_eq_ws hhello).trans hws)
    refine Advances.silent (h.negotiate (fun n hn => Nat.lt_of_le_of_lt (hused n hn) hlt)
      (Nat.zero_lt_of_lt hlt) hle) (fun _ _ hm => hm.negotiate) ?_
    intro ws hws'
    rw [socket_eq_ws hhello]
    rw [socket_eq_ws (by intro ws; cases role <;> exact Phase.noConfusion)] at hws'
    exact hws'
  · next hphase hws hpending =>
    cases hact
    have hhello : ∀ ws, b.phase ≠ .hello ws := fun ws heq => (nomatch hphase.symm.trans heq)
    refine Advances.silent (h.goTo hhello (fun _ => Phase.noConfusion)
      (fun hne => absurd hpending hne) trivial) (fun _ _ hm => hm) ?_
    intro ws hws'
    rw [socket_eq_ws hhello]
    exact hws'
  · cases hact

theorem Newest.update {P Q : Negotiation → Prop} (h : b.Newest P) {f : Negotiation → Negotiation}
    (hid : ∀ n, (f n).id = n.id) (himp : ∀ n, P n → Q (f n)) (phase : Phase) :
    ({ b.update f with phase } : Bridge).Newest Q := by
  obtain ⟨n, rest, hhistory, hnid, hne, hn⟩ := h
  unfold Bridge.update
  rw [hhistory]
  exact ⟨f n, rest, rfl, (hid n).trans hnid, hne, himp n hn⟩

theorem Newest.made_update {P : Negotiation → Prop} (h : b.Newest P) {f : Negotiation → Negotiation}
    (hid : ∀ n, (f n).id = n.id) {sdp : String} (hmade : ∀ n, (f n).made = some sdp) :
    (b.update f).Made b.lastId sdp := by
  obtain ⟨n, rest, hhistory, hnid, -, -⟩ := h
  unfold Bridge.update
  rw [hhistory]
  exact ⟨f n, List.mem_cons_self, (hid n).trans hnid, hmade n⟩

theorem Newest.head {P : Negotiation → Prop} (h : b.Newest P) {n : Negotiation}
    {rest : List Negotiation} (hhistory : b.history = n :: rest) : n.id = b.lastId ∧ P n := by
  obtain ⟨n', rest', hhistory', hnid, -, hn⟩ := h
  rw [hhistory] at hhistory'
  cases hhistory'
  exact ⟨hnid, hn⟩

/-- The endpoint of a negotiation exists. -/
theorem Sound.advances_created (h : b.Sound role current sockets made) {sdp : String} {b' : Bridge}
    {sent : List ClientMessage} (hact : b.act role (.created sdp) = some (b', sent)) :
    Advances role b b' sent current sockets made := by
  have hprogress := h.progress
  unfold Progress at hprogress
  unfold act at hact
  dsimp only at hact
  split at hact
  · next hphase =>
    cases hact
    rw [hphase] at hprogress
    obtain ⟨rfl, hnewest⟩ := hprogress
    refine h.advances_update (by rw [negotiating, hphase]) (fun _ => Phase.noConfusion)
      (fun _ => rfl) ?_ ?_ ?_ ?_ ?_
    · intro n rest hhistory sdp happlied
      exact h.applied n (hhistory ▸ List.mem_cons_self) sdp happlied
    · intro n rest hhistory hfinished
      exact ⟨rfl, (h.finished n (hhistory ▸ List.mem_cons_self) hfinished).2⟩
    · intro n rest hhistory sdp hmade
      rw [(hnewest.head hhistory).2] at hmade
      cases hmade
    · refine Newest.update hnewest ?_ ?_ .waitSdp
      · exact fun _ => rfl
      · exact fun _ _ => ⟨fun _ => rfl, fun h => (nomatch h)⟩
    · intro m hm
      rw [List.mem_singleton.mp hm]
      refine ⟨sdp, rfl, Newest.made_update hnewest ?_ ?_⟩
      · exact fun _ => rfl
      · exact fun _ => rfl
  · next offer hphase =>
    cases hact
    rw [hphase] at hprogress
    obtain ⟨rfl, hoffer, hnewest⟩ := hprogress
    refine h.advances_update (by rw [negotiating, hphase]) (fun _ => Phase.noConfusion)
      (fun _ => rfl) ?_ ?_ (fun _ _ _ _ hmade => hmade) ?_ (fun _ hm => absurd hm List.not_mem_nil)
    · intro n rest hhistory sdp happlied
      cases happlied
      rw [(hnewest.head hhistory).1]
      exact hoffer
    · intro n rest hhistory hfinished
      exact ⟨(h.finished n (hhistory ▸ List.mem_cons_self) hfinished).1, rfl⟩
    · refine ⟨rfl, Newest.update hnewest ?_ ?_ .sendAnswer⟩
      · exact fun _ => rfl
      · exact fun _ hmade => ⟨hmade, rfl⟩
  · cases hact

/-- The answer is sent. -/
theorem Sound.advances_answered (h : b.Sound role current sockets made) {sdp : String} {b' : Bridge}
    {sent : List ClientMessage} (hact : b.act role (.answered sdp) = some (b', sent)) :
    Advances role b b' sent current sockets made := by
  have hprogress := h.progress
  unfold Progress at hprogress
  unfold act at hact
  dsimp only at hact
  split at hact
  · next hphase =>
    cases hact
    rw [hphase] at hprogress
    obtain ⟨rfl, hnewest⟩ := hprogress
    refine h.advances_update (by rw [negotiating, hphase]) (fun _ => Phase.noConfusion)
      (fun _ => rfl) ?_ ?_ ?_ ?_ ?_
    · intro n rest hhistory sdp happlied
      exact h.applied n (hhistory ▸ List.mem_cons_self) sdp happlied
    · intro n rest hhistory hfinished
      exact ⟨rfl, (h.finished n (hhistory ▸ List.mem_cons_self) hfinished).2⟩
    · intro n rest hhistory sdp hmade
      rw [(hnewest.head hhistory).2.1] at hmade
      cases hmade
    · refine Newest.update hnewest ?_ ?_ .waitConnected
      · exact fun _ => rfl
      · exact fun _ hn => ⟨rfl, hn.2⟩
    · intro m hm
      rw [List.mem_singleton.mp hm]
      refine ⟨sdp, rfl, Newest.made_update hnewest ?_ ?_⟩
      · exact fun _ => rfl
      · exact fun _ => rfl
  · cases hact

/-- `negotiate` returns. -/
theorem Sound.advances_connected (h : b.Sound role current sockets made) {b' : Bridge}
    {sent : List ClientMessage} (hact : b.act role .connected = some (b', sent)) :
    Advances role b b' sent current sockets made := by
  have hprogress := h.progress
  unfold Progress at hprogress
  unfold act at hact
  dsimp only at hact
  split at hact
  · next hphase =>
    cases hact
    rw [hphase] at hprogress
    refine h.advances_update (by rw [negotiating, hphase]) (fun _ => Phase.noConfusion)
      (fun _ => rfl) ?_ ?_ (fun _ _ _ _ hmade => hmade) ?_ (fun _ hm => absurd hm List.not_mem_nil)
    · intro n rest hhistory sdp happlied
      exact h.applied n (hhistory ▸ List.mem_cons_self) sdp happlied
    · intro n rest hhistory _
      exact (Newest.head hprogress hhistory).2
    · refine Newest.update hprogress ?_ ?_ .tunnel
      · exact fun _ => rfl
      · exact fun _ _ => trivial
  · cases hact

/-- A bridge ends. -/
theorem Sound.advances_stop (h : b.Sound role current sockets made) :
    Advances role b { b with phase := .ended } [] current sockets made := by
  by_cases hhello : ∃ ws, b.phase = .hello ws
  · obtain ⟨ws, hws⟩ := hhello
    have hnone := h.hello ws hws
    have hpending : b.pendingId = none := by
      refine h.pendingId_eq_none ?_ ?_
      · rw [hws]
        exact Phase.noConfusion
      · rw [hws]
        exact Phase.noConfusion
    refine Advances.silent ⟨h.ordered, h.le_current, ?_, ?_, ?_,
      fun _ _ => hnone, trivial, h.applied,
      h.finished⟩ (fun _ _ hm => hm) ?_
    · intro _ ws' hws'
      cases hnone.symm.trans hws'
    · intro _ ws' hws'
      cases hnone.symm.trans hws'
    · intro id hid
      cases hpending.symm.trans hid
    · intro ws' hws'
      cases hnone.symm.trans hws'
  · have hhello' : ∀ ws, b.phase ≠ .hello ws := fun ws hws => hhello ⟨ws, hws⟩
    refine Advances.silent (h.goTo hhello' (fun _ => Phase.noConfusion)
      (fun _ => Or.inr rfl) trivial)
      (fun _ _ hm => hm) ?_
    intro ws hws
    rw [socket_eq_ws hhello']
    exact hws

/-- Every action of a bridge keeps its invariant. -/
theorem Sound.advances_act (h : b.Sound role current sockets made)
    {action : BridgeAction} {b' : Bridge}
    {sent : List ClientMessage} (hact : b.act role action = some (b', sent)) :
    Advances role b b' sent current sockets made := by
  cases action with
  | goOn => exact h.advances_goOn hact
  | created sdp => exact h.advances_created hact
  | answered sdp => exact h.advances_answered hact
  | connected => exact h.advances_connected hact
  | timeout ok =>
    unfold act at hact
    dsimp only at hact
    split at hact
    · next hphase =>
      have hpair := Option.some.inj hact
      rw [← show (b.requestRestart ok).1 = b' from congrArg Prod.fst hpair,
        ← show (b.requestRestart ok).2 = sent from congrArg Prod.snd hpair]
      exact h.advances_requestRestart (Or.inl hphase) ok
    · cases hact
  | fail =>
    unfold act at hact
    dsimp only at hact
    split at hact
    · cases hact
    · cases hact
    · cases hact
    · next hattempt _ hended =>
      cases hact
      exact h.advances_retry hattempt hended
  | stop =>
    unfold act at hact
    dsimp only at hact
    split at hact
    · cases hact
    · cases hact
      exact h.advances_stop
  | tunnelEnded ok =>
    unfold act at hact
    dsimp only at hact
    split at hact
    · next hphase =>
      have hpair := Option.some.inj hact
      rw [← show (b.requestRestart ok).1 = b' from congrArg Prod.fst hpair,
        ← show (b.requestRestart ok).2 = sent from congrArg Prod.snd hpair]
      exact h.advances_requestRestart (Or.inr hphase) ok
    · cases hact
  | signalLost =>
    unfold act at hact
    dsimp only at hact
    split at hact
    · next hphase =>
      cases hact
      refine h.advances_retry ?_ ?_
      · rw [hphase]
        exact Phase.noConfusion
      · rw [hphase]
        exact Phase.noConfusion
    · cases hact
  | ping =>
    unfold act at hact
    dsimp only at hact
    split at hact
    · next hphase =>
      cases hact
      obtain ⟨hhello, -⟩ := newest_of_progress h.progress (Or.inr hphase)
      refine ⟨h, fun _ _ hm => hm, fun _ hws => hws, ?_, ?_, fun _ => socket_eq_ws hhello⟩
      · intro kind sdp id hm
        simp at hm
      · intro id hm
        simp at hm
    · cases hact

/-- A newer id comes in during a negotiation or the tunnel. -/
theorem Sound.advances_supersede (h : b.Sound role current sockets made)
    (hphase : b.negotiating = true ∨ b.phase = .tunnel) {ws id : Nat} (hsocket : b.socket = some ws)
    (hlt : b.lastId < id) (hle : id ≤ current) :
    Advances role b (b.supersede id) [] current sockets made := by
  obtain ⟨hhello, hnewest⟩ := newest_of_progress h.progress hphase
  have hfresh : ¬ (b.supersede id).Fresh :=
    (hnewest.goTo .attempt).not_fresh fun _ => Phase.noConfusion
  rw [socket_eq_ws hhello] at hsocket
  refine Advances.silent ⟨h.ordered, h.le_current, fun hf => absurd hf hfresh, ?_, ?_,
    fun _ hws => (nomatch hws), trivial, h.applied, h.finished⟩ (fun _ _ hm => hm) ?_
  · intro _ ws' _
    exact h.used (hnewest.not_fresh hhello) ws (socket_eq_ws hhello ▸ hsocket)
  · intro id' hid
    cases hid
    exact ⟨hlt, hle, by rw [Bridge.supersede, hsocket]; rfl, Or.inl rfl⟩
  · intro ws' hws'
    rw [socket_eq_ws hhello]
    exact hws'

theorem Sound.advances_self (h : b.Sound role current sockets made) :
    Advances role b b [] current sockets made :=
  Advances.silent h (fun _ _ hm => hm) (fun _ hws => hws)

/-- The first message of a socket. -/
theorem Sound.advances_hello (h : b.Sound role current sockets made) {ws : Nat}
    (hphase : b.phase = .hello ws) :
    Advances role b { b with ws := some ws, lastId := 0, phase := .attempt }
      [] current sockets made := by
  have hsocket : b.socket = some ws := by rw [socket, hphase]
  have hfresh := h.fresh (Or.inl ⟨ws, hphase⟩) ws hsocket
  refine Advances.silent ⟨h.ordered, h.le_current, ?_, ?_, ?_, fun _ hws => (nomatch hws), trivial,
    h.applied, h.finished⟩ (fun _ _ hm => hm) ?_
  · rintro _ ws' ⟨⟩
    exact hfresh
  · intro hf
    exact absurd (Or.inr rfl) hf
  · intro id hid
    cases hfresh.1.symm.trans hid
  · rintro ws' ⟨⟩
    exact hsocket

/-- An id is read in `wait_ready`. It is new even if the socket is: then it was handed out later. -/
theorem Sound.advances_ready (h : b.Sound role current sockets made) (hphase : b.phase = .waitReady)
    {ws id : Nat} (hsocket : b.socket = some ws) (hin : .readyForOffer id ∈ (sockets ws).toClient)
    (hlt : b.lastId < id) (hle : id ≤ current) :
    Advances role b (b.negotiate role id) [] current sockets made := by
  have habove : ∀ n ∈ b.history, n.id < id := by
    intro n hn
    by_cases hfresh : b.Fresh
    · exact (h.fresh hfresh ws hsocket).2.1 id hin n hn
    · exact Nat.lt_of_le_of_lt (h.used hfresh ws hsocket n hn) hlt
  refine Advances.silent (h.negotiate habove (Nat.zero_lt_of_lt hlt) hle)
    (fun _ _ hm => hm.negotiate) ?_
  intro ws' hws'
  rw [socket_eq_ws (fun ws heq => nomatch hphase.symm.trans heq)]
  rw [socket_eq_ws (by intro ws; cases role <;> exact Phase.noConfusion)] at hws'
  exact hws'

/-- The description that the negotiation waits for. -/
theorem Sound.advances_sdp (h : b.Sound role current sockets made) (hphase : b.phase = .waitSdp)
    {sdp : String} (hsdp : made b.lastId sdp) :
    Advances role b (b.takeSdp role sdp) [] current sockets made := by
  have hprogress := h.progress
  unfold Progress at hprogress
  rw [hphase] at hprogress
  dsimp only at hprogress
  cases role with
  | answer =>
    have hhello : ∀ ws, b.phase ≠ .hello ws := fun ws heq => (nomatch hphase.symm.trans heq)
    have hpending : b.pendingId = none := by
      refine h.pendingId_eq_none ?_ ?_
      · rw [hphase]
        exact Phase.noConfusion
      · rw [hphase]
        exact Phase.noConfusion
    refine Advances.silent (h.goTo hhello (fun _ => Phase.noConfusion)
      (fun hne => absurd hpending hne) ⟨rfl, hsdp, ?_⟩) (fun _ _ hm => hm) ?_
    · exact Newest.imp hprogress fun _ hn => hn.2 rfl
    · intro ws hws
      rw [socket_eq_ws hhello]
      exact hws
  | offer =>
    refine h.advances_update (by rw [negotiating, hphase]) (fun _ => Phase.noConfusion)
      (fun _ => rfl) ?_ ?_ (fun _ _ _ _ hmade => hmade) ?_ (fun _ hm => absurd hm List.not_mem_nil)
    · intro n rest hhistory sdp happlied
      cases happlied
      rw [(Newest.head hprogress hhistory).1]
      exact hsdp
    · intro n rest hhistory hfinished
      exact ⟨(Newest.head hprogress hhistory).2.1 rfl, rfl⟩
    · refine Newest.update hprogress ?_ ?_ .waitConnected
      · exact fun _ => rfl
      · exact fun _ hn => ⟨hn.1 rfl, rfl⟩

/-- Every message that a bridge reads keeps its invariant. -/
theorem Sound.advances_receive (h : b.Sound role current sockets made) {ws : Nat}
    (hsocket : b.socket = some ws) {m : ServerMessage} (hin : m ∈ (sockets ws).toClient)
    (hle : ∀ id, m = .readyForOffer id → id ≤ current)
    (hsdp : ∀ sender sdp id, m = .sdp sender (peerRole role) sdp (some id) → made id sdp)
    {b' : Bridge} (hb : b.receive role m = some b') :
    Advances role b b' [] current sockets made := by
  unfold receive at hb
  split at hb
  · next ws' hphase =>
    have hattempt : b.phase ≠ .attempt := by rw [hphase]; exact Phase.noConfusion
    have hended : b.phase ≠ .ended := by rw [hphase]; exact Phase.noConfusion
    split at hb
    · split at hb
      · cases hb
        exact h.advances_stop
      · cases hb
        exact h.advances_hello hphase
    · cases hb
      exact h.advances_retry hattempt hended
    · cases hb
      exact h.advances_self
  · next hphase =>
    have hattempt : b.phase ≠ .attempt := by rw [hphase]; exact Phase.noConfusion
    have hended : b.phase ≠ .ended := by rw [hphase]; exact Phase.noConfusion
    split at hb
    · next id =>
      cases hb
      split
      · next hlt => exact h.advances_ready hphase hsocket hin hlt (hle id rfl)
      · exact h.advances_self
    · cases hb
      exact h.advances_retry hattempt hended
    · cases hb
      exact h.advances_self
  · next hphase =>
    have hattempt : b.phase ≠ .attempt := by rw [hphase]; exact Phase.noConfusion
    have hended : b.phase ≠ .ended := by rw [hphase]; exact Phase.noConfusion
    have hnegotiating : b.negotiating = true := by rw [negotiating, hphase]
    split at hb
    · next id =>
      cases hb
      split
      · next hlt => exact h.advances_supersede (Or.inl hnegotiating) hsocket hlt (hle id rfl)
      · exact h.advances_self
    · next sender kind sdp id =>
      cases hb
      split
      · next hmatch =>
        obtain ⟨rfl, rfl⟩ := hmatch
        exact h.advances_sdp hphase (hsdp sender sdp _ rfl)
      · exact h.advances_self
    · cases hb
      exact h.advances_retry hattempt hended
    · cases hb
      exact h.advances_self
  · next hphase =>
    have hattempt : b.phase ≠ .attempt := by rw [hphase]; exact Phase.noConfusion
    have hended : b.phase ≠ .ended := by rw [hphase]; exact Phase.noConfusion
    split at hb
    · next id =>
      cases hb
      split
      · next hlt => exact h.advances_supersede (Or.inr hphase) hsocket hlt (hle id rfl)
      · exact h.advances_self
    · cases hb
      exact h.advances_retry hattempt hended
    · cases hb
      exact h.advances_self
  · cases hb

end Bridge

/-! ## The invariant of the composition -/

/-- A relayed description was made by the bridge of its type. -/
def Backed (bridges : Role → Bridge) (m : ServerMessage) : Prop :=
  ∀ sender kind sdp id, m = .sdp sender kind sdp (some id) → (bridges kind).Made id sdp

/-- A message that one bridge has sent to the other. -/
def Relayed (bridges : Role → Bridge) (m : ServerMessage) : Prop :=
  Backed bridges m ∧ ∀ id, m ≠ .readyForOffer id

/-- Room and bridges agree on the connection. -/
structure Agreement (room : SignalingRoom) (bridges : Role → Bridge) (opened : Nat) : Prop where
  sound : ∀ role, (bridges role).Sound role room.current room.sockets (bridges (peerRole role)).Made
  ready_le : ∀ ws id, .readyForOffer id ∈ (room.sockets ws).toClient → id ≤ room.current
  toServer : ∀ ws kind sdp id, .sdp kind sdp (some id) ∈ (room.sockets ws).toServer →
    (bridges kind).Made id sdp
  toClient : ∀ ws, ∀ m ∈ (room.sockets ws).toClient, Backed bridges m
  queued : ∀ e ∈ room.queuedSignals, Relayed bridges e.message
  below : ∀ role ws, (bridges role).socket = some ws → ws < opened
  apart : ∀ role ws, (bridges role).socket = some ws → (bridges (peerRole role)).socket ≠ some ws

variable {room room' : SignalingRoom} {bridges : Role → Bridge} {opened : Nat}

/-- A message that the room may add for a socket. -/
def Harmless (room room' : SignalingRoom) (bridges : Role → Bridge) (ws : Nat) (m : ServerMessage) :
    Prop :=
  Backed bridges m ∧ ∀ id, m = .readyForOffer id → id ≤ room'.current ∧
    (room.current < id ∨ ∀ role, (bridges role).socket = some ws → ¬ (bridges role).Fresh)

/-- The room makes a step. -/
theorem Agreement.of_room (h : Agreement room bridges opened)
    (hcurrent : room.current ≤ room'.current)
    (hserver : ∀ ws, ∀ m ∈ (room'.sockets ws).toServer, m ∈ (room.sockets ws).toServer)
    (hclient : ∀ ws, ∀ m ∈ (room'.sockets ws).toClient,
      m ∈ (room.sockets ws).toClient ∨ Harmless room room' bridges ws m)
    (hqueue : ∀ e ∈ room'.queuedSignals, e ∈ room.queuedSignals ∨ Relayed bridges e.message) :
    Agreement room' bridges opened where
  sound := by
    intro role
    refine (h.sound role).mono hcurrent (fun _ _ hmade => hmade) ?_
      (fun _ ws _ id hid => hserver ws _ hid)
    intro hfresh ws hws id hid
    rcases hclient ws _ hid with hid | hid
    · exact Or.inl hid
    · rcases (hid.2 id rfl).2 with hlt | hused
      · exact Or.inr hlt
      · exact absurd hfresh (hused role hws)
  ready_le := by
    intro ws id hid
    rcases hclient ws _ hid with hid | hid
    · exact Nat.le_trans (h.ready_le ws id hid) hcurrent
    · exact (hid.2 id rfl).1
  toServer := fun ws kind sdp id hid => h.toServer ws kind sdp id (hserver ws _ hid)
  toClient := by
    intro ws m hm
    rcases hclient ws m hm with hm | hm
    · exact h.toClient ws m hm
    · exact hm.1
  queued := by
    intro e he
    rcases hqueue e he with he | he
    · exact h.queued e he
    · exact he
  below := h.below
  apart := h.apart

/-- A handler of the room runs. -/
theorem Agreement.of_handles (h : Agreement room bridges opened) {sent : Nat → ServerMessage → Prop}
    {queued : ServerMessage → Prop} (hhandles : Handles sent queued room room')
    (hsent : ∀ ws m, sent ws m → Harmless room room' bridges ws m)
    (hqueued : ∀ m, queued m → Relayed bridges m) : Agreement room' bridges opened := by
  refine h.of_room hhandles.current_le ?_ ?_ ?_
  · intro ws m hm
    rwa [hhandles.sends.toServer ws] at hm
  · intro ws m hm
    rcases hhandles.sends.toClient ws m hm with hm | hm | ⟨e, he, rfl⟩ | hm
    · exact Or.inl hm
    · right
      constructor
      · rintro sender kind sdp id rfl
        cases hm
      · rintro id rfl
        exact ⟨hm.2, Or.inl hm.1⟩
    · right
      exact ⟨(h.queued e he).1, fun id hid => absurd hid ((h.queued e he).2 id)⟩
    · exact Or.inr (hsent ws m hm)
  · intro e he
    exact (hhandles.sends.queue e he).imp_right (hqueued e.message)

/-- A handler runs that is not about a message from a bridge. -/
theorem Agreement.of_announcing (h : Agreement room bridges opened)
    (hhandles : Handles (fun _ _ => False) (fun _ => False) room room') :
    Agreement room' bridges opened :=
  h.of_handles hhandles (fun _ _ hm => hm.elim) (fun _ hm => hm.elim)

/-- A bridge makes a step, in which it may take messages from its socket and send others on it. -/
theorem Agreement.of_bridge (h : Agreement room bridges opened) (role : Role) {b : Bridge}
    {opened' : Nat} (hopened : opened ≤ opened')
    (hid : room'.connectionId = room.connectionId)
    (hqueue : room'.queuedSignals = room.queuedSignals)
    (hclient : ∀ ws, ∀ m ∈ (room'.sockets ws).toClient, m ∈ (room.sockets ws).toClient)
    (hserver : ∀ ws, ∀ m ∈ (room'.sockets ws).toServer, m ∈ (room.sockets ws).toServer ∨
      (bridges role).socket = some ws ∧
        ∀ kind sdp id, m = .sdp kind sdp (some id) → kind = role ∧ b.Made id sdp)
    (hmade : ∀ id sdp, (bridges role).Made id sdp → b.Made id sdp)
    (hsocket : ∀ ws, b.socket = some ws →
      ws < opened' ∧ (bridges (peerRole role)).socket ≠ some ws)
    (hsound : b.Sound role room.current room'.sockets (bridges (peerRole role)).Made) :
    Agreement room' (Function.update bridges role b) opened' := by
  have hcurrent : room'.current = room.current := by rw [current, hid, current]
  have hpeer : Function.update bridges role b (peerRole role) = bridges (peerRole role) :=
    Function.update_of_ne (by cases role <;> exact Role.noConfusion) b bridges
  have hself : Function.update bridges role b role = b := Function.update_self role b bridges
  have hgrows : ∀ kind id sdp, (bridges kind).Made id sdp →
      (Function.update bridges role b kind).Made id sdp := by
    intro kind id sdp hm
    by_cases hkind : kind = role
    · subst hkind
      rw [hself]
      exact hmade id sdp hm
    · rwa [Function.update_of_ne hkind]
  have hbacked : ∀ m, Backed bridges m → Backed (Function.update bridges role b) m :=
    fun m hm sender kind sdp id heq => hgrows kind id sdp (hm sender kind sdp id heq)
  have hother : ∀ role', role' ≠ role → role' = peerRole role := by
    intro role' hne
    cases role <;> cases role' <;> first | rfl | exact absurd rfl hne
  refine ⟨?_, ?_, ?_, fun ws m hm => hbacked m (h.toClient ws m (hclient ws m hm)), ?_, ?_, ?_⟩
  · intro role'
    rw [hcurrent]
    by_cases hrole : role' = role
    · subst hrole
      rw [hself, hpeer]
      exact hsound
    · obtain rfl := hother role' hrole
      rw [hpeer, peerRole_peerRole, hself]
      have hold := h.sound (peerRole role)
      rw [peerRole_peerRole] at hold
      refine hold.mono (Nat.le_refl _) hmade (fun _ ws _ id hm => Or.inl (hclient ws _ hm)) ?_
      intro _ ws hws id hm
      rcases hserver ws _ hm with hm | hm
      · exact hm
      · exact absurd hws (h.apart role ws hm.1)
  · intro ws id hm
    rw [hcurrent]
    exact h.ready_le ws id (hclient ws _ hm)
  · intro ws kind sdp id hm
    rcases hserver ws _ hm with hm | hm
    · exact hgrows kind id sdp (h.toServer ws kind sdp id hm)
    · obtain ⟨rfl, hnew⟩ := hm.2 kind sdp id rfl
      rwa [hself]
  · intro e he
    rw [hqueue] at he
    exact ⟨hbacked _ (h.queued e he).1, (h.queued e he).2⟩
  · intro role' ws hws
    by_cases hrole : role' = role
    · subst hrole
      rw [hself] at hws
      exact (hsocket ws hws).1
    · rw [Function.update_of_ne hrole] at hws
      exact Nat.lt_of_lt_of_le (h.below role' ws hws) hopened
  · intro role' ws hws
    by_cases hrole : role' = role
    · subst hrole
      rw [hself] at hws
      rw [hpeer]
      exact (hsocket ws hws).2
    · obtain rfl := hother role' hrole
      rw [hpeer] at hws
      rw [peerRole_peerRole, hself]
      intro hws'
      exact (hsocket ws hws').2 hws

/-- The socket of a bridge does not change. -/
theorem Agreement.of_advances (h : Agreement room bridges opened) (role : Role) {b : Bridge}
    {sent : List ClientMessage}
    (hadvances : Bridge.Advances role (bridges role) b sent room.current room.sockets
      (bridges (peerRole role)).Made)
    (hid : room'.connectionId = room.connectionId)
    (hqueue : room'.queuedSignals = room.queuedSignals)
    (hclient : ∀ ws, ∀ m ∈ (room'.sockets ws).toClient, m ∈ (room.sockets ws).toClient)
    (hserver : ∀ ws, ∀ m ∈ (room'.sockets ws).toServer, m ∈ (room.sockets ws).toServer ∨
      (bridges role).socket = some ws ∧ m ∈ sent) :
    Agreement room' (Function.update bridges role b) opened := by
  refine h.of_bridge role (Nat.le_refl _) hid hqueue hclient ?_ hadvances.made ?_ ?_
  · intro ws m hm
    refine (hserver ws m hm).imp_right fun hm => ⟨hm.1, ?_⟩
    rintro kind sdp id rfl
    exact hadvances.sdp kind sdp id hm.2
  · intro ws hws
    have hold := hadvances.socket ws hws
    exact ⟨h.below role ws hold, h.apart role ws hold⟩
  · refine hadvances.sound.mono (Nat.le_refl _) (fun _ _ hm => hm)
      (fun _ ws _ id hm => Or.inl (hclient ws _ hm)) ?_
    intro hfresh ws _ id hm
    rcases hserver ws _ hm with hm | hm
    · exact hm
    · exact absurd hfresh (hadvances.restart id hm.2)

namespace World

/-- The invariant of a world. -/
def Agrees (w : World) : Prop := Agreement w.room w.bridges w.opened

/-- One lemma for each action: a bridge connects to the room. -/
theorem agrees_connect {w w' : World} {role : Role} (h : w.Agrees)
    (hstep : w.connect role = some w') :
    w'.Agrees := by
  unfold connect at hstep
  dsimp only at hstep
  split at hstep
  · next hphase =>
    cases hstep
    obtain ⟨hphase, hws⟩ := hphase
    have hsound := h.sound role
    have hpending : (w.bridges role).pendingId = none := by
      cases hid : (w.bridges role).pendingId with
      | none => rfl
      | some id =>
        have hsome := (hsound.pending id hid).2.2.1
        rw [hws] at hsome
        cases hsome
    refine Agreement.of_bridge h role (Nat.le_succ _) rfl rfl ?_ ?_ (fun _ _ hm => hm) ?_ ?_
    · intro ws m hm
      by_cases heq : ws = w.opened
      · subst heq
        rw [sockets_setSocket_self] at hm
        cases hm
      · rwa [sockets_setSocket_of_ne _ heq] at hm
    · intro ws m hm
      by_cases heq : ws = w.opened
      · subst heq
        rw [sockets_setSocket_self] at hm
        cases hm
      · rw [sockets_setSocket_of_ne _ heq] at hm
        exact Or.inl hm
    · rintro ws ⟨⟩
      refine ⟨Nat.lt_succ_self _, ?_⟩
      intro hpeer
      exact Nat.lt_irrefl _ (h.below (peerRole role) w.opened hpeer)
    · refine ⟨hsound.ordered, hsound.le_current, ?_, ?_, ?_, fun _ _ => hws,
        trivial, hsound.applied,
        hsound.finished⟩
      · rintro _ ws ⟨⟩
        rw [sockets_setSocket_self]
        exact ⟨hpending, fun _ hm => (nomatch hm), fun _ hm => (nomatch hm)⟩
      · intro hfresh
        exact absurd (Or.inl ⟨w.opened, rfl⟩) hfresh
      · intro id hid
        cases hpending.symm.trans hid
  · cases hstep

/-- A message of the room arrives. -/
theorem agrees_receive {w w' : World} {role : Role} (h : w.Agrees)
    (hstep : w.receive role = some w') :
    w'.Agrees := by
  obtain ⟨ws, hsocket, hstep⟩ := Option.bind_eq_some_iff.mp hstep
  split at hstep
  · cases hstep
  · next message rest hqueue =>
    obtain ⟨b, hb, rfl⟩ := Option.map_eq_some_iff.mp hstep
    have hin : message ∈ (w.room.sockets ws).toClient := hqueue ▸ List.mem_cons_self
    have hadvances := (h.sound role).advances_receive hsocket hin
      (fun id heq => h.ready_le ws id (heq ▸ hin))
      (fun sender sdp id heq => h.toClient ws message hin sender (peerRole role) sdp id heq) hb
    refine Agreement.of_advances h role hadvances rfl rfl ?_ ?_
    · intro ws' m hm
      by_cases heq : ws' = ws
      · subst heq
        rw [sockets_setSocket_self] at hm
        rw [hqueue]
        exact List.mem_cons_of_mem _ hm
      · rwa [sockets_setSocket_of_ne _ heq] at hm
    · intro ws' m hm
      by_cases heq : ws' = ws
      · subst heq
        rw [sockets_setSocket_self] at hm
        exact Or.inl hm
      · rw [sockets_setSocket_of_ne _ heq] at hm
        exact Or.inl hm

/-- A bridge does something by itself. -/
theorem agrees_act {w : World} {role : Role} {action : BridgeAction} {b : Bridge}
    {sent : List ClientMessage} (h : w.Agrees)
    (hact : (w.bridges role).act role action = some (b, sent)) :
    ((w.post (w.bridges role).ws sent).setBridge role b).Agrees := by
  have hadvances := (h.sound role).advances_act hact
  unfold post
  split
  · exact Agreement.of_advances h role hadvances rfl rfl (fun _ _ hm => hm)
      (fun _ _ hm => Or.inl hm)
  · next ws hws =>
    refine Agreement.of_advances h role hadvances rfl rfl ?_ ?_
    · intro ws' m hm
      change m ∈ ((w.room.setSocket ws _).sockets ws').toClient at hm
      by_cases heq : ws' = ws
      · subst heq
        rwa [sockets_setSocket_self] at hm
      · rwa [sockets_setSocket_of_ne _ heq] at hm
    · intro ws' m hm
      change m ∈ ((w.room.setSocket ws _).sockets ws').toServer at hm
      by_cases heq : ws' = ws
      · subst heq
        rw [sockets_setSocket_self] at hm
        rcases List.mem_append.mp hm with hm | hm
        · exact Or.inl hm
        · exact Or.inr ⟨(hadvances.sends (List.ne_nil_of_mem hm)).trans hws, hm⟩
      · rw [sockets_setSocket_of_ne _ heq] at hm
        exact Or.inl hm

/-- The room handles a message. A socket on which a restart was asked for is not fresh. -/
theorem agrees_deliver {w w' : World} {socket : Nat} (h : w.Agrees)
    (hstep : w.deliver socket = some w') : w'.Agrees := by
  unfold deliver at hstep
  split at hstep
  · cases hstep
  · next message rest hqueue =>
    cases hstep
    have hin : message ∈ (w.room.sockets socket).toServer := hqueue ▸ List.mem_cons_self
    have htaken :
      Agreement (w.room.setSocket socket { w.room.sockets socket with toServer := rest })
        w.bridges w.opened := by
      refine Agreement.of_room h (Nat.le_refl _) ?_ ?_ (fun _ he => Or.inl he)
      · intro ws m hm
        by_cases heq : ws = socket
        · subst heq
          rw [sockets_setSocket_self] at hm
          rw [hqueue]
          exact List.mem_cons_of_mem _ hm
        · rwa [sockets_setSocket_of_ne _ heq] at hm
      · intro ws m hm
        by_cases heq : ws = socket
        · subst heq
          rw [sockets_setSocket_self] at hm
          exact Or.inl hm
        · rw [sockets_setSocket_of_ne _ heq] at hm
          exact Or.inl hm
    have hrelayed : ∀ m, Relays message m → Relayed w.bridges m := by
      rintro m ⟨sender, ⟨kind, sdp, id, rfl, rfl⟩ | ⟨candidate, rfl, rfl⟩⟩
      · refine ⟨?_, fun _ => ServerMessage.noConfusion⟩
        rintro _ _ _ id' ⟨⟩
        exact h.toServer socket kind sdp id' hin
      · exact ⟨fun _ _ _ _ heq => (nomatch heq), fun _ => ServerMessage.noConfusion⟩
    refine htaken.of_handles (handles_webSocketMessage _ socket message) ?_ hrelayed
    rintro ws m (hm | ⟨rfl, ⟨id, rfl⟩, rfl⟩)
    · obtain ⟨hbacked, hready⟩ := hrelayed m hm
      exact ⟨hbacked, fun id heq => absurd heq (hready id)⟩
    · refine ⟨fun _ _ _ _ heq => (nomatch heq), ?_⟩
      rintro id' ⟨⟩
      refine ⟨(handles_webSocketMessage _ ws (.restart id)).current_le, Or.inr ?_⟩
      intro role hws hfresh
      exact ((h.sound role).fresh hfresh ws hws).2.2 id hin

/-- Each action keeps the agreement. -/
theorem agrees_step {w w' : World} {action : Action} (h : w.Agrees)
    (hstep : w.step action = some w') :
    w'.Agrees := by
  cases action with
  | connect role => exact agrees_connect h hstep
  | bridge role action =>
    obtain ⟨⟨b, sent⟩, hact, rfl⟩ := Option.map_eq_some_iff.mp hstep
    exact agrees_act h hact
  | receive role => exact agrees_receive h hstep
  | fetch socket legacy =>
    obtain ⟨request, -, rfl⟩ := Option.map_eq_some_iff.mp hstep
    dsimp only
    split
    · exact h
    · next room hfetch =>
      exact Agreement.of_announcing h (handles_fetch hfetch)
    · next room hfetch =>
      exact Agreement.of_announcing h (handles_fetch hfetch)
  | refuse socket =>
    cases hstep
    exact h
  | lobbyAnswered index =>
    obtain ⟨role, -, rfl⟩ := Option.map_eq_some_iff.mp hstep
    exact Agreement.of_announcing h (handles_fetchConnected w.room role)
  | deliver socket => exact agrees_deliver h hstep
  | close socket =>
    cases hstep
    exact Agreement.of_announcing h (handles_close w.room socket)
  | webSocketClose socket =>
    cases hstep
    exact Agreement.of_announcing h (handles_webSocketClose w.room socket)

theorem agrees_init : ({} : World).Agrees where
  sound := fun _ => ⟨List.Pairwise.nil, fun _ hn => (nomatch hn), fun _ _ hws => (nomatch hws),
    fun _ _ hws => (nomatch hws), fun _ hid => (nomatch hid), fun _ hws => (nomatch hws), trivial,
    fun _ hn => (nomatch hn), fun _ hn => (nomatch hn)⟩
  ready_le := fun _ _ hm => nomatch hm
  toServer := fun _ _ _ _ hm => nomatch hm
  toClient := fun _ _ hm => nomatch hm
  queued := fun _ he => nomatch he
  below := fun _ _ hws => nomatch hws
  apart := fun _ _ hws => nomatch hws

end World

/-! ## The main result -/

/-- There is one negotiation of an id. -/
theorem eq_of_id_eq {history : List Negotiation}
    (h : history.Pairwise fun n m => m.id < n.id) {n m : Negotiation} (hn : n ∈ history)
    (hm : m ∈ history) (heq : n.id = m.id) : n = m := by
  induction history with
  | nil => cases hn
  | cons k rest ih =>
    rw [List.pairwise_cons] at h
    rcases List.mem_cons.mp hn with rfl | hn'
    · rcases List.mem_cons.mp hm with rfl | hm'
      · rfl
      · exact absurd heq (Nat.ne_of_gt (h.1 m hm'))
    · rcases List.mem_cons.mp hm with rfl | hm'
      · exact absurd heq (Nat.ne_of_lt (h.1 n hn'))
      · exact ih h.2 hn' hm'

/-- In every run of the two bridges and the room, each bridge negotiates ids in strictly increasing
order, each description that it applies was made by the other one for the same id, and if both
finish the negotiation of an id, then the answer was made in reply to the offer. -/
theorem same_connection (actions : List Action) (w : World)
    (hrun : Run.run World.step {} actions = some w) :
    (∀ role, ((w.bridges role).history.reverse.map Negotiation.id).Pairwise (· < ·)) ∧
      (∀ role, ∀ n ∈ (w.bridges role).history, ∀ sdp, n.applied = some sdp →
        ∃ m ∈ (w.bridges (peerRole role)).history, m.id = n.id ∧ m.made = some sdp) ∧
      ∀ n ∈ (w.bridges .offer).history, ∀ m ∈ (w.bridges .answer).history, n.id = m.id →
        n.finished → m.finished →
          ∃ offer answer, n.made = some offer ∧ m.applied = some offer ∧
            m.made = some answer ∧ n.applied = some answer := by
  have hagrees : w.Agrees := Run.run_invariant' (fun _ _ _ h hstep => World.agrees_step h hstep)
    World.agrees_init hrun
  refine ⟨?_, fun role => (hagrees.sound role).applied, ?_⟩
  · intro role
    rw [List.map_reverse, List.pairwise_reverse, List.pairwise_map]
    exact (hagrees.sound role).ordered
  · intro n hn m hm hid hnf hmf
    obtain ⟨-, hnapplied⟩ := (hagrees.sound .offer).finished n hn hnf
    obtain ⟨-, hmapplied⟩ := (hagrees.sound .answer).finished m hm hmf
    obtain ⟨answer, hanswer⟩ := Option.isSome_iff_exists.mp hnapplied
    obtain ⟨offer, hoffer⟩ := Option.isSome_iff_exists.mp hmapplied
    obtain ⟨m', hm', hmid, hmade⟩ := (hagrees.sound .offer).applied n hn answer hanswer
    obtain ⟨n', hn', hnid, hmade'⟩ := (hagrees.sound .answer).applied m hm offer hoffer
    obtain rfl := eq_of_id_eq (hagrees.sound .answer).ordered hm' hm (hmid.trans hid)
    obtain rfl := eq_of_id_eq (hagrees.sound .offer).ordered hn' hn (hnid.trans hid.symm)
    exact ⟨offer, answer, hmade', hoffer, hmade, hanswer⟩

/-- Two bridges join, negotiate and connect. -/
def firstConnection : List Action :=
  [.connect .offer, .connect .answer, .fetch 0 false, .fetch 1 false, .lobbyAnswered 0,
    .receive .offer, .bridge .offer .goOn, .receive .offer, .receive .offer,
    .bridge .offer (.created "offer"), .deliver 0,
    .receive .answer, .bridge .answer .goOn, .receive .answer, .receive .answer,
    .bridge .answer (.created "own"), .bridge .answer (.answered "answer"), .deliver 1,
    .receive .offer, .bridge .offer .connected, .bridge .answer .connected]

theorem firstConnection_same : ∃ w n m, Run.run World.step {} firstConnection = some w ∧
    n ∈ (w.bridges .offer).history ∧ m ∈ (w.bridges .answer).history ∧ n.finished ∧ m.finished ∧
      n.id = 1 ∧ m.id = 1 ∧ ∃ offer answer, n.made = some offer ∧ m.applied = some offer ∧
        m.made = some answer ∧ n.applied = some answer := by
  have hends : (Run.run World.step {} firstConnection).map
      (fun w => ((w.bridges .offer).history, (w.bridges .answer).history)) =
      some ([{ id := 1, made := some "offer", applied := some "answer", finished := true }],
        [{ id := 1, made := some "answer", applied := some "offer", finished := true }]) := by
    decide
  obtain ⟨w, hrun, hw⟩ := Option.map_eq_some_iff.mp hends
  obtain ⟨hoffer, hanswer⟩ := Prod.mk.inj hw
  have hn := hoffer ▸ List.mem_singleton_self _
  have hm := hanswer ▸ List.mem_singleton_self _
  exact ⟨w, _, _, hrun, hn, hm, rfl, rfl, rfl, rfl,
    (same_connection firstConnection w hrun).2.2 _ hn _ hm rfl rfl rfl⟩

end Bigstar.Signaling
