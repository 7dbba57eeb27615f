import Bigstar.Netplay.Proofs.SessionProofs

/-!
# The seed of the match

The host sends the seed once and remembers that it has. A connection that is lost may take the
packet with it. Without recovery the next connection clears the flag (`OnPeerConnected`), and the
seed is sent again. With recovery a reconnect leaves the flag alone, so that the seed is lost for
good if it had not arrived. As long as no such reconnect happens, the seed is in flight or about to
be sent, and the `Resume` ahead of it opens the gate of the client.
-/

namespace Bigstar.Netplay.NetplaySession

open SessionProtocol SessionPolicy TwoParty

variable {config : Config}

/-- A peer after the packets have arrived. -/
def Peer.receiveAll (config : Config) (host : Bool) (localFrame : Nat) (a : Peer)
    (packets : List Packet) : Peer :=
  packets.foldl (fun a packet => (a.receive config host localFrame packet).1) a

/-- A seed packet is in flight, and when everything in flight has arrived the client has the
seed. -/
def SeedInFlight (config : Config) (s : State) (seed : Nat) : Prop :=
  (∃ message, .session message ∈ s.sent 0 ∧ message.kind = .matchSeed ∧ message.value = seed) ∧
    ∀ localFrame, let client := (s.side 1).receiveAll config false localFrame (s.sent 0)
      client.matchSeed = some seed ∨ client.stopped = true

/-- While the peers are connected and the client waits for the seed, it is in flight or the host is
going to send it. -/
def SeedKept (config : Config) (s : State) : Prop :=
  ∀ seed, (s.side 0).matchSeed = some seed → (s.side 0).connected = true →
    (s.side 1).connected = true → (s.side 0).stopped = false → (s.side 1).stopped = false →
      (s.side 1).matchSeed = none →
        SeedInFlight config s seed ∨ (s.side 0).start.handshake.matchSeedSent = false

/-- The run stays in one game. -/
def SameGame : Op → Prop
  | .beginGeneration _ => False
  | _ => True

/-- The host does not reconnect in recovery mode while it believes in a seed that has not
arrived. -/
def SeedArrived (config : Config) (s : State) : Op → Prop
  | .connect p => p = 0 → config.recoveryEnabled = true → (s.side 0).connectedOnce = true →
      (s.side 0).start.handshake.matchSeedSent = true → (s.side 1).matchSeed.isSome = true
  | _ => True

/-! ## What opens the gate -/

theorem matchSeed_receive_of_some {host : Bool} {localFrame seed : Nat} {a : Peer} {packet : Packet}
    (ha : a.matchSeed = some seed)
    (hvalue : ∀ message, packet = .session message → message.kind = .matchSeed →
      message.value = seed) :
    (a.receive config host localFrame packet).1.matchSeed = some seed := by
  unfold Peer.receive Peer.receiveSession
  split
  · next message =>
    split
    · exact (steady_receiveResume a message).matchSeed.trans ha
    · next hkind =>
      split
      · exact congrArg some (hvalue message rfl hkind)
      · exact ha
    · split
      · exact ha
      · exact ha
  · split
    · exact ha
    · exact ha

theorem matchSeed_receive_seed {host : Bool} {localFrame : Nat} {a : Peer} {message : Message}
    (ha : a.resumeValidated = true) (hkind : message.kind = .matchSeed) :
    (a.receive config host localFrame (.session message)).1.matchSeed = some message.value := by
  change (a.receiveSession config host message).1.matchSeed = _
  unfold Peer.receiveSession
  rw [hkind]
  dsimp only
  rw [if_pos ha]

/-- Once the seed is there, the packets behind it do not change it. -/
theorem matchSeed_receiveAll_of_some {host : Bool} {localFrame seed : Nat} {packets : List Packet}
    {a : Peer} (ha : a.matchSeed = some seed)
    (hvalue : ∀ message, .session message ∈ packets → message.kind = .matchSeed →
      message.value = seed) :
    (a.receiveAll config host localFrame packets).matchSeed = some seed := by
  induction packets generalizing a with
  | nil => exact ha
  | cons packet rest ih =>
    refine ih (matchSeed_receive_of_some ha ?_) ?_
    · intro message heq hkind
      exact hvalue message (heq ▸ List.mem_cons_self) hkind
    · intro message hmem hkind
      exact hvalue message (List.mem_cons_of_mem _ hmem) hkind

/-- A validated peer takes the seed. -/
theorem matchSeed_receiveAll {host : Bool} {localFrame seed : Nat}
    {packets : List Packet} {a : Peer} (ha : a.resumeValidated = true)
    (hvalue : ∀ message, .session message ∈ packets → message.kind = .matchSeed →
      message.value = seed)
    (hseed : ∃ message, .session message ∈ packets ∧ message.kind = .matchSeed) :
    (a.receiveAll config host localFrame packets).matchSeed = some seed := by
  induction packets generalizing a with
  | nil =>
    obtain ⟨message, hmem, -⟩ := hseed
    exact absurd hmem List.not_mem_nil
  | cons packet rest ih =>
    have hrest : ∀ message, .session message ∈ rest → message.kind = .matchSeed →
        message.value = seed :=
      fun message hmem hkind => hvalue message (List.mem_cons_of_mem _ hmem) hkind
    obtain ⟨message, hmem, hkind⟩ := hseed
    rcases List.mem_cons.mp hmem with rfl | hmem
    · refine matchSeed_receiveAll_of_some
        (a := (a.receive config host localFrame (.session message)).1) ?_ hrest
      rw [matchSeed_receive_seed ha hkind, hvalue message List.mem_cons_self hkind]
    · exact ih ((continues_receive host localFrame a packet).validated ha) hrest
        ⟨message, hmem, hkind⟩

theorem stopped_receiveAll {host : Bool} {localFrame : Nat} {packets : List Packet} {a : Peer}
    (ha : a.stopped = true) : (a.receiveAll config host localFrame packets).stopped = true := by
  induction packets generalizing a with
  | nil => exact ha
  | cons packet rest ih => exact ih ((continues_receive host localFrame a packet).stopped ha)

/-! ## The invariant -/

/-- Within the first game, a seed that was sent is still in flight. -/
structure SeedInv (s : State) : Prop where
  generation : ∀ p, (s.side p).generation = 0
  ready : ∀ p m, (s.side p).start.handshake.localReady = some m → m.kind = .startReady
  resumes : ∀ p message, .session message ∈ s.sent p → message.kind = .resume →
    message.generation = 0
  seeds : ∀ p message, .session message ∈ s.sent p → message.kind = .matchSeed →
    p = 0 ∧ (s.side 0).matchSeed = some message.value
  sent : (s.side 0).connected = true → s.broken = false →
    (s.side 0).start.handshake.matchSeedSent = true → (s.side 1).matchSeed = none →
      ∃ message, .session message ∈ s.sent 0 ∧ message.kind = .matchSeed

theorem seedInv_init (config : Config) : SeedInv (State.init config) where
  generation p := rfl
  ready p m hm := absurd hm (by simp [State.init, StartHandshake.Peer.beginGeneration,
    Runtime.beginGeneration, Runtime.resetStartHandshake])
  resumes p message hm := absurd hm List.not_mem_nil
  seeds p message hm := absurd hm List.not_mem_nil
  sent h := absurd h (by simp [State.init])

theorem SeedInv.resumeAccepted {s : State} (h : SeedInv s) (op : Op) : ResumeAccepted s op := by
  cases op with
  | receive p localFrame =>
    intro message rest hsent hkind _
    rw [h.generation p]
    exact h.resumes (other p) message (hsent ▸ List.mem_cons_self) hkind
  | _ => trivial

theorem SeedInv.seedKept {s : State} (h : SeedInv s) (hs : InOrder config s) :
    SeedKept config s := by
  intro seed hseed hhost hclient _ hrunning hnone
  cases hflag : (s.side 0).start.handshake.matchSeedSent with
  | false => exact Or.inr rfl
  | true =>
    have horder := hs 0
    have hbroken : s.broken = false := by
      by_contra hb
      rcases horder.both (by simpa using hb) with hc | hc
      · rw [hhost] at hc
        exact absurd hc (by simp)
      · rw [show (s.side (other 0)).connected = true from hclient] at hc
        exact absurd hc (by simp)
    obtain ⟨message, hmem, hkind⟩ := h.sent hhost hbroken hflag hnone
    have hvalue : ∀ m, .session m ∈ s.sent 0 → m.kind = .matchSeed → m.value = seed := by
      intro m hm hk
      exact (Option.some.inj (hseed.symm.trans (h.seeds 0 m hm hk).2)).symm
    refine Or.inl ⟨⟨message, hmem, hkind, hvalue message hmem hkind⟩, ?_⟩
    intro localFrame
    cases hv : (s.side 1).resumeValidated with
    | true => exact Or.inl (matchSeed_receiveAll hv hvalue ⟨message, hmem, hkind⟩)
    | false =>
      -- the next packet is the `Resume`
      have hrecovery := horder.unvalidated hv
      obtain ⟨resume, rest, hsent, hresume, hhash⟩ :=
        horder.first hrecovery hhost hbroken hrunning (Or.inr hv)
      have hgen : resume.generation = (s.side 1).generation := by
        rw [h.generation 1]
        exact h.resumes 0 resume (hsent ▸ List.mem_cons_self) hresume
      rw [hsent] at hmem hvalue ⊢
      have hrest : .session message ∈ rest := by
        rcases List.mem_cons.mp hmem with heq | hmem
        · rw [← Packet.session.inj heq, hkind] at hresume
          exact absurd hresume (by simp)
        · exact hmem
      unfold Peer.receiveAll
      rw [List.foldl_cons, receive_resume _ _ _ hresume]
      rcases validated_receiveResume hrecovery hhash hgen with hv' | hs'
      · exact Or.inl (matchSeed_receiveAll hv'
          (fun m hm hk => hvalue m (List.mem_cons_of_mem _ hm) hk) ⟨message, hrest, hkind⟩)
      · exact Or.inr (stopped_receiveAll hs')

/-! ## Every step -/

/-- An event that concerns neither the seed nor the generation, and sends no seed. -/
theorem SeedInv.act {s : State} (h : SeedInv s) {p : Fin 2} {a' : Peer} {packets : List Packet}
    (hsteady : Steady (s.side p) a')
    (hpackets : ∀ message, .session message ∈ packets → message.kind = .startReady) :
    SeedInv (s.act p a' packets) where
  generation := forall_act (P := fun _ a => a.generation = 0) h.generation
    (hsteady.generation.trans (h.generation p))
  ready := by
    refine forall_act (P := fun _ a => ∀ m, a.start.handshake.localReady = some m →
      m.kind = .startReady) h.ready ?_
    intro m hm
    exact (hsteady.localReady m hm).elim id (h.ready p m)
  resumes q message hmem hkind := by
    rcases mem_act hmem with hmem | ⟨-, hmem⟩
    · exact h.resumes q message hmem hkind
    · rw [hpackets message hmem] at hkind
      exact absurd hkind (by simp)
  seeds q message hmem hkind := by
    rcases mem_act hmem with hmem | ⟨-, hmem⟩
    · rw [act_same (f := fun a => a.matchSeed) hsteady.matchSeed 0]
      exact h.seeds q message hmem hkind
    · rw [hpackets message hmem] at hkind
      exact absurd hkind (by simp)
  sent hhost hbroken hflag hnone := by
    rw [act_same (f := fun a => a.connected) hsteady.connected 0] at hhost
    rw [act_same (f := fun a => a.start.handshake.matchSeedSent) hsteady.matchSeedSent 0] at hflag
    rw [act_same (f := fun a => a.matchSeed) hsteady.matchSeed 1] at hnone
    obtain ⟨message, hmem, hkind⟩ := h.sent hhost hbroken hflag hnone
    exact ⟨message, mem_act_of_mem hmem, hkind⟩

theorem SeedInv.connect {s : State} (h : SeedInv s) {p : Fin 2}
    (hok : SeedArrived config s (.connect p)) :
    SeedInv (s.act p ((s.side p).connect config p).1 ((s.side p).connect config p).2) := by
  set a' := ((s.side p).connect config p).1 with ha'
  have hseed : a'.matchSeed = (s.side p).matchSeed := by
    rw [ha']
    dsimp only [Peer.connect]
    split <;> rfl
  have hready : a'.start.handshake.localReady = (s.side p).start.handshake.localReady := by
    rw [ha']
    dsimp only [Peer.connect]
    split <;> rfl
  have hgen : a'.generation = (s.side p).generation := by
    rw [ha']
    dsimp only [Peer.connect]
    split <;> rfl
  have hpackets : ∀ message, .session message ∈ ((s.side p).connect config p).2 →
      message.kind = .resume ∧ message.generation = a'.generation := by
    intro message hmem
    dsimp only [Peer.connect] at hmem
    split at hmem
    · next hrecovery =>
      obtain rfl := Packet.session.inj (List.mem_singleton.mp hmem)
      exact ⟨rfl, rfl⟩
    · exact absurd hmem List.not_mem_nil
  refine ⟨?_, ?_, ?_, ?_, ?_⟩
  · exact forall_act (P := fun _ a => a.generation = 0) h.generation (hgen.trans (h.generation p))
  · refine forall_act (P := fun _ a => ∀ m, a.start.handshake.localReady = some m →
      m.kind = .startReady) h.ready ?_
    intro m hm
    exact h.ready p m (hready.symm.trans hm)
  · intro q message hmem hkind
    rcases mem_act hmem with hmem | ⟨-, hmem⟩
    · exact h.resumes q message hmem hkind
    · rw [(hpackets message hmem).2, hgen]
      exact h.generation p
  · intro q message hmem hkind
    rcases mem_act hmem with hmem | ⟨-, hmem⟩
    · rw [act_same (f := fun a => a.matchSeed) hseed 0]
      exact h.seeds q message hmem hkind
    · rw [(hpackets message hmem).1] at hkind
      exact absurd hkind (by simp)
  · intro hhost hbroken hflag hnone
    rw [act_same (f := fun a => a.matchSeed) hseed 1] at hnone
    rcases eq_or_eq_other p 0 with rfl | hp
    · -- the host: the flag is clear unless the client has the seed
      rw [act_side_self, ha'] at hflag
      dsimp only [Peer.connect] at hflag
      split at hflag
      · next hrecovery =>
        simp only [Bool.and_eq_true] at hrecovery
        have hsome := hok rfl hrecovery.2 hrecovery.1 hflag
        rw [hnone] at hsome
        exact absurd hsome (by simp)
      · exact absurd hflag (by simp [Runtime.onPeerConnected])
    · -- the client: the host is as it was
      have hside : (s.act p a' ((s.side p).connect config p).2).side 0 = s.side 0 := by
        rw [hp]
        exact act_side_other _ _ _ _
      rw [hside] at hhost hflag
      obtain ⟨message, hmem, hkind⟩ := h.sent hhost hbroken hflag hnone
      exact ⟨message, mem_act_of_mem hmem, hkind⟩

theorem SeedInv.disconnect {s : State} (h : SeedInv s) {p : Fin 2} {t : State}
    (ht : s.disconnect config p = some t) : SeedInv t := by
  obtain rfl := disconnect_eq_some ht
  have hkept : ((s.side p).disconnect config).start = (s.side p).start ∧
      ((s.side p).disconnect config).matchSeed = (s.side p).matchSeed := by
    unfold Peer.disconnect
    dsimp only
    split <;> exact ⟨rfl, rfl⟩
  have hside : ∀ q, ((s.toNet.drop.put p ((s.side p).disconnect config)).side q).start =
      (s.side q).start := by
    intro q
    rcases eq_or_eq_other p q with rfl | rfl
    · rw [Net.put_side_self]
      exact hkept.1
    · rw [Net.put_side_other]
      rfl
  have hnothing : ∀ q packet,
      packet ∉ (s.toNet.drop.put p ((s.side p).disconnect config)).sent q := by
    intro q packet hmem
    rcases eq_or_eq_other p q with rfl | rfl
    · rw [Net.put_sent_self] at hmem
      exact absurd hmem List.not_mem_nil
    · rw [Net.put_sent_other] at hmem
      exact absurd hmem List.not_mem_nil
  refine ⟨?_, ?_, ?_, ?_, ?_⟩
  · intro q
    unfold Peer.generation
    rw [hside q]
    exact h.generation q
  · intro q m hm
    rw [hside q] at hm
    exact h.ready q m hm
  · intro q message hmem
    exact absurd hmem (hnothing q _)
  · intro q message hmem
    exact absurd hmem (hnothing q _)
  · -- whoever has left, the host has lost its connection or cannot be connected to the client
    intro hhost hbroken
    rcases eq_or_eq_other p 0 with rfl | hp
    · rw [show ((s.toNet.drop.put 0 ((s.side 0).disconnect config)).side 0) =
        (s.side 0).disconnect config from Net.put_side_self _ _ _ _, connected_disconnect] at hhost
      exact absurd hhost (by simp)
    · rw [hp] at hhost
      rw [show ((s.toNet.drop.put p ((s.side p).disconnect config)).side (other p)) =
        s.side (other p) from Net.put_side_other _ _ _ _] at hhost
      rw [show (s.side (other p)).connected = false from hbroken] at hhost
      exact absurd hhost (by simp)

theorem SeedInv.sendMatchSeed {s : State} (h : SeedInv s) {p : Fin 2} {a' : Peer}
    {message : Message} (hsend : (s.side p).sendMatchSeed (State.isHost p) = some (a', message)) :
    SeedInv (s.act p a' [.session message]) := by
  obtain ⟨hhost, -, -, hkind, hseed, ha'⟩ := sendMatchSeed_eq_some hsend
  obtain rfl : p = 0 := by simpa [State.isHost] using hhost
  have hsame : a'.matchSeed = (s.side 0).matchSeed := by rw [ha']
  refine ⟨?_, ?_, ?_, ?_, ?_⟩
  · refine forall_act (P := fun _ a => a.generation = 0) h.generation ?_
    rw [ha']
    exact h.generation 0
  · refine forall_act (P := fun _ a => ∀ m, a.start.handshake.localReady = some m →
      m.kind = .startReady) h.ready ?_
    rw [ha']
    exact h.ready 0
  · intro q m hmem hm
    rcases mem_act hmem with hmem | ⟨-, hmem⟩
    · exact h.resumes q m hmem hm
    · rw [Packet.session.inj (List.mem_singleton.mp hmem), hkind] at hm
      exact absurd hm (by simp)
  · intro q m hmem hm
    rw [act_same (f := fun a => a.matchSeed) hsame 0]
    rcases mem_act hmem with hmem | ⟨hq, hmem⟩
    · exact h.seeds q m hmem hm
    · rw [Packet.session.inj (List.mem_singleton.mp hmem)]
      exact ⟨hq.symm, hseed⟩
  · intro _ hbroken _ _
    refine ⟨message, ?_, hkind⟩
    change _ ∈ (s.toNet.put 0 _ (if s.broken then [] else _)).sent 0
    rw [Net.put_sent_self, if_neg (by rw [show s.broken = false from hbroken]; simp)]
    exact List.mem_append_right _ (List.mem_singleton_self _)

/-- The oldest packet leaves the channel. -/
theorem SeedInv.remain {s : State} (h : SeedInv s) {p : Fin 2} {packet : Packet}
    {rest : List Packet} (hsent : s.sent (other p) = packet :: rest)
    (hkind : ∀ message, packet = .session message → message.kind = .matchSeed →
      (s.side 1).matchSeed.isSome = true) :
    SeedInv { s with toNet := s.toNet.remain (other p) rest } := by
  have hsub : ∀ q x, x ∈ (s.toNet.remain (other p) rest).sent q → x ∈ s.sent q := by
    intro q x hx
    rcases eq_or_eq_other p q with rfl | rfl
    · rwa [Net.remain_sent_other] at hx
    · rw [Net.remain_sent_self] at hx
      rw [hsent]
      exact List.mem_cons_of_mem _ hx
  refine ⟨h.generation, h.ready, fun q m hmem => h.resumes q m (hsub q _ hmem),
    fun q m hmem => h.seeds q m (hsub q _ hmem), ?_⟩
  intro hhost hbroken hflag hnone
  obtain ⟨message, hmem, hm⟩ := h.sent hhost hbroken hflag hnone
  refine ⟨message, ?_, hm⟩
  rcases eq_or_eq_other p 0 with rfl | hp
  · rwa [show ({ s with toNet := s.toNet.remain (other 0) rest } : State).sent 0 = s.sent 0 from
      Net.remain_sent_other _ _ _]
  · rw [hp] at hmem ⊢
    rw [hsent] at hmem
    rw [show ({ s with toNet := s.toNet.remain (other p) rest } : State).sent (other p) = rest from
      Net.remain_sent_self _ _ _]
    rcases List.mem_cons.mp hmem with heq | hmem
    · have hsome := hkind message heq.symm hm
      rw [show (s.side 1).matchSeed = none from hnone] at hsome
      exact absurd hsome (by simp)
    · exact hmem

/-- A replay consists of inputs. -/
theorem not_session_receiveResume (a : Peer) (resume message : Message) :
    .session message ∉ (a.receiveResume config resume).2 := by
  have hnil : Packet.session message ∉ ([] : List Packet) := List.not_mem_nil
  have hreplay : ∀ (b : Peer) (value : Nat), .session message ∉ (b.resumeFrom value).2 := by
    intro b value
    unfold Peer.resumeFrom
    dsimp only
    split
    · exact hnil
    · split
      · exact hnil
      · intro hmem
        unfold Peer.replay at hmem
        obtain ⟨entry, -, heq⟩ := List.mem_map.mp hmem
        exact absurd heq (by simp)
  unfold Peer.receiveResume
  split
  · exact hnil
  · split
    · exact hnil
    · dsimp only
      split
      · exact hnil
      · split
        · exact hnil
        · split
          · exact hnil
          · exact hreplay _ _

/-- The client takes the seed. -/
theorem SeedInv.takeSeed {s : State} (h : SeedInv s) (value : Nat) :
    SeedInv (s.act 1 { s.side 1 with matchSeed := some value }) := by
  have hhost : (s.act 1 { s.side 1 with matchSeed := some value }).side 0 = s.side 0 :=
    act_side_other s 1 _ _
  refine ⟨?_, ?_, ?_, ?_, ?_⟩
  · exact forall_act (P := fun _ a => a.generation = 0) h.generation (h.generation 1)
  · exact forall_act (P := fun _ a => ∀ m, a.start.handshake.localReady = some m →
      m.kind = .startReady) h.ready (h.ready 1)
  · intro q m hmem
    rcases mem_act hmem with hmem | ⟨-, hmem⟩
    · exact h.resumes q m hmem
    · exact absurd hmem List.not_mem_nil
  · intro q m hmem
    rw [hhost]
    rcases mem_act hmem with hmem | ⟨-, hmem⟩
    · exact h.seeds q m hmem
    · exact absurd hmem List.not_mem_nil
  · intro _ _ _ hnone
    rw [act_side_self] at hnone
    exact absurd hnone (by simp)

theorem SeedInv.receive {s t : State} (h : SeedInv s) (horder : InOrder config s) {p : Fin 2}
    {localFrame : Nat} (hrunning : (s.side p).stopped = false)
    (ht : s.receive config p localFrame = some t) : SeedInv t := by
  obtain ⟨packet, rest, hsent, hconnected, rfl⟩ := receive_eq_some ht
  have hkeep : ∀ a' packets, (s.act p a' packets).sent (other p) = packet :: rest := by
    intro a' packets
    rw [← hsent]
    exact Net.put_sent_other _ _ _ _
  rw [act_remain]
  cases packet with
  | input packet =>
    have hsteady : Steady (s.side p)
        ((s.side p).receive config (State.isHost p) localFrame (.input packet)).1 ∧
        ((s.side p).receive config (State.isHost p) localFrame (.input packet)).2 = [] := by
      unfold Peer.receive
      dsimp only
      split
      · exact ⟨steady_inputs _ _ _ _, rfl⟩
      · exact ⟨Steady.refl _, rfl⟩
    refine SeedInv.remain (h.act hsteady.1 ?_) (hkeep _ _) ?_
    · intro m hmem
      rw [hsteady.2] at hmem
      exact absurd hmem List.not_mem_nil
    · intro m heq
      exact absurd heq (by simp)
  | session message =>
    change SeedInv { s.act p ((s.side p).receiveSession config (State.isHost p) message).1
      ((s.side p).receiveSession config (State.isHost p) message).2 with
        toNet := (s.act p ((s.side p).receiveSession config (State.isHost p) message).1
          ((s.side p).receiveSession config (State.isHost p) message).2).toNet.remain
            (other p) rest }
    unfold Peer.receiveSession
    split
    · next hkind =>
      refine SeedInv.remain (h.act (steady_receiveResume _ message) ?_) (hkeep _ _) ?_
      · intro m hmem
        exact absurd hmem (not_session_receiveResume _ _ _)
      · intro m heq hm
        rw [← Packet.session.inj heq, hkind] at hm
        exact absurd hm (by simp)
    · next hkind =>
      -- a seed travels to the client, which has validated the host
      obtain ⟨hp, -⟩ := h.seeds (other p) message (hsent ▸ List.mem_cons_self) hkind
      obtain rfl : p = 1 := by
        rw [← other_other p, hp]
        rfl
      have hvalidated : (s.side 1).resumeValidated = true := by
        by_contra hv
        have hv' : (s.side 1).resumeValidated = false := by simpa using hv
        have hchannel := horder 0
        have hactive : ¬ ((s.side 0).connected = false ∨ s.broken = true) := by
          intro hidle
          exact absurd ((hchannel.idle hidle).symm.trans hsent) (by simp)
        push Not at hactive
        obtain ⟨resume, rest', hsent', hresume, -⟩ := hchannel.first (hchannel.unvalidated hv')
          (by simpa using hactive.1) (by simpa using hactive.2) hrunning (Or.inr hv')
        rw [← Packet.session.inj (List.cons.inj (hsent.symm.trans hsent')).1, hkind] at hresume
        exact absurd hresume (by simp)
      rw [if_pos hvalidated]
      refine SeedInv.remain (h.takeSeed message.value) (hkeep _ _) ?_
      intro _ _ _
      rw [act_side_self]
      rfl
    · next hkind =>
      have hother : ∀ m, Packet.session message = .session m → m.kind = .matchSeed →
          ∀ b : Peer, b.matchSeed.isSome = true := by
        intro m heq hm
        rw [← Packet.session.inj heq, hkind] at hm
        exact absurd hm (by simp)
      split
      · refine SeedInv.remain (h.act (steady_start (handshakes_receiveStartReady _ _ _)) ?_)
          (hkeep _ _)
          (fun m heq hm => hother m heq hm _)
        intro m hmem
        exact absurd hmem List.not_mem_nil
      · refine SeedInv.remain (h.act (Steady.refl _) ?_) (hkeep _ _)
          (fun m heq hm => hother m heq hm _)
        intro m hmem
        exact absurd hmem List.not_mem_nil

theorem seedInv_step {s t : State} {op : Op} (h : SeedInv s) (horder : InOrder config s)
    (hgame : SameGame op) (hok : SeedArrived config s op) (hstep : s.step config op = some t) :
    SeedInv t := by
  obtain ⟨hrunning, ht⟩ := running_of_step hstep
  have hnone : ∀ m, Packet.session m ∈ ([] : List Packet) → m.kind = .startReady :=
    fun m hmem => absurd hmem List.not_mem_nil
  cases op with
  | connect p =>
    obtain ⟨-, -, rfl⟩ := connect_eq_some ht
    exact h.connect hok
  | disconnect p => exact h.disconnect ht
  | receive p localFrame => exact h.receive horder hrunning ht
  | receiveUnsequenced p index =>
    obtain ⟨message, -, -, rfl⟩ := receiveUnsequenced_eq_some ht
    refine h.act (steady_receiveResume _ message) ?_
    intro m hmem
    exact absurd hmem (not_session_receiveResume _ _ _)
  | sendResume p =>
    obtain rfl := sendResume_eq_some ht
    exact ⟨h.generation, h.ready, h.resumes, h.seeds, h.sent⟩
  | sendMatchSeed p =>
    obtain ⟨⟨a', message⟩, hsend, rfl⟩ := Option.map_eq_some_iff.mp ht
    exact h.sendMatchSeed hsend
  | sendStartReady p force =>
    obtain ⟨⟨a', message⟩, hsend, rfl⟩ := Option.map_eq_some_iff.mp ht
    refine h.act (steady_sendStartReady hsend).1 ?_
    intro m hmem
    rw [Packet.session.inj (List.mem_singleton.mp hmem)]
    exact kind_sendStartReady hsend (h.ready p)
  | beginWait p snapshot syncFrame =>
    obtain ⟨start, hstart, rfl⟩ := Option.map_eq_some_iff.mp ht
    exact h.act (steady_start (handshakes_beginWait hstart)) hnone
  | waitRound p =>
    obtain ⟨a', ha', rfl⟩ := Option.map_eq_some_iff.mp ht
    exact h.act (steady_waitRound ha') hnone
  | timeout p =>
    obtain ⟨start, hstart, rfl⟩ := Option.map_eq_some_iff.mp ht
    exact h.act (steady_start (handshakes_timeout hstart)) hnone
  | beginGeneration p => exact hgame.elim
  | sample p input =>
    obtain ⟨⟨a', packets⟩, hsample, rfl⟩ := Option.map_eq_some_iff.mp ht
    refine h.act (steady_sample hsample).1 ?_
    intro m hmem
    obtain ⟨packet, heq⟩ := input_of_mem_sample hsample hmem
    exact absurd heq (by simp)
  | resendLatestInput p =>
    obtain ⟨packet, hresend, rfl⟩ := Option.map_eq_some_iff.mp ht
    refine h.act (Steady.refl _) ?_
    intro m hmem
    obtain ⟨packet', heq⟩ := input_of_resendLatestInput hresend
    rw [heq] at hmem
    exact absurd (List.mem_singleton.mp hmem) (by simp)
  | deadlineExceeded p =>
    obtain rfl := deadlineExceeded_eq_some ht
    exact h.act (steady_failRecovery _) hnone

/-- In every run of one game in which no reconnect finds a seed that was sent and has not arrived,
the seed is kept. -/
theorem matchSeed_kept {es : List Op} {s : State} (hgame : ∀ op ∈ es, SameGame op)
    (harrived : Run.Along (State.step config) (SeedArrived config) (State.init config) es)
    (hs : Run.run (State.step config) (State.init config) es = some s) : SeedKept config s := by
  have hok := Run.along_and (Run.along_of_forall hgame) harrived
  have hstep : ∀ s op t, (InOrder config s ∧ SeedInv s) →
      (SameGame op ∧ SeedArrived config s op) → State.step config s op = some t →
        InOrder config t ∧ SeedInv t := by
    intro s op t hinv hop hstep
    exact ⟨inOrder_step hinv.1 (hinv.2.resumeAccepted op) hstep,
      seedInv_step hinv.2 hinv.1 hop.1 hop.2 hstep⟩
  have hinv := Run.run_invariant hstep ⟨inOrder_init config, seedInv_init config⟩ hok hs
  exact hinv.2.seedKept hinv.1

instance decidableSameGame : (op : Op) → Decidable (SameGame op)
  | .beginGeneration _ => isFalse id
  | .connect _ | .disconnect _ | .receive _ _ | .receiveUnsequenced _ _ | .sendResume _
  | .sendMatchSeed _ | .sendStartReady _ _ | .beginWait _ _ _ | .waitRound _ | .timeout _
  | .sample _ _ | .resendLatestInput _ | .deadlineExceeded _ => isTrue trivial

instance decidableSeedArrived (config : Config) (s : State) : (op : Op) →
    Decidable (SeedArrived config s op)
  | .connect p => inferInstanceAs (Decidable (p = 0 → config.recoveryEnabled = true →
      (s.side 0).connectedOnce = true → (s.side 0).start.handshake.matchSeedSent = true →
        (s.side 1).matchSeed.isSome = true))
  | .disconnect _ | .receive _ _ | .receiveUnsequenced _ _ | .sendResume _ | .sendMatchSeed _
  | .sendStartReady _ _ | .beginWait _ _ _ | .waitRound _ | .timeout _ | .beginGeneration _
  | .sample _ _ | .resendLatestInput _ | .deadlineExceeded _ => isTrue trivial

/-- The connection is lost before the host has sent the seed, and the seed follows the reconnect. -/
def lateSeedRun : List Op :=
  [.connect 0, .connect 1, .disconnect 1, .disconnect 0, .connect 0, .connect 1, .sendMatchSeed 0]

theorem matchSeed_kept_lateSeedRun :
    SeedKept lockstepConfig
      (Run.final (State.step lockstepConfig) (State.init lockstepConfig) lateSeedRun) :=
  matchSeed_kept (by decide +kernel) (by decide +kernel)
    (Run.run_eq_final _ _ _ (by decide +kernel))

/-- The seed is sent, the connection is lost with it, and both peers reconnect. -/
def lostSeedRun : List Op :=
  [.connect 0, .connect 1, .sendMatchSeed 0, .disconnect 0, .disconnect 1, .connect 0, .connect 1,
    .receive 0 0, .receive 1 0]

theorem matchSeed_lost :
    (∀ op ∈ lostSeedRun, SameGame op) ∧
      Run.run (State.step lockstepConfig) (State.init lockstepConfig) lostSeedRun =
        some (Run.final (State.step lockstepConfig) (State.init lockstepConfig) lostSeedRun) ∧
      ¬ SeedKept lockstepConfig
        (Run.final (State.step lockstepConfig) (State.init lockstepConfig) lostSeedRun) := by
  refine ⟨by decide +kernel, Run.run_eq_final _ _ _ (by decide +kernel), ?_⟩
  intro h
  rcases h 77 (by decide +kernel) (by decide +kernel) (by decide +kernel) (by decide +kernel)
    (by decide +kernel) (by decide +kernel) with ⟨⟨message, hmem, -⟩, -⟩ | hflag
  · -- nothing is in flight
    have hempty : (Run.final (State.step lockstepConfig) (State.init lockstepConfig)
        lostSeedRun).sent 0 = [] := by decide +kernel
    rw [hempty] at hmem
    exact absurd hmem List.not_mem_nil
  · have hsent : (((Run.final (State.step lockstepConfig) (State.init lockstepConfig)
        lostSeedRun).side 0).start.handshake.matchSeedSent) = true := by decide +kernel
    rw [hsent] at hflag
    exact absurd hflag (by simp)

end Bigstar.Netplay.NetplaySession
