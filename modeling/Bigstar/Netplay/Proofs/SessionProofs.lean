import Bigstar.Netplay.NetplaySession
import Bigstar.Netplay.Proofs.StartHandshakeProofs

/-!
# What an event of the session leaves alone

Most events change one peer and neither its connection nor what it has validated. After a reconnect
the first reliable packet of a peer is its forced `Resume`; as long as the other peer has not
validated it, that packet is still the next one to arrive.
-/

namespace Bigstar.Netplay.NetplaySession

open SessionProtocol SessionPolicy TwoParty

/-! ## The start handshake inside the session -/

/-- An event of the start handshake within one generation. -/
structure Handshakes (a a' : StartHandshake.Peer) : Prop where
  generation : a'.handshake.generation = a.handshake.generation
  matchSeedSent : a'.handshake.matchSeedSent = a.handshake.matchSeedSent
  stopped : a.stopped = true → a'.stopped = true
  localReady : ∀ m, a'.handshake.localReady = some m →
    m.kind = .startReady ∨ a.handshake.localReady = some m
  waited : a.handshake.waitedForPeerAtStart = true → a'.handshake.waitedForPeerAtStart = true

theorem Handshakes.refl (a : StartHandshake.Peer) : Handshakes a a :=
  ⟨rfl, rfl, fun h => h, fun _ h => Or.inr h, fun h => h⟩

/-- A snapshot is taken within the generation. -/
theorem handshakes_beginWait {a a' : StartHandshake.Peer} {snapshot : Message} {syncFrame : Nat}
    (h : a.beginWait snapshot syncFrame = some a') : Handshakes a a' := by
  unfold StartHandshake.Peer.beginWait at h
  split at h
  · exact absurd h (by simp)
  · next hguard =>
    push Not at hguard
    dsimp only at h
    set ready : Message := { snapshot with
      kind := .startReady
      generation := a.handshake.generation
      rawReadyFrame := syncFrame
      sharedLogicalEpoch := a.handshake.sharedLogicalEpoch } with hready
    have hbegin : Handshakes a { a with handshake := a.handshake.beginLocalReady ready } := by
      unfold Runtime.beginLocalReady
      split
      · exact Handshakes.refl a
      · split
        · exact ⟨rfl, rfl, fun hs => hs, fun m hm => absurd hm (by simp), fun hw => hw⟩
        · exact ⟨rfl, rfl, fun hs => hs, fun m hm =>
            Or.inl (Option.some.inj hm ▸ rfl), fun hw => hw⟩
    split at h
    · obtain rfl := Option.some.inj h
      exact ⟨hbegin.generation, hbegin.matchSeedSent, hbegin.stopped, hbegin.localReady,
        hbegin.waited⟩
    · obtain rfl := Option.some.inj h
      exact ⟨hbegin.generation, hbegin.matchSeedSent, hbegin.stopped, hbegin.localReady,
        hbegin.waited⟩

theorem handshakes_sendStartReady {a a' : StartHandshake.Peer} {force : Bool} {message : Message}
    (h : a.sendStartReady force = some (a', message)) : Handshakes a a' := by
  unfold StartHandshake.Peer.sendStartReady at h
  split at h
  · dsimp only at h
    split at h
    · obtain ⟨rfl, -⟩ := Prod.mk.inj (Option.some.inj h)
      exact ⟨rfl, rfl, fun hs => hs, fun _ hm => Or.inr hm, fun hw => hw⟩
    · exact absurd h (by simp)
  · exact absurd h (by simp)

/-- So is one received. -/
theorem handshakes_receiveStartReady (a : StartHandshake.Peer) (host : Bool) (message : Message) :
    Handshakes a (a.receiveStartReady host message) := by
  unfold StartHandshake.Peer.receiveStartReady
  split
  · exact Handshakes.refl a
  · dsimp only
    set adopted : StartHandshake.Peer := if host then a else { a with
      handshake := a.handshake.adoptHostLogicalEpoch message.sharedLogicalEpoch
      sharedLogicalEpoch := message.sharedLogicalEpoch } with hadopted
    have hkept : Handshakes a adopted := by
      rw [hadopted]
      split
      · exact Handshakes.refl a
      · exact ⟨rfl, rfl, fun hs => hs, fun _ hm => Or.inr hm, fun hw => hw⟩
    obtain ⟨remoteReadyFrame, remoteReady, after, heq, -⟩ :=
      StartHandshake.receiveRemoteReady_cases adopted.handshake message
    rw [heq]
    split
    · exact ⟨hkept.generation, hkept.matchSeedSent, hkept.stopped, hkept.localReady, hkept.waited⟩
    · exact ⟨hkept.generation, hkept.matchSeedSent, hkept.stopped, hkept.localReady, hkept.waited⟩

/-- A round of the wait stops the process, changes nothing, or accepts. -/
theorem waitRound_cases {a a' : StartHandshake.Peer} {lastReceivedInputFrame : Nat} {delay : Int}
    (h : a.waitRound lastReceivedInputFrame delay = some a') :
    a.handshake.waitedForPeerAtStart = false ∧
      (a' = { a with stopped := true } ∨ a' = a ∨
        a.handshake.remoteReadyFrame.isSome = true ∧
          ∃ accepted, a' = { a with
            handshake :=
              a.handshake.markWaitedForPeerAtStart.markInputEpochPrimed a.sharedLogicalEpoch
            accepted := accepted }) := by
  unfold StartHandshake.Peer.waitRound at h
  split at h
  · split at h
    · exact absurd h (by simp)
    · next hguard =>
      push Not at hguard
      refine ⟨by simpa using hguard.2, ?_⟩
      split at h
      · exact Or.inl (Option.some.inj h).symm
      · dsimp only at h
        split at h
        · next haccept =>
          simp only [shouldAcceptStartReady, Bool.and_eq_true] at haccept
          exact Or.inr (Or.inr ⟨haccept.1.1, _, (Option.some.inj h).symm⟩)
        · exact Or.inr (Or.inl (Option.some.inj h).symm)
  · exact absurd h (by simp)

theorem handshakes_waitRound {a a' : StartHandshake.Peer}
    {lastReceivedInputFrame : Nat} {delay : Int}
    (h : a.waitRound lastReceivedInputFrame delay = some a') : Handshakes a a' := by
  obtain ⟨-, rfl | rfl | ⟨-, accepted, rfl⟩⟩ := waitRound_cases h
  · exact ⟨rfl, rfl, fun _ => rfl, fun _ hm => Or.inr hm, fun hw => hw⟩
  · exact Handshakes.refl a'
  · exact ⟨rfl, rfl, fun hs => hs, fun _ hm => Or.inr hm, fun _ => rfl⟩

theorem handshakes_timeout {a a' : StartHandshake.Peer} (h : a.timeout = some a') :
    Handshakes a a' := by
  unfold StartHandshake.Peer.timeout at h
  split at h
  · exact absurd h (by simp)
  · obtain rfl := Option.some.inj h
    exact ⟨rfl, rfl, fun hs => hs, fun _ hm => Or.inr hm, fun hw => hw⟩

/-! ## Events that are not about the connection -/

/-- The connection stays, validation is not taken back, and a process that has ended stays so. -/
structure Continues (a a' : Peer) : Prop where
  connected : a'.connected = a.connected
  connectedOnce : a'.connectedOnce = a.connectedOnce
  validated : a.resumeValidated = true → a'.resumeValidated = true
  stopped : a.stopped = true → a'.stopped = true

/-- In addition, neither the generation nor the seed is concerned. -/
structure Steady (a a' : Peer) : Prop extends Continues a a' where
  generation : a'.generation = a.generation
  matchSeedSent : a'.start.handshake.matchSeedSent = a.start.handshake.matchSeedSent
  matchSeed : a'.matchSeed = a.matchSeed
  localReady : ∀ m, a'.start.handshake.localReady = some m →
    m.kind = .startReady ∨ a.start.handshake.localReady = some m

theorem Steady.refl (a : Peer) : Steady a a :=
  ⟨⟨rfl, rfl, fun h => h, fun h => h⟩, rfl, rfl, rfl, fun _ h => Or.inr h⟩

theorem steady_inputs (a : Peer) (inputs : InputTimeline.Runtime) (nextFrame : Option Nat)
    (remoteSessionNonce : Nat) : Steady a { a with inputs, nextFrame, remoteSessionNonce } :=
  ⟨⟨rfl, rfl, fun h => h, fun h => h⟩, rfl, rfl, rfl, fun _ h => Or.inr h⟩

theorem steady_failRecovery (a : Peer) : Steady a a.failRecovery :=
  ⟨⟨rfl, rfl, fun h => h, fun _ => rfl⟩, rfl, rfl, rfl, fun _ h => Or.inr h⟩

/-- A step of the handshake does not touch the connection. -/
theorem steady_start {a : Peer} {start : StartHandshake.Peer} (h : Handshakes a.start start) :
    Steady a { a with start } := by
  refine ⟨⟨rfl, rfl, fun h => h, ?_⟩, h.generation, h.matchSeedSent, rfl, h.localReady⟩
  intro hs
  simp only [Peer.stopped, Bool.or_eq_true] at hs ⊢
  exact hs.imp_right h.stopped

variable {config : Config}

/-- Only a connected peer sends. -/
theorem steady_sendStartReady {a a' : Peer} {force : Bool} {message : Message}
    (h : a.sendStartReady force = some (a', message)) : Steady a a' ∧ a.connected = true := by
  unfold Peer.sendStartReady at h
  split at h
  · next hconnected =>
    obtain ⟨⟨start, m⟩, hsend, heq⟩ := Option.map_eq_some_iff.mp h
    obtain ⟨rfl, rfl⟩ := Prod.mk.inj heq
    exact ⟨steady_start (handshakes_sendStartReady hsend), hconnected⟩
  · exact absurd h (by simp)

/-- The host sends its seed once. -/
theorem sendMatchSeed_eq_some {a a' : Peer} {host : Bool} {message : Message}
    (h : a.sendMatchSeed host = some (a', message)) :
    host = true ∧ a.connected = true ∧ Continues a a' ∧
      message.kind = .matchSeed ∧ a.matchSeed = some message.value ∧
      a' = { a with start := { a.start with
        handshake := { a.start.handshake with matchSeedSent := true } } } := by
  unfold Peer.sendMatchSeed at h
  split at h
  · exact absurd h (by simp)
  · next seed hseed =>
    split at h
    · next hguard =>
      obtain ⟨rfl, rfl⟩ := Prod.mk.inj (Option.some.inj h)
      simp only [Bool.and_eq_true] at hguard
      exact ⟨hguard.1.2, hguard.1.1, ⟨rfl, rfl, fun h => h, fun h => h⟩, rfl, hseed, rfl⟩
    · exact absurd h (by simp)

/-- A sampled input is sent by a connected peer that has validated the other one. -/
theorem steady_sample {a a' : Peer} {input : InputState} {packets : List Packet}
    (h : a.sample config input = some (a', packets)) :
    Steady a a' ∧ (a.connected = true ∨ packets = []) := by
  unfold Peer.sample at h
  split at h
  · exact absurd h (by simp)
  · dsimp only at h
    split at h
    · exact absurd h (by simp)
    · split at h
      · next hguard =>
        obtain ⟨rfl, -⟩ := Prod.mk.inj (Option.some.inj h)
        simp only [Bool.and_eq_true] at hguard
        exact ⟨steady_inputs a _ _ _, Or.inl hguard.1⟩
      · obtain ⟨rfl, rfl⟩ := Prod.mk.inj (Option.some.inj h)
        exact ⟨steady_inputs a _ _ _, Or.inr rfl⟩

/-- A sample sends inputs only. -/
theorem input_of_mem_sample {a a' : Peer} {input : InputState} {packets : List Packet}
    (h : a.sample config input = some (a', packets)) {packet : Packet} (hmem : packet ∈ packets) :
    ∃ framed, packet = .input framed := by
  unfold Peer.sample at h
  split at h
  · exact absurd h (by simp)
  · dsimp only at h
    split at h
    · exact absurd h (by simp)
    · split at h
      · obtain ⟨-, rfl⟩ := Prod.mk.inj (Option.some.inj h)
        exact ⟨_, List.mem_singleton.mp hmem⟩
      · obtain ⟨-, rfl⟩ := Prod.mk.inj (Option.some.inj h)
        exact absurd hmem List.not_mem_nil

/-- What is sent is the snapshot of the peer, so it keeps its kind. -/
theorem kind_sendStartReady {a a' : Peer} {force : Bool} {message : Message}
    (h : a.sendStartReady force = some (a', message))
    (hready : ∀ m, a.start.handshake.localReady = some m → m.kind = .startReady) :
    message.kind = .startReady := by
  unfold Peer.sendStartReady at h
  split at h
  · obtain ⟨⟨start, m⟩, hsend, heq⟩ := Option.map_eq_some_iff.mp h
    obtain ⟨-, rfl⟩ := Prod.mk.inj heq
    unfold StartHandshake.Peer.sendStartReady at hsend
    split at hsend
    · next frame localReady _ hlocal =>
      dsimp only at hsend
      split at hsend
      · obtain ⟨-, rfl⟩ := Prod.mk.inj (Option.some.inj hsend)
        exact hready localReady hlocal
      · exact absurd hsend (by simp)
    · exact absurd hsend (by simp)
  · exact absurd h (by simp)

/-- So does a repetition. -/
theorem input_of_resendLatestInput {a : Peer} {packet : Packet}
    (h : a.resendLatestInput = some packet) : ∃ framed, packet = .input framed := by
  unfold Peer.resendLatestInput at h
  split at h
  · obtain ⟨input, -, rfl⟩ := Option.map_eq_some_iff.mp h
    exact ⟨_, rfl⟩
  · exact absurd h (by simp)

theorem connected_of_resendLatestInput {a : Peer} {packet : Packet}
    (h : a.resendLatestInput = some packet) : a.connected = true := by
  unfold Peer.resendLatestInput at h
  split at h
  · next hguard =>
    simp only [Bool.and_eq_true] at hguard
    exact hguard.1
  · exact absurd h (by simp)

theorem steady_waitRound {a a' : Peer} (h : a.waitRound config = some a') : Steady a a' := by
  obtain ⟨start, hstart, rfl⟩ := Option.map_eq_some_iff.mp h
  have hs : Steady a { a with start } := steady_start (handshakes_waitRound hstart)
  split
  · exact ⟨⟨rfl, rfl, fun h => h, hs.stopped⟩, hs.generation, hs.matchSeedSent, rfl, hs.localReady⟩
  · exact hs

/-- A new generation does not touch the connection. -/
theorem continues_beginGeneration (a : Peer) (host : Bool) :
    Continues a (a.beginGeneration config host) := ⟨rfl, rfl, fun h => h, fun h => h⟩

/-! ## Receiving -/

theorem steady_resumeFrom (a : Peer) (value : Nat) : Steady a (a.resumeFrom value).1 := by
  unfold Peer.resumeFrom
  dsimp only
  split
  · exact steady_failRecovery a
  · split
    · exact steady_failRecovery a
    · exact steady_inputs a _ _ _

theorem Steady.trans {a b c : Peer} (h : Steady a b) (h' : Steady b c) : Steady a c :=
  ⟨⟨h'.connected.trans h.connected, h'.connectedOnce.trans h.connectedOnce,
    fun hv => h'.validated (h.validated hv), fun hs => h'.stopped (h.stopped hs)⟩,
    h'.generation.trans h.generation, h'.matchSeedSent.trans h.matchSeedSent,
    h'.matchSeed.trans h.matchSeed, fun m hm => (h'.localReady m hm).elim Or.inl (h.localReady m)⟩

theorem steady_receiveResume (a : Peer) (message : Message) :
    Steady a (a.receiveResume config message).1 := by
  have hnonce : Steady a { a with remoteSessionNonce := message.semanticHash } :=
    steady_inputs a _ _ _
  unfold Peer.receiveResume
  split
  · exact Steady.refl a
  · split
    · exact steady_failRecovery a
    · dsimp only
      split
      · exact hnonce
      · split
        · exact hnonce
        · split
          · exact hnonce.trans (steady_failRecovery _)
          · refine Steady.trans ?_ (steady_resumeFrom _ _)
            exact ⟨⟨rfl, rfl, fun _ => rfl, fun h => h⟩, rfl, rfl, rfl, fun _ h => Or.inr h⟩

/-- The forced `Resume` of the other peer validates it if it comes from the same generation. -/
theorem validated_receiveResume {a : Peer} {message : Message}
    (hrecovery : config.recoveryEnabled = true) (hhash : message.semanticHash ≠ 0)
    (hgen : message.generation = a.generation) :
    (a.receiveResume config message).1.resumeValidated = true ∨
      (a.receiveResume config message).1.stopped = true := by
  have hfailed : ∀ b : Peer, b.failRecovery.stopped = true := fun _ => rfl
  unfold Peer.receiveResume
  rw [if_neg (by simp [hrecovery, hhash])]
  split
  · exact Or.inr (hfailed _)
  · dsimp only
    rw [if_neg (fun h => h hgen)]
    split
    · next hvalidated => exact Or.inl hvalidated
    · split
      · exact Or.inr (hfailed _)
      · exact Or.inl ((steady_resumeFrom _ _).validated rfl)

/-- What is received as a `Resume` message. -/
theorem receive_resume (host : Bool) (localFrame : Nat) (a : Peer) {message : Message}
    (h : message.kind = .resume) :
    a.receive config host localFrame (.session message) = a.receiveResume config message := by
  change a.receiveSession config host message = _
  unfold Peer.receiveSession
  rw [h]

/-- Nothing that arrives makes a peer unvalidated. -/
theorem continues_receive (host : Bool) (localFrame : Nat) (a : Peer) (packet : Packet) :
    Continues a (a.receive config host localFrame packet).1 := by
  have hself : Continues a a := (Steady.refl a).toContinues
  unfold Peer.receive Peer.receiveSession
  split
  · split
    · exact (steady_receiveResume a _).toContinues
    · split
      · exact ⟨rfl, rfl, fun h => h, fun h => h⟩
      · exact hself
    · split
      · exact (steady_start (handshakes_receiveStartReady a.start host _)).toContinues
      · exact hself
  · split
    · exact ⟨rfl, rfl, fun h => h, fun h => h⟩
    · exact hself

/-! ## Acting on one peer -/

theorem act_side_self (s : State) (p : Fin 2) (a' : Peer) (packets : List Packet) :
    (s.act p a' packets).side p = a' := Net.put_side_self s.toNet p a' _

theorem act_side_other (s : State) (p : Fin 2) (a' : Peer) (packets : List Packet) :
    (s.act p a' packets).side (other p) = s.side (other p) := Net.put_side_other s.toNet p a' _

/-- What is in flight after a step was so before, or has just been sent. -/
theorem mem_act {s : State} {p q : Fin 2} {a' : Peer} {packets : List Packet} {packet : Packet}
    (h : packet ∈ (s.act p a' packets).sent q) : packet ∈ s.sent q ∨ p = q ∧ packet ∈ packets := by
  have hput : packet ∈ (s.toNet.put p a' (if s.broken then [] else packets)).sent q := h
  rcases eq_or_eq_other p q with rfl | rfl
  · rw [Net.put_sent_self, List.mem_append] at hput
    refine hput.imp_right fun hmem => ⟨rfl, ?_⟩
    split at hmem
    · exact absurd hmem List.not_mem_nil
    · exact hmem
  · rw [Net.put_sent_other] at hput
    exact Or.inl hput

theorem mem_act_of_mem {s : State} {p q : Fin 2} {a' : Peer}
    {packets : List Packet} {packet : Packet}
    (h : packet ∈ s.sent q) : packet ∈ (s.act p a' packets).sent q := by
  change packet ∈ (s.toNet.put p a' (if s.broken then [] else packets)).sent q
  rcases eq_or_eq_other p q with rfl | rfl
  · rw [Net.put_sent_self]
    exact List.mem_append_left _ h
  · rw [Net.put_sent_other]
    exact h

/-- What holds of a peer and of both its successors holds of every peer after a step. -/
theorem forall_act {P : Fin 2 → Peer → Prop} {s : State} {p : Fin 2} {a' : Peer}
    {packets : List Packet} (h : ∀ q, P q (s.side q)) (ha' : P p a') (q : Fin 2) :
    P q ((s.act p a' packets).side q) := by
  change P q ((s.toNet.put p a' (if s.broken then [] else packets)).side q)
  rcases eq_or_eq_other p q with rfl | rfl
  · rw [Net.put_side_self]
    exact ha'
  · rw [Net.put_side_other]
    exact h (other p)

/-- A peer may act before or after the oldest packet of the other one has left the channel. -/
theorem act_remain (s : State) (p : Fin 2) (a' : Peer) (packets : List Packet)
    (rest : List Packet) :
    State.act { s with toNet := s.toNet.remain (other p) rest } p a' packets =
      { s.act p a' packets with toNet := (s.act p a' packets).toNet.remain (other p) rest } := by
  unfold State.act
  dsimp only
  rw [Net.put_remain]

/-- The field of a peer that a step of either peer does not change. -/
theorem act_same {α : Type} {f : Peer → α} {s : State} {p : Fin 2} {a' : Peer}
    {packets : List Packet} (h : f a' = f (s.side p)) (q : Fin 2) :
    f ((s.act p a' packets).side q) = f (s.side q) :=
  forall_act (P := fun q a => f a = f (s.side q)) (fun _ => rfl) h q

/-! ## The forced `Resume` comes first -/

/-- The packets `out` from `a` to `b`: a peer without a connection has nothing in flight, and until
`b` has validated `a`, the next packet to arrive is a `Resume`. -/
structure Ordered (config : Config) (broken : Bool) (a b : Peer) (out : List Packet) : Prop where
  idle : a.connected = false ∨ broken = true → out = []
  both : broken = true → a.connected = false ∨ b.connected = false
  unvalidated : b.resumeValidated = false → config.recoveryEnabled = true
  first : config.recoveryEnabled = true → a.connected = true → broken = false →
    b.stopped = false → b.connected = false ∨ b.resumeValidated = false →
      ∃ message rest, out = .session message :: rest ∧ message.kind = .resume ∧
        message.semanticHash ≠ 0

/-- What is in flight is in order in both directions. -/
def InOrder (config : Config) (s : State) : Prop :=
  ∀ p, Ordered config s.broken (s.side p) (s.side (other p)) (s.sent p)

/-- Nothing is in flight in the beginning. -/
theorem inOrder_init (config : Config) : InOrder config (State.init config) := by
  intro p
  refine ⟨fun _ => rfl, fun h => absurd h (by simp [State.init]),
    fun h => absurd h (by simp [State.init]), ?_⟩
  intro _ h
  exact absurd h (by simp [State.init])

/-- Who is not validated after a step was not before. -/
theorem Continues.unvalidated {a a' : Peer} (h : Continues a a') (hv : a'.resumeValidated = false) :
    a.resumeValidated = false := by
  by_contra hne
  rw [h.validated (by simpa using hne)] at hv
  exact absurd hv (by simp)

/-- Who runs after a step ran before. -/
theorem Continues.running {a a' : Peer} (h : Continues a a') (hs : a'.stopped = false) :
    a.stopped = false := by
  by_contra hne
  rw [h.stopped (by simpa using hne)] at hs
  exact absurd hs (by simp)

section Directions

variable {broken : Bool} {a a' b : Peer} {out : List Packet}

/-- More packets leave a connected peer. -/
theorem Ordered.sender (h : Ordered config broken a b out) (ha : a'.connected = a.connected)
    {packets : List Packet} (hpackets : a.connected = true ∨ packets = []) :
    Ordered config broken a' b (out ++ if broken then [] else packets) where
  idle hidle := by
    rw [ha] at hidle
    rw [h.idle hidle, List.nil_append]
    rcases hidle with hidle | hidle
    · rcases hpackets with hp | hp
      · rw [hidle] at hp
        exact absurd hp (by simp)
      · rw [hp]
        split <;> rfl
    · rw [if_pos hidle]
  both hb := by
    rw [ha]
    exact h.both hb
  unvalidated := h.unvalidated
  first hrecovery hconnected hb hs hnot := by
    rw [ha] at hconnected
    obtain ⟨message, rest, hout, hm⟩ := h.first hrecovery hconnected hb hs hnot
    exact ⟨message, rest ++ if broken then [] else packets, by rw [hout]; rfl, hm⟩

/-- The receiver goes on. -/
theorem Ordered.receiver (h : Ordered config broken a b out) {b' : Peer} (hb' : Continues b b') :
    Ordered config broken a b' out where
  idle := h.idle
  both hb := by
    rw [hb'.connected]
    exact h.both hb
  unvalidated hv := h.unvalidated (hb'.unvalidated hv)
  first hrecovery hconnected hb hs hnot := by
    refine h.first hrecovery hconnected hb (hb'.running hs) ?_
    rw [hb'.connected] at hnot
    exact hnot.imp_right hb'.unvalidated

end Directions

/-- A step of one peer that sends while it is connected keeps the order. -/
theorem InOrder.act {s : State} (h : InOrder config s) {p : Fin 2} {a' : Peer}
    {packets : List Packet}
    (ha' : Continues (s.side p) a') (hpackets : (s.side p).connected = true ∨ packets = []) :
    InOrder config (s.act p a' packets) := by
  have hin := h (other p)
  rw [other_other] at hin
  exact Net.forall_put (I := fun _ a b out _ => Ordered config s.broken a b out)
    ((h p).sender ha'.connected hpackets) (hin.receiver ha')

/-- What the arrival of a reliable packet does. -/
theorem receive_eq_some {s t : State} {p : Fin 2} {localFrame : Nat}
    (h : s.receive config p localFrame = some t) :
    ∃ packet rest, s.sent (other p) = packet :: rest ∧ (s.side p).connected = true ∧
      t = State.act { s with toNet := s.toNet.remain (other p) rest } p
        ((s.side p).receive config (State.isHost p) localFrame packet).1
        ((s.side p).receive config (State.isHost p) localFrame packet).2 := by
  unfold State.receive at h
  split at h
  · exact absurd h (by simp)
  · next packet rest hsent =>
    split at h
    · next hconnected => exact ⟨packet, rest, hsent, hconnected, (Option.some.inj h).symm⟩
    · exact absurd h (by simp)

/-- What the arrival of a periodic `Resume` does. -/
theorem receiveUnsequenced_eq_some {s t : State} {p : Fin 2} {index : Nat}
    (h : s.receiveUnsequenced config p index = some t) :
    ∃ message ∈ s.unsequenced (other p), (s.side p).connected = true ∧
      t = s.act p ((s.side p).receiveResume config message).1
        ((s.side p).receiveResume config message).2 := by
  unfold State.receiveUnsequenced at h
  split at h
  · next hconnected =>
    obtain ⟨message, hindex, rfl⟩ := Option.map_eq_some_iff.mp h
    exact ⟨message, List.mem_of_getElem? hindex, hconnected, rfl⟩
  · exact absurd h (by simp)

/-- The `Resume` message is added to the unsequenced ones. -/
theorem sendResume_eq_some {s t : State} {p : Fin 2} (h : s.sendResume config p = some t) :
    t = { s with unsequenced :=
      Function.update s.unsequenced p (s.unsequenced p ++ [(s.side p).resume config p]) } := by
  unfold State.sendResume at h
  split at h
  · exact (Option.some.inj h).symm
  · exact absurd h (by simp)

/-- A connection needs two peers that know that there is none. -/
theorem connect_eq_some {s t : State} {p : Fin 2} (h : s.connect config p = some t) :
    (s.side p).connected = false ∧ s.broken = false ∧
      t = s.act p ((s.side p).connect config p).1 ((s.side p).connect config p).2 := by
  unfold State.connect at h
  split at h
  · exact absurd h (by simp)
  · next hguard =>
    simp only [Bool.or_eq_true, not_or, Bool.not_eq_true] at hguard
    exact ⟨hguard.1, hguard.2, (Option.some.inj h).symm⟩

/-- What is in flight is lost. -/
theorem disconnect_eq_some {s t : State} {p : Fin 2} (h : s.disconnect config p = some t) :
    t = { toNet := s.toNet.drop.put p ((s.side p).disconnect config)
          broken := (s.side (other p)).connected } := by
  unfold State.disconnect at h
  split at h
  · exact (Option.some.inj h).symm
  · exact absurd h (by simp)

theorem deadlineExceeded_eq_some {s t : State} {p : Fin 2}
    (h : s.run config (.deadlineExceeded p) = some t) : t = s.act p (s.side p).failRecovery := by
  have hif : (if config.recoveryEnabled then some (s.act p (s.side p).failRecovery) else none) =
      some t := h
  split at hif
  · exact (Option.some.inj hif).symm
  · exact absurd hif (by simp)

theorem connected_connect (a : Peer) (p : Fin 2) : (a.connect config p).1.connected = true := rfl

/-- A connection asks for a validation where there is a recovery. -/
theorem unvalidated_connect {a : Peer} {p : Fin 2}
    (h : (a.connect config p).1.resumeValidated = false) :
    a.resumeValidated = false ∨ config.recoveryEnabled = true := by
  dsimp only [Peer.connect] at h
  split at h
  · next hrecovery =>
    simp only [Bool.and_eq_true] at hrecovery
    exact Or.inr hrecovery.2
  · exact Or.inl h

theorem stopped_connect (a : Peer) (p : Fin 2) : (a.connect config p).1.stopped = a.stopped := by
  dsimp only [Peer.connect]
  split <;> rfl

/-- A new connection begins with nothing in flight but what it sends. -/
theorem InOrder.connect {s t : State} (h : InOrder config s) {p : Fin 2}
    (ht : s.connect config p = some t) : InOrder config t := by
  obtain ⟨hdisconnected, hbroken, rfl⟩ := connect_eq_some ht
  have hin := h (other p)
  rw [other_other] at hin
  refine Net.forall_put (I := fun _ a b out _ => Ordered config s.broken a b out) ?_ ?_
  · rw [(h p).idle (Or.inl hdisconnected), List.nil_append, hbroken, if_neg (by simp)]
    refine ⟨?_, fun hb => absurd hb (by simp), (h p).unvalidated, ?_⟩
    · rintro (hc | hc)
      · exact absurd hc (by simp [connected_connect])
      · exact absurd hc (by simp)
    · intro hrecovery _ _ _ _
      refine ⟨_, [], if_pos hrecovery, rfl, ?_⟩
      exact Nat.ne_of_gt (config.sessionNonce_pos p)
  · refine ⟨hin.idle, fun hb => ?_, ?_, ?_⟩
    · rw [hbroken] at hb
      exact absurd hb (by simp)
    · intro hv
      exact (unvalidated_connect hv).elim hin.unvalidated id
    · intro hrecovery hconnected hb hs _
      rw [stopped_connect] at hs
      exact hin.first hrecovery hconnected hb hs (Or.inl hdisconnected)

theorem connected_disconnect (a : Peer) : (a.disconnect config).connected = false := by
  unfold Peer.disconnect
  dsimp only
  split <;> rfl

theorem unvalidated_disconnect {a : Peer} (h : (a.disconnect config).resumeValidated = false) :
    a.resumeValidated = false ∨ config.recoveryEnabled = true := by
  unfold Peer.disconnect at h
  dsimp only at h
  split at h
  · next hrecovery =>
    simp only [Bool.and_eq_true] at hrecovery
    exact Or.inr hrecovery.2
  · exact Or.inl h

/-- A lost connection leaves nothing in flight. -/
theorem InOrder.disconnect {s t : State} (h : InOrder config s) {p : Fin 2}
    (ht : s.disconnect config p = some t) : InOrder config t := by
  obtain rfl := disconnect_eq_some ht
  have hin := h (other p)
  rw [other_other] at hin
  refine Net.forall_put (s := s.toNet.drop)
    (I := fun _ a b out _ => Ordered config (s.side (other p)).connected a b out) ?_ ?_
  · refine ⟨fun _ => rfl, fun _ => Or.inl (connected_disconnect _), (h p).unvalidated, ?_⟩
    intro _ hconnected
    rw [connected_disconnect] at hconnected
    exact absurd hconnected (by simp)
  · refine ⟨fun _ => rfl, fun _ => Or.inr (connected_disconnect _), ?_, ?_⟩
    · intro hv
      exact (unvalidated_disconnect hv).elim hin.unvalidated id
    · intro _ hconnected hb
      rw [show (s.side (other p)).connected = true from hconnected] at hb
      exact absurd hb (by simp)

/-- No peer refuses the forced `Resume` that would validate the other one for its generation. -/
def ResumeAccepted (s : State) : Op → Prop
  | .receive p _ => ∀ message rest, s.sent (other p) = .session message :: rest →
      message.kind = .resume → (s.side p).resumeValidated = false →
        message.generation = (s.side p).generation
  | _ => True

/-- The oldest packet is taken. -/
theorem InOrder.receive {s t : State} (h : InOrder config s) {p : Fin 2} {localFrame : Nat}
    (hrunning : (s.side p).stopped = false) (hok : ResumeAccepted s (.receive p localFrame))
    (ht : s.receive config p localFrame = some t) : InOrder config t := by
  obtain ⟨packet, rest, hsent, hconnected, rfl⟩ := receive_eq_some ht
  have hcontinues : Continues (s.side p)
      ((s.side p).receive config (State.isHost p) localFrame packet).1 := continues_receive _ _ _ _
  have hin := h (other p)
  rw [other_other] at hin
  refine Net.forall_put (s := s.toNet.remain (other p) rest)
    (I := fun _ a b out _ => Ordered config s.broken a b out) ?_ ?_
  · rw [Net.remain_sent_other]
    exact (h p).sender hcontinues.connected (Or.inl hconnected)
  · rw [Net.remain_sent_self]
    have hreceived := hin.receiver hcontinues
    refine ⟨?_, hreceived.both, hreceived.unvalidated, ?_⟩
    · intro hidle
      exact absurd ((hin.idle hidle).symm.trans hsent) (by simp)
    · -- the packet was the `Resume`, and it has validated the other peer
      intro hrecovery hother hb hs hnot
      have hnot' := hnot.resolve_left (by rw [hcontinues.connected, hconnected]; simp)
      have hunvalidated := hcontinues.unvalidated hnot'
      obtain ⟨message, rest', hout, hkind, hhash⟩ :=
        hin.first hrecovery hother hb hrunning (Or.inr hunvalidated)
      obtain ⟨rfl, rfl⟩ := List.cons.inj (hsent.symm.trans hout)
      have hgen := hok message rest hsent hkind hunvalidated
      rw [receive_resume _ _ _ hkind] at hnot' hs
      rcases validated_receiveResume hrecovery hhash hgen with hv | hv
      · rw [hv] at hnot'
        exact absurd hnot' (by simp)
      · rw [hv] at hs
        exact absurd hs (by simp)

/-- Only a process that runs takes a step. -/
theorem running_of_step {s t : State} {op : Op} (h : s.step config op = some t) :
    (s.side (State.peerOf op)).stopped = false ∧ s.run config op = some t := by
  unfold State.step at h
  split at h
  · exact absurd h (by simp)
  · next hs => exact ⟨by simpa using hs, h⟩

/-- An event concerns the connection, lets a reliable packet arrive, or lets one peer act. -/
theorem step_cases {s t : State} {op : Op} (hstep : s.step config op = some t) :
    (∃ p, op = .connect p ∧ s.connect config p = some t) ∨
      (∃ p, op = .disconnect p ∧ s.disconnect config p = some t) ∨
      (∃ p localFrame, op = .receive p localFrame ∧ (s.side p).stopped = false ∧
        s.receive config p localFrame = some t) ∨
      (t.toNet = s.toNet ∧ t.broken = s.broken) ∨
      ∃ p a' packets, Continues (s.side p) a' ∧ ((s.side p).connected = true ∨ packets = []) ∧
        t = s.act p a' packets := by
  obtain ⟨hrunning, ht⟩ := running_of_step hstep
  have hact : ∀ {p : Fin 2} {a' : Peer} {packets : List Packet}, Continues (s.side p) a' →
      ((s.side p).connected = true ∨ packets = []) → t = s.act p a' packets →
      ∃ p a' packets, Continues (s.side p) a' ∧ ((s.side p).connected = true ∨ packets = []) ∧
        t = s.act p a' packets :=
    fun {p a' packets} h₁ h₂ h₃ => ⟨p, a', packets, h₁, h₂, h₃⟩
  cases op with
  | connect p => exact Or.inl ⟨p, rfl, ht⟩
  | disconnect p => exact Or.inr (Or.inl ⟨p, rfl, ht⟩)
  | receive p localFrame => exact Or.inr (Or.inr (Or.inl ⟨p, localFrame, rfl, hrunning, ht⟩))
  | sendResume p =>
    obtain rfl := sendResume_eq_some ht
    exact Or.inr (Or.inr (Or.inr (Or.inl ⟨rfl, rfl⟩)))
  | receiveUnsequenced p index =>
    obtain ⟨message, -, hconnected, heq⟩ := receiveUnsequenced_eq_some ht
    exact Or.inr (Or.inr (Or.inr (Or.inr
      (hact (steady_receiveResume _ message).toContinues (Or.inl hconnected) heq))))
  | sendMatchSeed p =>
    obtain ⟨⟨a', message⟩, hsend, rfl⟩ := Option.map_eq_some_iff.mp ht
    obtain ⟨-, hconnected, hcontinues, -⟩ := sendMatchSeed_eq_some hsend
    exact Or.inr (Or.inr (Or.inr (Or.inr (hact hcontinues (Or.inl hconnected) rfl))))
  | sendStartReady p force =>
    obtain ⟨⟨a', message⟩, hsend, rfl⟩ := Option.map_eq_some_iff.mp ht
    obtain ⟨hsteady, hconnected⟩ := steady_sendStartReady hsend
    exact Or.inr (Or.inr (Or.inr (Or.inr (hact hsteady.toContinues (Or.inl hconnected) rfl))))
  | beginWait p snapshot syncFrame =>
    obtain ⟨start, hstart, rfl⟩ := Option.map_eq_some_iff.mp ht
    exact Or.inr (Or.inr (Or.inr (Or.inr
      (hact (steady_start (handshakes_beginWait hstart)).toContinues (Or.inr rfl) rfl))))
  | waitRound p =>
    obtain ⟨a', ha', rfl⟩ := Option.map_eq_some_iff.mp ht
    exact Or.inr (Or.inr (Or.inr (Or.inr
      (hact (steady_waitRound ha').toContinues (Or.inr rfl) rfl))))
  | timeout p =>
    obtain ⟨start, hstart, rfl⟩ := Option.map_eq_some_iff.mp ht
    exact Or.inr (Or.inr (Or.inr (Or.inr
      (hact (steady_start (handshakes_timeout hstart)).toContinues (Or.inr rfl) rfl))))
  | beginGeneration p =>
    obtain rfl := Option.some.inj ht
    exact Or.inr (Or.inr (Or.inr (Or.inr (hact (continues_beginGeneration _ _) (Or.inr rfl) rfl))))
  | sample p input =>
    obtain ⟨⟨a', packets⟩, hsample, rfl⟩ := Option.map_eq_some_iff.mp ht
    obtain ⟨hsteady, hpackets⟩ := steady_sample hsample
    exact Or.inr (Or.inr (Or.inr (Or.inr (hact hsteady.toContinues hpackets rfl))))
  | resendLatestInput p =>
    obtain ⟨packet, hresend, rfl⟩ := Option.map_eq_some_iff.mp ht
    exact Or.inr (Or.inr (Or.inr (Or.inr (hact (Steady.refl _).toContinues
      (Or.inl (connected_of_resendLatestInput hresend)) rfl))))
  | deadlineExceeded p =>
    obtain rfl := deadlineExceeded_eq_some ht
    exact Or.inr (Or.inr (Or.inr (Or.inr
      (hact (steady_failRecovery _).toContinues (Or.inr rfl) rfl))))

/-- Each step keeps the order. -/
theorem inOrder_step {s t : State} {op : Op} (h : InOrder config s) (hok : ResumeAccepted s op)
    (hstep : s.step config op = some t) : InOrder config t := by
  rcases step_cases hstep with ⟨p, rfl, ht⟩ | ⟨p, rfl, ht⟩ | ⟨p, localFrame, rfl, hrunning, ht⟩ |
    ⟨hnet, hbroken⟩ | ⟨p, a', packets, hcontinues, hpackets, rfl⟩
  · exact h.connect ht
  · exact h.disconnect ht
  · exact h.receive hrunning hok ht
  · intro p
    rw [hnet, hbroken]
    exact h p
  · exact h.act hcontinues hpackets

/-- After a loss that only one peer has noticed, the two are not both connected. -/
def Apart (s : State) : Prop := s.broken = true → ∃ p, (s.side p).connected = false

/-- The connection is lost for both or for none. -/
theorem apart_step {s t : State} {op : Op} (h : Apart s) (hstep : s.step config op = some t) :
    Apart t := by
  have hact : ∀ {s : State} {p : Fin 2} {a' : Peer} {packets : List Packet}, Apart s →
      Continues (s.side p) a' → Apart (s.act p a' packets) := by
    intro s p a' packets h hcontinues hbroken
    obtain ⟨q, hq⟩ := h hbroken
    exact ⟨q, (act_same (f := fun a => a.connected) hcontinues.connected q).trans hq⟩
  rcases step_cases hstep with ⟨p, rfl, ht⟩ | ⟨p, rfl, ht⟩ | ⟨p, localFrame, rfl, -, ht⟩ |
    ⟨hnet, hbroken⟩ | ⟨p, a', packets, hcontinues, -, rfl⟩
  · obtain ⟨-, hbroken, rfl⟩ := connect_eq_some ht
    intro hb
    rw [show s.broken = true from hb] at hbroken
    exact absurd hbroken (by simp)
  · obtain rfl := disconnect_eq_some ht
    intro _
    refine ⟨p, ?_⟩
    rw [show ((s.toNet.drop.put p ((s.side p).disconnect config)).side p) =
      (s.side p).disconnect config from Net.put_side_self _ _ _ _]
    exact connected_disconnect _
  · obtain ⟨packet, rest, -, -, rfl⟩ := receive_eq_some ht
    exact hact h (continues_receive _ _ _ _)
  · intro hb
    rw [hnet]
    exact h (hbroken ▸ hb)
  · exact hact h hcontinues

/-- Lockstep play with an input delay of two frames. -/
def lockstepConfig : Config where
  start := StartHandshake.exampleConfig
  delay := 2
  fits := by decide
  netplayOnly := true
  rollbackEnabled := false
  romLoop := false
  predictionHorizonFrames := 0
  sessionNonce := fun p => 2 * p.val + 1
  sessionNonce_pos := by
    intro p
    omega
  matchSeed := fun p => if p = 0 then some 77 else none

end Bigstar.Netplay.NetplaySession
