import Bigstar.Netplay.Proofs.ContiguousFrameProofs
import Bigstar.Netplay.Proofs.SessionProofs

/-!
# Inputs across a reconnect

A peer that validates the other one replays its local inputs from the frame on that the `Resume` of
the other one asks for, and from then on sends every input as it is sampled. So the frames that the
other peer has not received are in flight, in ascending order and without a gap. They stay so as
long as the other peer does not discard an input because it has not validated its side yet.
-/

namespace Bigstar.Netplay.NetplaySession

open OrderedMap InputTimeline InputDelivery RollbackRuntime RollbackStorage SessionProtocol
  SessionPolicy TwoParty

variable {config : Config}

/-! ## The statement -/

/-- The input of frame `f` has not reached `b`: the frame lies above the contiguous ones. Before `b`
has primed its epoch there are none; then the frames that priming is going to fill do not count. -/
def Missing (config : Config) (b : Peer) (f : Nat) : Prop :=
  match b.inputs.remoteInputEpochStartFrame with
  | some epoch => b.inputs.firstMissing epoch ≤ f
  | none => config.start.startFrame + config.delay ≤ f ∧ b.inputs.remoteInputs[f]? = none

/-- Whenever both peers have validated each other in the same generation, the inputs that one of
them has sent and the other one misses are in flight. -/
def NoInputLost (config : Config) (s : State) : Prop :=
  ∀ p, (s.side p).connected = true → (s.side (other p)).connected = true →
    (s.side p).generation = (s.side (other p)).generation →
    (s.side p).resumeValidated = true → (s.side (other p)).resumeValidated = true →
    (s.side p).stopped = false → (s.side (other p)).stopped = false →
    ∀ f v, (s.side p).inputs.localInputs[f]? = some v → Missing config (s.side (other p)) f →
      f ≤ (s.side p).inputs.lastSentInputFrame →
      .input { generation := (s.side p).generation, frame := f, input := v } ∈ s.sent p

/-- A peer that has not validated the other one discards no new input of its generation that comes
from a peer that has. -/
def InputsAdmitted (s : State) : Op → Prop
  | .receive p _ => ∀ packet rest, s.sent (other p) = .input packet :: rest →
      packet.generation = (s.side p).generation → (s.side (other p)).resumeValidated = true →
      (s.side p).resumeValidated = false → (s.side p).stopped = false →
        (s.side p).inputs.remoteInputs[packet.frame]?.isSome = true
  | _ => True

/-! ## The start handshake -/

/-- The epoch is the one of the host, and a peer that has heard of the other one's snapshot is not
ahead of it. -/
structure StartValid (config : StartHandshake.Config) (host : Bool) (otherGeneration : Nat)
    (a : StartHandshake.Peer) : Prop where
  connection : a.sharedLogicalEpoch = a.handshake.sharedLogicalEpoch
  epoch_le : a.handshake.sharedLogicalEpoch ≤ config.startFrame
  host : host = true → a.handshake.sharedLogicalEpoch = config.startFrame
  established : a.handshake.logicalEpochEstablished = true →
    a.handshake.sharedLogicalEpoch = config.startFrame ∧ 0 < config.startFrame
  remote : a.handshake.remoteReadyFrame.isSome = true →
    a.handshake.sharedLogicalEpoch = config.startFrame ∧ 0 < config.startFrame ∧
      a.handshake.generation ≤ otherGeneration

section Start

variable {start : StartHandshake.Config} {host : Bool} {g g' : Nat} {a a' : StartHandshake.Peer}

/-- What is valid in a generation stays so in later ones. -/
theorem StartValid.mono (h : StartValid start host g a) (hg : g ≤ g') :
    StartValid start host g' a := by
  refine ⟨h.connection, h.epoch_le, h.host, h.established, ?_⟩
  intro hr
  obtain ⟨h₁, h₂, h₃⟩ := h.remote hr
  exact ⟨h₁, h₂, h₃.trans hg⟩

/-- A change that keeps the epoch, and keeps or forgets what was received. -/
theorem StartValid.keep (h : StartValid start host g a)
    (hconnection : a'.sharedLogicalEpoch = a.sharedLogicalEpoch)
    (hepoch : a'.handshake.sharedLogicalEpoch = a.handshake.sharedLogicalEpoch)
    (hest : a'.handshake.logicalEpochEstablished = a.handshake.logicalEpochEstablished)
    (hgen : a'.handshake.generation = a.handshake.generation)
    (hremote : a'.handshake.remoteReadyFrame = none ∨
      a'.handshake.remoteReadyFrame = a.handshake.remoteReadyFrame) :
    StartValid start host g a' where
  connection := by rw [hconnection, hepoch, h.connection]
  epoch_le := hepoch ▸ h.epoch_le
  host hh := hepoch.trans (h.host hh)
  established he := by
    rw [hepoch]
    exact h.established (hest.symm.trans he)
  remote hr := by
    rw [hepoch, hgen]
    rcases hremote with hnone | hsame
    · rw [hnone] at hr
      exact absurd hr (by simp)
    · exact h.remote (hsame ▸ hr)

theorem StartValid.beginWait (h : StartValid start host g a) {snapshot : Message} {syncFrame : Nat}
    (ha' : a.beginWait snapshot syncFrame = some a') : StartValid start host g a' := by
  have hhandshakes := handshakes_beginWait ha'
  unfold StartHandshake.Peer.beginWait at ha'
  split at ha'
  · exact absurd ha' (by simp)
  · dsimp only at ha'
    set ready : Message := { snapshot with
      kind := .startReady
      generation := a.handshake.generation
      rawReadyFrame := syncFrame
      sharedLogicalEpoch := a.handshake.sharedLogicalEpoch } with hready
    have hbegin : (a.handshake.beginLocalReady ready).sharedLogicalEpoch =
          a.handshake.sharedLogicalEpoch ∧
        (a.handshake.beginLocalReady ready).logicalEpochEstablished =
          a.handshake.logicalEpochEstablished ∧
        (a.handshake.beginLocalReady ready).remoteReadyFrame = a.handshake.remoteReadyFrame := by
      unfold Runtime.beginLocalReady
      split
      · exact ⟨rfl, rfl, rfl⟩
      · split <;> exact ⟨rfl, rfl, rfl⟩
    split at ha'
    · obtain rfl := Option.some.inj ha'
      exact h.keep rfl hbegin.1 hbegin.2.1 hhandshakes.generation (Or.inr hbegin.2.2)
    · obtain rfl := Option.some.inj ha'
      exact h.keep rfl hbegin.1 hbegin.2.1 hhandshakes.generation (Or.inr hbegin.2.2)

theorem remoteReadyFrame_beginWait {snapshot : Message} {syncFrame : Nat}
    (ha' : a.beginWait snapshot syncFrame = some a') :
    a'.handshake.remoteReadyFrame = a.handshake.remoteReadyFrame := by
  have hbegin : ∀ ready, (a.handshake.beginLocalReady ready).remoteReadyFrame =
      a.handshake.remoteReadyFrame := by
    intro ready
    unfold Runtime.beginLocalReady
    split
    · rfl
    · split <;> rfl
  unfold StartHandshake.Peer.beginWait at ha'
  split at ha'
  · exact absurd ha' (by simp)
  · dsimp only at ha'
    split at ha'
    · obtain rfl := Option.some.inj ha'
      exact hbegin _
    · obtain rfl := Option.some.inj ha'
      exact hbegin _

theorem remoteReadyFrame_sendStartReady {force : Bool} {message : Message}
    (hsend : a.sendStartReady force = some (a', message)) :
    a'.handshake.remoteReadyFrame = a.handshake.remoteReadyFrame := by
  unfold StartHandshake.Peer.sendStartReady at hsend
  split at hsend
  · dsimp only at hsend
    split at hsend
    · obtain ⟨rfl, -⟩ := Prod.mk.inj (Option.some.inj hsend)
      rfl
    · exact absurd hsend (by simp)
  · exact absurd hsend (by simp)

/-- What is sent holds the generation of the sender and the configured epoch. -/
theorem StartValid.sendStartReady (h : StartValid start host g a) {force : Bool} {message : Message}
    (hsend : a.sendStartReady force = some (a', message)) :
    StartValid start host g a' ∧ message.generation = a.handshake.generation ∧
      message.sharedLogicalEpoch = start.startFrame ∧ 0 < start.startFrame := by
  unfold StartHandshake.Peer.sendStartReady at hsend
  split at hsend
  · dsimp only at hsend
    split at hsend
    · next hcan =>
      obtain ⟨rfl, rfl⟩ := Prod.mk.inj (Option.some.inj hsend)
      simp only [Bool.and_eq_true] at hcan
      exact ⟨h.keep rfl rfl rfl rfl (Or.inr rfl), rfl, h.established hcan.2⟩
    · exact absurd hsend (by simp)
  · exact absurd hsend (by simp)

/-- Messages of the other peer do not make the start invalid. -/
theorem StartValid.receiveStartReady (h : StartValid start host g a) {message : Message}
    (hgen : message.generation ≤ g) (hepoch : message.sharedLogicalEpoch = start.startFrame)
    (hpos : 0 < start.startFrame) : StartValid start host g (a.receiveStartReady host message) := by
  unfold StartHandshake.Peer.receiveStartReady
  split
  · exact h
  · next hcurrent =>
    push Not at hcurrent
    dsimp only
    set adopted : StartHandshake.Peer := if host then a else { a with
      handshake := a.handshake.adoptHostLogicalEpoch message.sharedLogicalEpoch
      sharedLogicalEpoch := message.sharedLogicalEpoch } with hadopted
    have hvalid : adopted.sharedLogicalEpoch = start.startFrame ∧
        adopted.handshake.sharedLogicalEpoch = start.startFrame ∧
        adopted.handshake.generation = a.handshake.generation := by
      rw [hadopted]
      split
      · next hhost => exact ⟨h.connection.trans (h.host hhost), h.host hhost, rfl⟩
      · exact ⟨hepoch, hepoch, rfl⟩
    obtain ⟨h₁, h₂, h₃⟩ := hvalid
    obtain ⟨remoteReadyFrame, remoteReady, after, heq, -⟩ :=
      StartHandshake.receiveRemoteReady_cases adopted.handshake message
    have hentered : ∀ b : StartHandshake.Peer, b.sharedLogicalEpoch = start.startFrame →
        b.handshake.sharedLogicalEpoch = start.startFrame →
        b.handshake.generation = a.handshake.generation → StartValid start host g b := by
      intro b hb₁ hb₂ hb₃
      refine ⟨hb₁.trans hb₂.symm, Nat.le_of_eq hb₂, fun _ => hb₂, fun _ => ⟨hb₂, hpos⟩, ?_⟩
      intro _
      refine ⟨hb₂, hpos, ?_⟩
      rw [hb₃, ← hcurrent]
      exact hgen
    rw [heq]
    split
    · exact hentered _ h₁ h₂ h₃
    · exact hentered _ h₁ h₂ h₃

theorem StartValid.beginGeneration (host : Bool) (generation : Nat) (a : StartHandshake.Peer) :
    StartValid start host g (a.beginGeneration start host generation) := by
  unfold StartHandshake.Peer.beginGeneration Runtime.beginGeneration Runtime.resetStartHandshake
  cases host with
  | false =>
    exact ⟨rfl, Nat.zero_le _, fun h => absurd h (by simp), fun h => absurd h (by simp),
      fun h => absurd h (by simp)⟩
  | true =>
    refine ⟨rfl, Nat.le_refl _, fun _ => rfl, ?_, fun h => absurd h (by simp)⟩
    intro hest
    simp only [Bool.true_and, bne_iff_ne, ne_eq, if_true] at hest
    exact ⟨rfl, Nat.pos_of_ne_zero hest⟩

end Start

/-! ## The invariant -/

/-- A `Resume` of the sender's generation asks for nothing that the sender misses. -/
def ResumeValid (a : Peer) (message : Message) : Prop :=
  message.generation ≤ a.generation ∧ (message.generation = a.generation →
    message.value = 0 ∨ ∃ highest, a.inputs.highestContiguousRemoteFrame = some highest ∧
      message.value ≤ highest)

/-- What the packets in flight from `a` say about it. -/
def PacketValid (config : Config) (a : Peer) : Packet → Prop
  | .input packet => packet.generation ≤ a.generation ∧ (packet.generation = a.generation →
      a.inputs.localInputs[packet.frame]? = some packet.input)
  | .session message =>
    (message.kind = .resume → ResumeValid a message) ∧
    (message.kind = .startReady → message.generation ≤ a.generation ∧
      message.sharedLogicalEpoch = config.start.startFrame ∧ 0 < config.start.startFrame)

/-- A `Resume` message never names more than was received. -/
theorem resume_value (a : Peer) (p : Fin 2) :
    (a.resume config p).value = 0 ∨ ∃ highest,
      a.inputs.highestContiguousRemoteFrame = some highest ∧
      (a.resume config p).value ≤ highest := by
  unfold Peer.resume
  dsimp only
  cases a.inputs.highestContiguousRemoteFrame with
  | none => exact Or.inl rfl
  | some highest => exact Or.inr ⟨highest, rfl, Nat.le_refl _⟩

/-- The invariant of one peer. -/
structure Sound (config : Config) (host : Bool) (otherGeneration : Nat) (a : Peer) : Prop where
  start : StartValid config.start host otherGeneration a.start
  ready : ∀ m, a.start.handshake.localReady = some m → m.kind = .startReady
  waiting : a.nextFrame = none → a.inputs.Waiting
  started : ∀ n, a.nextFrame = some n →
    Runtime.Started config.start.startFrame config.delay a.inputs n
  maximal : a.nextFrame.isSome = true → a.inputs.Maximal config.start.startFrame
  primed : a.nextFrame.isSome = true → ∀ f, config.start.startFrame ≤ f →
    f < config.start.startFrame + config.delay → a.inputs.remoteInputs[f]?.isSome = true
  waited : a.nextFrame.isSome = true → a.start.handshake.waitedForPeerAtStart = true ∧
    a.connectedOnce = true ∧ 0 < config.start.startFrame ∧ a.generation ≤ otherGeneration
  remote : a.start.handshake.remoteReadyFrame.isSome = true → a.connectedOnce = true
  once : a.connected = true → a.connectedOnce = true

/-- The remote inputs below `bound` have arrived, apart from the ones that priming fills in. -/
def Received (config : Config) (b : Peer) (bound : Nat) : Prop :=
  ∀ f, config.start.startFrame + config.delay ≤ f → f < bound →
    b.inputs.remoteInputs[f]?.isSome = true

/-- The frames of the inputs of one generation among the packets. -/
def frames (generation : Nat) (packets : List Packet) : List Nat :=
  packets.filterMap fun packet =>
    match packet with
    | .input framed => if framed.generation = generation then some framed.frame else none
    | .session _ => none

/-- The local inputs up to the next frame are with `b` up to some frame and in flight from
there on. -/
def Covers (config : Config) (generation next : Nat) (out : List Packet) (b : Peer) : Prop :=
  ∃ bound, bound ≤ next + config.delay ∧ Received config b bound ∧
    (List.range' bound (next + config.delay - bound)).Sublist (frames generation out)

/-- The invariant of one direction. -/
structure Direction (config : Config) (broken host : Bool) (a b : Peer) (out : List Packet)
    (unsequenced : List Message) : Prop where
  sound : Sound config host b.generation a
  packets : ∀ packet ∈ out, PacketValid config a packet
  resumes : ∀ message ∈ unsequenced, ResumeValid a message
  covers : a.connected = true → broken = false → a.stopped = false → a.resumeValidated = true →
    a.generation = b.generation → ∀ n, a.nextFrame = some n → Covers config a.generation n out b

/-- The invariant of the session. -/
def Resumable (config : Config) (s : State) : Prop :=
  ∀ p, Direction config s.broken (State.isHost p) (s.side p) (s.side (other p)) (s.sent p)
    (s.unsequenced p)

/-! ## A peer only grows within a generation -/

/-- Within a generation a peer only learns more. -/
structure Grows (config : Config) (a a' : Peer) : Prop where
  generation : a.generation ≤ a'.generation
  localInputs : a'.generation = a.generation → ∀ (f : Nat) (v : InputState),
    a.inputs.localInputs[f]? = some v → a'.inputs.localInputs[f]? = some v
  highest : a'.generation = a.generation →
    AtMost a.inputs.highestContiguousRemoteFrame a'.inputs.highestContiguousRemoteFrame
  received : a'.generation = a.generation → ∀ f, config.start.startFrame + config.delay ≤ f →
    a.inputs.remoteInputs[f]?.isSome = true → a'.inputs.remoteInputs[f]?.isSome = true

/-- Nothing is learnt where no input comes in. -/
theorem grows_of_inputs {a a' : Peer} (hgen : a'.generation = a.generation)
    (hinputs : a'.inputs = a.inputs) : Grows config a a' where
  generation := Nat.le_of_eq hgen.symm
  localInputs _ f v hv := by
    rw [hinputs]
    exact hv
  highest _ := by
    rw [hinputs]
    exact AtMost.refl _
  received _ f _ hf := by
    rw [hinputs]
    exact hf

/-- A `Resume` message stays true while its sender learns more. -/
theorem ResumeValid.grows {a a' : Peer} {message : Message} (h : ResumeValid a message)
    (hgrows : Grows config a a') : ResumeValid a' message := by
  refine ⟨h.1.trans hgrows.generation, ?_⟩
  intro hgen
  have hle := h.1
  have hge := hgrows.generation
  have hsame : a'.generation = a.generation := by omega
  refine (h.2 (by omega)).imp_right ?_
  rintro ⟨highest, hhighest, hvalue⟩
  obtain ⟨highest', hhighest', hle'⟩ := hgrows.highest hsame highest hhighest
  exact ⟨highest', hhighest', hvalue.trans hle'⟩

/-- A packet stays true while its sender learns more. -/
theorem PacketValid.grows {a a' : Peer} {packet : Packet} (h : PacketValid config a packet)
    (hgrows : Grows config a a') : PacketValid config a' packet := by
  cases packet with
  | input framed =>
    refine ⟨h.1.trans hgrows.generation, ?_⟩
    intro hgen
    have hle := h.1
    have hge := hgrows.generation
    exact hgrows.localInputs (by omega) _ _ (h.2 (by omega))
  | session message =>
    refine ⟨fun hkind => (h.1 hkind).grows hgrows, ?_⟩
    intro hkind
    obtain ⟨h₁, h₂⟩ := h.2 hkind
    exact ⟨h₁.trans hgrows.generation, h₂⟩

/-- What a peer has received it does not lose within a generation. -/
theorem Received.grows {b b' : Peer} {bound : Nat} (h : Received config b bound)
    (hgrows : Grows config b b') (hgen : b'.generation = b.generation) : Received config b' bound :=
  fun f h₁ h₂ => hgrows.received hgen f h₁ (h f h₁ h₂)

/-- The receiver goes on. -/
theorem Direction.receiver {broken host : Bool} {a b b' : Peer} {out : List Packet}
    {unsequenced : List Message} (h : Direction config broken host a b out unsequenced)
    (hgrows : Grows config b b') : Direction config broken host a b' out unsequenced where
  sound :=
    { h.sound with
      start := h.sound.start.mono hgrows.generation
      waited := by
        intro hn
        obtain ⟨h₁, h₂, h₃, h₄⟩ := h.sound.waited hn
        exact ⟨h₁, h₂, h₃, h₄.trans hgrows.generation⟩ }
  packets := h.packets
  resumes := h.resumes
  covers hc hb hs hv hgen n hn := by
    -- a started sender is not ahead of the receiver, so the receiver has stayed in its generation
    obtain ⟨-, -, -, hle⟩ := h.sound.waited (by rw [hn]; rfl)
    have hge := hgrows.generation
    obtain ⟨bound, h₁, h₂, h₃⟩ := h.covers hc hb hs hv (by omega) n hn
    exact ⟨bound, h₁, h₂.grows hgrows (by omega), h₃⟩

/-- The frames of two lots of packets, one after the other. -/
theorem frames_append (generation : Nat) (xs ys : List Packet) :
    frames generation (xs ++ ys) = frames generation xs ++ frames generation ys :=
  List.filterMap_append

/-- More packets cover as much. -/
theorem Covers.append {generation next : Nat} {out : List Packet} {b : Peer}
    (h : Covers config generation next out b) (packets : List Packet) :
    Covers config generation next (out ++ packets) b := by
  obtain ⟨bound, h₁, h₂, h₃⟩ := h
  refine ⟨bound, h₁, h₂, ?_⟩
  rw [frames_append]
  exact h₃.trans (List.sublist_append_left _ _)

/-- The oldest packet has arrived, or is none that matters. -/
theorem Covers.tail {generation next : Nat} {packet : Packet} {rest : List Packet} {b : Peer}
    (h : Covers config generation next (packet :: rest) b)
    (harrived : ∀ framed, packet = .input framed → framed.generation = generation →
      config.start.startFrame + config.delay ≤ framed.frame →
        b.inputs.remoteInputs[framed.frame]?.isSome = true) :
    Covers config generation next rest b := by
  obtain ⟨bound, hle, hreceived, hsub⟩ := h
  cases packet with
  | session message => exact ⟨bound, hle, hreceived, hsub⟩
  | input framed =>
    by_cases hgen : framed.generation = generation
    · have hcons : frames generation (.input framed :: rest) =
          framed.frame :: frames generation rest := by
        simp [frames, hgen]
      rw [hcons] at hsub
      cases hcount : next + config.delay - bound with
      | zero =>
        refine ⟨bound, hle, hreceived, ?_⟩
        rw [hcount]
        exact List.nil_sublist _
      | succ count =>
        rw [hcount, List.range'_succ] at hsub
        cases hsub with
        | cons _ hrest =>
          refine ⟨bound, hle, hreceived, ?_⟩
          rw [hcount, List.range'_succ]
          exact hrest
        | cons_cons _ hrest =>
          -- the first frame that was in flight is with `b` now
          refine ⟨framed.frame + 1, by omega, ?_, ?_⟩
          · intro f h₁ h₂
            by_cases hf : f = framed.frame
            · rw [hf]
              exact harrived framed rfl hgen (hf ▸ h₁)
            · exact hreceived f h₁ (by omega)
          · rw [show next + config.delay - (framed.frame + 1) = count by omega]
            exact hrest
    · have hcons : frames generation (.input framed :: rest) = frames generation rest := by
        simp [frames, hgen]
      rw [hcons] at hsub
      exact ⟨bound, hle, hreceived, hsub⟩

/-- Peer `p` may turn into `a'` and send `packets`. -/
structure Changes (config : Config) (s : State) (p : Fin 2) (a' : Peer) (packets : List Packet) :
    Prop where
  grows : Grows config (s.side p) a'
  sound : Sound config (State.isHost p) (s.side (other p)).generation a'
  valid : ∀ packet ∈ packets, PacketValid config a' packet
  covers : a'.connected = true → s.broken = false → a'.stopped = false →
    a'.resumeValidated = true → a'.generation = (s.side (other p)).generation →
      ∀ n, a'.nextFrame = some n →
        Covers config a'.generation n (s.sent p ++ packets) (s.side (other p))

/-- The one lemma for the steps of a peer: a change that sends what is true keeps the invariant. -/
theorem Changes.resumable {s : State} {p : Fin 2} {a' : Peer} {packets : List Packet}
    (h : Changes config s p a' packets) (hs : Resumable config s) :
    Resumable config (s.act p a' packets) := by
  have hin := hs (other p)
  rw [other_other] at hin
  have hresumes : ∀ message ∈ s.unsequenced p, ResumeValid a' message :=
    fun message hm => ((hs p).resumes message hm).grows h.grows
  intro q
  change Direction config s.broken (State.isHost q)
    ((s.toNet.put p a' (if s.broken then [] else packets)).side q)
    ((s.toNet.put p a' (if s.broken then [] else packets)).side (other q))
    ((s.toNet.put p a' (if s.broken then [] else packets)).sent q) (s.unsequenced q)
  rcases eq_or_eq_other p q with rfl | rfl
  · rw [Net.put_side_self, Net.put_side_other, Net.put_sent_self]
    refine ⟨h.sound, ?_, hresumes, ?_⟩
    · intro packet hmem
      rcases List.mem_append.mp hmem with hmem | hmem
      · exact ((hs q).packets packet hmem).grows h.grows
      · split at hmem
        · exact absurd hmem List.not_mem_nil
        · exact h.valid packet hmem
    · intro hc hb hst hv hgen n hn
      rw [if_neg (by rw [hb]; simp)]
      exact h.covers hc hb hst hv hgen n hn
  · rw [other_other, Net.put_side_self, Net.put_side_other, Net.put_sent_other]
    exact hin.receiver h.grows

/-! ## Events of the start handshake -/

/-- A change of the handshake within the generation. -/
theorem Resumable.start {s : State} (h : Resumable config s) {p : Fin 2}
    {start : StartHandshake.Peer} (hhandshakes : Handshakes (s.side p).start start)
    (hvalid : StartValid config.start (State.isHost p) (s.side (other p)).generation start)
    (hremote : start.handshake.remoteReadyFrame.isSome = true → (s.side p).connectedOnce = true)
    {packets : List Packet}
    (hpackets : ∀ packet ∈ packets, PacketValid config { s.side p with start } packet) :
    Changes config s p { s.side p with start } packets where
  grows := grows_of_inputs hhandshakes.generation rfl
  sound :=
    { start := hvalid
      ready := fun m hm => (hhandshakes.localReady m hm).elim id ((h p).sound.ready m)
      waiting := (h p).sound.waiting
      started := (h p).sound.started
      maximal := (h p).sound.maximal
      primed := (h p).sound.primed
      waited := by
        intro hn
        obtain ⟨h₁, h₂, h₃, h₄⟩ := (h p).sound.waited hn
        exact ⟨hhandshakes.waited h₁, h₂, h₃, (Nat.le_of_eq hhandshakes.generation).trans h₄⟩
      remote := hremote
      once := (h p).sound.once }
  valid := hpackets
  covers hc hb hs hv hgen n hn := by
    have hgeneration : Peer.generation { s.side p with start } = (s.side p).generation :=
      hhandshakes.generation
    rw [hgeneration] at hgen ⊢
    have hrunning := (steady_start hhandshakes).running hs
    exact ((h p).covers hc hb hrunning hv hgen n hn).append packets

theorem Resumable.beginWait {s : State} (h : Resumable config s) {p : Fin 2} {snapshot : Message}
    {syncFrame : Nat} {start : StartHandshake.Peer}
    (hstart : (s.side p).start.beginWait snapshot syncFrame = some start) :
    Changes config s p { s.side p with start } [] := by
  refine h.start (handshakes_beginWait hstart) ((h p).sound.start.beginWait hstart) ?_ ?_
  · intro hremote
    rw [remoteReadyFrame_beginWait hstart] at hremote
    exact (h p).sound.remote hremote
  · intro packet hmem
    exact absurd hmem List.not_mem_nil

theorem Resumable.timeout {s : State} (h : Resumable config s) {p : Fin 2}
    {start : StartHandshake.Peer} (hstart : (s.side p).start.timeout = some start) :
    Changes config s p { s.side p with start } [] := by
  have hhandshakes := handshakes_timeout hstart
  unfold StartHandshake.Peer.timeout at hstart
  split at hstart
  · exact absurd hstart (by simp)
  · obtain rfl := Option.some.inj hstart
    refine h.start hhandshakes ((h p).sound.start.keep rfl rfl rfl rfl (Or.inr rfl))
      (h p).sound.remote ?_
    intro packet hmem
    exact absurd hmem List.not_mem_nil

theorem Resumable.sendStartReady {s : State} (h : Resumable config s) {p : Fin 2} {force : Bool}
    {a' : Peer} {message : Message}
    (hsend : (s.side p).sendStartReady force = some (a', message)) :
    Changes config s p a' [.session message] := by
  have hkind := kind_sendStartReady hsend (h p).sound.ready
  unfold Peer.sendStartReady at hsend
  split at hsend
  · obtain ⟨⟨start, m⟩, hstart, heq⟩ := Option.map_eq_some_iff.mp hsend
    obtain ⟨rfl, rfl⟩ := Prod.mk.inj heq
    obtain ⟨hvalid, hgen, hepoch, hpos⟩ := (h p).sound.start.sendStartReady hstart
    have hhandshakes := handshakes_sendStartReady hstart
    refine h.start hhandshakes hvalid ?_ ?_
    · intro hremote
      rw [remoteReadyFrame_sendStartReady hstart] at hremote
      exact (h p).sound.remote hremote
    · intro packet hmem
      obtain rfl := List.mem_singleton.mp hmem
      refine ⟨fun hk => absurd (hkind.symm.trans hk) (by simp), fun _ => ⟨?_, hepoch, hpos⟩⟩
      exact Nat.le_of_eq (hgen.trans hhandshakes.generation.symm)
  · exact absurd hsend (by simp)

theorem Resumable.sendMatchSeed {s : State} (h : Resumable config s) {p : Fin 2} {a' : Peer}
    {message : Message} (hsend : (s.side p).sendMatchSeed (State.isHost p) = some (a', message)) :
    Changes config s p a' [.session message] := by
  obtain ⟨-, -, hcontinues, hkind, -, rfl⟩ := sendMatchSeed_eq_some hsend
  refine ⟨grows_of_inputs rfl rfl, ?_, ?_, ?_⟩
  · exact
      { start := (h p).sound.start.keep rfl rfl rfl rfl (Or.inr rfl)
        ready := (h p).sound.ready
        waiting := (h p).sound.waiting
        started := (h p).sound.started
        maximal := (h p).sound.maximal
        primed := (h p).sound.primed
        waited := (h p).sound.waited
        remote := (h p).sound.remote
        once := (h p).sound.once }
  · intro packet hmem
    obtain rfl := List.mem_singleton.mp hmem
    exact ⟨fun hk => absurd (hkind.symm.trans hk) (by simp),
      fun hk => absurd (hkind.symm.trans hk) (by simp)⟩
  · intro hc hb hs hv hgen n hn
    exact ((h p).covers hc hb hs hv hgen n hn).append _

/-! ## Accepting, and a new generation -/

/-- A started side has nothing to send yet when it has just primed its epoch. -/
theorem covers_primed (generation : Nat) (out : List Packet) (b : Peer) :
    Covers config generation config.start.startFrame out b := by
  refine ⟨config.start.startFrame + config.delay, Nat.le_refl _, fun f h₁ h₂ => by omega, ?_⟩
  rw [Nat.sub_self]
  exact List.nil_sublist _

/-- The start is accepted, and the inputs are primed. -/
theorem Resumable.accept {s : State} (h : Resumable config s) {p : Fin 2}
    (hnot : (s.side p).start.handshake.waitedForPeerAtStart = false)
    (hremote : (s.side p).start.handshake.remoteReadyFrame.isSome = true)
    {start : StartHandshake.Peer} (hhandshakes : Handshakes (s.side p).start start)
    (hvalid : StartValid config.start (State.isHost p) (s.side (other p)).generation start)
    (hepoch : start.sharedLogicalEpoch = (s.side p).start.sharedLogicalEpoch)
    (hwaited : start.handshake.waitedForPeerAtStart = true) :
    Changes config s p { s.side p with
      start
      inputs := (s.side p).inputs.primeEpoch start.sharedLogicalEpoch config.delay
        neutralInput kNoFrame
      nextFrame := some start.sharedLogicalEpoch } [] := by
  have hsound := (h p).sound
  obtain ⟨hstartFrame, hpos, hle⟩ := hsound.start.remote hremote
  have hstart : start.sharedLogicalEpoch = config.start.startFrame :=
    hepoch.trans (hsound.start.connection.trans hstartFrame)
  have hnone : (s.side p).nextFrame = none := by
    by_contra hne
    rw [(hsound.waited (Option.isSome_iff_ne_none.mpr hne)).1] at hnot
    exact absurd hnot (by simp)
  have hw := hsound.waiting hnone
  rw [hstart]
  have hprimed := Runtime.primed_primeEpoch (s.side p).inputs neutralInput kNoFrame config.fits
  refine ⟨⟨Nat.le_of_eq hhandshakes.generation.symm, ?_, ?_, ?_⟩, ?_, ?_, ?_⟩
  · intro _ f v hv
    rw [hw.localInputs f] at hv
    exact absurd hv (by simp)
  · intro _
    rw [hw.highest]
    exact atMost_none _
  · intro _ f hf hsome
    dsimp only
    rw [hprimed.remoteInputs f, if_pos (by omega), if_neg (by omega)]
    exact hsome
  · refine ⟨hvalid, ?_, fun hn => absurd hn (by simp), ?_, fun _ => hprimed.maximal, ?_, ?_, ?_,
      hsound.once⟩
    · intro m hm
      exact (hhandshakes.localReady m hm).elim id (hsound.ready m)
    · intro n hn
      obtain rfl := Option.some.inj hn
      exact hw.started_of_primed hprimed config.fits
    · intro _ f h₁ h₂
      dsimp only
      rw [hprimed.remoteInputs f, if_pos h₁]
      split
      · rfl
      · next hnot =>
        exact Option.isSome_iff_ne_none.mpr fun hnone => hnot ⟨hnone, h₂⟩
    · intro _
      exact ⟨hwaited, hsound.remote hremote, hpos, (Nat.le_of_eq hhandshakes.generation).trans hle⟩
    · intro _
      exact hsound.remote hremote
  · intro packet hmem
    exact absurd hmem List.not_mem_nil
  · intro _ _ _ _ _ n hn
    obtain rfl := Option.some.inj hn
    exact covers_primed _ _ _

/-- A round that does not end the wait changes nothing. -/
theorem Resumable.waitRound {s : State} (h : Resumable config s) {p : Fin 2} {a' : Peer}
    (ha' : (s.side p).waitRound config = some a') : Changes config s p a' [] := by
  obtain ⟨start, hstart, rfl⟩ := Option.map_eq_some_iff.mp ha'
  have hhandshakes := handshakes_waitRound hstart
  have hnothing : ∀ packet ∈ ([] : List Packet),
      PacketValid config { s.side p with start } packet :=
    fun packet hmem => absurd hmem List.not_mem_nil
  obtain ⟨hnot, rfl | rfl | ⟨hremote, accepted, rfl⟩⟩ := waitRound_cases hstart
  · rw [if_neg (by rw [hnot]; simp)]
    exact h.start hhandshakes
      ((h p).sound.start.keep rfl rfl rfl rfl (Or.inr rfl)) (h p).sound.remote
      hnothing
  · rw [if_neg (by rw [hnot]; simp)]
    exact h.start hhandshakes (h p).sound.start (h p).sound.remote hnothing
  · split
    · exact h.accept hnot hremote hhandshakes
        ((h p).sound.start.keep rfl rfl rfl rfl (Or.inr rfl)) rfl rfl
    · next hno => exact absurd rfl hno

/-- Nothing in flight belongs to a new generation. -/
theorem Resumable.beginGeneration {s : State} (h : Resumable config s) (p : Fin 2) :
    Changes config s p ((s.side p).beginGeneration config (State.isHost p)) [] := by
  have hne : ((s.side p).beginGeneration config (State.isHost p)).generation ≠
      (s.side p).generation := Nat.succ_ne_self _
  refine ⟨⟨Nat.le_succ _, fun hg => absurd hg hne, fun hg => absurd hg hne,
    fun hg => absurd hg hne⟩, ?_, ?_, ?_⟩
  · refine ⟨StartValid.beginGeneration _ _ _, fun m hm => absurd hm (by
      simp [Peer.beginGeneration, StartHandshake.Peer.beginGeneration, Runtime.beginGeneration,
        Runtime.resetStartHandshake]), ?_, fun n hn => absurd hn (by simp [Peer.beginGeneration]),
      fun hn => absurd hn (by simp [Peer.beginGeneration]),
      fun hn => absurd hn (by simp [Peer.beginGeneration]),
      fun hn => absurd hn (by simp [Peer.beginGeneration]), fun hr => absurd hr (by
      simp [Peer.beginGeneration, StartHandshake.Peer.beginGeneration, Runtime.beginGeneration,
        Runtime.resetStartHandshake]), (h p).sound.once⟩
    intro _
    exact ⟨fun f => by simp [Peer.beginGeneration, Runtime.resetForRestart], rfl, rfl, rfl⟩
  · intro packet hmem
    exact absurd hmem List.not_mem_nil
  · intro _ _ _ _ _ n hn
    exact absurd hn (by simp [Peer.beginGeneration])

/-! ## Sampling and resending -/

theorem frames_singleton (generation frame : Nat) (input : InputState) :
    frames generation [.input { generation, frame, input }] = [frame] := by
  simp [frames]

/-- One more frame is sent behind the ones in flight. -/
theorem Covers.snoc {generation next : Nat} {out : List Packet} {b : Peer}
    (h : Covers config generation next out b) (input : InputState) :
    Covers config generation (next + 1)
      (out ++ [.input { generation, frame := next + config.delay, input }]) b := by
  obtain ⟨bound, h₁, h₂, h₃⟩ := h
  refine ⟨bound, by omega, h₂, ?_⟩
  rw [frames_append, frames_singleton,
    show next + 1 + config.delay - bound = (next + config.delay - bound) + 1 by omega,
    List.range'_concat,
    show bound + 1 * (next + config.delay - bound) = next + config.delay by omega]
  exact h₃.append (List.Sublist.refl _)

/-- The input of the next frame is recorded. -/
theorem Sound.recorded {host : Bool} {g n : Nat} {a : Peer} (h : Sound config host g a)
    (hn : a.nextFrame = some n) (hfits : n + config.delay ≤ u32Max) (input : InputState)
    {inputs : InputTimeline.Runtime}
    (hrecorded : Runtime.Recorded a.inputs inputs (n + config.delay) input) :
    Sound config host g { a with inputs, nextFrame := some (n + 1) } where
  start := h.start
  ready := h.ready
  waiting hnone := absurd hnone (by simp)
  started m hm := by
    obtain rfl := Option.some.inj hm
    exact (h.started n hn).recorded hrecorded hfits
  maximal _ := by
    have hmax := h.maximal (by rw [hn]; rfl)
    unfold Runtime.Maximal Runtime.firstMissing at hmax ⊢
    rw [hrecorded.highest, hrecorded.remoteInputs]
    exact hmax
  primed _ f h₁ h₂ := by
    dsimp only
    rw [hrecorded.remoteInputs]
    exact h.primed (by rw [hn]; rfl) f h₁ h₂
  waited _ := h.waited (by rw [hn]; rfl)
  remote := h.remote
  once := h.once

/-- Recording an input learns one. -/
theorem grows_recorded {host : Bool} {g n : Nat} {a : Peer} (h : Sound config host g a)
    (hn : a.nextFrame = some n) {input : InputState} {inputs : InputTimeline.Runtime}
    (hrecorded : Runtime.Recorded a.inputs inputs (n + config.delay) input) :
    Grows config a { a with inputs, nextFrame := some (n + 1) } where
  generation := Nat.le_refl _
  localInputs _ f v hv := (h.started n hn).getElem?_recorded hrecorded hv
  highest _ := by
    dsimp only
    rw [hrecorded.highest]
    exact AtMost.refl _
  received _ f _ hf := by
    dsimp only
    rw [hrecorded.remoteInputs]
    exact hf

/-- An input is recorded, and sent if the other peer is there. -/
theorem Resumable.sample {s : State} (h : Resumable config s) {p : Fin 2} {input : InputState}
    {a' : Peer} {packets : List Packet}
    (hsample : (s.side p).sample config input = some (a', packets)) :
    Changes config s p a' packets := by
  have hsound := (h p).sound
  unfold Peer.sample at hsample
  split at hsample
  · exact absurd hsample (by simp)
  · next n hn =>
    dsimp only at hsample
    split at hsample
    · exact absurd hsample (by simp)
    · next hfits =>
      have hfits' : n + config.delay ≤ u32Max := Nat.le_of_not_lt hfits
      split at hsample
      · next hguard =>
        simp only [Bool.and_eq_true] at hguard
        obtain ⟨rfl, rfl⟩ := Prod.mk.inj (Option.some.inj hsample)
        have hrecorded : Runtime.Recorded (s.side p).inputs
            { (s.side p).inputs with
              localInputs := (s.side p).inputs.localInputs.insert (n + config.delay) input
              lastSentInputFrame := n + config.delay }
                (n + config.delay) input := ⟨rfl, rfl, rfl, rfl⟩
        refine ⟨grows_recorded hsound hn hrecorded,
          hsound.recorded hn hfits' input hrecorded, ?_, ?_⟩
        · intro packet hmem
          obtain rfl := List.mem_singleton.mp hmem
          refine ⟨Nat.le_refl _, fun _ => ?_⟩
          dsimp only
          rw [getElem?_insert_eq, if_pos rfl]
        · intro hc hb hs hv hgen m hm
          obtain rfl := Option.some.inj hm
          exact ((h p).covers hc hb hs hv hgen n hn).snoc input
      · next hguard =>
        obtain ⟨rfl, rfl⟩ := Prod.mk.inj (Option.some.inj hsample)
        have hrecorded : Runtime.Recorded (s.side p).inputs
            { (s.side p).inputs with
              localInputs := (s.side p).inputs.localInputs.insert (n + config.delay) input }
            (n + config.delay) input := ⟨rfl, rfl, rfl, rfl⟩
        refine ⟨grows_recorded hsound hn hrecorded,
          hsound.recorded hn hfits' input hrecorded, ?_, ?_⟩
        · intro packet hmem
          exact absurd hmem List.not_mem_nil
        · intro hc _ _ hv
          exact absurd (by simp [show (s.side p).connected = true from hc,
            show (s.side p).resumeValidated = true from hv]) hguard

/-- The peer stays what it is and sends more. -/
theorem Resumable.same {s : State} (h : Resumable config s) (p : Fin 2) {packets : List Packet}
    (hpackets : ∀ packet ∈ packets, PacketValid config (s.side p) packet) :
    Changes config s p (s.side p) packets where
  grows := grows_of_inputs rfl rfl
  sound := (h p).sound
  valid := hpackets
  covers hc hb hs hv hgen n hn := ((h p).covers hc hb hs hv hgen n hn).append packets

/-- What is sent again is true. -/
theorem Resumable.resendLatestInput {s : State} (h : Resumable config s)
    {p : Fin 2} {packet : Packet} (hresend : (s.side p).resendLatestInput = some packet) :
    Changes config s p (s.side p) [packet] := by
  unfold Peer.resendLatestInput at hresend
  split at hresend
  · obtain ⟨input, hinput, rfl⟩ := Option.map_eq_some_iff.mp hresend
    refine h.same p ?_
    intro packet hmem
    obtain rfl := List.mem_singleton.mp hmem
    exact ⟨Nat.le_refl _, fun _ => hinput⟩
  · exact absurd hresend (by simp)

/-! ## Resuming -/

/-- A replay sends the recorded inputs after a frame. -/
theorem frames_replay (a : Peer) (value : Nat) :
    frames a.generation (a.replay value) =
      (a.inputs.localInputs.entriesAfter value).map Prod.fst := by
  unfold frames Peer.replay
  rw [List.filterMap_map, ← List.filterMap_eq_map]
  congr 1
  funext entry
  simp

/-- The replay fills the gap between what the other peer has received and the next frame. -/
theorem covers_replay {host host' : Bool} {g g' n value : Nat} {a b : Peer}
    (ha : Sound config host g a) (hb : Sound config host' g' b) (hn : a.nextFrame = some n)
    (hlast : ¬ (a.inputs.localInputs.lastKey.any fun last => decide (last < value)) = true)
    (hvalue : value = 0 ∨ ∃ highest, b.inputs.highestContiguousRemoteFrame = some highest ∧
      value ≤ highest) (out : List Packet) :
    Covers config a.generation n (out ++ a.replay value) b := by
  have hstarted := ha.started n hn
  obtain ⟨-, -, hpos, -⟩ := ha.waited (by rw [hn]; rfl)
  have hepoch := hstarted.epoch_le
  have hframes : frames a.generation (out ++ a.replay value) = frames a.generation out ++
      List.range' (max (value + 1) config.start.startFrame)
        (n + config.delay - max (value + 1) config.start.startFrame) := by
    rw [frames_append, frames_replay, map_fst_entriesAfter hstarted.localInputs]
  by_cases hempty : n + config.delay ≤ config.start.startFrame
  · -- nothing has been recorded
    refine ⟨n + config.delay, Nat.le_refl _, fun f h₁ h₂ => by omega, ?_⟩
    rw [Nat.sub_self]
    exact List.nil_sublist _
  · have hvalueLt : value < n + config.delay := by
      obtain ⟨v, hv⟩ := (hstarted.localInputs config.start.startFrame).mpr ⟨Nat.le_refl _, by omega⟩
      obtain ⟨last, w, hkey, hw, -⟩ := le_lastKey hv
      rw [hkey] at hlast
      have hlt := ((hstarted.localInputs last).mp ⟨w, hw⟩).2
      simp only [Option.any_some, decide_eq_true_eq] at hlast
      omega
    refine ⟨max (value + 1) config.start.startFrame, by omega, ?_, ?_⟩
    · intro f h₁ h₂
      have hle : f ≤ value := by omega
      rcases hvalue with hzero | ⟨highest, hhighest, hmax⟩
      · omega
      · -- the other peer has started, since it has contiguous frames
        cases hbn : b.nextFrame with
        | none =>
          rw [(hb.waiting hbn).highest] at hhighest
          exact absurd hhighest (by simp)
        | some m =>
          obtain ⟨input, hinput⟩ :=
            ((hb.started m hbn).contiguous highest hhighest).2 f (by omega) (by omega)
          rw [hinput]
          rfl
    · rw [hframes]
      exact List.sublist_append_right _ _

/-- All of a replay is true. -/
theorem packetValid_replay (a : Peer) (value : Nat) :
    ∀ packet ∈ a.replay value, PacketValid config a packet := by
  intro packet hmem
  obtain ⟨⟨frame, input⟩, hentry, rfl⟩ := List.mem_map.mp hmem
  exact ⟨Nat.le_refl _, fun _ => (mem_entriesAfter.mp hentry).1⟩

/-- Only the last frame that was sent changes, and only if something was. -/
theorem Sound.resumed {host : Bool} {g value nonce : Nat} {validated failed : Bool} {a : Peer}
    (h : Sound config host g a) :
    Sound config host g { a with
      inputs := { a.inputs with
        lastSentInputFrame := (a.inputs.localInputs.entriesAfter value).foldl
          (fun _ entry => entry.1) a.inputs.lastSentInputFrame }
      resumeValidated := validated
      remoteSessionNonce := nonce
      recoveryFailed := failed } where
  start := h.start
  ready := h.ready
  waiting hnone := by
    have hw := h.waiting hnone
    have hnil : a.inputs.localInputs.entriesAfter value = [] := by
      rw [List.eq_nil_iff_forall_not_mem]
      intro entry hentry
      have hv := (mem_entriesAfter.mp hentry).1
      rw [hw.localInputs entry.1] at hv
      exact absurd hv (by simp)
    refine ⟨hw.localInputs, ?_, hw.epochStart, hw.highest⟩
    dsimp only
    rw [hnil]
    exact hw.lastSent
  started n hn := by
    have hs := h.started n hn
    exact ⟨hs.epoch_le, hs.fits, hs.localInputs, hs.neutral, hs.epochStart, hs.contiguous⟩
  maximal := h.maximal
  primed := h.primed
  waited := h.waited
  remote := h.remote
  once := h.once

/-- The flags of the connection are no part of the invariant of a peer. -/
theorem Sound.flags {host : Bool} {g : Nat} {a : Peer} (h : Sound config host g a)
    (validated failed : Bool) (nonce : Nat) :
    Sound config host g { a with
      resumeValidated := validated, remoteSessionNonce := nonce, recoveryFailed := failed } :=
  ⟨h.start, h.ready, h.waiting, h.started, h.maximal, h.primed, h.waited, h.remote, h.once⟩

/-- The process ends. -/
theorem Resumable.fail {s : State} (h : Resumable config s) (p : Fin 2) (validated : Bool)
    (nonce : Nat) :
    Changes config s p { s.side p with
      resumeValidated := validated, remoteSessionNonce := nonce, recoveryFailed := true } [] where
  grows := grows_of_inputs rfl rfl
  sound := (h p).sound.flags validated true nonce
  valid _ hmem := absurd hmem List.not_mem_nil
  covers _ _ hs := absurd hs (by simp [Peer.stopped])

/-- The other peer's nonce is noted. -/
theorem Resumable.nonce {s : State} (h : Resumable config s) (p : Fin 2) (nonce : Nat) :
    Changes config s p { s.side p with remoteSessionNonce := nonce } [] where
  grows := grows_of_inputs rfl rfl
  sound := (h p).sound.flags _ _ nonce
  valid _ hmem := absurd hmem List.not_mem_nil
  covers hc hb hs hv hgen n hn := ((h p).covers hc hb hs hv hgen n hn).append []

/-- The replay closes the gap that the lost connection has left. -/
theorem Resumable.resumeFrom {s : State} (h : Resumable config s) (p : Fin 2) (nonce value : Nat)
    (hvalue : (s.side p).generation = (s.side (other p)).generation → value = 0 ∨
      ∃ highest, (s.side (other p)).inputs.highestContiguousRemoteFrame = some highest ∧
        value ≤ highest) :
    Changes config s p
      ({ s.side p with remoteSessionNonce := nonce, resumeValidated := true }.resumeFrom value).1
      ({ s.side p with remoteSessionNonce := nonce, resumeValidated := true }.resumeFrom
        value).2 := by
  unfold Peer.resumeFrom
  dsimp only
  split
  · exact h.fail p true nonce
  · next hlast =>
    split
    · exact h.fail p true nonce
    · refine ⟨?_, (h p).sound.resumed, ?_, ?_⟩
      · exact ⟨Nat.le_refl _, fun _ f v hv => hv, fun _ => AtMost.refl _, fun _ f _ hf => hf⟩
      · exact packetValid_replay (s.side p) value
      · intro _ _ _ _ hgen n hn
        exact covers_replay (h p).sound (h (other p)).sound hn hlast (hvalue hgen) (s.sent p)

/-- A `Resume` message is checked before it is answered with a replay. -/
theorem Resumable.receiveResume {s : State} (h : Resumable config s) (p : Fin 2) {message : Message}
    (hmessage : ResumeValid (s.side (other p)) message) :
    Changes config s p ((s.side p).receiveResume config message).1
      ((s.side p).receiveResume config message).2 := by
  have hnothing : ∀ packet ∈ ([] : List Packet), PacketValid config (s.side p) packet :=
    fun packet hmem => absurd hmem List.not_mem_nil
  unfold Peer.receiveResume
  split
  · exact h.same p hnothing
  · split
    · exact h.fail p _ _
    · dsimp only
      split
      · exact h.nonce p _
      · next hgen =>
        push Not at hgen
        split
        · exact h.nonce p _
        · split
          · exact h.fail p _ _
          · refine h.resumeFrom p _ _ ?_
            intro hsame
            exact hmessage.2 (hgen.trans hsame)

/-! ## Receiving -/

theorem Resumable.receiveStartReady {s : State} (h : Resumable config s)
    {p : Fin 2} {message : Message} (hconnected : (s.side p).connected = true)
    (hgen : message.generation ≤ (s.side (other p)).generation)
    (hepoch : message.sharedLogicalEpoch = config.start.startFrame)
    (hpos : 0 < config.start.startFrame) :
    Changes config s p
      { s.side p with start := (s.side p).start.receiveStartReady (State.isHost p) message }
        [] := by
  refine h.start (handshakes_receiveStartReady _ _ _)
    ((h p).sound.start.receiveStartReady hgen hepoch hpos) (fun _ => (h p).sound.once hconnected) ?_
  intro packet hmem
  exact absurd hmem List.not_mem_nil

/-- The timeline after an input has arrived. -/
theorem stored_delivery (a : Peer) (rollbackEnabled : Bool) (localFrame : Nat)
    (packet : FramedInput) :
    Runtime.Stored a.inputs
      (a.delivery.receive a.generation rollbackEnabled localFrame (.input packet)).inputs
      [(packet.frame, packet.input)] := by
  unfold InputDelivery.Peer.receive
  dsimp only
  split
  · exact Runtime.stored_storeRemoteInputLocked _ _ _ _ _
  · exact Runtime.stored_self _ _

/-- An input that arrives fills the next gap of the receiver. -/
theorem Resumable.receiveInput {s : State} (h : Resumable config s) (p : Fin 2)
    {inputs : InputTimeline.Runtime} {entries : List (Nat × InputState)}
    (hstored : Runtime.Stored (s.side p).inputs inputs entries) :
    Changes config s p { s.side p with inputs } [] where
  grows :=
    { generation := Nat.le_refl _
      localInputs := fun _ f v hv => by
        dsimp only
        rw [hstored.localInputs]
        exact hv
      highest := fun _ => hstored.highest
      received := fun _ f _ hf => hstored.present f hf }
  sound :=
    { start := (h p).sound.start
      ready := (h p).sound.ready
      waiting := fun hn => ((h p).sound.waiting hn).stored hstored
      started := fun n hn => ((h p).sound.started n hn).stored hstored
      maximal := by
        intro hn
        obtain ⟨n, hn'⟩ := Option.isSome_iff_exists.mp hn
        exact hstored.maximal _ ((h p).sound.started n hn').epochStart ((h p).sound.maximal hn)
      primed := fun hn f h₁ h₂ => hstored.present f ((h p).sound.primed hn f h₁ h₂)
      waited := (h p).sound.waited
      remote := (h p).sound.remote
      once := (h p).sound.once }
  valid _ hmem := absurd hmem List.not_mem_nil
  covers hc hb hs hv hgen n hn := ((h p).covers hc hb hs hv hgen n hn).append []

theorem Resumable.matchSeed {s : State} (h : Resumable config s) (p : Fin 2)
    (matchSeed : Option Nat) :
    Changes config s p { s.side p with matchSeed } [] where
  grows := grows_of_inputs rfl rfl
  sound :=
    ⟨(h p).sound.start, (h p).sound.ready, (h p).sound.waiting, (h p).sound.started,
      (h p).sound.maximal, (h p).sound.primed, (h p).sound.waited,
      (h p).sound.remote, (h p).sound.once⟩
  valid _ hmem := absurd hmem List.not_mem_nil
  covers hc hb hs hv hgen n hn := ((h p).covers hc hb hs hv hgen n hn).append []

/-- Whatever arrives, the invariant is kept. -/
theorem Resumable.receivePacket {s : State} (h : Resumable config s) {p : Fin 2} (localFrame : Nat)
    {packet : Packet} (hconnected : (s.side p).connected = true)
    (hpacket : PacketValid config (s.side (other p)) packet) :
    Changes config s p ((s.side p).receive config (State.isHost p) localFrame packet).1
      ((s.side p).receive config (State.isHost p) localFrame packet).2 := by
  have hsame : Changes config s p (s.side p) [] :=
    h.same p fun packet hmem => absurd hmem List.not_mem_nil
  cases packet with
  | input framed =>
    unfold Peer.receive
    dsimp only
    split
    · exact h.receiveInput p (stored_delivery _ _ _ _)
    · exact hsame
  | session message =>
    change Changes config s p ((s.side p).receiveSession config (State.isHost p) message).1
      ((s.side p).receiveSession config (State.isHost p) message).2
    unfold Peer.receiveSession
    split
    · next hkind => exact h.receiveResume p (hpacket.1 hkind)
    · split
      · exact h.matchSeed p _
      · exact hsame
    · next hkind =>
      obtain ⟨hgen, hepoch, hpos⟩ := hpacket.2 hkind
      split
      · exact h.receiveStartReady hconnected hgen hepoch hpos
      · exact hsame

/-- The arrival of the oldest packet. -/
theorem Resumable.receive {s t : State} (h : Resumable config s) {p : Fin 2} {localFrame : Nat}
    (hok : InputsAdmitted s (.receive p localFrame)) (hrunning : (s.side p).stopped = false)
    (ht : s.receive config p localFrame = some t) : Resumable config t := by
  obtain ⟨packet, rest, hsent, hconnected, rfl⟩ := receive_eq_some ht
  have hin := h (other p)
  rw [other_other] at hin
  have hpacket := hin.packets packet (hsent ▸ List.mem_cons_self)
  have hchanges := h.receivePacket localFrame hconnected hpacket
  set a' := ((s.side p).receive config (State.isHost p) localFrame packet).1 with ha'
  set packets := ((s.side p).receive config (State.isHost p) localFrame packet).2 with hpackets
  have hacted := hchanges.resumable h
  rw [act_remain]
  have hself := act_side_self s p a' packets
  have hother := act_side_other s p a' packets
  have hchannel : (s.act p a' packets).sent (other p) = packet :: rest :=
    (Net.put_sent_other _ _ _ _).trans hsent
  intro q
  rcases eq_or_eq_other p q with rfl | rfl
  · have hdirection := hacted q
    refine ⟨hdirection.sound, ?_, hdirection.resumes, ?_⟩
    · intro x hx
      rw [show ((s.act q a' packets).toNet.remain (other q) rest).sent q =
        (s.act q a' packets).sent q from Net.remain_sent_other _ _ _] at hx
      exact hdirection.packets x hx
    · intro hc hb hs hv hgen n hn
      rw [show ((s.act q a' packets).toNet.remain (other q) rest).sent q =
        (s.act q a' packets).sent q from Net.remain_sent_other _ _ _]
      exact hdirection.covers hc hb hs hv hgen n hn
  · have hdirection := hacted (other p)
    rw [other_other, hself, hother, hchannel] at hdirection
    change Direction config s.broken (State.isHost (other p)) ((s.act p a' packets).side (other p))
      ((s.act p a' packets).side (other (other p)))
      (((s.act p a' packets).toNet.remain (other p) rest).sent (other p)) (s.unsequenced (other p))
    rw [other_other, hself, hother, Net.remain_sent_self]
    refine ⟨hdirection.sound, fun x hx => hdirection.packets x (List.mem_cons_of_mem _ hx),
      hdirection.resumes, ?_⟩
    intro hc hb hs hv hgen n hn
    refine (hdirection.covers hc hb hs hv hgen n hn).tail ?_
    rintro framed rfl hframed hframe
    -- the packet has been stored, or was there already
    have hgeneration : a'.generation = (s.side p).generation := by
      rw [ha']
      unfold Peer.receive
      dsimp only
      split <;> rfl
    have hcurrent : framed.generation = (s.side p).generation :=
      hframed.trans (hgen.trans hgeneration)
    by_cases hvalidated : (s.side p).resumeValidated = true
    · have hstored : a' = { s.side p with
        inputs := ((s.side p).delivery.receive (s.side p).generation
          config.rollbackEnabled localFrame (.input framed)).inputs } := by
        rw [ha']
        unfold Peer.receive
        dsimp only
        rw [if_pos hvalidated]
      rw [hstored]
      dsimp only [InputDelivery.Peer.receive]
      rw [if_pos hcurrent]
      refine Runtime.isSome_storeRemoteInputLocked _ _ _ _
        { frame := framed.frame, input := framed.input } ?_
      have hepoch := (h p).sound.start.epoch_le
      rw [← (h p).sound.start.connection] at hepoch
      change (s.side p).start.sharedLogicalEpoch ≤ framed.frame
      omega
    · have hunvalidated : (s.side p).resumeValidated = false := by simpa using hvalidated
      have hsome := hok framed rest hsent hcurrent hv hunvalidated hrunning
      exact hchanges.grows.received hgeneration framed.frame hframe hsome

/-! ## The connection -/

/-- A new connection: everything from before it has been lost, and nobody has been validated. -/
theorem Resumable.connect {s t : State} (h : Resumable config s)
    (hrecovery : config.recoveryEnabled = true) {p : Fin 2} (ht : s.connect config p = some t) :
    Resumable config t := by
  obtain ⟨-, -, rfl⟩ := connect_eq_some ht
  have hsound := (h p).sound
  refine Changes.resumable ?_ h
  have hgrows : Grows config (s.side p) ((s.side p).connect config p).1 := by
    refine grows_of_inputs ?_ ?_
    · dsimp only [Peer.connect]
      split <;> rfl
    · dsimp only [Peer.connect]
      split <;> rfl
  refine ⟨hgrows, ?_, ?_, ?_⟩
  · dsimp only [Peer.connect]
    split
    · exact ⟨hsound.start, hsound.ready, hsound.waiting, hsound.started,
        hsound.maximal, hsound.primed,
        fun hn => by
        obtain ⟨h₁, -, h₃⟩ := hsound.waited hn
        exact ⟨h₁, rfl, h₃⟩, fun _ => rfl, fun _ => rfl⟩
    · exact ⟨hsound.start.keep rfl rfl rfl rfl (Or.inl rfl), hsound.ready, hsound.waiting,
        hsound.started, hsound.maximal, hsound.primed, fun hn => by
          obtain ⟨h₁, -, h₃⟩ := hsound.waited hn
          exact ⟨h₁, rfl, h₃⟩, fun _ => rfl, fun _ => rfl⟩
  · intro packet hmem
    have hpackets : ((s.side p).connect config p).2 =
        [.session (((s.side p).connect config p).1.resume config p)] := if_pos hrecovery
    rw [hpackets] at hmem
    obtain rfl := List.mem_singleton.mp hmem
    refine ⟨fun _ => ⟨Nat.le_refl _, fun _ => ?_⟩, fun hk => absurd hk (by simp [Peer.resume])⟩
    exact resume_value _ _
  · intro _ _ _ hv _ n hn
    -- a peer that has started has been connected before, so it is not validated now
    dsimp only [Peer.connect] at hv hn
    have hn' : (s.side p).nextFrame = some n := by
      split at hn
      · exact hn
      · exact hn
    obtain ⟨-, honce, -⟩ := hsound.waited (by rw [hn']; rfl)
    rw [if_pos (by simp [honce, hrecovery])] at hv
    exact absurd hv (by simp)

/-- What is lost was sent before the connection was. -/
theorem Resumable.disconnect {s t : State} (h : Resumable config s) {p : Fin 2}
    (ht : s.disconnect config p = some t) : Resumable config t := by
  obtain rfl := disconnect_eq_some ht
  have hin := h (other p)
  rw [other_other] at hin
  have hkept : ((s.side p).disconnect config).start = (s.side p).start ∧
      ((s.side p).disconnect config).inputs = (s.side p).inputs := by
    unfold Peer.disconnect
    dsimp only
    split <;> exact ⟨rfl, rfl⟩
  have hgrows : Grows config (s.side p) ((s.side p).disconnect config) :=
    grows_of_inputs (by unfold Peer.generation; rw [hkept.1]) hkept.2
  have hsound := (h p).sound
  intro q
  change Direction config (s.side (other p)).connected (State.isHost q)
    ((s.toNet.drop.put p ((s.side p).disconnect config)).side q)
    ((s.toNet.drop.put p ((s.side p).disconnect config)).side (other q))
    ((s.toNet.drop.put p ((s.side p).disconnect config)).sent q) []
  rcases eq_or_eq_other p q with rfl | rfl
  · rw [Net.put_side_self, Net.put_side_other, Net.put_sent_self]
    refine ⟨?_, fun packet hmem => absurd hmem List.not_mem_nil,
      fun message hmem => absurd hmem List.not_mem_nil, ?_⟩
    · unfold Peer.disconnect
      dsimp only
      split
      · exact ⟨hsound.start, hsound.ready, hsound.waiting, hsound.started, hsound.maximal,
          hsound.primed, hsound.waited, hsound.remote, fun hc => absurd hc (by simp)⟩
      · exact ⟨hsound.start, hsound.ready, hsound.waiting, hsound.started, hsound.maximal,
          hsound.primed, hsound.waited, hsound.remote, fun hc => absurd hc (by simp)⟩
    · intro hc
      rw [connected_disconnect] at hc
      exact absurd hc (by simp)
  · rw [other_other, Net.put_side_self, Net.put_side_other, Net.put_sent_other]
    refine ⟨(hin.receiver hgrows).sound, fun packet hmem => absurd hmem List.not_mem_nil,
      fun message hmem => absurd hmem List.not_mem_nil, ?_⟩
    intro hc hb
    rw [show (s.side (other p)).connected = true from hc] at hb
    exact absurd hb (by simp)

theorem Resumable.sendResume {s t : State} (h : Resumable config s) {p : Fin 2}
    (ht : s.sendResume config p = some t) : Resumable config t := by
  obtain rfl := sendResume_eq_some ht
  intro q
  have hq := h q
  refine ⟨hq.sound, hq.packets, ?_, hq.covers⟩
  intro message hmem
  dsimp only at hmem
  rcases eq_or_eq_other p q with rfl | rfl
  · rw [Function.update_self] at hmem
    rcases List.mem_append.mp hmem with hmem | hmem
    · exact hq.resumes message hmem
    · obtain rfl := List.mem_singleton.mp hmem
      exact ⟨Nat.le_refl _, fun _ => resume_value _ _⟩
  · rw [Function.update_of_ne (other_ne p)] at hmem
    exact hq.resumes message hmem

/-! ## Every step and every run -/

/-- Nothing has been sent yet. -/
theorem resumable_init (config : Config) : Resumable config (State.init config) := by
  intro p
  refine ⟨⟨StartValid.beginGeneration _ _ _, ?_, ?_, ?_, ?_, ?_, ?_, ?_, ?_⟩, ?_, ?_, ?_⟩
  · intro m hm
    exact absurd hm (by simp [State.init, StartHandshake.Peer.beginGeneration,
      Runtime.beginGeneration, Runtime.resetStartHandshake])
  · intro _
    exact ⟨fun _ => rfl, rfl, rfl, rfl⟩
  · intro n hn
    exact absurd hn (by simp [State.init])
  · intro hn
    exact absurd hn (by simp [State.init])
  · intro hn
    exact absurd hn (by simp [State.init])
  · intro hn
    exact absurd hn (by simp [State.init])
  · intro hr
    exact absurd hr (by simp [State.init, StartHandshake.Peer.beginGeneration,
      Runtime.beginGeneration, Runtime.resetStartHandshake])
  · intro hc
    exact absurd hc (by simp [State.init])
  · intro packet hmem
    exact absurd hmem List.not_mem_nil
  · intro message hmem
    exact absurd hmem List.not_mem_nil
  · intro hc
    exact absurd hc (by simp [State.init])

/-- Each step keeps the invariant. -/
theorem resumable_step {s t : State} {op : Op} (hrecovery : config.recoveryEnabled = true)
    (h : Resumable config s) (hok : InputsAdmitted s op) (hstep : s.step config op = some t) :
    Resumable config t := by
  obtain ⟨hrunning, ht⟩ := running_of_step hstep
  cases op with
  | connect p => exact h.connect hrecovery ht
  | disconnect p => exact h.disconnect ht
  | receive p localFrame => exact h.receive hok hrunning ht
  | receiveUnsequenced p index =>
    obtain ⟨message, hmem, -, rfl⟩ := receiveUnsequenced_eq_some ht
    exact (h.receiveResume p ((h (other p)).resumes message hmem)).resumable h
  | sendResume p => exact h.sendResume ht
  | sendMatchSeed p =>
    obtain ⟨⟨a', message⟩, hsend, rfl⟩ := Option.map_eq_some_iff.mp ht
    exact (h.sendMatchSeed hsend).resumable h
  | sendStartReady p force =>
    obtain ⟨⟨a', message⟩, hsend, rfl⟩ := Option.map_eq_some_iff.mp ht
    exact (h.sendStartReady hsend).resumable h
  | beginWait p snapshot syncFrame =>
    obtain ⟨start, hstart, rfl⟩ := Option.map_eq_some_iff.mp ht
    exact (h.beginWait hstart).resumable h
  | waitRound p =>
    obtain ⟨a', ha', rfl⟩ := Option.map_eq_some_iff.mp ht
    exact (h.waitRound ha').resumable h
  | timeout p =>
    obtain ⟨start, hstart, rfl⟩ := Option.map_eq_some_iff.mp ht
    exact (h.timeout hstart).resumable h
  | beginGeneration p =>
    obtain rfl := Option.some.inj ht
    exact (h.beginGeneration p).resumable h
  | sample p input =>
    obtain ⟨⟨a', packets⟩, hsample, rfl⟩ := Option.map_eq_some_iff.mp ht
    exact (h.sample hsample).resumable h
  | resendLatestInput p =>
    obtain ⟨packet, hresend, rfl⟩ := Option.map_eq_some_iff.mp ht
    exact (h.resendLatestInput hresend).resumable h
  | deadlineExceeded p =>
    obtain rfl := deadlineExceeded_eq_some ht
    exact (h.fail p _ _).resumable h

/-- A frame that lies above what the receiver has is one of the frames in flight. -/
theorem Covers.mem_of_missing {host : Bool} {g generation n f : Nat} {out : List Packet} {b : Peer}
    (h : Covers config generation n out b) (hb : Sound config host g b)
    (hmissing : Missing config b f)
    (hfits : n + config.delay ≤ u32Max + 1) (hlt : f < n + config.delay) :
    f ∈ frames generation out := by
  obtain ⟨bound, hle, hreceived, hsub⟩ := h
  refine hsub.subset ?_
  rw [List.mem_range'_1]
  suffices hbound : bound ≤ f by omega
  unfold Missing at hmissing
  cases hbn : b.nextFrame with
  | none =>
    rw [(hb.waiting hbn).epochStart] at hmissing
    by_contra hgt
    have hsome := hreceived f hmissing.1 (by omega)
    rw [hmissing.2] at hsome
    exact absurd hsome (by simp)
  | some m =>
    have hstarted := hb.started m hbn
    rw [hstarted.epochStart] at hmissing
    dsimp only at hmissing
    by_contra hgt
    -- everything below `bound` is there: it was primed or it has arrived
    have hall : ∀ k, config.start.startFrame ≤ k → k < min bound (u32Max + 1) →
        b.inputs.remoteInputs[k]?.isSome = true := by
      intro k h₁ h₂
      by_cases hprimed : config.start.startFrame + config.delay ≤ k
      · exact hreceived k hprimed (by omega)
      · exact hb.primed (by rw [hbn]; rfl) k h₁ (by omega)
    have hfirst := (hb.maximal (by rw [hbn]; rfl)).le_firstMissing hstarted.contiguous
      (Nat.min_le_right bound (u32Max + 1)) hall
    omega

/-- A frame is in flight as a packet. -/
theorem mem_of_mem_frames {generation f : Nat} {out : List Packet} (h : f ∈ frames generation out) :
    ∃ framed, .input framed ∈ out ∧ framed.generation = generation ∧ framed.frame = f := by
  obtain ⟨packet, hmem, hpacket⟩ := List.mem_filterMap.mp h
  cases packet with
  | session message => exact absurd hpacket (by simp)
  | input framed =>
    dsimp only at hpacket
    split at hpacket
    · next hgen => exact ⟨framed, hmem, hgen, Option.some.inj hpacket⟩
    · exact absurd hpacket (by simp)

/-- What one peer has recorded the other one has, or it is on its way, or it will be asked for. -/
theorem Resumable.noInputLost {s : State} (h : Resumable config s) (hapart : Apart s) :
    NoInputLost config s := by
  intro p hp hq hgen hvp _ hsp _ f v hv hmissing _
  have hbroken : s.broken = false := by
    by_contra hb
    obtain ⟨r, hr⟩ := hapart (by simpa using hb)
    rcases eq_or_eq_other p r with rfl | rfl
    · rw [hp] at hr
      exact absurd hr (by simp)
    · rw [hq] at hr
      exact absurd hr (by simp)
  have hsound := (h p).sound
  cases hn : (s.side p).nextFrame with
  | none =>
    rw [(hsound.waiting hn).localInputs f] at hv
    exact absurd hv (by simp)
  | some n =>
    have hstarted := hsound.started n hn
    have hcovers := (h p).covers hp hbroken hsp hvp hgen n hn
    have hmem := hcovers.mem_of_missing (h (other p)).sound hmissing hstarted.fits
      ((hstarted.localInputs f).mp ⟨v, hv⟩).2
    obtain ⟨framed, hpacket, hgeneration, rfl⟩ := mem_of_mem_frames hmem
    have hinput := ((h p).packets _ hpacket).2 hgeneration
    obtain rfl : framed.input = v := Option.some.inj (hinput.symm.trans hv)
    rw [← hgeneration]
    exact hpacket

/-! ## Before validation -/

theorem remoteInputs_receiveResume (a : Peer) (message : Message) :
    (a.receiveResume config message).1.inputs.remoteInputs = a.inputs.remoteInputs := by
  have hresumed : ∀ (b : Peer) (value : Nat),
      (b.resumeFrom value).1.inputs.remoteInputs = b.inputs.remoteInputs := by
    intro b value
    unfold Peer.resumeFrom
    dsimp only
    split
    · rfl
    · split <;> rfl
  unfold Peer.receiveResume
  split
  · rfl
  · split
    · rfl
    · dsimp only
      split
      · rfl
      · split
        · rfl
        · split
          · rfl
          · exact hresumed _ _

/-- A packet that arrives before validation does not reach the timeline. -/
theorem remoteInputs_receive_of_unvalidated {host : Bool} {localFrame : Nat}
    {a : Peer} {packet : Packet} (h : a.resumeValidated = false) :
    (a.receive config host localFrame packet).1.inputs.remoteInputs = a.inputs.remoteInputs := by
  cases packet with
  | input framed =>
    unfold Peer.receive
    dsimp only
    rw [if_neg (by rw [h]; simp)]
  | session message =>
    change (a.receiveSession config host message).1.inputs.remoteInputs = _
    unfold Peer.receiveSession
    split
    · exact remoteInputs_receiveResume a message
    · split <;> rfl
    · split <;> rfl

/-- The arrival of a packet, reliable or not, leaves the remote inputs of a peer alone until the
peer has validated the other one. -/
def ValidatedFirst (config : Config) (s : State) : Prop :=
  ∀ p t, (s.side p).resumeValidated = false →
    ((∃ localFrame, s.step config (.receive p localFrame) = some t) ∨
      ∃ index, s.step config (.receiveUnsequenced p index) = some t) →
    (t.side p).inputs.remoteInputs = (s.side p).inputs.remoteInputs

/-- No input is sent before the other peer is validated. -/
theorem validatedFirst (config : Config) (s : State) : ValidatedFirst config s := by
  rintro p t h (⟨localFrame, hstep⟩ | ⟨index, hstep⟩)
  · obtain ⟨-, ht⟩ := running_of_step hstep
    obtain ⟨packet, rest, -, -, rfl⟩ := receive_eq_some ht
    rw [act_side_self]
    exact remoteInputs_receive_of_unvalidated h
  · obtain ⟨-, ht⟩ := running_of_step hstep
    obtain ⟨message, -, -, rfl⟩ := receiveUnsequenced_eq_some ht
    rw [act_side_self]
    exact remoteInputs_receiveResume _ _

/-! ## Runs -/

/-- The peers are not connected in the beginning. -/
theorem apart_init (config : Config) : Apart (State.init config) :=
  fun h => absurd h (by simp [State.init])

/-- In every run in which no new input is discarded before validation, no input is lost. -/
theorem inputs_survive_reconnect (hrecovery : config.recoveryEnabled = true)
    {es : List Op} {s : State}
    (hadmitted : Run.Along (State.step config) InputsAdmitted (State.init config) es)
    (hs : Run.run (State.step config) (State.init config) es = some s) :
    NoInputLost config s ∧ ValidatedFirst config s := by
  have hstep : ∀ s op t, (Resumable config s ∧ Apart s) → InputsAdmitted s op →
      State.step config s op = some t → Resumable config t ∧ Apart t := by
    intro s op t h hok hstep
    exact ⟨resumable_step hrecovery h.1 hok hstep, apart_step h.2 hstep⟩
  have hinv := Run.run_invariant hstep ⟨resumable_init config, apart_init config⟩ hadmitted hs
  exact ⟨hinv.1.noInputLost hinv.2, validatedFirst config s⟩

instance decidableInputsAdmitted (s : State) : (op : Op) → Decidable (InputsAdmitted s op)
  | .receive p localFrame =>
    match h : s.sent (other p) with
    | .input packet :: rest =>
      decidable_of_iff (packet.generation = (s.side p).generation →
          (s.side (other p)).resumeValidated = true → (s.side p).resumeValidated = false →
          (s.side p).stopped = false →
            (s.side p).inputs.remoteInputs[packet.frame]?.isSome = true) ⟨by
        intro hok packet' rest' heq
        obtain ⟨heq, -⟩ := List.cons.inj (h.symm.trans heq)
        obtain rfl := Packet.input.inj heq
        exact hok, fun hok => hok packet rest h⟩
    | .session message :: rest => isTrue (by
        intro packet rest' heq
        exact absurd (h.symm.trans heq) (by simp))
    | [] => isTrue (by
        intro packet rest' heq
        exact absurd (h.symm.trans heq) (by simp))
  | .connect _ | .disconnect _ | .receiveUnsequenced _ _ | .sendResume _ | .sendMatchSeed _
  | .sendStartReady _ _ | .beginWait _ _ _ | .waitRound _ | .timeout _ | .beginGeneration _
  | .sample _ _ | .resendLatestInput _ | .deadlineExceeded _ => isTrue trivial

/-- Both peers start a game; the client samples an input that is lost with the connection and
another one before it reconnects. -/
def reconnectRun : List Op :=
  [.connect 0, .connect 1, .receive 0 0, .receive 1 0, .beginWait 0 {} 100, .sendStartReady 0 false,
    .beginWait 1 {} 90, .receive 1 0, .sendStartReady 1 false, .waitRound 1, .receive 0 0,
    .waitRound 0, .sample 1 {}, .disconnect 0, .disconnect 1, .sample 1 {}, .connect 0, .connect 1,
    .receive 0 0, .receive 1 0]

theorem inputs_survive_reconnect_reconnectRun :
    let s := Run.final (State.step lockstepConfig) (State.init lockstepConfig) reconnectRun
    NoInputLost lockstepConfig s ∧ ValidatedFirst lockstepConfig s ∧
      (s.side 1).resumeValidated = true ∧ (s.side 0).resumeValidated = true ∧
      s.sent 1 = [.input { generation := 0, frame := 842, input := {} },
        .input { generation := 0, frame := 843, input := {} }] := by
  intro s
  have hadmitted : Run.Along (State.step lockstepConfig) InputsAdmitted (State.init lockstepConfig)
      reconnectRun := by decide +kernel
  have h := inputs_survive_reconnect (by decide) hadmitted
    (Run.run_eq_final _ _ _ (by decide +kernel))
  exact ⟨h.1, h.2, by decide +kernel⟩

/-- The host is in the next game when the connection comes back, so both forced `Resume` messages
are refused. The client follows, validates the host by a periodic `Resume`, accepts the host's
snapshot and sends an input, which the host discards because it has not validated the client yet. -/
def discardedInputRun : List Op :=
  [.connect 0, .connect 1, .receive 0 0, .receive 1 0, .beginGeneration 0,
    .disconnect 0, .disconnect 1, .connect 0, .connect 1, .receive 0 0, .receive 1 0,
    .beginGeneration 1, .sendResume 0, .receiveUnsequenced 1 0, .beginWait 0 {} 100,
    .sendStartReady 0 false, .beginWait 1 {} 90, .receive 1 0, .sendStartReady 1 false,
    .waitRound 1, .sample 1 {}, .receive 0 0, .receive 0 0, .sendResume 1, .receiveUnsequenced 0 0,
    .sendStartReady 1 true, .receive 0 0, .waitRound 0]

theorem input_lost_across_reconnect :
    lockstepConfig.recoveryEnabled = true ∧
      Run.run (State.step lockstepConfig) (State.init lockstepConfig) discardedInputRun =
        some (Run.final (State.step lockstepConfig) (State.init lockstepConfig) discardedInputRun) ∧
      ¬ NoInputLost lockstepConfig
        (Run.final (State.step lockstepConfig) (State.init lockstepConfig) discardedInputRun) := by
  refine ⟨by decide, Run.run_eq_final _ _ _ (by decide +kernel), ?_⟩
  intro h
  have hempty : (Run.final (State.step lockstepConfig) (State.init lockstepConfig)
      discardedInputRun).sent 1 = [] := by decide +kernel
  have hmissing : Missing lockstepConfig ((Run.final (State.step lockstepConfig)
      (State.init lockstepConfig) discardedInputRun).side (other 1)) 842 := by
    have hprimed : ((Run.final (State.step lockstepConfig) (State.init lockstepConfig)
        discardedInputRun).side (other 1)).inputs.remoteInputEpochStartFrame = some 840 := by
      decide +kernel
    unfold Missing
    rw [hprimed]
    decide +kernel
  have hmem := h 1 (by decide +kernel) (by decide +kernel) (by decide +kernel) (by decide +kernel)
    (by decide +kernel) (by decide +kernel) (by decide +kernel) 842 {} (by decide +kernel) hmissing
    (by decide +kernel)
  rw [hempty] at hmem
  exact absurd hmem List.not_mem_nil

/-- In order, no input is ahead of the one that it should follow. -/
theorem InOrder.inputsAdmitted {s : State} (h : InOrder config s) (op : Op) :
    InputsAdmitted s op := by
  cases op with
  | receive p localFrame =>
    intro packet rest hsent _ _ hunvalidated hrunning
    have hin := h (other p)
    rw [other_other] at hin
    have hactive : ¬ ((s.side (other p)).connected = false ∨ s.broken = true) := by
      intro hidle
      exact absurd ((hin.idle hidle).symm.trans hsent) (by simp)
    push Not at hactive
    obtain ⟨message, rest', hsent', -⟩ := hin.first (hin.unvalidated hunvalidated)
      (by simpa using hactive.1) (by simpa using hactive.2) hrunning (Or.inr hunvalidated)
    exact absurd (hsent.symm.trans hsent') (by simp)
  | _ => trivial

/-- If no forced `Resume` is refused for its generation, then no input is discarded before
validation. -/
theorem inputsAdmitted_of_resumeAccepted {es : List Op}
    (h : Run.Along (State.step config) ResumeAccepted (State.init config) es) :
    Run.Along (State.step config) InputsAdmitted (State.init config) es :=
  Run.along_of_invariant (fun _ _ _ hs hok hstep => inOrder_step hs hok hstep)
    (fun _ op hs _ => hs.inputsAdmitted op) (inOrder_init config) h

end Bigstar.Netplay.NetplaySession
