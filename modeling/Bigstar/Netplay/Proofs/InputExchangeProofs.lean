import Bigstar.Netplay.InputExchange
import Bigstar.Netplay.Proofs.InputDeliveryProofs

/-!
# Delivery of inputs over a network that loses and reorders packets

The invariant has a part for each side (what is recorded locally is gapless from the epoch on, and
the contiguous frame tells the truth) and a part for each direction of the connection (everything
received was recorded by the sender, everything acknowledged was received, every bundle reaches back
to the first frame the receiver misses). A step changes one side; both parts about the other side
survive because a side only ever grows.
-/

namespace Bigstar.Netplay.InputExchange

open OrderedMap InputTimeline InputDelivery RollbackRuntime RollbackStorage TwoParty

/-- The invariant of one side. -/
structure Valid (m : Match) (a : Side) : Prop where
  waiting : a.nextFrame = none → a.inputs.Waiting
  started : ∀ n, a.nextFrame = some n → Runtime.Started m.epoch m.delay a.inputs n

/-- The input of a frame is settled: it has been recorded, or it is one of the neutral inputs that
priming is going to record. -/
def Settled (m : Match) (a : Side) (f : Nat) (v : InputState) : Prop :=
  a.inputs.localInputs[f]? = some v ∨
    a.nextFrame = none ∧ m.epoch ≤ f ∧ f < m.epoch + m.delay ∧ v = neutralInput

/-- The first frame that a side has no remote input for. -/
def firstMissingFrame (m : Match) (b : Side) : Nat :=
  match b.inputs.highestContiguousRemoteFrame with
  | some highest => highest + 1
  | none => m.epoch

/-- The invariant of one direction: `a` has sent `out` to `b`. -/
structure Link (m : Match) (a b : Side) (out : List Payload) : Prop where
  remoteInputs : ∀ (f : Nat) (v : InputState), b.inputs.remoteInputs[f]? = some v → Settled m a f v
  entries : ∀ payload ∈ out, ∀ entry ∈ payload.entries,
    entry.generation = m.generation ∧ a.inputs.localInputs[entry.frame]? = some entry.input
  acks : ∀ payload ∈ out, AtMost payload.ackFrame a.inputs.highestContiguousRemoteFrame
  remoteAck : AtMost a.remoteAckFrame b.inputs.highestContiguousRemoteFrame
  bundles : ∀ entries ackFrame, Payload.bundle entries ackFrame ∈ out →
    ∃ first length, 0 < length ∧ entries.map FramedInput.frame = List.range' first length ∧
      first ≤ firstMissingFrame m b

/-- The invariant of the exchange. -/
structure Consistent (m : Match) (s : State) : Prop where
  valid : ∀ p, Valid m (s.side p)
  link : ∀ p, Link m (s.side p) (s.side (other p)) (s.sent p)

/-- Nothing has been sent yet. -/
theorem consistent_init (m : Match) : Consistent m State.init where
  valid _ := by
    refine ⟨fun _ => ⟨fun _ => rfl, rfl, rfl, rfl⟩, ?_⟩
    intro n hn
    exact absurd hn (by simp [State.init])
  link _ := by
    refine ⟨?_, ?_, ?_, atMost_none _, ?_⟩
    · intro f v hv
      exact absurd hv (by simp [State.init])
    · intro payload h
      exact absurd h List.not_mem_nil
    · intro payload h
      exact absurd h List.not_mem_nil
    · intro entries ackFrame h
      exact absurd h List.not_mem_nil

/-! ## A side only grows -/

/-- A side only learns more, and never something else. -/
structure Grows (m : Match) (a a' : Side) : Prop where
  localInputs : ∀ (f : Nat) (v : InputState), a.inputs.localInputs[f]? = some v →
    a'.inputs.localInputs[f]? = some v
  settled : ∀ f v, Settled m a f v → Settled m a' f v
  highest : AtMost a.inputs.highestContiguousRemoteFrame a'.inputs.highestContiguousRemoteFrame
  remoteAck : AtMost a.remoteAckFrame a'.remoteAckFrame

theorem Grows.refl (m : Match) (a : Side) : Grows m a a :=
  ⟨fun _ _ h => h, fun _ _ h => h, AtMost.refl _, AtMost.refl _⟩

theorem Grows.trans {m : Match} {a b c : Side} (h : Grows m a b) (h' : Grows m b c) : Grows m a c :=
  ⟨fun f v hv => h'.localInputs f v (h.localInputs f v hv),
    fun f v hv => h'.settled f v (h.settled f v hv), h.highest.trans h'.highest,
    h.remoteAck.trans h'.remoteAck⟩

theorem Valid.epoch_le_of_highest {m : Match} {b : Side} (h : Valid m b) {highest : Nat}
    (hb : b.inputs.highestContiguousRemoteFrame = some highest) : m.epoch ≤ highest := by
  cases hn : b.nextFrame with
  | none =>
    rw [(h.waiting hn).highest] at hb
    exact absurd hb (by simp)
  | some n => exact ((h.started n hn).contiguous highest hb).1

/-- The first gap of a receiver only moves on. -/
theorem firstMissingFrame_le {m : Match} {b b' : Side} (hgrows : Grows m b b') (hb' : Valid m b') :
    firstMissingFrame m b ≤ firstMissingFrame m b' := by
  unfold firstMissingFrame
  cases hb : b.inputs.highestContiguousRemoteFrame with
  | none =>
    cases hh : b'.inputs.highestContiguousRemoteFrame with
    | none => exact Nat.le_refl _
    | some highest => exact Nat.le_succ_of_le (hb'.epoch_le_of_highest hh)
  | some highest =>
    obtain ⟨highest', hh, hle⟩ := hgrows.highest highest hb
    rw [hh]
    exact Nat.succ_le_succ hle

/-- What is in flight stays true while the sender learns more. -/
theorem Link.sender_grows {m : Match} {a a' b : Side} {out : List Payload} (h : Link m a b out)
    (hgrows : Grows m a a')
    (hack : AtMost a'.remoteAckFrame b.inputs.highestContiguousRemoteFrame) :
    Link m a' b out where
  remoteInputs f v hv := hgrows.settled f v (h.remoteInputs f v hv)
  entries payload hp entry he := by
    obtain ⟨hgen, hv⟩ := h.entries payload hp entry he
    exact ⟨hgen, hgrows.localInputs entry.frame entry.input hv⟩
  acks payload hp := (h.acks payload hp).trans hgrows.highest
  remoteAck := hack
  bundles := h.bundles

/-- It still covers the gap of a receiver that has moved on. -/
theorem Link.receiver_grows {m : Match} {a b b' : Side} {out : List Payload} (h : Link m a b out)
    (hgrows : Grows m b b') (hb' : Valid m b')
    (hremote : ∀ (f : Nat) (v : InputState),
      b'.inputs.remoteInputs[f]? = some v → Settled m a f v) :
    Link m a b' out where
  remoteInputs := hremote
  entries := h.entries
  acks := h.acks
  remoteAck := h.remoteAck.trans hgrows.highest
  bundles entries ackFrame hmem := by
    obtain ⟨first, length, hpos, hframes, hle⟩ := h.bundles entries ackFrame hmem
    exact ⟨first, length, hpos, hframes, Nat.le_trans hle (firstMissingFrame_le hgrows hb')⟩

/-! ## Putting a changed side back -/

/-- Side `p` may turn into `a` and send `payloads`. -/
structure Changes (m : Match) (s : State) (p : Fin 2) (a : Side) (payloads : List Payload) :
    Prop where
  valid : Valid m a
  grows : Grows m (s.side p) a
  outgoing : Link m a (s.side (other p)) (s.sent p ++ payloads)
  incoming : Link m (s.side (other p)) a (s.sent (other p))

/-- The one lemma for the steps of a side. -/
theorem Changes.consistent {m : Match} {s : State} {p : Fin 2} {a : Side} {payloads : List Payload}
    (h : Changes m s p a payloads) (hs : Consistent m s) : Consistent m (s.put p a payloads) where
  valid := Net.forall_put (I := fun _ a _ _ _ => Valid m a) h.valid (hs.valid (other p))
  link := Net.forall_put (I := fun _ a b out _ => Link m a b out) h.outgoing h.incoming

/-! ## Receiving -/

theorem grows_of_received {m : Match} {a a' : Side} {payload : Payload}
    (hnext : a'.nextFrame = a.nextFrame) (h : Peer.Received a.toPeer a'.toPeer payload) :
    Grows m a a' where
  localInputs f v hv := by
    rw [h.stored.localInputs]
    exact hv
  settled f v hv := by
    unfold Settled at hv ⊢
    rw [h.stored.localInputs, hnext]
    exact hv
  highest := h.stored.highest
  remoteAck := by
    rcases h.remoteAck with heq | ⟨heq, hle⟩
    · rw [heq]
      exact AtMost.refl _
    · rw [heq]
      exact hle

theorem valid_of_received {m : Match} {a a' : Side} {payload : Payload} (ha : Valid m a)
    (hnext : a'.nextFrame = a.nextFrame) (h : Peer.Received a.toPeer a'.toPeer payload) :
    Valid m a' where
  waiting hn := (ha.waiting (hnext.symm.trans hn)).stored h.stored
  started n hn := (ha.started n (hnext.symm.trans hn)).stored h.stored

/-- A packet with settled inputs and a true acknowledgement has been handled. -/
theorem Consistent.receive {m : Match} {s : State} (h : Consistent m s) {p : Fin 2} {a' : Side}
    {payload : Payload} (hnext : a'.nextFrame = (s.side p).nextFrame)
    (hrec : Peer.Received (s.side p).toPeer a'.toPeer payload)
    (hentries : ∀ entry ∈ payload.entries, Settled m (s.side (other p)) entry.frame entry.input)
    (hack : AtMost payload.ackFrame
      (s.side (other p)).inputs.highestContiguousRemoteFrame) :
    Changes m s p a' [] := by
  have hgrows : Grows m (s.side p) a' := grows_of_received hnext hrec
  have hvalid : Valid m a' := valid_of_received (h.valid p) hnext hrec
  have hin := h.link (other p)
  rw [other_other] at hin
  refine ⟨hvalid, hgrows, ?_, ?_⟩
  · rw [List.append_nil]
    refine (h.link p).sender_grows hgrows ?_
    rcases hrec.remoteAck with heq | ⟨heq, -⟩
    · rw [heq]
      exact (h.link p).remoteAck
    · rw [heq]
      exact hack
  · refine hin.receiver_grows hgrows hvalid ?_
    intro f v hv
    rcases hrec.stored.remoteInputs f v hv with hv | hv
    · exact hin.remoteInputs f v hv
    · obtain ⟨entry, hentry, heq⟩ := List.mem_map.mp hv
      obtain ⟨rfl, rfl⟩ := Prod.mk.inj heq
      exact hentries entry hentry

/-- A change that concerns neither the inputs nor the acknowledgement. -/
theorem Consistent.put_same {m : Match} {s : State} (h : Consistent m s) {p : Fin 2} {a' : Side}
    (hnext : a'.nextFrame = (s.side p).nextFrame)
    (hstored : Runtime.Stored (s.side p).inputs a'.inputs [])
    (hack : a'.remoteAckFrame = (s.side p).remoteAckFrame) : Changes m s p a' [] := by
  have hrec : Peer.Received (s.side p).toPeer a'.toPeer (.bundle [] none) :=
    ⟨hstored, Or.inl hack⟩
  refine h.receive hnext hrec ?_ (atMost_none _)
  intro entry hentry
  exact absurd hentry List.not_mem_nil

/-! ## Priming -/

theorem Consistent.prime {m : Match} {s : State} (h : Consistent m s) {p : Fin 2} {a' : Side}
    (ha' : (s.side p).prime m = some a') : Changes m s p a' [] := by
  unfold Side.prime at ha'
  split at ha'
  · exact absurd ha' (by simp)
  · next hnone =>
    obtain rfl := Option.some.inj ha'
    have hw := (h.valid p).waiting hnone
    have hprimed := Runtime.primed_primeEpoch (s.side p).inputs neutralInput kNoFrame m.fits
    set a' : Side := { toPeer := (s.side p).toPeer.primeInputEpoch m.epoch m.delay,
                       nextFrame := some m.epoch } with ha'
    have hlocal := hw.getElem?_of_primed hprimed
    have hvalid : Valid m a' := by
      refine ⟨fun hn => absurd hn (by simp [ha']), ?_⟩
      intro n hn
      obtain rfl : m.epoch = n := Option.some.inj hn
      exact hw.started_of_primed hprimed m.fits
    have hgrows : Grows m (s.side p) a' := by
      refine ⟨?_, ?_, ?_, AtMost.refl _⟩
      · intro f v hv
        rw [hw.localInputs f] at hv
        exact absurd hv (by simp)
      · rintro f v (hv | ⟨-, h₁, h₂, rfl⟩)
        · rw [hw.localInputs f] at hv
          exact absurd hv (by simp)
        · exact Or.inl ((hlocal f).trans (if_pos ⟨h₁, h₂⟩))
      · rw [hw.highest]
        exact atMost_none _
    have hin := h.link (other p)
    rw [other_other] at hin
    refine ⟨hvalid, hgrows, ?_, ?_⟩
    · rw [List.append_nil]
      exact (h.link p).sender_grows hgrows (h.link p).remoteAck
    · refine hin.receiver_grows hgrows hvalid ?_
      intro f v hv
      have hv' := (hprimed.remoteInputs f).symm.trans hv
      split at hv'
      · next hle =>
        split at hv'
        · -- a frame that priming has filled
          next hfree =>
          obtain rfl := Option.some.inj hv'
          cases hother : (s.side (other p)).nextFrame with
          | none => exact Or.inr ⟨hother, hle, hfree.2, rfl⟩
          | some n =>
            exact Or.inl (((h.valid (other p)).started n hother).neutral f hle hfree.2)
        · exact hin.remoteInputs f v hv'
      · exact absurd hv' (by simp)

/-! ## Sending -/

/-- A packet built from the inputs of a started side reaches back to the first missing frame. -/
theorem firstUnackedFrame_le_firstMissingFrame {m : Match} {b : Side} (hb : Valid m b)
    {localInputs : InputMap} {remoteAckFrame : Option Nat} {frame : Nat}
    (hack : AtMost remoteAckFrame b.inputs.highestContiguousRemoteFrame)
    (hbegin : localInputs.firstKey = some m.epoch) (hle : m.epoch ≤ frame) :
    firstUnackedFrame frame localInputs remoteAckFrame ≤ firstMissingFrame m b := by
  rw [firstUnackedFrame_eq remoteAckFrame hbegin hle]
  cases remoteAckFrame with
  | none =>
    unfold firstMissingFrame
    cases hhighest : b.inputs.highestContiguousRemoteFrame with
    | none => exact Nat.le_refl _
    | some highest => exact Nat.le_succ_of_le (hb.epoch_le_of_highest hhighest)
  | some ack =>
    obtain ⟨highest, hhighest, hackle⟩ := hack ack rfl
    have hepoch := hb.epoch_le_of_highest hhighest
    unfold firstMissingFrame
    rw [hhighest]
    dsimp only
    split <;> omega

/-- One more packet, built for a frame that is on record. -/
theorem Link.append {m : Match} {a b : Side} {out : List Payload} (h : Link m a b out)
    (hb : Valid m b) {n : Nat} (ha : Runtime.Started m.epoch m.delay a.inputs n) {frame : Nat}
    {input : InputState}
    (hinput : a.inputs.localInputs[frame]? = some input) (bundleHistory : Int) :
    Link m a b (out ++ [buildPayload m.generation frame input bundleHistory a.inputs.localInputs
      a.remoteAckFrame a.inputs.highestContiguousRemoteFrame]) := by
  obtain ⟨hepoch, hlt⟩ := (ha.localInputs frame).mp ⟨input, hinput⟩
  have hbegin := ha.firstKey (Nat.lt_of_le_of_lt hepoch hlt)
  have hmax : frame ≤ u32Max := by
    have := ha.fits
    omega
  have hcarries := carries_buildPayload m.generation bundleHistory a.remoteAckFrame
    a.inputs.highestContiguousRemoteFrame hmax hbegin hepoch
    (fun f h₁ h₂ => (ha.localInputs f).mpr ⟨h₁, by omega⟩) hinput
  refine ⟨h.remoteInputs, ?_, ?_, h.remoteAck, ?_⟩
  · intro payload hp
    rcases List.mem_append.mp hp with hp | hp
    · exact h.entries payload hp
    · obtain rfl := List.mem_singleton.mp hp
      exact hcarries.entries
  · intro payload hp
    rcases List.mem_append.mp hp with hp | hp
    · exact h.acks payload hp
    · obtain rfl := List.mem_singleton.mp hp
      exact hcarries.ackFrame
  · intro entries ackFrame hp
    rcases List.mem_append.mp hp with hp | hp
    · exact h.bundles entries ackFrame hp
    · obtain ⟨length, hpos, hframes⟩ :=
        hcarries.bundle entries ackFrame (List.mem_singleton.mp hp).symm
      exact ⟨_, length, hpos, hframes,
        firstUnackedFrame_le_firstMissingFrame hb h.remoteAck hbegin hepoch⟩

/-- What sampling the input of frame `n` changes. -/
structure Sampled (m : Match) (a a' : Side) (n : Nat) (input : InputState) : Prop where
  recorded : Runtime.Recorded a.inputs a'.inputs (n + m.delay) input
  remoteAck : a'.remoteAckFrame = a.remoteAckFrame
  nextFrame : a'.nextFrame = some (n + 1)

/-- A sample records the input, and sends it or not. -/
theorem sample_cases {m : Match} {a a' : Side} {input : InputState} {bundleHistory : Int}
    {connected : Bool} {payloads : List Payload}
    (h : a.sample m input bundleHistory connected = some (a', payloads)) :
    ∃ n, a.nextFrame = some n ∧ n + m.delay ≤ u32Max ∧ Sampled m a a' n input ∧
      (payloads = [] ∨ payloads = [buildPayload m.generation (n + m.delay) input bundleHistory
        a'.inputs.localInputs a'.remoteAckFrame a'.inputs.highestContiguousRemoteFrame]) := by
  unfold Side.sample at h
  split at h
  · exact absurd h (by simp)
  · next n hn =>
    dsimp only at h
    split at h
    · exact absurd h (by simp)
    · next hfits =>
      refine ⟨n, hn, Nat.le_of_not_lt hfits, ?_⟩
      split at h
      · obtain ⟨rfl, rfl⟩ := Prod.mk.inj (Option.some.inj h)
        exact ⟨⟨⟨rfl, rfl, rfl, rfl⟩, rfl, rfl⟩, Or.inr rfl⟩
      · obtain ⟨rfl, rfl⟩ := Prod.mk.inj (Option.some.inj h)
        exact ⟨⟨⟨rfl, rfl, rfl, rfl⟩, rfl, rfl⟩, Or.inl rfl⟩

theorem Sampled.grows {m : Match} {a a' : Side} {n : Nat} {input : InputState}
    (h : Sampled m a a' n input) (ha : Runtime.Started m.epoch m.delay a.inputs n)
    (hnext : a.nextFrame = some n) : Grows m a a' := by
  refine ⟨fun f v hv => ha.getElem?_recorded h.recorded hv, ?_, ?_, ?_⟩
  · rintro f v (hv | ⟨hnone, -⟩)
    · exact Or.inl (ha.getElem?_recorded h.recorded hv)
    · rw [hnext] at hnone
      exact absurd hnone (by simp)
  · rw [h.recorded.highest]
    exact AtMost.refl _
  · rw [h.remoteAck]
    exact AtMost.refl _

theorem Consistent.sample {m : Match} {s : State} (h : Consistent m s) {p : Fin 2} {a' : Side}
    {input : InputState} {bundleHistory : Int} {connected : Bool} {payloads : List Payload}
    (hsample : (s.side p).sample m input bundleHistory connected = some (a', payloads)) :
    Changes m s p a' payloads := by
  obtain ⟨n, hnext, hfits, hsampled, hpayloads⟩ := sample_cases hsample
  have ha := (h.valid p).started n hnext
  have hstarted := ha.recorded hsampled.recorded hfits
  have hgrows := hsampled.grows ha hnext
  have hvalid : Valid m a' := by
    refine ⟨fun hn => absurd (hsampled.nextFrame.symm.trans hn) (by simp), ?_⟩
    intro n' hn'
    obtain rfl := Option.some.inj (hsampled.nextFrame.symm.trans hn')
    exact hstarted
  have hout : Link m a' (s.side (other p)) (s.sent p) := by
    refine (h.link p).sender_grows hgrows ?_
    rw [hsampled.remoteAck]
    exact (h.link p).remoteAck
  have hin := h.link (other p)
  rw [other_other] at hin
  refine ⟨hvalid, hgrows, ?_, ?_⟩
  · rcases hpayloads with rfl | rfl
    · rw [List.append_nil]
      exact hout
    · refine hout.append (h.valid (other p)) hstarted ?_ bundleHistory
      rw [hsampled.recorded.localInputs, getElem?_insert_eq, if_pos rfl]
  · refine hin.receiver_grows hgrows hvalid ?_
    rw [hsampled.recorded.remoteInputs]
    exact hin.remoteInputs

theorem Consistent.resend {m : Match} {s : State} (h : Consistent m s) {p : Fin 2}
    {bundleHistory : Int} {payload : Payload}
    (hresend : (s.side p).resendLatestInput m.generation bundleHistory = some payload) :
    Changes m s p (s.side p) [payload] := by
  have hin := h.link (other p)
  rw [other_other] at hin
  refine ⟨h.valid p, Grows.refl m _, ?_, hin⟩
  unfold Peer.resendLatestInput at hresend
  split at hresend
  · exact absurd hresend (by simp)
  · obtain ⟨input, hinput, rfl⟩ := Option.map_eq_some_iff.mp hresend
    cases hnext : (s.side p).nextFrame with
    | none =>
      rw [((h.valid p).waiting hnext).localInputs] at hinput
      exact absurd hinput (by simp)
    | some n =>
      exact (h.link p).append (h.valid (other p)) ((h.valid p).started n hnext) hinput bundleHistory

/-! ## Every step and every run -/

/-- Each operation changes one side. -/
theorem step_changes {m : Match} {s : State} {op : Op} {t : State} (h : Consistent m s)
    (hstep : s.step m op = some t) :
    ∃ p a payloads, t = s.put p a payloads ∧ Changes m s p a payloads := by
  cases op with
  | adoptEpoch p =>
    obtain rfl := Option.some.inj hstep
    exact ⟨p, _, [], rfl, h.put_same rfl (Runtime.stored_self _ _) rfl⟩
  | prime p =>
    obtain ⟨a', ha', rfl⟩ := Option.map_eq_some_iff.mp hstep
    exact ⟨p, a', [], rfl, h.prime ha'⟩
  | sample p input bundleHistory connected =>
    obtain ⟨⟨a', payloads⟩, hsample, rfl⟩ := Option.map_eq_some_iff.mp hstep
    exact ⟨p, a', payloads, rfl, h.sample hsample⟩
  | resend p bundleHistory =>
    obtain ⟨payload, hresend, rfl⟩ := Option.map_eq_some_iff.mp hstep
    exact ⟨p, s.side p, [payload], rfl, h.resend hresend⟩
  | deliver p index rollbackEnabled localFrame =>
    obtain ⟨payload, hindex, rfl⟩ := Option.map_eq_some_iff.mp hstep
    have hmem : payload ∈ s.sent (other p) := List.mem_of_getElem? hindex
    have hin := h.link (other p)
    rw [other_other] at hin
    refine ⟨p, _, [], rfl, ?_⟩
    refine h.receive rfl (Peer.received_receive m.generation rollbackEnabled localFrame _ payload)
      ?_ (hin.acks payload hmem)
    intro entry hentry
    exact Or.inl (hin.entries payload hmem entry hentry).2
  | deliverForeign p payload rollbackEnabled localFrame =>
    unfold State.step at hstep
    dsimp only at hstep
    split at hstep
    · next hforeign =>
      obtain rfl := Option.some.inj hstep
      have hsame : (s.side p).receive m rollbackEnabled localFrame payload = s.side p := by
        unfold Side.receive
        rw [Peer.receive_of_foreign rollbackEnabled localFrame _ hforeign]
      rw [hsame]
      exact ⟨p, s.side p, [], rfl, h.put_same rfl (Runtime.stored_self _ _) rfl⟩
    · exact absurd hstep (by simp)
  | predict p rollbackInputs =>
    obtain rfl := Option.some.inj hstep
    exact ⟨p, _, [], rfl, h.put_same rfl (Runtime.stored_rollbackInputs _ rollbackInputs) rfl⟩

/-- Each operation keeps the invariant. -/
theorem consistent_step {m : Match} (s : State) (op : Op) (t : State) (h : Consistent m s)
    (hstep : s.step m op = some t) : Consistent m t := by
  obtain ⟨p, a, payloads, rfl, hchanges⟩ := step_changes h hstep
  exact hchanges.consistent h

/-- So does a run. -/
theorem consistent_run {m : Match} {s : State} {es : List Op}
    (hs : Run.run (State.step m) State.init es = some s) : Consistent m s :=
  Run.run_invariant' consistent_step (consistent_init m) hs

theorem grows_step {m : Match} {s : State} {op : Op} {t : State} (h : Consistent m s)
    (hstep : s.step m op = some t) (q : Fin 2) : Grows m (s.side q) (t.side q) := by
  obtain ⟨p, a, payloads, rfl, hchanges⟩ := step_changes h hstep
  rcases eq_or_eq_other p q with rfl | rfl
  · rw [Net.put_side_self]
    exact hchanges.grows
  · rw [Net.put_side_other]
    exact Grows.refl m _

/-- In a run, each side only learns more. -/
theorem grows_run {m : Match} {s t : State} {es : List Op} (h : Consistent m s)
    (ht : Run.run (State.step m) s es = some t) (q : Fin 2) : Grows m (s.side q) (t.side q) := by
  have hok : Run.Along (State.step m) (fun _ _ => True) s es :=
    Run.along_of_forall fun _ _ => trivial
  refine Run.run_relation (R := fun s t : State => Grows m (s.side q) (t.side q))
    (fun s => Grows.refl m (s.side q)) (fun s t r h h' => Grows.trans h h') ?_ h hok ht
  intro s op t hs _ hstep
  exact ⟨consistent_step s op t hs hstep, grows_step hs hstep q⟩

/-! ## Delivery -/

/-- What holds between a sender `p` and its receiver in a state `s` and any later state `t`. -/
structure Delivery (m : Match) (s t : State) (p : Fin 2) : Prop where
  /-- What the receiver counts as received is what the sender has recorded, and what a sender that
  has not accepted the start yet will record. -/
  received : ∀ highest, (s.side (other p)).inputs.highestContiguousRemoteFrame = some highest →
    ∀ f, m.epoch ≤ f → f ≤ highest →
      ∃ v, (s.side (other p)).inputs.remoteInputs[f]? = some v ∧
        ((s.side p).nextFrame ≠ none → (s.side p).inputs.localInputs[f]? = some v) ∧
        ((s.side p).nextFrame = none → v = neutralInput)
  /-- An acknowledgement was earned. -/
  acknowledged : AtMost (s.side p).remoteAckFrame
    (s.side (other p)).inputs.highestContiguousRemoteFrame
  /-- Acknowledgements never go back, and a recorded input never changes. -/
  monotone : AtMost (s.side p).remoteAckFrame (t.side p).remoteAckFrame ∧
    ∀ (f : Nat) (v : InputState), (s.side p).inputs.localInputs[f]? = some v →
      (t.side p).inputs.localInputs[f]? = some v
  /-- Whatever is in flight carries recorded inputs. -/
  carried : ∀ payload ∈ s.sent p, ∀ entry ∈ payload.entries,
    (s.side p).inputs.localInputs[entry.frame]? = some entry.input
  /-- Every bundle is a run of frames that starts at or before the first one the receiver misses. -/
  reaching : ∀ entries ackFrame, Payload.bundle entries ackFrame ∈ s.sent p →
    ∃ first length, 0 < length ∧ entries.map FramedInput.frame = List.range' first length ∧
      first ≤ firstMissingFrame m (s.side (other p))

theorem inputs_delivered {m : Match} {es fs : List Op} {s t : State}
    (hs : Run.run (State.step m) State.init es = some s)
    (ht : Run.run (State.step m) s fs = some t) (p : Fin 2) : Delivery m s t p := by
  have h := consistent_run hs
  have hgrows := grows_run h ht p
  have hlink := h.link p
  refine ⟨?_, hlink.remoteAck, ⟨hgrows.remoteAck, hgrows.localInputs⟩, ?_, hlink.bundles⟩
  · intro highest hhighest f h₁ h₂
    cases hnext : (s.side (other p)).nextFrame with
    | none =>
      rw [((h.valid (other p)).waiting hnext).highest] at hhighest
      exact absurd hhighest (by simp)
    | some n =>
      obtain ⟨-, hall⟩ := ((h.valid (other p)).started n hnext).contiguous highest hhighest
      obtain ⟨v, hv⟩ := hall f h₁ h₂
      refine ⟨v, hv, ?_, ?_⟩
      · intro hstarted
        rcases hlink.remoteInputs f v hv with hlocal | ⟨hnone, -⟩
        · exact hlocal
        · exact absurd hnone hstarted
      · intro hwaiting
        rcases hlink.remoteInputs f v hv with hlocal | ⟨-, -, -, hv⟩
        · rw [((h.valid p).waiting hwaiting).localInputs] at hlocal
          exact absurd hlocal (by simp)
        · exact hv
  · intro payload hp entry hentry
    exact (hlink.entries payload hp entry hentry).2

/-- A key is pressed. -/
def pressed : InputState := { keyMask := 0xFFE }

/-- The first packet of side 0 is lost and the second one repeats its input; the answer acknowledges
both. -/
def lossyRun : List Op :=
  [.prime 0, .prime 1, .sample 0 pressed 8 true, .sample 0 {} 8 true, .deliver 1 1 false 0,
    .sample 1 {} 8 true, .deliver 0 0 false 0]

/-- A match for the examples. -/
def lossyMatch : Match :=
  { generation := 3, epoch := 10, delay := 2, epoch_pos := by decide, fits := by decide }

theorem inputs_delivered_lossyRun :
    let s := Run.final (State.step lossyMatch) State.init lossyRun
    let t := Run.final (State.step lossyMatch) s [.sample 0 {} 8 true]
    (s.side 1).inputs.remoteInputs[12]? = some pressed ∧
      (s.side 0).remoteAckFrame = some 13 ∧ (t.sent 0).length = 3 ∧ Delivery lossyMatch s t 0 := by
  intro s t
  refine ⟨by decide +kernel, by decide +kernel, by decide +kernel, ?_⟩
  have hs := Run.run_eq_final (State.step lossyMatch) State.init lossyRun (by decide +kernel)
  have ht := Run.run_eq_final (State.step lossyMatch) s [.sample 0 {} 8 true] (by decide +kernel)
  exact inputs_delivered hs ht 0

end Bigstar.Netplay.InputExchange
