import Bigstar.Netplay.Proofs.JitScratchProofs
import Bigstar.Netplay.Proofs.PacketStoreProofs
import Bigstar.Netplay.Proofs.WireProtocolProofs

/-!
# One console of the packet bridge

What a console sends is what its game has built, with the tick of the frame and the buttons that
were polled for it. What its store, its queues and its progress hold was captured by this console or
received by it.
-/

namespace Bigstar.Netplay.PacketBridge

open OrderedMap LittleEndian LiveReplayPackets
open JitScratch (keysOf keysOf_lt)

/-! ## Halfwords of a packet -/

section Halfwords

variable {packet : List UInt8} {offset value : Nat}

/-- A half word is two bytes. -/
theorem readLE_two (bytes : List UInt8) (offset : Nat) :
    readLE 2 bytes offset =
      (bytes[offset]?.getD 0).toNat + 256 * (bytes[offset + 1]?.getD 0).toNat := by
  have h₀ : (bytes.drop offset)[0]? = bytes[offset]? := List.getElem?_drop
  have h₁ : (bytes.drop offset)[1]? = bytes[offset + 1]? := List.getElem?_drop
  unfold readLE
  rw [← h₀, ← h₁]
  cases bytes.drop offset with
  | nil => rfl
  | cons first rest =>
    cases rest with
    | nil => rfl
    | cons second rest =>
      simp [ofBytes]

@[simp]
theorem length_withHalfword : (withHalfword packet offset value).length = packet.length := by
  simp [withHalfword]

theorem getElem?_withHalfword_of_ne {i : Nat} (h₀ : i ≠ offset) (h₁ : i ≠ offset + 1) :
    (withHalfword packet offset value)[i]? = packet[i]? := by
  unfold withHalfword
  rw [List.getElem?_set_ne (Ne.symm h₁), List.getElem?_set_ne (Ne.symm h₀)]

/-- Writing a half word leaves the others alone. -/
theorem readLE_withHalfword_apart {offset' : Nat}
    (h : offset' + 2 ≤ offset ∨ offset + 2 ≤ offset') :
    readLE 2 (withHalfword packet offset value) offset' = readLE 2 packet offset' := by
  rw [readLE_two, readLE_two, getElem?_withHalfword_of_ne (by omega) (by omega),
    getElem?_withHalfword_of_ne (by omega) (by omega)]

/-- What is written is what is read. -/
theorem readLE_withHalfword (hlength : offset + 2 ≤ packet.length) (hvalue : value < 2 ^ 16) :
    readLE 2 (withHalfword packet offset value) offset = value := by
  have hfirst : (withHalfword packet offset value)[offset]? = some (UInt8.ofNat value) := by
    unfold withHalfword
    rw [List.getElem?_set_ne (by omega), List.getElem?_set_self (by omega)]
  have hsecond : (withHalfword packet offset value)[offset + 1]? =
      some (UInt8.ofNat (value / 256)) := by
    unfold withHalfword
    rw [List.getElem?_set_self (by rw [List.length_set]; omega)]
  rw [readLE_two, hfirst, hsecond]
  simp only [Option.getD_some, UInt8.toNat_ofNat']
  omega

end Halfwords

/-! ## What a console captures -/

/-- The frame from which `canonicalTick` counts. -/
def IntegrationContext.startFrame (c : IntegrationContext) : Nat :=
  if c.sharedLogicalEpoch ≠ 0 then c.sharedLogicalEpoch else c.config.forceTickStartFrame

/-- The tick of the game is overridden in this frame. -/
structure IntegrationContext.Forces (c : IntegrationContext) (frame : Nat) : Prop where
  enabled : c.config.forceTickEnabled = true
  epoch : c.sharedLogicalEpoch ≤ frame
  base : 0 ≤ c.config.forceTickBase
  start : c.startFrame ≤ frame

/-- A packet of a console, as it is sent. -/
structure IsCapture (c : IntegrationContext) (polled : InputMap) (w : WireNSMLPacket) : Prop where
  fits : Fits w
  generation : w.generation = c.generation.toNat
  packetTick : packetTick w.packet = w.tick
  forced : c.Forces w.frame →
    w.tick = (c.config.forceTickBase.toNat + (w.frame - c.startFrame)) % 0x10000
  keys : ∀ input, polled[w.frame]? = some input → packetKeys w.packet = keysOf input

namespace Console

variable {c : IntegrationContext} {s : Console}

/-- From the start frame on, ticks are counted from the base. -/
theorem canonicalTick_of_forces {frame observed : Nat} (h : c.Forces frame) :
    canonicalTick c.config c.sharedLogicalEpoch frame observed =
      (c.config.forceTickBase.toNat + (frame - c.startFrame)) % 0x10000 := by
  obtain ⟨henabled, -, hbase, hstart⟩ := h
  have hgo : ¬ ((!c.config.forceTickEnabled) = true ∨ frame < c.startFrame ∨
      c.config.forceTickBase < 0) := by
    rw [henabled]
    simp only [Bool.not_true, Bool.false_eq_true, false_or, not_or, not_lt]
    exact ⟨hstart, hbase⟩
  unfold canonicalTick
  exact if_neg hgo

/-- A tick has 16 bits. -/
theorem canonicalTick_lt {frame observed : Nat} (h : observed < 2 ^ 16) :
    canonicalTick c.config c.sharedLogicalEpoch frame observed < 2 ^ 16 := by
  unfold canonicalTick
  generalize (if c.sharedLogicalEpoch ≠ 0 then c.sharedLogicalEpoch else
    c.config.forceTickStartFrame) =
    startFrame
  dsimp only
  split
  · exact h
  · exact Nat.mod_lt _ (by decide)

theorem length_overrideInput (packet : List UInt8) :
    (s.overrideInput packet).length = packet.length := by
  unfold overrideInput
  cases s.runtime.packetInput s.frame with
  | none => rfl
  | some input => exact length_withHalfword

/-- The keys do not touch the tick. -/
theorem packetTick_overrideInput (packet : List UInt8) :
    packetTick (s.overrideInput packet) = packetTick packet := by
  unfold overrideInput
  cases s.runtime.packetInput s.frame with
  | none => rfl
  | some input => exact readLE_withHalfword_apart (Or.inl (Nat.le_refl 2))

/-- The packet has the keys that were stored for its frame. -/
theorem packetKeys_overrideInput {packet : List UInt8} (hlength : packet.length = kPacketBytes)
    {input : InputState} (h : s.runtime.packetInputs[s.frame]? = some input) :
    packetKeys (s.overrideInput packet) = keysOf input := by
  have hinput : s.runtime.packetInput s.frame = some input := by
    unfold Runtime.packetInput
    rw [h]
    rfl
  have hbound : 2 + 2 ≤ packet.length := by
    rw [hlength]
    decide
  unfold overrideInput
  rw [hinput]
  exact readLE_withHalfword hbound (keysOf_lt input)

/-- What the override of the tick leaves of a packet. -/
structure ForcedFrom (c : IntegrationContext) (frame : Nat) (packet : List UInt8)
    (r : Nat × List UInt8) : Prop where
  length : r.2.length = packet.length
  packetTick : PacketBridge.packetTick r.2 = r.1
  forced : c.Forces frame → r.1 = (c.config.forceTickBase.toNat + (frame - c.startFrame)) % 0x10000
  keys : packetKeys r.2 = packetKeys packet

/-- What is sent has the tick of its frame, and is the captured packet otherwise. -/
theorem forcedFrom_forceTick {packet : List UInt8} (hlength : packet.length = kPacketBytes) :
    ForcedFrom c s.frame packet (s.forceTick c (packetTick packet) packet) := by
  unfold forceTick
  by_cases hforce : c.config.forceTickEnabled = true ∧ c.sharedLogicalEpoch ≤ s.frame ∧
      0 ≤ c.config.forceTickBase
  · have hbound : 0 + 2 ≤ packet.length := by
      rw [hlength]
      decide
    rw [if_pos hforce]
    refine ⟨length_withHalfword, ?_, canonicalTick_of_forces, ?_⟩
    · exact readLE_withHalfword hbound (canonicalTick_lt (packetTick_lt packet))
    · exact readLE_withHalfword_apart (Or.inr (Nat.le_refl 2))
  · rw [if_neg hforce]
    exact ⟨rfl, rfl, fun h => absurd ⟨h.enabled, h.epoch, h.base⟩ hforce, rfl⟩

/-- There are two players. -/
theorem localPlayerID_le (mem : Arm.Memory) : localPlayerID c mem ≤ 1 := by
  unfold localPlayerID
  split
  · next h => omega
  · split
    · omega
    · omega

/-- The packet that is sent is a capture of its frame. -/
theorem isCapture_of_outgoingPacket {mem : Arm.Memory} {captured : LocalPacket} {w : WireNSMLPacket}
    (hframe : s.frame < 2 ^ 32) (h : s.outgoingPacket c mem captured = some w)
    (hinputs : ∀ input, s.polled[s.frame]? = some input →
      s.runtime.packetInputs[s.frame]? = some input) :
    IsCapture c s.polled w ∧ w.frame = s.frame ∧ w.player = localPlayerID c mem := by
  have hlength := captured.length_packet
  have hoverride : (s.overrideInput captured.packet).length = kPacketBytes := by
    rw [length_overrideInput, hlength]
  have hforced := forcedFrom_forceTick (c := c) (s := s) hoverride
  rw [packetTick_overrideInput, captured.packetTick_eq] at hforced
  unfold outgoingPacket at h
  generalize s.forceTick c captured.tick (s.overrideInput captured.packet) = r at h hforced
  obtain ⟨tick, packet⟩ := r
  obtain ⟨hlen, htick, hforces, hkeys⟩ := hforced
  dsimp only at h hlen htick hforces hkeys
  have hsent := h
  unfold PacketBridge.prepareOutgoingPacket at h
  rw [if_neg (Nat.not_lt.mpr (localPlayerID_le mem))] at h
  obtain rfl := Option.some.inj h
  refine ⟨⟨⟨hsent, c.generation.toNat_lt, hframe, ?_, ?_⟩, rfl, htick, hforces, ?_⟩, rfl, rfl⟩
  · dsimp only
    rw [← htick]
    exact Nat.lt_trans (packetTick_lt packet) (by decide)
  · dsimp only
    rw [hlen, hoverride]
  · intro input hinput
    dsimp only at hinput ⊢
    rw [hkeys]
    exact packetKeys_overrideInput hlength (hinputs input hinput)

/-! ## Steps that only receive and send -/

/-- What most operations leave alone. -/
structure Keeps (s s' : Console) : Prop where
  frame : s'.frame = s.frame
  phase : s'.phase = s.phase
  polled : s'.polled = s.polled
  captured : s'.captured = s.captured
  packetInputs : s'.runtime.packetInputs = s.runtime.packetInputs

theorem Keeps.refl (s : Console) : Keeps s s := ⟨rfl, rfl, rfl, rfl, rfl⟩

theorem Keeps.trans {s s' s'' : Console} (h : Keeps s s') (h' : Keeps s' s'') : Keeps s s'' where
  frame := h'.frame.trans h.frame
  phase := h'.phase.trans h.phase
  polled := h'.polled.trans h.polled
  captured := h'.captured.trans h.captured
  packetInputs := h'.packetInputs.trans h.packetInputs

/-- What an accepted packet does to a console. -/
def accept (c : IntegrationContext) (hasNds : Bool) (s : Console) (packet : WireNSMLPacket) :
    Console :=
  { s with
    live :=
      if c.config.enabled && hasNds then s.live.push packet.player packet.packet else s.live
    runtime :=
      (if c.config.enabled && hasNds then s.runtime
        else s.runtime.queuePendingPacket packet).recordReceivedPacket packet.player
          packet.tick packet.frame
    received := s.received ++ [packet] }

/-- A packet is dropped or accepted. -/
theorem receivePacketLocked_eq (hasNds : Bool) (s : Console) (data : List UInt8) :
    s.receivePacketLocked c hasNds data =
      ((receivePacket c.generation.toNat data).elim s fun packet => s.accept c hasNds packet) := by
  unfold receivePacketLocked accept
  cases receivePacket c.generation.toNat data with
  | none => rfl
  | some packet =>
    cases c.config.enabled && hasNds with
    | true => rfl
    | false => rfl

theorem recordReceivedPacket_keeps (r : Runtime) (player tick frame : Nat) :
    (r.recordReceivedPacket player tick frame).packetInputs = r.packetInputs ∧
      (r.recordReceivedPacket player tick frame).pendingPackets = r.pendingPackets ∧
      (r.recordReceivedPacket player tick frame).delayedPackets = r.delayedPackets := by
  unfold Runtime.recordReceivedPacket
  split
  · exact ⟨rfl, rfl, rfl⟩
  · exact ⟨rfl, rfl, rfl⟩

/-- Accepting a packet touches nothing of this console's own. -/
theorem keeps_accept (hasNds : Bool) (s : Console) (packet : WireNSMLPacket) :
    Keeps s (s.accept c hasNds packet) := by
  refine ⟨rfl, rfl, rfl, rfl, ?_⟩
  unfold accept
  dsimp only
  rw [(recordReceivedPacket_keeps _ _ _ _).1]
  cases c.config.enabled && hasNds with
  | true => rfl
  | false => rfl

theorem delayedPackets_accept (hasNds : Bool) (s : Console) (packet : WireNSMLPacket) :
    (s.accept c hasNds packet).runtime.delayedPackets = s.runtime.delayedPackets := by
  unfold accept
  dsimp only
  rw [(recordReceivedPacket_keeps _ _ _ _).2.2]
  cases c.config.enabled && hasNds with
  | true => rfl
  | false => rfl

/-- The packets of all that has arrived. -/
def accepted (c : IntegrationContext) (arrived : List (List UInt8)) : List WireNSMLPacket :=
  arrived.filterMap (receivePacket c.generation.toNat)

/-- Of all that arrives, the packets of this generation are accepted in turn. -/
theorem foldl_receivePacketLocked (hasNds : Bool) (arrived : List (List UInt8)) (s : Console) :
    arrived.foldl (receivePacketLocked c hasNds) s = (accepted c arrived).foldl
      (accept c hasNds) s := by
  induction arrived generalizing s with
  | nil => rfl
  | cons data arrived ih =>
    rw [List.foldl_cons, ih, receivePacketLocked_eq]
    unfold accepted
    rw [List.filterMap_cons]
    cases receivePacket c.generation.toNat data with
    | none => rfl
    | some packet => rfl

/-- What packets that are accepted one after the other leave alone, and what becomes of them. -/
theorem keeps_foldl_accept (hasNds : Bool) (packets : List WireNSMLPacket) (s : Console) :
    Keeps s (packets.foldl (accept c hasNds) s) ∧
      (packets.foldl (accept c hasNds) s).runtime.delayedPackets = s.runtime.delayedPackets ∧
      (packets.foldl (accept c hasNds) s).now = s.now ∧
      (packets.foldl (accept c hasNds) s).received = s.received ++ packets := by
  induction packets generalizing s with
  | nil => exact ⟨Keeps.refl s, rfl, rfl, (List.append_nil _).symm⟩
  | cons packet packets ih =>
    obtain ⟨hkeeps, hdelayed, hnow, hreceived⟩ := ih (s.accept c hasNds packet)
    rw [List.foldl_cons]
    refine ⟨(keeps_accept hasNds s packet).trans hkeeps, ?_, hnow, ?_⟩
    · rw [hdelayed, delayedPackets_accept]
    · rw [hreceived]
      unfold accept
      simp

/-- Handing the packets on touches nothing of this console's own. -/
theorem keeps_applyPendingPacketsLocked (s : Console) :
    Keeps s (s.applyPendingPacketsLocked c) ∧
      (s.applyPendingPacketsLocked c).runtime.delayedPackets = s.runtime.delayedPackets ∧
      (s.applyPendingPacketsLocked c).now = s.now ∧
      (s.applyPendingPacketsLocked c).received = s.received ∧
      (s.applyPendingPacketsLocked c).runtime.receivedProgress = s.runtime.receivedProgress := by
  unfold applyPendingPacketsLocked
  split
  · exact ⟨Keeps.refl s, rfl, rfl, rfl, rfl⟩
  · exact ⟨⟨rfl, rfl, rfl, rfl, rfl⟩, rfl, rfl, rfl, rfl⟩

/-- Whether a console can send. -/
def online (c : IntegrationContext) (connected : Bool) : Bool := c.config.enabled && connected

/-- Which of the packets that are held back a flush sends. -/
def flushes (c : IntegrationContext) (connected : Bool) (frame now : Nat)
    (delayed : DelayedPacket) : Bool :=
  online c connected && Runtime.isDue frame now delayed

/-- What is due is sent, the rest stays. -/
theorem flushDelayedPacketsLocked_eq (connected : Bool) (now : Nat) (s : Console) :
    s.flushDelayedPacketsLocked c connected now =
      ({ s with
          runtime :=
            { s.runtime with
              delayedPackets :=
                s.runtime.delayedPackets.filter fun d => !flushes c connected s.frame now d } },
        (s.runtime.delayedPackets.filter (flushes c connected s.frame now)).map fun d =>
          d.packet.image) := by
  unfold flushDelayedPacketsLocked flushes online
  cases c.config.enabled with
  | false => simp
  | true =>
    cases connected with
    | false => simp
    | true =>
      simp only [Bool.true_and, Bool.not_true, Bool.false_eq_true, or_self, if_false]
      unfold Runtime.takeDueOutgoingPackets
      simp

/-- What a pump does: a flush, then what has arrived is accepted, then what was pending is
applied. -/
theorem pumpLocked_eq (connected : Bool) (now : Nat) (arrived : List (List UInt8)) (s : Console) :
    s.pumpLocked c connected now arrived =
      (((accepted c arrived).foldl (accept c true)
          { s with
            now
            runtime :=
              { s.runtime with
                delayedPackets :=
                  s.runtime.delayedPackets.filter fun d => !flushes c connected s.frame now d } }
          ).applyPendingPacketsLocked c,
        (s.runtime.delayedPackets.filter (flushes c connected s.frame now)).map fun d =>
          d.packet.image) := by
  unfold pumpLocked
  rw [flushDelayedPacketsLocked_eq]
  dsimp only
  rw [foldl_receivePacketLocked]

/-- What a pump changes outside of the store. -/
structure Pumped (c : IntegrationContext) (connected : Bool) (now : Nat)
    (arrived : List (List UInt8)) (s : Console) (r : Console × List (List UInt8)) : Prop where
  keeps : Keeps s r.1
  clock : r.1.now = now
  delayed : r.1.runtime.delayedPackets =
    s.runtime.delayedPackets.filter fun d => !flushes c connected s.frame now d
  sent : r.2 = (s.runtime.delayedPackets.filter (flushes c connected s.frame now)).map fun d =>
    d.packet.image
  received : r.1.received = s.received ++ accepted c arrived

/-- A pump sends what is due and takes what has arrived. -/
theorem pumped_pumpLocked (connected : Bool) (now : Nat)
    (arrived : List (List UInt8)) (s : Console) :
    Pumped c connected now arrived s (s.pumpLocked c connected now arrived) := by
  rw [pumpLocked_eq]
  obtain ⟨hkeeps, hdelayed, hnow, hreceived⟩ :=
    keeps_foldl_accept (c := c) true (accepted c arrived)
    { s with
      now
      runtime :=
        { s.runtime with
          delayedPackets := s.runtime.delayedPackets.filter fun d =>
            !flushes c connected s.frame now d } }
  obtain ⟨hkeeps', hdelayed', hnow', hreceived', -⟩ := keeps_applyPendingPacketsLocked (c := c)
    ((accepted c arrived).foldl (accept c true)
      { s with
        now
        runtime :=
          { s.runtime with
            delayedPackets := s.runtime.delayedPackets.filter fun d =>
              !flushes c connected s.frame now d } })
  refine ⟨?_, hnow'.trans hnow, hdelayed'.trans hdelayed, rfl, hreceived'.trans hreceived⟩
  have hstart := hkeeps.trans hkeeps'
  exact ⟨hstart.frame, hstart.phase, hstart.polled, hstart.captured, hstart.packetInputs⟩

/-! ## What a capture does -/

/-- What is put off of a packet that is to be sent. -/
def heldBack (c : IntegrationContext) (connected : Bool) (now : Nat) (w : WireNSMLPacket) :
    List DelayedPacket :=
  if online c connected ∧ 0 < sendDelayFrames c.config w.frame then
    [{ releaseFrame := u32 (w.frame + (sendDelayFrames c.config w.frame).toNat)
       releaseTime := now + delayTime (sendDelayFrames c.config w.frame)
       packet := w }]
  else []

/-- What is sent at once of it. -/
def sentAtOnce (c : IntegrationContext) (connected : Bool) (w : WireNSMLPacket) :
    List (List UInt8) :=
  if online c connected ∧ sendDelayFrames c.config w.frame ≤ 0 then [w.image] else []

/-- A packet is sent at once or put off. -/
theorem sendPacketLocked_eq (connected : Bool) (now : Nat) (s : Console) (w : WireNSMLPacket) :
    s.sendPacketLocked c connected now w =
      ({ s with
          runtime :=
            { s.runtime with
              delayedPackets := s.runtime.delayedPackets ++ heldBack c connected now w } },
        sentAtOnce c connected w) := by
  unfold sendPacketLocked heldBack sentAtOnce online
  cases c.config.enabled with
  | false => simp
  | true =>
    cases connected with
    | false => simp
    | true =>
      unfold Runtime.prepareOutgoingPacket
      by_cases hdelay : sendDelayFrames c.config w.frame ≤ 0
      · have hnot : ¬ 0 < sendDelayFrames c.config w.frame := not_lt.mpr hdelay
        simp [hdelay, hnot]
      · have hpos : 0 < sendDelayFrames c.config w.frame := not_le.mp hdelay
        simp [hdelay, hpos]

/-- What a console does with the packet `w` that it has captured. -/
structure Sent (c : IntegrationContext) (connected : Bool) (now : Nat) (s : Console)
    (w : WireNSMLPacket) (r : Console × List (List UInt8)) : Prop where
  frame : r.1.frame = s.frame
  phase : r.1.phase = s.phase
  clock : r.1.now = s.now
  polled : r.1.polled = s.polled
  live : r.1.live = s.live.push w.player w.packet
  captured : r.1.captured = s.captured ++ [w]
  received : r.1.received = s.received
  pending : r.1.runtime.pendingPackets = s.runtime.pendingPackets
  progress : r.1.runtime.receivedProgress = s.runtime.receivedProgress
  inputs : r.1.runtime.packetInputs = (s.runtime.prunePacketInputs s.frame 240).packetInputs
  delayed : r.1.runtime.delayedPackets = s.runtime.delayedPackets ++ heldBack c connected now w
  sent : r.2 = sentAtOnce c connected w

/-- A captured packet is kept, and sent at once or put off. -/
theorem sent_keepAndSend (connected : Bool) (now : Nat) (s : Console) (w : WireNSMLPacket) :
    Sent c connected now s w (s.keepAndSend c connected now w) := by
  unfold keepAndSend
  dsimp only
  rw [sendPacketLocked_eq]
  exact ⟨rfl, rfl, rfl, rfl, rfl, rfl, rfl, rfl, rfl, rfl, rfl, rfl⟩

/-- A capture yields nothing, or a packet that is kept and sent. -/
theorem captureAndSendPacketLocked_cases (connected : Bool) (now : Nat) (inContext : Bool)
    (mem : Arm.Memory) (taken : Option LocalPacket) (s : Console) :
    s.captureAndSendPacketLocked c connected now inContext mem taken = (s, []) ∨
      ∃ captured w, captureLocalPacket c inContext mem taken = some captured ∧
        s.outgoingPacket c mem captured = some w ∧
        s.captureAndSendPacketLocked c connected now inContext mem taken =
          s.keepAndSend c connected now w := by
  unfold captureAndSendPacketLocked
  split
  · exact Or.inl rfl
  · cases hcapture : captureLocalPacket c inContext mem taken with
    | none => exact Or.inl rfl
    | some captured =>
      rw [Option.bind_some]
      cases hsend : s.outgoingPacket c mem captured with
      | none => exact Or.inl rfl
      | some w => exact Or.inr ⟨captured, w, rfl, hsend, rfl⟩

/-! ## The invariant -/

/-- A console has captured only what its frames allow, and what it holds was captured or
received. -/
structure Inv (c : IntegrationContext) (leftover : LiveReplayPackets) (s : Console) : Prop where
  frame_lt : s.frame < 2 ^ 31
  captured : ∀ w ∈ s.captured, IsCapture c s.polled w
  captured_frame : ∀ w ∈ s.captured, w.frame < s.frame ∨ w.frame = s.frame ∧ s.phase = .throttling
  live : ∀ q t found, s.live.packetAt q t = some found → leftover.packetAt q t = some found ∨
    ∃ w, (w ∈ s.captured ∨ w ∈ s.received) ∧ w.player = q ∧ PacketBridge.packetTick w.packet = t ∧
      w.packet = found
  ticks : TicksFit s.live
  pending : ∀ w ∈ s.runtime.pendingPackets, w ∈ s.received
  progress : ∀ q, s.runtime.receivedProgress q = {} ∨
    ∃ w ∈ s.received, w.player = q ∧ s.runtime.receivedProgress q =
      { tick := w.tick, frame := w.frame }
  inputs : ∀ f, s.frame ≤ f + 240 → s.runtime.packetInputs[f]? = s.polled[f]?
  polled_le : ∀ f input, s.polled[f]? = some input → f ≤ s.frame ∧ (f = s.frame → s.phase ≠ .before)

variable {leftover : LiveReplayPackets}

/-- A console that begins knows nothing but what an earlier game has left. -/
theorem inv_init {start : Nat} (hstart : start < 2 ^ 31) (hticks : TicksFit leftover) :
    Inv c leftover { frame := start, live := leftover } where
  frame_lt := hstart
  captured w hw := absurd hw List.not_mem_nil
  captured_frame w hw := absurd hw List.not_mem_nil
  live q t found h := Or.inl h
  ticks := hticks
  pending w hw := absurd hw List.not_mem_nil
  progress q := Or.inl rfl
  inputs f _ := rfl
  polled_le f input h := by simp at h

/-- What the invariant needs of a console that has only received. -/
theorem Inv.of_keeps {s s' : Console} (h : Inv c leftover s) (hkeeps : Keeps s s')
    (hlive : ∀ q t found, s'.live.packetAt q t = some found → s.live.packetAt q t = some found ∨
      ∃ w ∈ s'.received, w.player = q ∧ PacketBridge.packetTick w.packet = t ∧ w.packet = found)
    (hticks : TicksFit s'.live) (hreceived : ∀ w ∈ s.received, w ∈ s'.received)
    (hpending : ∀ w ∈ s'.runtime.pendingPackets, w ∈ s'.received)
    (hprogress : ∀ q, s'.runtime.receivedProgress q = s.runtime.receivedProgress q ∨
      ∃ w ∈ s'.received, w.player = q ∧
        s'.runtime.receivedProgress q = { tick := w.tick, frame := w.frame }) :
    Inv c leftover s' := by
  constructor
  case frame_lt =>
    rw [hkeeps.frame]
    exact h.frame_lt
  case captured =>
    rw [hkeeps.captured, hkeeps.polled]
    exact h.captured
  case captured_frame =>
    rw [hkeeps.captured, hkeeps.frame, hkeeps.phase]
    exact h.captured_frame
  case live =>
    intro q t found hfound
    rcases hlive q t found hfound with hold | ⟨w, hw, hplayer, htick, hpacket⟩
    · rcases h.live q t found hold with hleft | ⟨w, hw, hplayer, htick, hpacket⟩
      · exact Or.inl hleft
      · refine Or.inr ⟨w, ?_, hplayer, htick, hpacket⟩
        rw [hkeeps.captured]
        exact hw.imp id (hreceived w)
    · exact Or.inr ⟨w, Or.inr hw, hplayer, htick, hpacket⟩
  case ticks => exact hticks
  case pending => exact hpending
  case progress =>
    intro q
    rcases hprogress q with hold | hnew
    · rw [hold]
      rcases h.progress q with hunset | ⟨w, hw, hplayer, heq⟩
      · exact Or.inl hunset
      · exact Or.inr ⟨w, hreceived w hw, hplayer, heq⟩
    · exact Or.inr hnew
  case inputs =>
    rw [hkeeps.frame, hkeeps.packetInputs, hkeeps.polled]
    exact h.inputs
  case polled_le =>
    rw [hkeeps.frame, hkeeps.phase, hkeeps.polled]
    exact h.polled_le

/-- The progress of a player is that of the last packet. -/
theorem progress_recordReceivedPacket (r : Runtime) (w : WireNSMLPacket) (q : Nat) :
    (r.recordReceivedPacket w.player w.tick w.frame).receivedProgress q = r.receivedProgress q ∨
      w.player = q ∧ (r.recordReceivedPacket w.player w.tick w.frame).receivedProgress q =
        { tick := w.tick, frame := w.frame } := by
  unfold Runtime.recordReceivedPacket
  split
  · exact Or.inl rfl
  · by_cases hq : w.player = q
    · subst hq
      exact Or.inr ⟨rfl, Function.update_self _ _ _⟩
    · exact Or.inl (Function.update_of_ne (Ne.symm hq) _ _)

/-- Accepting a packet keeps the invariant. -/
theorem Inv.accept {s : Console} (h : Inv c leftover s) (hasNds : Bool) (w : WireNSMLPacket) :
    Inv c leftover (s.accept c hasNds w) := by
  have hmem : w ∈ (s.accept c hasNds w).received :=
    List.mem_append_right _ (List.mem_singleton_self w)
  have hreceived : ∀ x ∈ s.received, x ∈ (s.accept c hasNds w).received :=
    fun x hx => List.mem_append_left _ hx
  refine h.of_keeps (keeps_accept hasNds s w) ?_ ?_ hreceived ?_ ?_
  · intro q t found hfound
    unfold Console.accept at hfound
    dsimp only at hfound
    split at hfound
    · rcases packetAt_of_push hfound with hold | ⟨hplayer, htick, hpacket⟩
      · exact Or.inl hold
      · exact Or.inr ⟨w, hmem, hplayer.symm, htick.symm, hpacket.symm⟩
    · exact Or.inl hfound
  · unfold Console.accept
    dsimp only
    split
    · exact ticksFit_push h.ticks
    · exact h.ticks
  · intro x hx
    unfold Console.accept at hx
    dsimp only at hx
    rw [(recordReceivedPacket_keeps _ _ _ _).2.1] at hx
    split at hx
    · exact hreceived x (h.pending x hx)
    · rcases List.mem_append.mp hx with hold | hnew
      · exact hreceived x (h.pending x hold)
      · rw [List.mem_singleton.mp hnew]
        exact hmem
  · intro q
    have hprogress := progress_recordReceivedPacket
      (if c.config.enabled && hasNds then s.runtime else s.runtime.queuePendingPacket w) w q
    have hsame : (if c.config.enabled && hasNds then s.runtime
        else s.runtime.queuePendingPacket w).receivedProgress q = s.runtime.receivedProgress q := by
      split
      · rfl
      · rfl
    rw [hsame] at hprogress
    rcases hprogress with hold | ⟨hplayer, hnew⟩
    · exact Or.inl hold
    · exact Or.inr ⟨w, hmem, hplayer, hnew⟩

theorem Inv.foldl_accept {s : Console} (h : Inv c leftover s) (hasNds : Bool)
    (packets : List WireNSMLPacket) :
    Inv c leftover (packets.foldl (Console.accept c hasNds) s) := by
  induction packets generalizing s with
  | nil => exact h
  | cons w packets ih => exact ih (h.accept hasNds w)

/-- A packet in the store was there before, or is one of those pushed. -/
theorem packetAt_foldl_push {packets : List WireNSMLPacket} {live : LiveReplayPackets} {q t : Nat}
    {found : List UInt8}
    (h : (packets.foldl (fun live w => live.push w.player w.packet) live).packetAt
      q t = some found) :
    live.packetAt q t = some found ∨
      ∃ w ∈ packets, w.player = q ∧ PacketBridge.packetTick w.packet = t ∧ w.packet = found := by
  induction packets generalizing live with
  | nil => exact Or.inl h
  | cons w packets ih =>
    rcases ih h with hold | ⟨x, hx, hrest⟩
    · rcases packetAt_of_push hold with hold | ⟨hplayer, htick, hpacket⟩
      · exact Or.inl hold
      · exact Or.inr ⟨w, List.mem_cons_self, hplayer.symm, htick.symm, hpacket.symm⟩
    · exact Or.inr ⟨x, List.mem_cons_of_mem _ hx, hrest⟩

theorem ticksFit_foldl_push {packets : List WireNSMLPacket} {live : LiveReplayPackets}
    (h : TicksFit live) :
    TicksFit (packets.foldl (fun live w => live.push w.player w.packet) live) := by
  induction packets generalizing live with
  | nil => exact h
  | cons w packets ih => exact ih (ticksFit_push h)

theorem Inv.applyPendingPacketsLocked {s : Console} (h : Inv c leftover s) :
    Inv c leftover (s.applyPendingPacketsLocked c) := by
  obtain ⟨hkeeps, -, -, hreceived, hprogress⟩ := keeps_applyPendingPacketsLocked (c := c) s
  refine h.of_keeps hkeeps ?_ ?_ ?_ ?_ ?_
  · intro q t found hfound
    rw [hreceived]
    unfold Console.applyPendingPacketsLocked at hfound
    split at hfound
    · exact Or.inl hfound
    · rcases packetAt_foldl_push hfound with hold | ⟨w, hw, hrest⟩
      · exact Or.inl hold
      · exact Or.inr ⟨w, h.pending w hw, hrest⟩
  · unfold Console.applyPendingPacketsLocked
    split
    · exact h.ticks
    · exact ticksFit_foldl_push h.ticks
  · intro w hw
    rw [hreceived]
    exact hw
  · intro w hw
    rw [hreceived]
    unfold Console.applyPendingPacketsLocked at hw
    split at hw
    · exact h.pending w hw
    · exact absurd hw List.not_mem_nil
  · intro q
    rw [hprogress]
    exact Or.inl rfl

/-- So does a pump. -/
theorem Inv.pumpLocked {s : Console} (h : Inv c leftover s) (connected : Bool) (now : Nat)
    (arrived : List (List UInt8)) : Inv c leftover (s.pumpLocked c connected now arrived).1 := by
  rw [pumpLocked_eq]
  apply Inv.applyPendingPacketsLocked
  apply Inv.foldl_accept
  exact ⟨h.frame_lt, h.captured, h.captured_frame, h.live, h.ticks, h.pending, h.progress, h.inputs,
    h.polled_le⟩

/-- The inputs of the last 240 frames stay. -/
theorem getElem?_prunePacketInputs {r : Runtime} {frame f : Nat} (h : frame ≤ f + 240) :
    (r.prunePacketInputs frame 240).packetInputs[f]? = r.packetInputs[f]? := by
  unfold Runtime.prunePacketInputs
  rw [getElem?_eraseBelow]
  split
  · exact if_pos (by omega)
  · exact if_pos (Nat.zero_le f)

/-- So does capturing a packet of the game. -/
theorem Inv.sent {s : Console} (h : Inv c leftover s) {connected : Bool} {now : Nat}
    {w : WireNSMLPacket} {r : Console × List (List UInt8)} (hr : Sent c connected now s w r)
    (hw : IsCapture c s.polled w) (hframe : w.frame = s.frame) (hphase : s.phase = .throttling) :
    Inv c leftover r.1 := by
  constructor
  case frame_lt =>
    rw [hr.frame]
    exact h.frame_lt
  case captured =>
    intro x hx
    rw [hr.captured] at hx
    rw [hr.polled]
    rcases List.mem_append.mp hx with hold | hnew
    · exact h.captured x hold
    · rw [List.mem_singleton.mp hnew]
      exact hw
  case captured_frame =>
    intro x hx
    rw [hr.captured] at hx
    rw [hr.frame, hr.phase]
    rcases List.mem_append.mp hx with hold | hnew
    · exact h.captured_frame x hold
    · rw [List.mem_singleton.mp hnew]
      exact Or.inr ⟨hframe, hphase⟩
  case live =>
    intro q t found hfound
    rw [hr.live] at hfound
    rw [hr.captured, hr.received]
    rcases packetAt_of_push hfound with hold | ⟨hplayer, htick, hpacket⟩
    · rcases h.live q t found hold with hleft | ⟨x, hx, hrest⟩
      · exact Or.inl hleft
      · exact Or.inr ⟨x, hx.imp (List.mem_append_left _) id, hrest⟩
    · exact Or.inr ⟨w, Or.inl (List.mem_append_right _ (List.mem_singleton_self w)), hplayer.symm,
        htick.symm, hpacket.symm⟩
  case ticks =>
    rw [hr.live]
    exact ticksFit_push h.ticks
  case pending =>
    rw [hr.pending, hr.received]
    exact h.pending
  case progress =>
    rw [hr.progress, hr.received]
    exact h.progress
  case inputs =>
    intro f hf
    rw [hr.frame] at hf
    rw [hr.inputs, hr.polled, getElem?_prunePacketInputs hf]
    exact h.inputs f hf
  case polled_le =>
    rw [hr.frame, hr.phase, hr.polled]
    exact h.polled_le

/-- So does the beginning of a frame. -/
theorem Inv.beginFrame {s : Console} (h : Inv c leftover s) (hphase : s.phase = .before)
    (input : InputState) : Inv c leftover (s.beginFrame c input) := by
  have hpast : ∀ w ∈ s.captured, w.frame < s.frame := by
    intro w hw
    rcases h.captured_frame w hw with hlt | ⟨-, hthrottling⟩
    · exact hlt
    · rw [hphase] at hthrottling
      cases hthrottling
  unfold Console.beginFrame
  dsimp only
  split
  · constructor
    case frame_lt => exact h.frame_lt
    case captured =>
      intro w hw
      have hold := h.captured w hw
      refine ⟨hold.fits, hold.generation, hold.packetTick, hold.forced, ?_⟩
      intro polled hpolled
      rw [getElem?_insert_eq, if_neg (by have := hpast w hw; omega)] at hpolled
      exact hold.keys polled hpolled
    case captured_frame => exact fun w hw => Or.inl (hpast w hw)
    case live => exact h.live
    case ticks => exact h.ticks
    case pending => exact h.pending
    case progress => exact h.progress
    case inputs =>
      intro f hf
      unfold Runtime.storePacketInput
      dsimp only
      rw [getElem?_insert_eq, getElem?_insert_eq, h.inputs f hf]
    case polled_le =>
      intro f polled hpolled
      rw [getElem?_insert_eq] at hpolled
      refine ⟨?_, fun _ => nofun⟩
      split at hpolled
      · next heq => exact heq ▸ Nat.le_refl _
      · exact (h.polled_le f polled hpolled).1
  · exact ⟨h.frame_lt, h.captured, fun w hw => Or.inl (hpast w hw), h.live, h.ticks, h.pending,
      h.progress, h.inputs, fun f polled hpolled =>
        ⟨(h.polled_le f polled hpolled).1, fun _ => nofun⟩⟩

/-- The game has run its frame. -/
theorem Inv.throttling {s : Console} (h : Inv c leftover s) (hphase : s.phase = .running) :
    Inv c leftover { s with phase := .throttling } := by
  refine ⟨h.frame_lt, h.captured, ?_, h.live, h.ticks, h.pending, h.progress, h.inputs,
    fun f polled hpolled => ⟨(h.polled_le f polled hpolled).1, fun _ => nofun⟩⟩
  intro w hw
  rcases h.captured_frame w hw with hlt | ⟨-, hthrottling⟩
  · exact Or.inl hlt
  · rw [hphase] at hthrottling
    cases hthrottling

theorem Inv.nextFrame {s : Console} (h : Inv c leftover s) (hframe : s.frame + 1 < 2 ^ 31) :
    Inv c leftover { s with frame := u32 (s.frame + 1), phase := .before } := by
  have hnext : u32 (s.frame + 1) = s.frame + 1 := Nat.mod_eq_of_lt (Nat.lt_trans hframe (by decide))
  rw [hnext]
  refine ⟨hframe, h.captured, ?_, h.live, h.ticks, h.pending, h.progress, ?_, ?_⟩
  · intro w hw
    rcases h.captured_frame w hw with hlt | ⟨heq, -⟩
    · exact Or.inl (Nat.lt_succ_of_lt hlt)
    · exact Or.inl (by dsimp only; omega)
  · intro f hf
    exact h.inputs f (by dsimp only at hf; omega)
  · intro f polled hpolled
    have hle := (h.polled_le f polled hpolled).1
    refine ⟨Nat.le_succ_of_le hle, ?_⟩
    intro heq
    dsimp only at heq
    omega

end Console

/-- The frame counter does not reach the sign bit. -/
def FrameEvent.Fits (s : Console) : FrameEvent → Prop
  | .nextFrame _ _ => s.frame + 1 < 2 ^ 31
  | _ => True

instance decidableFits (s : Console) : (e : FrameEvent) → Decidable (e.Fits s)
  | .nextFrame _ _ => inferInstanceAs (Decidable (s.frame + 1 < 2 ^ 31))
  | .beforeFrame _ _ _ | .afterFrame _ _ _ _ _ | .throttle _ _ | .receive => isTrue trivial

namespace Console

variable {c : IntegrationContext} {leftover : LiveReplayPackets} {s : Console}

/-! ## What a step can do -/

/-- The steps of a console, one by one. -/
theorem step_cases {arrived : List (List UInt8)} {e : FrameEvent} {r : Console × List (List UInt8)}
    (h : s.step c arrived e = some r) :
    (∃ input connected now, e = .beforeFrame input connected now ∧ s.phase = .before ∧ s.now ≤ now ∧
      r = (s.beginFrame c input).pumpLocked c connected now arrived) ∨
    (∃ connected now inContext mem taken, e = .afterFrame connected now inContext mem taken ∧
      s.phase = .running ∧ s.now ≤ now ∧
      r = s.endFrame c connected now inContext mem taken arrived) ∨
    (∃ connected now, e = .throttle connected now ∧ s.phase = .throttling ∧ s.now ≤ now ∧
      r = s.pumpLocked c connected now arrived) ∨
    (e = .receive ∧ r = ((accepted c arrived).foldl (accept c false) s, [])) ∨
    (∃ mem timedOut, e = .nextFrame mem timedOut ∧ s.phase = .throttling ∧ arrived = [] ∧
      s.mayGoOn c mem timedOut = true ∧
      r = ({ s with frame := u32 (s.frame + 1), phase := .before }, [])) := by
  cases e with
  | beforeFrame input connected now =>
    simp only [step, Option.ite_none_right_eq_some, Option.some.injEq] at h
    exact Or.inl ⟨input, connected, now, rfl, h.1.1, h.1.2, h.2.symm⟩
  | afterFrame connected now inContext mem taken =>
    simp only [step, Option.ite_none_right_eq_some, Option.some.injEq] at h
    exact Or.inr (Or.inl ⟨connected, now, inContext, mem, taken, rfl, h.1.1, h.1.2, h.2.symm⟩)
  | throttle connected now =>
    simp only [step, Option.ite_none_right_eq_some, Option.some.injEq] at h
    exact Or.inr (Or.inr (Or.inl ⟨connected, now, rfl, h.1.1, h.1.2, h.2.symm⟩))
  | receive =>
    simp only [step, Option.some.injEq, foldl_receivePacketLocked] at h
    exact Or.inr (Or.inr (Or.inr (Or.inl ⟨rfl, h.symm⟩)))
  | nextFrame mem timedOut =>
    simp only [step, Option.ite_none_right_eq_some, Option.some.injEq] at h
    exact Or.inr (Or.inr (Or.inr (Or.inr ⟨mem, timedOut, rfl, h.1.1, h.1.2.1, h.1.2.2, h.2.symm⟩)))

/-- The end of a frame is a pump, and then a packet is kept and sent, or none. -/
theorem endFrame_cases (connected : Bool) (now : Nat) (inContext : Bool) (mem : Arm.Memory)
    (taken : Option LocalPacket) (arrived : List (List UInt8)) (s : Console) :
    ∃ pumped, Pumped c connected now arrived { s with phase := .throttling } pumped ∧
      pumped = { s with phase := .throttling }.pumpLocked c connected now arrived ∧
      (s.endFrame c connected now inContext mem taken arrived = pumped ∨
        ∃ captured w, captureLocalPacket c inContext mem taken = some captured ∧
          pumped.1.outgoingPacket c mem captured = some w ∧
          s.endFrame c connected now inContext mem taken arrived =
            ((pumped.1.keepAndSend c connected now w).1,
              pumped.2 ++ (pumped.1.keepAndSend c connected now w).2)) := by
  refine ⟨_, pumped_pumpLocked connected now arrived _, rfl, ?_⟩
  unfold endFrame
  dsimp only
  rcases captureAndSendPacketLocked_cases (c := c) connected now inContext mem taken
    ({ s with phase := .throttling }.pumpLocked c connected now arrived).1 with
    heq | ⟨captured, w, hcapture, houtgoing, heq⟩
  · left
    rw [heq, List.append_nil]
  · right
    rw [heq]
    exact ⟨captured, w, hcapture, houtgoing, rfl⟩

/-- So does its end. -/
theorem Inv.endFrame (h : Inv c leftover s) (hphase : s.phase = .running)
    (connected : Bool) (now : Nat)
    (inContext : Bool) (mem : Arm.Memory) (taken : Option LocalPacket)
    (arrived : List (List UInt8)) :
    Inv c leftover (s.endFrame c connected now inContext mem taken arrived).1 := by
  have hpump := (h.throttling hphase).pumpLocked connected now arrived
  obtain ⟨pumped, hpumped, rfl, hend⟩ :=
    endFrame_cases (c := c) connected now inContext mem taken arrived s
  rcases hend with heq | ⟨captured, w, -, houtgoing, heq⟩
  · rw [heq]
    exact hpump
  · rw [heq]
    have hframe : _ < 2 ^ 32 := Nat.lt_trans hpump.frame_lt (by decide)
    obtain ⟨hcapture, hw, -⟩ := isCapture_of_outgoingPacket hframe houtgoing
      (fun input hinput => by rw [hpump.inputs _ (by omega)]; exact hinput)
    have hsent := hpump.sent (sent_keepAndSend connected now _ w) hcapture hw hpumped.keeps.phase
    exact hsent

/-- Each event of a console keeps the invariant. -/
theorem Inv.step (h : Inv c leftover s) {arrived : List (List UInt8)} {e : FrameEvent}
    {r : Console × List (List UInt8)} (hfits : e.Fits s) (hstep : s.step c arrived e = some r) :
    Inv c leftover r.1 := by
  rcases step_cases hstep with ⟨input, connected, now, -, hphase, -, rfl⟩ |
    ⟨connected, now, inContext, mem, taken, -, hphase, -, rfl⟩ | ⟨connected, now, -, -, -, rfl⟩ |
    ⟨-, rfl⟩ | ⟨mem, timedOut, rfl, -, -, -, rfl⟩
  · exact (h.beginFrame hphase input).pumpLocked connected now arrived
  · exact h.endFrame hphase connected now inContext mem taken arrived
  · exact h.pumpLocked connected now arrived
  · exact h.foldl_accept false _
  · exact h.nextFrame hfits

end Console

end Bigstar.Netplay.PacketBridge
