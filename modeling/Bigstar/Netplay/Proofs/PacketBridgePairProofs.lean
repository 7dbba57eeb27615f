import Bigstar.Lib.Run
import Bigstar.Netplay.Proofs.PacketBridgeProofs

/-!
# Both consoles of the packet bridge

Whatever is lost and however packets are held back, a console hands its game only what one of the
two consoles has captured for that player. Where nothing is lost, every packet reaches the other
console and stays in both stores until much newer ones have come.
-/

namespace Bigstar.Netplay.PacketBridge

open OrderedMap LittleEndian LiveReplayPackets TwoParty Console
open JitScratch (keysOf)

/-! ## What a console has to do with the connection -/

/-- Whether a packet that is captured in this event can be sent. -/
def FrameEvent.Online (c : IntegrationContext) : FrameEvent → Prop
  | .afterFrame connected _ _ _ _ => online c connected = true
  | _ => True

/-- A step of a console as seen from outside: what is new, what has gone out and what was put
off. -/
structure Traffic (c : IntegrationContext) (e : FrameEvent)
    (arrived : List (List UInt8)) (s : Console)
    (r : Console × List (List UInt8)) (new : List WireNSMLPacket) : Prop where
  captured : r.1.captured = s.captured ++ new
  received : r.1.received = s.received ++ accepted c arrived
  delayed : ∀ d ∈ r.1.runtime.delayedPackets, d ∈ s.runtime.delayedPackets ∨ d.packet ∈ new
  sent : ∀ data ∈ r.2, (∃ d ∈ s.runtime.delayedPackets, data = d.packet.image) ∨
    ∃ w ∈ new, data = w.image
  kept : ∀ d ∈ s.runtime.delayedPackets, d ∈ r.1.runtime.delayedPackets ∨ d.packet.image ∈ r.2
  new_kept : e.Online c → ∀ w ∈ new,
    (∃ d ∈ r.1.runtime.delayedPackets, d.packet = w) ∨ w.image ∈ r.2

theorem Console.Pumped.traffic {c : IntegrationContext} {e : FrameEvent}
    {connected : Bool} {now : Nat}
    {arrived : List (List UInt8)} {s s₀ : Console} {r : Console × List (List UInt8)}
    (h : Pumped c connected now arrived s₀ r) (hcaptured : s₀.captured = s.captured)
    (hreceived : s₀.received = s.received)
    (hdelayed : s₀.runtime.delayedPackets = s.runtime.delayedPackets) :
    Traffic c e arrived s r [] where
  captured := by rw [h.keeps.captured, hcaptured, List.append_nil]
  received := by rw [h.received, hreceived]
  delayed d hd := by
    rw [h.delayed, hdelayed] at hd
    exact Or.inl (List.mem_filter.mp hd).1
  sent data hdata := by
    rw [h.sent, hdelayed] at hdata
    obtain ⟨d, hd, rfl⟩ := List.mem_map.mp hdata
    exact Or.inl ⟨d, (List.mem_filter.mp hd).1, rfl⟩
  kept d hd := by
    rw [h.delayed, h.sent, hdelayed]
    cases hflush : flushes c connected s₀.frame now d with
    | true => exact Or.inr (List.mem_map.mpr ⟨d, List.mem_filter.mpr ⟨hd, hflush⟩, rfl⟩)
    | false => exact Or.inl (List.mem_filter.mpr ⟨hd, by rw [hflush]; rfl⟩)
  new_kept _ w hw := absurd hw List.not_mem_nil

/-- A packet that is sent while the connection stands goes out or is put off. -/
theorem Console.heldBack_or_sentAtOnce {c : IntegrationContext} {connected : Bool} (now : Nat)
    (w : WireNSMLPacket) (h : online c connected = true) :
    (∃ d ∈ heldBack c connected now w, d.packet = w) ∨ w.image ∈ sentAtOnce c connected w := by
  unfold heldBack sentAtOnce
  by_cases hdelay : 0 < sendDelayFrames c.config w.frame
  · left
    rw [if_pos ⟨h, hdelay⟩]
    exact ⟨_, List.mem_singleton_self _, rfl⟩
  · right
    rw [if_pos ⟨h, not_lt.mp hdelay⟩]
    exact List.mem_singleton_self _

theorem Console.packet_of_mem_heldBack {c : IntegrationContext} {connected : Bool} {now : Nat}
    {w : WireNSMLPacket} {d : DelayedPacket} (h : d ∈ heldBack c connected now w) :
    d.packet = w := by
  unfold heldBack at h
  split at h
  · rw [List.mem_singleton.mp h]
  · cases h

theorem Console.eq_of_mem_sentAtOnce {c : IntegrationContext} {connected : Bool}
    {w : WireNSMLPacket}
    {data : List UInt8} (h : data ∈ sentAtOnce c connected w) : data = w.image := by
  unfold sentAtOnce at h
  split at h
  · exact List.mem_singleton.mp h
  · cases h

theorem Traffic.sent_after {c : IntegrationContext} {connected : Bool}
    {now : Nat} {inContext : Bool}
    {mem : Arm.Memory} {taken : Option LocalPacket} {arrived : List (List UInt8)} {s : Console}
    {pumped r : Console × List (List UInt8)} {w : WireNSMLPacket}
    (h : Traffic c (.afterFrame connected now inContext mem taken) arrived s pumped [])
    (hr : Sent c connected now pumped.1 w r) :
    Traffic c (.afterFrame connected now inContext mem taken) arrived s
      (r.1, pumped.2 ++ r.2) [w] where
  captured := by rw [hr.captured, h.captured, List.append_nil]
  received := by rw [hr.received, h.received]
  delayed d hd := by
    rw [hr.delayed] at hd
    rcases List.mem_append.mp hd with hold | hnew
    · rcases h.delayed d hold with hin | hnone
      · exact Or.inl hin
      · cases hnone
    · right
      rw [packet_of_mem_heldBack hnew]
      exact List.mem_singleton_self w
  sent data hdata := by
    rcases List.mem_append.mp hdata with hold | hnew
    · rcases h.sent data hold with hin | ⟨x, hx, -⟩
      · exact Or.inl hin
      · cases hx
    · right
      rw [hr.sent] at hnew
      exact ⟨w, List.mem_singleton_self w, eq_of_mem_sentAtOnce hnew⟩
  kept d hd := by
    rcases h.kept d hd with hin | hout
    · left
      rw [hr.delayed]
      exact List.mem_append_left _ hin
    · exact Or.inr (List.mem_append_left _ hout)
  new_kept honline x hx := by
    rw [List.mem_singleton.mp hx, hr.delayed, hr.sent]
    rcases heldBack_or_sentAtOnce now w honline with ⟨d, hd, heq⟩ | hout
    · exact Or.inl ⟨d, List.mem_append_right _ hd, heq⟩
    · exact Or.inr (List.mem_append_right _ hout)

/-- What is new in a step: nothing, or the packet of the frame that is over. -/
def NewIn (c : IntegrationContext) (e : FrameEvent) (s : Console) (new : List WireNSMLPacket) :
    Prop :=
  new = [] ∨ ∃ connected now inContext mem taken w,
    e = .afterFrame connected now inContext mem taken ∧ s.phase = .running ∧ new = [w] ∧
      w.frame = s.frame ∧ w.player = localPlayerID c mem

/-- A step in terms of its traffic. -/
theorem Console.exists_traffic {c : IntegrationContext} {leftover : LiveReplayPackets} {s : Console}
    (hinv : Inv c leftover s) {arrived : List (List UInt8)} {e : FrameEvent}
    {r : Console × List (List UInt8)} (h : s.step c arrived e = some r) :
    ∃ new, Traffic c e arrived s r new ∧ NewIn c e s new := by
  rcases step_cases h with ⟨input, connected, now, -, hphase, -, rfl⟩ |
    ⟨connected, now, inContext, mem, taken, rfl, hphase, -, rfl⟩ | ⟨connected, now, -, -, -, rfl⟩ |
    ⟨-, rfl⟩ | ⟨mem, timedOut, -, -, rfl, -, rfl⟩
  · refine ⟨[], (pumped_pumpLocked connected now arrived _).traffic ?_ ?_ ?_, Or.inl rfl⟩
    · unfold beginFrame
      split
      · rfl
      · rfl
    · unfold beginFrame
      split
      · rfl
      · rfl
    · unfold beginFrame Runtime.storePacketInput
      split
      · rfl
      · rfl
  · have hpump := (hinv.throttling hphase).pumpLocked connected now arrived
    obtain ⟨pumped, hpumped, rfl, hend⟩ :=
      endFrame_cases (c := c) connected now inContext mem taken arrived s
    have htraffic := hpumped.traffic (e := .afterFrame connected now inContext mem taken) (s := s)
      rfl rfl rfl
    rcases hend with heq | ⟨captured, w, -, houtgoing, heq⟩
    · rw [heq]
      exact ⟨[], htraffic, Or.inl rfl⟩
    · have hframe : _ < 2 ^ 32 := Nat.lt_trans hpump.frame_lt (by decide)
      obtain ⟨-, hw, hplayer⟩ := isCapture_of_outgoingPacket hframe houtgoing
        (fun input hinput => by rw [hpump.inputs _ (by omega)]; exact hinput)
      rw [heq]
      refine ⟨[w], htraffic.sent_after (sent_keepAndSend connected now _ w), Or.inr ?_⟩
      exact ⟨connected, now, inContext, mem, taken, w, rfl, hphase, rfl,
        hw.trans hpumped.keeps.frame, hplayer⟩
  · exact ⟨[], (pumped_pumpLocked connected now arrived s).traffic rfl rfl rfl, Or.inl rfl⟩
  · obtain ⟨hkeeps, hdelayed, -, hreceived⟩ :=
      keeps_foldl_accept (c := c) false (accepted c arrived) s
    refine ⟨[], ⟨?_, hreceived, ?_, ?_, ?_, ?_⟩, Or.inl rfl⟩
    · rw [hkeeps.captured, List.append_nil]
    · intro d hd
      rw [hdelayed] at hd
      exact Or.inl hd
    · intro data hdata
      cases hdata
    · intro d hd
      rw [hdelayed]
      exact Or.inl hd
    · intro _ w hw
      cases hw
  · refine ⟨[], ⟨(List.append_nil _).symm, (List.append_nil _).symm, fun d hd => Or.inl hd, ?_,
      fun d hd => Or.inl hd, ?_⟩, Or.inl rfl⟩
    · intro data hdata
      cases hdata
    · intro _ w hw
      cases hw

/-! ## From one console to the other -/

/-- What a console holds back, what is in flight and what has arrived was captured by it. -/
structure Wire (a : Console) (flight : List (List UInt8)) (b : Console) : Prop where
  delayed : ∀ d ∈ a.runtime.delayedPackets, d.packet ∈ a.captured
  flight : ∀ data ∈ flight, ∃ w ∈ a.captured, data = w.image
  received : ∀ w ∈ b.received, w ∈ a.captured

/-- An image is accepted as the packet that it is an image of. -/
theorem eq_of_receivePacket_image {generation : Nat} {w w' : WireNSMLPacket} (hfits : Fits w)
    (h : receivePacket generation w.image = some w') : w' = w := by
  unfold receivePacket at h
  dsimp only at h
  rw [if_neg (not_not.mpr (length_image hfits.length)), ofImage_image hfits] at h
  split at h
  · exact (Option.some.inj h).symm
  · cases h

/-- What is accepted of the images of captures. -/
theorem mem_of_mem_accepted {c : IntegrationContext} {arrived : List (List UInt8)}
    {captured : List WireNSMLPacket} {w : WireNSMLPacket} (hfits : ∀ x ∈ captured, Fits x)
    (himage : ∀ data ∈ arrived, ∃ x ∈ captured, data = x.image) (h : w ∈ accepted c arrived) :
    w ∈ captured := by
  obtain ⟨data, hdata, hreceive⟩ := List.mem_filterMap.mp h
  obtain ⟨x, hx, rfl⟩ := himage data hdata
  rw [eq_of_receivePacket_image (hfits x hx) hreceive]
  exact hx

theorem Wire.send {c : IntegrationContext} {e : FrameEvent} {arrived flight : List (List UInt8)}
    {a b : Console} {r : Console × List (List UInt8)} {new : List WireNSMLPacket}
    (h : Wire a flight b)
    (htraffic : Traffic c e arrived a r new) : Wire r.1 (flight ++ r.2) b := by
  have hgrow : ∀ w ∈ a.captured, w ∈ r.1.captured := by
    intro w hw
    rw [htraffic.captured]
    exact List.mem_append_left _ hw
  have hnew : ∀ w ∈ new, w ∈ r.1.captured := by
    intro w hw
    rw [htraffic.captured]
    exact List.mem_append_right _ hw
  refine ⟨?_, ?_, fun w hw => hgrow w (h.received w hw)⟩
  · intro d hd
    rcases htraffic.delayed d hd with hold | hfresh
    · exact hgrow _ (h.delayed d hold)
    · exact hnew _ hfresh
  · intro data hdata
    rcases List.mem_append.mp hdata with hold | hsent
    · obtain ⟨w, hw, heq⟩ := h.flight data hold
      exact ⟨w, hgrow w hw, heq⟩
    · rcases htraffic.sent data hsent with ⟨d, hd, heq⟩ | ⟨w, hw, heq⟩
      · exact ⟨d.packet, hgrow _ (h.delayed d hd), heq⟩
      · exact ⟨w, hnew w hw, heq⟩

theorem Wire.receive {c : IntegrationContext} {e : FrameEvent}
    {flight : List (List UInt8)} {n : Nat}
    {a b : Console} {r : Console × List (List UInt8)} {new : List WireNSMLPacket}
    (h : Wire a flight b)
    (hfits : ∀ w ∈ a.captured, Fits w) (htraffic : Traffic c e (flight.take n) b r new) :
    Wire a (flight.drop n) r.1 := by
  refine ⟨h.delayed, fun data hdata => h.flight data (List.mem_of_mem_drop hdata), ?_⟩
  intro w hw
  rw [htraffic.received] at hw
  rcases List.mem_append.mp hw with hold | hnew
  · exact h.received w hold
  · exact mem_of_mem_accepted hfits
      (fun data hdata => h.flight data (List.mem_of_mem_take hdata)) hnew

namespace BridgePair

variable {c : Fin 2 → IntegrationContext} {s t : BridgePair}

/-- One console moves, and takes some of what is in flight to it. -/
theorem frame_step {p : Fin 2} {e : FrameEvent} {n : Nat}
    (h : BridgePair.step c s (.frame p e n) = some t) :
    ∃ r, (s.side p).step (c p) ((s.sent (other p)).take n) e = some r ∧ t.side p = r.1 ∧
      t.side (other p) = s.side (other p) ∧ t.sent p = s.sent p ++ r.2 ∧
      t.sent (other p) = (s.sent (other p)).drop n := by
  unfold BridgePair.step at h
  obtain ⟨r, hr, rfl⟩ := Option.map_eq_some_iff.mp h
  refine ⟨r, hr, Net.put_side_self _ _ _ _, ?_, ?_, ?_⟩
  · rw [Net.put_side_other, Net.remain_side]
  · rw [Net.put_sent_self, Net.remain_sent_other]
  · rw [Net.put_sent_other, Net.remain_sent_self]

/-- The frame counters do not reach the sign bit. -/
def FramesFit (s : BridgePair) : BridgeEvent → Prop
  | .frame p e _ => e.Fits (s.side p)
  | .drop => True

instance decidableFramesFit (s : BridgePair) : (e : BridgeEvent) → Decidable (FramesFit s e)
  | .frame p e _ => decidableFits (s.side p) e
  | .drop => isTrue trivial

/-- Both consoles are in order, and all that passes between them was captured. -/
structure Linked (c : Fin 2 → IntegrationContext)
    (leftover : Fin 2 → LiveReplayPackets) (s : BridgePair) : Prop where
  inv : ∀ p, Inv (c p) (leftover p) (s.side p)
  wire : ∀ p, Wire (s.side p) (s.sent p) (s.side (other p))

variable {leftover : Fin 2 → LiveReplayPackets}

theorem linked_init {start : Fin 2 → Nat} {pushes : Fin 2 → List (Nat × List UInt8)}
    (hstart : ∀ p, start p < 2 ^ 31) :
    Linked c (fun p => .ofPushes (pushes p)) (BridgePair.init start pushes) where
  inv p := inv_init (hstart p) (ticksFit_ofPushes _)
  wire _ :=
    { delayed := fun _ hd => absurd hd List.not_mem_nil
      flight := fun _ hdata => absurd hdata List.not_mem_nil
      received := fun _ hw => absurd hw List.not_mem_nil }

theorem Linked.fits (h : Linked c leftover s) (p : Fin 2) : ∀ w ∈ (s.side p).captured, Fits w :=
  fun w hw => ((h.inv p).captured w hw).fits

theorem linked_step {e : BridgeEvent} (h : Linked c leftover s) (hfits : FramesFit s e)
    (hstep : BridgePair.step c s e = some t) : Linked c leftover t := by
  cases e with
  | drop =>
    obtain rfl : s.drop = t := Option.some.inj hstep
    refine ⟨h.inv, fun p => ⟨(h.wire p).delayed, fun data hdata => ?_, (h.wire p).received⟩⟩
    cases hdata
  | frame p e n =>
    obtain ⟨r, hr, hself, hother, hsent, hflight⟩ := frame_step hstep
    obtain ⟨new, htraffic, -⟩ := exists_traffic (h.inv p) hr
    have hback := h.wire (other p)
    rw [other_other] at hback
    constructor
    · intro q
      rcases eq_or_eq_other p q with rfl | rfl
      · rw [hself]
        exact (h.inv q).step hfits hr
      · rw [hother]
        exact h.inv _
    · intro q
      rcases eq_or_eq_other p q with rfl | rfl
      · rw [hself, hother, hsent]
        exact (h.wire q).send htraffic
      · rw [other_other, hself, hother, hflight]
        exact hback.receive (h.fits _) htraffic

end BridgePair

/-! ## What the game is handed -/

/-- What a search finds stands at the tick that was asked for, or within reach before it. -/
theorem LiveReplayPackets.exists_of_find {m : LiveReplayPackets} (hticks : TicksFit m)
    {latestBeforeEnabled : Bool} {fallbackWindow q tick : Nat} {found : List UInt8}
    (h : m.find latestBeforeEnabled fallbackWindow q tick = some found) :
    ∃ t, (t = tick ∨ ∃ age, 0 < age ∧ age ≤ reach latestBeforeEnabled fallbackWindow ∧
      t = tickBefore tick age) ∧ m.packetAt q t = some found := by
  by_cases hq : q ≤ 1
  · rw [find_eq hticks _ _ _ _ hq] at h
    cases hexact : m.packetAt q tick with
    | some packet =>
      rw [hexact] at h
      exact ⟨tick, Or.inl rfl, hexact.trans h⟩
    | none =>
      rw [hexact, Option.none_or] at h
      obtain ⟨age, hage, hfound⟩ := List.exists_of_findSome?_eq_some h
      rw [List.mem_range'_1] at hage
      exact ⟨_, Or.inr ⟨age, by omega, by omega, rfl⟩, hfound⟩
  · unfold find at h
    rw [if_pos (Nat.lt_of_not_le hq)] at h
    cases h

/-- What a game is handed for the other player is what a search has found. -/
theorem exists_of_selectBridgePacketForPlayer {core : CoreConfig}
    {inContext : Bool} {mem : Arm.Memory}
    {packets : LiveReplayPackets} {player tick : Nat} {packet : List UInt8}
    (hremote : player ≠ core.localPlayer)
    (h : selectBridgePacketForPlayer core inContext mem packets player tick = some packet) :
    ∃ original, packets.find core.latestBefore core.fallbackWindow player tick = some original ∧
      (packet = original ∨ core.returnLookupTick = true ∧
        packet = withHalfword original 0 tick) := by
  unfold selectBridgePacketForPlayer at h
  split at h
  · cases h
  · dsimp only at h
    rw [Option.or_none] at h
    split at h
    · next hreturn =>
      obtain ⟨original, hfound, rfl⟩ := Option.map_eq_some_iff.mp h
      exact ⟨original, hfound, Or.inr ⟨hreturn, rfl⟩⟩
    · exact ⟨packet, h, Or.inl rfl⟩

namespace BridgePair

variable {c : Fin 2 → IntegrationContext} {start : Fin 2 → Nat}
  {pushes : Fin 2 → List (Nat × List UInt8)} {es : List BridgeEvent} {s : BridgePair}

theorem linked_of_run (hstart : ∀ p, start p < 2 ^ 31)
    (hfits : Run.Along (BridgePair.step c) FramesFit (BridgePair.init start pushes) es)
    (hrun : Run.run (BridgePair.step c) (BridgePair.init start pushes) es = some s) :
    Linked c (fun p => .ofPushes (pushes p)) s :=
  Run.run_invariant (fun _ _ _ h hok hstep => linked_step h hok hstep)
    (linked_init hstart) hfits hrun

/-- However packets are delayed and lost: what a game is handed for the other player was captured,
for this player, by one of the consoles in the frame of the tick, with the buttons that were polled
for that frame, or it stems from an earlier generation. The tick is the one that was asked for, or
within reach of the search before it. -/
theorem handed_packet_was_captured (hstart : ∀ p, start p < 2 ^ 31)
    (hfits : Run.Along (BridgePair.step c) FramesFit (BridgePair.init start pushes) es)
    (hrun : Run.run (BridgePair.step c) (BridgePair.init start pushes) es = some s)
    {core : CoreConfig} {inContext : Bool} {mem : Arm.Memory} {q : Fin 2} {player tick : Nat}
    {packet : List UInt8} (hremote : player ≠ core.localPlayer)
    (h : selectBridgePacketForPlayer core inContext mem (s.side q).live player tick = some packet) :
    ∃ t original,
      (t = tick ∨ ∃ age, 0 < age ∧ age ≤ reach core.latestBefore core.fallbackWindow ∧
        t = tickBefore tick age) ∧
      (packet = original ∨ core.returnLookupTick = true ∧ packet = withHalfword original 0 tick) ∧
      ((LiveReplayPackets.ofPushes (pushes q)).packetAt player t = some original ∨
        ∃ p, ∃ w ∈ (s.side p).captured, w.player = player ∧ w.tick = t ∧ w.packet = original ∧
          IsCapture (c p) (s.side p).polled w) := by
  have hlinked := linked_of_run hstart hfits hrun
  obtain ⟨original, hfind, hpacket⟩ := exists_of_selectBridgePacketForPlayer hremote h
  obtain ⟨t, ht, hfound⟩ := exists_of_find (hlinked.inv q).ticks hfind
  refine ⟨t, original, ht, hpacket, ?_⟩
  rcases (hlinked.inv q).live player t original hfound with
    hleft | ⟨w, hw, hplayer, htick, horiginal⟩
  · exact Or.inl hleft
  · right
    -- a packet of this console, or one that the other one has captured
    have hcaptured : ∃ p, w ∈ (s.side p).captured := by
      rcases hw with hown | hreceived
      · exact ⟨q, hown⟩
      · have hwire := (hlinked.wire (other q)).received w
        rw [other_other] at hwire
        exact ⟨other q, hwire hreceived⟩
    obtain ⟨p, hp⟩ := hcaptured
    have hcapture := (hlinked.inv p).captured w hp
    exact ⟨p, w, hp, hplayer, hcapture.packetTick.symm.trans htick, horiginal, hcapture⟩

/-- A side of a match in which every frame has its own tick. -/
def exampleContext (p : Fin 2) : IntegrationContext where
  config :=
    { enabled := true, directCaptureEnabled := true, forceTickEnabled := true, forceTickBase := 0,
      maxFrameLead := 0, throttleTimeoutMs := 0, neutralizeLocalInput := true,
      localPlayerOverride := p }
  generation := 1
  sharedLogicalEpoch := 0
  localInstance := p

/-- A memory for the examples. -/
def zeroMemory : Arm.Memory := fun _ => 0

/-- Both consoles start at the same frame, with empty stores. -/
def exampleStart : BridgePair := BridgePair.init (fun _ => 7) (fun _ => [])

/-- Player 0 holds a button in the first frame; its packet arrives when console 1 has to wait. -/
def exampleRun : List BridgeEvent :=
  [.frame 1 (.beforeFrame {} true 0) 0,
    .frame 1 (.afterFrame true 0 true zeroMemory none) 0,
    .frame 0 (.beforeFrame { keyMask := 0xFFE } true 0) 0,
    .frame 0 (.afterFrame true 0 true zeroMemory none) 1,
    .frame 1 (.throttle true 0) 1,
    .frame 1 (.nextFrame zeroMemory false) 0]

/-- A packet of tick 7. -/
def examplePacket : List UInt8 := [7, 0, 1, 0] ++ List.replicate 48 0

theorem handed_packet_was_captured_exampleRun :
    ∃ t original,
      (t = 7 ∨ ∃ age, 0 < age ∧ age ≤ reach false 0 ∧ t = tickBefore 7 age) ∧
      (examplePacket = original ∨ false = true ∧ examplePacket = withHalfword original 0 7) ∧
      ((LiveReplayPackets.ofPushes []).packetAt 0 t = some original ∨
        ∃ p, ∃ w ∈
          ((Run.final (BridgePair.step exampleContext) exampleStart exampleRun).side p).captured,
          w.player = 0 ∧ w.tick = t ∧ w.packet = original ∧
            IsCapture (exampleContext p)
              ((Run.final (BridgePair.step exampleContext) exampleStart exampleRun).side p).polled
                w) := by
  have hrun : Run.run (BridgePair.step exampleContext) exampleStart exampleRun =
      some (Run.final (BridgePair.step exampleContext) exampleStart exampleRun) :=
    Run.run_eq_final _ _ _ (by decide +kernel)
  have hfound : selectBridgePacketForPlayer
    { bridgeEnabled := true, localPlayer := 1 } true zeroMemory
      ((Run.final (BridgePair.step exampleContext) exampleStart exampleRun).side 1).live 0 7 =
        some examplePacket := by decide +kernel
  exact handed_packet_was_captured (by decide)
    (by decide +kernel) hrun (by decide) hfound

end BridgePair

end Bigstar.Netplay.PacketBridge
