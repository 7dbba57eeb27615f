import Bigstar.Netplay.Proofs.PacketThrottleProofs

/-!
# Packets in order

Where every packet is held back for the same time and nothing is lost, packets arrive in the order
in which they were captured. Two consoles that capture a packet in every frame are then never both
stuck: once the network has been pumped, the one that is behind may go on.
-/

namespace Bigstar.Netplay.PacketBridge

open LiveReplayPackets TwoParty Console

/-- A test that holds of all that comes before what it holds of cuts a list in two. -/
theorem filter_append_filter_not {α : Type} {P : α → Bool} {l : List α}
    (h : l.Pairwise fun a b => P b = true → P a = true) :
    l.filter P ++ l.filter (fun a => !P a) = l := by
  induction l with
  | nil => rfl
  | cons a l ih =>
    obtain ⟨hfirst, hrest⟩ := List.pairwise_cons.mp h
    cases ha : P a with
    | true =>
      rw [List.filter_cons_of_pos ha,
        List.filter_cons_of_neg (by rw [ha]; decide), List.cons_append, ih hrest]
    | false =>
      have hnone : ∀ b ∈ l, ¬ P b = true := by
        intro b hb hP
        have := hfirst b hb hP
        rw [ha] at this
        cases this
      have hneg : ¬ P a = true := by
        rw [ha]
        decide
      have hlater : l.filter P = [] := List.filter_eq_nil_iff.mpr hnone
      have hearlier : l.filter (fun a => !P a) = l := by
        rw [List.filter_eq_self]
        intro b hb
        rw [Bool.eq_false_iff.mpr (hnone b hb)]
        rfl
      rw [List.filter_cons_of_neg hneg, List.filter_cons_of_pos (by rw [ha]; rfl), hlater, hearlier]
      rfl

/-! ## One console -/

/-- The bridge is on, and every packet is held back for the same time. -/
structure Plain (c : IntegrationContext) : Prop where
  enabled : c.config.enabled = true
  noJitter : c.config.sendJitterFrames ≤ 0
  delay_lt : c.config.sendDelayFrames < 2 ^ 31
  /-- The delay is an `int`. -/
  le_delay : -2 ^ 31 ≤ c.config.sendDelayFrames

theorem Plain.sendDelayFrames_eq {c : IntegrationContext} (h : Plain c) (frame : Nat) :
    sendDelayFrames c.config frame = c.config.sendDelayFrames := by
  have hnot : ¬ c.config.sendJitterFrames > 0 := not_lt.mpr h.noJitter
  unfold sendDelayFrames
  rw [if_neg hnot]
  dsimp only
  rw [Int.add_zero]
  exact i32_of_bounds h.le_delay h.delay_lt

/-- Packets that are held back stand in the order in which they will be sent. -/
structure Line (c : IntegrationContext) (s : Console) : Prop where
  sorted : s.runtime.delayedPackets.Pairwise fun d d' =>
    d.releaseFrame ≤ d'.releaseFrame ∧ d.releaseTime ≤ d'.releaseTime
  bound : ∀ d ∈ s.runtime.delayedPackets,
    d.releaseFrame ≤ s.frame + c.config.sendDelayFrames.toNat ∧
      d.releaseTime ≤ s.now + delayTime c.config.sendDelayFrames
  none : c.config.sendDelayFrames ≤ 0 → s.runtime.delayedPackets = []

variable {c : IntegrationContext} {s : Console}

theorem Line.later {s' : Console} (h : Line c s)
    (hdelayed : List.Sublist s'.runtime.delayedPackets s.runtime.delayedPackets)
    (hframe : s.frame ≤ s'.frame) (hnow : s.now ≤ s'.now) : Line c s' := by
  refine ⟨h.sorted.sublist hdelayed, ?_, ?_⟩
  · intro d hd
    obtain ⟨hrelease, htime⟩ := h.bound d (hdelayed.subset hd)
    exact ⟨by omega, by omega⟩
  · intro hzero
    have hnil := h.none hzero
    rw [hnil] at hdelayed
    exact List.sublist_nil.mp hdelayed

theorem Line.flush (h : Line c s) (connected : Bool) (now : Nat) :
    s.runtime.delayedPackets.filter (flushes c connected s.frame now) ++
      s.runtime.delayedPackets.filter (fun d => !flushes c connected s.frame now d) =
        s.runtime.delayedPackets := by
  apply filter_append_filter_not
  refine h.sorted.imp ?_
  rintro d d' ⟨hframe, htime⟩ hdue
  unfold flushes Runtime.isDue at hdue ⊢
  rw [Bool.and_eq_true, decide_eq_true_eq] at hdue ⊢
  exact ⟨hdue.1, by omega⟩

theorem Line.pumped {connected : Bool} {now : Nat} {arrived : List (List UInt8)}
    {r : Console × List (List UInt8)} (h : Line c s) (hnow : s.now ≤ now)
    (hr : Pumped c connected now arrived s r) : Line c r.1 := by
  refine h.later ?_ (Nat.le_of_eq hr.keeps.frame.symm) ?_
  · rw [hr.delayed]
    exact List.filter_sublist
  · rw [hr.clock]
    exact hnow

theorem Line.sent {connected : Bool} {now : Nat} {w : WireNSMLPacket}
    {r : Console × List (List UInt8)} (h : Line c s) (hplain : Plain c) (hframe : s.frame < 2 ^ 31)
    (hw : w.frame = s.frame) (hnow : s.now = now) (hr : Sent c connected now s w r) :
    Line c r.1 := by
  subst hnow
  have hdelay := hplain.sendDelayFrames_eq w.frame
  have hlt := hplain.delay_lt
  have hheld : heldBack c connected s.now w = [] ∨
      0 < c.config.sendDelayFrames ∧ ∃ d, heldBack c connected s.now w = [d] ∧
        d.releaseFrame = s.frame + c.config.sendDelayFrames.toNat ∧
        d.releaseTime = s.now + delayTime c.config.sendDelayFrames := by
    unfold heldBack
    rw [hdelay]
    split
    · next hon =>
      refine Or.inr ⟨hon.2, _, rfl, ?_, rfl⟩
      dsimp only
      rw [hw]
      exact Nat.mod_eq_of_lt (by omega)
    · exact Or.inl rfl
  have hbound : ∀ d ∈ heldBack c connected s.now w,
      d.releaseFrame = s.frame + c.config.sendDelayFrames.toNat ∧
        d.releaseTime = s.now + delayTime c.config.sendDelayFrames := by
    intro d hd
    rcases hheld with hnil | ⟨-, d', hone, hrelease⟩
    · rw [hnil] at hd
      cases hd
    · rw [hone] at hd
      rw [List.mem_singleton.mp hd]
      exact hrelease
  have hsorted : (heldBack c connected s.now w).Pairwise fun d d' =>
      d.releaseFrame ≤ d'.releaseFrame ∧ d.releaseTime ≤ d'.releaseTime := by
    rcases hheld with hnil | ⟨-, d, hone, -⟩
    · rw [hnil]
      exact List.Pairwise.nil
    · rw [hone]
      exact List.pairwise_singleton _ d
  constructor
  case sorted =>
    rw [hr.delayed, List.pairwise_append]
    refine ⟨h.sorted, hsorted, ?_⟩
    intro d hd d' hd'
    obtain ⟨hrelease, htime⟩ := h.bound d hd
    obtain ⟨hrelease', htime'⟩ := hbound d' hd'
    exact ⟨by omega, by omega⟩
  case bound =>
    intro d hd
    rw [hr.delayed] at hd
    rw [hr.frame, hr.clock]
    rcases List.mem_append.mp hd with hold | hnew
    · exact h.bound d hold
    · obtain ⟨hrelease, htime⟩ := hbound d hnew
      exact ⟨Nat.le_of_eq hrelease, Int.le_of_eq htime⟩
  case none =>
    intro hzero
    rw [hr.delayed, h.none hzero]
    rcases hheld with hnil | ⟨hpos, -⟩
    · rw [hnil]
      rfl
    · omega

/-- A step of a console that sends in order: `out` is what it sends. -/
structure OrderedTraffic (c : IntegrationContext) (arrived : List (List UInt8)) (s : Console)
    (r : Console × List (List UInt8)) (new out : List WireNSMLPacket) : Prop where
  captured : r.1.captured = s.captured ++ new
  received : r.1.received = s.received ++ accepted c arrived
  sent : r.2 = out.map WireNSMLPacket.image
  line : s.runtime.delayedPackets.map DelayedPacket.packet ++ new =
    out ++ r.1.runtime.delayedPackets.map DelayedPacket.packet

theorem Line.pumped_traffic {connected : Bool} {now : Nat}
    {arrived : List (List UInt8)} {s₀ : Console}
    {r : Console × List (List UInt8)} (h : Line c s₀) (hr : Pumped c connected now arrived s₀ r)
    (hcaptured : s₀.captured = s.captured) (hreceived : s₀.received = s.received)
    (hdelayed : s₀.runtime.delayedPackets = s.runtime.delayedPackets) :
    OrderedTraffic c arrived s r []
      ((s₀.runtime.delayedPackets.filter (flushes c connected s₀.frame now)).map
        DelayedPacket.packet) where
  captured := by rw [hr.keeps.captured, hcaptured, List.append_nil]
  received := by rw [hr.received, hreceived]
  sent := by
    rw [hr.sent, List.map_map]
    rfl
  line := by rw [List.append_nil, hr.delayed, ← List.map_append, h.flush, hdelayed]

/-- A packet that is sent while the connection stands comes behind those that are held back. -/
theorem Line.sent_traffic {connected : Bool} {now : Nat} {arrived : List (List UInt8)}
    {out : List WireNSMLPacket} {pumped r : Console × List (List UInt8)} {w : WireNSMLPacket}
    (h : Line c pumped.1) (hplain : Plain c) (honline : online c connected = true)
    (htraffic : OrderedTraffic c arrived s pumped [] out) (hr : Sent c connected now pumped.1 w r) :
    ∃ out', OrderedTraffic c arrived s (r.1, pumped.2 ++ r.2) [w] out' := by
  have hdelay := hplain.sendDelayFrames_eq w.frame
  have hline := htraffic.line
  rw [List.append_nil] at hline
  by_cases hzero : c.config.sendDelayFrames ≤ 0
  · have hout : sentAtOnce c connected w = [w.image] := by
      unfold sentAtOnce
      rw [hdelay, if_pos ⟨honline, hzero⟩]
    have hheld : heldBack c connected now w = [] := by
      unfold heldBack
      rw [hdelay, if_neg (by omega)]
    have hnil := h.none hzero
    refine ⟨out ++ [w], ?_, ?_, ?_, ?_⟩
    · rw [hr.captured, htraffic.captured, List.append_nil]
    · rw [hr.received, htraffic.received]
    · rw [hr.sent, hout, htraffic.sent, List.map_append]
      rfl
    · dsimp only
      rw [hr.delayed, hheld, hnil, hline, hnil]
      simp
  · have hpos : 0 < c.config.sendDelayFrames := not_le.mp hzero
    have hout : sentAtOnce c connected w = [] := by
      unfold sentAtOnce
      rw [hdelay, if_neg (by omega)]
    have hheld : (heldBack c connected now w).map DelayedPacket.packet = [w] := by
      unfold heldBack
      rw [hdelay, if_pos ⟨honline, hpos⟩]
      rfl
    refine ⟨out, ?_, ?_, ?_, ?_⟩
    · rw [hr.captured, htraffic.captured, List.append_nil]
    · rw [hr.received, htraffic.received]
    · rw [hr.sent, hout, htraffic.sent, List.append_nil]
    · dsimp only
      rw [hr.delayed, List.map_append, hheld, hline, List.append_assoc]

/-- The frame is over only after its packet has been captured. -/
def Ended (s : Console) : Prop :=
  s.phase = .throttling → ∃ w, s.captured.getLast? = some w ∧ w.frame = s.frame

/-- Every frame yields a packet for the player that sits at the console, which can be sent. -/
def FrameEvent.Steady (c : IntegrationContext) (p : Fin 2) : FrameEvent → Prop
  | .afterFrame connected _ inContext mem taken =>
    online c connected = true ∧ (captureLocalPacket c inContext mem taken).isSome ∧
      localPlayerID c mem = p
  | .nextFrame mem _ => localPlayerID c mem = p
  | _ => True

instance decidableFrameSteady (c : IntegrationContext) (p : Fin 2) :
    (e : FrameEvent) → Decidable (e.Steady c p)
  | .afterFrame connected _ inContext mem taken =>
    inferInstanceAs (Decidable (online c connected = true ∧
      (captureLocalPacket c inContext mem taken).isSome ∧ localPlayerID c mem = p))
  | .nextFrame mem _ => inferInstanceAs (Decidable (localPlayerID c mem = p))
  | .beforeFrame _ _ _ | .throttle _ _ | .receive => isTrue trivial

theorem seated_of_steady {p : Fin 2} {e : FrameEvent} (h : e.Steady c p) : e.Seated c p := by
  cases e with
  | afterFrame connected now inContext mem taken => exact h.2.2
  | nextFrame mem timedOut => exact h
  | beforeFrame _ _ _ => trivial
  | throttle _ _ => trivial
  | receive => trivial

theorem Console.exists_outgoingPacket (mem : Arm.Memory) (s : Console) (captured : LocalPacket) :
    ∃ w, s.outgoingPacket c mem captured = some w := by
  unfold outgoingPacket PacketBridge.prepareOutgoingPacket
  dsimp only
  rw [if_neg (Nat.not_lt.mpr (localPlayerID_le mem))]
  exact ⟨_, rfl⟩

/-- The end of a frame that yields a packet. -/
theorem Console.endFrame_of_captured (connected : Bool) (now : Nat)
    {inContext : Bool} {mem : Arm.Memory}
    {taken : Option LocalPacket} (arrived : List (List UInt8)) (s : Console)
    (henabled : c.config.enabled = true)
    (hcapture : (captureLocalPacket c inContext mem taken).isSome) :
    ∃ captured w,
      ({ s with phase := .throttling }.pumpLocked c connected now arrived).1.outgoingPacket
        c mem captured = some w ∧
      s.endFrame c connected now inContext mem taken arrived =
        ((({ s with phase := .throttling }.pumpLocked c connected now arrived).1.keepAndSend c
          connected
            now w).1,
          ({ s with phase := .throttling }.pumpLocked c connected now arrived).2 ++
            (({ s with phase := .throttling }.pumpLocked c connected now arrived).1.keepAndSend c
              connected
              now w).2) := by
  obtain ⟨captured, hcaptured⟩ := Option.isSome_iff_exists.mp hcapture
  obtain ⟨w, hw⟩ := exists_outgoingPacket (c := c) mem
    ({ s with phase := .throttling }.pumpLocked c connected now arrived).1 captured
  refine ⟨captured, w, hw, ?_⟩
  have hon : ¬ (!c.config.enabled) = true := by
    rw [henabled]
    decide
  unfold endFrame captureAndSendPacketLocked
  dsimp only
  rw [if_neg hon, hcaptured, Option.bind_some, hw]

/-- A step of a console whose packets stand in line. -/
theorem Line.step {leftover : LiveReplayPackets} {p : Fin 2} {arrived : List (List UInt8)}
    {e : FrameEvent} {r : Console × List (List UInt8)} (h : Line c s) (hplain : Plain c)
    (hinv : Inv c leftover s) (hended : Ended s) (hfits : e.Fits s) (hok : e.Steady c p)
    (hstep : s.step c arrived e = some r) :
    Line c r.1 ∧ Ended r.1 ∧ ∃ new out, OrderedTraffic c arrived s r new out := by
  rcases step_cases hstep with ⟨input, connected, now, -, hphase, hnow, rfl⟩ |
    ⟨connected, now, inContext, mem, taken, rfl, hphase, hnow, rfl⟩ |
    ⟨connected, now, -, hphase, hnow, rfl⟩ | ⟨-, rfl⟩ | ⟨mem, timedOut, rfl,
      hphase, harrived, -, rfl⟩
  · have hpumped := pumped_pumpLocked (c := c) connected now arrived (s.beginFrame c input)
    have hsame : (s.beginFrame c input).runtime.delayedPackets = s.runtime.delayedPackets ∧
        (s.beginFrame c input).frame = s.frame ∧ (s.beginFrame c input).now = s.now ∧
        (s.beginFrame c input).captured = s.captured ∧
        (s.beginFrame c input).received = s.received ∧
        (s.beginFrame c input).phase = .running := by
      unfold beginFrame Runtime.storePacketInput
      split
      · exact ⟨rfl, rfl, rfl, rfl, rfl, rfl⟩
      · exact ⟨rfl, rfl, rfl, rfl, rfl, rfl⟩
    obtain ⟨hdelayed, hframe, hclock, hcaptured, hreceived, hrunning⟩ := hsame
    have hbegun : Line c (s.beginFrame c input) :=
      h.later (by rw [hdelayed]) (Nat.le_of_eq hframe.symm) (Nat.le_of_eq hclock.symm)
    refine ⟨hbegun.pumped (by omega) hpumped, ?_, _, _,
      hbegun.pumped_traffic hpumped hcaptured hreceived hdelayed⟩
    intro hthrottling
    rw [hpumped.keeps.phase, hrunning] at hthrottling
    cases hthrottling
  · obtain ⟨honline, hcapture, -⟩ := hok
    have hpumped := pumped_pumpLocked (c := c) connected now arrived { s with phase := .throttling }
    have hpump := (hinv.throttling hphase).pumpLocked connected now arrived
    have hover : Line c { s with phase := .throttling } := ⟨h.sorted, h.bound, h.none⟩
    have hline : Line c ({ s with phase := .throttling }.pumpLocked c connected now arrived).1 :=
      hover.pumped hnow hpumped
    obtain ⟨captured, w, houtgoing, heq⟩ := endFrame_of_captured connected now arrived s
      hplain.enabled hcapture
    have hlt : _ < 2 ^ 32 := Nat.lt_trans hpump.frame_lt (by decide)
    obtain ⟨-, hw, -⟩ := isCapture_of_outgoingPacket hlt houtgoing
      (fun input hinput => by rw [hpump.inputs _ (by omega)]; exact hinput)
    have hsent := sent_keepAndSend (c := c) connected now
      ({ s with phase := .throttling }.pumpLocked c connected now arrived).1 w
    have hsentLine := hline.sent hplain hpump.frame_lt hw hpumped.clock hsent
    obtain ⟨out, hout⟩ := hline.sent_traffic hplain honline
      (hover.pumped_traffic (s := s) hpumped rfl rfl rfl) hsent
    rw [heq]
    refine ⟨hsentLine, ?_, [w], out, hout⟩
    intro _
    refine ⟨w, ?_, ?_⟩
    · dsimp only
      rw [hsent.captured]
      exact List.getLast?_concat
    · dsimp only
      rw [hsent.frame, hw]
  · have hpumped := pumped_pumpLocked (c := c) connected now arrived s
    refine ⟨h.pumped hnow hpumped, ?_, _, _, h.pumped_traffic hpumped rfl rfl rfl⟩
    intro _
    obtain ⟨w, hlast, hw⟩ := hended hphase
    rw [hpumped.keeps.captured, hpumped.keeps.frame]
    exact ⟨w, hlast, hw⟩
  · obtain ⟨hkeeps, hdelayed, hnow, hreceived⟩ :=
      keeps_foldl_accept (c := c) false (accepted c arrived) s
    refine ⟨h.later (by rw [hdelayed]) (Nat.le_of_eq hkeeps.frame.symm) (Nat.le_of_eq hnow.symm),
      ?_, [], [], ?_, hreceived, rfl, ?_⟩
    · intro hphase
      rw [hkeeps.phase] at hphase
      obtain ⟨w, hlast, hw⟩ := hended hphase
      rw [hkeeps.captured, hkeeps.frame]
      exact ⟨w, hlast, hw⟩
    · rw [hkeeps.captured, List.append_nil]
    · dsimp only
      rw [hdelayed, List.append_nil, List.nil_append]
  · have hnext : u32 (s.frame + 1) = s.frame + 1 :=
      Nat.mod_eq_of_lt (Nat.lt_trans hfits (by decide))
    refine ⟨h.later (List.Sublist.refl _) ?_ (Nat.le_refl _), nofun, [], [], ?_, ?_, rfl, ?_⟩
    · dsimp only
      omega
    · exact (List.append_nil _).symm
    · rw [harrived]
      exact (List.append_nil _).symm
    · exact List.append_nil _

/-- Where the console knows the other one not to be behind, it may go on. -/
theorem mayGoOn_of_le {mem : Arm.Memory} {timedOut : Bool} {remoteFrame : Nat}
    (hframe : s.frame < 2 ^ 31) (hremote : remoteFrame < 2 ^ 31) (hle : s.frame ≤ remoteFrame)
    (hprogress : (s.runtime.receivedPacketProgress (localPlayerID c mem ^^^ 1)).frame =
      remoteFrame) :
    s.mayGoOn c mem timedOut = true := by
  unfold mayGoOn
  dsimp only
  rw [hprogress, toInt_of_lt hframe, toInt_of_lt hremote]
  by_cases hoff : c.config.maxFrameLead < 0 ∨ s.frame < c.sharedLogicalEpoch
  · rw [if_pos hoff]
  · rw [if_neg hoff]
    split
    · rfl
    · rw [if_pos (by omega)]

/-! ## Both consoles -/

namespace BridgePair

variable {c : Fin 2 → IntegrationContext} {leftover : Fin 2 → LiveReplayPackets}
  {start : Fin 2 → Nat}
  {s t : BridgePair}

/-- Every frame yields a packet, and nothing is lost. -/
def Steady (c : Fin 2 → IntegrationContext) (s : BridgePair) : BridgeEvent → Prop
  | .frame p e _ => e.Fits (s.side p) ∧ e.Steady (c p) p
  | .drop => False

instance decidableSteady (c : Fin 2 → IntegrationContext) (s : BridgePair) :
    (e : BridgeEvent) → Decidable (Steady c s e)
  | .frame p e _ =>
    have := decidableFits (s.side p) e
    have := decidableFrameSteady (c p) p e
    inferInstanceAs (Decidable (e.Fits (s.side p) ∧ e.Steady (c p) p))
  | .drop => isFalse id

theorem seated_of_steady {e : BridgeEvent} (h : Steady c s e) : Seated c s e := by
  cases e with
  | frame p e n => exact ⟨h.1, PacketBridge.seated_of_steady h.2⟩
  | drop => exact h.elim

/-- A console has received what the other one has captured first; the rest is in flight, and then
comes what is held back. -/
def Arrives (s : BridgePair) (p : Fin 2) : Prop :=
  ∃ flight, s.sent p = flight.map WireNSMLPacket.image ∧
    (s.side p).captured = (s.side (other p)).received ++ flight ++
      (s.side p).runtime.delayedPackets.map DelayedPacket.packet

/-- Packets are in order on both sides and in flight. -/
structure InOrder (c : Fin 2 → IntegrationContext) (s : BridgePair) : Prop where
  line : ∀ p, Line (c p) (s.side p)
  ended : ∀ p, Ended (s.side p)
  arrives : ∀ p, Arrives s p

theorem inOrder_init {pushes : Fin 2 → List (Nat × List UInt8)} :
    InOrder c (BridgePair.init start pushes) where
  line _ := ⟨List.Pairwise.nil, fun _ hd => absurd hd List.not_mem_nil, fun _ => rfl⟩
  ended _ := nofun
  arrives _ := ⟨[], rfl, rfl⟩

/-- Of packets that were captured, the other console accepts every one. -/
theorem accepted_map_image {a b : IntegrationContext} {polled : Netplay.InputMap}
    {packets : List WireNSMLPacket} (hsame : b.generation = a.generation)
    (hcapture : ∀ w ∈ packets, IsCapture a polled w) :
    accepted b (packets.map WireNSMLPacket.image) = packets := by
  induction packets with
  | nil => rfl
  | cons w packets ih =>
    have hw := hcapture w List.mem_cons_self
    have haccept := receivePacket_image hw.fits
    rw [hw.generation, ← hsame] at haccept
    have hrest := ih fun x hx => hcapture x (List.mem_cons_of_mem _ hx)
    unfold accepted at hrest ⊢
    rw [List.map_cons, List.filterMap_cons, haccept]
    dsimp only
    rw [hrest]

theorem inOrder_step {e : BridgeEvent} (hplain : ∀ p, Plain (c p))
    (hsame : ∀ p, (c (other p)).generation = (c p).generation) (hlinked : Linked c leftover s)
    (h : InOrder c s) (hok : Steady c s e) (hstep : BridgePair.step c s e = some t) :
    InOrder c t := by
  cases e with
  | drop => exact hok.elim
  | frame p e n =>
    obtain ⟨r, hr, hself, hother, hsent, hflight⟩ := frame_step hstep
    obtain ⟨hline, hended, new, out, htraffic⟩ :=
      (h.line p).step (hplain p) (hlinked.inv p) (h.ended p) hok.1 hok.2 hr
    refine ⟨?_, ?_, ?_⟩
    · intro q
      rcases eq_or_eq_other p q with rfl | rfl
      · rw [hself]
        exact hline
      · rw [hother]
        exact h.line _
    · intro q
      rcases eq_or_eq_other p q with rfl | rfl
      · rw [hself]
        exact hended
      · rw [hother]
        exact h.ended _
    · intro q
      rcases eq_or_eq_other p q with rfl | rfl
      · obtain ⟨flight, hmoving, hcaptured⟩ := h.arrives q
        refine ⟨flight ++ out, ?_, ?_⟩
        · rw [hsent, hmoving, htraffic.sent, List.map_append]
        · rw [hself, hother, htraffic.captured, hcaptured]
          simp only [List.append_assoc]
          rw [htraffic.line]
      · obtain ⟨flight, hmoving, hcaptured⟩ := h.arrives (other p)
        have hall : ∀ w ∈ flight.take n, IsCapture (c (other p)) (s.side (other p)).polled w := by
          intro w hw
          refine (hlinked.inv (other p)).captured w ?_
          rw [hcaptured]
          exact List.mem_append_left _ (List.mem_append_right _ (List.mem_of_mem_take hw))
        have hback := hsame (other p)
        rw [other_other] at hback hcaptured
        refine ⟨flight.drop n, ?_, ?_⟩
        · rw [hflight, hmoving, List.map_drop]
        · rw [other_other, hself, hother, htraffic.received, hmoving, ← List.map_take,
            accepted_map_image hback hall, hcaptured, List.append_assoc _ (flight.take n),
            List.take_append_drop]

/-! ## Waiting -/

/-- A console that waits pumps the network until it has sent and received everything. -/
theorem exists_settled (hplain : ∀ p, Plain (c p)) {p : Fin 2}
    (hwait : (s.side p).phase = .throttling) :
    ∃ now t, BridgePair.step c s (.frame p (.throttle true now) (s.sent (other p)).length) =
      some t ∧
      t.sent (other p) = [] ∧ (t.side p).runtime.delayedPackets = [] ∧
      ((s.side p).runtime.delayedPackets = [] → t.sent p = s.sent p) ∧
      (t.side p).phase = .throttling ∧ t.side (other p) = s.side (other p) := by
  -- a time at which all that is held back is due
  have htime : ∃ now : Nat, (s.side p).now ≤ now ∧
      ∀ d ∈ (s.side p).runtime.delayedPackets, d.releaseTime ≤ now := by
    induction (s.side p).runtime.delayedPackets with
    | nil => exact ⟨_, Nat.le_refl _, fun d hd => absurd hd List.not_mem_nil⟩
    | cons d delayed ih =>
      obtain ⟨now, hnow, hall⟩ := ih
      refine ⟨max now d.releaseTime.toNat, by omega, ?_⟩
      intro x hx
      rcases List.mem_cons.mp hx with rfl | hrest
      · omega
      · exact Int.le_trans (hall x hrest) (by omega)
  obtain ⟨now, hnow, hdue⟩ := htime
  have haccepted : (s.side p).step (c p) ((s.sent (other p)).take (s.sent (other p)).length)
      (.throttle true now) =
        some ((s.side p).pumpLocked (c p) true now
          ((s.sent (other p)).take (s.sent (other p)).length)) :=
    if_pos ⟨hwait, hnow⟩
  have hpumped := pumped_pumpLocked (c := c p) true now
    ((s.sent (other p)).take (s.sent (other p)).length) (s.side p)
  have hstep : ∃ t, BridgePair.step c s (.frame p (.throttle true now) (s.sent (other p)).length) =
      some t := by
    unfold BridgePair.step
    dsimp only
    rw [haccepted]
    exact ⟨_, rfl⟩
  obtain ⟨t, ht⟩ := hstep
  obtain ⟨r, hr, hself, hother, hsent, hflight⟩ := frame_step ht
  obtain rfl := Option.some.inj (haccepted.symm.trans hr)
  have hflush : ∀ d ∈ (s.side p).runtime.delayedPackets,
      flushes (c p) true (s.side p).frame now d = true := by
    intro d hd
    unfold flushes online Runtime.isDue
    rw [(hplain p).enabled, Bool.and_self, Bool.true_and, decide_eq_true_eq]
    exact Or.inr (hdue d hd)
  refine ⟨now, t, ht, ?_, ?_, ?_, ?_, hother⟩
  · rw [hflight, List.drop_length]
  · rw [hself, hpumped.delayed, List.filter_eq_nil_iff]
    intro d hd
    rw [hflush d hd]
    decide
  · intro hnil
    rw [hsent, hpumped.sent, hnil, List.filter_nil, List.map_nil, List.append_nil]
  · rw [hself, hpumped.keeps.phase, hwait]

/-- Nothing is on its way. -/
def Settled (s : BridgePair) : Prop :=
  ∀ p, s.sent p = [] ∧ (s.side p).runtime.delayedPackets = [] ∧ (s.side p).phase = .throttling

/-- A round in which a console that waits pumps the network. -/
def IsThrottle (e : BridgeEvent) : Prop :=
  ∃ p connected now n, e = .frame p (.throttle connected now) n

theorem exists_run_settled (hplain : ∀ p, Plain (c p))
    (hwait : ∀ p, (s.side p).phase = .throttling) :
    ∃ fs t, (∀ e ∈ fs, IsThrottle e) ∧ Run.run (BridgePair.step c) s fs = some t ∧ Settled t := by
  obtain ⟨now₀, s₁, hstep₁, -, hdelayed₁, -, hphase₁, hside₁⟩ := exists_settled hplain (hwait 0)
  have hwait₁ : (s₁.side (other 0)).phase = .throttling := by
    rw [hside₁]
    exact hwait (other 0)
  obtain ⟨now₁, s₂, hstep₂, hsent₂, hdelayed₂, -, hphase₂, hside₂⟩ := exists_settled hplain hwait₁
  rw [other_other] at hsent₂ hside₂
  have hwait₂ : (s₂.side 0).phase = .throttling := by
    rw [hside₂]
    exact hphase₁
  obtain ⟨now₂, s₃, hstep₃, hsent₃, hdelayed₃, hquiet₃, hphase₃, hside₃⟩ :=
    exists_settled hplain hwait₂
  have hstill : s₃.sent 0 = [] := by
    rw [hquiet₃ (by rw [hside₂]; exact hdelayed₁), hsent₂]
  refine ⟨[.frame 0 (.throttle true now₀) (s.sent (other 0)).length,
    .frame (other 0) (.throttle true now₁) (s₁.sent (other (other 0))).length,
    .frame 0 (.throttle true now₂) (s₂.sent (other 0)).length], s₃, ?_, ?_, ?_⟩
  · intro e he
    rcases List.mem_cons.mp he with rfl | he
    · exact ⟨_, _, _, _, rfl⟩
    rcases List.mem_cons.mp he with rfl | he
    · exact ⟨_, _, _, _, rfl⟩
    rw [List.mem_singleton.mp he]
    exact ⟨_, _, _, _, rfl⟩
  · rw [Run.run_cons, hstep₁, Option.bind_some, Run.run_cons, hstep₂,
      Option.bind_some, Run.run_cons, hstep₃, Option.bind_some, Run.run_nil]
  · intro p
    rcases eq_or_eq_other 0 p with rfl | rfl
    · exact ⟨hstill, hdelayed₃, hphase₃⟩
    · rw [hside₃]
      exact ⟨hsent₃, hdelayed₂, hphase₂⟩

/-- Once nothing is on its way, a console knows in which frame the other one is. -/
theorem exists_last (hplaying : Playing c leftover start s) (horder : InOrder c s)
    (hsettled : Settled s) (p : Fin 2) :
    ∀ mem, localPlayerID (c p) mem = p →
      ((s.side p).runtime.receivedPacketProgress (localPlayerID (c p) mem ^^^ 1)).frame =
        (s.side (other p)).frame := by
  obtain ⟨hsent, hdelayed, hphase⟩ := hsettled (other p)
  obtain ⟨flight, hmoving, hcaptured⟩ := horder.arrives (other p)
  rw [hsent] at hmoving
  have hnone : flight = [] := List.map_eq_nil_iff.mp hmoving.symm
  rw [hdelayed, hnone, List.append_nil, List.map_nil, List.append_nil, other_other] at hcaptured
  obtain ⟨w, hlast, hw⟩ := horder.ended (other p) hphase
  have hheard : (s.side p).received ≠ [] := by
    rw [← hcaptured]
    intro hnil
    rw [hnil] at hlast
    cases hlast
  obtain ⟨x, -, hx, hprogress⟩ := hplaying.exists_progress hheard
  rw [← hcaptured, hlast] at hx
  obtain rfl : w = x := Option.some.inj hx
  intro mem hmem
  rw [hprogress mem hmem, hw]

/-- Consoles that capture a packet in every frame, hold all packets back for the same time and lose
none are never both stuck: where both wait, pumping the network lets one of them go on, without a
timeout and whatever the configured leads are. -/
theorem one_may_go_on {pushes : Fin 2 → List (Nat × List UInt8)} {es : List BridgeEvent}
    (hplain : ∀ p, Plain (c p)) (hsame : (c 0).generation = (c 1).generation)
    (hstart : ∀ p, start p < 2 ^ 31)
    (hok : Run.Along (BridgePair.step c) (Steady c) (BridgePair.init start pushes) es)
    (hrun : Run.run (BridgePair.step c) (BridgePair.init start pushes) es = some s)
    (hwait : ∀ p, (s.side p).phase = .throttling) :
    ∃ fs t, (∀ e ∈ fs, IsThrottle e) ∧ Run.run (BridgePair.step c) s fs = some t ∧
      ∃ p, ∀ mem, localPlayerID (c p) mem = p →
        (BridgePair.step c t (.frame p (.nextFrame mem false) 0)).isSome := by
  have hgeneration : ∀ p, (c (other p)).generation = (c p).generation := by
    intro p
    match p with
    | 0 => exact hsame.symm
    | 1 => exact hsame
  have hinv : ∀ s e t, (Playing c (fun p => .ofPushes (pushes p)) start s ∧ InOrder c s) →
    Steady c s e →
      BridgePair.step c s e = some t →
        Playing c (fun p => .ofPushes (pushes p)) start t ∧ InOrder c t := fun s e t h hok hstep =>
    ⟨playing_step h.1 (seated_of_steady hok) hstep,
      inOrder_step hplain hgeneration h.1.linked h.2 hok hstep⟩
  have hreached := Run.run_invariant hinv ⟨playing_init hstart, inOrder_init⟩ hok hrun
  obtain ⟨fs, t, hthrottle, hpump, hsettled⟩ := exists_run_settled hplain hwait
  have hsteady : Run.Along (BridgePair.step c) (Steady c) s fs := by
    refine Run.along_imp (Run.along_of_forall hthrottle) ?_
    rintro s e ⟨p, connected, now, n, rfl⟩
    exact ⟨trivial, trivial⟩
  obtain ⟨hplaying, horder⟩ := Run.run_invariant hinv hreached hsteady hpump
  refine ⟨fs, t, hthrottle, hpump, ?_⟩
  -- the console that is behind
  have hbehind : ∃ p, (t.side p).frame ≤ (t.side (other p)).frame := by
    by_cases hle : (t.side 0).frame ≤ (t.side (other 0)).frame
    · exact ⟨0, hle⟩
    · refine ⟨other 0, ?_⟩
      rw [other_other]
      omega
  obtain ⟨p, hle⟩ := hbehind
  refine ⟨p, fun mem hmem => ?_⟩
  have hgo : (t.side p).mayGoOn (c p) mem false = true :=
    mayGoOn_of_le (hplaying.linked.inv p).frame_lt
    (hplaying.linked.inv (other p)).frame_lt hle (exists_last hplaying horder hsettled p mem hmem)
  unfold BridgePair.step Console.step
  dsimp only
  rw [if_pos ⟨(hsettled p).2.2, rfl, hgo⟩]
  rfl

/-- Both consoles of the example wait. -/
theorem one_may_go_on_exampleRun :
    ∃ fs t, (∀ e ∈ fs, IsThrottle e) ∧
      Run.run (BridgePair.step exampleContext)
        (Run.final (BridgePair.step exampleContext) exampleStart (exampleRun.take 4)) fs = some t ∧
      ∃ p, ∀ mem, localPlayerID (exampleContext p) mem = p →
        (BridgePair.step exampleContext t (.frame p (.nextFrame mem false) 0)).isSome := by
  have hrun : Run.run (BridgePair.step exampleContext) exampleStart (exampleRun.take 4) =
      some (Run.final (BridgePair.step exampleContext) exampleStart (exampleRun.take 4)) :=
    Run.run_eq_final _ _ _ (by decide +kernel)
  have hdelay : (0 : Int) < 2 ^ 31 := by decide
  have hlow : -2 ^ 31 ≤ (0 : Int) := by decide
  have hplain : ∀ p, Plain (exampleContext p) := fun p => ⟨rfl, Int.le_refl 0, hdelay, hlow⟩
  exact one_may_go_on hplain rfl (by decide) (by decide +kernel) hrun (by decide +kernel)

end BridgePair

end Bigstar.Netplay.PacketBridge
