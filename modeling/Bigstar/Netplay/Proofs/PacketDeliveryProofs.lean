import Bigstar.Netplay.Proofs.PacketBridgePairProofs

/-!
# No packet is lost

On a connection that stands, and as long as the ticks do not start over, a packet that was captured
is in the store of its own console and, once it has got through, in that of the other one, until
packets that are more than 256 ticks newer have come.
-/

namespace Bigstar.Netplay.PacketBridge

open LiveReplayPackets TwoParty Console

/-! ## Packets that stay -/

/-- The store has the packet, or much newer ones. -/
def Stays (live : LiveReplayPackets) (w : WireNSMLPacket) : Prop :=
  live.packetAt w.player (packetTick w.packet) = some w.packet ∨
    Superseded live (packetTick w.packet)

theorem stays_push {live : LiveReplayPackets} {w w' : WireNSMLPacket} (h : Stays live w)
    (hplayer : w'.player ≤ 1)
    (hsame : w'.player = w.player → packetTick w'.packet = packetTick w.packet →
      w'.packet = w.packet) :
    Stays (live.push w'.player w'.packet) w := by
  rcases h with hheld | hsuperseded
  · by_cases hkey : packetTick w'.packet = packetTick w.packet ∧ w'.player = w.player
    · left
      rw [← hsame hkey.2 hkey.1, ← hkey.2]
      exact packetAt_push_self hplayer
    · exact packetAt_push_or hheld hkey
  · exact Or.inr (superseded_push hsuperseded)

theorem stays_push_self {live : LiveReplayPackets} {w : WireNSMLPacket} (hplayer : w.player ≤ 1) :
    Stays (live.push w.player w.packet) w := Or.inl (packetAt_push_self hplayer)

/-- No two packets are for the same player and tick. -/
def Unambiguous (all : List WireNSMLPacket) : Prop :=
  ∀ w ∈ all, w.player ≤ 1 ∧ ∀ w' ∈ all, w'.player = w.player →
    packetTick w'.packet = packetTick w.packet → w'.packet = w.packet

/-- All that a console has captured or received stays in its store, or waits to be put there. -/
structure Kept (all : List WireNSMLPacket) (s : Console) : Prop where
  captured_mem : ∀ w ∈ s.captured, w ∈ all
  received_mem : ∀ w ∈ s.received, w ∈ all
  pending_mem : ∀ w ∈ s.runtime.pendingPackets, w ∈ all
  captured : ∀ w ∈ s.captured, Stays s.live w
  received : ∀ w ∈ s.received, w ∈ s.runtime.pendingPackets ∨ Stays s.live w

variable {all : List WireNSMLPacket} {c : IntegrationContext} {s : Console}

theorem Kept.mono {all' : List WireNSMLPacket} (h : Kept all s) (hall : ∀ w ∈ all, w ∈ all') :
    Kept all' s where
  captured_mem w hw := hall w (h.captured_mem w hw)
  received_mem w hw := hall w (h.received_mem w hw)
  pending_mem w hw := hall w (h.pending_mem w hw)
  captured := h.captured
  received := h.received

/-- The invariant only looks at the packets. -/
theorem Kept.of_eq {s' : Console} (h : Kept all s) (hcaptured : s'.captured = s.captured)
    (hreceived : s'.received = s.received)
    (hpending : s'.runtime.pendingPackets = s.runtime.pendingPackets) (hlive : s'.live = s.live) :
    Kept all s' := by
  constructor
  case captured_mem =>
    rw [hcaptured]
    exact h.captured_mem
  case received_mem =>
    rw [hreceived]
    exact h.received_mem
  case pending_mem =>
    rw [hpending]
    exact h.pending_mem
  case captured =>
    rw [hcaptured, hlive]
    exact h.captured
  case received =>
    rw [hreceived, hpending, hlive]
    exact h.received

/-- A packet that stays in a store stays when another one of the same list comes in. -/
theorem Unambiguous.stays_push (hall : Unambiguous all) {live : LiveReplayPackets}
    {w w' : WireNSMLPacket}
    (hw : w ∈ all) (hw' : w' ∈ all) (h : Stays live w) : Stays (live.push w'.player w'.packet) w :=
  PacketBridge.stays_push h (hall w' hw').1 ((hall w hw).2 w' hw')

theorem Kept.accept (h : Kept all s) (hall : Unambiguous all) (hasNds : Bool) {w : WireNSMLPacket}
    (hw : w ∈ all) : Kept all (s.accept c hasNds w) := by
  have hmem : ∀ x ∈ (s.accept c hasNds w).received, x ∈ all := by
    intro x hx
    rcases List.mem_append.mp hx with hold | hnew
    · exact h.received_mem x hold
    · rw [List.mem_singleton.mp hnew]
      exact hw
  cases hdirect : c.config.enabled && hasNds with
  | true =>
    have hlive : (s.accept c hasNds w).live = s.live.push w.player w.packet := if_pos hdirect
    have hpending : (s.accept c hasNds w).runtime.pendingPackets = s.runtime.pendingPackets := by
      unfold Console.accept
      dsimp only
      rw [(recordReceivedPacket_keeps _ _ _ _).2.1, if_pos hdirect]
    refine ⟨h.captured_mem, hmem, ?_, ?_, ?_⟩
    · rw [hpending]
      exact h.pending_mem
    · rw [hlive]
      exact fun x hx => hall.stays_push (h.captured_mem x hx) hw (h.captured x hx)
    · intro x hx
      rw [hpending, hlive]
      rcases List.mem_append.mp hx with hold | hnew
      · exact (h.received x hold).imp id (hall.stays_push (h.received_mem x hold) hw)
      · rw [List.mem_singleton.mp hnew]
        exact Or.inr (stays_push_self (hall w hw).1)
  | false =>
    have hnot : ¬ (c.config.enabled && hasNds) = true := by
      rw [hdirect]
      decide
    have hlive : (s.accept c hasNds w).live = s.live := if_neg hnot
    have hpending : (s.accept c hasNds w).runtime.pendingPackets =
        s.runtime.pendingPackets ++ [w] := by
      unfold Console.accept
      dsimp only
      rw [(recordReceivedPacket_keeps _ _ _ _).2.1, if_neg hnot]
      rfl
    refine ⟨h.captured_mem, hmem, ?_, ?_, ?_⟩
    · intro x hx
      rw [hpending] at hx
      rcases List.mem_append.mp hx with hold | hnew
      · exact h.pending_mem x hold
      · rw [List.mem_singleton.mp hnew]
        exact hw
    · rw [hlive]
      exact h.captured
    · intro x hx
      rw [hpending, hlive]
      rcases List.mem_append.mp hx with hold | hnew
      · exact (h.received x hold).imp (List.mem_append_left _) id
      · exact Or.inl (List.mem_append_right _ hnew)

theorem Kept.foldl_accept (h : Kept all s) (hall : Unambiguous all) (hasNds : Bool)
    {packets : List WireNSMLPacket} (hpackets : ∀ w ∈ packets, w ∈ all) :
    Kept all (packets.foldl (Console.accept c hasNds) s) := by
  induction packets generalizing s with
  | nil => exact h
  | cons w packets ih =>
    exact ih (h.accept hall hasNds (hpackets w List.mem_cons_self))
      fun x hx => hpackets x (List.mem_cons_of_mem _ hx)

theorem Unambiguous.stays_foldl_push (hall : Unambiguous all) {packets : List WireNSMLPacket}
    (hpackets : ∀ w ∈ packets, w ∈ all) {live : LiveReplayPackets}
    {w : WireNSMLPacket} (hw : w ∈ all) (h : Stays live w ∨ w ∈ packets) :
    Stays (packets.foldl (fun live x => live.push x.player x.packet) live) w := by
  induction packets generalizing live with
  | nil =>
    rcases h with hstays | hnone
    · exact hstays
    · cases hnone
  | cons x packets ih =>
    have hx := hpackets x List.mem_cons_self
    refine ih (fun y hy => hpackets y (List.mem_cons_of_mem _ hy)) ?_
    rcases h with hstays | hmem
    · exact Or.inl (hall.stays_push hw hx hstays)
    · rcases List.mem_cons.mp hmem with rfl | hrest
      · exact Or.inl (stays_push_self (hall w hx).1)
      · exact Or.inr hrest

theorem Kept.applyPendingPacketsLocked (h : Kept all s) (hall : Unambiguous all) :
    Kept all (s.applyPendingPacketsLocked c) := by
  unfold Console.applyPendingPacketsLocked
  split
  · exact h
  · refine ⟨h.captured_mem, h.received_mem, fun w hw => absurd hw List.not_mem_nil, ?_, ?_⟩
    · exact fun w hw => hall.stays_foldl_push h.pending_mem (h.captured_mem w hw)
        (Or.inl (h.captured w hw))
    · exact fun w hw => Or.inr
        (hall.stays_foldl_push h.pending_mem (h.received_mem w hw) (h.received w hw).symm)

theorem Kept.pumpLocked (h : Kept all s) (hall : Unambiguous all) (connected : Bool) (now : Nat)
    {arrived : List (List UInt8)} (harrived : ∀ w ∈ accepted c arrived, w ∈ all) :
    Kept all (s.pumpLocked c connected now arrived).1 := by
  rw [pumpLocked_eq]
  apply Kept.applyPendingPacketsLocked _ hall
  apply Kept.foldl_accept _ hall _ harrived
  exact h.of_eq rfl rfl rfl rfl

theorem Kept.sent (h : Kept all s) (hall : Unambiguous all) {connected : Bool} {now : Nat}
    {w : WireNSMLPacket} {r : Console × List (List UInt8)} (hr : Sent c connected now s w r)
    (hw : w ∈ all) : Kept all r.1 := by
  constructor
  case captured_mem =>
    intro x hx
    rw [hr.captured] at hx
    rcases List.mem_append.mp hx with hold | hnew
    · exact h.captured_mem x hold
    · rw [List.mem_singleton.mp hnew]
      exact hw
  case received_mem =>
    rw [hr.received]
    exact h.received_mem
  case pending_mem =>
    rw [hr.pending]
    exact h.pending_mem
  case captured =>
    intro x hx
    rw [hr.captured] at hx
    rw [hr.live]
    rcases List.mem_append.mp hx with hold | hnew
    · exact hall.stays_push (h.captured_mem x hold) hw (h.captured x hold)
    · rw [List.mem_singleton.mp hnew]
      exact stays_push_self (hall w hw).1
  case received =>
    intro x hx
    rw [hr.received] at hx
    rw [hr.pending, hr.live]
    exact (h.received x hx).imp id (hall.stays_push (h.received_mem x hx) hw)

/-- A step keeps packets, where all that it captures and accepts is in the list. -/
theorem Kept.step (h : Kept all s) (hall : Unambiguous all) {arrived : List (List UInt8)}
    {e : FrameEvent} {r : Console × List (List UInt8)} (hstep : s.step c arrived e = some r)
    (harrived : ∀ w ∈ accepted c arrived, w ∈ all) (hcaptured : ∀ w ∈ r.1.captured, w ∈ all) :
    Kept all r.1 := by
  rcases step_cases hstep with ⟨input, connected, now, -, -, -, rfl⟩ |
    ⟨connected, now, inContext, mem, taken, -, -, -, rfl⟩ | ⟨connected, now, -, -, -, rfl⟩ |
    ⟨-, rfl⟩ | ⟨mem, timedOut, -, -, -, -, rfl⟩
  · refine Kept.pumpLocked ?_ hall connected now harrived
    unfold beginFrame
    split
    · exact h.of_eq rfl rfl rfl rfl
    · exact h.of_eq rfl rfl rfl rfl
  · have hstart : Kept all { s with phase := .throttling } := h.of_eq rfl rfl rfl rfl
    have hpump := hstart.pumpLocked hall connected now harrived
    obtain ⟨pumped, -, rfl, hend⟩ :=
      endFrame_cases (c := c) connected now inContext mem taken arrived s
    rcases hend with heq | ⟨captured, w, -, -, heq⟩
    · rw [heq]
      exact hpump
    · rw [heq] at hcaptured ⊢
      have hsent := sent_keepAndSend (c := c) connected now
        ({ s with phase := .throttling }.pumpLocked c connected now arrived).1 w
      have hw : w ∈ all := by
        refine hcaptured w ?_
        dsimp only
        rw [hsent.captured]
        exact List.mem_append_right _ (List.mem_singleton_self w)
      have hkept := hpump.sent hall hsent hw
      exact hkept
  · exact h.pumpLocked hall connected now harrived
  · exact h.foldl_accept hall false harrived
  · exact h.of_eq rfl rfl rfl rfl

/-! ## Both consoles -/

/-- The tick of the frame is forced, and the ticks have not started over. -/
def IntegrationContext.InRange (c : IntegrationContext) (frame : Nat) : Prop :=
  (c.config.forceTickEnabled = true ∧ c.sharedLogicalEpoch ≤ frame ∧ 0 ≤ c.config.forceTickBase) ∧
    c.startFrame ≤ frame ∧ c.config.forceTickBase.toNat + (frame - c.startFrame) < 0x10000

instance decidableInRange (c : IntegrationContext) (frame : Nat) : Decidable (c.InRange frame) :=
  inferInstanceAs (Decidable ((_ ∧ _ ∧ _) ∧ _ ∧ _))

theorem IsCapture.tick_eq {polled : Netplay.InputMap} {w : WireNSMLPacket}
    (h : IsCapture c polled w) (hrange : c.InRange w.frame) :
    PacketBridge.packetTick w.packet = c.config.forceTickBase.toNat + (w.frame - c.startFrame) := by
  obtain ⟨⟨henabled, hepoch, hbase⟩, hstart, hlt⟩ := hrange
  rw [h.packetTick, h.forced ⟨henabled, hepoch, hbase, hstart⟩, Nat.mod_eq_of_lt hlt]

/-- The console captures for the player that sits at it, at a tick of its own, and can send. -/
def FrameEvent.Reliable (c : IntegrationContext) (p : Fin 2) (s : Console) : FrameEvent → Prop
  | .afterFrame connected _ _ mem _ =>
    online c connected = true ∧ localPlayerID c mem = p ∧ c.InRange s.frame
  | _ => True

instance decidableFrameReliable (c : IntegrationContext) (p : Fin 2) (s : Console) :
    (e : FrameEvent) → Decidable (e.Reliable c p s)
  | .afterFrame connected _ _ mem _ =>
    inferInstanceAs
      (Decidable (online c connected = true ∧ localPlayerID c mem = p ∧ c.InRange s.frame))
  | .beforeFrame _ _ _ | .throttle _ _ | .receive | .nextFrame _ _ => isTrue trivial

namespace BridgePair

variable {c : Fin 2 → IntegrationContext} {s t : BridgePair}

/-- Nothing is lost on the way. -/
def Reliable (c : Fin 2 → IntegrationContext) (s : BridgePair) : BridgeEvent → Prop
  | .frame p e _ => e.Fits (s.side p) ∧ e.Reliable (c p) p (s.side p)
  | .drop => False

instance decidableReliable (c : Fin 2 → IntegrationContext) (s : BridgePair) :
    (e : BridgeEvent) → Decidable (Reliable c s e)
  | .frame p e _ =>
    have := decidableFits (s.side p) e
    have := decidableFrameReliable (c p) p (s.side p) e
    inferInstanceAs (Decidable (e.Fits (s.side p) ∧ e.Reliable (c p) p (s.side p)))
  | .drop => isFalse id

theorem framesFit_of_reliable {s : BridgePair} {e : BridgeEvent} (h : Reliable c s e) :
    FramesFit s e := by
  cases e with
  | frame p e n => exact h.1
  | drop => trivial

/-- All that was captured. -/
def captures (s : BridgePair) : List WireNSMLPacket := (s.side 0).captured ++ (s.side 1).captured

theorem mem_captures {p : Fin 2} {w : WireNSMLPacket} (h : w ∈ (s.side p).captured) :
    w ∈ captures s := by
  match p, h with
  | 0, h => exact List.mem_append_left _ h
  | 1, h => exact List.mem_append_right _ h

theorem exists_of_mem_captures {w : WireNSMLPacket} (h : w ∈ captures s) :
    ∃ p, w ∈ (s.side p).captured := by
  rcases List.mem_append.mp h with h₀ | h₁
  · exact ⟨0, h₀⟩
  · exact ⟨1, h₁⟩

/-- The packets of a console are those of its player, each with a tick of its own. -/
structure Ordered (c : Fin 2 → IntegrationContext) (s : BridgePair) : Prop where
  own : ∀ p, ∀ w ∈ (s.side p).captured, w.player = p ∧ (c p).InRange w.frame
  frames : ∀ p, (s.side p).captured.Pairwise (fun w w' => w.frame < w'.frame)

/-- Where the packets of a console are. -/
structure Carried (s : BridgePair) : Prop where
  sent : ∀ p, ∀ w ∈ (s.side p).captured, (∃ d ∈ (s.side p).runtime.delayedPackets, d.packet = w) ∨
    w.image ∈ s.sent p ∨ w ∈ (s.side (other p)).received
  kept : ∀ p, Kept (captures s) (s.side p)

variable {leftover : Fin 2 → LiveReplayPackets}

theorem unambiguous_captures (hlinked : Linked c leftover s) (h : Ordered c s) :
    Unambiguous (captures s) := by
  intro w hw
  obtain ⟨p, hp⟩ := exists_of_mem_captures hw
  obtain ⟨hplayer, hrange⟩ := h.own p w hp
  refine ⟨?_, ?_⟩
  · rw [hplayer]
    omega
  · intro w' hw' hsame htick
    obtain ⟨p', hp'⟩ := exists_of_mem_captures hw'
    obtain ⟨hplayer', hrange'⟩ := h.own p' w' hp'
    have heq : p' = p := Fin.ext (by rw [← hplayer', ← hplayer, hsame])
    subst heq
    rw [((hlinked.inv p').captured w' hp').tick_eq hrange',
      ((hlinked.inv p').captured w hp).tick_eq hrange] at htick
    have hstart' := hrange'.2.1
    have hstart := hrange.2.1
    have hframe : w'.frame = w.frame := by omega
    by_cases hne : w' = w
    · rw [hne]
    · have hapart : (s.side p').captured.Pairwise fun w w' => w.frame ≠ w'.frame :=
        (h.frames p').imp fun hlt => Nat.ne_of_lt hlt
      have hsymm : Std.Symm fun w w' : WireNSMLPacket => w.frame ≠ w'.frame := ⟨fun _ _ h => h.symm⟩
      exact absurd hframe (hapart.forall hp' hp hne)

theorem ordered_step {e : BridgeEvent} (hlinked : Linked c leftover s) (h : Ordered c s)
    (hok : Reliable c s e) (hstep : BridgePair.step c s e = some t) : Ordered c t := by
  cases e with
  | drop => exact hok.elim
  | frame p e n =>
    obtain ⟨r, hr, hself, hother, -, -⟩ := frame_step hstep
    obtain ⟨new, htraffic, hnew⟩ := exists_traffic (hlinked.inv p) hr
    have hfresh : ∀ w ∈ new, w.player = p ∧ (c p).InRange w.frame ∧
        ∀ x ∈ (s.side p).captured, x.frame < w.frame := by
      intro w hw
      rcases hnew with rfl | ⟨connected, now, inContext, mem, taken, x, rfl, hphase,
        rfl, hframe, hplayer⟩
      · cases hw
      · obtain rfl := List.mem_singleton.mp hw
        obtain ⟨-, hown, hrange⟩ := hok.2
        rw [hframe]
        refine ⟨hplayer.trans hown, hrange, ?_⟩
        intro y hy
        rcases (hlinked.inv p).captured_frame y hy with hlt | ⟨-, hthrottling⟩
        · exact hlt
        · rw [hphase] at hthrottling
          cases hthrottling
    have hone : new.Pairwise fun w w' => w.frame < w'.frame := by
      rcases hnew with rfl | ⟨_, _, _, _, _, x, -, -, rfl, -, -⟩
      · exact List.Pairwise.nil
      · exact List.pairwise_singleton _ _
    constructor
    · intro q w hw
      rcases eq_or_eq_other p q with rfl | rfl
      · rw [hself, htraffic.captured] at hw
        rcases List.mem_append.mp hw with hold | hnew
        · exact h.own _ w hold
        · exact ⟨(hfresh w hnew).1, (hfresh w hnew).2.1⟩
      · rw [hother] at hw
        exact h.own _ w hw
    · intro q
      rcases eq_or_eq_other p q with rfl | rfl
      · rw [hself, htraffic.captured, List.pairwise_append]
        exact ⟨h.frames _, hone, fun x hx w hw => (hfresh w hw).2.2 x hx⟩
      · rw [hother]
        exact h.frames _

theorem carried_step {e : BridgeEvent} (hsame : (c 0).generation = (c 1).generation)
    (hlinked : Linked c leftover s) (h : Carried s) (hok : Reliable c s e)
    (hstep : BridgePair.step c s e = some t) (hlinked' : Linked c leftover t)
    (hordered' : Ordered c t) :
    Carried t := by
  cases e with
  | drop => exact hok.elim
  | frame p e n =>
    obtain ⟨r, hr, hself, hother, hsent, hflight⟩ := frame_step hstep
    obtain ⟨new, htraffic, hnew⟩ := exists_traffic (hlinked.inv p) hr
    have hgeneration : (c (other p)).generation = (c p).generation := by
      match p with
      | 0 => exact hsame.symm
      | 1 => exact hsame
    have honline : e.Online (c p) := by
      cases e with
      | afterFrame connected now inContext mem taken => exact hok.2.1
      | beforeFrame _ _ _ => trivial
      | throttle _ _ => trivial
      | receive => trivial
      | nextFrame _ _ => trivial
    have hgrow : ∀ w ∈ captures s, w ∈ captures t := by
      intro w hw
      obtain ⟨q, hq⟩ := exists_of_mem_captures hw
      refine mem_captures (p := q) ?_
      rcases eq_or_eq_other p q with rfl | rfl
      · rw [hself, htraffic.captured]
        exact List.mem_append_left _ hq
      · rw [hother]
        exact hq
    constructor
    · intro q w hw
      rcases eq_or_eq_other p q with rfl | rfl
      · rw [hself, htraffic.captured] at hw
        rw [hself, hother, hsent]
        rcases List.mem_append.mp hw with hold | hfresh
        · rcases h.sent _ w hold with ⟨d, hd, rfl⟩ | hmoving | hreceived
          · rcases htraffic.kept d hd with hstill | hout
            · exact Or.inl ⟨d, hstill, rfl⟩
            · exact Or.inr (Or.inl (List.mem_append_right _ hout))
          · exact Or.inr (Or.inl (List.mem_append_left _ hmoving))
          · exact Or.inr (Or.inr hreceived)
        · rcases htraffic.new_kept honline w hfresh with hheld | hout
          · exact Or.inl hheld
          · exact Or.inr (Or.inl (List.mem_append_right _ hout))
      · rw [hother] at hw
        rw [other_other, hother, hself, hflight]
        rcases h.sent _ w hw with hheld | hmoving | hreceived
        · exact Or.inl hheld
        · -- the packet is still on its way, or has been accepted
          rw [← List.take_append_drop n (s.sent (other p))] at hmoving
          rcases List.mem_append.mp hmoving with hhere | hstill
          · right; right
            rw [htraffic.received]
            apply List.mem_append_right
            have hcapture := (hlinked.inv (other p)).captured w hw
            have haccept := receivePacket_image hcapture.fits
            rw [hcapture.generation, hgeneration] at haccept
            exact List.mem_filterMap.mpr ⟨w.image, hhere, haccept⟩
          · exact Or.inr (Or.inl hstill)
        · right; right
          rw [htraffic.received]
          rw [other_other] at hreceived
          exact List.mem_append_left _ hreceived
    · intro q
      rcases eq_or_eq_other p q with rfl | rfl
      · rw [hself]
        refine ((h.kept q).mono hgrow).step (unambiguous_captures hlinked' hordered') hr ?_ ?_
        · intro w hw
          have hback := hlinked.wire (other q)
          rw [other_other] at hback
          have hmem := mem_of_mem_accepted (hlinked.fits (other q))
            (fun data hdata => hback.flight data (List.mem_of_mem_take hdata)) hw
          exact hgrow w (mem_captures hmem)
        · intro w hw
          rw [← hself] at hw
          exact mem_captures hw
      · rw [hother]
        exact (h.kept _).mono hgrow

/-- Both consoles, as long as nothing is lost. -/
def Delivers (c : Fin 2 → IntegrationContext)
    (leftover : Fin 2 → LiveReplayPackets) (s : BridgePair) :
    Prop := Linked c leftover s ∧ Ordered c s ∧ Carried s

theorem delivers_init {start : Fin 2 → Nat} {pushes : Fin 2 → List (Nat × List UInt8)}
    (hstart : ∀ p, start p < 2 ^ 31) :
    Delivers c (fun p => .ofPushes (pushes p)) (BridgePair.init start pushes) := by
  refine ⟨linked_init hstart, ⟨?_, fun _ => List.Pairwise.nil⟩, ⟨?_, ?_⟩⟩
  · intro q w hw
    cases hw
  · intro q w hw
    cases hw
  · intro q
    refine ⟨?_, ?_, ?_, ?_, ?_⟩ <;>
    · intro w hw
      cases hw

theorem delivers_step {e : BridgeEvent} (hsame : (c 0).generation = (c 1).generation)
    (h : Delivers c leftover s) (hok : Reliable c s e) (hstep : BridgePair.step c s e = some t) :
    Delivers c leftover t := by
  obtain ⟨hlinked, hordered, hcarried⟩ := h
  have hlinked' := linked_step hlinked (framesFit_of_reliable hok) hstep
  have hordered' := ordered_step hlinked hordered hok hstep
  exact ⟨hlinked', hordered', carried_step hsame hlinked hcarried hok hstep hlinked' hordered'⟩

/-- On a reliable connection, as long as the ticks do not start over: every packet that a console
has captured stays in its own store, and it is held back, in flight, pending at the other console or
stays in the store of that one, up to much newer packets. -/
theorem no_packet_lost {start : Fin 2 → Nat} {pushes : Fin 2 → List (Nat × List UInt8)}
    {es : List BridgeEvent} (hsame : (c 0).generation = (c 1).generation)
    (hstart : ∀ p, start p < 2 ^ 31)
    (hok : Run.Along (BridgePair.step c) (Reliable c) (BridgePair.init start pushes) es)
    (hrun : Run.run (BridgePair.step c) (BridgePair.init start pushes) es = some s) (p : Fin 2)
    (w : WireNSMLPacket) (hw : w ∈ (s.side p).captured) :
    Stays (s.side p).live w ∧
      ((∃ d ∈ (s.side p).runtime.delayedPackets, d.packet = w) ∨ w.image ∈ s.sent p ∨
        w ∈ (s.side (other p)).runtime.pendingPackets ∨ Stays (s.side (other p)).live w) := by
  obtain ⟨-, -, hcarried⟩ :=
    Run.run_invariant (fun _ _ _ h hok hstep => delivers_step hsame h hok hstep)
    (delivers_init hstart) hok hrun
  refine ⟨(hcarried.kept p).captured w hw, ?_⟩
  rcases hcarried.sent p w hw with hheld | hmoving | hreceived
  · exact Or.inl hheld
  · exact Or.inr (Or.inl hmoving)
  · exact Or.inr (Or.inr ((hcarried.kept (other p)).received w hreceived))

/-- The packet of player 0 in the first frame of the example. -/
def exampleWire : WireNSMLPacket where
  magic := SessionProtocol.kMagic
  version := SessionProtocol.kVersion
  kind := kWireKindPacket
  generation := 1
  frame := 7
  player := 0
  tick := 7
  packet := examplePacket

/-- A side that holds its packets back for one frame, and every other one for two. -/
def jitteredContext (p : Fin 2) : IntegrationContext where
  config := { (exampleContext p).config with sendDelayFrames := 1, sendJitterFrames := 1 }
  generation := 1
  sharedLogicalEpoch := 0
  localInstance := p

/-- The packet of frame 7 waits for two frames at console 0. It goes out when 34 ms are over, and
arrives at console 1 while this one waits. -/
def jitteredRun : List BridgeEvent :=
  [.frame 1 (.beforeFrame {} true 0) 0,
    .frame 1 (.afterFrame true 0 true zeroMemory none) 0,
    .frame 0 (.beforeFrame { keyMask := 0xFFE } true 0) 0,
    .frame 0 (.afterFrame true 0 true zeroMemory none) 0,
    .frame 0 (.throttle true 33000000) 0,
    .frame 0 (.throttle true 34000000) 0,
    .frame 1 (.throttle true 34000000) 1]

theorem no_packet_lost_exampleRun :
    let s := Run.final (BridgePair.step jitteredContext) exampleStart jitteredRun
    (Run.final (BridgePair.step jitteredContext) exampleStart
      (jitteredRun.take 5)).sent 0 = [] ∧
    Stays (s.side 0).live exampleWire ∧
      ((∃ d ∈ (s.side 0).runtime.delayedPackets, d.packet = exampleWire) ∨
        exampleWire.image ∈ s.sent 0 ∨
        exampleWire ∈ (s.side (other 0)).runtime.pendingPackets ∨
        Stays (s.side (other 0)).live exampleWire) := by
  intro s
  have hrun : Run.run (BridgePair.step jitteredContext) exampleStart jitteredRun = some s :=
    Run.run_eq_final _ _ _ (by decide +kernel)
  have hcaptured : exampleWire ∈ (s.side 0).captured := by decide +kernel
  exact ⟨by decide +kernel,
    no_packet_lost rfl (by decide) (by decide +kernel) hrun 0 exampleWire hcaptured⟩

end BridgePair

end Bigstar.Netplay.PacketBridge
