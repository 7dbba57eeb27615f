import Bigstar.Netplay.Proofs.PacketBridgePairProofs

/-!
# The throttle

A console that has heard from the other one does not run away from it. Nor do both wait for ever:
where packets are not reordered, they arrive in the order of the frames, and the console that is
behind may go on once they have.
-/

namespace Bigstar.Netplay.PacketBridge

open LiveReplayPackets TwoParty Console

variable {c : IntegrationContext} {s : Console}

/-! ## Progress -/

/-- The progress that the last packet of a list stands for. -/
def lastProgress (received : List WireNSMLPacket) : ReceivedProgress :=
  received.getLast?.elim {} fun w => { tick := w.tick, frame := w.frame }

/-- A console has heard from player `q` only, and knows where it was in its last packet. -/
structure Tracks (q : Nat) (s : Console) : Prop where
  player : ∀ w ∈ s.received, w.player = q
  progress : s.runtime.receivedProgress q = lastProgress s.received

theorem Tracks.of_eq {q : Nat} {s s' : Console} (h : Tracks q s)
    (hreceived : s'.received = s.received)
    (hprogress : s'.runtime.receivedProgress = s.runtime.receivedProgress) : Tracks q s' where
  player := by
    rw [hreceived]
    exact h.player
  progress := by
    rw [hreceived, hprogress]
    exact h.progress

theorem Tracks.accept {q : Nat} (h : Tracks q s) (hq : q ≤ 1) (hasNds : Bool) {w : WireNSMLPacket}
    (hw : w.player = q) : Tracks q (s.accept c hasNds w) := by
  constructor
  case player =>
    intro x hx
    rcases List.mem_append.mp hx with hold | hnew
    · exact h.player x hold
    · rw [List.mem_singleton.mp hnew]
      exact hw
  case progress =>
    have hlast : lastProgress (s.accept c hasNds w).received =
        { tick := w.tick, frame := w.frame } := by
      unfold Console.accept lastProgress
      dsimp only
      rw [List.getLast?_concat]
      rfl
    rw [hlast]
    unfold Console.accept Runtime.recordReceivedPacket
    dsimp only
    rw [if_neg (by omega), hw]
    exact Function.update_self _ _ _

theorem Tracks.foldl_accept {q : Nat} (h : Tracks q s) (hq : q ≤ 1) (hasNds : Bool)
    {packets : List WireNSMLPacket} (hpackets : ∀ w ∈ packets, w.player = q) :
    Tracks q (packets.foldl (Console.accept c hasNds) s) := by
  induction packets generalizing s with
  | nil => exact h
  | cons w packets ih =>
    exact ih (h.accept hq hasNds (hpackets w List.mem_cons_self))
      fun x hx => hpackets x (List.mem_cons_of_mem _ hx)

theorem Tracks.pumpLocked {q : Nat} (h : Tracks q s) (hq : q ≤ 1) (connected : Bool) (now : Nat)
    {arrived : List (List UInt8)} (harrived : ∀ w ∈ accepted c arrived, w.player = q) :
    Tracks q (s.pumpLocked c connected now arrived).1 := by
  rw [pumpLocked_eq]
  have hstart : Tracks q
      { s with
        now
        runtime :=
          { s.runtime with
            delayedPackets :=
              s.runtime.delayedPackets.filter fun d => !flushes c connected s.frame now d } } :=
    h.of_eq rfl rfl
  have hreceive := hstart.foldl_accept (c := c) hq true harrived
  obtain ⟨-, -, -, hreceived, hprogress⟩ := keeps_applyPendingPacketsLocked (c := c)
    ((accepted c arrived).foldl (Console.accept c true)
      { s with
        now
        runtime :=
          { s.runtime with
            delayedPackets :=
              s.runtime.delayedPackets.filter fun d => !flushes c connected s.frame now d } })
  exact hreceive.of_eq hreceived hprogress

theorem Tracks.step {q : Nat} (h : Tracks q s) (hq : q ≤ 1) {arrived : List (List UInt8)}
    {e : FrameEvent} {r : Console × List (List UInt8)} (hstep : s.step c arrived e = some r)
    (harrived : ∀ w ∈ accepted c arrived, w.player = q) : Tracks q r.1 := by
  rcases step_cases hstep with ⟨input, connected, now, -, -, -, rfl⟩ |
    ⟨connected, now, inContext, mem, taken, -, -, -, rfl⟩ | ⟨connected, now, -, -, -, rfl⟩ |
    ⟨-, rfl⟩ | ⟨mem, timedOut, -, -, -, -, rfl⟩
  · refine Tracks.pumpLocked ?_ hq connected now harrived
    unfold beginFrame
    split
    · exact h.of_eq rfl rfl
    · exact h.of_eq rfl rfl
  · have hstart : Tracks q { s with phase := .throttling } := h.of_eq rfl rfl
    have hpump := hstart.pumpLocked (c := c) hq connected now harrived
    obtain ⟨pumped, -, rfl, hend⟩ :=
      endFrame_cases (c := c) connected now inContext mem taken arrived s
    rcases hend with heq | ⟨captured, w, -, -, heq⟩
    · rw [heq]
      exact hpump
    · rw [heq]
      have hsent := sent_keepAndSend (c := c) connected now
        ({ s with phase := .throttling }.pumpLocked c connected now arrived).1 w
      exact hpump.of_eq hsent.received hsent.progress
  · exact h.pumpLocked hq connected now harrived
  · exact h.foldl_accept hq false harrived
  · exact h.of_eq rfl rfl

/-! ## Frames -/

/-- A step goes on to the next frame, or stays in the frame. -/
theorem Console.step_frame {arrived : List (List UInt8)} {e : FrameEvent}
    {r : Console × List (List UInt8)} (hfits : e.Fits s) (h : s.step c arrived e = some r) :
    r.1.frame = s.frame ∨ ∃ mem timedOut, e = .nextFrame mem timedOut ∧
      s.mayGoOn c mem timedOut = true ∧ r.1.frame = s.frame + 1 := by
  rcases step_cases h with ⟨input, connected, now, -, -, -, rfl⟩ |
    ⟨connected, now, inContext, mem, taken, -, -, -, rfl⟩ | ⟨connected, now, -, -, -, rfl⟩ |
    ⟨-, rfl⟩ | ⟨mem, timedOut, rfl, -, -, hgo, rfl⟩
  · left
    rw [(pumped_pumpLocked connected now arrived _).keeps.frame]
    unfold beginFrame
    split
    · rfl
    · rfl
  · left
    obtain ⟨pumped, hpumped, -, hend⟩ :=
      endFrame_cases (c := c) connected now inContext mem taken arrived s
    rcases hend with heq | ⟨captured, w, -, -, heq⟩
    · rw [heq]
      exact hpumped.keeps.frame
    · rw [heq]
      exact (sent_keepAndSend connected now _ w).frame.trans hpumped.keeps.frame
  · exact Or.inl (pumped_pumpLocked connected now arrived s).keeps.frame
  · exact Or.inl (keeps_foldl_accept false _ s).1.frame
  · have hnext : u32 (s.frame + 1) = s.frame + 1 :=
      Nat.mod_eq_of_lt (Nat.lt_trans hfits (by decide))
    exact Or.inr ⟨mem, timedOut, rfl, hgo, hnext⟩

theorem toInt_of_lt {frame : Nat} (h : frame < 2 ^ 31) : toInt frame = frame := if_pos h

/-- With progress at hand and without a timeout, the lead decides. -/
theorem mayGoOn_iff {mem : Arm.Memory} {timedOut : Bool} {remoteFrame : Nat}
    (htimeout : c.config.throttleTimeoutMs ≤ 0) (hframe : s.frame < 2 ^ 31)
    (hremote : remoteFrame < 2 ^ 31)
    (hprogress : (s.runtime.receivedPacketProgress (localPlayerID c mem ^^^ 1)).frame =
      remoteFrame) :
    s.mayGoOn c mem timedOut = true ↔
      c.config.maxFrameLead < 0 ∨ s.frame < c.sharedLogicalEpoch ∨
      remoteFrame < c.sharedLogicalEpoch ∨
        (s.frame : Int) - remoteFrame ≤ c.config.maxFrameLead := by
  have hset : remoteFrame ≠ kUnsetProgress := by
    unfold kUnsetProgress
    omega
  have hno : decide (0 < c.config.throttleTimeoutMs) = false := by
    rw [decide_eq_false_iff_not]
    omega
  unfold mayGoOn
  dsimp only
  rw [hprogress, toInt_of_lt hframe, toInt_of_lt hremote, hno, Bool.false_and]
  by_cases hoff : c.config.maxFrameLead < 0 ∨ s.frame < c.sharedLogicalEpoch
  · rw [if_pos hoff]
    exact ⟨fun _ => by tauto, fun _ => rfl⟩
  · rw [if_neg hoff]
    by_cases hold : remoteFrame = kUnsetProgress ∨ remoteFrame < c.sharedLogicalEpoch
    · rw [if_pos hold]
      exact ⟨fun _ => by tauto, fun _ => rfl⟩
    · rw [if_neg hold]
      by_cases hlead : (s.frame : Int) - remoteFrame ≤ c.config.maxFrameLead
      · rw [if_pos hlead]
        exact ⟨fun _ => by tauto, fun _ => rfl⟩
      · rw [if_neg hlead]
        simp only [Bool.false_eq_true, false_iff]
        tauto

/-- Each console knows which player sits at it. -/
def FrameEvent.Seated (c : IntegrationContext) (p : Fin 2) : FrameEvent → Prop
  | .afterFrame _ _ _ mem _ => localPlayerID c mem = p
  | .nextFrame mem _ => localPlayerID c mem = p
  | _ => True

instance decidableFrameSeated (c : IntegrationContext) (p : Fin 2) :
    (e : FrameEvent) → Decidable (e.Seated c p)
  | .afterFrame _ _ _ mem _ => inferInstanceAs (Decidable (localPlayerID c mem = p))
  | .nextFrame mem _ => inferInstanceAs (Decidable (localPlayerID c mem = p))
  | .beforeFrame _ _ _ | .throttle _ _ | .receive => isTrue trivial

namespace BridgePair

variable {c : Fin 2 → IntegrationContext} {leftover : Fin 2 → LiveReplayPackets}
  {start : Fin 2 → Nat}
  {s t : BridgePair}

/-- Both players sit at their consoles, and no frame counter reaches the sign bit. -/
def Seated (c : Fin 2 → IntegrationContext) (s : BridgePair) : BridgeEvent → Prop
  | .frame p e _ => e.Fits (s.side p) ∧ e.Seated (c p) p
  | .drop => True

instance decidableSeated (c : Fin 2 → IntegrationContext) (s : BridgePair) :
    (e : BridgeEvent) → Decidable (Seated c s e)
  | .frame p e _ =>
    have := decidableFits (s.side p) e
    have := decidableFrameSeated (c p) p e
    inferInstanceAs (Decidable (e.Fits (s.side p) ∧ e.Seated (c p) p))
  | .drop => isTrue trivial

theorem framesFit_of_seated {e : BridgeEvent} (h : Seated c s e) : FramesFit s e := by
  cases e with
  | frame p e n => exact h.1
  | drop => trivial

/-- Both consoles since they have started: what they have captured, and how far they know the other
one to be. -/
structure Playing (c : Fin 2 → IntegrationContext) (leftover : Fin 2 → LiveReplayPackets)
    (start : Fin 2 → Nat) (s : BridgePair) : Prop where
  linked : Linked c leftover s
  started : ∀ p, start p ≤ (s.side p).frame
  captured : ∀ p, ∀ w ∈ (s.side p).captured, w.player = p ∧ start p ≤ w.frame
  tracks : ∀ p, Tracks (other p) (s.side p)

theorem playing_init {pushes : Fin 2 → List (Nat × List UInt8)} (hstart : ∀ p, start p < 2 ^ 31) :
    Playing c (fun p => .ofPushes (pushes p)) start (BridgePair.init start pushes) where
  linked := linked_init hstart
  started p := Nat.le_refl (start p)
  captured _ _ hw := absurd hw List.not_mem_nil
  tracks _ := ⟨fun _ hw => absurd hw List.not_mem_nil, rfl⟩

/-- What arrives at a console is from the other player. -/
theorem Playing.player_of_accepted (h : Playing c leftover start s) (p : Fin 2) (n : Nat) :
    ∀ w ∈ accepted (c p) ((s.sent (other p)).take n), w.player = other p := by
  intro w hw
  have hback := h.linked.wire (other p)
  rw [other_other] at hback
  have hmem := mem_of_mem_accepted (h.linked.fits (other p))
    (fun data hdata => hback.flight data (List.mem_of_mem_take hdata)) hw
  exact (h.captured (other p) w hmem).1

theorem playing_step {e : BridgeEvent} (h : Playing c leftover start s) (hok : Seated c s e)
    (hstep : BridgePair.step c s e = some t) : Playing c leftover start t := by
  have hlinked := linked_step h.linked (framesFit_of_seated hok) hstep
  cases e with
  | drop =>
    obtain rfl : s.drop = t := Option.some.inj hstep
    exact ⟨hlinked, h.started, h.captured, h.tracks⟩
  | frame p e n =>
    obtain ⟨r, hr, hself, hother, -, -⟩ := frame_step hstep
    obtain ⟨new, htraffic, hnew⟩ := exists_traffic (h.linked.inv p) hr
    have hframe := step_frame hok.1 hr
    refine ⟨hlinked, ?_, ?_, ?_⟩
    · intro q
      rcases eq_or_eq_other p q with rfl | rfl
      · rw [hself]
        have hstarted := h.started q
        rcases hframe with hsame | ⟨_, _, -, -, hnext⟩
        · omega
        · omega
      · rw [hother]
        exact h.started _
    · intro q w hw
      rcases eq_or_eq_other p q with rfl | rfl
      · rw [hself, htraffic.captured] at hw
        rcases List.mem_append.mp hw with hold | hfresh
        · exact h.captured _ w hold
        · rcases hnew with rfl | ⟨_, _, _, mem, _, x, rfl, -, rfl, hx, hplayer⟩
          · cases hfresh
          · obtain rfl := List.mem_singleton.mp hfresh
            rw [hx]
            exact ⟨hplayer.trans hok.2, h.started _⟩
      · rw [hother] at hw
        exact h.captured _ w hw
    · intro q
      rcases eq_or_eq_other p q with rfl | rfl
      · rw [hself]
        exact (h.tracks q).step (by omega) hr (h.player_of_accepted q n)
      · rw [hother]
        exact h.tracks _

/-- The frame in which the other console last was, as far as a console knows. -/
theorem Playing.exists_progress (h : Playing c leftover start s) {p : Fin 2}
    (hheard : (s.side p).received ≠ []) :
    ∃ w ∈ (s.side (other p)).captured, (s.side p).received.getLast? = some w ∧
      ∀ mem, localPlayerID (c p) mem = p →
        ((s.side p).runtime.receivedPacketProgress (localPlayerID (c p) mem ^^^ 1)).frame =
          w.frame := by
  obtain ⟨w, hw⟩ := Option.isSome_iff_exists.mp (List.getLast?_isSome.mpr hheard)
  have hback := h.linked.wire (other p)
  rw [other_other] at hback
  refine ⟨w, hback.received w (List.mem_of_getLast? hw), hw, ?_⟩
  intro mem hmem
  have hremote : (p : Nat) ^^^ 1 = other p := by
    match p with
    | 0 => rfl
    | 1 => rfl
  have hlt : ¬ 2 ≤ ((other p : Fin 2) : Nat) := by omega
  unfold Runtime.receivedPacketProgress
  rw [hmem, hremote, if_neg hlt, (h.tracks p).progress]
  unfold lastProgress
  rw [hw]
  rfl

theorem Playing.frame_le (h : Playing c leftover start s) {p : Fin 2} {w : WireNSMLPacket}
    (hw : w ∈ (s.side p).captured) : w.frame ≤ (s.side p).frame := by
  rcases (h.linked.inv p).captured_frame w hw with hlt | ⟨heq, -⟩
  · exact Nat.le_of_lt hlt
  · exact Nat.le_of_eq heq

/-- A console that has heard from the other one goes on only while its lead is small. -/
theorem Playing.lead_le (h : Playing c leftover start s) {p : Fin 2}
    (hheard : (s.side p).received ≠ []) (hepoch : ∀ q, (c p).sharedLogicalEpoch ≤ start q)
    (htimeout : (c p).config.throttleTimeoutMs ≤ 0) (hlead : 0 ≤ (c p).config.maxFrameLead)
    {mem : Arm.Memory} {timedOut : Bool} (hmem : localPlayerID (c p) mem = p)
    (hgo : (s.side p).mayGoOn (c p) mem timedOut = true) :
    ((s.side p).frame : Int) ≤ (s.side (other p)).frame + (c p).config.maxFrameLead := by
  obtain ⟨w, hw, -, hprogress⟩ := h.exists_progress hheard
  have hle := h.frame_le hw
  have hself := (h.linked.inv p).frame_lt
  have hother := (h.linked.inv (other p)).frame_lt
  have hstarted := h.started p
  have hwstart := (h.captured (other p) w hw).2
  have hown := hepoch p
  have hremote := hepoch (other p)
  rw [mayGoOn_iff htimeout hself (by omega) (hprogress mem hmem)] at hgo
  omega

theorem received_mono {e : BridgeEvent} (hlinked : Linked c leftover s)
    (hstep : BridgePair.step c s e = some t) {p : Fin 2} (hheard : (s.side p).received ≠ []) :
    (t.side p).received ≠ [] := by
  cases e with
  | drop =>
    obtain rfl : s.drop = t := Option.some.inj hstep
    exact hheard
  | frame q e n =>
    obtain ⟨r, hr, hself, hother, -, -⟩ := frame_step hstep
    obtain ⟨new, htraffic, -⟩ := exists_traffic (hlinked.inv q) hr
    rcases eq_or_eq_other q p with rfl | rfl
    · rw [hself, htraffic.received]
      exact List.append_ne_nil_of_left_ne_nil hheard _
    · rw [hother]
      exact hheard

/-- Since a state in which it had heard from the other console, a console has not moved or is
close. -/
structure Close (c : Fin 2 → IntegrationContext) (p : Fin 2) (frame : Nat) (s : BridgePair) :
    Prop where
  heard : (s.side p).received ≠ []
  close : (s.side p).frame = frame ∨
    ((s.side p).frame : Int) ≤ (s.side (other p)).frame + (c p).config.maxFrameLead + 1

theorem close_step {e : BridgeEvent} {p : Fin 2} {frame : Nat} (h : Playing c leftover start s)
    (hclose : Close c p frame s) (hepoch : ∀ q, (c p).sharedLogicalEpoch ≤ start q)
    (htimeout : (c p).config.throttleTimeoutMs ≤ 0) (hlead : 0 ≤ (c p).config.maxFrameLead)
    (hok : Seated c s e) (hstep : BridgePair.step c s e = some t) : Close c p frame t := by
  refine ⟨received_mono h.linked hstep hclose.heard, ?_⟩
  have hold := hclose.close
  cases e with
  | drop =>
    obtain rfl : s.drop = t := Option.some.inj hstep
    exact hold
  | frame q e n =>
    obtain ⟨r, hr, hself, hother, -, -⟩ := frame_step hstep
    have hframe := step_frame hok.1 hr
    rcases eq_or_eq_other q p with rfl | rfl
    · rw [hself, hother]
      rcases hframe with hsame | ⟨mem, timedOut, rfl, hgo, hnext⟩
      · rw [hsame]
        exact hold
      · right
        have hbound := h.lead_le hclose.heard hepoch htimeout hlead hok.2 hgo
        rw [hnext]
        push_cast
        omega
    · rw [other_other] at hold ⊢
      rw [hother, hself]
      rcases hframe with hsame | ⟨_, _, -, -, hnext⟩
      · rw [hsame]
        exact hold
      · rw [hnext]
        push_cast
        omega

/-- Whatever is lost on the way: once a console has heard from the other one, every frame that it
begins is at most `MaxFrameLead` frames ahead of the frame after the other one's, and it
stays so. -/
theorem frame_lead_bounded {pushes : Fin 2 → List (Nat × List UInt8)} {es fs : List BridgeEvent}
    (hstart : ∀ p, start p < 2 ^ 31)
    (hok : Run.Along (BridgePair.step c) (Seated c) (BridgePair.init start pushes) (es ++ fs))
    (hrun : Run.run (BridgePair.step c) (BridgePair.init start pushes) es = some s)
    (hrun' : Run.run (BridgePair.step c) s fs = some t) {p : Fin 2}
    (hepoch : ∀ q, (c p).sharedLogicalEpoch ≤ start q)
    (htimeout : (c p).config.throttleTimeoutMs ≤ 0)
    (hlead : 0 ≤ (c p).config.maxFrameLead) (hheard : (s.side p).received ≠ [])
    (hmoved : (t.side p).frame ≠ (s.side p).frame) :
    ((t.side p).frame : Int) ≤ (t.side (other p)).frame + (c p).config.maxFrameLead + 1 := by
  obtain ⟨hok, hok'⟩ := Run.along_append.mp hok
  have hplaying := Run.run_invariant (fun _ _ _ h hok hstep => playing_step h hok hstep)
    (playing_init hstart) hok hrun
  have hboth := Run.run_invariant
    (fun _ _ _ (h : Playing c _ start _ ∧ Close c p (s.side p).frame _) hok hstep =>
      ⟨playing_step h.1 hok hstep, close_step h.1 h.2 hepoch htimeout hlead hok hstep⟩)
    ⟨hplaying, ⟨hheard, Or.inl rfl⟩⟩ (hok' s hrun) hrun'
  rcases hboth.2.close with heq | hclose
  · exact absurd heq hmoved
  · exact hclose

/-- The example up to the moment when console 1 has heard from the other one. -/
def heardState : BridgePair :=
  Run.final (BridgePair.step exampleContext) exampleStart (exampleRun.take 5)

theorem frame_lead_bounded_exampleRun :
    (((Run.final (BridgePair.step exampleContext) heardState (exampleRun.drop 5)).side
      1).frame : Int) ≤
      ((Run.final (BridgePair.step exampleContext) heardState (exampleRun.drop 5)).side
        (other 1)).frame +
        (exampleContext 1).config.maxFrameLead + 1 := by
  have hrun : Run.run (BridgePair.step exampleContext) exampleStart (exampleRun.take 5) =
      some heardState := Run.run_eq_final _ _ _ (by decide +kernel)
  have hrun' : Run.run (BridgePair.step exampleContext) heardState (exampleRun.drop 5) =
      some (Run.final (BridgePair.step exampleContext) heardState (exampleRun.drop 5)) :=
    Run.run_eq_final _ _ _ (by decide +kernel)
  exact frame_lead_bounded (by decide) (by decide +kernel) hrun hrun' (by decide)
    (by decide) (by decide)
    (by decide +kernel) (by decide +kernel)

end BridgePair

end Bigstar.Netplay.PacketBridge
