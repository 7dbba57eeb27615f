import Bigstar.Netplay.Proofs.PredictionDepthProofs

/-!
# Two peers with the ROM-loop backend

Two peers play one game from the same state of the console, each with its own predictions and its
own corrections. Each of them stands, at every frame whose inputs are all known to it, where
lockstep stands; so the two agree about these frames, and the horizon makes every frame such a one
before long.
-/

namespace Bigstar.Netplay.RomLoop

open OrderedMap InputTimeline RollbackStorage RollbackRuntime GameRAMRollback Runtime

variable {S : Type} {guest : Guest S (Fin 2 → InputState)} {start : Started}
  {truth : Nat → InputState}
  {initial : S} {s t : Session S}

/-- A run of one peer, from its handshake on: the inputs `truth` of the other player arrive between
its frames. -/
structure PeerRun (guest : Guest S (Fin 2 → InputState)) (start : Started)
    (truth : Nat → InputState) (initial : S) (s : Session S) where
  inputs : InputTimeline.Runtime
  nds : Nds S (Fin 2 → InputState)
  events : List FrameEvent
  active : Active start.config
  bounded : Bounded start.config
  fresh : Fresh start inputs nds
  primed : Primed start truth inputs
  magic : nds.history.magic = true
  mainRAM_eq : nds.mainRAM = initial
  atomic : ∀ event ∈ events, Atomic start event
  confirmed : ∀ event ∈ events, event.ConfirmedBy truth
  run_eq : Run.run (RomLoop.frame guest start) (startSession start inputs nds) events = some s

/-- The state before frame `f` is beyond doubt: the frame lies a horizon back, or has been run with
all inputs before it known. -/
def Sure (start : Started) (s : Session S) (f : Nat) : Prop :=
  f + start.config.predictionHorizonFrames.toNat ≤ s.frame start ∨
    f ≤ s.frame start ∧
      ∀ k, start.sharedLogicalEpoch ≤ k → k < f → ∃ input, s.inputs.remoteInputs[k]? = some input

/-! ## One peer -/

/-- A mismatch within the horizon is one that the history reaches. -/
theorem DepthInv.calm {event : FrameEvent} (h : DepthInv guest start truth initial s)
    (hactive : Active start.config) (hbounded : Bounded start.config) (hatomic : Atomic start event)
    (htrue : event.ConfirmedBy truth) : Calm start truth s event := by
  refine ⟨hatomic, htrue, fun p hp => ?_⟩
  have hle := hbounded.horizon_le
  have hdepth := (h.pending hactive htrue hp).2
  omega

theorem PeerRun.inv (p : PeerRun guest start truth initial s) (hreliable : Reliable guest initial) :
    DepthInv guest start truth initial s ∧ CalmInv guest start truth initial s := by
  obtain ⟨inputs, nds, events, hactive, hbounded, hfresh, hprimed, hmagic, rfl, hatomic, hconfirmed,
    hrun⟩ := p
  have hstep : ∀ (s : Session S) event t, (DepthInv guest start truth nds.mainRAM s ∧
      CalmInv guest start truth nds.mainRAM s) → (Atomic start event ∧ event.ConfirmedBy truth) →
      RomLoop.frame guest start s event = some t →
      DepthInv guest start truth nds.mainRAM t ∧ CalmInv guest start truth nds.mainRAM t := by
    rintro s event t ⟨hdepth, hcalm⟩ ⟨hatomic, htrue⟩ hstep
    have hquiet := hdepth.calm hactive hbounded hatomic htrue
    exact ⟨hdepth.frame hactive hbounded hreliable htrue hstep,
      hcalm.frame hactive hreliable hquiet hstep⟩
  have hdepth := hfresh.depthInv hprimed hmagic guest
  have hcalm : CalmInv guest start truth nds.mainRAM (startSession start inputs nds) :=
    ⟨hdepth.inv, hfresh.tracking hprimed.confirmed, fun _ => hfresh.pending⟩
  exact Run.run_invariant_of_forall hstep ⟨hdepth, hcalm⟩
    (fun event hevent => ⟨hatomic event hevent, hconfirmed event hevent⟩) hrun

/-- The inputs of both players in lockstep, as the peer knows them. -/
def lockstepPlayers (start : Started) (truth : Nat → InputState) (s : Session S) (frame : Nat) :
    Fin 2 → InputState :=
  fun player => if player = start.localPlayer then
    s.inputs.localInput frame neutralInput else truth frame

theorem DepthInv.known_of_sure (h : DepthInv guest start truth initial s) {f k : Nat}
    (hsure : Sure start s f) (hk : start.sharedLogicalEpoch ≤ k) (hkf : k < f) :
    ∃ input, s.inputs.remoteInputs[k]? = some input := by
  rcases hsure with hback | ⟨-, hknown⟩
  · refine h.settled.known k hk ?_
    unfold reach
    omega
  · exact hknown k hk hkf

/-- The guest was given the inputs of lockstep for every frame beyond doubt. -/
theorem PeerRun.playersOf_eq (p : PeerRun guest start truth initial s)
    (hreliable : Reliable guest initial)
    {f k : Nat} (hsure : Sure start s f) (hk : start.sharedLogicalEpoch ≤ k) (hkf : k < f) :
    playersOf s.used k = lockstepPlayers start truth s k := by
  obtain ⟨hdepth, hcalm⟩ := p.inv hreliable
  have hkn : k < s.frame start := by
    rcases hsure with hback | ⟨hle, -⟩ <;> omega
  obtain ⟨frameInputs, hused⟩ := hdepth.inv.ran k hk hkn
  obtain ⟨input, hknown⟩ := hdepth.known_of_sure hsure hk hkf
  have htruth : input = truth k := hdepth.accounts.confirmed k input hknown
  have hremote : frameInputs.remoteInput = truth k := by
    rcases hcalm.tracking.sound k frameInputs.remoteInput hkn (by simp [remoteOf, hused]) with
      ⟨pending, hpending, -⟩ | htracks
    · rw [hcalm.not_pending p.bounded.at_once] at hpending
      exact absurd hpending (by simp)
    · exact (htracks.eq_of_confirmed hknown).trans htruth
  have hplayers := hcalm.tracking.players k frameInputs hused
  unfold playersOf lockstepPlayers
  rw [hused]
  dsimp only
  rw [hplayers, hremote]

/-- The playthrough of the peer is that of lockstep up to every frame beyond doubt. -/
theorem PeerRun.stateAt_eq (p : PeerRun guest start truth initial s)
    (hreliable : Reliable guest initial) {f : Nat} (hsure : Sure start s f) :
    Run.stateAt guest.tick (playersOf s.used) initial start.sharedLogicalEpoch f =
      Run.stateAt guest.tick (lockstepPlayers start truth s) initial start.sharedLogicalEpoch f :=
  Run.stateAt_congr guest.tick initial fun _ hk hkf => p.playersOf_eq hreliable hsure hk hkf

/-- A valid checkpoint of the ring is the state of the playthrough at its label. -/
theorem PeerRun.checkpoint_eq (p : PeerRun guest start truth initial s)
    (hreliable : Reliable guest initial) (hstarted : start.sharedLogicalEpoch < s.frame start)
    {c : GameRAMCheckpoint S} (hc : c ∈ s.nds.checkpoints) (hvalid : c.valid = true) :
    c.mainRAM = some (Run.stateAt guest.tick (playersOf s.used) initial start.sharedLogicalEpoch
      c.displayFrame) := by
  obtain ⟨hdepth, -⟩ := p.inv hreliable
  obtain ⟨held, hholds, hheld, -⟩ := hdepth.inv.standing.captured hstarted
  exact (hheld c (hholds.mem_iff.mpr ⟨hc, hvalid⟩)).1.mainRAM_eq

/-! ## Both peers -/

variable {start' : Started} {truth' : Nat → InputState}

/-- Each of the peers gets what the other one recorded as its own input, up to frame `f`. -/
structure Exchanged (start start' : Started) (truth truth' : Nat → InputState) (s t : Session S)
    (f : Nat) : Prop where
  localPlayer_ne : start.localPlayer ≠ start'.localPlayer
  epoch_eq : start.sharedLogicalEpoch = start'.sharedLogicalEpoch
  forth : ∀ k, start.sharedLogicalEpoch ≤ k → k < f → truth' k = s.inputs.localInput k neutralInput
  back : ∀ k, start.sharedLogicalEpoch ≤ k → k < f → truth k = t.inputs.localInput k neutralInput

/-- Lockstep is the same game on both sides. -/
theorem Exchanged.lockstepPlayers_eq {f k : Nat} (h : Exchanged start start' truth truth' s t f)
    (hk : start.sharedLogicalEpoch ≤ k) (hkf : k < f) :
    lockstepPlayers start truth s k = lockstepPlayers start' truth' t k := by
  have hne := h.localPlayer_ne
  funext player
  unfold lockstepPlayers
  by_cases hplayer : player = start.localPlayer
  · have hother : player ≠ start'.localPlayer := fun heq => hne (hplayer.symm.trans heq)
    rw [if_pos hplayer, if_neg hother, h.forth k hk hkf]
  · -- there are two players only
    have hother : player = start'.localPlayer := by
      rw [Fin.ext_iff] at hplayer ⊢
      rw [Ne, Fin.ext_iff] at hne
      omega
    rw [if_neg hplayer, if_pos hother, h.back k hk hkf]

/-- Two peers with a horizon of 1 to 10 frames, the inputs of each arriving between the frames of
the other: about every frame beyond doubt on both sides, which every frame is that lies a horizon
back, they agree. The states their playthroughs have before it are equal, so are all valid
checkpoints of it in their rings, and so is the main RAM where both are about to run it. -/
theorem peers_agree (guest : Guest S (Fin 2 → InputState)) (initial : S)
    (hreliable : Reliable guest initial) (start start' : Started) (truth truth' : Nat → InputState)
    (s t : Session S) (p : PeerRun guest start truth initial s)
    (q : PeerRun guest start' truth' initial t)
    (f : Nat) (hexchanged : Exchanged start start' truth truth' s t f) (hs : Sure start s f)
    (ht : Sure start' t f) :
    Run.stateAt guest.tick (playersOf s.used) initial start.sharedLogicalEpoch f =
      Run.stateAt guest.tick (playersOf t.used) initial start'.sharedLogicalEpoch f ∧
    (∀ c ∈ s.nds.checkpoints, ∀ d ∈ t.nds.checkpoints, c.valid = true → d.valid = true →
      c.displayFrame = f → d.displayFrame = f → start.sharedLogicalEpoch < f →
        c.mainRAM = d.mainRAM) ∧
    (s.frame start = f → t.frame start' = f → s.nds.mainRAM = t.nds.mainRAM) := by
  have hepoch := hexchanged.epoch_eq
  have hstates : Run.stateAt guest.tick (playersOf s.used) initial start.sharedLogicalEpoch f =
      Run.stateAt guest.tick (playersOf t.used) initial start'.sharedLogicalEpoch f := by
    rw [p.stateAt_eq hreliable hs, q.stateAt_eq hreliable ht, ← hepoch]
    exact Run.stateAt_congr guest.tick initial fun k hk hkf => hexchanged.lockstepPlayers_eq hk hkf
  refine ⟨hstates, ?_, ?_⟩
  · intro c hc d hd hcvalid hdvalid hcf hdf hlt
    have hsf : f ≤ s.frame start := by
      rcases hs with h | h <;> omega
    have htf : f ≤ t.frame start' := by
      rcases ht with h | h <;> omega
    rw [p.checkpoint_eq hreliable (by omega) hc hcvalid,
      q.checkpoint_eq hreliable (by omega) hd hdvalid, hcf, hdf, hstates]
  · intro hsf htf
    have hsram := (p.inv hreliable).1.inv.standing.ram
    have htram := (q.inv hreliable).1.inv.standing.ram
    rw [hsf] at hsram
    rw [htf] at htram
    exact hsram.trans (hstates.trans htram.symm)

theorem readyFrame_pos (player : Fin 2) : 0 < 10 + 2 * (player : Nat) := by omega

/-- Either player of the example session. Player 1 gets ready two raw frames after the epoch. -/
def sessionOf (player : Fin 2) : Started :=
  { sessionFrom (10 + 2 * (player : Nat)) (readyFrame_pos player) with localPlayer := player }

theorem sessionOf_fresh (player : Fin 2) : Fresh (sessionOf player) primedInputs resetConsole := by
  have h := primedInputs_fresh 10 exampleEpoch_pos
  exact ⟨h.settled, h.ring, h.predictions, h.pending⟩

theorem sessionOf_primed (player : Fin 2) (truth : Nat → InputState) :
    Primed (sessionOf player) truth primedInputs := by
  have h := primedInputs_primed 10 exampleEpoch_pos truth
  exact ⟨h.epoch_eq, h.contiguous, h.confirmed⟩

/-- The session of a player after these frames. -/
def playerAfter (player : Fin 2) (events : List FrameEvent) : Session (List UInt32) :=
  Run.final (RomLoop.frame logGame (sessionOf player))
    (startSession (sessionOf player) primedInputs resetConsole) events

/-- A frame with these buttons held and these inputs arriving at its pump. -/
def frameOf (polled : InputState) (pumped : List Arrival) : FrameEvent :=
  { frameWith pumped with polled := polled }

/-- A run of a player whose opponent holds the same buttons all the time. -/
def peerRunOf (player : Fin 2) (input : InputState) (frames : List (InputState × List Arrival))
    (hinput : ∀ frame ∈ frames, ∀ a ∈ frame.2, a.input = input)
    (hrun : (Run.run (RomLoop.frame logGame (sessionOf player))
      (startSession (sessionOf player) primedInputs resetConsole)
      (frames.map fun frame => frameOf frame.1 frame.2)).isSome) :
    PeerRun logGame (sessionOf player) (fun _ => input) []
      (playerAfter player (frames.map fun frame => frameOf frame.1 frame.2)) where
  inputs := primedInputs
  nds := resetConsole
  events := frames.map fun frame => frameOf frame.1 frame.2
  active := sessionFrom_active 10 exampleEpoch_pos
  bounded := sessionFrom_bounded 10 exampleEpoch_pos
  fresh := sessionOf_fresh player
  primed := sessionOf_primed player _
  magic := rfl
  mainRAM_eq := rfl
  atomic := by
    intro event hevent
    obtain ⟨frame, -, rfl⟩ := List.mem_map.mp hevent
    exact ⟨fun _ _ => Or.inr (Nat.le_add_right 10 _), rfl, rfl, rfl⟩
  confirmed := by
    intro event hevent
    obtain ⟨frame, hframe, rfl⟩ := List.mem_map.mp hevent
    refine ⟨fun a ha => ?_, by simp [frameOf, frameWith], by simp [frameOf, frameWith],
      by simp [frameOf, frameWith]⟩
    obtain ⟨b, hb, rfl⟩ := List.mem_map.mp ha
    exact hinput frame hframe b hb
  run_eq := Run.run_eq_final _ _ _ hrun

/-- Player 0 holds nothing and gets all inputs in its third frame. -/
def framesOfPlayer0 : List (InputState × List Arrival) :=
  [({}, []), ({}, []), ({}, [⟨12, Play.pressA⟩, ⟨11, Play.pressA⟩, ⟨10, Play.pressA⟩])]

/-- Player 1 holds a button and gets all inputs in its second frame. -/
def framesOfPlayer1 : List (InputState × List Arrival) :=
  [(Play.pressA, []), (Play.pressA, [⟨10, {}⟩, ⟨11, {}⟩, ⟨12, {}⟩]), (Play.pressA, [])]

/-- Both have the same main RAM after three frames, although player 0 predicted the first two
wrong. -/
theorem peers_agree_threeFrames :
    let s := playerAfter 0 (framesOfPlayer0.map fun frame => frameOf frame.1 frame.2)
    let t := playerAfter 1 (framesOfPlayer1.map fun frame => frameOf frame.1 frame.2)
    s.nds.mainRAM = [0xFFE, 0xFFE, 0xFFE] ∧ s.nds.mainRAM = t.nds.mainRAM := by
  intro s t
  have hknown : ∀ k, 10 ≤ k → k < 13 → (∃ input, s.inputs.remoteInputs[k]? = some input) ∧
      (∃ input, t.inputs.remoteInputs[k]? = some input) ∧
      s.inputs.localInput k neutralInput = {} ∧
      t.inputs.localInput k neutralInput = Play.pressA := by
    intro k hk hlt
    simp only [← Option.isSome_iff_exists]
    obtain rfl | rfl | rfl : k = 10 ∨ k = 11 ∨ k = 12 := by omega
    · decide +kernel
    · decide +kernel
    · decide +kernel
  have hframe : s.frame (sessionOf 0) = 13 := by decide +kernel
  have hframe' : t.frame (sessionOf 1) = 13 := by decide +kernel
  obtain ⟨-, -, hram⟩ := peers_agree logGame [] logGame_reliable (sessionOf 0) (sessionOf 1)
    (fun _ => Play.pressA) (fun _ => {}) s t
    (peerRunOf 0 Play.pressA framesOfPlayer0 (by decide) (by decide +kernel))
    (peerRunOf 1 {} framesOfPlayer1 (by decide) (by decide +kernel)) 13
    ⟨by decide, rfl, fun k hk hlt => (hknown k hk hlt).2.2.1.symm,
      fun k hk hlt => (hknown k hk hlt).2.2.2.symm⟩
    (Or.inr ⟨Nat.le_of_eq hframe.symm, fun k hk hlt => (hknown k hk hlt).1⟩)
    (Or.inr ⟨Nat.le_of_eq hframe'.symm, fun k hk hlt => (hknown k hk hlt).2.1⟩)
  exact ⟨by decide +kernel, hram hframe hframe'⟩

end Bigstar.Netplay.RomLoop
