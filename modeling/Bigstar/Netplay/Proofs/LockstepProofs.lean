import Bigstar.Netplay.Lockstep
import Bigstar.Netplay.Proofs.InputExchangeProofs

/-!
# Lockstep keeps the peers together

Every frame that a peer runs, it runs with the inputs that both players have recorded for it, so the
two games are states of one playthrough. How far one peer may be ahead follows from what the other
one has recorded by then, and of two waiting peers one waits for an input that is already on record.
-/

namespace Bigstar.Netplay.Lockstep

open OrderedMap InputTimeline RollbackRuntime InputExchange TwoParty

variable {σ : Type} {m : Match} {tick : σ → (Fin 2 → InputState) → σ} {initial : σ} {s t : State σ}

/-- A settled input is what the side counts as its own input of the frame. -/
theorem localInput_of_settled {a : Side} (h : Valid m a) {f : Nat} {v : InputState}
    (hsettled : Settled m a f v) : a.inputs.localInput f neutralInput = v := by
  unfold Runtime.localInput
  rcases hsettled with hrecorded | ⟨hwaiting, -, -, rfl⟩
  · rw [hrecorded]
    rfl
  · rw [(h.waiting hwaiting).localInputs f]
    rfl

/-- The input of every frame before the next one is settled, and beyond it, as far as the delay
goes. -/
structure Recorded (m : Match) (a : Side) (bound : Nat) : Prop where
  settled : ∀ f, m.epoch ≤ f → f < bound → ∃ v, Settled m a f v

theorem Recorded.grows {a a' : Side} {bound : Nat} (h : Recorded m a bound)
    (hgrows : Grows m a a') :
    Recorded m a' bound := by
  refine ⟨fun f hf hlt => ?_⟩
  obtain ⟨v, hv⟩ := h.settled f hf hlt
  exact ⟨v, hgrows.settled f v hv⟩

/-- What a side of the exchange has settled ends with its delay. -/
theorem lt_of_settled {a : Side} (h : Valid m a) {f : Nat} {v : InputState}
    (hsettled : Settled m a f v) :
    f < a.nextFrame.getD m.epoch + m.delay := by
  rcases hsettled with hrecorded | ⟨hwaiting, -, hlt, -⟩
  · cases hnext : a.nextFrame with
    | none =>
      rw [(h.waiting hnext).localInputs f] at hrecorded
      exact absurd hrecorded (by simp)
    | some n => exact (((h.started n hnext).localInputs f).mp ⟨v, hrecorded⟩).2
  · rw [hwaiting]
    exact hlt

/-! ## The invariant -/

/-- The invariant of a run: each state follows from the inputs of the frames that were run. -/
structure Inv (m : Match) (tick : σ → (Fin 2 → InputState) → σ) (initial : σ) (s : State σ) :
    Prop where
  consistent : Consistent m s.net
  /-- The input of a frame that waits has been recorded. -/
  begun : ∀ p n, s.waiting p = some n → (s.net.side p).nextFrame = some (n + 1) ∧ m.epoch ≤ n
  /-- Both players have settled their inputs of the frames that a peer has run. -/
  recorded : ∀ p q, Recorded m (s.net.side q) (s.frame m p)
  game : ∀ p, s.game p = Run.stateAt tick s.players initial m.epoch (s.frame m p)

theorem inv_init (m : Match) (tick : σ → (Fin 2 → InputState) → σ) (initial : σ) :
    Inv m tick initial (State.init initial) where
  consistent := consistent_init m
  begun _ _ h := absurd h (by simp [State.init])
  recorded _ _ := ⟨fun f hf hlt => absurd hlt (Nat.not_lt.mpr hf)⟩
  game _ := (Run.stateAt_self tick _ initial m.epoch).symm

/-- What has been run stays as it was run while the records grow. -/
theorem Inv.stateAt_players (h : Inv m tick initial s) (hconsistent : Consistent m t.net)
    (hgrows : ∀ q, Grows m (s.net.side q) (t.net.side q)) (p : Fin 2) :
    Run.stateAt tick s.players initial m.epoch (s.frame m p) =
      Run.stateAt tick t.players initial m.epoch (s.frame m p) := by
  apply Run.stateAt_congr
  intro k hk hlt
  funext q
  obtain ⟨v, hv⟩ := (h.recorded p q).settled k hk hlt
  have hbefore := localInput_of_settled (h.consistent.valid q) hv
  have hafter := localInput_of_settled (hconsistent.valid q) ((hgrows q).settled k v hv)
  exact hbefore.trans hafter.symm

/-! ## Between the frames -/

theorem nextFrame_put {net : InputExchange.State} {p : Fin 2} {a : Side}
    {payloads : List InputDelivery.Payload} (h : a.nextFrame = (net.side p).nextFrame) (q : Fin 2) :
    ((net.put p a payloads).side q).nextFrame = (net.side q).nextFrame := by
  rcases eq_or_eq_other p q with rfl | rfl
  · rw [Net.put_side_self]
    exact h
  · rw [Net.put_side_other]

/-- Outside of the frames nothing is sampled; priming fixes the first frame. -/
theorem nextFrame_of_between {net net' : InputExchange.State} {op : InputExchange.Op}
    (hop : IsBetweenFrames op) (hstep : net.step m op = some net') (q : Fin 2) :
    (net'.side q).nextFrame = (net.side q).nextFrame ∨
      (net.side q).nextFrame = none ∧ (net'.side q).nextFrame = some m.epoch := by
  cases op with
  | adoptEpoch p =>
    obtain rfl := Option.some.inj hstep
    left
    refine nextFrame_put ?_ q
    rfl
  | prime p =>
    obtain ⟨a, ha, rfl⟩ := Option.map_eq_some_iff.mp hstep
    unfold Side.prime at ha
    split at ha
    · exact absurd ha (by simp)
    · next hnone =>
      obtain rfl := Option.some.inj ha
      rcases eq_or_eq_other p q with rfl | rfl
      · right
        rw [Net.put_side_self]
        exact ⟨hnone, rfl⟩
      · left
        rw [Net.put_side_other]
  | sample p input bundleHistory connected => exact absurd hop id
  | resend p bundleHistory =>
    obtain ⟨payload, -, rfl⟩ := Option.map_eq_some_iff.mp hstep
    left
    refine nextFrame_put ?_ q
    rfl
  | deliver p index rollbackEnabled localFrame =>
    obtain ⟨payload, -, rfl⟩ := Option.map_eq_some_iff.mp hstep
    left
    refine nextFrame_put ?_ q
    rfl
  | deliverForeign p payload rollbackEnabled localFrame =>
    dsimp only [InputExchange.State.step] at hstep
    split at hstep
    · obtain rfl := Option.some.inj hstep
      left
      refine nextFrame_put ?_ q
      rfl
    · exact absurd hstep (by simp)
  | predict p rollbackInputs => exact absurd hop id

theorem Inv.exchange (h : Inv m tick initial s) {op : InputExchange.Op} (hop : IsBetweenFrames op)
    {net : InputExchange.State} (hstep : s.net.step m op = some net) :
    Inv m tick initial { s with net } := by
  have hconsistent := consistent_step s.net op net h.consistent hstep
  have hgrows := fun q => grows_step h.consistent hstep q
  have hnext := fun q => nextFrame_of_between hop hstep q
  have hframe : ∀ p, ({ s with net } : State σ).frame m p = s.frame m p := by
    intro p
    unfold State.frame
    dsimp only
    rcases hnext p with hsame | ⟨hnone, hprimed⟩
    · rw [hsame]
    · cases s.waiting p with
      | none => rw [hnone, hprimed]
      | some n => rfl
  refine ⟨hconsistent, ?_, ?_, ?_⟩
  · intro p n hwaiting
    obtain ⟨hbegun, hepoch⟩ := h.begun p n hwaiting
    refine ⟨?_, hepoch⟩
    rcases hnext p with hsame | ⟨hnone, -⟩
    · exact hsame.trans hbegun
    · rw [hbegun] at hnone
      exact absurd hnone (by simp)
  · intro p q
    rw [hframe]
    exact (h.recorded p q).grows (hgrows q)
  · intro p
    rw [hframe]
    exact (h.game p).trans (h.stateAt_players (t := { s with net }) hconsistent hgrows p)

/-! ## A frame -/

theorem Inv.beginFrame (h : Inv m tick initial s) {p : Fin 2} {input : InputState}
    {bundleHistory : Int}
    {connected : Bool} {net : InputExchange.State} (hidle : s.waiting p = none)
    (hstep : s.net.step m (.sample p input bundleHistory connected) = some net) :
    Inv m tick initial
      { s with net, waiting := Function.update s.waiting p (s.net.side p).nextFrame } := by
  have hconsistent := consistent_step s.net _ net h.consistent hstep
  have hgrows := fun q => grows_step h.consistent hstep q
  obtain ⟨⟨a, payloads⟩, hsample, rfl⟩ := Option.map_eq_some_iff.mp hstep
  obtain ⟨n, hnext, -, hsampled, -⟩ := sample_cases hsample
  have hepoch := ((h.consistent.valid p).started n hnext).epoch_le
  rw [hnext]
  set u : State σ :=
    { s with net := s.net.put p a payloads, waiting := Function.update s.waiting p (some n) } with
      hu
  have hframe : ∀ q, u.frame m q = s.frame m q := by
    intro q
    unfold State.frame
    rcases eq_or_eq_other p q with rfl | rfl
    · rw [hu]
      dsimp only
      rw [Function.update_self, hidle, hnext]
    · rw [hu]
      dsimp only
      rw [Function.update_of_ne (other_ne p), Net.put_side_other]
  refine ⟨hconsistent, ?_, ?_, ?_⟩
  · intro q k hwaiting
    rw [hu] at hwaiting ⊢
    dsimp only at hwaiting ⊢
    rcases eq_or_eq_other p q with rfl | rfl
    · rw [Function.update_self] at hwaiting
      obtain rfl := Option.some.inj hwaiting
      rw [Net.put_side_self]
      exact ⟨hsampled.nextFrame, hepoch⟩
    · rw [Function.update_of_ne (other_ne p)] at hwaiting
      rw [Net.put_side_other]
      exact h.begun _ k hwaiting
  · intro q r
    rw [hframe]
    exact (h.recorded q r).grows (hgrows r)
  · intro q
    rw [hframe]
    exact (h.game q).trans (h.stateAt_players (t := u) hconsistent hgrows q)

/-- The inputs that a frame runs with are those that both players have recorded for it. -/
theorem Inv.frameInputs_eq (h : Inv m tick initial s) {p : Fin 2} {n : Nat}
    (hwaiting : s.waiting p = some n)
    {inputs : Fin 2 → InputState} (hinputs : s.frameInputs p = some inputs) :
    inputs = s.players n ∧ ∀ q, ∃ v, Settled m (s.net.side q) n v := by
  obtain ⟨hbegun, hepoch⟩ := h.begun p n hwaiting
  have hvalid := h.consistent.valid p
  obtain ⟨own, hown⟩ := ((hvalid.started _ hbegun).localInputs n).mpr ⟨hepoch, by omega⟩
  unfold State.frameInputs at hinputs
  rw [hwaiting] at hinputs
  dsimp only at hinputs
  split at hinputs
  · exact absurd hinputs (by simp)
  · next remote hremote =>
    obtain rfl := Option.some.inj hinputs
    have hlink := h.consistent.link (other p)
    rw [other_other] at hlink
    have hsettled := hlink.remoteInputs n remote hremote
    constructor
    · funext q
      unfold selectPlayerInput State.players
      rcases eq_or_eq_other p q with rfl | rfl
      · rw [if_pos rfl]
      · rw [if_neg (other_ne p), if_pos rfl]
        exact (localInput_of_settled (h.consistent.valid _) hsettled).symm
    · intro q
      rcases eq_or_eq_other p q with rfl | rfl
      · exact ⟨own, Or.inl hown⟩
      · exact ⟨remote, hsettled⟩

theorem Inv.runFrame (h : Inv m tick initial s) {p : Fin 2} {inputs : Fin 2 → InputState}
    (hinputs : s.frameInputs p = some inputs) :
    Inv m tick initial
      { s with
        game := Function.update s.game p (tick (s.game p) inputs)
        waiting := Function.update s.waiting p none } := by
  have hwaits : ∃ n, s.waiting p = some n := by
    cases hw : s.waiting p with
    | none =>
      unfold State.frameInputs at hinputs
      rw [hw] at hinputs
      exact absurd hinputs (by simp)
    | some n => exact ⟨n, rfl⟩
  obtain ⟨n, hwaiting⟩ := hwaits
  obtain ⟨hbegun, hepoch⟩ := h.begun p n hwaiting
  obtain ⟨hplayers, hsettled⟩ := h.frameInputs_eq hwaiting hinputs
  set u : State σ := { s with
    game := Function.update s.game p (tick (s.game p) inputs)
    waiting := Function.update s.waiting p none } with hu
  have hold : s.frame m p = n := by
    unfold State.frame
    rw [hwaiting]
  have hself : u.frame m p = n + 1 := by
    unfold State.frame
    rw [hu]
    dsimp only
    rw [Function.update_self, hbegun]
  have hother : u.frame m (other p) = s.frame m (other p) := by
    unfold State.frame
    rw [hu]
    dsimp only
    rw [Function.update_of_ne (other_ne p)]
  refine ⟨h.consistent, ?_, ?_, ?_⟩
  · intro q k hwaitingq
    rw [hu] at hwaitingq
    dsimp only at hwaitingq
    rcases eq_or_eq_other p q with rfl | rfl
    · rw [Function.update_self] at hwaitingq
      exact absurd hwaitingq (by simp)
    · rw [Function.update_of_ne (other_ne p)] at hwaitingq
      exact h.begun _ k hwaitingq
  · intro q r
    rcases eq_or_eq_other p q with rfl | rfl
    · rw [hself]
      refine ⟨fun f hf hlt => ?_⟩
      by_cases hfn : f < n
      · exact (h.recorded q r).settled f hf (by rw [hold]; exact hfn)
      · obtain rfl : f = n := by omega
        exact hsettled r
    · rw [hother]
      exact h.recorded _ r
  · intro q
    rcases eq_or_eq_other p q with rfl | rfl
    · have hgame := h.game q
      rw [hold] at hgame
      rw [hself, Run.stateAt_succ tick _ initial hepoch]
      rw [hu]
      dsimp only
      rw [Function.update_self, hgame, hplayers]
      rfl
    · rw [hother, hu]
      dsimp only
      rw [Function.update_of_ne (other_ne p)]
      exact h.game _

theorem Inv.step (h : Inv m tick initial s) {op : Op} (hstep : s.step m tick op = some t) :
    Inv m tick initial t := by
  cases op with
  | exchange op =>
    dsimp only [State.step] at hstep
    split at hstep
    · next hop =>
      obtain ⟨net, hnet, rfl⟩ := Option.map_eq_some_iff.mp hstep
      exact h.exchange hop hnet
    · exact absurd hstep (by simp)
  | beginFrame p input bundleHistory connected =>
    dsimp only [State.step] at hstep
    split at hstep
    · exact absurd hstep (by simp)
    · next hidle =>
      obtain ⟨net, hnet, rfl⟩ := Option.map_eq_some_iff.mp hstep
      exact h.beginFrame hidle hnet
  | runFrame p =>
    obtain ⟨inputs, hinputs, rfl⟩ := Option.map_eq_some_iff.mp hstep
    exact h.runFrame hinputs

/-! ## Whole runs -/

theorem Inv.nextFrame_le (h : Inv m tick initial s) (p : Fin 2) :
    (s.net.side p).nextFrame.getD m.epoch ≤ s.frame m p + 1 := by
  unfold State.frame
  cases hwaiting : s.waiting p with
  | some n =>
    rw [(h.begun p n hwaiting).1]
    exact Nat.le_refl _
  | none =>
    cases (s.net.side p).nextFrame with
    | some n => exact Nat.le_succ n
    | none => exact Nat.le_succ m.epoch

/-- After every run of two peers in lockstep, whatever happens to the packets: the game of each peer
is where the recorded inputs of both players lead to; where the peers have run the same number of
frames, their games are in the same state; no peer is more than the input delay and one frame ahead
of the other; and when both wait for an input of the other player, the one that is behind waits for
one that is on record. -/
theorem lockstep_agrees (m : Match) (tick : σ → (Fin 2 → InputState) → σ)
    (initial : σ) (ops : List Op)
    (s : State σ) (hrun : Run.run (State.step m tick) (State.init initial) ops = some s) :
    (∀ p, s.game p = Run.stateAt tick s.players initial m.epoch (s.frame m p)) ∧
    (s.frame m 0 = s.frame m 1 → s.game 0 = s.game 1) ∧
    (∀ p, s.frame m p ≤ s.frame m (other p) + m.delay + 1) ∧
    ∀ p n k, s.waiting p = some n → s.waiting (other p) = some k → n ≤ k →
      ∃ input, (s.net.side (other p)).inputs.localInputs[n]? = some input := by
  have h : Inv m tick initial s :=
    Run.run_invariant' (fun _ _ _ h hstep => h.step hstep) (inv_init m tick initial) hrun
  refine ⟨h.game, ?_, ?_, ?_⟩
  · intro hframe
    rw [h.game 0, h.game 1, hframe]
  · intro p
    by_cases hepoch : s.frame m p ≤ m.epoch
    · have hle : m.epoch ≤ s.frame m (other p) := by
        unfold State.frame
        cases hwaiting : s.waiting (other p) with
        | some n => exact (h.begun _ n hwaiting).2
        | none =>
          cases hnext : (s.net.side (other p)).nextFrame with
          | some n => exact ((h.consistent.valid _).started n hnext).epoch_le
          | none => exact Nat.le_refl _
      omega
    · -- the input of the last frame that `p` has run had been recorded by then
      obtain ⟨v, hv⟩ := (h.recorded p (other p)).settled (s.frame m p - 1) (by omega) (by omega)
      have hlt := lt_of_settled (h.consistent.valid _) hv
      have hnext := h.nextFrame_le (other p)
      omega
  · intro p n k hwaiting hother hle
    obtain ⟨hbegun, hepoch⟩ := h.begun p n hwaiting
    obtain ⟨hbegun', -⟩ := h.begun _ k hother
    exact (((h.consistent.valid _).started _ hbegun').localInputs n).mpr ⟨hepoch, by omega⟩

/-- Peer 0 runs three frames, two of them with the neutral inputs of the delay, before peer 1 runs
its first one. -/
def aheadRun : List Op :=
  [.exchange (.prime 0), .exchange (.prime 1), .beginFrame 0 pressed 8 true, .runFrame 0,
    .beginFrame 0 pressed 8 true, .runFrame 0, .beginFrame 1 {} 8 true,
    .exchange (.deliver 0 0 false 0), .beginFrame 0 {} 8 true, .runFrame 0, .runFrame 1]

theorem lockstep_agrees_aheadRun :
    let s := Run.final (State.step lossyMatch buttonLog) (State.init []) aheadRun
    s.game 0 = [(0xFFE, 0xFFF), (0xFFF, 0xFFF), (0xFFF, 0xFFF)] ∧ s.game 1 = [(0xFFF, 0xFFF)] ∧
      s.frame lossyMatch 0 ≤ s.frame lossyMatch (other 0) + 2 + 1 := by
  intro s
  have hrun := Run.run_eq_final (State.step lossyMatch buttonLog) (State.init []) aheadRun
    (by decide +kernel)
  obtain ⟨-, -, hahead, -⟩ := lockstep_agrees lossyMatch buttonLog [] aheadRun s hrun
  exact ⟨by decide +kernel, by decide +kernel, hahead 0⟩

end Bigstar.Netplay.Lockstep
