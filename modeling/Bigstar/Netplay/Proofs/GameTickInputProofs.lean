import Bigstar.Netplay.GameTickInputs
import Bigstar.Netplay.Proofs.InputExchangeProofs

/-!
# Both guests are given the same inputs

What a peer has applied and what it has queued form one list, and entry `k` of that list is the pair
of inputs of logical frame `epoch + k`: the peer's own input as it recorded it, and the remote one
as the other peer recorded it. A frame extends the list by the next entry or ends the process; a
game tick moves the boundary between applied and queued by one, or ends the process.
-/

namespace Bigstar.Netplay.PacketBridge

open OrderedMap InputTimeline InputDelivery InputExchange TwoParty

/-- The inputs of both players in an entry of the queue of peer `p`. -/
def playersOf (p : Fin 2) (input : GameTickInput) : Fin 2 → InputState := fun player =>
  selectPlayerInput player p input.localInput input.remoteInput input.hasRemote

/-- `players` are the inputs of frame `f`, as peer `p` knows them. -/
structure Applies (m : Match) (net : InputExchange.State) (p : Fin 2) (f : Nat)
    (players : Fin 2 → InputState) : Prop where
  localInput : (net.side p).inputs.localInputs[f]? = some (players p)
  remoteInput : Settled m (net.side (other p)) f (players (other p))

/-- The queue of a peer that has not queued anything in this generation, or the one it uses. -/
def Queued (m : Match) (p : Fin 2) (g : Game) (queued : List (Fin 2 → InputState)) : Prop :=
  (g.queue.generation ≠ m.generation ∨ g.callback = none) ∧ g.callback ≠ some m.generation ∧
      g.applied = [] ∧ queued = [] ∨
    g.queue.generation = m.generation ∧ g.callback = some m.generation ∧
      queued = g.queue.inputs.map (playersOf p) ∧
      ∃ last, g.queue.lastQueuedFrame = some last ∧
        last + 1 = m.epoch + (g.applied.length + queued.length)

/-- With `count` frames queued so far, the emulator is at the next frame. -/
def AtFrame (m : Match) (net : InputExchange.State) (p : Fin 2) (g : Game) (count : Nat) : Prop :=
  match g.waiting with
  | none =>
    (net.side p).nextFrame = some (m.epoch + count) ∨ (net.side p).nextFrame = none ∧ count = 0
  | some (f, localInput) =>
    f = m.epoch + count ∧ (net.side p).nextFrame = some (f + 1) ∧
      (net.side p).inputs.localInputs[f]? = some localInput

/-- A peer that runs. -/
structure Live (m : Match) (net : InputExchange.State) (p : Fin 2) (g : Game)
    (queued : List (Fin 2 → InputState)) : Prop where
  queue : Queued m p g queued
  entries : ∀ i players, queued[i]? = some players →
    Applies m net p (m.epoch + (g.applied.length + i)) players
  frame : AtFrame m net p g (g.applied.length + queued.length)

/-- The invariant of one peer's guest. -/
structure GameValid (m : Match) (net : InputExchange.State) (p : Fin 2) (g : Game) : Prop where
  applied : ∀ k players, g.applied[k]? = some players → Applies m net p (m.epoch + k) players
  paused : g.paused = true → g.callback = none
  live : g.stopped = false → g.paused = false → ∃ queued, Live m net p g queued

/-- The exchange is consistent, and each game has used what it was given. -/
structure SessionValid (m : Match) (s : Session) : Prop where
  net : Consistent m s.net
  game : ∀ p, GameValid m s.net p (s.game p)

theorem sessionValid_init {m : Match} (leftover : Fin 2 → Leftover m) :
    SessionValid m (Session.init leftover) where
  net := consistent_init m
  game p := by
    refine ⟨?_, fun h => absurd h (by simp [Session.init]), fun _ _ => ⟨[], ?_, ?_, ?_⟩⟩
    · intro k players h
      exact absurd h (by simp [Session.init])
    · exact Or.inl ⟨Or.inl (leftover p).queue_old, (leftover p).callback_old, rfl, rfl⟩
    · intro i players h
      exact absurd h (by simp)
    · exact Or.inr ⟨rfl, rfl⟩

/-! ## The network moves on -/

/-- The frame that a side is at changes by starting only. -/
def SameFrame (m : Match) (net net' : InputExchange.State) (p : Fin 2) : Prop :=
  (net'.side p).nextFrame = (net.side p).nextFrame ∨
    (net.side p).nextFrame = none ∧ (net'.side p).nextFrame = some m.epoch

/-- What has been applied stays what the peers have recorded. -/
theorem Applies.mono {m : Match} {net net' : InputExchange.State} {p : Fin 2} {f : Nat}
    {players : Fin 2 → InputState} (h : Applies m net p f players)
    (hgrows : ∀ q, Grows m (net.side q) (net'.side q)) : Applies m net' p f players :=
  ⟨(hgrows p).localInputs f _ h.localInput, (hgrows (other p)).settled f _ h.remoteInput⟩

theorem GameValid.mono {m : Match} {net net' : InputExchange.State} {p : Fin 2} {g : Game}
    (h : GameValid m net p g) (hgrows : ∀ q, Grows m (net.side q) (net'.side q))
    (hframe : SameFrame m net net' p) : GameValid m net' p g where
  applied k players hk := (h.applied k players hk).mono hgrows
  paused := h.paused
  live hstopped hpaused := by
    obtain ⟨queued, hlive⟩ := h.live hstopped hpaused
    refine ⟨queued, hlive.queue, fun i players hi => (hlive.entries i players hi).mono hgrows, ?_⟩
    have hat := hlive.frame
    unfold AtFrame at hat ⊢
    split at hat
    · rcases hframe with hsame | ⟨hnone, hsome⟩
      · rw [hsame]
        exact hat
      · rcases hat with hat | ⟨-, hcount⟩
        · rw [hnone] at hat
          exact absurd hat (by simp)
        · rw [hcount, hsome]
          exact Or.inl rfl
    · obtain ⟨hf, hnext, hlocal⟩ := hat
      refine ⟨hf, ?_, (hgrows p).localInputs _ _ hlocal⟩
      rcases hframe with hsame | ⟨hnone, -⟩
      · rw [hsame]
        exact hnext
      · rw [hnone] at hnext
        exact absurd hnext (by simp)

theorem sameFrame_put {m : Match} {net : InputExchange.State} {p : Fin 2} {a : Side}
    {payloads : List Payload} (h : a.nextFrame = (net.side p).nextFrame) (q : Fin 2) :
    SameFrame m net (net.put p a payloads) q := by
  rcases eq_or_eq_other p q with rfl | rfl
  · rw [SameFrame, Net.put_side_self]
    exact Or.inl h
  · rw [SameFrame, Net.put_side_other]
    exact Or.inl rfl

/-- Sampling apart, the network leaves every side at its frame. -/
theorem sameFrame_step {m : Match} {net net' : InputExchange.State} {op : InputExchange.Op}
    (hop : ∀ p input bundleHistory connected, op ≠ .sample p input bundleHistory connected)
    (hstep : net.step m op = some net') (q : Fin 2) : SameFrame m net net' q := by
  cases op with
  | sample p input bundleHistory connected => exact absurd rfl (hop p input bundleHistory connected)
  | adoptEpoch p =>
    obtain rfl := Option.some.inj hstep
    refine sameFrame_put ?_ q
    rfl
  | prime p =>
    obtain ⟨a', ha', rfl⟩ := Option.map_eq_some_iff.mp hstep
    unfold Side.prime at ha'
    split at ha'
    · exact absurd ha' (by simp)
    · next hnone =>
      obtain rfl := Option.some.inj ha'
      rcases eq_or_eq_other p q with rfl | rfl
      · rw [SameFrame, Net.put_side_self]
        exact Or.inr ⟨hnone, rfl⟩
      · rw [SameFrame, Net.put_side_other]
        exact Or.inl rfl
  | resend p bundleHistory =>
    obtain ⟨payload, -, rfl⟩ := Option.map_eq_some_iff.mp hstep
    refine sameFrame_put ?_ q
    rfl
  | deliver p index rollbackEnabled localFrame =>
    obtain ⟨payload, -, rfl⟩ := Option.map_eq_some_iff.mp hstep
    refine sameFrame_put ?_ q
    rfl
  | deliverForeign p payload rollbackEnabled localFrame =>
    unfold InputExchange.State.step at hstep
    dsimp only at hstep
    split at hstep
    · obtain rfl := Option.some.inj hstep
      refine sameFrame_put ?_ q
      rfl
    · exact absurd hstep (by simp)
  | predict p rollbackInputs =>
    obtain rfl := Option.some.inj hstep
    refine sameFrame_put ?_ q
    rfl

/-! ## Frames -/

/-- An entry of a list with one more element is an old one or the new one. -/
theorem eq_some_of_getElem?_concat {α : Type} {xs : List α} {x y : α} {i : Nat}
    (h : (xs ++ [x])[i]? = some y) : xs[i]? = some y ∨ i = xs.length ∧ y = x := by
  rw [List.getElem?_append] at h
  split at h
  · exact Or.inl h
  · next hlt =>
    rw [List.getElem?_singleton] at h
    split at h
    · exact Or.inr ⟨by omega, (Option.some.inj h).symm⟩
    · exact absurd h (by simp)

/-- The inputs of a frame are those that both peers have settled. -/
theorem playersOf_applies {m : Match} {net : InputExchange.State} {p : Fin 2} {f : Nat}
    {localInput remoteInput : InputState} (hnet : Consistent m net)
    (hlocal : (net.side p).inputs.localInputs[f]? = some localInput)
    (hremote : (net.side p).inputs.remoteInputs[f]? = some remoteInput) :
    Applies m net p f (playersOf p { frame := f, localInput, remoteInput, hasRemote := true }) := by
  have hin := hnet.link (other p)
  rw [other_other] at hin
  unfold playersOf selectPlayerInput
  refine ⟨?_, ?_⟩
  · rw [if_pos rfl]
    exact hlocal
  · rw [if_neg (other_ne p), if_pos rfl]
    exact hin.remoteInputs f remoteInput hremote

/-- The next frame of the emulator begins; its local input is on record. -/
theorem GameValid.beginFrame {m : Match} {net net' : InputExchange.State} {p : Fin 2} {g : Game}
    {n : Nat} {input : InputState} {bundleHistory : Int} {connected : Bool}
    (h : GameValid m net p g) (hnet : Consistent m net) (hwaiting : g.waiting = none)
    (hnext : (net.side p).nextFrame = some n)
    (hstep : net.step m (.sample p input bundleHistory connected) = some net') :
    GameValid m net' p
      { g with
        waiting := some (n, (net'.side p).inputs.localInput n RollbackRuntime.neutralInput) } := by
  have hgrows := grows_step hnet hstep
  obtain ⟨⟨a', payloads⟩, hsample, rfl⟩ := Option.map_eq_some_iff.mp hstep
  obtain ⟨n', hn', hfits, hsampled, -⟩ := sample_cases hsample
  obtain rfl : n = n' := Option.some.inj (hnext.symm.trans hn')
  have hstarted := ((hnet.valid p).started n hnext).recorded hsampled.recorded hfits
  have hepoch := ((hnet.valid p).started n hnext).epoch_le
  obtain ⟨v, hv⟩ := (hstarted.localInputs n).mpr ⟨hepoch, by omega⟩
  refine ⟨fun k players hk => (h.applied k players hk).mono hgrows, h.paused, ?_⟩
  intro hrunning hpaused
  obtain ⟨queued, hlive⟩ := h.live hrunning hpaused
  refine ⟨queued, hlive.queue, fun i players hi => (hlive.entries i players hi).mono hgrows, ?_⟩
  have hat := hlive.frame
  unfold AtFrame at hat ⊢
  rw [hwaiting] at hat
  dsimp only at hat ⊢
  rw [Net.put_side_self]
  refine ⟨?_, hsampled.nextFrame, ?_⟩
  · rcases hat with hat | ⟨hnone, -⟩
    · exact Option.some.inj (hnext.symm.trans hat)
    · rw [hnext] at hnone
      exact absurd hnone (by simp)
  · unfold Runtime.localInput
    rw [hv]
    rfl

/-- An input is queued behind the last one. -/
theorem enqueue_cases {queue queue' : GameTickInputQueue} {input : GameTickInput}
    (h : queue.enqueue input = some queue') :
    queue' =
      { queue with inputs := queue.inputs ++ [input], lastQueuedFrame := some input.frame } := by
  unfold GameTickInputQueue.enqueue at h
  split at h
  · exact absurd h (by simp)
  · exact (Option.some.inj h).symm

/-- A peer that has ended keeps what it has applied. -/
theorem GameValid.ended {m : Match} {net : InputExchange.State} {p : Fin 2} {g g' : Game}
    (h : GameValid m net p g) (happlied : g'.applied = g.applied) (hstopped : g'.stopped = true)
    (hpaused : g'.paused = true → g'.callback = none) : GameValid m net p g' where
  applied k players hk := h.applied k players (happlied ▸ hk)
  paused := hpaused
  live hrunning := by
    rw [hstopped] at hrunning
    exact absurd hrunning (by simp)

/-- The frame is queued behind what is queued already, or the peer ends. -/
theorem GameValid.queueFrame {m : Match} {net : InputExchange.State} {p : Fin 2} {g : Game}
    {f : Nat} {localInput remoteInput : InputState} (h : GameValid m net p g)
    (hnet : Consistent m net) (hstopped : g.stopped = false) (hpaused : g.paused = false)
    (hwaiting : g.waiting = some (f, localInput))
    (hremote : (net.side p).inputs.remoteInputs[f]? = some remoteInput) (gateSupported : Bool) :
    GameValid m net p
      ({ g with waiting := none }.queueGameTickInputs m.generation gateSupported
        { frame := f, localInput, remoteInput, hasRemote := true }) := by
  obtain ⟨queued, hlive⟩ := h.live hstopped hpaused
  have hat := hlive.frame
  unfold AtFrame at hat
  rw [hwaiting] at hat
  obtain ⟨hf, hnext, hlocal⟩ := hat
  have happlies := playersOf_applies hnet hlocal hremote
  set input : GameTickInput :=
    { frame := f, localInput, remoteInput, hasRemote := true } with hinput
  unfold Game.queueGameTickInputs
  dsimp only
  split
  · exact h.ended rfl rfl (fun hp => absurd (hpaused.symm.trans hp) (by simp))
  · split
    · exact h.ended rfl rfl (fun hp => absurd (hpaused.symm.trans hp) (by simp))
    · next queue' henqueue =>
      have hqueue' := enqueue_cases henqueue
      refine ⟨h.applied, fun hp => absurd (hpaused.symm.trans hp) (by simp), ?_⟩
      intro _ _
      refine ⟨queued ++ [playersOf p input], ?_, ?_, ?_⟩
      · -- the list of the generation goes on, or starts with this frame
        rcases hlive.queue with ⟨hrestart, -, happlied, hqueued⟩ | ⟨hgen, hcallback, hqueued, -⟩
        · rw [if_pos hrestart] at hqueue'
          refine Or.inr ⟨by rw [hqueue']; rfl, rfl, ?_, f, by rw [hqueue'], ?_⟩
          · rw [hqueue', hqueued]
            rfl
          · rw [hqueued] at hf ⊢
            rw [hf]
            simp [happlied]
        · have hrestart : ¬(g.queue.generation ≠ m.generation ∨ g.callback = none) := by
            rw [hgen, hcallback]
            simp
          rw [if_neg hrestart] at hqueue'
          refine Or.inr ⟨by rw [hqueue']; exact hgen, rfl, ?_, f, by rw [hqueue'], ?_⟩
          · rw [hqueue', hqueued]
            simp
          · rw [hf, List.length_append, List.length_singleton]
            rfl
      · intro i players hi
        rcases eq_some_of_getElem?_concat hi with hi | ⟨rfl, rfl⟩
        · exact hlive.entries i players hi
        · dsimp only
          rw [← hf]
          exact happlies
      · unfold AtFrame
        dsimp only
        rw [List.length_append, List.length_singleton, hnext, hf]
        exact Or.inl rfl

/-! ## Game ticks -/

/-- A tick applies the next frame, or the game stops. -/
theorem GameValid.gameTick {m : Match} {net : InputExchange.State} {p : Fin 2} {g : Game}
    (h : GameValid m net p g) (hstopped : g.stopped = false) :
    GameValid m net p (g.gameTick m.generation p) := by
  unfold Game.gameTick
  split
  · next hcallback =>
    have hpaused : g.paused = false := by
      by_contra hp
      rw [h.paused (by simpa using hp)] at hcallback
      exact absurd hcallback (by simp)
    obtain ⟨queued, hlive⟩ := h.live hstopped hpaused
    rcases hlive.queue with ⟨-, hold, -⟩ | ⟨hgen, -, hqueued, last, hlast, hcount⟩
    · exact absurd hcallback hold
    · unfold GameTickInputQueue.consume
      cases hinputs : g.queue.inputs with
      | nil => exact h.ended rfl rfl (fun hp => absurd (hpaused.symm.trans hp) (by simp))
      | cons input inputs =>
        rw [hinputs, List.map_cons] at hqueued
        dsimp only
        have hentries := hlive.entries
        rw [hqueued] at hentries hcount
        refine ⟨?_, h.paused, ?_⟩
        · intro k players hk
          rcases eq_some_of_getElem?_concat hk with hk | ⟨rfl, rfl⟩
          · exact h.applied k players hk
          · exact hentries 0 _ rfl
        · intro _ _
          refine ⟨inputs.map (playersOf p), Or.inr ⟨hgen, hcallback, rfl, last, hlast, ?_⟩, ?_, ?_⟩
          · rw [List.length_cons] at hcount
            rw [List.length_append, List.length_singleton]
            omega
          · intro i players hi
            have hentry := hentries (i + 1) players hi
            dsimp only
            rw [List.length_append, List.length_singleton,
              show g.applied.length + 1 + i = g.applied.length + (i + 1) by omega]
            exact hentry
          · have hat := hlive.frame
            unfold AtFrame at hat ⊢
            dsimp only
            rw [hqueued, List.length_cons] at hat
            rw [List.length_append, List.length_singleton,
              show g.applied.length + 1 + (inputs.map (playersOf p)).length =
                g.applied.length + ((inputs.map (playersOf p)).length + 1) by omega]
            exact hat
  · exact h

theorem GameValid.pause {m : Match} {net : InputExchange.State} {p : Fin 2} {g : Game}
    (h : GameValid m net p g) : GameValid m net p g.pause where
  applied := h.applied
  paused _ := rfl
  live _ hpaused := absurd hpaused (by simp [Game.pause])

/-! ## Every step and every run -/

theorem gameValid_put {m : Match} {s : Session} {p : Fin 2} {g : Game} (hp : GameValid m s.net p g)
    (hother : GameValid m s.net (other p) (s.game (other p))) (q : Fin 2) :
    GameValid m (s.put p g).net q ((s.put p g).game q) := by
  dsimp only [Session.put]
  rcases eq_or_eq_other p q with rfl | rfl
  · rw [Function.update_self]
    exact hp
  · rw [Function.update_of_ne (other_ne p)]
    exact hother

theorem SessionValid.put {m : Match} {s : Session} (h : SessionValid m s) {p : Fin 2} {g : Game}
    (hg : GameValid m s.net p g) : SessionValid m (s.put p g) :=
  ⟨h.net, gameValid_put hg (h.game (other p))⟩

theorem sameFrame_sample {m : Match} {net net' : InputExchange.State} {p : Fin 2}
    {input : InputState} {bundleHistory : Int} {connected : Bool}
    (hstep : net.step m (.sample p input bundleHistory connected) = some net') :
    SameFrame m net net' (other p) := by
  obtain ⟨⟨a', payloads⟩, -, rfl⟩ := Option.map_eq_some_iff.mp hstep
  rw [SameFrame, Net.put_side_other]
  exact Or.inl rfl

/-- Each operation keeps the invariant. -/
theorem sessionValid_step {m : Match} (s : Session) (op : SessionOp) (t : Session)
    (h : SessionValid m s) (hstep : s.step m op = some t) : SessionValid m t := by
  cases op with
  | network op =>
    unfold Session.step at hstep
    dsimp only at hstep
    split at hstep
    · exact absurd hstep (by simp)
    · next hop =>
      obtain ⟨net', hnet', rfl⟩ := Option.map_eq_some_iff.mp hstep
      refine ⟨consistent_step s.net op net' h.net hnet', fun q => ?_⟩
      exact (h.game q).mono (grows_step h.net hnet') (sameFrame_step hop hnet' q)
  | beginFrame p input bundleHistory connected =>
    unfold Session.step at hstep
    dsimp only at hstep
    split at hstep
    · next hrunning =>
      split at hstep
      · exact absurd hstep (by simp)
      · next n hnext =>
        obtain ⟨net', hnet', rfl⟩ := Option.map_eq_some_iff.mp hstep
        have hbegin := (h.game p).beginFrame h.net hrunning.2 hnext hnet'
        have hother : GameValid m net' (other p) (s.game (other p)) :=
          (h.game (other p)).mono (grows_step h.net hnet') (sameFrame_sample hnet')
        refine ⟨consistent_step s.net _ net' h.net hnet', ?_⟩
        exact gameValid_put (s := { s with net := net' }) hbegin hother
    · exact absurd hstep (by simp)
  | queueFrame p gateSupported =>
    unfold Session.step at hstep
    dsimp only at hstep
    split at hstep
    · next hrunning =>
      split at hstep
      · exact absurd hstep (by simp)
      · next f localInput hwaiting =>
        obtain ⟨remoteInput, hremote, rfl⟩ := Option.map_eq_some_iff.mp hstep
        unfold Session.running at hrunning
        simp only [Bool.and_eq_true, Bool.not_eq_true'] at hrunning
        exact h.put
          ((h.game p).queueFrame h.net hrunning.1 hrunning.2 hwaiting hremote gateSupported)
    · exact absurd hstep (by simp)
  | gameTick p =>
    unfold Session.step at hstep
    dsimp only at hstep
    split at hstep
    · exact absurd hstep (by simp)
    · next hstopped =>
      obtain rfl := Option.some.inj hstep
      exact h.put ((h.game p).gameTick (by simpa using hstopped))
  | pause p =>
    unfold Session.step at hstep
    dsimp only at hstep
    split at hstep
    · exact absurd hstep (by simp)
    · obtain rfl := Option.some.inj hstep
      exact h.put (h.game p).pause

theorem sessionValid_run {m : Match} {leftover : Fin 2 → Leftover m}
    {es : List SessionOp} {s : Session}
    (hs : Run.run (Session.step m) (Session.init leftover) es = some s) : SessionValid m s :=
  Run.run_invariant' sessionValid_step (sessionValid_init leftover) hs

/-! ## Agreement -/

theorem Settled.eq_of_recorded {m : Match} {a : Side} (ha : Valid m a) {f : Nat} {v w : InputState}
    (hv : Settled m a f v) (hw : a.inputs.localInputs[f]? = some w) : v = w := by
  rcases hv with hv | ⟨hnone, -⟩
  · exact Option.some.inj (hv.symm.trans hw)
  · rw [(ha.waiting hnone).localInputs] at hw
    exact absurd hw (by simp)

/-- Whatever both peers have applied in their `k`-th game tick is the same pair. -/
theorem SessionValid.agree {m : Match} {s : Session} (h : SessionValid m s) {k : Nat}
    {players players' : Fin 2 → InputState} (h₀ : (s.game 0).applied[k]? = some players)
    (h₁ : (s.game 1).applied[k]? = some players') :
    players = players' ∧
      ∀ q, (s.net.side q).inputs.localInputs[m.epoch + k]? = some (players q) := by
  have ha₀ := (h.game 0).applied k players h₀
  have ha₁ := (h.game 1).applied k players' h₁
  -- each side knows its own input, and the other one's as the other one recorded it
  have heq₀ : players' 0 = players 0 :=
    Settled.eq_of_recorded (h.net.valid 0) ha₁.remoteInput ha₀.localInput
  have heq₁ : players 1 = players' 1 :=
    Settled.eq_of_recorded (h.net.valid 1) ha₀.remoteInput ha₁.localInput
  have heq : players = players' := by
    funext q
    rcases eq_or_eq_other 0 q with rfl | rfl
    · exact heq₀.symm
    · exact heq₁
  refine ⟨heq, fun q => ?_⟩
  rcases eq_or_eq_other 0 q with rfl | rfl
  · exact ha₀.localInput
  · rw [heq]
    exact ha₁.localInput

theorem put_game_self (s : Session) (p : Fin 2) (g : Game) : (s.put p g).game p = g :=
  Function.update_self _ _ _

theorem put_game_of_ne {s : Session} {p q : Fin 2} (h : q ≠ p) (g : Game) :
    (s.put p g).game q = s.game q := Function.update_of_ne h _ _

/-- A game tick is given the inputs of the next frame, or ends the process. -/
theorem SessionValid.gameTick_cases {m : Match} {s t : Session} (h : SessionValid m s) {p : Fin 2}
    (hstep : s.step m (.gameTick p) = some t)
    (hcallback : (s.game p).callback = some m.generation) :
    (∃ players, (t.game p).applied = (s.game p).applied ++ [players] ∧
      Applies m t.net p (m.epoch + (s.game p).applied.length) players) ∨
    (t.game p).stopped = true ∧ (t.game p).applied = (s.game p).applied := by
  have ht := (sessionValid_step s _ t h hstep).game p
  unfold Session.step at hstep
  dsimp only at hstep
  split at hstep
  · exact absurd hstep (by simp)
  · obtain rfl := Option.some.inj hstep
    rw [put_game_self] at ht ⊢
    have happlied := ht.applied (s.game p).applied.length
    unfold Game.gameTick GameTickInputQueue.consume at happlied ⊢
    rw [if_pos hcallback] at happlied ⊢
    cases hinputs : (s.game p).queue.inputs with
    | nil => exact Or.inr ⟨rfl, rfl⟩
    | cons input inputs =>
      rw [hinputs] at happlied
      refine Or.inl ⟨_, rfl, happlied _ ?_⟩
      rw [List.getElem?_concat_length]

/-- A stopped game stays as it is. -/
theorem stopped_step {m : Match} {s t : Session} {op : SessionOp} {p : Fin 2}
    (hstopped : (s.game p).stopped = true) (hstep : s.step m op = some t) :
    t.game p = s.game p := by
  have hnot : s.running p = false := by
    unfold Session.running
    rw [hstopped]
    rfl
  unfold Session.step at hstep
  cases op with
  | network op =>
    dsimp only at hstep
    split at hstep
    · exact absurd hstep (by simp)
    · obtain ⟨net', -, rfl⟩ := Option.map_eq_some_iff.mp hstep
      rfl
  | beginFrame q input bundleHistory connected =>
    dsimp only at hstep
    split at hstep
    · next hrunning =>
      have hne : p ≠ q := by
        rintro rfl
        rw [hnot] at hrunning
        exact absurd hrunning.1 (by simp)
      split at hstep
      · exact absurd hstep (by simp)
      · obtain ⟨net', -, rfl⟩ := Option.map_eq_some_iff.mp hstep
        exact put_game_of_ne hne _
    · exact absurd hstep (by simp)
  | queueFrame q gateSupported =>
    dsimp only at hstep
    split at hstep
    · next hrunning =>
      have hne : p ≠ q := by
        rintro rfl
        rw [hnot] at hrunning
        exact absurd hrunning (by simp)
      split at hstep
      · exact absurd hstep (by simp)
      · obtain ⟨remoteInput, -, rfl⟩ := Option.map_eq_some_iff.mp hstep
        exact put_game_of_ne hne _
    · exact absurd hstep (by simp)
  | gameTick q =>
    dsimp only at hstep
    split at hstep
    · exact absurd hstep (by simp)
    · next hrunning =>
      have hne : p ≠ q := by
        rintro rfl
        exact hrunning hstopped
      obtain rfl := Option.some.inj hstep
      exact put_game_of_ne hne _
  | pause q =>
    dsimp only at hstep
    split at hstep
    · exact absurd hstep (by simp)
    · next hrunning =>
      have hne : p ≠ q := by
        rintro rfl
        exact hrunning hstopped
      obtain rfl := Option.some.inj hstep
      exact put_game_of_ne hne _

theorem stopped_run {m : Match} {s t : Session} {es : List SessionOp} {p : Fin 2}
    (hstopped : (s.game p).stopped = true) (ht : Run.run (Session.step m) s es = some t) :
    t.game p = s.game p := by
  have hsame : ∀ (r : Session) (op : SessionOp) (r' : Session), r.game p = s.game p →
      r.step m op = some r' → r'.game p = s.game p := by
    intro r op r' hr hstep
    have hstopped' : (r.game p).stopped = true := by rw [hr, hstopped]
    exact (stopped_step hstopped' hstep).trans hr
  exact Run.run_invariant' hsame rfl ht

/-- What holds of the game ticks of a generation, in a state `s` and from there on. -/
structure Agreement (m : Match) (s : Session) : Prop where
  /-- Both peers give their `k`-th game tick the inputs of logical frame `epoch + k`. -/
  applied : ∀ k players players', (s.game 0).applied[k]? = some players →
    (s.game 1).applied[k]? = some players' →
      players = players' ∧ ∀ q, (s.net.side q).inputs.localInputs[m.epoch + k]? = some (players q)
  /-- A tick of this generation gets the inputs of the next frame, or it ends the process. -/
  ticked : ∀ p t, s.step m (.gameTick p) = some t → (s.game p).callback = some m.generation →
    (∃ players, (t.game p).applied = (s.game p).applied ++ [players] ∧
      Applies m t.net p (m.epoch + (s.game p).applied.length) players) ∨
    (t.game p).stopped = true ∧ (t.game p).applied = (s.game p).applied
  /-- A process that has ended applies nothing any more. -/
  ended : ∀ p es t, (s.game p).stopped = true → Run.run (Session.step m) s es = some t →
    (t.game p).applied = (s.game p).applied

theorem gameTicks_agree {m : Match} {leftover : Fin 2 → Leftover m}
    {es : List SessionOp} {s : Session}
    (hs : Run.run (Session.step m) (Session.init leftover) es = some s) : Agreement m s := by
  have h := sessionValid_run hs
  refine ⟨fun k players players' h₀ h₁ => h.agree h₀ h₁,
    fun p t hstep hcallback => h.gameTick_cases hstep hcallback, ?_⟩
  intro p es t hstopped ht
  rw [stopped_run hstopped ht]

/-- Nothing of an earlier generation is installed. -/
def noLeftover (p : Fin 2) : Leftover lossyMatch :=
  { queue := {}, callback := if p = 0 then some 2 else none, queue_old := by decide,
    callback_old := by revert p; decide }

/-- Side 0 runs two frames before side 1 runs its first one, and ticks twice in one frame. -/
def driftingRun : List SessionOp :=
  [.network (.prime 0), .network (.prime 1),
    .beginFrame 0 InputExchange.pressed 8 true, .queueFrame 0 true, .beginFrame 0 {} 8 true,
    .queueFrame 0 true, .gameTick 0, .gameTick 0, .beginFrame 1 {} 8 true, .queueFrame 1 true,
    .gameTick 1, .network (.deliver 1 1 false 0), .network (.deliver 0 0 false 0),
    .beginFrame 1 InputExchange.pressed 8 true, .queueFrame 1 true, .beginFrame 1 {} 8 true,
    .queueFrame 1 true, .gameTick 1, .gameTick 1, .beginFrame 0 {} 8 true,
    .queueFrame 0 true, .gameTick 0]

theorem gameTicks_agree_driftingRun :
    let s := Run.final (Session.step lossyMatch) (Session.init noLeftover) driftingRun
    ((s.game 0).applied[2]?.map fun players => (players 0, players 1)) =
        some (InputExchange.pressed, RollbackRuntime.neutralInput) ∧
      (s.game 1).applied.length = 3 ∧ Agreement lossyMatch s := by
  intro s
  refine ⟨by decide +kernel, by decide +kernel, ?_⟩
  exact gameTicks_agree (Run.run_eq_final (Session.step lossyMatch)
    (Session.init noLeftover) driftingRun
    (by decide +kernel))

end Bigstar.Netplay.PacketBridge
