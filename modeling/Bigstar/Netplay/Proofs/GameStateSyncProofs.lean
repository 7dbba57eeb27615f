import Bigstar.Lib.Run
import Bigstar.Netplay.GameStateSync
import Bigstar.Netplay.Proofs.WireProtocolProofs

/-!
# What a reported difference means

Whatever the network does with the packets and whenever the peers go on to their next game, every
reported difference is one between what the two peers have sampled for the same frame of the same
game. Conversely, no difference between two hashes that a peer holds goes unreported, and the state
that a peer takes over from the other one is the newest it has, of the same game.
-/

namespace Bigstar.Netplay.GameStateModel

open OrderedMap

/-! ## Keys -/

theorem gameStateKey_eq (instance_ frame : UInt32) :
    gameStateKey instance_ frame = instance_.toNat * 2 ^ 32 + frame.toNat :=
  toNat_join instance_ frame

theorem gameStateKey_inj {i i' f f' : UInt32} (h : gameStateKey i f = gameStateKey i' f') :
    i = i' ∧ f = f' := by
  rw [gameStateKey_eq, gameStateKey_eq] at h
  have hf := f.toNat_lt
  have hf' := f'.toNat_lt
  exact ⟨UInt32.toNat_inj.mp (by omega), UInt32.toNat_inj.mp (by omega)⟩

/-- The keys between those of an instance are its own, and end in the number of the frame. -/
theorem exists_gameStateKey {i f : UInt32} {key : Nat} (hlo : gameStateKey i 0 ≤ key)
    (hhi : key ≤ gameStateKey i f) :
    key = gameStateKey i (UInt32.ofNat key) ∧ UInt32.ofNat key ≤ f := by
  rw [gameStateKey_eq] at hlo hhi
  have hf := f.toNat_lt
  have hzero : (0 : UInt32).toNat = 0 := rfl
  have hlow : (UInt32.ofNat key).toNat = key - i.toNat * 2 ^ 32 := by
    rw [UInt32.toNat_ofNat']
    omega
  constructor
  · rw [gameStateKey_eq, hlow]
    omega
  · rw [UInt32.le_iff_toNat_le, hlow]
    omega

/-! ## Comparing -/

namespace StateSyncRuntime

theorem compareGameStateHashes_eq_some_iff {r : StateSyncRuntime} {i f : UInt32}
    {m : GameStateHashMismatch} :
    r.compareGameStateHashes i f = some m ↔ m.instance_ = i ∧ m.frame = f ∧
      r.localGameStateHashes[gameStateKey i f]? = some m.local_ ∧
      r.remoteState.gameStateHashes[gameStateKey i f]? = some m.remote ∧ m.local_ ≠ m.remote := by
  have heq : ∀ lhs rhs : GameStateSyncHashes,
    (lhs.basic = rhs.basic ∧ lhs.playerGlobal = rhs.playerGlobal ∧
      lhs.wifiCandidate = rhs.wifiCandidate ∧ lhs.renderCandidate = rhs.renderCandidate) ↔
        lhs = rhs := by
    rintro ⟨b, p, w, c⟩ ⟨b', p', w', c'⟩
    simp only [GameStateSyncHashes.mk.injEq]
  unfold compareGameStateHashes RemoteStateStore.findGameStateHashes
  cases hlocal : r.localGameStateHashes[gameStateKey i f]? with
  | none => simp
  | some lhs =>
    cases hremote : r.remoteState.gameStateHashes[gameStateKey i f]? with
    | none => simp
    | some rhs =>
      simp only [heq]
      obtain ⟨mi, mf, ml, mr⟩ := m
      by_cases hsame : lhs = rhs
      · rw [if_pos hsame]
        simp only [reduceCtorEq, Option.some.injEq, false_iff, not_and, not_not]
        rintro - - rfl rfl
        exact hsame
      · rw [if_neg hsame]
        simp only [Option.some.injEq, GameStateHashMismatch.mk.injEq]
        constructor
        · rintro ⟨rfl, rfl, rfl, rfl⟩
          exact ⟨rfl, rfl, rfl, rfl, hsame⟩
        · rintro ⟨rfl, rfl, rfl, rfl, -⟩
          exact ⟨rfl, rfl, rfl, rfl⟩

end StateSyncRuntime

/-- What is found is the newest state of the instance up to the frame. -/
theorem RemoteStateStore.findLatestGameState_eq_some {store : RemoteStateStore} {i f f' : UInt32}
    {sample : GameStateSample} (h : store.findLatestGameState i f = some (sample, f')) :
    f' ≤ f ∧ store.gameStates[gameStateKey i f']? = some sample ∧
      ∀ g, f' < g → g ≤ f → store.gameStates[gameStateKey i g]? = none := by
  unfold findLatestGameState at h
  split at h
  · exact absurd h (by simp)
  · next key state hentry =>
    split at h
    · exact absurd h (by simp)
    · next hlo =>
      obtain ⟨rfl, rfl⟩ := Prod.mk.inj (Option.some.inj h)
      obtain ⟨hfound, hhi⟩ := entryAtOrBefore_eq_some hentry
      obtain ⟨hkey, hle⟩ := exists_gameStateKey (Nat.not_lt.mp hlo) hhi
      refine ⟨hle, by rw [← hkey]; exact hfound, fun g hlt hgf => ?_⟩
      by_contra hne
      obtain ⟨later, hlater⟩ := Option.ne_none_iff_exists'.mp hne
      rw [UInt32.le_iff_toNat_le] at hgf
      rw [UInt32.lt_iff_toNat_lt] at hlt
      have hmax := le_of_entryAtOrBefore hentry hlater
        (by rw [gameStateKey_eq, gameStateKey_eq]; omega)
      rw [hkey, gameStateKey_eq, gameStateKey_eq] at hmax
      omega

end Bigstar.Netplay.GameStateModel

namespace Bigstar.Netplay.GameStateSync

open GameStateModel OrderedMap TwoParty

namespace Peer

@[simp]
theorem report_runtime (a : Peer) (m : Option GameStateHashMismatch) :
    (a.report m).runtime = a.runtime := by
  cases m <;> rfl

@[simp]
theorem report_generation (a : Peer) (m : Option GameStateHashMismatch) :
    (a.report m).generation = a.generation := by
  cases m <;> rfl

@[simp]
theorem report_sampled (a : Peer) (m : Option GameStateHashMismatch) :
    (a.report m).sampled = a.sampled := by
  cases m <;> rfl

theorem mem_report_reports {a : Peer} {m : Option GameStateHashMismatch}
    {r : UInt32 × GameStateHashMismatch} :
    r ∈ (a.report m).reports ↔ r ∈ a.reports ∨ m = some r.2 ∧ r.1 = a.generation := by
  cases m with
  | none => simp [report]
  | some m =>
    obtain ⟨g, m'⟩ := r
    simp only [report, List.mem_append, List.mem_singleton, Prod.mk.injEq, Option.some.injEq]
    constructor
    · rintro (h | ⟨rfl, rfl⟩)
      · exact Or.inl h
      · exact Or.inr ⟨rfl, rfl⟩
    · rintro (h | ⟨rfl, rfl⟩)
      · exact Or.inl h
      · exact Or.inr ⟨rfl, rfl⟩

end Peer

/-! ## The invariant -/

/-- These hashes were sampled for a frame of a generation. -/
def Sampled (sampled : List DecodedGameState) (generation i f : UInt32)
    (hashes : GameStateSyncHashes) : Prop :=
  ∃ state ∈ sampled, state.generation = generation ∧ state.instance_ = i ∧ state.frame = f ∧
    state.hashes = hashes

theorem Sampled.mono {sampled sampled' : List DecodedGameState} {generation i f : UInt32}
    {hashes : GameStateSyncHashes} (h : Sampled sampled generation i f hashes)
    (hsub : ∀ state ∈ sampled, state ∈ sampled') : Sampled sampled' generation i f hashes := by
  obtain ⟨state, hstate, heq⟩ := h
  exact ⟨state, hsub state hstate, heq⟩

/-- A report is about what both peers have sampled for one frame of one generation. -/
structure Justified (sampled sampled' : List DecodedGameState)
    (r : UInt32 × GameStateHashMismatch) : Prop where
  mine : Sampled sampled r.1 r.2.instance_ r.2.frame r.2.local_
  theirs : Sampled sampled' r.1 r.2.instance_ r.2.frame r.2.remote
  ne : r.2.local_ ≠ r.2.remote

/-- What a peer `a` holds, against what it and the other peer `b` have sampled. -/
structure Inv (a b : Peer) (sent : List (List UInt8)) : Prop where
  mine : ∀ i f hashes, a.runtime.localGameStateHashes[gameStateKey i f]? = some hashes →
    Sampled a.sampled a.generation i f hashes
  theirs : ∀ i f hashes, a.runtime.remoteState.gameStateHashes[gameStateKey i f]? = some hashes →
    Sampled b.sampled a.generation i f hashes
  states : ∀ i f sample, a.runtime.remoteState.gameStates[gameStateKey i f]? = some sample →
    ∃ state ∈ b.sampled, state.generation = a.generation ∧ state.instance_ = i ∧ state.frame = f ∧
      sample = state.carried.sample
  reports : ∀ r ∈ a.reports, Justified a.sampled b.sampled r
  /-- No difference goes unreported. -/
  complete : ∀ i f mine theirs, a.runtime.localGameStateHashes[gameStateKey i f]? = some mine →
    a.runtime.remoteState.gameStateHashes[gameStateKey i f]? = some theirs → mine ≠ theirs →
    (a.generation, { instance_ := i, frame := f, local_ := mine, remote := theirs }) ∈ a.reports
  packets : ∀ bytes ∈ sent, ∃ state ∈ a.sampled, bytes = encodeGameState state

variable {a b a' b' : Peer} {sent : List (List UInt8)}

/-- The other peer samples more. -/
theorem Inv.mono (h : Inv a b sent) (hsub : ∀ state ∈ b.sampled, state ∈ b'.sampled) :
    Inv a b' sent where
  mine := h.mine
  theirs i f hashes hfound := (h.theirs i f hashes hfound).mono hsub
  states i f sample hfound := by
    obtain ⟨state, hstate, heq⟩ := h.states i f sample hfound
    exact ⟨state, hsub state hstate, heq⟩
  reports r hr := by
    have hold := h.reports r hr
    exact ⟨hold.mine, hold.theirs.mono hsub, hold.ne⟩
  complete := h.complete
  packets := h.packets

/-- A change that concerns neither hashes nor reports. -/
theorem Inv.congr (h : Inv a b sent) (hruntime : a'.runtime = a.runtime)
    (hgeneration : a'.generation = a.generation) (hsampled : a'.sampled = a.sampled)
    (hreports : a'.reports = a.reports) : Inv a' b sent := by
  refine ⟨?_, ?_, ?_, ?_, ?_, ?_⟩
  · rw [hruntime, hgeneration, hsampled]
    exact h.mine
  · rw [hruntime, hgeneration]
    exact h.theirs
  · rw [hruntime, hgeneration]
    exact h.states
  · rw [hreports, hsampled]
    exact h.reports
  · rw [hruntime, hgeneration, hreports]
    exact h.complete
  · rw [hsampled]
    exact h.packets

/-- What a comparison finds is justified by what is held, and goes into the reports. -/
theorem Inv.compare {i f : UInt32} (hmine : ∀ i f hashes,
      a.runtime.localGameStateHashes[gameStateKey i f]? = some hashes →
        Sampled a.sampled a.generation i f hashes)
    (htheirs : ∀ i f hashes,
      a.runtime.remoteState.gameStateHashes[gameStateKey i f]? = some hashes →
      Sampled b.sampled a.generation i f hashes)
    (hreports : ∀ r ∈ a.reports, Justified a.sampled b.sampled r) :
    ∀ r ∈ (a.report (a.runtime.compareGameStateHashes i f)).reports,
      Justified a.sampled b.sampled r := by
  intro r hr
  rcases Peer.mem_report_reports.mp hr with hold | ⟨hfound, hgeneration⟩
  · exact hreports r hold
  · obtain ⟨rfl, rfl, hlocal, hremote, hne⟩ :=
      StateSyncRuntime.compareGameStateHashes_eq_some_iff.mp hfound
    refine ⟨?_, ?_, hne⟩
    · rw [hgeneration]
      exact hmine _ _ _ hlocal
    · rw [hgeneration]
      exact htheirs _ _ _ hremote

/-! ## Sampling -/

/-- A peer samples its state: it enters the hashes, and compares them with what has come in. -/
theorem Inv.sample (h : Inv a b sent) (state : DecodedGameState)
    (hgeneration : state.generation = a.generation)
    (r : StateSyncRuntime) (hremote : r.remoteState = a.runtime.remoteState)
    (hlocal : r.localGameStateHashes =
      a.runtime.localGameStateHashes.insert (gameStateKey state.instance_ state.frame) state.hashes)
    {packets : List (List UInt8)} (hpackets : ∀ bytes ∈ packets, bytes = encodeGameState state) :
    Inv (({ a with runtime := r, sampled := a.sampled ++ [state] } : Peer).report
      (r.compareGameStateHashes state.instance_ state.frame)) b (sent ++ packets) := by
  let sampler : Peer := { a with runtime := r, sampled := a.sampled ++ [state] }
  have hold : ∀ {g i f hashes}, Sampled a.sampled g i f hashes →
      Sampled sampler.sampled g i f hashes :=
    fun h => h.mono fun _ => List.mem_append_left [state]
  have hmine : ∀ i f hashes, r.localGameStateHashes[gameStateKey i f]? = some hashes →
      Sampled sampler.sampled a.generation i f hashes := by
    intro i f hashes hfound
    rw [hlocal, getElem?_insert_eq] at hfound
    split at hfound
    · next hkey =>
      obtain ⟨rfl, rfl⟩ := gameStateKey_inj hkey
      exact ⟨state, List.mem_append_right _ (List.mem_singleton_self _), hgeneration, rfl, rfl,
        Option.some.inj hfound⟩
    · exact hold (h.mine i f hashes hfound)
  have htheirs : ∀ i f hashes, r.remoteState.gameStateHashes[gameStateKey i f]? = some hashes →
      Sampled b.sampled a.generation i f hashes := by
    rw [hremote]
    exact h.theirs
  have hreports : ∀ report ∈ a.reports, Justified sampler.sampled b.sampled report := by
    intro report hreport
    exact ⟨hold (h.reports report hreport).mine, (h.reports report hreport).theirs,
      (h.reports report hreport).ne⟩
  constructor
  · simpa using hmine
  · simpa using htheirs
  · rw [Peer.report_runtime, Peer.report_generation]
    dsimp only
    rw [hremote]
    exact h.states
  · rw [Peer.report_sampled]
    exact Inv.compare (a := sampler) hmine htheirs hreports
  · intro i f mine theirs hfound hfound' hne
    rw [Peer.report_runtime] at hfound hfound'
    rw [Peer.report_generation]
    refine Peer.mem_report_reports.mpr ?_
    by_cases hkey : gameStateKey state.instance_ state.frame = gameStateKey i f
    · obtain ⟨rfl, rfl⟩ := gameStateKey_inj hkey
      exact Or.inr ⟨StateSyncRuntime.compareGameStateHashes_eq_some_iff.mpr
        ⟨rfl, rfl, hfound, hfound', hne⟩, rfl⟩
    · dsimp only at hfound hfound'
      rw [hlocal, getElem?_insert_eq, if_neg hkey] at hfound
      rw [hremote] at hfound'
      exact Or.inl (h.complete i f mine theirs hfound hfound' hne)
  · intro bytes hbytes
    rw [Peer.report_sampled]
    rcases List.mem_append.mp hbytes with hsent | hnew
    · obtain ⟨sent, hmem, heq⟩ := h.packets bytes hsent
      exact ⟨sent, List.mem_append_left _ hmem, heq⟩
    · exact ⟨state, List.mem_append_right _ (List.mem_singleton_self _), hpackets bytes hnew⟩

/-- What `Sync` does to the peers: nothing, or it samples. -/
theorem Inv.sync (h : Inv a b sent) (config : Config) (i f : UInt32) (reading : Reading) :
    Inv (a.sync config i f reading).1 b (sent ++ (a.sync config i f reading).2) ∧
      ∀ state ∈ a.sampled, state ∈ (a.sync config i f reading).1.sampled := by
  unfold Peer.sync
  split
  · exact ⟨by simpa using h, fun _ h => h⟩
  · cases hbegin : a.runtime.beginGameStateSync i f with
    | none => exact ⟨by simpa using h, fun _ h => h⟩
    | some runtime =>
      unfold StateSyncRuntime.beginGameStateSync at hbegin
      split at hbegin
      · exact absurd hbegin (by simp)
      · obtain rfl := Option.some.inj hbegin
        dsimp only [StateSyncRuntime.recordLocalGameStateHashes]
        have hgeneration : (reading.state config a.generation i f).generation = a.generation := rfl
        have hinstance : (reading.state config a.generation i f).instance_ = i := rfl
        have hframe : (reading.state config a.generation i f).frame = f := rfl
        generalize reading.state config a.generation i f = state at hgeneration hinstance hframe ⊢
        subst hinstance hframe
        refine ⟨h.sample state hgeneration _ ?_ ?_ fun bytes hbytes => ?_, fun old hold => ?_⟩
        · rfl
        · rfl
        · split at hbytes
          · exact List.mem_singleton.mp hbytes
          · exact absurd hbytes List.not_mem_nil
        · rw [Peer.report_sampled]
          exact List.mem_append_left _ hold

/-! ## Receiving -/

/-- A state of the other peer comes in: it is entered, and compared with the peer's own. -/
theorem Inv.store (h : Inv a b sent) {state : DecodedGameState} (hstate : state ∈ b.sampled)
    (hgeneration : state.generation = a.generation) {r : StateSyncRuntime}
    (hlocal : r.localGameStateHashes = a.runtime.localGameStateHashes)
    (hremote : r.remoteState = a.runtime.remoteState.storeGameState state.carried) :
    Inv (({ a with runtime := r } : Peer).report
      (r.compareGameStateHashes state.carried.instance_ state.carried.frame)) b sent := by
  let holder : Peer := { a with runtime := r }
  have hmine : ∀ i f hashes, r.localGameStateHashes[gameStateKey i f]? = some hashes →
      Sampled a.sampled a.generation i f hashes := by
    rw [hlocal]
    exact h.mine
  have htheirs : ∀ i f hashes, r.remoteState.gameStateHashes[gameStateKey i f]? = some hashes →
      Sampled b.sampled a.generation i f hashes := by
    intro i f hashes hfound
    rw [hremote] at hfound
    dsimp only [RemoteStateStore.storeGameState] at hfound
    rw [getElem?_insert_eq] at hfound
    split at hfound
    · next hkey =>
      obtain ⟨rfl, rfl⟩ := gameStateKey_inj hkey
      exact ⟨state, hstate, hgeneration, rfl, rfl, Option.some.inj hfound⟩
    · exact h.theirs i f hashes hfound
  constructor
  · simpa using hmine
  · simpa using htheirs
  · intro i f sample hfound
    rw [Peer.report_runtime] at hfound
    rw [Peer.report_generation]
    dsimp only at hfound ⊢
    rw [hremote] at hfound
    dsimp only [RemoteStateStore.storeGameState] at hfound
    rw [getElem?_insert_eq] at hfound
    split at hfound
    · next hkey =>
      obtain ⟨rfl, rfl⟩ := gameStateKey_inj hkey
      exact ⟨state, hstate, hgeneration, rfl, rfl, (Option.some.inj hfound).symm⟩
    · exact h.states i f sample hfound
  · rw [Peer.report_sampled]
    exact Inv.compare (a := holder) hmine htheirs h.reports
  · intro i f mine theirs hfound hfound' hne
    rw [Peer.report_runtime] at hfound hfound'
    rw [Peer.report_generation]
    refine Peer.mem_report_reports.mpr ?_
    by_cases hkey : gameStateKey state.instance_ state.frame = gameStateKey i f
    · obtain ⟨rfl, rfl⟩ := gameStateKey_inj hkey
      exact Or.inr ⟨StateSyncRuntime.compareGameStateHashes_eq_some_iff.mpr
        ⟨rfl, rfl, hfound, hfound', hne⟩, rfl⟩
    · dsimp only at hfound hfound'
      rw [hlocal] at hfound
      rw [hremote] at hfound'
      dsimp only [RemoteStateStore.storeGameState] at hfound'
      rw [getElem?_insert_eq, if_neg (by exact hkey)] at hfound'
      exact Or.inl (h.complete i f mine theirs hfound hfound' hne)
  · rw [Peer.report_sampled]
    exact h.packets

/-- A packet of another generation changes nothing, one of this generation is stored. -/
theorem Inv.receive (h : Inv a b sent) {state : DecodedGameState} (hstate : state ∈ b.sampled) :
    Inv (a.handleReceivedPacketLocked (encodeGameState state)) b sent ∧
      (a.handleReceivedPacketLocked (encodeGameState state)).sampled = a.sampled := by
  unfold Peer.handleReceivedPacketLocked
  rw [decodeGameState_encodeGameState]
  dsimp only
  split
  · exact ⟨h, rfl⟩
  · next hcurrent =>
    have hgeneration : state.generation = a.generation := by
      simp only [Bool.or_eq_true, bne_iff_ne, ne_eq, not_or, not_not] at hcurrent
      exact hcurrent.2
    dsimp only [StateSyncRuntime.recordRemoteGameState]
    rw [Peer.report_sampled]
    exact ⟨h.store hstate hgeneration rfl rfl, rfl⟩

/-! ## The next game -/

theorem Inv.restart (h : Inv a b sent) (i : UInt32) :
    Inv (a.resetSyncStateForRestart i) b sent ∧
    (a.resetSyncStateForRestart i).sampled = a.sampled := by
  unfold Peer.resetSyncStateForRestart
  split
  · exact ⟨h, rfl⟩
  · next hvalid =>
    unfold StateSyncRuntime.resetForRestart
    rw [if_neg hvalid]
    refine ⟨⟨?_, ?_, ?_, h.reports, ?_, h.packets⟩, rfl⟩
    · intro i f hashes hfound
      exact absurd hfound (by simp)
    · intro i f hashes hfound
      exact absurd hfound (by simp)
    · intro i f sample hfound
      exact absurd hfound (by simp)
    · intro i f mine theirs hfound
      exact absurd hfound (by simp)

/-! ## Whole runs -/

/-- The invariant of both peers. -/
def Held (s : State) : Prop := ∀ p, Inv (s.side p) (s.side (other p)) (s.sent p)

theorem held_init : Held State.init := by
  intro p
  constructor
  · intro i f hashes hfound
    exact absurd hfound (by simp [State.init])
  · intro i f hashes hfound
    exact absurd hfound (by simp [State.init])
  · intro i f sample hfound
    exact absurd hfound (by simp [State.init])
  · intro r hr
    exact absurd hr List.not_mem_nil
  · intro i f mine theirs hfound
    exact absurd hfound (by simp [State.init])
  · intro bytes hbytes
    exact absurd hbytes List.not_mem_nil

/-- It is enough to look at the peer that has changed, which forgets nothing of what it has
sampled. -/
theorem Held.put {s : State} (h : Held s) {p : Fin 2} {packets : List (List UInt8)}
    (hself : Inv a (s.side (other p)) (s.sent p ++ packets))
    (hsampled : ∀ state ∈ (s.side p).sampled, state ∈ a.sampled) : Held (s.put p a packets) := by
  intro q
  refine Net.forall_put (I := fun _ a b sent _ => Inv a b sent) hself ?_ q
  have hother := h (other p)
  rw [other_other] at hother
  exact hother.mono hsampled

theorem Held.step {config : Config} {s t : State} {op : Op} (h : Held s)
    (hstep : State.step config s op = some t) : Held t := by
  cases op with
  | sync p i f reading =>
    obtain rfl := Option.some.inj hstep
    obtain ⟨hinv, hsampled⟩ := (h p).sync config i f reading
    exact h.put hinv hsampled
  | receive p index =>
    dsimp only [State.step] at hstep
    obtain ⟨bytes, hbytes, rfl⟩ := Option.map_eq_some_iff.mp hstep
    obtain ⟨state, hstate, rfl⟩ := (h (other p)).packets bytes (List.mem_of_getElem? hbytes)
    obtain ⟨hinv, hsampled⟩ := (h p).receive hstate
    refine h.put (by simpa using hinv) ?_
    rw [hsampled]
    exact fun _ h => h
  | ready p epoch =>
    obtain rfl := Option.some.inj hstep
    refine h.put ?_ fun _ h => h
    rw [List.append_nil]
    exact (h p).congr rfl rfl rfl rfl
  | restart p i =>
    dsimp only [State.step] at hstep
    split at hstep
    · exact absurd hstep (by simp)
    · obtain rfl := Option.some.inj hstep
      obtain ⟨hinv, hsampled⟩ := (h p).restart i
      refine h.put (by simpa using hinv) ?_
      rw [hsampled]
      exact fun _ h => h
  | connection p connected =>
    obtain rfl := Option.some.inj hstep
    refine h.put ?_ fun _ h => h
    rw [List.append_nil]
    exact (h p).congr rfl rfl rfl rfl

/-- After every run of two peers, with packets that are lost, repeated and reordered and with games
that begin at different times on the two sides: every difference that a peer has reported is one
between the hashes that both have sampled for the same frame of the same game; every difference
between two hashes that it holds has been reported; and the state that it takes over for a frame is
one that the other peer has sampled in the same game, the newest one that has come in. -/
theorem state_sync_reports (config : Config) (ops : List Op) (s : State)
    (hrun : Run.run (State.step config) State.init ops = some s) (p : Fin 2) :
    (∀ r ∈ (s.side p).reports, Justified (s.side p).sampled (s.side (other p)).sampled r) ∧
    (∀ i f mine theirs, (s.side p).runtime.localGameStateHashes[gameStateKey i f]? = some mine →
      (s.side p).runtime.remoteState.findGameStateHashes i f = some theirs → mine ≠ theirs →
      ((s.side p).generation, { instance_ := i, frame := f, local_ := mine, remote := theirs }) ∈
        (s.side p).reports) ∧
    ∀ client i f sample f', (s.side p).applyRemote config client i f = some (sample, f') →
      f' ≤ f ∧ (∃ state ∈ (s.side (other p)).sampled, state.generation = (s.side p).generation ∧
        state.instance_ = i ∧ state.frame = f' ∧ sample = state.carried.sample) ∧
      ∀ g, f' < g → g ≤ f → (s.side p).runtime.remoteState.gameStates[gameStateKey i g]? =
        none := by
  have hheld : Held s := Run.run_invariant' (fun _ _ _ h hstep => h.step hstep) held_init hrun
  have hinv := hheld p
  refine ⟨hinv.reports, hinv.complete, fun client i f sample f' happly => ?_⟩
  unfold Peer.applyRemote at happly
  split at happly
  · exact absurd happly (by simp)
  · obtain ⟨hle, hfound, hnewest⟩ := RemoteStateStore.findLatestGameState_eq_some happly
    exact ⟨hle, hinv.states i f' sample hfound, hnewest⟩

/-- A configuration that compares states once a second. -/
def everySecond : Config where
  enabled := true
  gameEnabled := true
  gameExtended := false
  gameApplyEnabled := false
  gameApplyRemotePlayerOnly := false
  gameInterval := 60
  interval_pos := by decide

/-- Both peers sample frame 60 and differ. The packet of the first one comes in at the second one
twice, the second time in the next game. -/
def differingStates : List Op :=
  [.ready 0 1, .ready 1 1, .connection 0 true, .sync 0 0 60 {}, .sync 1 0 60 { word := fun _ => 1 },
    .receive 1 0, .restart 1 0, .ready 1 1, .receive 1 0]

/-- The difference is reported once. -/
theorem state_sync_reports_differingStates :
    let s := Run.final (State.step everySecond) State.init differingStates
    (s.side 1).reports.length = 1 ∧
      ∀ r ∈ (s.side 1).reports, Justified (s.side 1).sampled (s.side (other 1)).sampled r := by
  intro s
  have hrun := Run.run_eq_final
    (State.step everySecond) State.init differingStates (by decide +kernel)
  exact ⟨by decide +kernel, (state_sync_reports everySecond differingStates s hrun 1).1⟩

end Bigstar.Netplay.GameStateSync
