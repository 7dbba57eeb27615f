import Bigstar.Netplay.Proofs.RollbackStoreProofs
import Mathlib.Logic.Relation

/-!
# Pruning and restoring

`Prune` collects the frames that a restore needs by following the delta bases, and stops at marked
frames and at the frame that stands for none. The restore functions follow the same links by rules
of their own. The links are stated once, as a relation between frames: the marked frames are closed
under it except at frame zero, and a restore succeeds exactly if the links end at a keyframe.
-/

namespace Bigstar.Netplay.RollbackStorage.Store

open OrderedMap

variable {β : Type} {s : Store β} {states : NatMap (StoredState β)}

/-- The checkpoint of `frame` is a delta against that of `base`. -/
def DeltaBase (states : NatMap (StoredState β)) (frame base : Nat) : Prop :=
  ∃ stored, states[frame]? = some stored ∧ stored.mainRAMDelta = true ∧ stored.baseFrame = base

/-- The delta chain of a frame comes to another frame. -/
def ChainTo (states : NatMap (StoredState β)) : Nat → Nat → Prop :=
  Relation.ReflTransGen (DeltaBase states)

/-- The checkpoint of the frame holds all of main RAM. -/
def Keyframe (states : NatMap (StoredState β)) (frame : Nat) : Prop :=
  ∃ stored, states[frame]? = some stored ∧ stored.mainRAMDelta = false

/-- A frame of the window, or the frame of the shadow. -/
def Root (s : Store β) (keepFrom frame : Nat) : Prop :=
  keepFrom ≤ frame ∨ frame = s.frameShadowFrame ∧ frame ≠ kNoFrame

/-- A stored frame of the window or the frame of the shadow has a frame in its delta chain. -/
def Needed (s : Store β) (keepFrom frame : Nat) : Prop :=
  ∃ root, Root s keepFrom root ∧ (∃ stored, s.states[root]? = some stored) ∧
    ChainTo s.states root frame

/-- What pruning promises of the frames from `keepFrom` on and of those below. -/
structure PrunesSafely (s : Store β) (currentFrame window : Nat) : Prop where
  chain : ∀ frame, keepFrom currentFrame window ≤ frame →
    (s.prune currentFrame window).buildRestoreChain frame = s.buildRestoreChain frame
  preimage : ∀ frame, keepFrom currentFrame window ≤ frame →
    (s.prune currentFrame window).buildPreimageRestore frame = s.buildPreimageRestore frame
  kept : ∀ frame, keepFrom currentFrame window ≤ frame →
    (s.prune currentFrame window).states[frame]? = s.states[frame]?
  removed : ∀ frame, frame < keepFrom currentFrame window →
    ¬ Needed s (keepFrom currentFrame window) frame →
      (s.prune currentFrame window).states[frame]? = none

/-! ## Restore chains -/

/-- The checkpoints from the keyframe of a chain to the frame at its end. -/
inductive Restores (states : NatMap (StoredState β)) : Nat → List (StoredState β) → Prop where
  | keyframe {frame : Nat} {stored : StoredState β} (hstored : states[frame]? = some stored)
      (hdelta : stored.mainRAMDelta = false) : Restores states frame [stored]
  | delta {frame : Nat} {stored : StoredState β} {chain : List (StoredState β)}
      (hstored : states[frame]? = some stored) (hdelta : stored.mainRAMDelta = true)
      (hbase : Restores states stored.baseFrame chain) : Restores states frame (chain ++ [stored])

namespace Restores

variable {frame : Nat} {chain : List (StoredState β)}

theorem stored (h : Restores states frame chain) : ∃ stored, states[frame]? = some stored := by
  cases h with
  | keyframe hstored _ => exact ⟨_, hstored⟩
  | delta hstored _ _ => exact ⟨_, hstored⟩

theorem unique (h : Restores states frame chain) {chain' : List (StoredState β)}
    (h' : Restores states frame chain') : chain = chain' := by
  induction h generalizing chain' with
  | keyframe hstored hdelta =>
    cases h' with
    | keyframe hstored' _ =>
      cases hstored.symm.trans hstored'
      rfl
    | delta hstored' hdelta' _ =>
      cases hstored.symm.trans hstored'
      rw [hdelta] at hdelta'
      cases hdelta'
  | delta hstored hdelta _ ih =>
    cases h' with
    | keyframe hstored' hdelta' =>
      cases hstored.symm.trans hstored'
      rw [hdelta] at hdelta'
      cases hdelta'
    | delta hstored' _ hbase' =>
      cases hstored.symm.trans hstored'
      rw [ih hbase']

/-- The frames of a chain are different, since each has a chain of its own length. -/
theorem exists_frames (h : Restores states frame chain) :
    ∃ frames : List Nat, frames.length = chain.length ∧ frames.Nodup ∧
      ∀ g ∈ frames, ∃ chain', Restores states g chain' ∧ chain'.length ≤ chain.length := by
  induction h with
  | @keyframe frame stored hstored hdelta =>
    refine ⟨[frame], rfl, List.nodup_singleton frame, ?_⟩
    intro g hg
    rw [List.mem_singleton.mp hg]
    exact ⟨[stored], .keyframe hstored hdelta, Nat.le_refl _⟩
  | @delta frame stored chain hstored hdelta hbase ih =>
    obtain ⟨frames, hlength, hnodup, hframes⟩ := ih
    refine ⟨frame :: frames, ?_, List.nodup_cons.mpr ⟨?_, hnodup⟩, ?_⟩
    · rw [List.length_cons, hlength, List.length_append, List.length_singleton]
    · intro hmem
      obtain ⟨chain', hchain', hle⟩ := hframes frame hmem
      rw [hchain'.unique (.delta hstored hdelta hbase), List.length_append,
        List.length_singleton] at hle
      omega
    · intro g hg
      rcases List.mem_cons.mp hg with rfl | hg
      · exact ⟨_, .delta hstored hdelta hbase, Nat.le_refl _⟩
      · obtain ⟨chain', hchain', hle⟩ := hframes g hg
        refine ⟨chain', hchain', ?_⟩
        rw [List.length_append]
        omega

/-- A chain is no longer than the store. -/
theorem length_le (h : Restores states frame chain) : chain.length ≤ states.size := by
  obtain ⟨frames, hlength, hnodup, hframes⟩ := h.exists_frames
  have hsubset : frames ⊆ states.keys := by
    intro g hg
    obtain ⟨chain', hchain', -⟩ := hframes g hg
    obtain ⟨stored, hstored⟩ := hchain'.stored
    exact mem_keys_of_getElem? hstored
  have hle := (List.subperm_of_subset hnodup hsubset).length_le
  rwa [hlength, Std.ExtTreeMap.length_keys] at hle

/-- From every frame of the chain there is a chain. -/
theorem of_chainTo (h : Restores states frame chain) {states' : NatMap (StoredState β)}
    (hsub : ∀ (g : Nat) stored, states[g]? = some stored → states'[g]? = some stored) {g : Nat}
    (hg : ChainTo states' frame g) : ∃ chain', Restores states g chain' := by
  induction h generalizing g with
  | @keyframe frame stored hstored hdelta =>
    rcases Relation.ReflTransGen.cases_head hg with rfl | ⟨base, ⟨stored', hstored', hdelta', -⟩, -⟩
    · exact ⟨_, .keyframe hstored hdelta⟩
    · cases (hsub frame stored hstored).symm.trans hstored'
      rw [hdelta] at hdelta'
      cases hdelta'
  | @delta frame stored chain hstored hdelta hbase ih =>
    rcases Relation.ReflTransGen.cases_head hg with rfl | ⟨base, ⟨stored', hstored', -, rfl⟩, htail⟩
    · exact ⟨_, .delta hstored hdelta hbase⟩
    · cases (hsub frame stored hstored).symm.trans hstored'
      exact ih htail

/-- The chain ends at a keyframe. -/
theorem exists_keyframe (h : Restores states frame chain) :
    ∃ key, ChainTo states frame key ∧ Keyframe states key := by
  induction h with
  | keyframe hstored hdelta => exact ⟨_, Relation.ReflTransGen.refl, _, hstored, hdelta⟩
  | delta hstored hdelta _ ih =>
    obtain ⟨key, hchain, hkey⟩ := ih
    exact ⟨key, hchain.head ⟨_, hstored, hdelta, rfl⟩, hkey⟩

theorem of_keyframe {key : Nat} (hchain : ChainTo states frame key) (hkey : Keyframe states key) :
    ∃ chain, Restores states frame chain := by
  induction hchain using Relation.ReflTransGen.head_induction_on with
  | refl =>
    obtain ⟨stored, hstored, hdelta⟩ := hkey
    exact ⟨_, .keyframe hstored hdelta⟩
  | head hstep _ ih =>
    obtain ⟨stored, hstored, hdelta, rfl⟩ := hstep
    obtain ⟨chain, hbase⟩ := ih
    exact ⟨_, .delta hstored hdelta hbase⟩

end Restores

theorem restoreChainLoop_eq_some {depth frame : Nat} {stored : StoredState β}
    {acc chain : List (StoredState β)} (hstored : states[frame]? = some stored) :
    restoreChainLoop states depth stored acc = some chain ↔
      ∃ chain', Restores states frame chain' ∧ chain'.length ≤ depth ∧ chain = chain' ++ acc := by
  induction depth generalizing frame stored acc with
  | zero =>
    constructor
    · intro h
      cases h
    · rintro ⟨chain', hchain', hle, -⟩
      cases hchain' with
      | keyframe _ _ => exact absurd hle (by simp)
      | delta _ _ _ => exact absurd hle (by simp)
  | succ depth ih =>
    unfold restoreChainLoop
    dsimp only
    cases hdelta : stored.mainRAMDelta with
    | false =>
      constructor
      · intro h
        cases h
        exact ⟨[stored], .keyframe hstored hdelta, Nat.le_add_left 1 depth, rfl⟩
      · rintro ⟨chain', hchain', -, rfl⟩
        rw [hchain'.unique (.keyframe hstored hdelta)]
        rfl
    | true =>
      cases hbase : states[stored.baseFrame]? with
      | none =>
        constructor
        · intro h
          cases h
        · rintro ⟨chain', hchain', -, -⟩
          cases hchain' with
          | keyframe hstored' hdelta' =>
            cases hstored.symm.trans hstored'
            rw [hdelta] at hdelta'
            cases hdelta'
          | delta hstored' _ hrest =>
            cases hstored.symm.trans hstored'
            obtain ⟨base, hsome⟩ := hrest.stored
            rw [hbase] at hsome
            cases hsome
      | some base =>
        refine (ih hbase).trans ⟨?_, ?_⟩
        · rintro ⟨chain', hchain', hle, rfl⟩
          refine ⟨chain' ++ [stored], .delta hstored hdelta hchain', ?_, ?_⟩
          · rw [List.length_append, List.length_singleton]
            omega
          · rw [List.append_assoc, List.singleton_append]
        · rintro ⟨chain', hchain', hle, rfl⟩
          cases hchain' with
          | keyframe hstored' hdelta' =>
            cases hstored.symm.trans hstored'
            rw [hdelta] at hdelta'
            cases hdelta'
          | @delta _ _ chain hstored' _ hrest =>
            cases hstored.symm.trans hstored'
            refine ⟨chain, hrest, ?_, ?_⟩
            · rw [List.length_append, List.length_singleton] at hle
              omega
            · rw [List.append_assoc, List.singleton_append]

/-- `BuildRestoreChain` finds every chain, and only chains. -/
theorem buildRestoreChain_eq_some {frame : Nat} {chain : List (StoredState β)} :
    s.buildRestoreChain frame = some chain ↔ Restores s.states frame chain := by
  unfold buildRestoreChain
  cases hstored : s.states[frame]? with
  | none =>
    constructor
    · intro h
      cases h
    · intro h
      obtain ⟨stored, hsome⟩ := h.stored
      rw [hstored] at hsome
      cases hsome
  | some stored =>
    refine (restoreChainLoop_eq_some hstored).trans ⟨?_, ?_⟩
    · rintro ⟨chain', hchain', -, rfl⟩
      rwa [List.append_nil]
    · intro h
      exact ⟨chain, h, Nat.le_succ_of_le h.length_le, (List.append_nil chain).symm⟩

/-! ## Marking -/

/-- The bases of marked frames are marked, except for frame zero. -/
def MarkClosed (states : NatMap (StoredState β)) (required : List Nat) : Prop :=
  ∀ f ∈ required, ∀ base, DeltaBase states f base → base ≠ kNoFrame → base ∈ required

/-- The number of stored frames that are not marked. -/
def unmarked (states : NatMap (StoredState β)) (required : List Nat) : Nat :=
  (states.keys.toFinset.filter fun k => k ∉ required).card

theorem unmarked_cons_lt {required : List Nat} {frame : Nat} {stored : StoredState β}
    (hstored : states[frame]? = some stored) (hmem : frame ∉ required) :
    unmarked states (frame :: required) < unmarked states required := by
  refine card_keys_lt hstored hmem (fun h => h List.mem_cons_self) ?_
  intro a ha hreq
  exact ha (List.mem_cons_of_mem _ hreq)

theorem unmarked_lt_size {required : List Nat} {frame : Nat} {stored : StoredState β}
    (hstored : states[frame]? = some stored) (hmem : frame ∈ required) :
    unmarked states required < states.size :=
  calc unmarked states required < (states.keys.toFinset.filter fun _ => True).card :=
        card_keys_lt hstored trivial (fun h => h hmem) fun _ _ => trivial
    _ ≤ states.size := card_keys_le_size states _

/-- What marking has added: frames of the chain of `start`, and no frame zero behind its first
link. -/
structure Marks (states : NatMap (StoredState β)) (start : Nat) (required marked : List Nat) :
    Prop where
  closed : MarkClosed states marked
  keeps : ∀ g ∈ required, g ∈ marked
  adds : ∀ g ∈ marked, g ∈ required ∨ ChainTo states start g ∧ g ≠ kNoFrame

/-- The loop ends before its bound, since every round marks another stored frame. -/
theorem marks_markChainLoop {depth frame : Nat} {cursor : StoredState β} {required : List Nat}
    (hstored : states[frame]? = some cursor) (hdepth : unmarked states required < depth)
    (hclosed : ∀ f ∈ required, f ≠ frame → ∀ base, DeltaBase states f base → base ≠ kNoFrame →
      base ∈ required) :
    Marks states frame required (markChainLoop states depth required cursor) := by
  induction depth generalizing frame cursor required with
  | zero => exact absurd hdepth (Nat.not_lt_zero _)
  | succ depth ih =>
    have hdone : (cursor.mainRAMDelta = true → cursor.baseFrame ≠ kNoFrame →
      cursor.baseFrame ∈ required) →
        Marks states frame required required := by
      intro hbase
      refine ⟨?_, fun g hg => hg, fun g hg => .inl hg⟩
      intro f hf base hlink hne
      by_cases hframe : f = frame
      · subst hframe
        obtain ⟨stored, hstored', hdelta, rfl⟩ := hlink
        cases hstored.symm.trans hstored'
        exact hbase hdelta hne
      · exact hclosed f hf hframe base hlink hne
    unfold markChainLoop
    split
    · next hstop =>
      refine hdone fun hdelta hne => ?_
      simp [hdelta, hne] at hstop
    · next hgo =>
      have hlink : cursor.mainRAMDelta = true ∧ cursor.baseFrame ≠ kNoFrame := by
        simpa using hgo
      split
      · next hmem => exact hdone fun _ _ => by simpa using hmem
      · next hmem =>
        have hnew : cursor.baseFrame ∉ required := by simpa using hmem
        have hbase : DeltaBase states frame cursor.baseFrame := ⟨cursor, hstored, hlink.1, rfl⟩
        have hclosed' : ∀ f ∈ cursor.baseFrame :: required, f ≠ cursor.baseFrame → ∀ base,
            DeltaBase states f base → base ≠ kNoFrame → base ∈ cursor.baseFrame :: required := by
          intro f hf hf' base hstep hne
          have hfreq := (List.mem_cons.mp hf).resolve_left hf'
          by_cases hframe : f = frame
          · subst hframe
            obtain ⟨stored, hstored', -, rfl⟩ := hstep
            cases hstored.symm.trans hstored'
            exact List.mem_cons_self
          · exact List.mem_cons_of_mem _ (hclosed f hfreq hframe base hstep hne)
        have hchain : ∀ {g}, ChainTo states cursor.baseFrame g → ChainTo states frame g :=
          fun hg => hg.head hbase
        dsimp only
        split
        · next hnone =>
          refine ⟨?_, fun g hg => List.mem_cons_of_mem _ hg, ?_⟩
          · intro f hf base hstep hne
            by_cases hf' : f = cursor.baseFrame
            · subst hf'
              obtain ⟨stored, hsome, -⟩ := hstep
              rw [hnone] at hsome
              cases hsome
            · exact hclosed' f hf hf' base hstep hne
          · intro g hg
            rcases List.mem_cons.mp hg with rfl | hg
            · exact .inr ⟨hchain Relation.ReflTransGen.refl, hlink.2⟩
            · exact .inl hg
        · next base hsome =>
          have hcount := unmarked_cons_lt hsome hnew
          obtain ⟨hclosed'', hkeeps, hadds⟩ := ih hsome (by omega) hclosed'
          refine ⟨hclosed'', fun g hg => hkeeps g (List.mem_cons_of_mem _ hg), ?_⟩
          intro g hg
          rcases hadds g hg with hreq | ⟨hto, hne⟩
          · rcases List.mem_cons.mp hreq with rfl | hreq
            · exact .inr ⟨hchain Relation.ReflTransGen.refl, hlink.2⟩
            · exact .inl hreq
          · exact .inr ⟨hchain hto, hne⟩

/-- A frame is marked on account of one of the frames with `P`. -/
def MarkedFor (states : NatMap (StoredState β)) (P : Nat → Prop) (g : Nat) : Prop :=
  ∃ root, P root ∧ (∃ stored, states[root]? = some stored) ∧ ChainTo states root g ∧
    (g = root ∨ g ≠ kNoFrame)

/-- Exactly what the stored frames with `P` need is marked. -/
structure MarkedAll (states : NatMap (StoredState β)) (P : Nat → Prop) (required : List Nat) :
    Prop where
  closed : MarkClosed states required
  roots : ∀ root, P root → (∃ stored, states[root]? = some stored) → root ∈ required
  sound : ∀ g ∈ required, MarkedFor states P g

theorem MarkedAll.markRequiredChain {P : Nat → Prop} {required : List Nat}
    (h : MarkedAll states P required) (start : Nat) :
    MarkedAll states (fun g => P g ∨ g = start) (markRequiredChain states required start) := by
  have hwider : ∀ {g}, MarkedFor states P g → MarkedFor states (fun g => P g ∨ g = start) g := by
    rintro g ⟨root, hroot, hrest⟩
    exact ⟨root, .inl hroot, hrest⟩
  unfold Store.markRequiredChain
  cases hstart : states[start]? with
  | none =>
    refine ⟨h.closed, ?_, fun g hg => hwider (h.sound g hg)⟩
    rintro root (hroot | rfl) hsome
    · exact h.roots root hroot hsome
    · obtain ⟨stored, hstored⟩ := hsome
      rw [hstart] at hstored
      cases hstored
  | some stored =>
    have hmarks : Marks states start (start :: required)
        (markChainLoop states states.size (start :: required) stored) := by
      refine marks_markChainLoop hstart (unmarked_lt_size hstart List.mem_cons_self) ?_
      intro f hf hne base hlink hbase
      exact List.mem_cons_of_mem _
        (h.closed f ((List.mem_cons.mp hf).resolve_left hne) base hlink hbase)
    refine ⟨hmarks.closed, ?_, ?_⟩
    · rintro root (hroot | rfl) hsome
      · exact hmarks.keeps root (List.mem_cons_of_mem _ (h.roots root hroot hsome))
      · exact hmarks.keeps root List.mem_cons_self
    · intro g hg
      rcases hmarks.adds g hg with hreq | ⟨hto, hne⟩
      · rcases List.mem_cons.mp hreq with rfl | hreq
        · exact ⟨g, .inr rfl, ⟨stored, hstart⟩, Relation.ReflTransGen.refl, .inl rfl⟩
        · exact hwider (h.sound g hreq)
      · exact ⟨start, .inr rfl, ⟨stored, hstart⟩, hto, .inr hne⟩

theorem MarkedAll.congr {P Q : Nat → Prop} {required : List Nat} (h : MarkedAll states P required)
    (hPQ : ∀ g, (∃ stored, states[g]? = some stored) → (P g ↔ Q g)) :
    MarkedAll states Q required := by
  refine ⟨h.closed, ?_, ?_⟩
  · intro root hroot hstored
    exact h.roots root ((hPQ root hstored).mpr hroot) hstored
  · intro g hg
    obtain ⟨root, hroot, hstored, hrest⟩ := h.sound g hg
    exact ⟨root, (hPQ root hstored).mp hroot, hstored, hrest⟩

theorem MarkedAll.foldl {P : Nat → Prop} {required : List Nat} (h : MarkedAll states P required)
    (frames : List Nat) :
    MarkedAll states (fun g => P g ∨ g ∈ frames)
      (frames.foldl (Store.markRequiredChain states) required) := by
  induction frames generalizing P required with
  | nil => exact h.congr fun g _ => by simp
  | cons frame frames ih =>
    refine (ih (h.markRequiredChain frame)).congr fun g _ => ?_
    rw [List.mem_cons, or_assoc]

theorem markedAll_requiredFrames (s : Store β) (keepFrom : Nat) :
    MarkedAll s.states (Root s keepFrom) (s.requiredFrames keepFrom) := by
  have hnil : MarkedAll s.states (fun _ => False) [] :=
    ⟨fun _ hf => absurd hf List.not_mem_nil, fun _ hroot => hroot.elim,
      fun _ hg => absurd hg List.not_mem_nil⟩
  have hwindow := hnil.foldl (s.states.keys.filter fun storedFrame => keepFrom ≤ storedFrame)
  have hkeys : ∀ g, (∃ stored, s.states[g]? = some stored) →
      ((False ∨ g ∈ s.states.keys.filter fun storedFrame => keepFrom ≤ storedFrame) ↔
        keepFrom ≤ g) := by
    rintro g ⟨stored, hstored⟩
    simp [List.mem_filter, mem_keys_of_getElem? hstored]
  unfold requiredFrames
  dsimp only
  split
  · next hshadow =>
    refine (hwindow.markRequiredChain s.frameShadowFrame).congr fun g hg => ?_
    rw [hkeys g hg]
    unfold Root
    constructor
    · rintro (hle | rfl)
      · exact .inl hle
      · exact .inr ⟨rfl, hshadow⟩
    · rintro (hle | ⟨rfl, -⟩)
      · exact .inl hle
      · exact .inr rfl
  · next hshadow =>
    refine hwindow.congr fun g hg => ?_
    rw [hkeys g hg]
    unfold Root
    constructor
    · exact .inl
    · rintro (hle | ⟨rfl, hne⟩)
      · exact hle
      · exact absurd hne hshadow

/-! ## Pruning -/

section

variable {currentFrame window : Nat}

theorem getElem?_prune_of_required {g : Nat}
    (h : g ∈ s.requiredFrames (keepFrom currentFrame window)) :
    (s.prune currentFrame window).states[g]? = s.states[g]? := by
  unfold prune
  rw [getElem?_filter_eq]
  cases s.states[g]? with
  | none => rfl
  | some stored => simp [h]

theorem getElem?_prune_eq_none {g : Nat} (hlt : g < keepFrom currentFrame window)
    (h : g ∉ s.requiredFrames (keepFrom currentFrame window)) :
    (s.prune currentFrame window).states[g]? = none := by
  unfold prune
  rw [getElem?_filter_eq]
  cases s.states[g]? with
  | none => rfl
  | some stored => simp [h, hlt]

/-- Without deltas, pruning leaves the window and the frame of the shadow. -/
theorem keepFrom_le_of_prune
    (hdelta : ∀ (g : Nat) stored, s.states[g]? = some stored → stored.mainRAMDelta = false)
    {g : Nat} {stored : StoredState β}
    (h : (s.prune currentFrame window).states[g]? = some stored) :
    keepFrom currentFrame window ≤ g ∨ g = s.frameShadowFrame := by
  by_contra hout
  rw [not_or, Nat.not_le] at hout
  by_cases hmem : g ∈ s.requiredFrames (keepFrom currentFrame window)
  · obtain ⟨root, hroot, -, hto, -⟩ := (markedAll_requiredFrames s _).sound g hmem
    rcases Relation.ReflTransGen.cases_head hto with rfl | ⟨base, ⟨stored', hstored', hlink, -⟩, -⟩
    · rcases hroot with hle | ⟨heq, -⟩
      · omega
      · exact hout.2 heq
    · rw [hdelta root stored' hstored'] at hlink
      cases hlink
  · rw [getElem?_prune_eq_none hout.1 hmem] at h
    cases h

/-- Frame zero is only kept as a frame of the window. -/
theorem zero_not_required (hkeep : 0 < keepFrom currentFrame window) :
    kNoFrame ∉ s.requiredFrames (keepFrom currentFrame window) := by
  intro hmem
  obtain ⟨root, hroot, -, -, heq | hne⟩ := (markedAll_requiredFrames s _).sound _ hmem
  · subst heq
    rcases hroot with hle | ⟨-, hne⟩
    · exact absurd hle (Nat.not_le.mpr hkeep)
    · exact hne rfl
  · exact hne rfl

/-- Some restorable frame of the window has its chain through frame zero. -/
def ThroughZero (s : Store β) (keepFrom : Nat) : Prop :=
  ∃ frame key, keepFrom ≤ frame ∧ ChainTo s.states frame kNoFrame ∧ ChainTo s.states kNoFrame key ∧
    Keyframe s.states key

theorem restores_prune_of_restores {frame : Nat} {chain : List (StoredState β)}
    (h : Restores s.states frame chain)
    (hmem : frame ∈ s.requiredFrames (keepFrom currentFrame window))
    (hzero : ¬ ChainTo s.states frame kNoFrame) :
    Restores (s.prune currentFrame window).states frame chain := by
  induction h with
  | keyframe hstored hdelta =>
    rw [← getElem?_prune_of_required hmem] at hstored
    exact .keyframe hstored hdelta
  | @delta frame stored chain hstored hdelta _ ih =>
    have hlink : DeltaBase s.states frame stored.baseFrame := ⟨stored, hstored, hdelta, rfl⟩
    have hne : stored.baseFrame ≠ kNoFrame := by
      intro heq
      rw [heq] at hlink
      exact hzero (Relation.ReflTransGen.single hlink)
    have hbase := (markedAll_requiredFrames s _).closed frame hmem _ hlink hne
    rw [← getElem?_prune_of_required hmem] at hstored
    exact .delta hstored hdelta (ih hbase fun hto => hzero (hto.head hlink))

theorem restores_of_prune {frame : Nat} {chain : List (StoredState β)}
    (h : Restores (s.prune currentFrame window).states frame chain) :
    Restores s.states frame chain := by
  induction h with
  | keyframe hstored hdelta => exact .keyframe (getElem?_of_prune hstored) hdelta
  | delta hstored hdelta _ ih => exact .delta (getElem?_of_prune hstored) hdelta ih

theorem buildRestoreChain_prune
    (h : keepFrom currentFrame window = 0 ∨ ¬ ThroughZero s (keepFrom currentFrame window))
    {frame : Nat} (hframe : keepFrom currentFrame window ≤ frame) :
    (s.prune currentFrame window).buildRestoreChain frame = s.buildRestoreChain frame := by
  refine Option.ext fun chain => ?_
  rw [buildRestoreChain_eq_some, buildRestoreChain_eq_some]
  refine ⟨restores_of_prune, fun hrestores => ?_⟩
  rcases h with hall | hzero
  · -- nothing is below the window
    have hsame : (s.prune currentFrame window).states = s.states := by
      refine Std.ExtTreeMap.ext_getElem? fun g => ?_
      exact getElem?_prune_of_keepFrom_le (by rw [hall]; exact Nat.zero_le g)
    rw [hsame]
    exact hrestores
  · have hmem := (markedAll_requiredFrames s (keepFrom currentFrame window)).roots frame
      (.inl hframe) hrestores.stored
    refine restores_prune_of_restores hrestores hmem fun hto => hzero ?_
    obtain ⟨chain', hchain'⟩ := hrestores.of_chainTo (fun _ _ hg => hg) hto
    obtain ⟨key, hkey, hkeyframe⟩ := hchain'.exists_keyframe
    exact ⟨frame, key, hframe, hto, hkey, hkeyframe⟩

/-- The walk back from the shadow only looks at frames above the one that is restored. -/
theorem preimageLoop_congr {states states' : NatMap (StoredState β)} {frame : Nat}
    (hsame : ∀ g, frame < g → states'[g]? = states[g]?) {depth depth' cursorFrame : Nat}
    (hdepth : keysIn states frame cursorFrame < depth)
    (hdepth' : keysIn states frame cursorFrame < depth') :
    preimageLoop states' frame depth' cursorFrame =
      preimageLoop states frame depth cursorFrame := by
  induction depth generalizing depth' cursorFrame with
  | zero => exact absurd hdepth (Nat.not_lt_zero _)
  | succ depth ih =>
    cases depth' with
    | zero => exact absurd hdepth' (Nat.not_lt_zero _)
    | succ depth' =>
      unfold preimageLoop
      split
      · next hgt =>
        rw [hsame cursorFrame hgt]
        cases hstored : states[cursorFrame]? with
        | none => rfl
        | some stored =>
          dsimp only
          split
          · rfl
          · next hlink =>
            have hlt : stored.baseFrame < cursorFrame := by
              simp only [Bool.or_eq_true, decide_eq_true_eq, not_or] at hlink
              omega
            have hcount := keysIn_lt_of_key_right hstored hgt hlt
            rw [ih (by omega) (by omega)]
      · rfl

theorem buildPreimageRestore_prune {frame : Nat} (hframe : keepFrom currentFrame window ≤ frame) :
    (s.prune currentFrame window).buildPreimageRestore frame = s.buildPreimageRestore frame := by
  have hsame : ∀ g, frame < g → (s.prune currentFrame window).states[g]? = s.states[g]? :=
    fun g hg => getElem?_prune_of_keepFrom_le (by omega)
  have hkeys : keysIn s.states frame s.frameShadowFrame =
      keysIn (s.prune currentFrame window).states frame s.frameShadowFrame := by
    unfold keysIn
    congr 1
    ext g
    simp only [Finset.mem_filter, List.mem_toFinset, Std.ExtTreeMap.mem_keys,
      Std.ExtTreeMap.mem_iff_isSome_getElem?]
    refine and_congr_left fun hg => ?_
    rw [hsame g hg.1]
  unfold buildPreimageRestore
  rw [prune_frameShadowFrame, prune_frameShadowMainRAM]
  split
  · rfl
  · rw [preimageLoop_congr hsame (Nat.lt_succ_of_le (keysIn_le_size _ _ _))
      (by rw [hkeys]; exact Nat.lt_succ_of_le (keysIn_le_size _ _ _))]

theorem getElem?_prune_of_not_needed {frame : Nat} (hlt : frame < keepFrom currentFrame window)
    (hneeded : ¬ Needed s (keepFrom currentFrame window) frame) :
    (s.prune currentFrame window).states[frame]? = none := by
  refine getElem?_prune_eq_none hlt fun hmem => hneeded ?_
  obtain ⟨root, hroot, hstored, hto, -⟩ := (markedAll_requiredFrames s _).sound frame hmem
  exact ⟨root, hroot, hstored, hto⟩

/-- A chain through frame zero is cut. -/
theorem not_prunesSafely (hkeep : 0 < keepFrom currentFrame window)
    (h : ThroughZero s (keepFrom currentFrame window)) : ¬ PrunesSafely s currentFrame window := by
  intro hsafe
  obtain ⟨frame, key, hframe, hzero, hkey, hkeyframe⟩ := h
  obtain ⟨chain, hrestores⟩ := Restores.of_keyframe (hzero.trans hkey) hkeyframe
  have hpruned := buildRestoreChain_eq_some.mp
    ((hsafe.chain frame hframe).trans (buildRestoreChain_eq_some.mpr hrestores))
  obtain ⟨chain', hchain'⟩ := hpruned.of_chainTo (fun _ _ hg => getElem?_of_prune hg) hzero
  obtain ⟨stored, hstored⟩ := hchain'.stored
  have hnone : (s.prune currentFrame window).states[kNoFrame]? = none :=
    getElem?_prune_eq_none hkeep (zero_not_required hkeep)
  rw [hnone] at hstored
  cases hstored

/-- Pruning is safe unless a frame of the window is restored through frame zero. -/
theorem prunesSafely_iff (s : Store β) (currentFrame window : Nat) :
    PrunesSafely s currentFrame window ↔
      keepFrom currentFrame window = 0 ∨ ¬ ThroughZero s (keepFrom currentFrame window) := by
  constructor
  · intro hsafe
    by_cases hkeep : keepFrom currentFrame window = 0
    · exact .inl hkeep
    · exact .inr fun hzero => not_prunesSafely (Nat.pos_of_ne_zero hkeep) hzero hsafe
  · intro h
    exact ⟨fun frame hframe => buildRestoreChain_prune h hframe,
      fun frame hframe => buildPreimageRestore_prune hframe,
      fun frame hframe => getElem?_prune_of_keepFrom_le hframe,
      fun frame hlt hneeded => getElem?_prune_of_not_needed hlt hneeded⟩

end

/-- A keyframe at frame zero. -/
def zeroKeyframe : Store Nat := ({} : Store Nat).put 0 { buffer := some 7, mainRAMCopy := [1, 2] }

/-- The header that `PrepareSave` gives a delta at frame 18. -/
def deltaOnZero : StoredState Nat :=
  { (zeroKeyframe.prepareSave 18 .keyframeDelta 60 0).1 with buffer := some 8 }

/-- The delta at frame 18 can be restored until the keyframe at frame zero is pruned. -/
theorem prune_cuts_frame_zero :
    ((zeroKeyframe.put 18 deltaOnZero).buildRestoreChain 18).isSome = true ∧
      (((zeroKeyframe.put 18 deltaOnZero).prune 20 5).buildRestoreChain 18).isSome = false ∧
      ¬ PrunesSafely (zeroKeyframe.put 18 deltaOnZero) 20 5 := by
  have hbefore : ((zeroKeyframe.put 18 deltaOnZero).buildRestoreChain 18).isSome = true := by
    decide +kernel
  have hafter : (((zeroKeyframe.put 18 deltaOnZero).prune 20 5).buildRestoreChain 18).isSome =
      false := by
    decide +kernel
  refine ⟨hbefore, hafter, fun hsafe => ?_⟩
  rw [hsafe.chain 18 (by decide), hbefore] at hafter
  cases hafter

end Bigstar.Netplay.RollbackStorage.Store
