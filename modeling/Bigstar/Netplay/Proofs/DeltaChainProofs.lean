import Bigstar.Netplay.Proofs.PreimageProofs
import Bigstar.Netplay.Proofs.RollbackSavestateProofs

/-!
# Chains of deltas

The delta backends save a checkpoint against the main RAM of another one, which they find by its
frame: the newest keyframe, or the checkpoint of the frame shadow. Frames are saved in increasing
order, since a correction erases what is later than the frame it goes back to before it saves again.
So a base is never saved again under the same frame while a delta against it is stored, and every
stored checkpoint can be restored, whatever was pruned and corrected.
-/

namespace Bigstar.Netplay.RollbackRuntime

open OrderedMap InputTimeline RollbackStorage

variable {σ β : Type}

/-- The console as the delta backends rely on it: a savestate that was written with main RAM
restores it, and one that was written against some main RAM does so on top of that. -/
structure RestoresMainRAM (console : Console σ β) : Prop where
  full : ∀ s t mode buffer, mode = .full ∨ mode = .sparse →
    console.saveCheckpointBuffer s mode none = some buffer →
    (console.restoreCheckpointBuffer t buffer none).2 = true ∧
      console.mainRAM (console.restoreCheckpointBuffer t buffer none).1 = console.mainRAM s
  delta : ∀ s t base buffer, console.saveCheckpointBuffer s .delta (some base) = some buffer →
    base.length = console.ramLength →
    (console.restoreCheckpointBuffer t buffer (some base)).2 = true ∧
      console.mainRAM (console.restoreCheckpointBuffer t buffer (some base)).1 = console.mainRAM s

/-! ## Restoring a chain -/

section Chain

variable {console : Console σ β} {states : NatMap (StoredState β)} {saved : NatMap σ}

/-- The savestate of a stored checkpoint was written from the console of its frame, against the
console of its base if it is a delta. Its base is an older stored checkpoint. -/
inductive Written (console : Console σ β) (states : NatMap (StoredState β)) (saved : NatMap σ)
    (frame : Nat) (stored : StoredState β) : Prop
  | key {original : σ} {mode : MainRAMMode} {buffer : β} (hdelta : stored.mainRAMDelta = false)
      (horiginal : saved[frame]? = some original) (hbuffer : stored.buffer = some buffer)
      (hmode : mode = .full ∨ mode = .sparse)
      (hsave : console.saveCheckpointBuffer original mode none = some buffer)
  | delta {original old : σ} {base : StoredState β} {buffer : β}
    (hdelta : stored.mainRAMDelta = true)
      (horiginal : saved[frame]? = some original) (hbuffer : stored.buffer = some buffer)
      (hlt : stored.baseFrame < frame) (hbase : states[stored.baseFrame]? = some base)
      (hold : saved[stored.baseFrame]? = some old)
      (hsave : console.saveCheckpointBuffer original .delta
        (some (console.mainRAM old)) = some buffer)

theorem Written.original {frame : Nat} {stored : StoredState β}
    (h : Written console states saved frame stored) :
    ∃ original, saved[frame]? = some original := by
  cases h with
  | key _ horiginal _ _ _ => exact ⟨_, horiginal⟩
  | delta _ horiginal _ _ _ _ _ => exact ⟨_, horiginal⟩

/-- From every stored checkpoint the bases lead to a keyframe, since they get older. -/
theorem exists_restores
    (h : ∀ (g : Nat) stored, states[g]? = some stored → Written console states saved g stored)
    {frame : Nat} {stored : StoredState β} (hstored : states[frame]? = some stored) :
    ∃ chain, Store.Restores states frame chain := by
  induction frame using Nat.strong_induction_on generalizing stored with
  | _ frame ih =>
    cases h frame stored hstored with
    | key hdelta _ _ _ _ => exact ⟨[stored], .keyframe hstored hdelta⟩
    | delta hdelta _ _ hlt hbase _ _ =>
      obtain ⟨chain, hchain⟩ := ih stored.baseFrame hlt hbase
      exact ⟨chain ++ [stored], .delta hstored hdelta hchain⟩

theorem restoreDeltas_append (deltas : List (StoredState β)) (last : StoredState β) (s t : σ)
    (h : restoreDeltas console deltas s = (t, true)) (hdelta : last.mainRAMDelta = true) :
    restoreDeltas console (deltas ++ [last]) s =
      restoreBuffer console t last (some (console.mainRAM t)) := by
  induction deltas generalizing s with
  | nil =>
    cases h
    simp only [List.nil_append, restoreDeltas, hdelta, Bool.not_true, Bool.false_eq_true, if_false]
    split
    · next heq => exact heq.symm
    · next heq => exact heq.symm
  | cons delta deltas ih =>
    rw [List.cons_append]
    unfold restoreDeltas at h ⊢
    split at h
    · cases h
    · next hflag =>
      rw [if_neg hflag]
      cases hrestore : restoreBuffer console s delta (some (console.mainRAM s)) with
      | mk u success =>
        rw [hrestore] at h
        cases success with
        | false => cases h
        | true => exact ih u h

/-- Loading a chain gives the main RAM that its last checkpoint was written from. -/
theorem restoreStoredStates_mainRAM (hram : RestoresMainRAM console)
    (h : ∀ (g : Nat) stored, states[g]? = some stored → Written console states saved g stored)
    {frame : Nat} {chain : List (StoredState β)}
    (hchain : Store.Restores states frame chain) (s : σ) :
    ∃ original, saved[frame]? = some original ∧
      (restoreStoredStates console s chain).2 = true ∧
      console.mainRAM (restoreStoredStates console s chain).1 = console.mainRAM original := by
  induction hchain with
  | @keyframe frame stored hstored hdelta =>
    cases h frame stored hstored with
    | @key original mode buffer _ horiginal hbuffer hmode hsave =>
      obtain ⟨hsuccess, hrestored⟩ := hram.full original s mode buffer hmode hsave
      have heq : restoreStoredStates console s [stored] =
          console.restoreCheckpointBuffer s buffer none := by
        simp only [restoreStoredStates, hdelta, Bool.false_eq_true, if_false,
          restoreBuffer, hbuffer, restoreDeltas]
        split
        · next hfail => exact hfail.symm
        · next hok => exact hok.symm
      rw [heq]
      exact ⟨original, horiginal, hsuccess, hrestored⟩
    | delta hdelta' _ _ _ _ _ _ =>
      rw [hdelta] at hdelta'
      cases hdelta'
  | @delta frame stored chain hstored hdelta hbase ih =>
    cases h frame stored hstored with
    | key hdelta' _ _ _ _ =>
      rw [hdelta] at hdelta'
      cases hdelta'
    | @delta original old base buffer _ horiginal hbuffer _ _ hold hsave =>
      obtain ⟨old', hold', hsuccess, hrestored⟩ := ih
      cases hold.symm.trans hold'
      -- the last delta is loaded on top of what the chain below it gives
      have heq : restoreStoredStates console s (chain ++ [stored]) =
          console.restoreCheckpointBuffer (restoreStoredStates console s chain).1 buffer
            (some (console.mainRAM (restoreStoredStates console s chain).1)) := by
        cases chain with
        | nil => cases hsuccess
        | cons front deltas =>
          rw [List.cons_append]
          unfold restoreStoredStates at hsuccess ⊢
          dsimp only at hsuccess ⊢
          split at hsuccess
          · cases hsuccess
          · next hfront =>
            rw [if_neg hfront]
            cases hkey : restoreBuffer console s front none with
            | mk u success =>
              rw [hkey] at hsuccess
              cases success with
              | false => cases hsuccess
              | true =>
                dsimp only at hsuccess ⊢
                rw [if_neg hfront]
                rw [restoreDeltas_append deltas stored u (restoreDeltas console deltas u).1
                  (Prod.ext rfl hsuccess) hdelta]
                simp only [restoreBuffer, hbuffer]
      have hlength : (console.mainRAM old).length = console.ramLength := console.mainRAM_length old
      obtain ⟨hlast, hresult⟩ :=
        hram.delta original (restoreStoredStates console s chain).1
          (console.mainRAM old) buffer hsave hlength
      rw [heq, hrestored]
      exact ⟨original, horiginal, hlast, hresult⟩

end Chain

/-! ## The store -/

/-- Everything stored is below frame `n` and was written as it should be; the keyframes keep a copy
of main RAM, and the frame shadow has that of its checkpoint. -/
structure Deltas (context : Context) (console : Console σ β) (store : Store β) (saved : NatMap σ)
    (n : Nat) : Prop where
  stored_lt : ∀ (f : Nat) stored, store.states[f]? = some stored → f < n
  ne_zero : ∀ (f : Nat) stored, store.states[f]? = some stored → f ≠ kNoFrame
  written : ∀ (f : Nat) stored, store.states[f]? = some stored →
    Written console store.states saved f stored
  copies : ∀ (f : Nat) stored, store.states[f]? = some stored → stored.mainRAMCopy ≠ [] →
    ∃ original, saved[f]? = some original ∧ stored.mainRAMCopy = console.mainRAM original
  shadow : ∀ top, store.states[store.frameShadowFrame]? = some top →
    ∃ original, saved[store.frameShadowFrame]? = some original ∧
      store.frameShadowMainRAM = console.mainRAM original
  no_shadow : context.config.backend ≠ .coreFrameDelta → store.frameShadowFrame = kNoFrame

section Store

variable {context : Context} {console : Console σ β} {store : Store β} {saved : NatMap σ} {n : Nat}

theorem Deltas.mono (h : Deltas context console store saved n) {m : Nat} (hnm : n ≤ m) :
    Deltas context console store saved m :=
  { h with stored_lt := fun f stored hf => lt_of_lt_of_le (h.stored_lt f stored hf) hnm }

/-- The frame shadow may be set to any main RAM that is that of its checkpoint. -/
theorem Deltas.refresh (h : Deltas context console store saved n)
    (hpre : isPreimageBackend context.config = false) (frame : Nat) (ram : List UInt8)
    (hram : ∀ top, store.states[frame]? = some top →
      ∃ original, saved[frame]? = some original ∧ ram = console.mainRAM original) :
    Deltas context console (refreshFrameShadowLocked context store frame ram) saved n := by
  unfold refreshFrameShadowLocked
  split
  · exact h
  · next hbackend =>
    have hframe : context.config.backend = .coreFrameDelta := by
      simpa [hpre] using hbackend
    unfold Store.updateFrameShadow
    split
    · refine ⟨h.stored_lt, h.ne_zero, h.written, h.copies, ?_, fun hne => absurd hframe hne⟩
      intro top htop
      exact absurd rfl (h.ne_zero kNoFrame top htop)
    · exact ⟨h.stored_lt, h.ne_zero, h.written, h.copies, hram, fun hne => absurd hframe hne⟩

theorem Deltas.eraseAfter (h : Deltas context console store saved n) (frame : Nat) :
    Deltas context console (store.eraseAfter frame) saved (frame + 1) := by
  have hbefore : ∀ (f : Nat) stored, (store.eraseAfter frame).states[f]? = some stored →
      f ≤ frame ∧ store.states[f]? = some stored := by
    intro f stored hf
    rw [Store.getElem?_eraseAfter] at hf
    split at hf
    · next hle => exact ⟨hle, hf⟩
    · cases hf
  constructor
  · intro f stored hf
    exact Nat.lt_succ_of_le (hbefore f stored hf).1
  · intro f stored hf
    exact h.ne_zero f stored (hbefore f stored hf).2
  · intro f stored hf
    obtain ⟨hle, hf'⟩ := hbefore f stored hf
    cases h.written f stored hf' with
    | key hdelta horiginal hbuffer hmode hsave => exact .key hdelta horiginal hbuffer hmode hsave
    | @delta original old base buffer hdelta horiginal hbuffer hlt hbase hold hsave =>
      -- the base is older still
      have hbase' : (store.eraseAfter frame).states[stored.baseFrame]? = some base := by
        rw [Store.getElem?_eraseAfter, if_pos (by omega)]
        exact hbase
      exact .delta hdelta horiginal hbuffer hlt hbase' hold hsave
  · intro f stored hf
    exact h.copies f stored (hbefore f stored hf).2
  · intro top htop
    exact h.shadow top (hbefore _ top htop).2
  · exact h.no_shadow

/-- Pruning keeps the base of whatever it keeps. -/
theorem Deltas.prune (h : Deltas context console store saved n) (currentFrame window : Nat) :
    Deltas context console (store.prune currentFrame window) saved n := by
  have hrequired : ∀ (f : Nat) stored, (store.prune currentFrame window).states[f]? = some stored →
      f ∈ store.requiredFrames (Store.keepFrom currentFrame window) := by
    intro f stored hf
    by_contra hmem
    rcases Nat.lt_or_ge f (Store.keepFrom currentFrame window) with hlt | hge
    · rw [Store.getElem?_prune_eq_none hlt hmem] at hf
      cases hf
    · exact hmem ((Store.markedAll_requiredFrames store _).roots f (.inl hge)
        ⟨stored, Store.getElem?_of_prune hf⟩)
  constructor
  · intro f stored hf
    exact h.stored_lt f stored (Store.getElem?_of_prune hf)
  · intro f stored hf
    exact h.ne_zero f stored (Store.getElem?_of_prune hf)
  · intro f stored hf
    have hf' := Store.getElem?_of_prune hf
    cases h.written f stored hf' with
    | key hdelta horiginal hbuffer hmode hsave => exact .key hdelta horiginal hbuffer hmode hsave
    | @delta original old base buffer hdelta horiginal hbuffer hlt hbase hold hsave =>
      have hmem :=
        (Store.markedAll_requiredFrames store (Store.keepFrom currentFrame window)).closed f
        (hrequired f stored hf) stored.baseFrame ⟨stored, hf', hdelta, rfl⟩ (h.ne_zero _ base hbase)
      rw [← Store.getElem?_prune_of_required hmem] at hbase
      exact .delta hdelta horiginal hbuffer hlt hbase hold hsave
  · intro f stored hf
    exact h.copies f stored (Store.getElem?_of_prune hf)
  · intro top htop
    exact h.shadow top (Store.getElem?_of_prune htop)
  · exact h.no_shadow

/-! ## Saving -/

theorem latestKeyframe_eq_some {frame base : Nat} {stored : StoredState β}
    (h : store.latestKeyframe frame = some (base, stored)) :
    store.states[base]? = some stored ∧ stored.mainRAMCopy ≠ [] := by
  unfold Store.latestKeyframe at h
  have hmem := List.mem_of_find?_eq_some h
  have hkey := List.find?_some h
  rw [List.mem_reverse, Std.ExtTreeMap.mem_toList_iff_getElem?_eq_some,
    OrderedMap.getElem?_eraseAfter] at hmem
  split at hmem
  · refine ⟨hmem, ?_⟩
    simp only [Bool.and_eq_true, Bool.not_eq_true', List.isEmpty_eq_false_iff] at hkey
    exact hkey.2
  · cases hmem

/-- A new checkpoint is to be written in full, or against the main RAM of a stored checkpoint. -/
theorem Deltas.prepareSave_cases (h : Deltas context console store saved n) {mode : DeltaMode}
    (hmode : mode ≠ .preimage) (frame keyframeInterval netplayStartFrame : Nat) :
    store.prepareSave frame mode keyframeInterval netplayStartFrame = ({}, []) ∨
      ∃ base top original, store.states[base]? = some top ∧ saved[base]? = some original ∧
        store.prepareSave frame mode keyframeInterval netplayStartFrame =
          ({ mainRAMDelta := true, baseFrame := base }, console.mainRAM original) := by
  cases mode with
  | none => exact .inl rfl
  | preimage => exact absurd rfl hmode
  | frameDelta =>
    unfold Store.prepareSave
    dsimp only
    split
    · next husable =>
      simp only [Bool.and_eq_true, Store.hasUsableFrameShadow, Option.isSome_iff_exists] at husable
      obtain ⟨-, -, top, htop⟩ := husable
      obtain ⟨original, horiginal, hram⟩ := h.shadow top htop
      refine .inr ⟨store.frameShadowFrame, top, original, htop, horiginal, ?_⟩
      rw [hram]
    · exact .inl rfl
  | keyframeDelta =>
    unfold Store.prepareSave
    dsimp only
    split
    · exact .inl rfl
    · cases hlatest : store.latestKeyframe frame with
      | none => exact .inl rfl
      | some state =>
        obtain ⟨hbase, hcopy⟩ := latestKeyframe_eq_some hlatest
        obtain ⟨original, horiginal, hram⟩ := h.copies state.1 state.2 hbase hcopy
        refine .inr ⟨state.1, state.2, original, hbase, horiginal, ?_⟩
        dsimp only
        rw [hram]

theorem deltaMode_ne_preimage (hpre : isPreimageBackend context.config = false) :
    deltaMode context ≠ .preimage := by
  unfold deltaMode
  rw [hpre, if_neg Bool.false_ne_true]
  split
  · simp
  · split <;> simp

/-- A checkpoint that has been encoded is written as it should be, once it is stored for a later
frame than all others. -/
theorem Deltas.written_of_encodeCheckpoint {s : State σ β}
    (h : Deltas context console s.store s.saved n)
    (hpre : isPreimageBackend context.config = false) {frame : Nat} (hn : n ≤ frame)
    {stored : StoredState β} (hstored : encodeCheckpoint context console s frame = some stored) :
    Written console (s.store.put frame stored).states
      (s.saved.insert frame s.console) frame stored ∧
      (stored.mainRAMCopy ≠ [] → stored.mainRAMCopy = console.mainRAM s.console) := by
  have hself : (s.saved.insert frame s.console)[frame]? = some s.console := by
    rw [getElem?_insert_eq, if_pos rfl]
  have hcases := h.prepareSave_cases (deltaMode_ne_preimage hpre) frame
    (if context.config.deltaKeyframeInterval > 0 then
      context.config.deltaKeyframeInterval.toNat else 0)
    context.netplayStartFrame
  unfold encodeCheckpoint prepareDeltaSaveLocked at hstored
  dsimp only at hstored
  rcases hcases with heq | ⟨base, top, original, htop, horiginal, heq⟩
  · rw [heq] at hstored
    simp only [Bool.false_eq_true, false_and, if_false, captureFramePreimage,
      Bool.not_false, if_true, mainRAMMode, hpre] at hstored
    split at hstored
    · cases hstored
    · next buffer hbuffer =>
      obtain rfl := Option.some.inj hstored
      refine ⟨.key rfl hself rfl ?_ hbuffer, ?_⟩
      · split
        · exact .inr rfl
        · exact .inl rfl
      · dsimp only
        split
        · exact fun _ => rfl
        · exact fun hne => absurd rfl hne
  · have hlength : (console.mainRAM original).length = (console.mainRAM s.console).length := by
      rw [console.mainRAM_length, console.mainRAM_length]
    rw [heq] at hstored
    simp only [hlength, ne_eq, not_true, and_false, if_false, captureFramePreimage,
      Bool.not_false, if_true, mainRAMMode, hpre, Bool.false_eq_true, Bool.not_true] at hstored
    split at hstored
    · cases hstored
    · next buffer hbuffer =>
      obtain rfl := Option.some.inj hstored
      have hlt := h.stored_lt base top htop
      have hbase :
          (s.store.put frame
            { mainRAMDelta := true, baseFrame := base, buffer := some buffer }).states[base]? =
          some top := by
        rw [Store.getElem?_put, if_neg (by omega)]
        exact htop
      have hold : (s.saved.insert frame s.console)[base]? = some original := by
        rw [getElem?_insert_eq, if_neg (by omega)]
        exact horiginal
      refine ⟨.delta rfl hself rfl (by dsimp only; omega) hbase hold hbuffer, ?_⟩
      exact fun hne => absurd rfl hne

theorem Deltas.put (h : Deltas context console store saved n) {frame : Nat} (hn : n ≤ frame)
    (hzero : frame ≠ kNoFrame) {stored : StoredState β} {c : σ}
    (hwritten : Written console (store.put frame stored).states (saved.insert frame c) frame stored)
    (hcopy : stored.mainRAMCopy ≠ [] → stored.mainRAMCopy = console.mainRAM c)
    (hshadow : store.frameShadowFrame ≠ frame) :
    Deltas context console (store.put frame stored) (saved.insert frame c) (frame + 1) := by
  have hcases : ∀ (f : Nat) other, (store.put frame stored).states[f]? = some other →
      f = frame ∧ other = stored ∨ f < frame ∧ store.states[f]? = some other := by
    intro f other hf
    rw [Store.getElem?_put] at hf
    split at hf
    · next heq =>
      obtain rfl := Option.some.inj hf
      exact .inl ⟨heq.symm, rfl⟩
    · have hlt := h.stored_lt f other hf
      exact .inr ⟨by omega, hf⟩
  have hsaved : ∀ (f : Nat) original, f < frame → saved[f]? = some original →
      (saved.insert frame c)[f]? = some original := by
    intro f original hlt hf
    rw [getElem?_insert_eq, if_neg (by omega)]
    exact hf
  have hself : (saved.insert frame c)[frame]? = some c := by
    rw [getElem?_insert_eq, if_pos rfl]
  constructor
  · intro f other hf
    rcases hcases f other hf with ⟨rfl, -⟩ | ⟨hlt, -⟩ <;> omega
  · intro f other hf
    rcases hcases f other hf with ⟨rfl, -⟩ | ⟨-, hf'⟩
    · exact hzero
    · exact h.ne_zero f other hf'
  · intro f other hf
    rcases hcases f other hf with ⟨rfl, rfl⟩ | ⟨hlt, hf'⟩
    · exact hwritten
    · cases h.written f other hf' with
      | key hdelta horiginal hbuffer hmode hsave =>
        exact .key hdelta (hsaved f _ hlt horiginal) hbuffer hmode hsave
      | @delta original old base buffer hdelta horiginal hbuffer hbefore hbase hold hsave =>
        have hbase' : (store.put frame stored).states[other.baseFrame]? = some base := by
          rw [Store.getElem?_put, if_neg (by omega)]
          exact hbase
        exact .delta hdelta (hsaved f _ hlt horiginal) hbuffer hbefore hbase'
          (hsaved _ _ (by omega) hold) hsave
  · intro f other hf hne
    rcases hcases f other hf with ⟨rfl, rfl⟩ | ⟨hlt, hf'⟩
    · exact ⟨c, hself, hcopy hne⟩
    · obtain ⟨original, horiginal, hram⟩ := h.copies f other hf' hne
      exact ⟨original, hsaved f original hlt horiginal, hram⟩
  · intro top htop
    rcases hcases _ top htop with ⟨heq, -⟩ | ⟨hlt, htop'⟩
    · exact absurd heq hshadow
    · obtain ⟨original, horiginal, hram⟩ := h.shadow top htop'
      exact ⟨original, hsaved _ original hlt horiginal, hram⟩
  · exact h.no_shadow

/-- The shadow of no checkpoint. -/
theorem Deltas.clearShadow (h : Deltas context console store saved n) :
    Deltas context console { store with
      frameShadowMainRAM := [], frameShadowFrame := kNoFrame } saved n := by
  refine ⟨h.stored_lt, h.ne_zero, h.written, h.copies, ?_, fun _ => rfl⟩
  intro top htop
  exact absurd rfl (h.ne_zero kNoFrame top htop)

/-- A new checkpoint becomes the one of the frame shadow, where there is one. -/
theorem Deltas.put_refresh (h : Deltas context console store saved n)
    (hpre : isPreimageBackend context.config = false) {frame : Nat} (hn : n ≤ frame)
    (hzero : frame ≠ kNoFrame) {stored : StoredState β} {c : σ}
    (hwritten : Written console (store.put frame stored).states (saved.insert frame c) frame stored)
    (hcopy : stored.mainRAMCopy ≠ [] → stored.mainRAMCopy = console.mainRAM c) :
    Deltas context console (refreshFrameShadowLocked context (store.put frame stored) frame
      (console.mainRAM c)) (saved.insert frame c) (frame + 1) := by
  by_cases hbackend : context.config.backend = .coreFrameDelta
  · -- whatever the shadow was, it is replaced
    have hput := Deltas.put h.clearShadow hn hzero hwritten hcopy (Ne.symm hzero)
    have hrefresh := hput.refresh hpre frame (console.mainRAM c) (fun top _ => ⟨c, by
      rw [getElem?_insert_eq, if_pos rfl], rfl⟩)
    have hsame : refreshFrameShadowLocked context ({ store with
        frameShadowMainRAM := [], frameShadowFrame := kNoFrame }.put frame stored) frame
          (console.mainRAM c) =
        refreshFrameShadowLocked context (store.put frame stored) frame (console.mainRAM c) := by
      have hgo : ¬ (context.config.backend ≠ .coreFrameDelta ∧
          (!isPreimageBackend context.config) = true) := fun hne => hne.1 hbackend
      simp only [refreshFrameShadowLocked, hgo, if_false, Store.updateFrameShadow, Store.put]
    rw [hsame] at hrefresh
    exact hrefresh
  · have hshadow : store.frameShadowFrame ≠ frame := by
      rw [h.no_shadow hbackend]
      exact Ne.symm hzero
    have hsame : refreshFrameShadowLocked context (store.put frame stored) frame
      (console.mainRAM c) =
        store.put frame stored := by
      unfold refreshFrameShadowLocked
      rw [if_pos ⟨hbackend, by simp [hpre]⟩]
    rw [hsame]
    exact h.put hn hzero hwritten hcopy hshadow

/-- A checkpoint of a later frame than all others. -/
theorem Deltas.writeCheckpoint {s : State σ β} (h : Deltas context console s.store s.saved n)
    (hpre : isPreimageBackend context.config = false) {frame : Nat} (hn : n ≤ frame)
    (hzero : frame ≠ kNoFrame) :
    Deltas context console (writeCheckpoint context console s frame).store
      (writeCheckpoint context console s frame).saved (frame + 1) := by
  unfold RollbackRuntime.writeCheckpoint
  split
  · exact h.mono (Nat.le_succ_of_le hn)
  · next stored hstored =>
    obtain ⟨hwritten, hcopy⟩ := h.written_of_encodeCheckpoint hpre hn hstored
    exact (h.put_refresh hpre hn hzero hwritten hcopy).prune frame _

theorem Deltas.saveCheckpointNowLocked {s : State σ β}
    (h : Deltas context console s.store s.saved n)
    (hpre : isPreimageBackend context.config = false) {frame : Nat} (hn : n ≤ frame)
    (hzero : frame ≠ kNoFrame) :
    Deltas context console (saveCheckpointNowLocked context console s frame).store
      (saveCheckpointNowLocked context console s frame).saved (frame + 1) := by
  unfold RollbackRuntime.saveCheckpointNowLocked
  split
  · exact h.mono (Nat.le_succ_of_le hn)
  · split
    · exact h.mono (Nat.le_succ_of_le hn)
    · exact h.writeCheckpoint hpre hn hzero

end Store

/-! ## Correcting -/

section Correct

variable {context : Context} {console : Console σ β} {n : Nat}

/-- The replay of the frames from `frame` on: the checkpoints it writes are of later and later
frames, and none of them is of the current frame. -/
theorem Deltas.resimulateFrames
    (hpre : isPreimageBackend context.config = false) (count frame : Nat)
    {m : Nat} (s : State σ β) (h : Deltas context console s.store s.saved m) (hm : m ≤ frame + 1)
    (hmn : m ≤ n) :
    Deltas context console (resimulateFrames context console n (List.range' frame count) s).1.store
      (resimulateFrames context console n (List.range' frame count) s).1.saved n := by
  induction count generalizing frame m s with
  | zero => exact h.mono hmn
  | succ count ih =>
    obtain ⟨inputs, -, -, heq⟩ := resimulateFrame_eq console context n s frame
    rw [List.range'_succ]
    unfold RollbackRuntime.resimulateFrames
    rw [heq]
    dsimp only
    split
    · exact h.mono hmn
    · next t ht =>
      split at ht
      · next hsave =>
        obtain rfl := Option.some.inj ht
        have hlt : frame + 1 < n := by
          simp only [shouldSaveResimulationCheckpoint, Bool.and_eq_true, decide_eq_true_eq] at hsave
          exact hsave.1
        exact ih (frame + 1) _ (Deltas.saveCheckpointNowLocked (s := { s with
          inputs := (s.inputs.resolve frame neutralInput (replayProbe context.config)).1
          console := console.runFrame s.console inputs.players
          used := s.used.insert frame inputs }) h hpre hm (Nat.succ_ne_zero frame))
            (Nat.le_refl _) (by omega)
      · obtain rfl := Option.some.inj ht
        exact ih (frame + 1) _ h (by omega) hmn

/-- What a restored chain gives is the main RAM of the frame it goes back to. -/
theorem Deltas.restoreCheckpoint (hpre : isPreimageBackend context.config = false)
    (hram : RestoresMainRAM console) {s : State σ β} (h : Deltas context console s.store s.saved n)
    {frame : Nat} {stored : StoredState β} {restored : σ} {success : Bool}
    (hrestore : restoreCheckpoint context console s frame stored = some (restored, success)) :
    success = true ∧ ∃ original, s.saved[frame]? = some original ∧
      console.mainRAM restored = console.mainRAM original := by
  unfold RollbackRuntime.restoreCheckpoint at hrestore
  rw [hpre, if_neg Bool.false_ne_true] at hrestore
  split at hrestore
  · cases hrestore
  · next chain hchain =>
    have heq := Option.some.inj hrestore
    obtain ⟨original, horiginal, hsuccess, hmainRAM⟩ :=
      restoreStoredStates_mainRAM hram h.written
        (Store.buildRestoreChain_eq_some.mp hchain) s.console
    rw [heq] at hsuccess hmainRAM
    exact ⟨hsuccess, original, horiginal, hmainRAM⟩

/-- The frame shadow follows the frame that is gone back to, and then the current one, which has no
checkpoint yet. -/
theorem Deltas.replayFrom (hpre : isPreimageBackend context.config = false) {s : State σ β}
    {restoreFrame : Nat} (h : Deltas context console s.store s.saved (restoreFrame + 1))
    (hlt : restoreFrame < n) {restored original : σ}
    (horiginal : s.saved[restoreFrame]? = some original)
    (hram : console.mainRAM restored = console.mainRAM original) :
    Deltas context console (replayFrom context console s restoreFrame n restored).1.store
      (replayFrom context console s restoreFrame n restored).1.saved n := by
  unfold RollbackRuntime.replayFrom
  dsimp only
  have hstart := h.refresh hpre restoreFrame (console.mainRAM restored) fun _ _ =>
    ⟨original, horiginal, hram⟩
  have hreplay := Deltas.resimulateFrames hpre (n - restoreFrame) restoreFrame
    { s with
      console := restored
      store := refreshFrameShadowLocked context s.store restoreFrame (console.mainRAM restored) }
    hstart (Nat.le_refl _) hlt
  split
  · next t ht =>
    rw [ht] at hreplay
    exact hreplay
  · next t ht =>
    rw [ht] at hreplay
    refine Deltas.refresh hreplay hpre n (console.mainRAM t.console) ?_
    intro top htop
    exact absurd (hreplay.stored_lt n top htop) (Nat.lt_irrefl n)

/-- A correction leaves the deltas as they should be below the current frame. -/
theorem Deltas.resimulateIfNeeded (hpre : isPreimageBackend context.config = false)
    (hram : RestoresMainRAM console) {s : State σ β}
    (h : Deltas context console s.store s.saved n) :
    Deltas context console (resimulateIfNeeded context console s n).1.store
      (resimulateIfNeeded context console s n).1.saved n := by
  rcases resimulateIfNeeded_cases context console s n with
    ⟨inputs, heq⟩ | ⟨inputs, mismatchFrame, restoreFrame, stored, restored,
      success, hlatest, hrestore,
      heq⟩
  · rw [heq]
    exact h
  · obtain ⟨hstored, -⟩ := Store.latestAtOrBefore_eq_some hlatest
    obtain ⟨rfl, original, horiginal, hmainRAM⟩ := h.restoreCheckpoint hpre hram hrestore
    rw [heq]
    simp only [Bool.not_true, Bool.false_eq_true, if_false]
    exact Deltas.replayFrom hpre (s := { s with
      inputs := inputs, store := s.store.eraseAfter restoreFrame }) (h.eraseAfter restoreFrame)
      (h.stored_lt restoreFrame stored hstored) horiginal hmainRAM

end Correct

/-! ## Whole runs -/

/-- The checkpoint of a frame can be restored from any state of the console, and that gives the main
RAM it was last written from. -/
def RestoresChain (console : Console σ β) (s : State σ β) (f : Nat) : Prop :=
  ∃ chain original, s.store.buildRestoreChain f = some chain ∧ s.saved[f]? = some original ∧
    ∀ t, (restoreStoredStates console t chain).2 = true ∧
      console.mainRAM (restoreStoredStates console t chain).1 = console.mainRAM original

namespace Pipeline

variable {context : Context} {console : Console σ β} {delay : Nat}

/-- The deltas below the current frame, or up to it once that one has been saved. -/
structure DeltaInv (context : Context) (console : Console σ β) (s : Pipeline σ β) : Prop where
  deltas : Deltas context console s.session.state.store s.session.state.saved
    (if s.savedThisFrame then s.session.currentFrame + 1 else s.session.currentFrame)
  started : s.session.currentFrame ≠ kNoFrame

theorem DeltaInv.saveCheckpoint (hpre : isPreimageBackend context.config = false) {s : Pipeline σ β}
    (h : s.DeltaInv context console) (hsaved : s.savedThisFrame = false) :
    DeltaInv context console { s with
      session := s.session.step context console delay .saveCheckpoint
      savedThisFrame := true } := by
  have hdeltas := h.deltas
  rw [hsaved, if_neg Bool.false_ne_true] at hdeltas
  refine ⟨?_, h.started⟩
  simp only [if_true]
  unfold Session.step saveCheckpointIfNeeded
  dsimp only
  split
  · exact hdeltas.mono (Nat.le_succ _)
  · split
    · exact hdeltas.mono (Nat.le_succ _)
    · exact hdeltas.writeCheckpoint hpre (Nat.le_refl _) h.started

theorem DeltaInv.step (hpre : isPreimageBackend context.config = false)
    (hram : RestoresMainRAM console)
    (s : Pipeline σ β) (op : SessionOp) (t : Pipeline σ β) (h : s.DeltaInv context console)
    (hstep : s.step context console delay op = some t) : t.DeltaInv context console := by
  cases op with
  | resimulate =>
    simp only [Pipeline.step] at hstep
    split at hstep
    · cases hstep
    · next hsaved =>
      obtain rfl := Option.some.inj hstep
      have hdeltas := h.deltas
      rw [if_neg hsaved] at hdeltas
      refine ⟨?_, h.started⟩
      dsimp only
      rw [if_neg hsaved]
      exact hdeltas.resimulateIfNeeded hpre hram
  | saveCheckpoint =>
    simp only [Pipeline.step] at hstep
    split at hstep
    · cases hstep
    · next hsaved =>
      obtain rfl := Option.some.inj hstep
      exact h.saveCheckpoint hpre (by simpa using hsaved)
  | storeRemote arrival fromPumpThread =>
    obtain rfl := Option.some.inj hstep
    exact ⟨h.deltas, h.started⟩
  | runFrame polled late =>
    simp only [Pipeline.step] at hstep
    split at hstep
    · next hsaved =>
      obtain rfl := Option.some.inj hstep
      have hdeltas := h.deltas
      rw [if_pos hsaved] at hdeltas
      exact ⟨hdeltas, Nat.succ_ne_zero _⟩
    · cases hstep

/-- In every reachable state of a backend with full checkpoints or deltas, whatever has been
corrected and pruned: every stored checkpoint can be restored to the main RAM it was last written
from, and no correction that finds a checkpoint fails to restore it. -/
theorem deltas_restore (context : Context) (hpre : isPreimageBackend context.config = false)
    (console : Console σ β) (hram : RestoresMainRAM console) (delay : Nat)
    (inputs : InputTimeline.Runtime) (initial : σ) (start : Nat) (hstart : start ≠ kNoFrame)
    (ops : List SessionOp) (s : Pipeline σ β)
    (hrun : Run.run (Pipeline.step context console delay)
      { session := {
          state := { inputs := inputs, console := initial }
          currentFrame := start } } ops = some s) :
    (∀ f : Nat, (s.session.state.store.states[f]?).isSome →
      RestoresChain console s.session.state f) ∧
    ∀ mismatchFrame restoreFrame stored,
      s.session.state.store.latestAtOrBefore mismatchFrame = some (restoreFrame, stored) →
      ∃ restored, restoreCheckpoint context console s.session.state restoreFrame stored =
        some (restored, true) := by
  have hinit : DeltaInv context console ({ session := {
      state := { inputs := inputs, console := initial }, currentFrame := start } } :
        Pipeline σ β) := by
    refine ⟨⟨?_, ?_, ?_, ?_, ?_, fun _ => rfl⟩, hstart⟩ <;> simp
  have hinv : s.DeltaInv context console := Run.run_invariant' (DeltaInv.step hpre hram) hinit hrun
  have hwritten := hinv.deltas.written
  have hchain : ∀ f : Nat, (s.session.state.store.states[f]?).isSome →
      RestoresChain console s.session.state f := by
    intro f hf
    obtain ⟨stored, hstored⟩ := Option.isSome_iff_exists.mp hf
    obtain ⟨chain, hrestores⟩ := exists_restores hwritten hstored
    obtain ⟨original, horiginal, -⟩ := restoreStoredStates_mainRAM hram hwritten hrestores initial
    refine ⟨chain, original, Store.buildRestoreChain_eq_some.mpr hrestores, horiginal, fun t => ?_⟩
    obtain ⟨original', horiginal', hsuccess, hmainRAM⟩ :=
      restoreStoredStates_mainRAM hram hwritten hrestores t
    cases horiginal.symm.trans horiginal'
    exact ⟨hsuccess, hmainRAM⟩
  refine ⟨hchain, ?_⟩
  intro mismatchFrame restoreFrame stored hlatest
  obtain ⟨hstored, -⟩ := Store.latestAtOrBefore_eq_some hlatest
  obtain ⟨chain, original, hbuild, -, hrestore⟩ := hchain restoreFrame (by rw [hstored]; rfl)
  refine ⟨(restoreStoredStates console s.session.state.console chain).1, ?_⟩
  unfold RollbackRuntime.restoreCheckpoint
  rw [hpre, if_neg Bool.false_ne_true, hbuild]
  exact congrArg some (Prod.ext rfl (hrestore _).1)

end Pipeline

/-! ## Savestates -/

/-- The number of a mode in the savestate. -/
def MainRAMMode.number : MainRAMMode → Nat
  | .full => RollbackSavestate.kMainRAMModeFull
  | .sparse => RollbackSavestate.kMainRAMModeSparse
  | .delta => RollbackSavestate.kMainRAMModeDelta
  | .skip => RollbackSavestate.kMainRAMModeSkip

/-- The console saves and loads main RAM as `DoRollbackSavestate` does, and loading what it has
saved does not fail elsewhere. -/
structure UsesRollbackSavestate (console : Console σ (List UInt8)) (start mainRAMPageSize : Nat) :
    Prop where
  length_pos : 0 < console.ramLength
  length_le : console.ramLength ≤ RollbackSavestate.MainRAMMaxSize
  saves : ∀ s mode base buffer, console.saveCheckpointBuffer s mode base = some buffer →
    RollbackSavestate.SavedAs start mode.number base (console.mainRAM s) buffer
  restores : ∀ s t mode base buffer ram, console.saveCheckpointBuffer s mode base = some buffer →
    RollbackSavestate.restoreCheckpointBuffer start mainRAMPageSize buffer
      (console.mainRAM t) base =
      some ram → ram.length = console.ramLength →
    (console.restoreCheckpointBuffer t buffer base).2 = true ∧
      console.mainRAM (console.restoreCheckpointBuffer t buffer base).1 = ram

theorem UsesRollbackSavestate.restoresMainRAM {console : Console σ (List UInt8)}
    {start mainRAMPageSize : Nat} (h : UsesRollbackSavestate console start mainRAMPageSize) :
    RestoresMainRAM console := by
  have hrestores : ∀ s t mode base buffer, console.saveCheckpointBuffer s mode base = some buffer →
      RollbackSavestate.SavesRAM mode.number (console.mainRAM s).length base →
      (console.restoreCheckpointBuffer t buffer base).2 = true ∧
        console.mainRAM (console.restoreCheckpointBuffer t buffer base).1 = console.mainRAM s := by
    intro s t mode base buffer hsave hmode
    have hlength := console.mainRAM_length s
    refine h.restores s t mode base buffer (console.mainRAM s) hsave ?_ hlength
    exact (h.saves s mode base buffer hsave).restores (hlength ▸ h.length_pos)
      (hlength ▸ h.length_le) hmode
      mainRAMPageSize ((console.mainRAM_length t).trans hlength.symm)
  constructor
  · intro s t mode buffer hmode hsave
    refine hrestores s t mode none buffer hsave ?_
    rcases hmode with rfl | rfl
    · exact .inl rfl
    · exact .inr (.inl rfl)
  · intro s t base buffer hsave hbase
    exact hrestores s t .delta (some base) buffer hsave
      (.inr (.inr ⟨rfl, base, rfl, hbase.trans (console.mainRAM_length s).symm⟩))

theorem length_byte (s : UInt8) : [s].length = 1 := rfl

/-- The console with one byte of main RAM, with savestates of nothing else. -/
def byteSavestates : Console UInt8 (List UInt8) where
  ramLength := 1
  mainRAM := fun s => [s]
  setMainRAM := fun s ram => ram.headD s
  saveCheckpointBuffer := fun s mode base =>
    RollbackSavestate.saveCheckpointBuffer [] [] [s] mode.number base 4096
  restoreCheckpointBuffer := fun s buffer base =>
    match RollbackSavestate.restoreCheckpointBuffer 0 4096 buffer [s] base with
    | some ram => (ram.headD s, true)
    | none => (s, false)
  runFrame := Pipeline.byteConsole.runFrame
  mainRAM_length := length_byte
  mainRAM_setMainRAM := Pipeline.byteConsole.mainRAM_setMainRAM

theorem byteSavestates_uses : UsesRollbackSavestate byteSavestates 0 4096 := by
  refine ⟨Nat.one_pos, ?_, ?_, ?_⟩
  · decide
  · intro s mode base buffer hsave
    exact ⟨[], [], 4096, rfl, hsave⟩
  · intro s t mode base buffer ram hsave hrestore hlength
    obtain ⟨x, rfl⟩ := List.length_eq_one_iff.mp hlength
    have hrestore' : RollbackSavestate.restoreCheckpointBuffer 0 4096 buffer [t] base = some [x] :=
      hrestore
    simp [byteSavestates, hrestore']

/-- A session that writes deltas against the frame before. -/
def frameDeltaContext : Context where
  config := { enabled := true, resimulate := true, backend := .coreFrameDelta }
  localPlayer := 0

/-- After the correction in frame 3, the checkpoint of frame 2 is a delta that was saved again. -/
theorem deltas_restore_correctedFrame :
    ∃ s, Run.run (Pipeline.step frameDeltaContext byteSavestates 0)
        { session := { state := { console := 0 }, currentFrame := 1 } } Pipeline.correctedFrame =
          some s ∧
      (s.session.state.store.states[2]?).any (fun stored => stored.mainRAMDelta) = true ∧
      RestoresChain byteSavestates s.session.state 2 := by
  have hrun := Run.run_eq_final (Pipeline.step frameDeltaContext byteSavestates 0)
    { session := { state := { console := 0 }, currentFrame := 1 } } Pipeline.correctedFrame
    (by decide +kernel)
  refine ⟨_, hrun, by decide +kernel, ?_⟩
  exact (Pipeline.deltas_restore frameDeltaContext rfl byteSavestates
    byteSavestates_uses.restoresMainRAM 0
    {} 0 1 (by decide) Pipeline.correctedFrame _ hrun).1 2 (by decide +kernel)

end Bigstar.Netplay.RollbackRuntime
