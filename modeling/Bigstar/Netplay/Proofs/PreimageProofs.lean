import Bigstar.Lib.Run
import Bigstar.Netplay.FrameLoop
import Bigstar.Netplay.Proofs.RollbackRuntimeProofs
import Bigstar.Netplay.Proofs.PruneProofs

/-!
# Preimage checkpoints

A preimage checkpoint does not hold main RAM. It holds what the pages that changed since the
checkpoint before it held until then, and restoring walks back from the frame shadow, undoing one
checkpoint after the other. The walk reaches a stored checkpoint exactly when no correction has been
carried out since it was written: a correction refreshes the frame shadow for the current frame
without a checkpoint of that frame, so that the next checkpoint has nothing to link to.
-/

namespace Bigstar.Netplay.RollbackRuntime

open OrderedMap InputTimeline RollbackStorage

variable {σ β : Type}

/-! ## The pages of one checkpoint -/

/-- The pages captured in one loop, appended to what the checkpoint holds already. -/
theorem foldl_capturePage (pageSize : Nat) (mainRAM baseMainRAM : List UInt8) (ks : List Nat)
    (checkpoint : StoredState β) :
    ks.foldl (capturePage pageSize mainRAM baseMainRAM) checkpoint =
      { checkpoint with
        mainRAMPreimagePages := checkpoint.mainRAMPreimagePages ++
          ks.filter fun k => Pages.page pageSize k mainRAM ≠ Pages.page pageSize k baseMainRAM
        mainRAMPreimage := checkpoint.mainRAMPreimage ++
          (ks.filter fun k => Pages.page pageSize k mainRAM ≠
            Pages.page pageSize k baseMainRAM).flatMap
            fun k => Pages.page pageSize k baseMainRAM } := by
  induction ks generalizing checkpoint with
  | nil => simp
  | cons k ks ih =>
    rw [List.foldl_cons, ih]
    by_cases hk : Pages.page pageSize k mainRAM = Pages.page pageSize k baseMainRAM
    · simp [capturePage, hk]
    · simp [capturePage, hk]

/-- Undoing pages whose bytes are those of `old` copies these pages from `old`. -/
theorem undoPages_eq_copyPages {pageSize : Nat} {old : List UInt8} {pages : List Nat}
    {mainRAM : List UInt8} (hlen : old.length = mainRAM.length)
    (hpages : ∀ k ∈ pages, k * pageSize < mainRAM.length) (done : List UInt8) :
    undoPages pageSize (done ++ pages.flatMap fun k => Pages.page pageSize k old) pages done.length
      mainRAM = (Pages.copyPages pageSize old pages mainRAM, true) := by
  induction pages generalizing mainRAM done with
  | nil => simp [undoPages, Pages.copyPages]
  | cons k pages ih =>
    have hk := hpages k List.mem_cons_self
    have hwrite := Pages.length_writeAt (Pages.page_fits hlen hk)
    have hpages' : ∀ j ∈ pages, j * pageSize <
        (Pages.writeAt mainRAM (k * pageSize) (Pages.page pageSize k old)).length := by
      intro j hj
      rw [hwrite]
      exact hpages j (List.mem_cons_of_mem k hj)
    have hlenPage : min pageSize (mainRAM.length - k * pageSize) =
        (Pages.page pageSize k old).length := by
      rw [Pages.length_page, hlen]
    have hstep := ih (hlen.trans hwrite.symm) hpages' (done ++ Pages.page pageSize k old)
    rw [List.length_append] at hstep
    unfold undoPages
    dsimp only
    rw [List.flatMap_cons, ← List.append_assoc, if_neg (by omega), hlenPage, if_neg]
    · rw [List.append_assoc, List.drop_left, List.take_left, ← List.append_assoc]
      exact hstep
    · simp only [List.length_append]
      omega

/-- The bytes captured against `old` undo the change from `old` to `mainRAM`. -/
theorem undoPages_changedPages {pageSize : Nat} (hsize : 0 < pageSize) {mainRAM old : List UInt8}
    (hlen : old.length = mainRAM.length) :
    undoPages pageSize
      ((Pages.changedPages pageSize mainRAM old).flatMap fun k => Pages.page pageSize k old)
      (Pages.changedPages pageSize mainRAM old) 0 mainRAM = (old, true) := by
  have hlt : ∀ k ∈ Pages.changedPages pageSize mainRAM old, k * pageSize < mainRAM.length := by
    intro k hk
    exact ((Pages.mem_changedPages hsize).mp hk).1
  have hundo := undoPages_eq_copyPages hlen hlt []
  rw [Pages.copyPages_changedPages hsize hlen] at hundo
  exact hundo

/-! ## What a checkpoint is written with -/

/-- The console as the preimage backends rely on it: it has main RAM, and restoring a savestate that
was written without main RAM succeeds and leaves main RAM as it is. -/
structure SkipsMainRAM (console : Console σ β) : Prop where
  ramLength_pos : 0 < console.ramLength
  restored : ∀ s t buffer, console.saveCheckpointBuffer s .skip none = some buffer →
    (console.restoreCheckpointBuffer t buffer none).2 = true ∧
      console.mainRAM (console.restoreCheckpointBuffer t buffer none).1 = console.mainRAM t

theorem deltaMode_of_preimage {context : Context} (h : isPreimageBackend context.config = true) :
    deltaMode context = .preimage := by
  simp [deltaMode, h]

/-- A new checkpoint links to the frame shadow if that one is usable, and is not linked
otherwise. -/
theorem encodeCheckpoint_preimage {context : Context}
    (hpre : isPreimageBackend context.config = true)
    (hsize : 0 < context.config.mainRAMPageSize.toNat) {console : Console σ β} {s : State σ β}
    {frame : Nat} {stored : StoredState β}
    (hshadow : s.store.hasUsableFrameShadow = true →
      s.store.frameShadowMainRAM.length = console.ramLength)
    (h : encodeCheckpoint context console s frame = some stored) :
    stored.mainRAMDelta = false ∧
    (∃ buffer, stored.buffer = some buffer ∧
      console.saveCheckpointBuffer s.console .skip none = some buffer) ∧
    stored.mainRAMFramePreimage = s.store.hasUsableFrameShadow ∧
    (s.store.hasUsableFrameShadow = true → stored.baseFrame = s.store.frameShadowFrame ∧
      undoPages context.config.mainRAMPageSize.toNat stored.mainRAMPreimage
        stored.mainRAMPreimagePages 0 (console.mainRAM s.console) =
          (s.store.frameShadowMainRAM, true)) := by
  have hdelta : context.config.backend ≠ .coreDelta := by
    intro hb
    simp [isPreimageBackend, hb] at hpre
  unfold encodeCheckpoint prepareDeltaSaveLocked Store.prepareSave at h
  rw [deltaMode_of_preimage hpre] at h
  dsimp only at h
  by_cases husable : s.store.hasUsableFrameShadow = true
  · have hlen : s.store.frameShadowMainRAM.length = (console.mainRAM s.console).length := by
      rw [hshadow husable, console.mainRAM_length]
    rw [if_pos husable] at h
    simp only [Bool.false_eq_true, false_and, if_false, captureFramePreimage, Bool.not_true,
      hlen, ne_eq, not_true, foldl_capturePage, mainRAMMode, hpre, if_true, hdelta] at h
    split at h
    · exact absurd h (by simp)
    · next buffer hbuffer =>
      obtain rfl := Option.some.inj h
      refine ⟨rfl, ⟨buffer, rfl, hbuffer⟩, husable.symm, fun _ => ⟨rfl, ?_⟩⟩
      exact undoPages_changedPages hsize hlen
  · rw [if_neg husable] at h
    simp only [Bool.false_eq_true, false_and, if_false, captureFramePreimage, Bool.not_false,
      mainRAMMode, hpre, if_true, hdelta] at h
    split at h
    · exact absurd h (by simp)
    · next buffer hbuffer =>
      obtain rfl := Option.some.inj h
      refine ⟨rfl, ⟨buffer, rfl, hbuffer⟩, ?_, fun hu => absurd hu husable⟩
      simpa using husable

theorem encodeCheckpoint_mainRAMDelta {context : Context}
    (hpre : isPreimageBackend context.config = true) {console : Console σ β} {s : State σ β}
    {frame : Nat} {stored : StoredState β}
    (h : encodeCheckpoint context console s frame = some stored) : stored.mainRAMDelta = false := by
  unfold encodeCheckpoint prepareDeltaSaveLocked Store.prepareSave at h
  rw [deltaMode_of_preimage hpre] at h
  dsimp only at h
  by_cases husable : s.store.hasUsableFrameShadow = true
  · rw [if_pos husable] at h
    simp only [Bool.false_eq_true, false_and, if_false, captureFramePreimage, Bool.not_true,
      foldl_capturePage] at h
    split at h
    · exact absurd h (by simp)
    · next checkpoint hcapture =>
      split at hcapture
      · exact absurd hcapture (by simp)
      · obtain rfl := Option.some.inj hcapture
        dsimp only at h
        split at h
        · exact absurd h (by simp)
        · obtain rfl := Option.some.inj h
          rfl
  · rw [if_neg husable] at h
    simp only [Bool.false_eq_true, false_and, if_false, captureFramePreimage, Bool.not_false,
      if_true] at h
    split at h
    · exact absurd h (by simp)
    · obtain rfl := Option.some.inj h
      rfl

/-! ## The chain of preimages -/

/-- How the checkpoints from frame `since` on hang together: each one is linked to the one before
it, undoing it gives that one's main RAM, and the newest one has the frame of the shadow. Frame 0
stands for no frame and takes no part. -/
structure Chain (context : Context) (console : Console σ β) (store : Store β) (saved : NatMap σ)
    (since : Nat) : Prop where
  base_ge : ∀ (g : Nat) stored, store.states[g]? = some stored → since ≤ g →
    stored.mainRAMFramePreimage = true →
      since ≤ stored.baseFrame ∧ stored.baseFrame ≠ kNoFrame ∧ stored.baseFrame < g
  linked : ∀ (f g : Nat) first stored, store.states[f]? = some first →
    store.states[g]? = some stored →
    since ≤ f → f ≠ kNoFrame → f < g → stored.mainRAMFramePreimage = true ∧
      f ≤ stored.baseFrame ∧ ∃ base, store.states[stored.baseFrame]? = some base
  undo : ∀ (g : Nat) stored, store.states[g]? = some stored → since ≤ g →
    stored.mainRAMFramePreimage = true →
      ∃ old new, saved[stored.baseFrame]? = some old ∧ saved[g]? = some new ∧
        undoPages context.config.mainRAMPageSize.toNat stored.mainRAMPreimage
          stored.mainRAMPreimagePages 0 (console.mainRAM new) = (console.mainRAM old, true)
  buffered : ∀ (g : Nat) stored, store.states[g]? = some stored → since ≤ g →
    ∃ original buffer, saved[g]? = some original ∧ stored.buffer = some buffer ∧
      console.saveCheckpointBuffer original .skip none = some buffer
  shadow_ge : store.frameShadowFrame ≠ kNoFrame → since ≤ store.frameShadowFrame
  shadow_top : ∀ (f : Nat) stored, store.states[f]? = some stored → since ≤ f → f ≠ kNoFrame →
    f ≤ store.frameShadowFrame ∧ ∃ top original, store.states[store.frameShadowFrame]? = some top ∧
      saved[store.frameShadowFrame]? = some original ∧
      store.frameShadowMainRAM = console.mainRAM original

/-- Everything that was written is below frame `n`, and none of it is a delta. -/
structure Bounded (store : Store β) (saved : NatMap σ) (n : Nat) : Prop where
  stored_lt : ∀ (f : Nat) stored, store.states[f]? = some stored → f < n
  delta : ∀ (f : Nat) stored, store.states[f]? = some stored → stored.mainRAMDelta = false
  saved_lt : ∀ (f : Nat) original, saved[f]? = some original → f < n

/-- A checkpoint can be restored, and that gives the main RAM it was written from. -/
def RestoresExactly (context : Context) (console : Console σ β) (s : State σ β) (f : Nat) : Prop :=
  ∃ stored original reverseStates latestMainRAM,
    s.store.states[f]? = some stored ∧ s.saved[f]? = some original ∧
    s.store.buildPreimageRestore f = some (reverseStates, latestMainRAM) ∧
    (restorePreimageState context console s.console stored reverseStates latestMainRAM).2 = true ∧
    console.mainRAM
      (restorePreimageState context console s.console stored reverseStates latestMainRAM).1 =
        console.mainRAM original

section Walk

variable {context : Context} {console : Console σ β} {store : Store β}
  {saved : NatMap σ} {since : Nat}

/-- The walk back reaches every checkpoint of the chain, and undoing what it passed gives that
checkpoint's main RAM. One round is made for each stored frame above the target. -/
theorem Chain.walk (h : Chain context console store saved since) {f : Nat} {first : StoredState β}
    (hf : store.states[f]? = some first) (hsince : since ≤ f) (hne : f ≠ kNoFrame) (rounds : Nat)
    {g : Nat} {stored : StoredState β} {original : σ} (hg : store.states[g]? = some stored)
    (horiginal : saved[g]? = some original) (hfg : f ≤ g)
    (hrounds : keysIn store.states f g < rounds) :
    ∃ reverseStates target, Store.preimageLoop store.states f rounds g = some (f, reverseStates) ∧
      saved[f]? = some target ∧
      undoStates context.config.mainRAMPageSize.toNat reverseStates (console.mainRAM original) =
        (console.mainRAM target, true) := by
  induction rounds generalizing g stored original with
  | zero => omega
  | succ rounds ih =>
    rcases Nat.eq_or_lt_of_le hfg with rfl | hlt
    · refine ⟨[], original, ?_, horiginal, rfl⟩
      unfold Store.preimageLoop
      rw [if_neg (by omega)]
    · obtain ⟨hpre, hbase, base, hstored⟩ := h.linked f g first stored hf hg hsince hne hlt
      obtain ⟨-, hbne, hblt⟩ := h.base_ge g stored hg (by omega) hpre
      obtain ⟨old, new, hold, hnew, hundo⟩ := h.undo g stored hg (by omega) hpre
      rw [horiginal] at hnew
      obtain rfl := Option.some.inj hnew
      have hcount := keysIn_lt_of_key_right hg hlt hblt
      obtain ⟨reverseStates, target, hloop, htarget, hrest⟩ := ih hstored hold hbase (by omega)
      refine ⟨stored :: reverseStates, target, ?_, htarget, ?_⟩
      · have hgo : (!stored.mainRAMFramePreimage || stored.baseFrame == kNoFrame ||
            decide (stored.baseFrame ≥ g)) = false := by
          simp [hpre, hbne, hblt]
        unfold Store.preimageLoop
        rw [if_pos hlt, hg]
        dsimp only
        rw [hgo, hloop]
        rfl
      · unfold undoStates
        rw [hundo]
        exact hrest

/-- The walk back never leaves the chain. -/
theorem Chain.walk_ge (h : Chain context console store saved since) {f : Nat} (rounds : Nat)
    {g last : Nat} {reverseStates : List (StoredState β)} (hg : since ≤ g) (hne : g ≠ kNoFrame)
    (hloop : Store.preimageLoop store.states f rounds g = some (last, reverseStates)) :
    since ≤ last ∧ last ≠ kNoFrame := by
  induction rounds generalizing g reverseStates with
  | zero =>
    simp only [Store.preimageLoop, Option.some.injEq, Prod.mk.injEq] at hloop
    rw [← hloop.1]
    exact ⟨hg, hne⟩
  | succ rounds ih =>
    unfold Store.preimageLoop at hloop
    split at hloop
    · split at hloop
      · exact absurd hloop (by simp)
      · next stored hstored =>
        split at hloop
        · exact absurd hloop (by simp)
        · next hgo =>
          simp only [Bool.or_eq_true, Bool.not_eq_true', beq_iff_eq, decide_eq_true_eq,
            not_or, Bool.not_eq_false] at hgo
          obtain ⟨hbase, hbne, -⟩ := h.base_ge g stored hstored hg hgo.1.1
          split at hloop
          · exact absurd hloop (by simp)
          · next last' rest hrest =>
            simp only [Option.some.injEq, Prod.mk.injEq] at hloop
            obtain ⟨rfl, -⟩ := hloop
            exact ih hbase hbne hrest
    · simp only [Option.some.injEq, Prod.mk.injEq] at hloop
      rw [← hloop.1]
      exact ⟨hg, hne⟩

theorem Chain.of_buildPreimageRestore (h : Chain context console store saved since) {f : Nat}
    {reverseStates : List (StoredState β)} {latestMainRAM : List UInt8}
    (hbuild : store.buildPreimageRestore f = some (reverseStates, latestMainRAM)) :
    since ≤ f ∧ f ≠ kNoFrame := by
  unfold Store.buildPreimageRestore at hbuild
  split at hbuild
  · exact absurd hbuild (by simp)
  · next hhead =>
    push Not at hhead
    split at hbuild
    · exact absurd hbuild (by simp)
    · next last rest hloop =>
      split at hbuild
      · next hlast =>
        rw [← hlast]
        exact h.walk_ge _ (h.shadow_ge hhead.1) hhead.1 hloop
      · exact absurd hbuild (by simp)

/-- Every checkpoint of the chain can be restored exactly. -/
theorem Chain.restoresExactly (hskip : SkipsMainRAM console) {s : State σ β}
    (h : Chain context console s.store s.saved since) {f : Nat} {stored : StoredState β}
    (hf : s.store.states[f]? = some stored) (hsince : since ≤ f) (hne : f ≠ kNoFrame) :
    RestoresExactly context console s f := by
  obtain ⟨hle, top, newest, htop, hnewest, hram⟩ := h.shadow_top f stored hf hsince hne
  have hkeys : keysIn s.store.states f s.store.frameShadowFrame < s.store.states.size + 1 :=
    Nat.lt_succ_of_le (keysIn_le_size _ _ _)
  obtain ⟨reverseStates, target, hloop, htarget, hundo⟩ :=
    h.walk hf hsince hne _ htop hnewest hle hkeys
  obtain ⟨original, buffer, horiginal, hbuffer, hsave⟩ := h.buffered f stored hf hsince
  have hlen : s.store.frameShadowMainRAM.length = console.ramLength := by
    rw [hram, console.mainRAM_length]
  refine ⟨stored, target, reverseStates, s.store.frameShadowMainRAM, hf, htarget, ?_, ?_⟩
  · have hnonempty : s.store.frameShadowMainRAM ≠ [] := by
      intro hnil
      have hpos := hskip.ramLength_pos
      rw [hnil] at hlen
      simp only [List.length_nil] at hlen
      omega
    unfold Store.buildPreimageRestore
    rw [if_neg, hloop]
    · dsimp only
      rw [if_pos rfl]
    · unfold kNoFrame at hne ⊢
      simp only [List.isEmpty_iff, not_or]
      exact ⟨by omega, by omega, hnonempty⟩
  · rw [htarget] at horiginal
    obtain rfl := Option.some.inj horiginal
    have hrestore := hskip.restored target (console.setMainRAM s.console (console.mainRAM target))
      buffer hsave
    rw [console.mainRAM_setMainRAM _ _ (console.mainRAM_length target)] at hrestore
    unfold restorePreimageState
    rw [if_neg (by rw [hlen, console.mainRAM_length]; simp), hram, hundo]
    unfold restoreBuffer
    rw [hbuffer]
    exact hrestore

end Walk

/-! ## Writing a checkpoint -/

section Extend

variable {context : Context} {console : Console σ β} {store : Store β}
  {saved : NatMap σ} {since : Nat}

theorem SkipsMainRAM.mainRAM_ne_nil (hskip : SkipsMainRAM console) (c : σ) :
    console.mainRAM c ≠ [] := by
  intro hnil
  have hlen := console.mainRAM_length c
  have hpos := hskip.ramLength_pos
  rw [hnil] at hlen
  simp only [List.length_nil] at hlen
  omega

/-- A usable shadow is the newest checkpoint of the chain. -/
theorem Chain.of_usable (h : Chain context console store saved since)
    (husable : store.hasUsableFrameShadow = true) :
    store.frameShadowFrame ≠ kNoFrame ∧ since ≤ store.frameShadowFrame ∧
      ∃ top original, store.states[store.frameShadowFrame]? = some top ∧
        saved[store.frameShadowFrame]? = some original ∧
        store.frameShadowMainRAM = console.mainRAM original := by
  simp only [Store.hasUsableFrameShadow, Bool.and_eq_true, bne_iff_ne, ne_eq,
    Option.isSome_iff_exists] at husable
  obtain ⟨⟨hne, -⟩, top, htop⟩ := husable
  have hge := h.shadow_ge hne
  exact ⟨hne, hge, (h.shadow_top _ top htop hge hne).2⟩

/-- If the chain has a checkpoint at all, the shadow is usable. -/
theorem Chain.usable (hskip : SkipsMainRAM console) (h : Chain context console store saved since)
    {f : Nat} {first : StoredState β} (hf : store.states[f]? = some first) (hsince : since ≤ f)
    (hne : f ≠ kNoFrame) : store.hasUsableFrameShadow = true := by
  obtain ⟨hle, top, original, htop, -, hram⟩ := h.shadow_top f first hf hsince hne
  have hnonempty := hskip.mainRAM_ne_nil original
  rw [← hram] at hnonempty
  have hshadow : store.frameShadowFrame ≠ 0 := by
    unfold kNoFrame at hne
    omega
  simp [Store.hasUsableFrameShadow, kNoFrame, hshadow, hnonempty, htop]

/-- A checkpoint later than all others, linked to the shadow if that is usable, extends the
chain. -/
theorem Chain.extend (hskip : SkipsMainRAM console) (h : Chain context console store saved since)
    {n : Nat} (hb : Bounded store saved n) (hsince : since ≤ n) {new : StoredState β} {c : σ}
    (hflag : new.mainRAMFramePreimage = store.hasUsableFrameShadow)
    (hlink : store.hasUsableFrameShadow = true → new.baseFrame = store.frameShadowFrame ∧
      undoPages context.config.mainRAMPageSize.toNat new.mainRAMPreimage new.mainRAMPreimagePages 0
        (console.mainRAM c) = (store.frameShadowMainRAM, true))
    (hbuffer : ∃ buffer, new.buffer = some buffer ∧
      console.saveCheckpointBuffer c .skip none = some buffer) :
    Chain context console
      { store.put n new with frameShadowMainRAM := console.mainRAM c, frameShadowFrame := n }
      (saved.insert n c) since := by
  -- the record of an older frame is as before
  have hsaved : ∀ f original, f < n → saved[f]? = some original →
      (saved.insert n c)[f]? = some original := by
    intro f original hlt hf
    rw [getElem?_insert_eq, if_neg (by omega)]
    exact hf
  have hself : (saved.insert n c)[n]? = some c := by
    rw [getElem?_insert_eq, if_pos rfl]
  constructor
  · intro g stored hg hge hpre
    rw [Store.getElem?_put] at hg
    split at hg
    · next hng =>
      obtain rfl := Option.some.inj hg
      rw [hflag] at hpre
      obtain ⟨hne, hbase, top, -, htop, -⟩ := h.of_usable hpre
      have hlt := hb.stored_lt _ top htop
      rw [(hlink hpre).1]
      exact ⟨hbase, hne, by omega⟩
    · exact h.base_ge g stored hg hge hpre
  · intro f g first stored hf hg hge hne hlt
    rw [Store.getElem?_put] at hf hg
    have hfn : f ≠ n := by
      rintro rfl
      split at hg
      · omega
      · have := hb.stored_lt g stored hg
        omega
    rw [if_neg (Ne.symm hfn)] at hf
    split at hg
    · -- the new checkpoint is linked to the newest of the others
      next hng =>
      obtain rfl := Option.some.inj hg
      have husable := h.usable hskip hf hge hne
      obtain ⟨-, -, top, -, htop, -⟩ := h.of_usable husable
      have htoplt := hb.stored_lt _ top htop
      rw [hflag, (hlink husable).1, Store.getElem?_put, if_neg (by omega)]
      exact ⟨husable, (h.shadow_top f first hf hge hne).1, top, htop⟩
    · obtain ⟨hpre, hle, base, hbase⟩ := h.linked f g first stored hf hg hge hne hlt
      have hbaselt := hb.stored_lt _ base hbase
      refine ⟨hpre, hle, base, ?_⟩
      rw [Store.getElem?_put, if_neg (by omega)]
      exact hbase
  · intro g stored hg hge hpre
    rw [Store.getElem?_put] at hg
    split at hg
    · next hng =>
      subst hng
      obtain rfl := Option.some.inj hg
      rw [hflag] at hpre
      obtain ⟨-, -, top, original, htop, horiginal, hram⟩ := h.of_usable hpre
      refine ⟨original, c, ?_, hself, ?_⟩
      · rw [(hlink hpre).1]
        exact hsaved _ _ (hb.stored_lt _ top htop) horiginal
      · rw [(hlink hpre).2, hram]
    · obtain ⟨old, new', hold, hnew, hundo⟩ := h.undo g stored hg hge hpre
      exact ⟨old, new', hsaved _ _ (hb.saved_lt _ old hold) hold,
        hsaved _ _ (hb.saved_lt _ new' hnew) hnew, hundo⟩
  · intro g stored hg hge
    rw [Store.getElem?_put] at hg
    split at hg
    · next hng =>
      subst hng
      obtain rfl := Option.some.inj hg
      obtain ⟨buffer, hbuf, hsave⟩ := hbuffer
      exact ⟨c, buffer, hself, hbuf, hsave⟩
    · obtain ⟨original, buffer, horiginal, hbuf, hsave⟩ := h.buffered g stored hg hge
      exact ⟨original, buffer, hsaved _ _ (hb.saved_lt _ original horiginal) horiginal, hbuf, hsave⟩
  · intro _
    exact hsince
  · intro f stored hf _ _
    have hfn : f ≤ n := by
      rw [Store.getElem?_put] at hf
      split at hf
      · omega
      · exact le_of_lt (hb.stored_lt f stored hf)
    refine ⟨hfn, new, c, ?_, hself, rfl⟩
    rw [Store.getElem?_put, if_pos rfl]

/-- Pruning removes the old end of the chain. -/
theorem Chain.prune (h : Chain context console store saved since)
    (hdelta : ∀ (f : Nat) stored, store.states[f]? = some stored → stored.mainRAMDelta = false)
    (currentFrame window : Nat) (hshadow : store.frameShadowFrame = currentFrame) :
    Chain context console (store.prune currentFrame window) saved since := by
  have hwindow := Store.keepFrom_le currentFrame window
  have hkept : ∀ (f : Nat) stored, (store.prune currentFrame window).states[f]? = some stored →
      Store.keepFrom currentFrame window ≤ f := by
    intro f stored hf
    rcases Store.keepFrom_le_of_prune hdelta hf with hle | rfl
    · exact hle
    · omega
  constructor
  · intro g stored hg
    exact h.base_ge g stored (Store.getElem?_of_prune hg)
  · intro f g first stored hf hg hge hne hlt
    obtain ⟨hpre, hle, base, hbase⟩ := h.linked f g first stored (Store.getElem?_of_prune hf)
      (Store.getElem?_of_prune hg) hge hne hlt
    refine ⟨hpre, hle, base, ?_⟩
    rw [Store.getElem?_prune_of_keepFrom_le (le_trans (hkept f first hf) hle)]
    exact hbase
  · intro g stored hg
    exact h.undo g stored (Store.getElem?_of_prune hg)
  · intro g stored hg
    exact h.buffered g stored (Store.getElem?_of_prune hg)
  · exact h.shadow_ge
  · intro f stored hf hge hne
    obtain ⟨hle, top, original, htop, horiginal, hram⟩ :=
      h.shadow_top f stored (Store.getElem?_of_prune hf) hge hne
    refine ⟨hle, top, original, ?_, horiginal, hram⟩
    rw [Store.prune_frameShadowFrame, Store.getElem?_prune_of_keepFrom_le (by omega)]
    exact htop

theorem Bounded.mono {m n : Nat} (h : Bounded store saved m) (hmn : m ≤ n) :
    Bounded store saved n :=
  ⟨fun f stored hf => lt_of_lt_of_le (h.stored_lt f stored hf) hmn, h.delta,
    fun f original hf => lt_of_lt_of_le (h.saved_lt f original hf) hmn⟩

end Extend

section Write

variable {context : Context} {console : Console σ β} {s : State σ β} {since : Nat}

theorem refreshFrameShadowLocked_of_preimage (hpre : isPreimageBackend context.config = true)
    (hskip : SkipsMainRAM console) (store : Store β) (frame : Nat) (c : σ) :
    refreshFrameShadowLocked context store frame (console.mainRAM c) =
      { store with frameShadowMainRAM := console.mainRAM c, frameShadowFrame := frame } := by
  unfold refreshFrameShadowLocked Store.updateFrameShadow
  rw [if_neg (by simp [hpre]), if_neg (by simpa using hskip.mainRAM_ne_nil c)]

/-- A checkpoint below the bound stays below it. -/
theorem Bounded.writeCheckpoint (hpre : isPreimageBackend context.config = true)
    (hskip : SkipsMainRAM console) {n : Nat} (h : Bounded s.store s.saved n) {frame : Nat}
    (hframe : frame < n) :
    Bounded (writeCheckpoint context console s frame).store
      (writeCheckpoint context console s frame).saved n := by
  unfold RollbackRuntime.writeCheckpoint
  split
  · exact h
  · next stored hstored =>
    unfold pruneHistoryLocked
    dsimp only
    rw [refreshFrameShadowLocked_of_preimage hpre hskip]
    have hput : ∀ (f : Nat) other, (s.store.put frame stored).states[f]? = some other →
        f < n ∧ other.mainRAMDelta = false := by
      intro f other hf
      rw [Store.getElem?_put] at hf
      split at hf
      · obtain rfl := Option.some.inj hf
        exact ⟨by omega, encodeCheckpoint_mainRAMDelta hpre hstored⟩
      · exact ⟨h.stored_lt f other hf, h.delta f other hf⟩
    constructor
    · intro f other hf
      have hbefore := Store.getElem?_of_prune hf
      exact (hput f other hbefore).1
    · intro f other hf
      have hbefore := Store.getElem?_of_prune hf
      exact (hput f other hbefore).2
    · intro f original hf
      rw [getElem?_insert_eq] at hf
      split at hf
      · omega
      · exact h.saved_lt f original hf

/-- A checkpoint of a frame that is later than all others keeps the chain. -/
theorem Chain.writeCheckpoint (hpre : isPreimageBackend context.config = true)
    (hsize : 0 < context.config.mainRAMPageSize.toNat) (hskip : SkipsMainRAM console)
    (h : Chain context console s.store s.saved since) {n : Nat} (hb : Bounded s.store s.saved n)
    (hsince : since ≤ n) :
    Chain context console (writeCheckpoint context console s n).store
      (writeCheckpoint context console s n).saved since := by
  unfold RollbackRuntime.writeCheckpoint
  split
  · exact h
  · next new hnew =>
    have hlength : s.store.hasUsableFrameShadow = true →
        s.store.frameShadowMainRAM.length = console.ramLength := by
      intro husable
      obtain ⟨-, -, -, original, -, -, hram⟩ := h.of_usable husable
      rw [hram, console.mainRAM_length]
    obtain ⟨-, hbuffer, hflag, hlink⟩ := encodeCheckpoint_preimage hpre hsize hlength hnew
    have hextend := h.extend hskip hb hsince hflag hlink hbuffer
    unfold pruneHistoryLocked
    dsimp only
    rw [refreshFrameShadowLocked_of_preimage hpre hskip]
    refine hextend.prune ?_ n _ rfl
    intro f stored hf
    rw [Store.getElem?_put] at hf
    split at hf
    · obtain rfl := Option.some.inj hf
      exact encodeCheckpoint_mainRAMDelta hpre hnew
    · exact hb.delta f stored hf

end Write

/-! ## Correcting -/

section Correct

variable {context : Context} {console : Console σ β} {since n : Nat}

/-- The replay writes checkpoints of frames before the current one only. -/
theorem Bounded.resimulateFrames (hpre : isPreimageBackend context.config = true)
    (hskip : SkipsMainRAM console) (frames : List Nat) (s : State σ β)
    (h : Bounded s.store s.saved n) :
    Bounded (resimulateFrames context console n frames s).1.store
      (resimulateFrames context console n frames s).1.saved n := by
  induction frames generalizing s with
  | nil => exact h
  | cons resimFrame frames ih =>
    obtain ⟨inputs, -, -, heq⟩ := resimulateFrame_eq console context n s resimFrame
    unfold RollbackRuntime.resimulateFrames
    rw [heq]
    dsimp only
    split
    · exact h
    · next t ht =>
      apply ih t
      split at ht
      · next hsave =>
        obtain rfl := Option.some.inj ht
        have hlt : resimFrame + 1 < n := by
          simp only [shouldSaveResimulationCheckpoint, Bool.and_eq_true, decide_eq_true_eq] at hsave
          exact hsave.1
        unfold saveCheckpointNowLocked
        split
        · exact h
        · split
          · exact h
          · refine Bounded.writeCheckpoint hpre hskip ?_ hlt
            exact h
      · obtain rfl := Option.some.inj ht
        exact h

/-- Right after a correction the chain is empty: no checkpoint is as late as the current frame. -/
theorem Chain.of_bounded {store : Store β} {saved : NatMap σ} (h : Bounded store saved n)
    (hshadow : store.frameShadowFrame = n) : Chain context console store saved n := by
  have hnone : ∀ (f : Nat) stored, store.states[f]? = some stored → ¬ n ≤ f := by
    intro f stored hf
    have hlt := h.stored_lt f stored hf
    omega
  constructor
  · intro g stored hg hge
    exact absurd hge (hnone g stored hg)
  · intro f g first stored hf _ hge
    exact absurd hge (hnone f first hf)
  · intro g stored hg hge
    exact absurd hge (hnone g stored hg)
  · intro g stored hg hge
    exact absurd hge (hnone g stored hg)
  · intro _
    omega
  · intro f stored hf hge
    exact absurd hge (hnone f stored hf)

theorem Bounded.eraseAfter {store : Store β} {saved : NatMap σ} (h : Bounded store saved n)
    (frame : Nat) : Bounded (store.eraseAfter frame) saved n := by
  have hbefore : ∀ (f : Nat) stored, (store.eraseAfter frame).states[f]? = some stored →
      store.states[f]? = some stored := by
    intro f stored hf
    rw [Store.getElem?_eraseAfter] at hf
    split at hf
    · exact hf
    · exact absurd hf (by simp)
  exact ⟨fun f stored hf => h.stored_lt f stored (hbefore f stored hf),
    fun f stored hf => h.delta f stored (hbefore f stored hf), h.saved_lt⟩

/-- A replay up to the current frame succeeds, and starts a new chain there. -/
theorem Chain.replayFrom (hpre : isPreimageBackend context.config = true)
    (hskip : SkipsMainRAM console) (s : State σ β) (h : Bounded s.store s.saved n)
    (restoreFrame : Nat) (restored : σ) :
    (replayFrom context console s restoreFrame n restored).2 = true ∧
      Bounded (replayFrom context console s restoreFrame n restored).1.store
        (replayFrom context console s restoreFrame n restored).1.saved n ∧
      Chain context console (replayFrom context console s restoreFrame n restored).1.store
        (replayFrom context console s restoreFrame n restored).1.saved n := by
  unfold RollbackRuntime.replayFrom
  rw [refreshFrameShadowLocked_of_preimage hpre hskip]
  dsimp only
  have hstart : Bounded { s.store with
      frameShadowMainRAM := console.mainRAM restored
      frameShadowFrame := restoreFrame } s.saved n :=
    ⟨h.stored_lt, h.delta, h.saved_lt⟩
  have hreplay := Bounded.resimulateFrames hpre hskip (List.range' restoreFrame (n - restoreFrame))
    { s with
      console := restored
      store := { s.store with
        frameShadowMainRAM := console.mainRAM restored, frameShadowFrame := restoreFrame } } hstart
  have hend := resimulateFrames_snd context console n (List.range' restoreFrame (n - restoreFrame))
    { s with
      console := restored
      store := { s.store with
        frameShadowMainRAM := console.mainRAM restored, frameShadowFrame := restoreFrame } }
  split
  · next t ht =>
    rw [ht] at hend
    exact absurd hend (by simp)
  · next t ht =>
    rw [ht] at hreplay
    rw [refreshFrameShadowLocked_of_preimage hpre hskip]
    have hrefreshed : Bounded { t.store with
        frameShadowMainRAM := console.mainRAM t.console, frameShadowFrame := n } t.saved n :=
      ⟨hreplay.stored_lt, hreplay.delta, hreplay.saved_lt⟩
    exact ⟨rfl, hrefreshed, Chain.of_bounded hrefreshed rfl⟩

/-- A correction that is carried out starts a new chain at the current frame; otherwise the chain is
as before. -/
theorem Chain.resimulateIfNeeded (hpre : isPreimageBackend context.config = true)
    (hskip : SkipsMainRAM console) {s : State σ β} (h : Chain context console s.store s.saved since)
    (hb : Bounded s.store s.saved n) :
    Bounded (resimulateIfNeeded context console s n).1.store
        (resimulateIfNeeded context console s n).1.saved n ∧
      Chain context console (resimulateIfNeeded context console s n).1.store
        (resimulateIfNeeded context console s n).1.saved
        (if (resimulateIfNeeded context console s n).2 then n else since) := by
  rcases resimulateIfNeeded_cases context console s n with
    ⟨inputs, heq⟩ | ⟨inputs, mismatchFrame, restoreFrame, stored, restored,
      success, hlatest, hrestore,
      heq⟩
  · rw [heq]
    exact ⟨hb, h⟩
  · obtain ⟨hstored, -⟩ := Store.latestAtOrBefore_eq_some hlatest
    -- a walk that reaches the checkpoint restores it, so the restore cannot fail
    have hsuccess : success = true := by
      unfold restoreCheckpoint at hrestore
      rw [hpre] at hrestore
      simp only [if_true] at hrestore
      cases hbuild : s.store.buildPreimageRestore restoreFrame with
      | none =>
        rw [hbuild] at hrestore
        exact absurd hrestore (by simp)
      | some built =>
        rw [hbuild] at hrestore
        obtain ⟨hsince, hne⟩ := h.of_buildPreimageRestore hbuild
        obtain ⟨stored', original, reverse, latest, hstored', -, hbuild', htrue, -⟩ :=
          h.restoresExactly hskip hstored hsince hne
        rw [hstored] at hstored'
        obtain rfl := Option.some.inj hstored'
        rw [hbuild] at hbuild'
        obtain rfl := Option.some.inj hbuild'
        have hpair := Option.some.inj hrestore
        rw [hpair] at htrue
        exact htrue
    obtain ⟨htrue, hbounded, hchain⟩ := Chain.replayFrom hpre hskip
      { s with inputs := inputs, store := s.store.eraseAfter restoreFrame }
      (hb.eraseAfter restoreFrame) restoreFrame restored
    rw [heq, hsuccess]
    simp only [Bool.not_true, Bool.false_eq_true, if_false]
    rw [htrue]
    exact ⟨hbounded, hchain⟩

end Correct

/-! ## Whole runs -/

/-- The frame loop with the order of its calls: a correction comes before the checkpoint of a frame,
every frame is saved once before it runs. `lastCorrection` is the frame at which a correction was
last carried out. -/
structure Pipeline (σ β : Type) where
  session : Session σ β
  savedThisFrame : Bool := false
  lastCorrection : Nat := 0

namespace Pipeline

variable (context : Context) (console : Console σ β) (delay : Nat)

/-- One step of a frame; `none` where it is not its turn. -/
def step (s : Pipeline σ β) : SessionOp → Option (Pipeline σ β)
  | .resimulate =>
    if s.savedThisFrame then none
    else
      let corrected :=
        (resimulateIfNeeded context console s.session.state s.session.currentFrame).2
      some { s with
        session := s.session.step context console delay .resimulate
        lastCorrection := if corrected then s.session.currentFrame else s.lastCorrection }
  | .saveCheckpoint =>
    if s.savedThisFrame then none
    else some { s with
      session := s.session.step context console delay .saveCheckpoint, savedThisFrame := true }
  | .storeRemote arrival fromPumpThread =>
    some { s with
      session := s.session.step context console delay (.storeRemote arrival fromPumpThread) }
  | .runFrame polled late =>
    if s.savedThisFrame then
      some { s with
        session := s.session.step context console delay (.runFrame polled late)
        savedThisFrame := false }
    else none

/-- The chain since the last correction, and the bound on what has been written. -/
structure Inv (s : Pipeline σ β) : Prop where
  chain : Chain context console s.session.state.store s.session.state.saved s.lastCorrection
  bounded : Bounded s.session.state.store s.session.state.saved
    (if s.savedThisFrame then s.session.currentFrame + 1 else s.session.currentFrame)
  lastCorrection_le : s.lastCorrection ≤ s.session.currentFrame

variable {context console delay}

theorem Inv.saveCheckpoint (hpre : isPreimageBackend context.config = true)
    (hsize : 0 < context.config.mainRAMPageSize.toNat) (hskip : SkipsMainRAM console)
    {s : Pipeline σ β} (h : s.Inv context console) (hsaved : s.savedThisFrame = false) :
    Inv context console { s with
      session := s.session.step context console delay .saveCheckpoint
      savedThisFrame := true } := by
  have hb := h.bounded
  rw [hsaved] at hb
  simp only [Bool.false_eq_true, if_false] at hb
  have hnext := hb.mono (Nat.le_succ s.session.currentFrame)
  have hchain := h.chain.writeCheckpoint hpre hsize hskip hb h.lastCorrection_le
  have hbounded := Bounded.writeCheckpoint hpre hskip hnext
    (Nat.lt_succ_self s.session.currentFrame)
  unfold Session.step saveCheckpointIfNeeded
  refine ⟨?_, ?_, h.lastCorrection_le⟩
  · dsimp only
    split
    · exact h.chain
    · split
      · exact h.chain
      · exact hchain
  · dsimp only
    simp only [if_true]
    split
    · exact hnext
    · split
      · exact hnext
      · exact hbounded

theorem Inv.step (hpre : isPreimageBackend context.config = true)
    (hsize : 0 < context.config.mainRAMPageSize.toNat) (hskip : SkipsMainRAM console)
    (s : Pipeline σ β) (op : SessionOp) (t : Pipeline σ β) (h : s.Inv context console)
    (hstep : s.step context console delay op = some t) : t.Inv context console := by
  cases op with
  | resimulate =>
    simp only [Pipeline.step] at hstep
    split at hstep
    · exact absurd hstep (by simp)
    · next hsaved =>
      obtain rfl := Option.some.inj hstep
      have hb := h.bounded
      simp only [hsaved, Bool.false_eq_true, if_false] at hb
      obtain ⟨hbounded, hchain⟩ := h.chain.resimulateIfNeeded hpre hskip hb
      refine ⟨hchain, ?_, ?_⟩
      · simp only [hsaved, Bool.false_eq_true, if_false]
        exact hbounded
      · dsimp only [Session.step]
        split
        · exact le_refl _
        · exact h.lastCorrection_le
  | saveCheckpoint =>
    simp only [Pipeline.step] at hstep
    split at hstep
    · exact absurd hstep (by simp)
    · next hsaved =>
      obtain rfl := Option.some.inj hstep
      exact h.saveCheckpoint hpre hsize hskip (by simpa using hsaved)
  | storeRemote arrival fromPumpThread =>
    obtain rfl := Option.some.inj hstep
    exact ⟨h.chain, h.bounded, h.lastCorrection_le⟩
  | runFrame polled late =>
    simp only [Pipeline.step] at hstep
    split at hstep
    · next hsaved =>
      obtain rfl := Option.some.inj hstep
      have hb := h.bounded
      rw [if_pos hsaved] at hb
      exact ⟨h.chain, hb, le_trans h.lastCorrection_le (Nat.le_succ _)⟩
    · exact absurd hstep (by simp)

/-- In every reachable state, a stored checkpoint can be restored to the main RAM it was written
from if and only if it is not older than the last correction and not of frame 0. -/
theorem restoresExactly_iff (context : Context) (hpre : isPreimageBackend context.config = true)
    (hsize : 0 < context.config.mainRAMPageSize.toNat) (console : Console σ β)
    (hskip : SkipsMainRAM console) (delay : Nat) (inputs : InputTimeline.Runtime) (initial : σ)
    (start : Nat) (ops : List SessionOp) (s : Pipeline σ β)
    (hrun : Run.run (Pipeline.step context console delay)
      { session := {
          state := { inputs := inputs, console := initial }, currentFrame := start } } ops = some s)
    (f : Nat) (hf : (s.session.state.store.states[f]?).isSome) :
    RestoresExactly context console s.session.state f ↔ f ≠ kNoFrame ∧ s.lastCorrection ≤ f := by
  have hinit : Inv context console ({ session := {
      state := { inputs := inputs, console := initial }, currentFrame := start } } :
        Pipeline σ β) := by
    refine ⟨⟨?_, ?_, ?_, ?_, ?_, ?_⟩, ⟨?_, ?_, ?_⟩, Nat.zero_le _⟩ <;> simp
  have hinv : s.Inv context console :=
    Run.run_invariant' (Inv.step hpre hsize hskip) hinit hrun
  obtain ⟨stored, hstored⟩ := Option.isSome_iff_exists.mp hf
  constructor
  · rintro ⟨-, -, reverseStates, latestMainRAM, -, -, hbuild, -⟩
    obtain ⟨hsince, hne⟩ := hinv.chain.of_buildPreimageRestore hbuild
    exact ⟨hne, hsince⟩
  · rintro ⟨hne, hsince⟩
    exact hinv.chain.restoresExactly hskip hstored hsince hne

/-- A console with one byte of main RAM, which counts the presses of A by player 1. -/
def byteConsole : Console UInt8 Unit where
  ramLength := 1
  mainRAM := fun s => [s]
  setMainRAM := fun s ram => ram.headD s
  saveCheckpointBuffer := fun _ _ _ => some ()
  restoreCheckpointBuffer := fun s _ _ => (s, true)
  runFrame := fun s players => if (players 1).keyMask = 0xFFE then s + 1 else s
  mainRAM_length := fun _ => rfl
  mainRAM_setMainRAM := by
    intro s ram h
    obtain ⟨x, rfl⟩ := List.length_eq_one_iff.mp h
    rfl

theorem byteConsole_skipsMainRAM : SkipsMainRAM byteConsole :=
  ⟨Nat.one_pos, fun _ _ _ _ => ⟨rfl, rfl⟩⟩

/-- A session with the preimage backend and the default window. -/
def preimageContext : Context where
  config := { enabled := true, resimulate := true, backend := .corePreimage }
  localPlayer := 0

/-- The frames 1 and 2 are run on predictions, frame 1 is confirmed differently, and frame 3 begins
with the correction. -/
def correctedFrame : List SessionOp :=
  [.saveCheckpoint, .runFrame {} [], .resimulate, .saveCheckpoint, .runFrame {} [],
    .storeRemote ⟨1, { keyMask := 0xFFE }⟩ false, .resimulate, .saveCheckpoint]

/-- The checkpoint of frame 3, written right after the correction, is restorable. -/
theorem restoresExactly_iff_correctedFrame :
    ∃ s, Run.run (Pipeline.step preimageContext byteConsole 0)
        { session := { state := { console := 0 }, currentFrame := 1 } } correctedFrame = some s ∧
      s.lastCorrection = 3 ∧ RestoresExactly preimageContext byteConsole s.session.state 3 := by
  refine ⟨_, rfl, by decide +kernel, ?_⟩
  refine (restoresExactly_iff preimageContext rfl (by decide) byteConsole byteConsole_skipsMainRAM
    0 {} 0 1 correctedFrame _ rfl 3 (by decide +kernel)).mpr ⟨by decide, ?_⟩
  decide +kernel

/-- The checkpoint of frame 2, which is in the window, is not: the walk starts at frame 3, whose
checkpoint is not linked to any other. -/
theorem correctedFrame_not_restorable :
    ∃ s, Run.run (Pipeline.step preimageContext byteConsole 0)
        { session := { state := { console := 0 }, currentFrame := 1 } } correctedFrame = some s ∧
      (s.session.state.store.states[2]?).isSome ∧
      Store.keepFrom s.session.currentFrame (windowFrames preimageContext.config) ≤ 2 ∧
      s.session.state.store.buildPreimageRestore 2 = none ∧
      ¬ RestoresExactly preimageContext byteConsole s.session.state 2 := by
  refine ⟨_, rfl, by decide +kernel, by decide +kernel, by decide +kernel, ?_⟩
  rintro ⟨-, -, reverseStates, latestMainRAM, -, -, hbuild, -⟩
  have hnone := hbuild.symm.trans (by decide +kernel : _ = none)
  exact absurd hnone (by simp)

end Pipeline

end Bigstar.Netplay.RollbackRuntime
