import Bigstar.Netplay.Proofs.SettledFrameProofs
import Bigstar.Netplay.Proofs.TickSampleProofs

/-!
# Only confirmed states are published

A sample is written out when its frame is settled, and a settled frame is never reached by a
correction again. So every row of the file is the state of the game under the confirmed inputs, for
good, as long as the corrections that are due are carried out.
-/

namespace Bigstar.Netplay.RollbackTickTrace

open OrderedMap InputTimeline RollbackStorage RollbackRuntime GameRAMRollback RomLoop

variable {S T : Type} {guest : Guest S (Fin 2 → InputState)} {readGameStateSample : S → T}
  {start : Started} {generation : Nat} {initial : S} {truth : Nat → InputState}

/-! ## The file -/

/-- What lies in the file lies before what is still pending. -/
structure Filed (trace : Trace T) : Prop where
  last_eq : trace.writer.lastWrittenFrame = trace.writtenThrough
  pending_gt : ∀ (f : Nat) x, trace.pending[f]? = some x → trace.writtenThrough < f
  rows_le : ∀ row ∈ trace.writer.rows, row.1 ≤ trace.writtenThrough
  rows_sorted : trace.writer.rows.Pairwise fun a b => a.1 < b.1

theorem Filed.sameFile {trace trace' : Trace T} (h : Filed trace) (hsame : SameFile trace trace') :
    Filed trace' := by
  obtain ⟨-, hthrough, hwriter, -, hpending⟩ := hsame
  refine ⟨?_, fun f x hx => ?_, ?_, ?_⟩
  · rw [hwriter, hthrough]
    exact h.last_eq
  · rw [hthrough]
    rcases hpending f x hx with hold | hnew
    · exact h.pending_gt f x hold
    · exact hnew
  · rw [hwriter, hthrough]
    exact h.rows_le
  · rw [hwriter]
    exact h.rows_sorted

/-- Some pending samples have been moved to the file. -/
structure Moved (trace : Trace T) (rows : List (Nat × T)) (trace' : Trace T) : Prop where
  filed : Filed trace'
  rows_eq : trace'.writer.rows = trace.writer.rows ++ rows
  generation_eq : trace'.generation = trace.generation
  callback_eq : trace'.callback = trace.callback
  pending_of : ∀ (f : Nat) x, trace'.pending[f]? = some x → trace.pending[f]? = some x

theorem Filed.moved_nil {trace : Trace T} (h : Filed trace) : Moved trace [] trace :=
  ⟨h, (List.append_nil _).symm, rfl, rfl, fun _ _ => id⟩

/-- The first of the pending samples is moved. -/
theorem Filed.publish {trace : Trace T} (h : Filed trace) (hopen : trace.writer.isOpen = true)
    {row : Nat × T} (hrow : trace.pending[row.1]? = some row.2)
    (hfirst : ∀ (f : Nat) x, trace.pending[f]? = some x → row.1 ≤ f) :
    Moved trace [row] (trace.publish row) := by
  have hgt := h.pending_gt row.1 row.2 hrow
  have hwrite : (trace.publish row).writer =
      { trace.writer with
        lastWrittenFrame := row.1, rows := trace.writer.rows ++ [(row.1, row.2)] } := by
    have hlast : trace.writer.lastWrittenFrame ≠ row.1 := by
      rw [h.last_eq]
      omega
    unfold Trace.publish Writer.write
    dsimp only
    rw [if_neg (by simp [hopen, hlast])]
  have hpending : ∀ (f : Nat) x, (trace.publish row).pending[f]? = some x →
      trace.pending[f]? = some x ∧ row.1 ≠ f := by
    intro f x hx
    change (trace.pending.erase row.1)[f]? = some x at hx
    rw [getElem?_erase_eq] at hx
    split at hx
    · exact absurd hx (by simp)
    · next hne => exact ⟨hx, hne⟩
  refine ⟨⟨?_, fun f x hx => ?_, ?_, ?_⟩, by rw [hwrite], rfl, rfl, fun f x hx =>
    (hpending f x hx).1⟩
  · rw [hwrite]
    rfl
  · obtain ⟨hold, hne⟩ := hpending f x hx
    exact Nat.lt_of_le_of_ne (hfirst f x hold) hne
  · rw [hwrite]
    intro r hr
    rcases List.mem_append.mp hr with hold | hnew
    · exact Nat.le_of_lt (Nat.lt_of_le_of_lt (h.rows_le r hold) hgt)
    · rw [List.mem_singleton.mp hnew]
      exact Nat.le_refl _
  · rw [hwrite]
    refine List.pairwise_append.mpr
      ⟨h.rows_sorted, List.pairwise_singleton _ _, fun a ha b hb => ?_⟩
    rw [List.mem_singleton.mp hb]
    exact Nat.lt_of_le_of_lt (h.rows_le a ha) hgt

theorem Moved.trans {a b c : Trace T} {rows rows' : List (Nat × T)} (h : Moved a rows b)
    (h' : Moved b rows' c) : Moved a (rows ++ rows') c :=
  ⟨h'.filed, by rw [h'.rows_eq, h.rows_eq, List.append_assoc],
    h'.generation_eq.trans h.generation_eq,
    h'.callback_eq.trans h.callback_eq, fun f x hx => h.pending_of f x (h'.pending_of f x hx)⟩

/-- The loop moves the first samples, in ascending order. -/
theorem Filed.publishAll {trace : Trace T} (h : Filed trace) (hopen : trace.writer.isOpen = true)
    {rows : List (Nat × T)} (hsorted : rows.Pairwise fun a b => a.1 < b.1)
    (hrows : ∀ row ∈ rows, trace.pending[row.1]? = some row.2)
    (hrest : ∀ (f : Nat) x, trace.pending[f]? = some x → (f, x) ∈ rows ∨ ∀ row ∈ rows, row.1 < f) :
    Moved trace rows (rows.foldl Trace.publish trace) := by
  induction rows generalizing trace with
  | nil => exact h.moved_nil
  | cons row rows ih =>
    obtain ⟨hbefore, hsorted⟩ := List.pairwise_cons.mp hsorted
    have hfirst : ∀ (f : Nat) x, trace.pending[f]? = some x → row.1 ≤ f := by
      intro f x hx
      rcases hrest f x hx with hmem | hall
      · rcases List.mem_cons.mp hmem with heq | hmem
        · rw [← heq]
        · exact Nat.le_of_lt (hbefore (f, x) hmem)
      · exact Nat.le_of_lt (hall row List.mem_cons_self)
    have hmoved := h.publish hopen (hrows row List.mem_cons_self) hfirst
    have hlookup : ∀ f : Nat, (trace.publish row).pending[f]? = if row.1 = f then
        none else trace.pending[f]? :=
      fun f => getElem?_erase_eq trace.pending row.1 f
    have hwriter : (trace.publish row).writer.isOpen = true := by
      unfold Trace.publish Writer.write
      dsimp only
      split
      · exact hopen
      · exact hopen
    refine hmoved.trans (ih hmoved.filed hwriter hsorted ?_ ?_)
    · intro r hr
      rw [hlookup, if_neg (Nat.ne_of_lt (hbefore r hr))]
      exact hrows r (List.mem_cons_of_mem _ hr)
    · intro f x hx
      rw [hlookup] at hx
      split at hx
      · exact absurd hx (by simp)
      · next hne =>
        rcases hrest f x hx with hmem | hall
        · rcases List.mem_cons.mp hmem with heq | hmem
          · exact absurd (congrArg Prod.fst heq).symm hne
          · exact Or.inl hmem
        · exact Or.inr fun r hr => hall r (List.mem_cons_of_mem _ hr)

theorem pairwise_toList (m : NatMap T) : m.toList.Pairwise fun a b => a.1 < b.1 := by
  have hkeys := pairwise_keys m
  rw [← Std.ExtTreeMap.map_fst_toList_eq_keys] at hkeys
  exact List.pairwise_map.mp hkeys

/-- A flush moves samples that may be published. -/
theorem Filed.flush {trace : Trace T} (h : Filed trace) (generation : Nat) (inFlight : Bool)
    (inputs : InputTimeline.Runtime) :
    ∃ rows, Moved trace rows (trace.flush generation inFlight inputs) ∧
      ∀ row ∈ rows, trace.pending[row.1]? = some row.2 ∧
        ∃ through, Trace.publishableThrough inputs = some through ∧ row.1 ≤ through := by
  unfold Trace.flush
  split
  · exact ⟨[], h.moved_nil, by simp⟩
  · next hopen =>
    split
    · exact ⟨[], h.moved_nil, by simp⟩
    · next through hthrough =>
      simp only [Bool.or_eq_true, not_or, Bool.not_eq_true', Bool.not_eq_false] at hopen
      have hmem : ∀ row : Nat × T, row ∈ (trace.pending.eraseAfter through).toList ↔
          trace.pending[row.1]? = some row.2 ∧ row.1 ≤ through := by
        intro row
        rw [Std.ExtTreeMap.mem_toList_iff_getElem?_eq_some, getElem?_eraseAfter]
        split
        · next hle => exact ⟨fun hx => ⟨hx, hle⟩, And.left⟩
        · next hgt => exact ⟨fun hx => absurd hx (by simp), fun hx => absurd hx.2 hgt⟩
      refine ⟨_, h.publishAll hopen.1.1 (pairwise_toList _)
        (fun row hrow => ((hmem row).mp hrow).1) ?_,
        fun row hrow => ⟨((hmem row).mp hrow).1, through, hthrough, ((hmem row).mp hrow).2⟩⟩
      intro f x hx
      by_cases hle : f ≤ through
      · exact Or.inl ((hmem (f, x)).mpr ⟨hx, hle⟩)
      · exact Or.inr fun row hrow => Nat.lt_of_le_of_lt ((hmem row).mp hrow).2 (Nat.not_le.mp hle)

/-! ## One frame -/

theorem frame_eq_map (guest : Guest S (Fin 2 → InputState)) (start : Started)
    (s : RomLoop.Session S) (event : FrameEvent) : RomLoop.frame guest start s event =
      (beforeRunFrame start s event).map fun r => afterRunFrame guest start r event := by
  unfold RomLoop.frame beforeRunFrame
  dsimp only
  split
  · rfl
  · split
    · rfl
    · cases resimulateIfNeeded start _ _ _ with
      | none => rfl
      | some r => rfl

theorem beforeRunFrame_eq_some {s r : RomLoop.Session S} {event : FrameEvent}
    (hready : start.localReadyFrame ≤ s.rawFrame) (hframe : s.frame start ≤ u32Max)
    (h : beforeRunFrame start s event = some r) :
    s.frame start < u32Max ∧
      resimulateIfNeeded start (plannedSession start s event)
        (s.frame start) event.beforeArm = some r := by
  unfold beforeRunFrame at h
  rw [logicalFrame_eq hready hframe] at h
  dsimp only at h
  split at h
  · exact absurd h (by simp)
  · next hlt =>
    split at h
    · exact absurd h (by simp)
    · exact ⟨Nat.not_le.mp hlt, h⟩

/-- After `ResimulateIfNeeded` the console is about to run the frame normally, or a correction is
armed that replaces the inputs from the pending rollback on. -/
theorem ready_or_armed {s r : RomLoop.Session S} (h : RomLoop.Inv guest start initial true s)
    (hactive : Active start.config) (hreliable : Reliable guest initial) {event : FrameEvent}
    (hn : s.frame start < u32Max)
    (htrack : Tracking start truth (plannedSession start s event).inputs
      (plannedSession start s event).used (s.frame start + 1) (s.frame start + 1))
    (hplanned : Planned start (plannedSession start s event).inputs.rollbackInputs (s.frame start))
    (hr : Resimulated start (plannedSession start s event) (s.frame start) event.beforeArm r) :
    (Ready (playthrough guest start initial r.used) r.nds (s.frame start) ∧
      r.used = (plannedSession start s event).used) ∨
    ∃ m, (plannedSession start s event).inputs.rollbackInputs.pendingRollbackFrame = some m ∧
      Armed (playthrough guest start initial r.used) r.nds m (s.frame start) ∧
      ∀ k, k < m → r.used[k]? = (plannedSession start s event).used[k]? := by
  obtain ⟨hready, -, hmagic, -, -⟩ := h.planned hactive event
  generalize plannedSession start s event = planned at *
  cases hr with
  | busy | wait | consume | missing => exact Or.inl ⟨hready, rfl⟩
  | correct m checkpoint hflight hplan hcopy =>
    obtain ⟨hpending, hdepth⟩ := hplanned.depth_le m hplan
    obtain ⟨hepoch, -⟩ := htrack.pending m hpending
    obtain ⟨q, hq, hlt, -⟩ := planResimulation_romLoop hactive.backend hplan
    obtain rfl : m = q := Option.some.inj (hpending.symm.trans hq)
    obtain ⟨found, image, hfound, himage, hlabel, hcan⟩ := canArm_of_ready hready hreliable.counts
      hreliable.gameFrame_ne hmagic start.epoch_pos hn hepoch hlt hdepth
    obtain rfl : found = checkpoint := Option.some.inj (hfound.symm.trans hcopy)
    subst hlabel
    set cleared : RomLoop.Session S := { planned with
      inputs :=
        RomLoop.pumpThread start planned.inputs.clearPendingRollback event.beforeArm } with hcleared
    obtain ⟨inputs, history, hresolve, hframes⟩ := exists_resolveHistory_eq start
      (List.range' found.displayFrame (requiredHistoryCount found.displayFrame (s.frame start)))
      cleared.inputs
    have hkeep : ∀ k, k < found.displayFrame →
        (recordHistory planned.used history)[k]? = planned.used[k]? :=
      fun k hk => getElem?_recordHistory hframes (Or.inl hk)
    have hinputs : ∀ k, start.sharedLogicalEpoch ≤ k → k < found.displayFrame →
        playersOf planned.used k = playersOf (recordHistory planned.used history) k := by
      intro k _ hk
      unfold playersOf
      rw [hkeep k hk]
    obtain ⟨image', himage', -, harmed⟩ := armed_of_ready hready start.epoch_pos hn hcopy hinputs
      (map_playersOf_recordHistory hframes)
    have hidle : cleared.nds.isRollbackTransactionInFlight = false := hflight
    have hcan' : CanArm cleared.nds found (s.frame start) := hcan
    have harm := armCorrection_of_canArm hidle himage' hcan' hresolve
    refine Or.inr ⟨found.displayFrame, hpending, ?_, ?_⟩
    · rw [harm]
      exact harmed
    · rw [harm]
      exact hkeep

/-- A row is the sample of a settled frame. -/
structure SettledRow (guest : Guest S (Fin 2 → InputState))
    (readGameStateSample : S → T) (start : Started)
    (initial : S) (game : RomLoop.Session S) (row : Nat × T) : Prop where
  epoch_le : start.sharedLogicalEpoch ≤ row.1
  lt_frame : row.1 < game.frame start
  settled : game.inputs.Settled start.sharedLogicalEpoch row.1
  sample_eq : row.2 = readGameStateSample
    ((playthrough guest start initial game.used).stateAt row.1)

/-- What holds between two operations. -/
structure Inv (guest : Guest S (Fin 2 → InputState)) (readGameStateSample : S → T) (start : Started)
    (generation : Nat) (initial : S) (truth : Nat → InputState) (s : Session S T) : Prop where
  game : RomLoop.Inv guest start initial true s.game
  tracking : Tracking start truth s.game.inputs s.game.used (s.game.frame start)
    (s.game.frame start)
  accounts : s.game.inputs.Accounts start.sharedLogicalEpoch truth
  generation_eq : s.trace.generation = generation
  callback_eq : s.trace.callback = some generation
  filed : Filed s.trace
  samples : Samples (playthrough guest start initial s.game.used)
    readGameStateSample s.trace.pending
    (s.game.frame start)
  rows : ∀ row ∈ s.trace.writer.rows, SettledRow guest readGameStateSample start initial s.game row

/-- What may be published is settled. -/
theorem settled_of_publishable {inputs : InputTimeline.Runtime} {epoch through f : Nat}
    (h : inputs.Accounts epoch truth) (hthrough : Trace.publishableThrough inputs = some through)
    (hf : f ≤ through) : inputs.Settled epoch f := by
  obtain ⟨confirmed, hconfirmed, rfl⟩ := Option.map_eq_some_iff.mp hthrough
  have hnext : u32 (confirmed + 1) ≤ confirmed + 1 := Nat.mod_le _ _
  obtain ⟨-, hknown⟩ := h.contiguous confirmed hconfirmed
  cases hpending : inputs.rollbackInputs.pendingRollbackFrame with
  | none =>
    rw [hpending] at hf
    dsimp only at hf
    exact ⟨fun k hk hkf => hknown k hk (by omega),
      fun p hp => absurd (hpending.symm.trans hp) (by simp)⟩
  | some mismatch =>
    rw [hpending] at hf
    dsimp only at hf
    refine ⟨fun k hk hkf => hknown k hk (by omega), fun p hp => ?_⟩
    obtain rfl := Option.some.inj (hpending.symm.trans hp)
    omega

/-- A flush of a session whose trace has been brought up to date. -/
theorem Inv.flush {s : Session S T}
    (h : Inv guest readGameStateSample start generation initial truth s) :
    Inv guest readGameStateSample start generation initial truth (s.flush generation) ∧
      s.trace.writer.rows <+: (s.flush generation).trace.writer.rows := by
  obtain ⟨rows, hmoved, hrows⟩ := h.filed.flush generation s.game.nds.isRollbackTransactionInFlight
    s.game.inputs
  refine ⟨{
    game := h.game, tracking := h.tracking, accounts := h.accounts
    generation_eq := hmoved.generation_eq.trans h.generation_eq
    callback_eq := hmoved.callback_eq.trans h.callback_eq
    filed := hmoved.filed
    samples := fun f x hx => h.samples f x (hmoved.pending_of f x hx)
    rows := fun row hrow => ?_ }, ?_⟩
  · change row ∈ (s.trace.flush _ _ _).writer.rows at hrow
    rw [hmoved.rows_eq] at hrow
    rcases List.mem_append.mp hrow with hold | hnew
    · exact h.rows row hold
    · obtain ⟨hpending, through, hthrough, hle⟩ := hrows row hnew
      obtain ⟨hepoch, hlt, hsample⟩ := h.samples row.1 row.2 hpending
      exact ⟨hepoch, hlt, settled_of_publishable h.accounts hthrough hle, hsample⟩
  · exact ⟨rows, hmoved.rows_eq.symm⟩

/-- Inputs that arrive between frames. -/
theorem Inv.receive {s : Session S T}
    (h : Inv guest readGameStateSample start generation initial truth s)
    (hactive : Active start.config) {arrivals : List Arrival}
    (htrue : ∀ a ∈ arrivals, a.input = truth a.frame) :
    Inv guest readGameStateSample start generation initial truth
      { s with game := { s.game with
        inputs := RomLoop.pumpThread start s.game.inputs arrivals } } := by
  have hleads := leads_pumpThread hactive.enabled htrue s.game.inputs
  refine {
    game := ⟨h.game.ready_le, h.game.frame_le, h.game.standing, h.game.magic_eq, h.game.ran⟩
    tracking := h.tracking.pumpThread hactive.enabled htrue
    accounts := hleads.accounts h.accounts
    generation_eq := h.generation_eq, callback_eq := h.callback_eq, filed := h.filed
    samples := h.samples
    rows := fun row hrow => ?_ }
  obtain ⟨hepoch, hlt, hsettled, hsample⟩ := h.rows row hrow
  exact ⟨hepoch, hlt, hleads.settled h.accounts _ hsettled, hsample⟩

/-- What the frame leaves of the inputs used before: all of them, or those before the pending
rollback. -/
structure Continued (guest : Guest S (Fin 2 → InputState))
    (readGameStateSample : S → T) (start : Started)
    (generation : Nat) (initial : S) (s r : RomLoop.Session S) (n : Nat) (trace : Trace T) :
    Prop where
  /-- A settled frame keeps the inputs that it depends on. -/
  kept : ∀ f, f < n → (∀ p, s.inputs.rollbackInputs.pendingRollbackFrame = some p → f ≤ p) →
    ∀ k, k < f → playersOf r.used k = playersOf s.used k
  samples : Samples (playthrough guest start initial r.used) readGameStateSample
    (gates guest readGameStateSample generation r.nds.ticksInFrame r.nds
      (trace.invalidateSuffix r.nds)).pending (n + 1)

/-- Normal frame or correction, the samples are those of the inputs that are now recorded as
used. -/
theorem continued {s r : RomLoop.Session S} {n : Nat} {trace : Trace T}
    {used : NatMap ReplayFrameInputs} (hn : n < u32Max)
    (hsamples : Samples (playthrough guest start initial used) readGameStateSample trace.pending n)
    (hused : ∀ k, k < n → playersOf s.used k = playersOf used k)
    (hcases : (Ready (playthrough guest start initial r.used) r.nds n ∧ r.used = s.used) ∨
      ∃ m, s.inputs.rollbackInputs.pendingRollbackFrame = some m ∧
        Armed (playthrough guest start initial r.used) r.nds m n ∧
        ∀ k, k < m → r.used[k]? = s.used[k]?) :
    Continued guest readGameStateSample start generation initial s r n trace := by
  rcases hcases with ⟨hready, hsame⟩ | ⟨m, hpending, harmed, hbefore⟩
  · refine ⟨fun f _ _ k _ => by rw [hsame], ?_⟩
    have hkeep : Samples (playthrough guest start initial r.used) readGameStateSample
        (trace.invalidateSuffix r.nds).pending n := by
      unfold Trace.invalidateSuffix
      rw [if_neg (by simp [hready.idle])]
      refine hsamples.congr (fun f x hx => ⟨hx, (hsamples f x hx).2.1⟩) fun k _ hk => ?_
      rw [hsame]
      exact (hused k (by omega)).symm
    exact hkeep.ready hready
  · have hkept : ∀ k, k < m → playersOf r.used k = playersOf s.used k := by
      intro k hk
      unfold playersOf
      rw [hbefore k hk]
    refine ⟨fun f _ hle k hk => hkept k (Nat.lt_of_lt_of_le hk (hle m hpending)), ?_⟩
    have hkeep : Samples (playthrough guest start initial r.used) readGameStateSample
        (trace.invalidateSuffix r.nds).pending (m + 1) := by
      unfold Trace.invalidateSuffix
      rw [if_pos harmed.pending, harmed.display_eq]
      refine hsamples.congr (fun f x hx => ?_) fun k _ hk => ?_
      · dsimp only at hx
        rw [getElem?_eraseAfter] at hx
        split at hx
        · next hle => exact ⟨hx, Nat.lt_succ_of_le hle⟩
        · exact absurd hx (by simp)
      · have hle := harmed.le_current
        exact (hused k (by omega)).symm.trans (hkept k (by omega)).symm
    exact hkeep.armed harmed hn

theorem Inv.frame {s t : Session S T}
    (h : Inv guest readGameStateSample start generation initial truth s)
    (hactive : Active start.config) (hreliable : Reliable guest initial) {event : FrameEvent}
    {canOpen : Bool} (hsafe : Safe start truth s.game event)
    (hstep : s.frame guest readGameStateSample start generation event canOpen = some t) :
    Inv guest readGameStateSample start generation initial truth t ∧
      s.trace.writer.rows <+: t.trace.writer.rows := by
  have hprepare : s.trace.prepare generation canOpen = s.trace := by
    unfold Trace.prepare
    rw [if_neg (by simp [h.generation_eq, h.callback_eq])]
  unfold Session.frame at hstep
  rw [hprepare] at hstep
  obtain ⟨r, hbefore, rfl⟩ := Option.map_eq_some_iff.mp hstep
  have hgame : RomLoop.frame guest start s.game event =
      some (afterRunFrame guest start r event) := by
    rw [frame_eq_map, hbefore]
    rfl
  obtain ⟨hn, hresim⟩ := beforeRunFrame_eq_some h.game.ready_le h.game.frame_le hbefore
  have hr := resimulated_of_eq_some hactive hresim
  have hpumped := h.tracking.pumped hactive hsafe.confirmed hsafe.harmless
  have hplanned := hpumped.planned hactive hsafe.confirmed
  have hcases := ready_or_armed h.game hactive hreliable hn hplanned hsafe.planned hr
  have hused : ∀ k, k < s.game.frame start →
      playersOf (plannedSession start s.game event).used k = playersOf s.game.used k := by
    obtain ⟨frameInputs, inputs, heq⟩ := plannedSession_eq hactive s.game event
    intro k hk
    rw [heq]
    exact playersOf_insert_of_lt frameInputs hk
  have hcontinued : Continued guest readGameStateSample start generation initial
      (plannedSession start s.game event) r (s.game.frame start) s.trace :=
    continued hn h.samples hused hcases
  have hsucc := frame_succ h.game hactive hgame
  -- the timeline, up to `ResimulateIfNeeded` and from there on
  have hleads := leads_plannedSession hactive s.game hsafe.confirmed
  have hlater := (hr.leads hactive.enabled hsafe.confirmed.beforeArm).trans
    (leads_pumpThread hactive.enabled hsafe.confirmed.beforeEnd r.inputs)
  have hsame : SameFile s.trace (gates guest readGameStateSample generation r.nds.ticksInFrame r.nds
      (s.trace.invalidateSuffix r.nds)) :=
    (sameFile_invalidateSuffix s.trace r.nds).trans (sameFile_gates _ _ _ _)
  refine (Inv.flush {
    game := h.game.frame hactive hgame
    tracking := h.game.frame_tracking hactive hreliable h.tracking hsafe hgame
    accounts := hlater.accounts (hleads.accounts h.accounts)
    generation_eq := hsame.generation_eq.trans h.generation_eq
    callback_eq := hsame.callback_eq.trans h.callback_eq
    filed := h.filed.sameFile hsame
    samples := by
      rw [hsucc]
      exact hcontinued.samples
    rows := fun row hrow => ?_ }).imp id fun hprefix => ?_
  · rw [hsame.writer_eq] at hrow
    obtain ⟨hepoch, hlt, hsettled, hsample⟩ := h.rows row hrow
    have hstill := hleads.settled h.accounts _ hsettled
    refine ⟨hepoch, ?_, hlater.settled (hleads.accounts h.accounts) _ hstill, ?_⟩
    · rw [hsucc]
      exact Nat.lt_succ_of_lt hlt
    · rw [hsample]
      refine congrArg readGameStateSample (Run.stateAt_congr _ _ fun k _ hk => ?_)
      refine (hused k (Nat.lt_trans hk hlt)).symm.trans ?_
      exact (hcontinued.kept row.1 hlt hstill.pending k hk).symm
  · rw [hsame.writer_eq] at hprefix
    exact hprefix

/-! ## Runs -/

/-- Every input that arrives is the true one. -/
def Op.ConfirmedBy (truth : Nat → InputState) : Op → Prop
  | .frame event _ => event.ConfirmedBy truth
  | .receive arrivals => ∀ a ∈ arrivals, a.input = truth a.frame
  | .flush => True

/-- No frame loses a confirmation. -/
def Corrects (start : Started) (s : Session S T) : Op → Prop
  | .frame event _ => Attentive start s.game event
  | .receive _ => True
  | .flush => True

/-- Every operation keeps the rows that have been written. -/
theorem Inv.step {s t : Session S T} {op : Op}
    (h : Inv guest readGameStateSample start generation initial truth s)
    (hactive : Active start.config)
    (hreliable : Reliable guest initial) (hok : op.ConfirmedBy truth ∧ Corrects start s op)
    (hstep : s.step guest readGameStateSample start generation op = some t) :
    Inv guest readGameStateSample start generation initial truth t ∧
      s.trace.writer.rows <+: t.trace.writer.rows := by
  obtain ⟨htrue, hcorrects⟩ := hok
  cases op with
  | frame event canOpen => exact h.frame hactive hreliable (hcorrects.safe hactive htrue) hstep
  | receive arrivals =>
    obtain rfl := Option.some.inj hstep
    exact ⟨h.receive hactive htrue, List.prefix_rfl⟩
  | flush =>
    obtain rfl := Option.some.inj hstep
    exact h.flush

/-- The sample of a frame for which all remote inputs before it are known: it shows the game under
the confirmed inputs, and it is what the game is based on now. -/
structure ConfirmedRow (guest : Guest S (Fin 2 → InputState))
    (readGameStateSample : S → T) (start : Started)
    (initial : S) (game : RomLoop.Session S) (row : Nat × T) : Prop where
  epoch_le : start.sharedLogicalEpoch ≤ row.1
  known : ∀ k, start.sharedLogicalEpoch ≤ k → k < row.1 →
    ∃ input, game.inputs.remoteInputs[k]? = some input
  confirmed_eq : row.2 = readGameStateSample (Run.stateAt guest.tick
    (confirmedPlayers start.localPlayer game.inputs) initial start.sharedLogicalEpoch row.1)
  current_eq : row.2 = readGameStateSample (Run.stateAt guest.tick (playersOf game.used) initial
    start.sharedLogicalEpoch row.1)

theorem SettledRow.confirmed {game : RomLoop.Session S} {row : Nat × T}
    (h : SettledRow guest readGameStateSample start initial game row)
    (hgame : RomLoop.Inv guest start initial true game)
    (htracking : Tracking start truth game.inputs game.used (game.frame start) (game.frame start)) :
    ConfirmedRow guest readGameStateSample start initial game row := by
  refine ⟨h.epoch_le, h.settled.known, ?_, h.sample_eq⟩
  rw [h.sample_eq]
  refine congrArg readGameStateSample (Run.stateAt_congr _ _ fun k hk hkrow => ?_)
  have hlt : k < game.frame start := Nat.lt_trans hkrow h.lt_frame
  obtain ⟨frameInputs, hframe⟩ := hgame.ran k hk hlt
  obtain ⟨input, hinput⟩ := h.settled.known k hk hkrow
  -- nothing that is pending covers the frame, so that what was used is what is confirmed
  have hremote : frameInputs.remoteInput = input := by
    rcases htracking.sound k frameInputs.remoteInput hlt
      (by simp [remoteOf, hframe]) with hcov | htr
    · obtain ⟨p, hp, hle⟩ := hcov
      have hrow := h.settled.pending p hp
      omega
    · exact htr.eq_of_confirmed hinput
  have hplayers := htracking.players k frameInputs hframe
  change playersOf game.used k = _
  unfold playersOf confirmedPlayers
  rw [hframe]
  dsimp only
  rw [hplayers, hremote, hinput]
  rfl

end Bigstar.Netplay.RollbackTickTrace
