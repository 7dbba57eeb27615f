import Bigstar.Rom.Proofs.GameTickGateProofs

/-!
# The replay of a history

The passages through the gates are put together with the game in between. All that the control flow
depends on is what the memory shows of the control words, the history and the game frame, so each
passage is described by what the memory shows before and after it, and by the entries into the game
on the way.
-/

namespace Bigstar.Rom

open Arm

/-! ## What the memory shows -/

/-- The gates, the control words, the history and the game frame. -/
structure Shows (m : Memory) (c : Control) (history : Nat → Entry) (frame : Nat) : Prop where
  image : gateImage.In m
  control : controlOf m = c
  entries : ∀ i < HISTORY_CAPACITY, entryAt m i = history i
  frame : gameFrame m = frame

/-- No gate, control word, entry or game frame lies in the range. -/
def aside (addr width : Nat) : Bool :=
  gateImage.free addr width &&
    [(REQUEST_ADDR, 32), (REPLAY_RENDER_ADDR, 4), (HISTORY_ADDR, 192),
      (GAME_FRAME_ADDR, 4)].all fun r =>
        addr + width ≤ r.1 || r.1 + r.2 ≤ addr

variable {m : Memory} {c : Control} {history : Nat → Entry} {frame : Nat}

/-- What is stored elsewhere changes nothing that is shown. -/
theorem Shows.store_aside (h : Shows m c history frame) {addr width : Nat}
    (haside : aside addr width = true)
    (value : Nat) : Shows (store width m addr value) c history frame := by
  rw [aside, Bool.and_eq_true] at haside
  obtain ⟨hfree, hranges⟩ := haside
  simp only [List.all_cons, List.all_nil, Bool.and_true, Bool.and_eq_true, Bool.or_eq_true,
    decide_eq_true_eq, REQUEST_ADDR, REPLAY_RENDER_ADDR, HISTORY_ADDR, GAME_FRAME_ADDR] at hranges
  obtain ⟨hcontrol, hreplay, hhistory, hframe⟩ := hranges
  have hload : ∀ {width' addr'}, (addr + width ≤ addr' ∨ addr' + width' ≤ addr) →
      load width' (store width m addr value) addr' = load width' m addr' :=
    fun hapart => load_store_apart m value hapart
  refine ⟨h.image.store hfree value, ?_, ?_, ?_⟩
  · rw [← h.control]
    unfold controlOf
    simp only [REQUEST_ADDR, ACTIVE_ADDR, HISTORY_ENABLED_ADDR,
      HISTORY_INDEX_ADDR, HISTORY_COUNT_ADDR, HISTORY_TARGET_ADDR,
      HISTORY_START_FRAME_ADDR, REPLAY_RENDER_ADDR]
    congr 1 <;> exact hload (by omega)
  · intro i hi
    rw [← h.entries i hi]
    have hlt : i < 12 := hi
    unfold entryAt
    simp only [HISTORY_ADDR]
    congr 1 <;> exact hload (by omega)
  · rw [← h.frame]
    exact hload hframe

/-- A store to a control word changes the word and nothing else. -/
theorem Shows.store_control (h : Shows m c history frame) {addr : Nat}
    (haddr : addr ∈ [REQUEST_ADDR, ACTIVE_ADDR, HISTORY_INDEX_ADDR]) (value : Nat) :
    Shows (store 4 m addr value) (controlOf (store 4 m addr value)) history frame := by
  have hfree : gateImage.free addr 4 = true := by
    have hall : ∀ a ∈ [REQUEST_ADDR, ACTIVE_ADDR, HISTORY_INDEX_ADDR],
        gateImage.free a 4 = true := by
      decide +kernel
    exact hall addr haddr
  have hbounds : 0x02001AC0 ≤ addr ∧ addr + 4 ≤ 0x02001AD4 := by
    have hall : ∀ a ∈ [REQUEST_ADDR, ACTIVE_ADDR, HISTORY_INDEX_ADDR],
        0x02001AC0 ≤ a ∧ a + 4 ≤ 0x02001AD4 := by decide +kernel
    exact hall addr haddr
  refine ⟨h.image.store hfree value, rfl, ?_, ?_⟩
  · intro i hi
    rw [← h.entries i hi]
    unfold entryAt
    simp only [HISTORY_ADDR]
    congr 1 <;> exact load_store_apart m value (by omega)
  · rw [← h.frame]
    refine load_store_apart m value ?_
    rw [GAME_FRAME_ADDR]
    omega

/-- The marker of the stage is elsewhere. -/
theorem Shows.marked (h : Shows m c history frame) (marker : Nat) :
    Shows (store 4 m STAGE_MARKER_ADDR marker) c history frame :=
  h.store_aside (by decide +kernel) marker

/-- The control words after a store to one of them. -/
theorem controlOf_store (m : Memory) {value : Nat} (hvalue : value < 0x100000000) :
    controlOf (store 4 m REQUEST_ADDR value) = { controlOf m with request := value } ∧
      controlOf (store 4 m ACTIVE_ADDR value) = { controlOf m with active := value } ∧
      controlOf (store 4 m HISTORY_INDEX_ADDR value) = { controlOf m with index := value } := by
  have hself : ∀ addr, load 4 (store 4 m addr value) addr = value := by
    intro addr
    rw [load_store_self]
    exact Nat.mod_eq_of_lt hvalue
  refine ⟨?_, ?_, ?_⟩
  · unfold controlOf
    congr 1
    exact hself _
  · unfold controlOf
    congr 1
    exact hself _
  · unfold controlOf
    congr 1
    exact hself _

/-- A new request. -/
theorem Shows.request (h : Shows m c history frame) {value : Nat} (hvalue : value < 0x100000000) :
    Shows (store 4 m REQUEST_ADDR value) { c with request := value } history frame := by
  have hstore := h.store_control (List.mem_cons_self ..) value
  rwa [(controlOf_store m hvalue).1, h.control] at hstore

/-- A new active word. -/
theorem Shows.active (h : Shows m c history frame) {value : Nat} (hvalue : value < 0x100000000) :
    Shows (store 4 m ACTIVE_ADDR value) { c with active := value } history frame := by
  have hstore := h.store_control (List.mem_cons_of_mem _ (List.mem_cons_self ..)) value
  rwa [(controlOf_store m hvalue).2.1, h.control] at hstore

/-- A new index. -/
theorem Shows.index (h : Shows m c history frame) {value : Nat} (hvalue : value < 0x100000000) :
    Shows (store 4 m HISTORY_INDEX_ADDR value) { c with index := value } history frame := by
  have hstore := h.store_control
    (List.mem_cons_of_mem _ (List.mem_cons_of_mem _ (List.mem_cons_self ..)))
    value
  rwa [(controlOf_store m hvalue).2.2, h.control] at hstore

/-- The scratch area is elsewhere. -/
theorem Shows.present (h : Shows m c history frame) (e : Entry) :
    Shows (present m e) c history frame := by
  unfold Rom.present
  dsimp only
  iterate 10 refine Shows.store_aside ?_ (by decide +kernel) _
  exact h

/-- What the game does not touch is shown as before. -/
theorem Shows.keeps (h : Shows m c history frame) {m' : Memory} (hkeeps : Keeps gateImage m m')
    {frame' : Nat} (hframe : gameFrame m' = frame') : Shows m' c history frame' := by
  have hload : ∀ width addr, (∀ i, addr ≤ i → i < addr + width → Protected gateImage i) →
      load width m' addr = load width m addr := by
    intro width addr hprotected
    exact load_congr fun i hle hlt => hkeeps i (hprotected i hle hlt)
  refine ⟨?_, ?_, ?_, hframe⟩
  · intro addr w hw
    obtain ⟨seg, hseg, hle, hlt⟩ := Image.word_eq_some hw
    rw [← h.image addr w hw]
    exact hload 4 addr fun i hi hi' => .inl ⟨seg, hseg, by omega, by omega⟩
  · rw [← h.control]
    unfold controlOf
    simp only [REQUEST_ADDR, ACTIVE_ADDR, HISTORY_ENABLED_ADDR,
      HISTORY_INDEX_ADDR, HISTORY_COUNT_ADDR, HISTORY_TARGET_ADDR,
      HISTORY_START_FRAME_ADDR, REPLAY_RENDER_ADDR]
    congr 1 <;> refine hload 4 _ fun i hi hi' => ?_
    all_goals
      unfold Protected
      simp only [REQUEST_ADDR, HISTORY_START_FRAME_ADDR, REPLAY_RENDER_ADDR]
      omega
  · intro i hi
    rw [← h.entries i hi]
    have hlt : i < 12 := hi
    unfold entryAt
    simp only [HISTORY_ADDR]
    congr 1 <;> refine hload _ _ fun j hj hj' => .inr (.inr (.inr ?_))
    all_goals
      simp only [HISTORY_ADDR, HISTORY_CAPACITY, HISTORY_ENTRY_BYTES]
      omega

/-! ## What is written -/

/-- Outside of `writes` the second memory is the first. -/
def Untouched (writes : Nat → Prop) (m m' : Memory) : Prop :=
  ∀ addr, ¬ writes addr → m' addr = m addr

section

variable {writes : Nat → Prop} {m₁ m₂ m₃ : Memory}

theorem Untouched.refl (m : Memory) : Untouched writes m m := fun _ _ => rfl

theorem Untouched.trans (h : Untouched writes m₁ m₂) (h' : Untouched writes m₂ m₃) :
    Untouched writes m₁ m₃ := by
  intro addr haddr
  rw [h' addr haddr, h addr haddr]

/-- One more store to what may be written. -/
theorem Untouched.store (h : Untouched writes m₁ m₂) {width base : Nat}
    (hbase : ∀ addr, base ≤ addr → addr < base + width → writes addr) (value : Nat) :
    Untouched writes m₁ (store width m₂ base value) := by
  intro addr haddr
  rw [store_outside width m₂ value, h addr haddr]
  by_contra hin
  exact haddr (hbase addr (by omega) (by omega))

/-- What a tick may write anyway. -/
def MayMark (writes : Nat → Prop) : Prop := ∀ addr, tickWrites addr → writes addr

/-- The marker may be written in any tick. -/
theorem Untouched.marked (h : Untouched writes m₁ m₂) (hmark : MayMark writes) (marker : Nat) :
    Untouched writes m₁ (Arm.store 4 m₂ STAGE_MARKER_ADDR marker) :=
  h.store (fun addr hle hlt => hmark addr (.inl ⟨hle, hlt⟩)) marker

/-- So may the active word. -/
theorem Untouched.active (h : Untouched writes m₁ m₂) (hmark : MayMark writes) (value : Nat) :
    Untouched writes m₁ (Arm.store 4 m₂ ACTIVE_ADDR value) :=
  h.store (fun addr hle hlt => hmark addr (.inr ⟨hle, hlt⟩)) value

theorem mayMark_tickWrites : MayMark tickWrites := fun _ h => h

theorem mayMark_replayWrites : MayMark replayWrites := fun _ h => .inl h

/-- A replay counts the request down. -/
theorem Untouched.request (h : Untouched replayWrites m₁ m₂) (value : Nat) :
    Untouched replayWrites m₁ (Arm.store 4 m₂ REQUEST_ADDR value) :=
  h.store (fun _ hle hlt => .inr (.inl ⟨hle, hlt⟩)) value

/-- A replay counts the index up. -/
theorem Untouched.index (h : Untouched replayWrites m₁ m₂) (value : Nat) :
    Untouched replayWrites m₁ (Arm.store 4 m₂ HISTORY_INDEX_ADDR value) :=
  h.store (fun _ hle hlt => .inr (.inr (.inl ⟨hle, hlt⟩))) value

/-- A replay writes the scratch area. -/
theorem Untouched.present (h : Untouched replayWrites m₁ m₂) (e : Entry) :
    Untouched replayWrites m₁ (present m₂ e) := by
  have hscratch : ∀ {m : Memory}, Untouched replayWrites m₁ m →
    ∀ off width value, off + width ≤ 0x88 →
      Untouched replayWrites m₁ (Arm.store width m (JIT_SCRATCH_TICK_ADDR + off) value) := by
    intro m hm off width value hoff
    refine hm.store (fun addr hle hlt => .inr (.inr (.inr (.inl ⟨?_, ?_⟩)))) value <;> omega
  unfold Rom.present
  dsimp only
  refine Untouched.store ?_ (fun _ hle hlt => .inr (.inr (.inr (.inr ⟨hle, hlt⟩)))) _
  refine hscratch ?_ 0x84 4 _ (by decide)
  refine hscratch ?_ 0x82 2 _ (by decide)
  refine hscratch ?_ 0x80 2 _ (by decide)
  refine hscratch ?_ 0x44 4 _ (by decide)
  refine hscratch ?_ 0x42 2 _ (by decide)
  refine hscratch ?_ 0x40 2 _ (by decide)
  refine hscratch ?_ 10 2 _ (by decide)
  refine hscratch ?_ 8 2 _ (by decide)
  exact hscratch h 0 2 _ (by decide)

end

/-! ## The machine -/

section

variable {g : Game}

/-- The functions and the end of the loop lie outside of the words. -/
def Outside (image : Image) : Prop :=
  ∀ addr ∈ COUNTER_TAIL_RETURN_ADDR :: Machine.callees, image.word addr = none

/-- No gate lies at a place where the game is entered. -/
theorem outside_gateImage : Outside gateImage := by
  unfold Outside
  decide +kernel

/-- At a word of the gates, the machine takes one instruction. -/
theorem step_word {image : Image} (houtside : Outside image) {x : Machine} {cpu : Cpu}
    (hword : (image.word x.cpu.pc).isSome) (hstep : Arm.step plain x.cpu = some cpu) :
    x.step image g = some { x with cpu } := by
  have hout : x.cpu.pc ∉ COUNTER_TAIL_RETURN_ADDR :: Machine.callees := by
    intro hmem
    rw [houtside _ hmem] at hword
    cases hword
  rw [List.mem_cons, not_or] at hout
  unfold Machine.step
  dsimp only
  rw [if_neg hout.1, if_neg hout.2, if_pos hword, hstep]
  rfl

/-- What the words lead to, the machine reaches. -/
theorem reaches_of_leads {image : Image} (houtside : Outside image) {x : Machine} {Q : Cpu → Prop}
    (hin : image.In x.cpu.mem) (h : Leads image x.cpu Q) :
    ∃ t, Machine.Reaches image g x { x with cpu := t } ∧ Q t := by
  obtain ⟨t, hrun, hQ⟩ := h
  refine ⟨t, ?_, hQ⟩
  clear hQ
  obtain ⟨s, time, hook, returned, trace⟩ := x
  dsimp only at hin hrun ⊢
  induction hrun using Relation.ReflTransGen.head_induction_on with
  | refl => exact Relation.ReflTransGen.refl
  | head hstep _ ih =>
    obtain ⟨hplain, hin'⟩ := Image.step_bus hin hstep
    obtain ⟨word, hfetch, -⟩ := Option.bind_eq_some_iff.mp hstep
    refine (ih hin').head (step_word houtside ?_ hplain)
    exact Option.isSome_iff_exists.mpr ⟨word, hfetch⟩

/-- From `x` to `x'` the game was entered at `places`, each time faithfully. -/
def Enters (writes : Nat → Prop) (x : Machine) (places : List Nat) (x' : Machine) : Prop :=
  ∃ more, x'.trace = x.trace ++ more ∧ more.map (fun p => p.enter.pc) = places ∧
    ∀ p ∈ more, p.Faithful writes

section

variable {writes : Nat → Prop} {x x' x'' : Machine} {places places' : List Nat}

/-- The game was not entered. -/
theorem Enters.of_eq (h : x'.trace = x.trace) : Enters writes x [] x' :=
  ⟨[], by rw [h, List.append_nil], rfl, fun p hp => nomatch hp⟩

/-- One entry into the game. -/
theorem Enters.once (h : x.passage.Faithful writes) (htrace : x'.trace = x.trace ++ [x.passage]) :
    Enters writes x [x.cpu.pc] x' := by
  refine ⟨[x.passage], htrace, rfl, ?_⟩
  intro p hp
  rw [List.mem_singleton.mp hp]
  exact h

/-- Entries one after the other. -/
theorem Enters.trans (h : Enters writes x places x') (h' : Enters writes x' places' x'') :
    Enters writes x (places ++ places') x'' := by
  obtain ⟨more, hmore, hplaces, hfaithful⟩ := h
  obtain ⟨more', hmore', hplaces', hfaithful'⟩ := h'
  refine ⟨more ++ more', ?_, ?_, ?_⟩
  · rw [hmore', hmore, List.append_assoc]
  · rw [List.map_append, hplaces, hplaces']
  · intro p hp
    rcases List.mem_append.mp hp with hp | hp
    · exact hfaithful p hp
    · exact hfaithful' p hp

/-- Each entry is remembered. -/
theorem Enters.length (h : Enters writes x places x') :
    x'.trace.length = x.trace.length + places.length := by
  obtain ⟨more, hmore, hplaces, -⟩ := h
  rw [hmore, List.length_append, ← hplaces, List.length_map]

/-- What was entered stays in the trace. -/
theorem Enters.getElem? (h : Enters writes x places x') {i : Nat} (hi : i < x.trace.length) :
    x'.trace[i]? = x.trace[i]? := by
  obtain ⟨more, hmore, -, -⟩ := h
  rw [hmore, List.getElem?_append_left hi]

/-- From the start, the trace is what was entered. -/
theorem Enters.places_eq (h : Enters writes x places x') (hx : x.trace = []) :
    x'.places = places := by
  obtain ⟨more, hmore, hplaces, -⟩ := h
  rw [Machine.places, hmore, hx, List.nil_append, hplaces]

/-- From the start, all entries were faithful. -/
theorem Enters.faithful (h : Enters writes x places x') (hx : x.trace = [])
    (hleft : x'.passage.Faithful writes) : x'.Faithful writes := by
  obtain ⟨more, hmore, -, hfaithful⟩ := h
  rw [hx, List.nil_append] at hmore
  intro p hp
  rw [hmore] at hp
  rcases List.mem_append.mp hp with hp | hp
  · exact hfaithful p hp
  · rw [List.mem_singleton.mp hp]
    exact hleft

end

/-- `x'` is reached from `x`, with the game entered at `places`, stands at `addr` and shows what is
given. -/
structure Moves (writes : Nat → Prop) (g : Game) (x : Machine) (places : List Nat)
    (addr : Nat) (c : Control) (history : Nat → Entry) (frame : Nat) (x' : Machine) : Prop where
  reaches : Machine.Reaches gateImage g x x'
  pc : x'.cpu.pc = addr
  shows : Shows x'.cpu.mem c history frame
  enters : Enters writes x places x'

variable {writes : Nat → Prop}

/-- Stretches of the loop one after the other. -/
theorem Moves.trans {x x' x'' : Machine} {places places' : List Nat}
    {addr addr' : Nat} {c c' : Control}
    {frame frame' : Nat} (h : Moves writes g x places addr c history frame x')
    (h' : Moves writes g x' places' addr' c' history frame' x'') :
    Moves writes g x (places ++ places') addr' c' history frame' x'' :=
  ⟨h.reaches.trans h'.reaches, h'.pc, h'.shows, h.enters.trans h'.enters⟩

/-- The game has just come to the hook at `addr`. -/
structure AtHook (addr : Nat) (x : Machine) : Prop where
  pc : x.cpu.pc = addr
  hook : x.hook = x.cpu
  returned : x.returned = none

/-- A passage through the gates without an entry into the game. -/
theorem moves_of_leads (writes : Nat → Prop) {x : Machine} {Q : Cpu → Prop} {addr : Nat}
    {c' : Control} {frame' : Nat}
    (hshows : Shows x.cpu.mem c history frame) (h : Leads gateImage x.cpu Q)
    (hQ : ∀ t, Q t → t.pc = addr ∧ Shows t.mem c' history frame') :
    ∃ t, Moves writes g x [] addr c' history frame' { x with cpu := t } ∧ Q t := by
  obtain ⟨t, hreaches, ht⟩ := reaches_of_leads (g := g) outside_gateImage hshows.image h
  obtain ⟨hpc, hshows'⟩ := hQ t ht
  exact ⟨t, ⟨hreaches, hpc, hshows', Enters.of_eq rfl⟩, ht⟩

/-- A function of the game is called, and returns. -/
theorem moves_call (hg : g.Contract gateImage) {x : Machine} {entry ret : Nat}
    (hentry : entry ∈ Machine.callees) (hpc : x.cpu.pc = entry) (hlink : x.cpu.reg 14 = ret)
    (hshows : Shows x.cpu.mem c history frame) (hfaithful : x.passage.Faithful writes) :
    ∃ t, (∀ r ∈ savedRegs, t.reg r = x.cpu.reg r) ∧
      Moves writes g x [entry] ret c history frame
        { x with
          cpu := t, time := x.time + 1, returned := some t, trace := x.trace ++ [x.passage] } := by
  subst hpc
  have hne : x.cpu.pc ≠ COUNTER_TAIL_RETURN_ADDR := by
    have hall : ∀ a ∈ Machine.callees, a ≠ COUNTER_TAIL_RETURN_ADDR := by decide +kernel
    exact hall _ hentry
  have hstep : x.step gateImage g =
      some { x with cpu := g.call x.time x.cpu.pc x.cpu, time := x.time + 1,
                    returned := some (g.call x.time x.cpu.pc x.cpu),
                    trace := x.trace ++ [x.passage] } := by
    unfold Machine.step
    dsimp only
    rw [if_neg hne, if_pos hentry]
  refine ⟨g.call x.time x.cpu.pc x.cpu, hg.call_saved _ _ _,
    Relation.ReflTransGen.single hstep, ?_, ?_,
    Enters.once hfaithful rfl⟩
  · rw [← hlink]
    exact hg.call_returns _ _ _
  · exact hshows.keeps (hg.call_keeps _ _ _) ((hg.call_frame _ _ _).trans hshows.frame)

/-- The addresses at which the game goes on after the gates. -/
def bodyEntries (g : Game) : List Nat := [LOOP_START_ADDR + 4, g.first.ret, g.first.other.ret]

/-- The game frame after a stretch of the body. -/
def counted (g : Game) (addr frame : Nat) : Nat :=
  if addr = g.counter then (frame + 1) % 0x100000000 else frame

/-- The body runs up to the next hook. -/
theorem moves_body (hg : g.Contract gateImage) {x : Machine} {addr : Nat}
    (haddr : addr ∈ bodyEntries g)
    (hpc : x.cpu.pc = addr) (hshows : Shows x.cpu.mem c history frame)
    (hfaithful : x.passage.Faithful writes) :
    ∃ x', Moves writes g x [addr] (g.next addr) c history (counted g addr frame) x' ∧
      AtHook (g.next addr) x' := by
  subst hpc
  have hout : x.cpu.pc ≠ COUNTER_TAIL_RETURN_ADDR ∧ x.cpu.pc ∉ Machine.callees ∧
      gateImage.word x.cpu.pc = none := by
    have hall : ∀ hook : Hook, ∀ a ∈ [LOOP_START_ADDR + 4, hook.ret, hook.other.ret],
        a ≠ COUNTER_TAIL_RETURN_ADDR ∧ a ∉ Machine.callees ∧ gateImage.word a = none := by
      intro hook
      cases hook <;> decide +kernel
    exact hall g.first _ haddr
  have hnext : (g.body x.time x.cpu).pc = g.next x.cpu.pc := hg.body_next _ _ haddr
  have hstep : x.step gateImage g =
      some { cpu := g.body x.time x.cpu, time := x.time + 1, hook := g.body x.time x.cpu,
             trace := x.trace ++ [x.passage] } := by
    unfold Machine.step
    dsimp only
    rw [if_neg hout.1, if_neg hout.2.1, hout.2.2]
    rfl
  refine ⟨_, ⟨Relation.ReflTransGen.single hstep, hnext, ?_, Enters.once hfaithful rfl⟩, hnext, rfl,
    rfl⟩
  refine hshows.keeps (hg.body_keeps _ _) ?_
  rw [hg.body_frame, hshows.frame]
  rfl

/-! ## The hooks -/

/-- The code behind a call goes on at `addr` with the result, and changes nothing that is shown. -/
def Returns (writes : Nat → Prop) (ret addr : Nat) : Prop :=
  ∀ s c history frame, s.pc = ret → Shows s.mem c history frame →
    Leads gateImage s fun t => At s addr t ∧ Shows t.mem c history frame ∧
    Untouched writes s.mem t.mem

/-- Behind its call, the font gate goes back to the game. -/
theorem returns_font : Returns writes (FONT_GATE_ADDR + 0x14) (FONT_HOOK_ADDR + 4) := by
  intro s c history frame hpc hshows
  refine (fontGate_returns s hpc).trans ?_
  rintro t ⟨hat, hmem⟩
  refine Leads.done ⟨hat, ?_, ?_⟩
  · rw [hmem]
    exact hshows
  · rw [hmem]
    exact Untouched.refl _

/-- So does the render gate, -/
theorem returns_render (hmark : MayMark writes) :
    Returns writes (RENDER_GATE_ADDR + 0x30) RENDER_RETURN_ADDR := by
  intro s c history frame hpc hshows
  refine (renderGate_returns s hpc).trans ?_
  rintro t ⟨hat, hmem⟩
  refine Leads.done ⟨hat, ?_, ?_⟩
  · rw [hmem]
    exact hshows.marked 5
  · rw [hmem]
    exact (Untouched.refl _).marked hmark 5

/-- the loop gate, -/
theorem returns_loop : Returns writes (LOOP_GATE_ADDR + 0x44) COUNTER_TAIL_RETURN_ADDR := by
  intro s c history frame hpc hshows
  refine (loopGate_returns s hpc).trans ?_
  rintro t ⟨hat, hmem⟩
  refine Leads.done ⟨hat, ?_, ?_⟩
  · rw [hmem]
    exact hshows
  · rw [hmem]
    exact Untouched.refl _

/-- and the input gate. -/
theorem returns_input (hmark : MayMark writes) :
    Returns writes (INPUT_GATE_ADDR + 0x128) (LOOP_START_ADDR + 4) := by
  intro s c history frame hpc hshows
  refine (inputGate_returns s hpc).trans ?_
  rintro t ⟨hat, hmem⟩
  refine Leads.done ⟨hat, ?_, ?_⟩
  · rw [hmem]
    exact hshows.marked 3
  · rw [hmem]
    exact (Untouched.refl _).marked hmark 3

/-- A passage through a gate with a call on the way. -/
theorem moves_through (writes : Nat → Prop) (hg : g.Contract gateImage)
    {x : Machine} {Q : Cpu → Prop}
    {ret addr : Nat} {c' : Control} (entry : Nat) (hentry : entry ∈ Machine.callees)
    (haddr : addr ∉ takesArgs)
    (hback : Returns writes ret addr) (hshows : Shows x.cpu.mem c history frame)
    (hto : Leads gateImage x.cpu Q)
    (hQ : ∀ t, Q t → t.pc = entry ∧ t.reg 14 = ret ∧ Shows t.mem c' history frame)
    (hfaithful : ∀ t, Q t → Passage.Faithful writes ⟨x.hook, x.returned, t⟩) :
    ∃ x' t, Moves writes g x [entry] addr c' history frame x' ∧ x'.passage.Faithful writes ∧
      x'.trace = x.trace ++ [⟨x.hook, x.returned, t⟩] ∧ Q t := by
  obtain ⟨t, hmoves, ht⟩ :=
    moves_of_leads writes (g := g) hshows hto fun t ht => ⟨(hQ t ht).1, (hQ t ht).2.2⟩
  obtain ⟨hpc, hlink, hshows₁⟩ := hQ t ht
  have hpassage : Machine.passage { x with cpu := t } = ⟨x.hook, x.returned, t⟩ := rfl
  obtain ⟨u, hsaved, hmoves₂⟩ := moves_call (x := { x with cpu := t }) hg hentry hpc hlink hshows₁
    (hpassage ▸ hfaithful t ht)
  obtain ⟨v, hmoves₃, hat, -, hmem⟩ := moves_of_leads writes (g := g) hmoves₂.shows
    (hback _ _ _ _ hmoves₂.pc hmoves₂.shows) fun v hv => ⟨hv.1.pc, hv.2.1⟩
  refine ⟨_, t, (hmoves.trans hmoves₂).trans hmoves₃, ?_, rfl, ht⟩
  refine ⟨?_, ?_, ?_, hmem⟩
  · intro r hr
    have hv : v.reg r = u.reg r := hat.kept r (List.mem_cons_of_mem _ hr)
    have hhook : t.reg r = x.hook.reg r := (hfaithful t ht).saved r hr
    exact (hv.trans (hsaved r hr)).trans hhook
  · intro hargs
    exact absurd (hat.pc ▸ hargs) haddr
  · intro u' hu'
    obtain rfl : u = u' := Option.some.inj hu'
    exact hat.kept 0 (List.mem_cons_self ..)

/-- From a hook, a call with the game's arguments is faithful. -/
theorem Calls.faithful {x : Machine} {addr entry ret : Nat} {t : Cpu} (h : Calls x.cpu entry ret t)
    (hx : AtHook addr x) (hmem : Untouched writes x.cpu.mem t.mem) :
    Passage.Faithful writes ⟨x.hook, x.returned, t⟩ := by
  refine ⟨?_, ?_, ?_, ?_⟩
  · intro r hr
    rw [hx.hook]
    exact h.saved r hr
  · intro _ r hr
    rw [hx.hook]
    exact h.args r hr
  · intro u hu
    rw [hx.returned] at hu
    cases hu
  · rw [hx.returned, hx.hook]
    exact hmem

/-- From a hook, the body may go on without a call. -/
theorem At.faithful {x : Machine} {hook addr : Nat} {t : Cpu} (h : At x.cpu addr t)
    (hx : AtHook hook x) (haddr : addr ∉ takesArgs) (hmem : Untouched writes x.cpu.mem t.mem) :
    Passage.Faithful writes ⟨x.hook, x.returned, t⟩ := by
  refine ⟨?_, ?_, ?_, ?_⟩
  · intro r hr
    rw [hx.hook]
    exact h.kept r (List.mem_cons_of_mem _ hr)
  · intro hargs
    exact absurd (h.pc ▸ hargs) haddr
  · intro u hu
    rw [hx.returned] at hu
    cases hu
  · rw [hx.returned, hx.hook]
    exact hmem

/-- While more ticks are to come, a hook is passed without its call. -/
theorem hook_skips (hmark : MayMark writes) {x : Machine} (hook : Hook) (hx : AtHook hook.addr x)
    (hshows : Shows x.cpu.mem c history frame) (hactive : c.active ≠ 0)
    (hreplay : c.replayRender = 0) :
    ∃ x', Moves writes g x [] hook.ret c history frame x' ∧ x'.passage.Faithful writes := by
  have hactive' : load 4 x.cpu.mem ACTIVE_ADDR ≠ 0 := by
    rw [← hshows.control] at hactive
    exact hactive
  have hreplay' : load 4 x.cpu.mem REPLAY_RENDER_ADDR = 0 := by
    rw [← hshows.control] at hreplay
    exact hreplay
  cases hook with
  | font =>
    obtain ⟨t, hmoves, hat, hmem⟩ := moves_of_leads writes (g := g) hshows
      (fontGate_skips x.cpu hx.pc hactive') (by
        rintro t ⟨hat, hmem⟩
        refine ⟨hat.pc, ?_⟩
        rw [hmem]
        exact hshows)
    refine ⟨_, hmoves, hat.faithful hx (by decide) ?_⟩
    rw [hmem]
    exact Untouched.refl _
  | render =>
    obtain ⟨t, hmoves, hat, hmem⟩ := moves_of_leads writes (g := g) hshows
      (renderGate_skips x.cpu hx.pc hactive' hreplay') (by
        rintro t ⟨hat, hmem⟩
        refine ⟨hat.pc, ?_⟩
        rw [hmem]
        exact (hshows.marked 4).marked 5)
    refine ⟨_, hmoves, hat.faithful hx (by decide) ?_⟩
    rw [hmem]
    exact ((Untouched.refl _).marked hmark 4).marked hmark 5

/-- While no ticks are to come, a hook calls its function. -/
theorem hook_calls (hg : g.Contract gateImage) (hmark : MayMark writes) {x : Machine} (hook : Hook)
    (hx : AtHook hook.addr x) (hshows : Shows x.cpu.mem c history frame) (hactive : c.active = 0) :
    ∃ x', Moves writes g x [hook.callee] hook.ret c history frame x' ∧
    x'.passage.Faithful writes := by
  have hactive' : load 4 x.cpu.mem ACTIVE_ADDR = 0 := by
    rw [← hshows.control] at hactive
    exact hactive
  cases hook with
  | font =>
    obtain ⟨x', -, hmoves, hfaithful, -⟩ :=
      moves_through writes hg FONT_UPDATE_ADDR (by decide) (by decide)
      returns_font hshows (fontGate_calls x.cpu hx.pc hactive')
      (by
        rintro t ⟨hcalls, hmem⟩
        refine ⟨hcalls.pc, hcalls.link, ?_⟩
        rw [hmem]
        exact hshows)
      (by
        rintro t ⟨hcalls, hmem⟩
        refine hcalls.faithful hx ?_
        rw [hmem]
        exact Untouched.refl _)
    exact ⟨x', hmoves, hfaithful⟩
  | render =>
    obtain ⟨x', -, hmoves, hfaithful, -⟩ :=
      moves_through writes hg PROCESS_LIST_EXECUTE_ADDR (by decide)
      (by decide) (returns_render hmark) hshows (renderGate_calls x.cpu hx.pc hactive')
      (by
        rintro t ⟨hcalls, hmem⟩
        refine ⟨hcalls.pc, hcalls.link, ?_⟩
        rw [hmem]
        exact hshows.marked 4)
      (by
        rintro t ⟨hcalls, hmem⟩
        refine hcalls.faithful hx ?_
        rw [hmem]
        exact (Untouched.refl _).marked hmark 4)
    exact ⟨x', hmoves, hfaithful⟩

/-! ## The body with its hooks -/

/-- The three stretches of the body. -/
theorem next_entries (g : Game) : g.next (LOOP_START_ADDR + 4) = g.first.addr ∧
    g.next g.first.ret = g.first.other.addr ∧
    g.next g.first.other.ret = COUNTER_TAIL_HOOK_ADDR := by
  unfold Game.next
  generalize g.first = first
  cases first <;> decide

/-- One of the three counts the frame. -/
theorem counted_entries (hg : g.Contract gateImage) (frame : Nat) :
    counted g g.first.other.ret (counted g g.first.ret (counted g (LOOP_START_ADDR + 4) frame)) =
      (frame + 1) % 0x100000000 := by
  have hne : g.first.ret ≠ LOOP_START_ADDR + 4 ∧ g.first.other.ret ≠ LOOP_START_ADDR + 4 ∧
      g.first.other.ret ≠ g.first.ret := by
    cases g.first <;> decide
  have hcounter := hg.counter_mem
  simp only [List.mem_cons, List.not_mem_nil, or_false] at hcounter
  unfold counted
  rcases hcounter with h | h | h
  · rw [h, if_neg hne.2.1, if_neg hne.1, if_pos rfl]
  · rw [h, if_neg hne.2.2, if_pos rfl, if_neg hne.1.symm]
  · rw [h, if_pos rfl, if_neg hne.2.2.symm, if_neg hne.2.1.symm]

/-- From the start of the body to the hook at its end. -/
theorem moves_bodies (hg : g.Contract gateImage) {x : Machine} (names : Hook → List Nat)
    (hpc : x.cpu.pc = LOOP_START_ADDR + 4) (hshows : Shows x.cpu.mem c history frame)
    (hfaithful : x.passage.Faithful writes)
    (hhook : ∀ (hook : Hook) (x : Machine) (frame : Nat), AtHook hook.addr x →
      Shows x.cpu.mem c history frame →
      ∃ x', Moves writes g x (names hook) hook.ret c history frame x' ∧
      x'.passage.Faithful writes) :
    ∃ x', Moves writes g x ([LOOP_START_ADDR + 4] ++ names g.first ++ [g.first.ret] ++
      names g.first.other ++
        [g.first.other.ret]) COUNTER_TAIL_HOOK_ADDR c history ((frame + 1) % 0x100000000) x' ∧
      AtHook COUNTER_TAIL_HOOK_ADDR x' := by
  obtain ⟨hnext, hnext', hnext''⟩ := next_entries g
  obtain ⟨x₁, h₁, hat₁⟩ := moves_body hg (by simp [bodyEntries]) hpc hshows hfaithful
  rw [hnext] at hat₁
  obtain ⟨x₂, h₂, hfaithful₂⟩ := hhook _ _ _ hat₁ h₁.shows
  obtain ⟨x₃, h₃, hat₃⟩ := moves_body hg (by simp [bodyEntries]) h₂.pc h₂.shows hfaithful₂
  rw [hnext'] at hat₃
  obtain ⟨x₄, h₄, hfaithful₄⟩ := hhook _ _ _ hat₃ h₃.shows
  obtain ⟨x₅, h₅, hat₅⟩ := moves_body hg (by simp [bodyEntries]) h₄.pc h₄.shows hfaithful₄
  rw [hnext''] at hat₅
  rw [hnext'', counted_entries hg] at h₅
  exact ⟨x₅, (((h₁.trans h₂).trans h₃).trans h₄).trans h₅, hat₅⟩

/-! ## The end of the loop -/

/-- Without a request, the loop is left. -/
theorem tail_leaves (hg : g.Contract gateImage) (hmark : MayMark writes) {x : Machine}
    (hx : AtHook COUNTER_TAIL_HOOK_ADDR x) (hshows : Shows x.cpu.mem c history frame)
    (hrequest : c.request = 0) :
    ∃ x', Moves writes g x [OS_TICK_ADDR] COUNTER_TAIL_RETURN_ADDR
      { c with active := 0 } history frame x' ∧
      x'.passage.Faithful writes := by
  have hrequest' : load 4 x.cpu.mem REQUEST_ADDR = 0 := by
    rw [← hshows.control] at hrequest
    exact hrequest
  obtain ⟨x', -, hmoves, hfaithful, -⟩ :=
    moves_through writes hg OS_TICK_ADDR (by decide) (by decide)
    returns_loop hshows (loopGate_calls x.cpu hx.pc hrequest')
    (by
      rintro t ⟨hcalls, hmem⟩
      refine ⟨hcalls.pc, hcalls.link, ?_⟩
      rw [hmem]
      exact (hshows.marked 6).active (by decide))
    (by
      rintro t ⟨hcalls, hmem⟩
      refine hcalls.faithful hx ?_
      rw [hmem]
      exact ((Untouched.refl _).marked hmark 6).active hmark 0)
  exact ⟨x', hmoves, hfaithful⟩

/-- The machine is at the start of the loop, with the saved registers of the last hook. -/
structure AtStart (writes : Nat → Prop) (x : Machine) : Prop where
  pc : x.cpu.pc = LOOP_START_ADDR
  returned : x.returned = none
  saved : ∀ r ∈ savedRegs, x.cpu.reg r = x.hook.reg r
  mem : Untouched writes x.hook.mem x.cpu.mem

/-- The machine begins at the start of the loop. -/
theorem atStart_start {s : Cpu} (hpc : s.pc = LOOP_START_ADDR) : AtStart writes (Machine.start s) :=
  ⟨hpc, rfl, fun _ _ => rfl, Untouched.refl _⟩

/-- With a request, the loop begins again with one tick less to come. -/
theorem tail_loops {x : Machine} (hx : AtHook COUNTER_TAIL_HOOK_ADDR x)
    (hshows : Shows x.cpu.mem c history frame) {more : Nat} (hrequest : c.request = more + 1) :
    ∃ x', Moves replayWrites g x [] LOOP_START_ADDR
      { c with request := more, active := 1 } history frame x' ∧
      AtStart replayWrites x' := by
  have hrequest' : load 4 x.cpu.mem REQUEST_ADDR = more + 1 := by
    rw [← hshows.control] at hrequest
    exact hrequest
  have hlt : more + 1 < 0x100000000 := by
    rw [← hrequest']
    exact load_lt 4 _ _
  have hvalue : (more + 1 + 0x100000000 - 1) % 0x100000000 = more := by omega
  obtain ⟨t, hmoves, hat, hmem⟩ := moves_of_leads replayWrites (g := g) hshows
    (loopGate_loops x.cpu hx.pc (by rw [hrequest']; exact Nat.succ_ne_zero more)) (by
      rintro t ⟨hat, hmem⟩
      refine ⟨hat.pc, ?_⟩
      rw [hmem, hrequest', hvalue]
      exact ((hshows.marked 6).request (by omega)).active (by decide))
  refine ⟨_, hmoves, hat.pc, hx.returned, ?_, ?_⟩
  · intro r hr
    have ht : t.reg r = x.cpu.reg r := hat.kept r (List.mem_cons_of_mem _ hr)
    rw [ht, hx.hook]
  · rw [hx.hook, hmem]
    exact (((Untouched.refl _).marked mayMark_replayWrites 6).request _).active
      mayMark_replayWrites 1

/-! ## The start of the loop -/

/-- From the start of the loop, the input is updated faithfully. -/
theorem CallsInput.faithful {x : Machine} {t : Cpu} (h : CallsInput x.cpu t) (hx : AtStart writes x)
    (hmem : Untouched writes x.cpu.mem t.mem) :
    Passage.Faithful writes ⟨x.hook, x.returned, t⟩ := by
  refine ⟨?_, ?_, ?_, ?_⟩
  · intro r hr
    exact (h.saved r hr).trans (hx.saved r hr)
  · intro hargs
    have hne : INPUT_UPDATE_ADDR ∉ takesArgs := by decide
    exact absurd (h.pc ▸ hargs) hne
  · intro u hu
    rw [hx.returned] at hu
    cases hu
  · rw [hx.returned]
    exact hx.mem.trans hmem

/-- Without a history for this frame the input is updated as it is. -/
theorem input_plain (hg : g.Contract gateImage) (hmark : MayMark writes) {x : Machine}
    (hx : AtStart writes x) (hshows : Shows x.cpu.mem c history frame)
    (hplain : c.enabled = 0 ∨ c.index = 0 ∧ 0 < c.count ∧ c.startFrame ≠ frame) :
    ∃ x', Moves writes g x [INPUT_UPDATE_ADDR] (LOOP_START_ADDR + 4) c history frame x' ∧
      x'.passage.Faithful writes := by
  have hcontrol := hshows.control
  have hleads : Leads gateImage x.cpu fun t => CallsInput x.cpu t ∧ t.mem = x.cpu.mem := by
    subst hcontrol
    by_cases henabled : load 4 x.cpu.mem HISTORY_ENABLED_ADDR = 0
    · exact inputGate_disabled x.cpu hx.pc henabled
    · have hframe : load 4 x.cpu.mem HISTORY_INDEX_ADDR = 0 ∧
        0 < load 4 x.cpu.mem HISTORY_COUNT_ADDR ∧
          load 4 x.cpu.mem HISTORY_START_FRAME_ADDR ≠ frame := hplain.resolve_left henabled
      obtain ⟨hindex, hcount, hframe⟩ := hframe
      refine (inputGate_enabled x.cpu hx.pc henabled (by rw [hindex]; exact hcount)).trans ?_
      rintro s ⟨hinside, hmem⟩
      have hgame : load 4 s.mem GAME_FRAME_ADDR = frame := by
        rw [hmem]
        exact hshows.frame
      refine (inputGate_wrongFrame s hinside.pc (hinside.index.trans hindex) ?_).trans ?_
      · rw [hgame, hmem]
        exact hframe.symm
      · rintro t ⟨hcalls, hmem'⟩
        refine Leads.done ⟨⟨hcalls.pc, ?_, hcalls.link⟩, hmem'.trans hmem⟩
        intro r hr
        rw [hcalls.saved r hr, hinside.saved r hr]
  obtain ⟨x', -, hmoves, hfaithful, -⟩ :=
    moves_through writes hg INPUT_UPDATE_ADDR (by decide) (by decide)
    (returns_input hmark) hshows hleads
    (by
      rintro t ⟨hcalls, hmem⟩
      refine ⟨hcalls.pc, hcalls.link, ?_⟩
      rw [hmem]
      exact hshows)
    (by
      rintro t ⟨hcalls, hmem⟩
      refine hcalls.faithful hx ?_
      rw [hmem]
      exact Untouched.refl _)
  exact ⟨x', hmoves, hfaithful⟩

/-- The state at an address inside of the input gate that was entered from `s`, with the index of
the entry in register 12. -/
structure Chooses (s : Cpu) (addr index : Nat) (c : Control) (history : Nat → Entry)
    (frame : Nat) (t : Cpu) : Prop where
  pc : t.pc = addr
  index : t.reg 12 = index
  saved : ∀ r ∈ savedRegs, t.reg r = s.reg r
  shows : Shows t.mem c history frame
  mem : Untouched replayWrites s.mem t.mem

/-- At the first entry the remaining ticks are requested. -/
theorem input_first {s : Cpu} (hpc : s.pc = LOOP_START_ADDR) (hshows : Shows s.mem c history frame)
    (henabled : c.enabled ≠ 0) (hindex : c.index = 0) {last : Nat} (hcount : c.count = last + 1)
    (htarget : c.target ≠ 0) (hframe : c.startFrame = frame) :
    Leads gateImage s (Chooses s (INPUT_GATE_ADDR + 0x8c) 0
      { c with request := last, active := 1 } history
      frame) := by
  have hlast : last + 1 < 0x100000000 := by
    rw [← hcount, ← hshows.control]
    exact load_lt 4 _ _
  have hcontrol := hshows.control
  subst hcontrol
  have hindex' : load 4 s.mem HISTORY_INDEX_ADDR = 0 := hindex
  have hcount' : load 4 s.mem HISTORY_COUNT_ADDR = last + 1 := hcount
  refine (inputGate_enabled s hpc henabled
    (by rw [hindex', hcount']; exact Nat.succ_pos last)).trans ?_
  rintro s₁ ⟨hinside₁, hmem₁⟩
  have hgame : load 4 s₁.mem GAME_FRAME_ADDR = load 4 s₁.mem HISTORY_START_FRAME_ADDR := by
    rw [hmem₁]
    exact hshows.frame.trans hframe.symm
  refine (inputGate_firstEntry s₁ hinside₁.pc (hinside₁.index.trans hindex') hgame).trans ?_
  rintro s₂ ⟨hinside₂, hmem₂⟩
  have hshows₂ : Shows s₂.mem (controlOf s.mem) history frame := by
    rw [hmem₂, hmem₁]
    exact hshows.marked 1
  refine (inputGate_requests s₂ hinside₂.pc hinside₂.index ?_).trans ?_
  · have htarget₂ := congrArg Control.target hshows₂.control
    exact fun h => htarget (htarget₂.symm.trans h)
  · rintro t ⟨hinside, hmem⟩
    have hcount₂ : load 4 (store 4 s₂.mem ACTIVE_ADDR 1) HISTORY_COUNT_ADDR = last + 1 :=
      (congrArg Control.count (hshows₂.active (by decide)).control).trans hcount
    rw [hcount₂, show (last + 1 + 0x100000000 - 1) % 0x100000000 = last by omega] at hmem
    refine Leads.done ⟨hinside.pc, hinside.index, ?_, ?_, ?_⟩
    · intro r hr
      rw [hinside.saved r hr, hinside₂.saved r hr, hinside₁.saved r hr]
    · rw [hmem]
      exact (hshows₂.active (by decide)).request (by omega)
    · rw [hmem, hmem₂, hmem₁]
      exact (((Untouched.refl _).marked mayMark_replayWrites 1).active
        mayMark_replayWrites 1).request last

/-- A tick after the first takes the next entry. -/
theorem input_later {s : Cpu} (hpc : s.pc = LOOP_START_ADDR) (hshows : Shows s.mem c history frame)
    (henabled : c.enabled ≠ 0) {index : Nat} (hindex : c.index = index) (hpos : index ≠ 0)
    (hcount : index < c.count) (htarget : c.target ≠ 0) :
    Leads gateImage s (Chooses s (INPUT_GATE_ADDR + 0x8c) index c history frame) := by
  have hcontrol := hshows.control
  subst hcontrol
  have hindex' : load 4 s.mem HISTORY_INDEX_ADDR = index := hindex
  refine (inputGate_enabled s hpc henabled (by rw [hindex']; exact hcount)).trans ?_
  rintro s₁ ⟨hinside₁, hmem₁⟩
  refine (inputGate_laterEntry s₁ hinside₁.pc (hinside₁.index.trans hindex') hpos).trans ?_
  rintro s₂ ⟨hinside₂, hmem₂⟩
  refine (inputGate_continues s₂ hinside₂.pc hinside₂.index hpos ?_).trans ?_
  · rw [hmem₂, hmem₁]
    exact htarget
  · rintro t ⟨hinside, hmem⟩
    refine Leads.done ⟨hinside.pc, hinside.index, ?_, ?_, ?_⟩
    · intro r hr
      rw [hinside.saved r hr, hinside₂.saved r hr, hinside₁.saved r hr]
    · rw [hmem, hmem₂, hmem₁]
      exact hshows
    · rw [hmem, hmem₂, hmem₁]
      exact Untouched.refl _

/-- At the last entry the calls of the other hooks are switched on again. -/
theorem input_chosen {s₀ s : Cpu} {index last : Nat}
    (h : Chooses s₀ (INPUT_GATE_ADDR + 0x8c) index c history frame s) (htarget : c.target ≠ 0)
    (hcount : c.count = last + 1) :
    Leads gateImage s (Chooses s₀ (INPUT_GATE_ADDR + 0xbc) index
      { c with active := if index = last then 0 else c.active } history frame) := by
  obtain ⟨hpc, hindex, hsaved, hshows, hbefore⟩ := h
  have hlt : last + 1 < 0x100000000 := by
    rw [← hcount, ← hshows.control]
    exact load_lt 4 _ _
  have hcontrol := hshows.control
  subst hcontrol
  have hlast : (load 4 s.mem HISTORY_COUNT_ADDR + 0x100000000 - 1) % 0x100000000 = last := by
    rw [show load 4 s.mem HISTORY_COUNT_ADDR = last + 1 from hcount]
    omega
  by_cases heq : index = last
  · rw [if_pos heq]
    refine (inputGate_last s hpc hindex htarget hlast heq).trans ?_
    rintro t ⟨hinside, hmem⟩
    refine Leads.done ⟨hinside.pc, hinside.index, ?_, ?_, ?_⟩
    · intro r hr
      rw [hinside.saved r hr, hsaved r hr]
    · rw [hmem]
      exact hshows.active (by decide)
    · rw [hmem]
      exact hbefore.active mayMark_replayWrites 0
  · rw [if_neg heq]
    refine (inputGate_notLast s hpc hindex htarget hlast heq).trans ?_
    rintro t ⟨hinside, hmem⟩
    refine Leads.done ⟨hinside.pc, hinside.index, ?_, ?_, ?_⟩
    · intro r hr
      rw [hinside.saved r hr, hsaved r hr]
    · rw [hmem]
      exact hshows
    · rw [hmem]
      exact hbefore

/-- After the stores, the scratch area holds the entry. -/
theorem sees_present (m : Memory) (value : Nat) {m' : Memory} (index : Nat) {e : Entry}
    (he : entryAt m' index = e) : Sees (store 4 (present m e) HISTORY_INDEX_ADDR value) e := by
  subst he
  constructor <;> unfold present <;>
    simp (disch := decide) only [load_store_apart, load_store_self] <;>
    exact Nat.mod_eq_of_lt (load_lt _ _ _)

/-- An entry is presented, and the input is updated. -/
theorem input_presents {s₀ s : Cpu} {index : Nat}
    (h : Chooses s₀ (INPUT_GATE_ADDR + 0xbc) index c history frame s) (hindex : c.index = index)
    (hlt : index < HISTORY_CAPACITY) :
    Leads gateImage s fun t => CallsInput s₀ t ∧ Untouched replayWrites s₀.mem t.mem ∧
      Shows t.mem { c with index := index + 1 } history frame ∧ Sees t.mem (history index) := by
  have hshows := h.shows.marked 2
  have hentry := hshows.entries index hlt
  refine (inputGate_presents s h.pc h.index hlt rfl rfl).trans ?_
  rintro t ⟨hcalls, hmem⟩
  rw [hentry] at hmem
  have hpresent := hshows.present (history index)
  have hvalue : load 4 (present (store 4 s.mem STAGE_MARKER_ADDR 2) (history index))
    HISTORY_INDEX_ADDR =
      index := (congrArg Control.index hpresent.control).trans hindex
  have hbound : index < 12 := hlt
  rw [hvalue, Nat.mod_eq_of_lt (by omega)] at hmem
  refine Leads.done ⟨⟨hcalls.pc, ?_, hcalls.link⟩, ?_, ?_, ?_⟩
  · intro r hr
    rw [hcalls.saved r hr, h.saved r hr]
  · rw [hmem]
    exact ((h.mem.marked mayMark_replayWrites 2).present (history index)).index (index + 1)
  · rw [hmem]
    exact hpresent.index (by omega)
  · rw [hmem]
    exact sees_present _ _ index hentry

/-! ## Ticks -/

/-- The control words at the start of tick `k` of `last + 1`. -/
def before (c : Control) (last k : Nat) : Control :=
  if k = 0 then c else { c with index := k, request := last - k, active := 1 }

/-- The control words that make the loop replay `last + 1` entries. -/
structure Arms (c : Control) (last frame : Nat) : Prop where
  enabled : c.enabled ≠ 0
  index : c.index = 0
  count : c.count = last + 1
  target : c.target ≠ 0
  startFrame : c.startFrame = frame
  replayRender : c.replayRender = 0
  capacity : last < HISTORY_CAPACITY

variable {start last k : Nat}

/-- The control words in the body of tick `k`. -/
def during (c : Control) (last k : Nat) : Control :=
  { c with index := k + 1, request := last - k, active := if k = last then 0 else 1 }

/-- In each tick of an armed history, the gate takes the entry of this tick. -/
theorem Arms.leads (h : Arms c last start) (hk : k ≤ last) {s : Cpu} (hpc : s.pc = LOOP_START_ADDR)
    (hshows : Shows s.mem (before c last k) history frame) (hframe : k = 0 → frame = start) :
    Leads gateImage s (Chooses s (INPUT_GATE_ADDR + 0x8c) k
      { c with index := k, request := last - k, active := 1 } history frame) := by
  unfold before at hshows
  by_cases hzero : k = 0
  · subst hzero
    rw [if_pos rfl] at hshows
    have hleads := input_first hpc hshows h.enabled h.index h.count h.target
      (h.startFrame.trans (hframe rfl).symm)
    rw [h.index] at hleads
    exact hleads
  · rw [if_neg hzero] at hshows
    exact input_later hpc hshows h.enabled rfl hzero
      (by rw [h.count]; exact Nat.lt_succ_of_le hk) h.target

/-- The input of a tick is the entry of its number. -/
theorem Arms.input (hg : g.Contract gateImage) (h : Arms c last start) (hk : k ≤ last) {x : Machine}
    (hx : AtStart replayWrites x) (hshows : Shows x.cpu.mem (before c last k) history frame)
    (hframe : k = 0 → frame = start) :
    ∃ x' p, Moves replayWrites g x [INPUT_UPDATE_ADDR] (LOOP_START_ADDR + 4)
      (during c last k) history frame
        x' ∧ x'.passage.Faithful replayWrites ∧ x'.trace = x.trace ++ [p] ∧
        Sees p.enter.mem (history k) := by
  have hleads := ((h.leads hk hx.pc hshows hframe).trans fun s hs =>
    input_chosen hs h.target h.count).trans fun s hs =>
      input_presents hs rfl (Nat.lt_of_le_of_lt hk h.capacity)
  obtain ⟨x', t, hmoves, hfaithful, htrace, -, -, -, hsees⟩ := moves_through replayWrites hg
    INPUT_UPDATE_ADDR (by decide) (by decide) (returns_input mayMark_replayWrites) hshows hleads
    (fun t ht => ⟨ht.1.pc, ht.1.link, ht.2.2.1⟩) fun t ht => ht.1.faithful hx ht.2.1
  exact ⟨x', _, hmoves, hfaithful, htrace, hsees⟩

/-- A tick that is not the last one goes back to the start of the loop. -/
theorem Arms.tick (hg : g.Contract gateImage) (h : Arms c last start) (hk : k < last) {x : Machine}
    (hx : AtStart replayWrites x) (hshows : Shows x.cpu.mem (before c last k) history frame)
    (hframe : k = 0 → frame = start) :
    ∃ x' p, Moves replayWrites g x g.shortTick LOOP_START_ADDR (before c last (k + 1)) history
        ((frame + 1) % 0x100000000) x' ∧ AtStart replayWrites x' ∧
      x'.trace[x.trace.length]? = some p ∧ Sees p.enter.mem (history k) := by
  obtain ⟨x₁, p, h₁, hfaithful₁, htrace₁, hsees⟩ := h.input hg hk.le hx hshows hframe
  have hactive : (during c last k).active ≠ 0 := by
    unfold during
    rw [if_neg hk.ne]
    exact Nat.one_ne_zero
  obtain ⟨x₂, h₂, hat₂⟩ := moves_bodies hg (fun _ => []) h₁.pc h₁.shows hfaithful₁
    fun hook x frame hx hshows =>
      hook_skips mayMark_replayWrites hook hx hshows hactive h.replayRender
  obtain ⟨x₃, h₃, hat₃⟩ := tail_loops (g := g) hat₂ h₂.shows
    (show (during c last k).request = last - (k + 1) + 1 by unfold during; dsimp only; omega)
  refine ⟨x₃, p, (h₁.trans h₂).trans h₃, hat₃, ?_, hsees⟩
  rw [(h₂.trans h₃).enters.getElem? (by rw [htrace₁]; simp), htrace₁, List.getElem?_concat_length]

/-- The last tick calls the functions of the hooks, and the loop is left. -/
theorem Arms.lastTick (hg : g.Contract gateImage) (h : Arms c last start) {x : Machine}
    (hx : AtStart replayWrites x) (hshows : Shows x.cpu.mem (before c last last) history frame)
    (hframe : last = 0 → frame = start) :
    ∃ x' p, Moves replayWrites g x g.fullTick COUNTER_TAIL_RETURN_ADDR
        { c with index := last + 1, request := 0, active := 0 } history
          ((frame + 1) % 0x100000000) x' ∧
      x'.passage.Faithful replayWrites ∧ x'.trace[x.trace.length]? = some p ∧
      Sees p.enter.mem (history last) := by
  obtain ⟨x₁, p, h₁, hfaithful₁, htrace₁, hsees⟩ := h.input hg (Nat.le_refl last) hx hshows hframe
  obtain ⟨x₂, h₂, hat₂⟩ := moves_bodies hg (fun hook => [hook.callee]) h₁.pc h₁.shows hfaithful₁
    fun hook x frame hx hshows => hook_calls hg mayMark_replayWrites hook hx hshows (if_pos rfl)
  obtain ⟨x₃, h₃, hfaithful₃⟩ :=
    tail_leaves hg mayMark_replayWrites hat₂ h₂.shows (Nat.sub_self last)
  have hmoves := (h₁.trans h₂).trans h₃
  unfold during at hmoves
  rw [Nat.sub_self] at hmoves
  refine ⟨x₃, p, hmoves, hfaithful₃, ?_, hsees⟩
  rw [(h₂.trans h₃).enters.getElem? (by rw [htrace₁]; simp), htrace₁, List.getElem?_concat_length]

/-- From tick `k` on, the remaining entries are replayed. -/
theorem Arms.replays (hg : g.Contract gateImage) (h : Arms c last start) :
    ∀ more k, k + more = last → ∀ {x : Machine} {frame : Nat}, AtStart replayWrites x →
      Shows x.cpu.mem (before c last k) history frame → (k = 0 → frame = start) →
      ∃ x', Moves replayWrites g x ((List.replicate more g.shortTick).flatten ++ g.fullTick)
          COUNTER_TAIL_RETURN_ADDR { c with index := last + 1, request := 0, active := 0 } history
          ((frame + (more + 1)) % 0x100000000) x' ∧ x'.passage.Faithful replayWrites ∧
        ∀ i < more + 1, ∃ p, x'.trace[x.trace.length + g.shortTick.length * i]? = some p ∧
          Sees p.enter.mem (history (k + i)) := by
  intro more
  induction more with
  | zero =>
    intro k hk x frame hx hshows hframe
    obtain rfl : k = last := hk
    obtain ⟨x', p, hmoves, hfaithful, htrace, hsees⟩ := h.lastTick hg hx hshows hframe
    refine ⟨x', hmoves, hfaithful, ?_⟩
    intro i hi
    obtain rfl : i = 0 := by omega
    exact ⟨p, htrace, hsees⟩
  | succ more ih =>
    intro k hk x frame hx hshows hframe
    obtain ⟨x₁, p, h₁, hx₁, htrace₁, hsees⟩ := h.tick hg (by omega) hx hshows hframe
    obtain ⟨x', hmoves, hfaithful, hinputs⟩ :=
      ih (k + 1) (by omega) hx₁ h₁.shows (fun hzero => nomatch hzero)
    have hlength := h₁.enters.length
    refine ⟨x', ?_, hfaithful, ?_⟩
    · have htrans := h₁.trans hmoves
      rwa [show ((frame + 1) % 0x100000000 + (more + 1)) % 0x100000000 =
          (frame + (more + 1 + 1)) % 0x100000000 by omega, ← List.append_assoc, ← List.flatten_cons,
        ← List.replicate_succ] at htrans
    · intro i hi
      cases i with
      | zero =>
        refine ⟨p, ?_, hsees⟩
        have hlt : x.trace.length < x₁.trace.length := by
          rw [hlength]
          exact Nat.lt_add_of_pos_right (Nat.succ_pos _)
        rw [Nat.mul_zero, Nat.add_zero, hmoves.enters.getElem? hlt]
        exact htrace₁
      | succ i =>
        obtain ⟨q, hq, hsees'⟩ := hinputs i (by omega)
        refine ⟨q, ?_, ?_⟩
        · rwa [hlength, show x.trace.length + g.shortTick.length + g.shortTick.length * i =
            x.trace.length + g.shortTick.length * (i + 1) by rw [Nat.mul_succ]; omega] at hq
        · rwa [show k + (i + 1) = k + 1 + i by omega]

/-- An armed history is replayed to its end. -/
theorem Arms.replayed (hg : g.Contract gateImage) {s : Cpu} (hpc : s.pc = LOOP_START_ADDR)
    (hin : gateImage.In s.mem) (h : Arms (controlOf s.mem) last (gameFrame s.mem)) :
    ∃ x', Machine.Reaches gateImage g (Machine.start s) x' ∧ Replayed g s.mem (last + 1) x' := by
  have hshows : Shows s.mem (before (controlOf s.mem) last 0) (entryAt s.mem) (gameFrame s.mem) :=
    ⟨hin, rfl, fun _ _ => rfl, rfl⟩
  obtain ⟨x', hmoves, hfaithful, hinputs⟩ :=
    h.replays hg last 0 (Nat.zero_add last) (atStart_start hpc) hshows (fun _ => rfl)
  refine ⟨x', hmoves.reaches, hmoves.pc, hmoves.enters.places_eq rfl,
    hmoves.enters.faithful rfl hfaithful, ?_,
    hmoves.shows.control, hmoves.shows.entries, hmoves.shows.frame⟩
  intro k hk
  obtain ⟨p, hp, hsees⟩ := hinputs k hk
  rw [Nat.zero_add] at hsees
  rw [show (Machine.start s).trace.length = 0 from rfl, Nat.zero_add] at hp
  exact ⟨p, hp, hsees⟩

/-- A tick without a replay. -/
theorem ticked_once (hg : g.Contract gateImage) {s : Cpu} (hpc : s.pc = LOOP_START_ADDR)
    (hin : gateImage.In s.mem) (hc : controlOf s.mem = c)
    (hplain : c.enabled = 0 ∨ c.index = 0 ∧ 0 < c.count ∧ c.startFrame ≠ gameFrame s.mem)
    (hrequest : c.request = 0) (hactive : c.active = 0) :
    ∃ x', Machine.Reaches gateImage g (Machine.start s) x' ∧ TickedOnce g s.mem x' := by
  have hshows : Shows s.mem c (entryAt s.mem) (gameFrame s.mem) := ⟨hin, hc, fun _ _ => rfl, rfl⟩
  obtain ⟨x₁, h₁, hfaithful₁⟩ := input_plain hg mayMark_tickWrites (atStart_start hpc) hshows hplain
  obtain ⟨x₂, h₂, hat₂⟩ := moves_bodies hg (fun hook => [hook.callee]) h₁.pc h₁.shows hfaithful₁
    fun hook x frame hx hshows => hook_calls hg mayMark_tickWrites hook hx hshows hactive
  obtain ⟨x₃, h₃, hfaithful₃⟩ := tail_leaves hg mayMark_tickWrites hat₂ h₂.shows hrequest
  have hmoves := (h₁.trans h₂).trans h₃
  refine ⟨x₃, hmoves.reaches, hmoves.pc, hmoves.enters.places_eq rfl,
    hmoves.enters.faithful rfl hfaithful₃, ?_,
    hmoves.shows.entries, hmoves.shows.frame⟩
  rw [hmoves.shows.control, hc, ← hactive]

/-! ## The loop as it was -/

/-- The four words that the hooks replace. -/
def originalImage : Image :=
  [(LOOP_START_ADDR, [0xeb0000d8]), (FONT_HOOK_ADDR, [0xeb003ed4]),
    (COUNTER_TAIL_HOOK_ADDR, [0xebffd043]), (RENDER_HOOK_ADDR, [0xebffff9e])]

theorem originalHooks_eq : originalHooks = .ok originalImage := by
  decide +kernel

/-- The same of the words that the hooks replace. -/
theorem outside_originalImage : Outside originalImage := by
  unfold Outside
  decide +kernel

/-- What the gates keep, they keep of the hooks that they replace. -/
theorem in_originalImage {m m' : Memory} (hkeeps : Keeps gateImage m m') (h : originalImage.In m) :
    originalImage.In m' := by
  intro addr w hw
  obtain ⟨seg, hseg, hle, hlt⟩ := Image.word_eq_some hw
  have hall : ∀ seg ∈ originalImage, ∃ seg' ∈ gateImage, seg'.1 = seg.1 ∧
      seg'.2.length = seg.2.length := by
    decide +kernel
  obtain ⟨seg', hseg', hbase, hlength⟩ := hall seg hseg
  rw [← h addr w hw]
  exact load_congr fun i hi hi' => hkeeps i (.inl ⟨seg', hseg', by omega, by omega⟩)

/-- `x'` is reached in the original loop, with the game entered at `places`. -/
structure Runs (g : Game) (x : Machine) (places : List Nat) (addr : Nat) (x' : Machine) : Prop where
  reaches : Machine.Reaches originalImage g x x'
  pc : x'.cpu.pc = addr
  image : originalImage.In x'.cpu.mem
  enters : Enters noWrites x places x'

/-- Stretches of the original loop one after the other. -/
theorem Runs.trans {x x' x'' : Machine} {places places' : List Nat} {addr addr' : Nat}
    (h : Runs g x places addr x') (h' : Runs g x' places' addr' x'') :
    Runs g x (places ++ places') addr' x'' :=
  ⟨h.reaches.trans h'.reaches, h'.pc, h'.image, h.enters.trans h'.enters⟩

/-- The call at a hook hands over the arguments and the saved registers. -/
theorem original_calls {s : Cpu} {addr entry : Nat}
    (hop : Leads.target originalImage addr = some (14, true, entry)) (hpc : s.pc = addr) :
    Leads originalImage s fun t => Calls s entry (addr + 4) t ∧ t.mem = s.mem := by
  obtain ⟨reg, pc, n, z, c, v, mem⟩ := s
  cases hpc
  refine Leads.bl entry hop (Leads.done ⟨⟨rfl, ?_, set_self reg 14 (pc + 4), ?_⟩, rfl⟩)
  · intro r hr
    fin_cases hr <;> rfl
  · intro r hr
    fin_cases hr <;> rfl

/-- The call that a gate replaces. -/
theorem runs_hook (hg : g.Contract gateImage) {x : Machine} {addr : Nat} (entry : Nat)
    (hentry : entry ∈ Machine.callees) (hnext : addr + 4 ∉ takesArgs)
    (hop : Leads.target originalImage addr = some (14, true, entry)) (hx : AtHook addr x)
    (hin : originalImage.In x.cpu.mem) :
    ∃ x', Runs g x [entry] (addr + 4) x' ∧ x'.passage.Faithful noWrites := by
  obtain ⟨t, hreaches, hcalls, hmem⟩ :=
    reaches_of_leads (g := g) outside_originalImage hin (original_calls hop hx.pc)
  have hentered : (Machine.passage { x with cpu := t }).Faithful noWrites := by
    refine hcalls.faithful hx ?_
    rw [hmem]
    exact Untouched.refl _
  have hne : t.pc ≠ COUNTER_TAIL_RETURN_ADDR := by
    have hall : ∀ a ∈ Machine.callees, a ≠ COUNTER_TAIL_RETURN_ADDR := by decide +kernel
    rw [hcalls.pc]
    exact hall _ hentry
  have hstep : Machine.step originalImage g { x with cpu := t } =
      some { x with cpu := g.call x.time t.pc t, time := x.time + 1,
                    returned := some (g.call x.time t.pc t),
                    trace := x.trace ++ [Machine.passage { x with cpu := t }] } := by
    unfold Machine.step
    dsimp only
    rw [if_neg hne, if_pos (hcalls.pc ▸ hentry)]
  have hreturn : (g.call x.time t.pc t).pc = addr + 4 := (hg.call_returns _ _ _).trans hcalls.link
  refine ⟨_, ⟨hreaches.tail hstep, hreturn, ?_, ?_⟩, ?_, ?_, ?_, ?_⟩
  · rw [← hmem] at hin
    exact in_originalImage (hg.call_keeps _ _ _) hin
  · refine ⟨[_], rfl, ?_, ?_⟩
    · rw [List.map_singleton, ← hcalls.pc]
      rfl
    · intro p hp
      rw [List.mem_singleton.mp hp]
      exact hentered
  · intro r hr
    have hback : (g.call x.time t.pc t).reg r = t.reg r := hg.call_saved _ _ _ r hr
    exact hback.trans (hentered.saved r hr)
  · intro hargs
    have hargs' : addr + 4 ∈ takesArgs := hreturn ▸ hargs
    exact absurd hargs' hnext
  · intro u hu
    exact congrArg (fun u : Cpu => u.reg 0) (Option.some.inj hu)
  · exact Untouched.refl _

/-- The body comes to the next hook. -/
theorem runs_body (hg : g.Contract gateImage) {x : Machine} {addr : Nat}
    (haddr : addr ∈ bodyEntries g) (hpc : x.cpu.pc = addr) (hin : originalImage.In x.cpu.mem)
    (hfaithful : x.passage.Faithful noWrites) :
    ∃ x', Runs g x [addr] (g.next addr) x' ∧ AtHook (g.next addr) x' := by
  subst hpc
  have hout : x.cpu.pc ≠ COUNTER_TAIL_RETURN_ADDR ∧ x.cpu.pc ∉ Machine.callees ∧
      originalImage.word x.cpu.pc = none := by
    have hall : ∀ hook : Hook, ∀ a ∈ [LOOP_START_ADDR + 4, hook.ret, hook.other.ret],
        a ≠ COUNTER_TAIL_RETURN_ADDR ∧ a ∉ Machine.callees ∧ originalImage.word a = none := by
      intro hook
      cases hook <;> decide +kernel
    exact hall g.first _ haddr
  have hnext : (g.body x.time x.cpu).pc = g.next x.cpu.pc := hg.body_next _ _ haddr
  have hstep : x.step originalImage g =
      some { cpu := g.body x.time x.cpu, time := x.time + 1, hook := g.body x.time x.cpu,
             trace := x.trace ++ [x.passage] } := by
    unfold Machine.step
    dsimp only
    rw [if_neg hout.1, if_neg hout.2.1, hout.2.2]
    rfl
  refine ⟨_, ⟨Relation.ReflTransGen.single hstep, hnext, ?_, Enters.once hfaithful rfl⟩, hnext, rfl,
    rfl⟩
  exact in_originalImage (hg.body_keeps _ _) hin

/-- A hook between start and end calls its function. -/
theorem runs_betweenHook (hg : g.Contract gateImage) (hook : Hook) {x : Machine}
    (hx : AtHook hook.addr x) (hin : originalImage.In x.cpu.mem) :
    ∃ x', Runs g x [hook.callee] hook.ret x' ∧ x'.passage.Faithful noWrites := by
  cases hook with
  | render =>
    exact runs_hook hg PROCESS_LIST_EXECUTE_ADDR (by decide) (by decide) (by decide +kernel) hx hin
  | font => exact runs_hook hg FONT_UPDATE_ADDR (by decide) (by decide) (by decide +kernel) hx hin

/-- One tick of the original loop. -/
theorem runs_once (hg : g.Contract gateImage) {s : Cpu} (hpc : s.pc = LOOP_START_ADDR)
    (hin : originalImage.In s.mem) :
    ∃ x', Machine.Reaches originalImage g (Machine.start s) x' ∧ x'.left ∧ x'.places = g.fullTick ∧
      x'.Faithful noWrites := by
  obtain ⟨hnext, hnext', hnext''⟩ := next_entries g
  obtain ⟨x₀, h₀, hfaithful₀⟩ := runs_hook (x := Machine.start s) hg INPUT_UPDATE_ADDR (by decide)
    (by decide) (by decide +kernel) ⟨hpc, rfl, rfl⟩ hin
  obtain ⟨x₁, h₁, hat₁⟩ := runs_body hg (by simp [bodyEntries]) h₀.pc h₀.image hfaithful₀
  rw [hnext] at hat₁
  obtain ⟨x₂, h₂, hfaithful₂⟩ := runs_betweenHook hg _ hat₁ h₁.image
  obtain ⟨x₃, h₃, hat₃⟩ := runs_body hg (by simp [bodyEntries]) h₂.pc h₂.image hfaithful₂
  rw [hnext'] at hat₃
  obtain ⟨x₄, h₄, hfaithful₄⟩ := runs_betweenHook hg _ hat₃ h₃.image
  obtain ⟨x₅, h₅, hat₅⟩ := runs_body hg (by simp [bodyEntries]) h₄.pc h₄.image hfaithful₄
  rw [hnext''] at hat₅
  obtain ⟨x₆, h₆, hfaithful₆⟩ :=
    runs_hook hg OS_TICK_ADDR (by decide) (by decide) (by decide +kernel) hat₅
    h₅.image
  have hruns := (((((h₀.trans h₁).trans h₂).trans h₃).trans h₄).trans h₅).trans h₆
  exact ⟨x₆, hruns.reaches, hruns.pc, hruns.enters.places_eq rfl,
    hruns.enters.faithful rfl hfaithful₆⟩

/-- The patched loop replays a history that was armed for its frame, and is the original loop
otherwise: the game is entered at the same places, each time with its own registers. -/
theorem patched_loop {image original : Image} (himage : patchGameTickProbe = .ok image)
    (horiginal : originalHooks = .ok original) (hg : g.Contract image) (s : Cpu)
    (hpc : s.pc = LOOP_START_ADDR) (hin : image.In s.mem) (hc : controlOf s.mem = c) :
    (∀ n, 1 ≤ n → n ≤ HISTORY_CAPACITY → c.enabled ≠ 0 → c.index = 0 → c.count = n → c.target = 1 →
      c.startFrame = gameFrame s.mem → c.replayRender = 0 →
      ∃ x, Machine.Reaches image g (Machine.start s) x ∧ Replayed g s.mem n x) ∧
    (c.request = 0 → c.active = 0 →
      (c.enabled = 0 ∨ c.index = 0 ∧ 0 < c.count ∧ c.startFrame ≠ gameFrame s.mem) →
      ∃ x, Machine.Reaches image g (Machine.start s) x ∧ TickedOnce g s.mem x ∧
        ∀ s' : Cpu, s'.pc = LOOP_START_ADDR → original.In s'.mem →
          ∃ y, Machine.Reaches original g (Machine.start s') y ∧ y.left ∧ y.places = x.places ∧
            y.Faithful noWrites) := by
  obtain rfl : gateImage = image := Except.ok.inj (patchGameTickProbe_eq.symm.trans himage)
  obtain rfl : originalImage = original := Except.ok.inj (originalHooks_eq.symm.trans horiginal)
  subst hc
  constructor
  · intro n hpos hcapacity henabled hindex hcount htarget hframe hreplay
    obtain ⟨last, rfl⟩ : ∃ last, n = last + 1 := ⟨n - 1, by omega⟩
    refine Arms.replayed hg hpc hin ⟨henabled, hindex, hcount, ?_, hframe, hreplay, hcapacity⟩
    rw [htarget]
    exact Nat.one_ne_zero
  · intro hrequest hactive hplain
    obtain ⟨x, hreaches, hticked⟩ := ticked_once hg hpc hin rfl hplain hrequest hactive
    refine ⟨x, hreaches, hticked, ?_⟩
    intro s' hpc' hin'
    obtain ⟨y, hreaches', hleft, hplaces, hfaithful⟩ := runs_once hg hpc' hin'
    exact ⟨y, hreaches', hleft, hplaces.trans hticked.places.symm, hfaithful⟩

end

/-- A game that only counts its frames. -/
def idleGame : Game where
  call := fun _ _ s => { s with pc := s.reg 14 }
  body := fun _ s =>
    if s.pc = LOOP_START_ADDR + 4 then
      { s with
        pc := RENDER_HOOK_ADDR
        mem := store 4 s.mem GAME_FRAME_ADDR ((gameFrame s.mem + 1) % 0x100000000) }
    else
      { s with pc := if s.pc = RENDER_RETURN_ADDR then FONT_HOOK_ADDR else COUNTER_TAIL_HOOK_ADDR }
  first := .render
  counter := LOOP_START_ADDR + 4

/-- A game that does nothing but return and count keeps the contract. -/
theorem idleGame_contract : idleGame.Contract gateImage where
  call_returns _ _ _ := rfl
  call_saved _ _ _ _ _ := rfl
  call_keeps _ _ _ _ _ := rfl
  call_frame _ _ _ := rfl
  body_next _ s hs := by
    simp only [List.mem_cons, List.not_mem_nil, or_false] at hs
    obtain ⟨reg, pc, n, z, c, v, mem⟩ := s
    rcases hs with h | h | h <;> cases h <;> rfl
  body_keeps _ s addr haddr := by
    unfold idleGame
    dsimp only
    split
    · refine store_outside 4 s.mem _ ?_
      have hall : ∀ seg ∈ gateImage, GAME_FRAME_ADDR + 4 ≤ seg.1 ∨
          seg.1 + 4 * seg.2.length ≤ GAME_FRAME_ADDR := by decide +kernel
      unfold Protected at haddr
      simp only [GAME_FRAME_ADDR, REQUEST_ADDR, HISTORY_START_FRAME_ADDR,
        REPLAY_RENDER_ADDR, HISTORY_ADDR, HISTORY_CAPACITY, HISTORY_ENTRY_BYTES] at haddr hall ⊢
      rcases haddr with ⟨seg, hseg, hle, hlt⟩ | h | h | h
      · have hapart := hall seg hseg
        omega
      · omega
      · omega
      · omega
    · rfl
  body_frame _ s := by
    unfold idleGame
    dsimp only
    split
    · rw [gameFrame, load_store_self]
      exact Nat.mod_eq_of_lt (Nat.mod_lt _ (by decide))
    · rfl
  counter_mem := List.mem_cons_self ..

/-- A memory with the gates and zeros. -/
def gateMemory : Memory := fun addr =>
  UInt8.ofNat ((gateImage.word (addr - addr % 4)).getD 0 >>> (8 * (addr % 4)))

theorem in_gateMemory : gateImage.In gateMemory := by
  refine Image.in_of_forall ?_
  decide +kernel

/-- The processor at the start of the loop. -/
def atLoop (m : Memory) : Cpu :=
  { reg := fun _ => 0, pc := LOOP_START_ADDR, n := false, z := false, c := false, v := false,
    mem := m }

/-- A history of two entries is armed. -/
def armedMemory : Memory :=
  store 4 (store 4 (store 4 gateMemory HISTORY_ENABLED_ADDR 1) HISTORY_COUNT_ADDR 2)
    HISTORY_TARGET_ADDR 1

theorem in_armedMemory : gateImage.In armedMemory :=
  ((in_gateMemory.store (by decide +kernel) 1).store (by decide +kernel) 2).store
    (by decide +kernel) 1

theorem idleGame_replays_and_ticks :
    (∃ x, Machine.Reaches gateImage idleGame (Machine.start (atLoop armedMemory)) x ∧
      Replayed idleGame armedMemory 2 x) ∧
    ∃ x, Machine.Reaches gateImage idleGame (Machine.start (atLoop gateMemory)) x ∧
      TickedOnce idleGame gateMemory x := by
  constructor
  · have hc : controlOf armedMemory = ⟨0, 0, 1, 0, 2, 1, 0, 0⟩ := by decide +kernel
    have hframe : 0 = gameFrame armedMemory := by decide +kernel
    exact (patched_loop patchGameTickProbe_eq originalHooks_eq idleGame_contract
      (atLoop armedMemory) rfl
      in_armedMemory hc).1 2 (by decide) (by decide) (by decide) rfl rfl rfl hframe rfl
  · have hc : controlOf gateMemory = ⟨0, 0, 0, 0, 0, 0, 0, 0⟩ := by decide +kernel
    obtain ⟨x, hreaches, hticked, -⟩ := (patched_loop patchGameTickProbe_eq originalHooks_eq
      idleGame_contract (atLoop gateMemory) rfl in_gateMemory hc).2 rfl rfl (.inl rfl)
    exact ⟨x, hreaches, hticked⟩

/-- The loop is left in one way only. -/
theorem left_unique {g : Game} {x x₁ x₂ : Machine}
    (h₁ : Machine.Reaches gateImage g x x₁) (hleft₁ : x₁.left)
    (h₂ : Machine.Reaches gateImage g x x₂) (hleft₂ : x₂.left) : x₁ = x₂ := by
  have hstuck : ∀ {y : Machine}, y.left → ∀ {y'}, Machine.Reaches gateImage g y y' → y = y' := by
    intro y hleft y' hreaches
    rcases Relation.ReflTransGen.cases_head hreaches with heq | ⟨y₁, hstep, -⟩
    · exact heq
    · have hpc : y.cpu.pc = COUNTER_TAIL_RETURN_ADDR := hleft
      unfold Machine.step at hstep
      dsimp only at hstep
      rw [if_pos hpc] at hstep
      cases hstep
  have hunique : Relator.RightUnique fun y y' : Machine => y.step gateImage g = some y' :=
    fun y y₁ y₂ hy₁ hy₂ => Option.some.inj (hy₁.symm.trans hy₂)
  rcases Relation.ReflTransGen.total_of_right_unique hunique h₁ h₂ with h | h
  · exact hstuck hleft₁ h
  · exact (hstuck hleft₂ h).symm

/-- A word that was left behind in `ACTIVE_ADDR` keeps the font from its update, also without a
history. -/
theorem font_skipped_without_history :
    idleGame.Contract gateImage ∧ gateImage.In (store 4 gateMemory ACTIVE_ADDR 1) ∧
      (controlOf (store 4 gateMemory ACTIVE_ADDR 1)).enabled = 0 ∧
      (controlOf (store 4 gateMemory ACTIVE_ADDR 1)).request = 0 ∧
      ¬ ∃ x, Machine.Reaches gateImage idleGame
          (Machine.start (atLoop (store 4 gateMemory ACTIVE_ADDR 1))) x ∧ x.left ∧
        FONT_UPDATE_ADDR ∈ x.places := by
  have hin : gateImage.In (store 4 gateMemory ACTIVE_ADDR 1) :=
    in_gateMemory.store (by decide +kernel) 1
  have hc : controlOf (store 4 gateMemory ACTIVE_ADDR 1) = ⟨0, 1, 0, 0, 0, 0, 0, 0⟩ := by
    decide +kernel
  refine ⟨idleGame_contract, hin, by rw [hc], by rw [hc], ?_⟩
  rintro ⟨x, hreaches, hleft, hfont⟩
  have hshows : Shows (atLoop (store 4 gateMemory ACTIVE_ADDR 1)).mem ⟨0, 1, 0, 0, 0, 0, 0, 0⟩
      (entryAt (store 4 gateMemory ACTIVE_ADDR 1)) (gameFrame (store 4 gateMemory ACTIVE_ADDR 1)) :=
    ⟨hin, hc, fun _ _ => rfl, rfl⟩
  obtain ⟨x₁, h₁, hfaithful₁⟩ :=
    input_plain idleGame_contract mayMark_tickWrites (atStart_start rfl) hshows (.inl rfl)
  obtain ⟨x₂, h₂, hat₂⟩ := moves_bodies idleGame_contract (fun _ => []) h₁.pc h₁.shows hfaithful₁
    fun hook x frame hx hshows => hook_skips mayMark_tickWrites hook hx hshows Nat.one_ne_zero rfl
  obtain ⟨x₃, h₃, -⟩ := tail_leaves idleGame_contract mayMark_tickWrites hat₂ h₂.shows rfl
  have hmoves := (h₁.trans h₂).trans h₃
  obtain rfl := left_unique hreaches hleft hmoves.reaches hmoves.pc
  rw [hmoves.enters.places_eq rfl] at hfont
  revert hfont
  decide

end Bigstar.Rom
