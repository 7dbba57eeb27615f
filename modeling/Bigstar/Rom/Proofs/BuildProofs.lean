import Bigstar.Rom.Proofs.EncoderProofs

/-!
# Building a gate from a listing

While a gate is built, its words are the items of a listing that have been written so far. A piece
of a builder appends items, a word that is kept free is an item that is written later, and linking
puts the loads of the literals in place once the length of the code is known.
-/

namespace Bigstar.Rom

open Arm Build

variable {start : Nat} {g g' : Gate} {done : Listing} {opened : List (Nat × Item)}

theorem run_bind_eq_ok {α β : Type} {m : Build α} {f : α → Build β} {b : β} :
    (m >>= f).run g = .ok (b, g') ↔ ∃ a g₁, m.run g = .ok (a, g₁) ∧ (f a).run g₁ = .ok (b, g') := by
  rw [StateT.run_bind]
  cases hm : m.run g with
  | error e =>
    constructor
    · intro h
      cases h
    · rintro ⟨a, g₁, h, -⟩
      cases h
  | ok p =>
    constructor
    · exact fun h => ⟨p.1, p.2, rfl, h⟩
    · rintro ⟨a, g₁, h, hf⟩
      cases h
      exact hf

theorem run_push_eq_ok {word : Except EncodeError Nat} :
    (push word).run g = .ok ((), g') ↔
      ∃ w, word = .ok w ∧ g' = { g with words := g.words ++ [w] } := by
  cases word with
  | error e =>
    constructor
    · intro h
      cases h
    · rintro ⟨w, h, -⟩
      cases h
  | ok w =>
    constructor
    · intro h
      cases h
      exact ⟨w, rfl, rfl⟩
    · rintro ⟨w', h, rfl⟩
      cases h
      rfl

theorem run_fill_eq_ok {index : Nat} {word : Except EncodeError Nat} :
    (fill index word).run g = .ok ((), g') ↔
      ∃ w, word = .ok w ∧ g' = { g with words := g.words.set index w } := by
  cases word with
  | error e =>
    constructor
    · intro h
      cases h
    · rintro ⟨w, h, -⟩
      cases h
  | ok w =>
    constructor
    · intro h
      cases h
      exact ⟨w, rfl, rfl⟩
    · rintro ⟨w', h, rfl⟩
      cases h
      rfl

/-! ## Items that have been written -/

/-- The gate holds the items, those apart whose words are kept free. -/
structure Codes (start : Nat) (g : Gate) (done : Listing) (opened : List (Nat × Item)) : Prop where
  length : g.words.length = done.length
  code : ∀ (i : Nat) (item : Item), done[i]? = some item → (i, item) ∉ opened →
    ∃ word, g.words[i]? = some word ∧ item.Decodes (start + i * 4) word
  opened : ∀ p ∈ opened, done[p.1]? = some p.2
  literals : g.literals = done.pool
  refs : ∀ i rd k cond : Nat, (i, rd, k, cond) ∈ g.refs ↔
    cond = 14 ∧ k = (Listing.pool (done.take i)).length ∧ ∃ value, done[i]? = some (.lit rd value)
  regs : ∀ i rd value : Nat, done[i]? = some (.lit rd value) → rd < 15

theorem Codes.init : Codes start {} [] [] where
  length := rfl
  code := fun i item h => by cases h
  opened := fun p h => by cases h
  literals := rfl
  refs := fun i rd k cond => by
    constructor
    · intro h
      cases h
    · rintro ⟨-, -, value, h⟩
      cases h
  regs := fun i rd value h => by cases h

theorem getElem?_concat {α : Type} {l : List α} {a b : α} {i : Nat} (h : (l ++ [a])[i]? = some b) :
    l[i]? = some b ∨ i = l.length ∧ a = b := by
  by_cases hi : i < l.length
  · rw [List.getElem?_append_left hi] at h
    exact Or.inl h
  · rw [List.getElem?_append_right (Nat.not_lt.mp hi), List.getElem?_singleton] at h
    split at h
    · next hzero => exact Or.inr ⟨by omega, Option.some.inj h⟩
    · cases h

theorem getElem?_concat_of_some {α : Type} {l : List α} {a b : α} {i : Nat} (h : l[i]? = some b) :
    (l ++ [a])[i]? = some b := by
  rw [List.getElem?_append_left (List.getElem?_eq_some_iff.mp h).1]
  exact h

/-- A word that is not a load of a literal. -/
theorem Codes.append (h : Codes start g done opened) {item : Item} {word : Nat}
    (hitem : item.literal = none)
    (opened' : List (Nat × Item)) (hsub : ∀ p, p ∈ opened → p ∈ opened')
    (hopened : ∀ p, p ∈ opened' → p ∈ opened ∨ p = (done.length, item))
    (hword : (done.length, item) ∉ opened' → item.Decodes (start + done.length * 4) word) :
    Codes start { g with words := g.words ++ [word] } (done ++ [item]) opened' where
  length := by
    rw [List.length_append, List.length_append, h.length]
    rfl
  code := by
    intro i item' hi hnot
    rcases getElem?_concat hi with hi | ⟨rfl, rfl⟩
    · obtain ⟨word', hget, hdecodes⟩ := h.code i item' hi fun hmem => hnot (hsub _ hmem)
      exact ⟨word', getElem?_concat_of_some hget, hdecodes⟩
    · refine ⟨word, ?_, hword hnot⟩
      rw [← h.length]
      exact List.getElem?_concat_length
  opened := by
    intro p hp
    rcases hopened p hp with hp | rfl
    · exact getElem?_concat_of_some (h.opened p hp)
    · exact List.getElem?_concat_length
  literals := by
    rw [h.literals, Listing.pool_append]
    simp [Listing.pool, hitem]
  refs := by
    intro i rd k cond
    rw [h.refs]
    constructor
    · rintro ⟨hcond, hk, value, hi⟩
      have hlt := (List.getElem?_eq_some_iff.mp hi).1
      refine ⟨hcond, ?_, value, getElem?_concat_of_some hi⟩
      rwa [List.take_append_of_le_length (Nat.le_of_lt hlt)]
    · rintro ⟨hcond, hk, value, hi⟩
      rcases getElem?_concat hi with hi | ⟨rfl, rfl⟩
      · have hlt := (List.getElem?_eq_some_iff.mp hi).1
        rw [List.take_append_of_le_length (Nat.le_of_lt hlt)] at hk
        exact ⟨hcond, hk, value, hi⟩
      · cases hitem
  regs := by
    intro i rd value hi
    rcases getElem?_concat hi with hi | ⟨rfl, rfl⟩
    · exact h.regs i rd value hi
    · cases hitem

/-- A load of a literal. -/
theorem Codes.emit (h : Codes start g done opened) {rd : Nat} (hrd : rd < 15) (value : Nat) :
    Codes start
      { words := g.words ++ [0]
        literals := g.literals ++ [value]
        refs := g.refs ++ [(g.words.length, rd, g.literals.length, 0xE)] }
      (done ++ [.lit rd value]) opened where
  length := by
    rw [List.length_append, List.length_append, h.length]
    rfl
  code := by
    intro i item hi hnot
    rcases getElem?_concat hi with hi | ⟨rfl, rfl⟩
    · obtain ⟨word, hget, hdecodes⟩ := h.code i item hi hnot
      exact ⟨word, getElem?_concat_of_some hget, hdecodes⟩
    · refine ⟨0, ?_, trivial⟩
      rw [← h.length]
      exact List.getElem?_concat_length
  opened := fun p hp => getElem?_concat_of_some (h.opened p hp)
  literals := by
    rw [h.literals, Listing.pool_append]
    rfl
  refs := by
    intro i rd' k cond
    rw [List.mem_append, List.mem_singleton, h.refs]
    constructor
    · rintro (⟨hcond, hk, value', hi⟩ | heq)
      · have hlt := (List.getElem?_eq_some_iff.mp hi).1
        refine ⟨hcond, ?_, value', getElem?_concat_of_some hi⟩
        rwa [List.take_append_of_le_length (Nat.le_of_lt hlt)]
      · cases heq
        refine ⟨rfl, ?_, value, ?_⟩
        · rw [h.length, List.take_left, h.literals]
        · rw [h.length]
          exact List.getElem?_concat_length
    · rintro ⟨rfl, hk, value', hi⟩
      rcases getElem?_concat hi with hi | ⟨rfl, heq⟩
      · have hlt := (List.getElem?_eq_some_iff.mp hi).1
        rw [List.take_append_of_le_length (Nat.le_of_lt hlt)] at hk
        exact Or.inl ⟨rfl, hk, value', hi⟩
      · cases heq
        rw [List.take_left, ← h.literals] at hk
        rw [h.length, hk]
        exact Or.inr rfl
  regs := by
    intro i rd' value' hi
    rcases getElem?_concat hi with hi | ⟨-, heq⟩
    · exact h.regs i rd' value' hi
    · cases heq
      exact hrd

/-- A free word is written. -/
theorem Codes.fill (h : Codes start g done opened) {i word : Nat} {item : Item}
    (hmem : (i, item) ∈ opened) (hword : item.Decodes (start + i * 4) word) :
    Codes start { g with words := g.words.set i word } done (opened.filter fun p => p.1 != i) where
  length := by
    rw [List.length_set, h.length]
  code := by
    intro j item' hj hnot
    have hlt := (List.getElem?_eq_some_iff.mp hj).1
    by_cases hij : j = i
    · subst hij
      have hitem := h.opened _ hmem
      rw [hj] at hitem
      cases hitem
      refine ⟨word, ?_, hword⟩
      exact List.getElem?_set_self (by rw [h.length]; exact hlt)
    · have hnot' : (j, item') ∉ opened := fun hin =>
        hnot (List.mem_filter.mpr ⟨hin, bne_iff_ne.mpr hij⟩)
      obtain ⟨word', hget, hdecodes⟩ := h.code j item' hj hnot'
      refine ⟨word', ?_, hdecodes⟩
      rw [List.getElem?_set_ne (Ne.symm hij)]
      exact hget
  opened := fun p hp => h.opened p (List.mem_filter.mp hp).1
  literals := h.literals
  refs := h.refs
  regs := h.regs

/-! ## Pieces of a builder -/

/-- A piece of a builder appends items, whatever has been written before. -/
def Emits (start : Nat) (m : Build Unit) (items : Listing) : Prop :=
  ∀ done opened g g', Codes start g done opened → m.run g = .ok ((), g') →
    Codes start g' (done ++ items) opened

namespace Emits

theorem pure : Emits start (pure ()) [] := by
  intro done opened g g' h hrun
  cases hrun
  rwa [List.append_nil]

theorem bind {m m' : Build Unit} {items items' : Listing} (h : Emits start m items)
    (h' : Emits start m' items') : Emits start (m >>= fun _ => m') (items ++ items') := by
  intro done opened g g' hcodes hrun
  obtain ⟨_, g₁, hm, hm'⟩ := run_bind_eq_ok.mp hrun
  rw [← List.append_assoc]
  exact h' _ _ _ _ (h _ _ _ _ hcodes hm) hm'

theorem push {word : Except EncodeError Nat} {item : Item} (hitem : item.literal = none)
    (h : ∀ addr w, word = .ok w → item.Decodes addr w) : Emits start (push word) [item] := by
  intro done opened g g' hcodes hrun
  obtain ⟨w, hword, rfl⟩ := run_push_eq_ok.mp hrun
  exact hcodes.append hitem opened (fun _ hp => hp) (fun _ hp => Or.inl hp) fun _ => h _ w hword

/-- An instruction without a value from outside. -/
theorem op {word : Except EncodeError Nat} {cond : Nat} {instr : Op}
    (h : word.toOption.bind decode = some (cond, instr)) :
    Emits start (Build.push word) [.op cond instr] := by
  refine push rfl fun addr w hword => ?_
  rw [hword] at h
  exact h

theorem emit {rd value : Nat} (hrd : rd < 15) : Emits start (emit rd value) [.lit rd value] := by
  intro done opened g g' hcodes hrun
  cases hrun
  exact hcodes.emit hrd value

theorem call {dst : Nat} : Emits start (call start dst) [.branch 14 true dst] := by
  intro done opened g g' hcodes hrun
  obtain ⟨index, g₁, hnext, hpush⟩ := run_bind_eq_ok.mp hrun
  cases hnext
  obtain ⟨w, hword, rfl⟩ := run_push_eq_ok.mp hpush
  refine hcodes.append rfl opened (fun _ hp => hp) (fun _ hp => Or.inl hp) fun _ => ?_
  rw [hcodes.length] at hword
  exact decode_encodeBranch true hword

end Emits

/-! ## Linking -/

/-- The loads of the literals that are still to be put in place. -/
theorem fillAll_spec {encode : Nat × Nat × Nat × Nat → Except EncodeError Nat}
    (refs : List (Nat × Nat × Nat × Nat)) (hrefs : ∀ r ∈ refs, ∀ r' ∈ refs, r.1 = r'.1 → r = r')
    (hbound : ∀ r ∈ refs, r.1 < g.words.length)
    (h : StateT.run (forIn refs PUnit.unit fun ref _ => do
      Build.fill ref.1 (encode ref)
      return ForInStep.yield PUnit.unit) g = .ok (PUnit.unit, g')) :
    g'.literals = g.literals ∧ g'.words.length = g.words.length ∧
      (∀ i, (∀ r ∈ refs, r.1 ≠ i) → g'.words[i]? = g.words[i]?) ∧
      ∀ r ∈ refs, ∃ w, encode r = .ok w ∧ g'.words[r.1]? = some w := by
  induction refs generalizing g with
  | nil =>
    cases h
    exact ⟨rfl, rfl, fun _ _ => rfl, fun r hr => by cases hr⟩
  | cons ref refs ih =>
    rw [List.forIn_cons] at h
    obtain ⟨step, g₁, hstep, hrest⟩ := run_bind_eq_ok.mp h
    obtain ⟨_, g₂, hfill, hyield⟩ := run_bind_eq_ok.mp hstep
    cases hyield
    obtain ⟨w, hword, rfl⟩ := run_fill_eq_ok.mp hfill
    obtain ⟨hliterals, hlength, hkept, hfilled⟩ := ih
      (fun r hr r' hr' => hrefs r (List.mem_cons_of_mem _ hr) r' (List.mem_cons_of_mem _ hr'))
      (fun r hr => by
        rw [List.length_set]
        exact hbound r (List.mem_cons_of_mem _ hr)) hrest
    rw [List.length_set] at hlength
    refine ⟨hliterals, hlength, ?_, ?_⟩
    · intro i hi
      rw [hkept i fun r hr => hi r (List.mem_cons_of_mem _ hr),
        List.getElem?_set_ne (hi ref List.mem_cons_self)]
    · intro r hr
      by_cases hmem : r ∈ refs
      · exact hfilled r hmem
      · have hr' : r = ref := by
          rcases List.mem_cons.mp hr with hr' | hr'
          · exact hr'
          · exact absurd hr' hmem
        subst hr'
        refine ⟨w, hword, ?_⟩
        rw [hkept r.1 fun r' hr' heq => hmem (by
          rw [← hrefs r' (List.mem_cons_of_mem _ hr') r List.mem_cons_self heq]
          exact hr')]
        exact List.getElem?_set_self (hbound r List.mem_cons_self)

/-- A gate all of whose items are written is linked to the listing, assembled. -/
theorem assembled_of_link (h : Codes start g done []) (hrun : (link start).run g = .ok ((), g'))
    (hend : start + g'.words.length * 4 ≤ 0x100000000) :
    Assembled start done g'.words := by
  obtain ⟨_, _, hget, hrun⟩ := run_bind_eq_ok.mp hrun
  cases hget
  obtain ⟨_, g₁, hfill, happend⟩ := run_bind_eq_ok.mp hrun
  cases happend
  dsimp only at hend ⊢
  obtain ⟨hliterals, hlength, hkept, hfilled⟩ := fillAll_spec g.refs
    (by
      rintro ⟨i, rd, k, cond⟩ hr ⟨i', rd', k', cond'⟩ hr' hi
      cases hi
      obtain ⟨rfl, rfl, value, hget⟩ := (h.refs _ _ _ _).mp hr
      obtain ⟨rfl, rfl, value', hget'⟩ := (h.refs _ _ _ _).mp hr'
      rw [hget] at hget'
      cases hget'
      rfl)
    (by
      rintro ⟨i, rd, k, cond⟩ hr
      obtain ⟨-, -, value, hget⟩ := (h.refs _ _ _ _).mp hr
      rw [h.length]
      exact (List.getElem?_eq_some_iff.mp hget).1) hfill
  rw [h.length] at hlength
  rw [hliterals, h.literals] at hend ⊢
  rw [List.length_append, hlength] at hend
  refine ⟨?_, ?_, ?_⟩
  · intro i item hi
    have hlt := (List.getElem?_eq_some_iff.mp hi).1
    rw [List.getElem?_append_left (by rw [hlength]; exact hlt)]
    by_cases href : ∃ r ∈ g.refs, r.1 = i
    · obtain ⟨⟨i', rd, k, cond⟩, hr, rfl⟩ := href
      obtain ⟨-, -, value, hget⟩ := (h.refs _ _ _ _).mp hr
      rw [hi] at hget
      cases hget
      obtain ⟨w, -, hw⟩ := hfilled _ hr
      exact ⟨w, hw, trivial⟩
    · rw [hkept i fun r hr heq => href ⟨r, hr, heq⟩]
      exact h.code i item hi (List.not_mem_nil)
  · intro i rd value hi
    have hlt := (List.getElem?_eq_some_iff.mp hi).1
    have hr : (i, rd, (Listing.pool (done.take i)).length, 14) ∈ g.refs :=
      (h.refs _ _ _ _).mpr ⟨rfl, rfl, value, hi⟩
    obtain ⟨w, hword, hw⟩ := hfilled _ hr
    obtain ⟨off, hdecode, -, -, hoff⟩ := decode_encodeLdrPcLiteral (h.regs i rd value hi) hword
    -- the literals before this one, and the literal itself
    have hpool : done.pool = Listing.pool (done.take i) ++
        value :: Listing.pool (done.drop (i + 1)) := by
      obtain ⟨hlt', heq⟩ := List.getElem?_eq_some_iff.mp hi
      have hsplit := List.take_append_drop i done
      rw [List.drop_eq_getElem_cons hlt', heq] at hsplit
      conv_lhs => rw [← hsplit]
      rw [Listing.pool_append]
      rfl
    have hslot : done.pool[(Listing.pool (done.take i)).length]? = some value := by
      rw [hpool, List.getElem?_append_right (Nat.le_refl _), Nat.sub_self]
      rfl
    have hless := (List.getElem?_eq_some_iff.mp hslot).1
    refine ⟨w, off, ?_, hdecode, ?_, ?_⟩
    · rw [List.getElem?_append_left (by rw [hlength]; exact hlt)]
      exact hw
    · dsimp only at hoff
      rw [h.length] at hoff
      rw [hoff, Listing.slot, Nat.mod_eq_of_lt (by omega)]
      omega
    · rw [Listing.slot, List.getElem?_append_right (by omega), hlength, Nat.add_sub_cancel_left]
      exact hslot
  · rw [← hlength, List.drop_left]

/-! ## Whole builders -/

/-- With `n` items written and some words free, what is left of a builder writes these items, fills
the free words and links the gate. -/
def Builds (start n : Nat) (opened : List (Nat × Item)) (m : Build Unit) (items : Listing) : Prop :=
  ∀ done g g', done.length = n → Codes start g done opened → m.run g = .ok ((), g') →
    start + g'.words.length * 4 ≤ 0x100000000 → Assembled start (done ++ items) g'.words

theorem assembled_of_builds {m : Build Unit} {listing : Listing} {words : List Nat}
    (h : Builds start 0 [] m listing) (hrun : Build.words m = .ok words)
    (hend : start + words.length * 4 ≤ 0x100000000) : Assembled start listing words := by
  unfold Build.words at hrun
  cases hm : m.run {} with
  | error e =>
    rw [hm] at hrun
    cases hrun
  | ok p =>
    rw [hm] at hrun
    cases hrun
    exact h [] {} p.2 rfl Codes.init hm hend

namespace Builds

variable {n : Nat} {items : Listing}

theorem emits {m m' : Build Unit} {first : Listing} (h : Emits start m first)
    (h' : Builds start (n + first.length) opened m' items) :
    Builds start n opened (m >>= fun _ => m') (first ++ items) := by
  intro done g g' hlength hcodes hrun hend
  obtain ⟨_, g₁, hm, hm'⟩ := run_bind_eq_ok.mp hrun
  rw [← List.append_assoc]
  refine h' _ _ _ ?_ (h _ _ _ _ hcodes hm) hm' hend
  rw [List.length_append, hlength]

/-- One item. -/
theorem step {m m' : Build Unit} {item : Item} (h : Emits start m [item])
    (h' : Builds start (n + 1) opened m' items) :
    Builds start n opened (m >>= fun _ => m') (item :: items) := emits h h'

theorem op {word : Except EncodeError Nat} {m : Build Unit} {cond : Nat} {instr : Op}
    (h : word.toOption.bind decode = some (cond, instr))
    (h' : Builds start (n + 1) opened m items) :
    Builds start n opened (push word >>= fun _ => m) (.op cond instr :: items) := step (.op h) h'

theorem lit {rd value : Nat} {m : Build Unit} (hrd : rd < 15)
    (h : Builds start (n + 1) opened m items) :
    Builds start n opened (emit rd value >>= fun _ => m) (.lit rd value :: items) :=
  step (.emit hrd) h

theorem call {dst : Nat} {m : Build Unit} (h : Builds start (n + 1) opened m items) :
    Builds start n opened (Build.call start dst >>= fun _ => m) (.branch 14 true dst :: items) :=
  step .call h

/-- The index `k` of the next word. -/
theorem next {f : Nat → Build Unit} (k : Nat) (hk : n = k) (h : Builds start k opened (f k) items) :
    Builds start n opened (Build.next >>= f) items := by
  intro done g g' hlength hcodes hrun hend
  obtain ⟨index, g₁, hnext, hrun⟩ := run_bind_eq_ok.mp hrun
  cases hnext
  rw [hcodes.length, hlength, hk] at hrun
  exact h done g g' (hlength.trans hk) hcodes hrun hend

/-- A branch or a call in word `k`. -/
theorem leave {m : Build Unit} {dst : Nat} (link : Bool) (k : Nat) (hk : n = k)
    (h : Builds start (k + 1) opened m items) :
    Builds start n opened
      (push (encodeBranch (branchOpcode link) (start + k * 4) dst) >>= fun _ => m)
      (.branch 14 link dst :: items) := by
  intro done g g' hlength hcodes hrun hend
  obtain ⟨_, g₁, hpush, hrun⟩ := run_bind_eq_ok.mp hrun
  obtain ⟨w, hword, rfl⟩ := run_push_eq_ok.mp hpush
  have hcodes' : Codes start { g with words := g.words ++ [w] }
      (done ++ [.branch 14 link dst]) opened := by
    refine hcodes.append rfl opened (fun _ hp => hp) (fun _ hp => Or.inl hp) fun _ => ?_
    rw [hlength, hk]
    exact decode_encodeBranch link hword
  have hassembled := h (done ++ [.branch 14 link dst]) _ g'
    (by rw [List.length_append, hlength, hk]; rfl)
    hcodes' hrun hend
  rwa [List.append_assoc] at hassembled

/-- Word `k` is kept free for a branch. -/
theorem hole {f : Nat → Build Unit} {cond dst : Nat} {link : Bool} (k : Nat) (hk : n = k)
    (h : Builds start (k + 1) ((k, .branch cond link dst) :: opened) (f k) items) :
    Builds start n opened (Build.hole >>= f) (.branch cond link dst :: items) := by
  intro done g g' hlength hcodes hrun hend
  obtain ⟨index, g₁, hhole, hrun⟩ := run_bind_eq_ok.mp hrun
  cases hhole
  rw [hcodes.length, hlength, hk] at hrun
  have hfree : (done.length, .branch cond link dst) ∈ (k, .branch cond link dst) :: opened := by
    rw [hlength, hk]
    exact List.mem_cons_self
  have hcodes' : Codes start { g with words := g.words ++ [0] } (done ++ [.branch cond link dst])
      ((k, .branch cond link dst) :: opened) := by
    refine hcodes.append rfl _ (fun _ hp => List.mem_cons_of_mem _ hp) ?_ fun hnot =>
      absurd hfree hnot
    intro p hp
    rcases List.mem_cons.mp hp with rfl | hp
    · exact Or.inr (by rw [hlength, hk])
    · exact Or.inl hp
  have hassembled := h (done ++ [.branch cond link dst]) _ g'
    (by rw [List.length_append, hlength, hk]; rfl)
    hcodes' hrun hend
  rwa [List.append_assoc] at hassembled

/-- A branch is put into a free word. -/
theorem branch {m : Build Unit} {i target cond : Nat}
    (hopened : opened.lookup i = some (.branch cond false (start + target * 4))) (hcond : cond < 16)
    (h : Builds start n (opened.filter fun p => p.1 != i) m items) :
    Builds start n opened (Build.branch start i target cond >>= fun _ => m) items := by
  intro done g g' hlength hcodes hrun hend
  obtain ⟨_, g₁, hfill, hrun⟩ := run_bind_eq_ok.mp hrun
  obtain ⟨w, hword, rfl⟩ := run_fill_eq_ok.mp hfill
  cases hbranch : encodeB (start + i * 4) (start + target * 4) with
  | error e =>
    rw [hbranch] at hword
    cases hword
  | ok b =>
    rw [hbranch] at hword
    cases hword
    obtain ⟨off, hdecode, hoff⟩ := decode_encodeBranch false hbranch
    have hmem : (i, .branch cond false (start + target * 4)) ∈ opened := by
      obtain ⟨l₁, l₂, rfl, -⟩ := List.lookup_eq_some_iff.mp hopened
      exact List.mem_append_right l₁ List.mem_cons_self
    exact h done _ g' hlength
      (hcodes.fill hmem ⟨off, decode_withCond hcond hdecode, hoff⟩) hrun hend

theorem link (h : opened = []) : Builds start n opened (Build.link start) [] := by
  subst h
  intro done g g' _ hcodes hrun hend
  rw [List.append_nil]
  exact assembled_of_link hcodes hrun hend

end Builds

end Bigstar.Rom
