import Bigstar.Rom.RomPatches
import Bigstar.Rom.Proofs.RomSaveProofs

/-!
# Patches change the words they name

The sections of an image that has been loaded lie one after the other in the binary. A patch that
stays within its section therefore leaves the other sections alone. The code checks that the words
are within the binary, so a patch near the end of a section can go on in the next one, which is
somewhere else in memory.
-/

namespace Bigstar.Rom

open LittleEndian Pages

/-! ## Sections -/

namespace Contiguous

variable {off : Nat} {sections : List Arm9Section} {s t : Arm9Section} {i j : Nat}

theorem le_fileOff (h : Contiguous off sections) (hs : sections[i]? = some s) :
    off ≤ s.fileOff := by
  induction sections generalizing off i with
  | nil => exact nomatch hs
  | cons first sections ih =>
    cases i with
    | zero =>
      obtain rfl := Option.some.inj hs
      exact Nat.le_of_eq h.1.symm
    | succ i => exact Nat.le_trans (Nat.le_add_right _ _) (ih h.2 hs)

/-- Of two sections, the later one begins behind the earlier one. -/
theorem stop_le (h : Contiguous off sections) (hs : sections[i]? = some s)
    (ht : sections[j]? = some t) (hij : i < j) : s.fileOff + s.size ≤ t.fileOff := by
  induction sections generalizing off i j with
  | nil => exact nomatch hs
  | cons first sections ih =>
    cases j with
    | zero => exact absurd hij (Nat.not_lt_zero i)
    | succ j =>
      cases i with
      | zero =>
        obtain rfl := Option.some.inj hs
        rw [h.1]
        exact h.2.le_fileOff ht
      | succ i => exact ih h.2 hs ht (Nat.lt_of_succ_lt_succ hij)

theorem concat (h : Contiguous off sections)
    (hs : s.fileOff = off + (sections.map Arm9Section.size).sum) :
    Contiguous off (sections ++ [s]) := by
  induction sections generalizing off with
  | nil => exact ⟨hs, trivial⟩
  | cons first sections ih =>
    refine ⟨h.1, ih h.2 ?_⟩
    rw [hs, List.map_cons, List.sum_cons, Nat.add_assoc]

end Contiguous

/-- The loop over the copy table appends sections. -/
theorem contiguous_copyTable {data : List UInt8} {entries : List Nat}
    {state result : List Arm9Section × Nat}
    (h : entries.foldlM (copyTableEntry data) state = .ok result) (hstate : Contiguous 0 state.1)
    (hstop : state.2 = (state.1.map Arm9Section.size).sum) : Contiguous 0 result.1 := by
  induction entries generalizing state with
  | nil =>
    cases h
    exact hstate
  | cons entry entries ih =>
    rw [List.foldlM_cons] at h
    obtain ⟨next, hnext, h⟩ := bind_eq_ok.mp h
    unfold copyTableEntry at hnext
    split at hnext
    · cases hnext
    · obtain ⟨sectionRam, -, hnext⟩ := bind_eq_ok.mp hnext
      obtain ⟨sectionSize, -, hnext⟩ := bind_eq_ok.mp hnext
      split at hnext
      · cases hnext
      · cases hnext
        refine ih h (hstate.concat ?_) ?_
        · rw [Nat.zero_add]
          exact hstop
        · rw [List.map_append, List.sum_append, hstop]
          rfl

theorem contiguous_of_parse {data : List UInt8} {ramAddr pointer : Nat}
    {sections : List Arm9Section}
    (h : parseArm9Sections data ramAddr pointer = .ok sections) : Contiguous 0 sections := by
  unfold parseArm9Sections at h
  dsimp only at h
  split at h
  · cases h
  · split at h
    · cases h
      exact ⟨rfl, trivial⟩
    · split at h
      · cases h
        exact ⟨rfl, trivial⟩
      · obtain ⟨copyTableBegin, -, h⟩ := bind_eq_ok.mp h
        obtain ⟨copyTableEnd, -, h⟩ := bind_eq_ok.mp h
        obtain ⟨dataBegin, -, h⟩ := bind_eq_ok.mp h
        split at h
        · cases h
          exact ⟨rfl, trivial⟩
        · obtain ⟨result, hresult, h⟩ := bind_eq_ok.mp h
          cases h
          refine contiguous_copyTable hresult ⟨rfl, trivial⟩ ?_
          simp

/-! ## What is replaced -/

theorem length_wordBytes (words : List UInt32) : (wordBytes words).length = words.length * 4 := by
  unfold wordBytes
  rw [length_flatMap_of_size fun word : UInt32 => length_toBytes 4 word.toNat, Nat.mul_comm]

/-- A replacement that succeeds fits into the data, and one that fails leaves it. -/
theorem replaceWords_cases (data : List UInt8) (off : Nat) (words : List UInt32) :
    (off + words.length * 4 ≤ data.length ∧
        replaceWords data off words =
          (writeAt data off (wordBytes words), .ok ((data.drop off).take (words.length * 4)))) ∨
      ∃ e, replaceWords data off words = (data, .error e) := by
  unfold replaceWords
  split
  · exact .inr ⟨_, rfl⟩
  · next h => exact .inl ⟨Nat.not_lt.mp h, rfl⟩

variable {rom : RomImage}

theorem inRange_iff {addr base size : Nat} (h : inRange addr base size = true) :
    base ≤ addr ∧ addr < base + size := by
  unfold inRange u32 at h
  rw [decide_eq_true_eq] at h
  have hsize := Nat.mod_le size (2 ^ 32)
  have hsum := Nat.mod_le (base + size % 2 ^ 32) (2 ^ 32)
  omega

/-- The overlay that is found holds the address. -/
theorem overlayIndexForAddr_spec {overlays : List Overlay} {addr index : Nat}
    (h : overlayIndexForAddr overlays addr = some index) :
    ∃ overlay, overlays[index]? = some overlay ∧
    inRange addr overlay.baseAddr overlay.data.length = true := by
  unfold overlayIndexForAddr at h
  obtain ⟨found, hfound, rfl⟩ := Option.map_eq_some_iff.mp h
  clear h
  revert found
  -- The best overlay so far holds the address, whatever overlay comes next.
  refine List.foldlRecOn overlays.zipIdx _
    (motive := fun best => ∀ found : Nat × Nat, best = some found →
    ∃ overlay, overlays[found.2]? = some overlay ∧
    inRange addr overlay.baseAddr overlay.data.length = true)
    ?_ ?_
  · intro found hfound
    cases hfound
  · intro best hbest entry hmem found hfound
    have hentry : overlays[entry.2]? = some entry.1 := List.mem_zipIdx_iff_getElem?.mp hmem
    by_cases hrange : inRange addr entry.1.baseAddr entry.1.data.length = true
    · rw [if_pos hrange] at hfound
      cases best with
      | none =>
        cases hfound
        exact ⟨entry.1, hentry, hrange⟩
      | some best =>
        dsimp only at hfound
        by_cases hsmaller : entry.1.data.length < best.1
        · rw [if_pos hsmaller] at hfound
          cases hfound
          exact ⟨entry.1, hentry, hrange⟩
        · rw [if_neg hsmaller] at hfound
          exact hbest found hfound
    · rw [if_neg hrange] at hfound
      exact hbest found hfound

/-- What the bytes of a replacement are, where they come from, and which bytes stay. -/
structure Replaced (data data' : List UInt8) (off : Nat) (bytes old : List UInt8) : Prop where
  written : ∀ k, k < bytes.length → data'[off + k]? = bytes[k]?
  length_old : old.length = bytes.length
  returned : ∀ k, k < bytes.length → data[off + k]? = old[k]?
  others : ∀ i, i < off ∨ off + bytes.length ≤ i → data'[i]? = data[i]?

theorem replaced_of_ok {data : List UInt8} {off : Nat} {words : List UInt32} {old : List UInt8}
    (h : (replaceWords data off words).2 = .ok old) :
    Replaced data (replaceWords data off words).1 off (wordBytes words) old := by
  obtain ⟨hfits, heq⟩ | ⟨e, heq⟩ := replaceWords_cases data off words
  · rw [heq] at h ⊢
    obtain rfl := Except.ok.inj h
    have hlen := length_wordBytes words
    have hin : off + (wordBytes words).length ≤ data.length := by omega
    refine ⟨fun k hk => ?_, ?_, fun k hk => ?_, fun i hi => ?_⟩
    · dsimp only
      rw [getElem?_writeAt hin, if_pos (by omega), Nat.add_sub_cancel_left]
    · rw [List.length_take, List.length_drop, hlen]
      omega
    · rw [List.getElem?_take_of_lt (by omega), List.getElem?_drop]
    · dsimp only
      rw [getElem?_writeAt hin, if_neg (by omega)]
  · rw [heq] at h
    cases h

/-! ## The ARM9 binary -/

theorem loadedByte_arm9 {index : Nat} {s : Arm9Section}
    (h : rom.arm9Sections[index]? = some s) (a : Nat) :
    rom.loadedByte (.arm9 index) a =
      if s.ramAddr ≤ a ∧ a < s.ramAddr + s.size then
          rom.arm9[s.fileOff + (a - s.ramAddr)]? else none := by
  unfold RomImage.loadedByte
  dsimp only
  rw [h]
  rfl

/-- A patch of the ARM9 binary that stays within its section changes the bytes it names. -/
theorem changesExactly_arm9 {arm9 : List UInt8} {index addr : Nat}
    {bytes old : List UInt8} {s : Arm9Section}
    (hsections : Contiguous 0 rom.arm9Sections) (hindex : rom.arm9Sections[index]? = some s)
    (haddr : s.ramAddr ≤ addr) (hwithin : addr + bytes.length ≤ s.ramAddr + s.size)
    (h : Replaced rom.arm9 arm9 (s.fileOff + (addr - s.ramAddr)) bytes old) :
    ChangesExactly rom { rom with arm9 } (.arm9 index) addr bytes old where
  written := by
    intro k hk
    have hindex' : ({ rom with arm9 } : RomImage).arm9Sections[index]? = some s := hindex
    rw [loadedByte_arm9 hindex', if_pos (by omega)]
    rw [← h.written k hk]
    congr 1
    omega
  length_old := h.length_old
  returned := by
    intro k hk
    rw [loadedByte_arm9 hindex, if_pos (by omega), ← h.returned k hk]
    congr 1
    omega
  others := by
    intro place a hother
    cases place with
    | overlay j => rfl
    | arm9 j =>
      cases hj : rom.arm9Sections[j]? with
      | none =>
        unfold RomImage.loadedByte
        dsimp only
        rw [hj]
        rfl
      | some t =>
        have hj' : ({ rom with arm9 } : RomImage).arm9Sections[j]? = some t := hj
        rw [loadedByte_arm9 hj', loadedByte_arm9 hj]
        split
        case isFalse => rfl
        case isTrue hin =>
          refine h.others _ ?_
          rcases Nat.lt_trichotomy j index with hlt | rfl | hgt
          · have := hsections.stop_le hj hindex hlt
            omega
          · obtain rfl : t = s := Option.some.inj (hj.symm.trans hindex)
            have := hother rfl
            omega
          · have := hsections.stop_le hindex hj hgt
            omega
  rest := rfl
  headers := rfl

/-- Where the words go on behind the section, they are not loaded where they belong. -/
theorem within_of_changesExactly {rom' : RomImage} {index addr : Nat}
    {bytes old : List UInt8} {s : Arm9Section}
    (hsections : rom.arm9Sections[index]? = some s) (haddr : addr < s.ramAddr + s.size)
    (h : ChangesExactly rom rom' (.arm9 index) addr bytes old) :
    addr + bytes.length ≤ s.ramAddr + s.size := by
  rcases Nat.eq_zero_or_pos bytes.length with hzero | hpos
  · omega
  · by_contra hlong
    have hlength := h.length_old
    have hlast := h.returned (bytes.length - 1) (by omega)
    rw [loadedByte_arm9 hsections, if_neg (by omega), List.getElem?_eq_getElem (by omega)] at hlast
    exact nomatch hlast

/-! ## Overlays -/

theorem loadedByte_overlay {index : Nat} {overlay : Overlay}
    (h : rom.overlays[index]? = some overlay) (a : Nat) :
    rom.loadedByte (.overlay index) a =
      if overlay.baseAddr ≤ a then overlay.data[a - overlay.baseAddr]? else none := by
  unfold RomImage.loadedByte
  dsimp only
  rw [h]
  rfl

theorem changesExactly_overlay {data : List UInt8} {index addr : Nat}
    {bytes old : List UInt8} {overlay : Overlay}
    (hindex : rom.overlays[index]? = some overlay) (haddr : overlay.baseAddr ≤ addr)
    (h : Replaced overlay.data data (addr - overlay.baseAddr) bytes old) :
    ChangesExactly rom { rom with overlays := rom.overlays.set index { overlay with data } }
      (.overlay index) addr
      bytes old := by
  have hlt : index < rom.overlays.length := (List.getElem?_eq_some_iff.mp hindex).1
  have hset :
    ({ rom with overlays := rom.overlays.set index { overlay with
    data } } : RomImage).overlays[index]?
      = some { overlay with data } := List.getElem?_set_self hlt
  refine ⟨fun k hk => ?_, h.length_old, fun k hk => ?_, fun place a hother => ?_, rfl, ?_⟩
  · rw [loadedByte_overlay hset, if_pos (by change overlay.baseAddr ≤ _; omega), ← h.written k hk]
    change data[addr + k - overlay.baseAddr]? = _
    congr 1
    omega
  · rw [loadedByte_overlay hindex, if_pos (by omega), ← h.returned k hk]
    congr 1
    omega
  · cases place with
    | arm9 j => rfl
    | overlay j =>
      by_cases hj : j = index
      · obtain rfl := hj
        have := hother rfl
        rw [loadedByte_overlay hset, loadedByte_overlay hindex]
        change (if overlay.baseAddr ≤ a then data[a - overlay.baseAddr]? else none) = _
        split
        · exact h.others _ (by omega)
        · rfl
      · unfold RomImage.loadedByte
        dsimp only
        rw [List.getElem?_set_ne (Ne.symm hj)]
  · apply List.ext_getElem?
    intro j
    dsimp only
    rw [List.getElem?_map, List.getElem?_map]
    by_cases hj : j = index
    · rw [hj, List.getElem?_set_self hlt, hindex]
      rfl
    · rw [List.getElem?_set_ne (Ne.symm hj)]

/-! ## All patches -/

theorem exists_findIdx? {α : Type} {p : α → Bool} {l : List α} {a : α} (h : l.find? p = some a) :
    ∃ index, l.findIdx? p = some index ∧ l[index]? = some a ∧ p a = true := by
  induction l with
  | nil => exact nomatch h
  | cons first l ih =>
    rw [List.find?_cons] at h
    rw [List.findIdx?_cons]
    cases hfirst : p first with
    | true =>
      rw [hfirst] at h
      obtain rfl := Option.some.inj h
      exact ⟨0, rfl, rfl, hfirst⟩
    | false =>
      rw [hfirst] at h
      obtain ⟨index, hindex, hget, hp⟩ := ih h
      refine ⟨index + 1, ?_, hget, hp⟩
      rw [hindex]
      rfl

theorem replaceWords_of_error {data : List UInt8} {off : Nat} {words : List UInt32} {e : RomError}
    (h : (replaceWords data off words).2 = .error e) : (replaceWords data off words).1 = data := by
  obtain ⟨-, heq⟩ | ⟨e, heq⟩ := replaceWords_cases data off words
  · rw [heq] at h
    cases h
  · rw [heq]

/-- A patch that fails leaves the image as it was. -/
theorem applyPatch_of_error {p : Patch} {e : RomError} (h : (rom.applyPatch p).2 = .error e) :
    (rom.applyPatch p).1 = rom := by
  have hoverlay : ∀ (index addr : Nat) (words : List UInt32) (e : RomError),
      (rom.replaceOverlayWords index addr words).2 = .error e →
        (rom.replaceOverlayWords index addr words).1 = rom := by
    intro index addr words e h
    unfold RomImage.replaceOverlayWords at h ⊢
    cases hindex : rom.overlays[index]? with
    | none => rfl
    | some overlay =>
      rw [hindex] at h
      have hdata := replaceWords_of_error h
      dsimp only
      rw [hdata]
      have hset : rom.overlays.set index overlay = rom.overlays := by
        obtain ⟨hlt, rfl⟩ := List.getElem?_eq_some_iff.mp hindex
        exact List.set_getElem_self hlt
      change { rom with overlays := rom.overlays.set index overlay } = rom
      rw [hset]
  cases p with
  | arm9Words addr words =>
    unfold RomImage.applyPatch RomImage.patchArm9Words at h ⊢
    dsimp only at h ⊢
    split
    · rfl
    · next s hs =>
      rw [hs] at h
      dsimp only
      rw [replaceWords_of_error h]
  | overlayWords addr words =>
    unfold RomImage.applyPatch RomImage.patchOverlayWords at h ⊢
    dsimp only at h ⊢
    split
    · rfl
    · next index hindex =>
      rw [hindex] at h
      exact hoverlay index addr words e h
  | overlayWordsById id addr words =>
    unfold RomImage.applyPatch RomImage.patchOverlayWordsById at h ⊢
    dsimp only at h ⊢
    split
    · rfl
    · next index hindex =>
      rw [hindex] at h
      dsimp only at h
      split
      · rfl
      · next overlay hoverlayAt =>
        rw [hoverlayAt] at h
        dsimp only at h
        split
        · next hrange =>
          rw [if_pos hrange] at h
          exact hoverlay index addr words e h
        · rfl

/-- An overlay patch that succeeds changes the words it names. -/
theorem replaceOverlayWords_ok {index addr : Nat} {words : List UInt32}
    {old : List UInt8} {overlay : Overlay} (hindex : rom.overlays[index]? = some overlay)
    (hrange : inRange addr overlay.baseAddr overlay.data.length = true)
    (h : (rom.replaceOverlayWords index addr words).2 = .ok old) :
    ChangesExactly rom (rom.replaceOverlayWords index addr words).1 (.overlay index) addr
      (wordBytes words) old := by
  unfold RomImage.replaceOverlayWords at h ⊢
  rw [hindex] at h ⊢
  exact changesExactly_overlay hindex (inRange_iff hrange).1 (replaced_of_ok h)

/-- A patch that succeeds changes exactly the words it names if and only if they end within the
section. -/
theorem applyPatch_of_ok {p : Patch} {old : List UInt8} (hsections : Contiguous 0 rom.arm9Sections)
    (h : (rom.applyPatch p).2 = .ok old) :
    ∃ place, rom.target p = some place ∧
      (ChangesExactly rom (rom.applyPatch p).1 place p.addr p.bytes old ↔ WithinSection rom p) := by
  cases p with
  | arm9Words addr words =>
    unfold RomImage.applyPatch RomImage.patchArm9Words at h ⊢
    dsimp only at h ⊢
    cases hfind : rom.arm9Sections.find? fun s => inRange addr s.ramAddr s.size with
    | none =>
      rw [hfind] at h
      cases h
    | some s =>
      rw [hfind] at h
      obtain ⟨index, hidx, hindex, hrange⟩ := exists_findIdx? hfind
      obtain ⟨hlow, hhigh⟩ := inRange_iff hrange
      refine ⟨.arm9 index, by rw [RomImage.target, hidx, Option.map_some], ?_⟩
      dsimp only
      constructor
      · intro hchanges s' hs'
        obtain rfl := Option.some.inj (hfind.symm.trans hs')
        have := within_of_changesExactly hindex hhigh hchanges
        rw [show (Patch.arm9Words addr words).bytes = wordBytes words from rfl,
          length_wordBytes] at this
        exact this
      · intro hwithin
        have hwithin := hwithin s hfind
        rw [← length_wordBytes] at hwithin
        exact changesExactly_arm9 hsections hindex hlow hwithin (replaced_of_ok h)
  | overlayWords addr words =>
    unfold RomImage.applyPatch RomImage.patchOverlayWords at h ⊢
    dsimp only at h ⊢
    cases hfind : overlayIndexForAddr rom.overlays addr with
    | none =>
      rw [hfind] at h
      cases h
    | some index =>
      rw [hfind] at h
      obtain ⟨overlay, hindex, hrange⟩ := overlayIndexForAddr_spec hfind
      refine ⟨.overlay index, by rw [RomImage.target, hfind, Option.map_some], ?_⟩
      exact iff_of_true (replaceOverlayWords_ok hindex hrange h) trivial
  | overlayWordsById id addr words =>
    unfold RomImage.applyPatch RomImage.patchOverlayWordsById at h ⊢
    dsimp only at h ⊢
    cases hfind : rom.overlays.findIdx? fun overlay => overlay.id = id with
    | none =>
      rw [hfind] at h
      cases h
    | some index =>
      rw [hfind] at h
      dsimp only at h ⊢
      cases hindex : rom.overlays[index]? with
      | none =>
        rw [hindex] at h
        cases h
      | some overlay =>
        rw [hindex] at h
        dsimp only at h ⊢
        cases hrange : inRange addr overlay.baseAddr overlay.data.length with
        | false =>
          rw [hrange] at h
          cases h
        | true =>
          rw [hrange] at h
          refine ⟨.overlay index, by rw [RomImage.target, hfind, Option.map_some], ?_⟩
          exact iff_of_true (replaceOverlayWords_ok hindex hrange h) trivial

/-- A patch does not touch the table of the sections. -/
theorem arm9Sections_applyPatch (rom : RomImage) (p : Patch) :
    (rom.applyPatch p).1.arm9Sections = rom.arm9Sections := by
  have hoverlay : ∀ (index addr : Nat) (words : List UInt32),
      (rom.replaceOverlayWords index addr words).1.arm9Sections = rom.arm9Sections := by
    intro index addr words
    unfold RomImage.replaceOverlayWords
    split <;> rfl
  cases p with
  | arm9Words addr words =>
    unfold RomImage.applyPatch RomImage.patchArm9Words
    dsimp only
    split <;> rfl
  | overlayWords addr words =>
    unfold RomImage.applyPatch RomImage.patchOverlayWords
    dsimp only
    split
    · rfl
    · exact hoverlay _ addr words
  | overlayWordsById id addr words =>
    unfold RomImage.applyPatch RomImage.patchOverlayWordsById
    dsimp only
    split
    · rfl
    · split
      · rfl
      · split
        · exact hoverlay _ addr words
        · rfl

theorem arm9Sections_applyPatches (rom : RomImage) (patches : List Patch) :
    (rom.applyPatches patches).arm9Sections = rom.arm9Sections := by
  induction patches generalizing rom with
  | nil => rfl
  | cons p patches ih => exact (ih (rom.applyPatch p).1).trans (arm9Sections_applyPatch rom p)

/-- In an image that has been loaded, and patched any number of times, a patch that succeeds changes
exactly the words it names, and returns what they were, if and only if they end within the section
that holds their address. A patch that fails changes nothing. -/
theorem patch_changes_exactly_iff {tools : Tools} {data : List UInt8} {rom₀ rom : RomImage}
    (hload : load tools data = .ok rom₀) (patches : List Patch)
    (hrom : rom = rom₀.applyPatches patches) (p : Patch) :
    (∀ old, (rom.applyPatch p).2 = .ok old → ∃ place, rom.target p = some place ∧
      (ChangesExactly rom (rom.applyPatch p).1 place p.addr p.bytes old ↔ WithinSection rom p)) ∧
    ∀ e, (rom.applyPatch p).2 = .error e → (rom.applyPatch p).1 = rom := by
  refine ⟨fun old hok => applyPatch_of_ok ?_ hok, fun e herror => applyPatch_of_error herror⟩
  obtain ⟨words, hloaded, -⟩ := loaded_of_load hload
  rw [hrom, arm9Sections_applyPatches]
  exact contiguous_of_parse hloaded.sections

/-- A word of a ROM that has been loaded. -/
theorem small_word_changed :
    ∃ old, ChangesExactly (smallRom 0 HEADER_SIZE (smallArm9 0 0 0x02000040) 0xE12FFF1E)
      ((smallRom 0 HEADER_SIZE (smallArm9 0 0 0x02000040) 0xE12FFF1E).applyPatch
        (.arm9Words 0x0200003C [0xE12FFF1E])).1
        (.arm9 0) 0x0200003C (wordBytes [0xE12FFF1E]) old := by
  have hload := load_small 0 HEADER_SIZE (Nat.le_refl _) (Nat.zero_le _) (by decide)
  have hpatch := patch_changes_exactly_iff hload [] rfl (.arm9Words 0x0200003C [0xE12FFF1E])
  have hok : ((smallRom 0 HEADER_SIZE (smallArm9 0 0 0x02000040) 0xE12FFF1E).applyPatch
      (.arm9Words 0x0200003C [0xE12FFF1E])).2 = .ok (toBytes 4 0x02000024) := by
    rfl
  obtain ⟨place, htarget, hiff⟩ := hpatch.1 _ hok
  obtain rfl : place = .arm9 0 := Option.some.inj (htarget.symm.trans rfl)
  refine ⟨_, hiff.mpr fun s hs => ?_⟩
  obtain rfl : s = { ramAddr := 0x02000000, fileOff := 0, size := 0x40 } :=
    Option.some.inj (hs.symm.trans rfl)
  decide

/-! ## A patch that leaves its section -/

/-- A binary with a second section of two words, which the console loads to `0x01FF8000`. -/
def twoSections : List UInt8 :=
  [0x01FF8000, 8, 0, 0, 0, 0, 0, 0, 0, 0x02000000, 0x0200000C, 0x02000040, 0, 0, 0, 0x02000024,
    0xE3A00000, 0xE12FFF1E].flatMap (toBytes 4)

/-- A small image with two sections. -/
def twoSectionsRom : RomImage :=
  { smallRom 0 HEADER_SIZE twoSections 0xE12FFF1E with
    arm9Sections :=
      [{ ramAddr := 0x02000000, fileOff := 0, size := 0x40 },
        { ramAddr := 0x01FF8000, fileOff := 0x40, size := 8 }] }

/-- Two words at the end of the first section overwrite the first instruction of the second. -/
theorem second_word_elsewhere :
    parseArm9Sections twoSections 0x02000000 0x02000040 = .ok twoSectionsRom.arm9Sections ∧
    (twoSectionsRom.applyPatch (.arm9Words 0x0200003C [1, 2])).2 =
      .ok ((twoSections.drop 0x3C).take 8) ∧
    twoSectionsRom.target (.arm9Words 0x0200003C [1, 2]) = some (.arm9 0) ∧
    (twoSectionsRom.applyPatch (.arm9Words 0x0200003C [1, 2])).1.loadedByte (.arm9 1) 0x01FF8000
      ≠ twoSectionsRom.loadedByte (.arm9 1) 0x01FF8000 ∧
    ∀ old, ¬ ChangesExactly twoSectionsRom
      (twoSectionsRom.applyPatch (.arm9Words 0x0200003C [1, 2])).1 (.arm9 0)
      0x0200003C (wordBytes [1, 2]) old := by
  have hchanged : (twoSectionsRom.applyPatch (.arm9Words 0x0200003C [1, 2])).1.loadedByte
    (.arm9 1) 0x01FF8000
      ≠ twoSectionsRom.loadedByte (.arm9 1) 0x01FF8000 := by
    decide +kernel
  refine ⟨by decide +kernel, by decide +kernel, by decide +kernel, hchanged, fun old hchanges => ?_⟩
  exact hchanged (hchanges.others (.arm9 1) 0x01FF8000 fun hplace => nomatch hplace)

end Bigstar.Rom
