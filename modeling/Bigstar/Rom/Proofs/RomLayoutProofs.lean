import Mathlib.Data.List.Forall2
import Bigstar.Rom.RomImage

/-!
# The layout of a saved ROM

What `save` puts where: the regions it appends, the entries of the allocation table that point to
them, and the words it writes over the table and the header once everything has its place.
-/

namespace Bigstar.Rom

open LittleEndian Pages Buffer

/-! ## Reading back -/

theorem slice_of_holds {data content : List UInt8} {off : Nat} (h : Holds data off content)
    (label : String) : slice data off content.length label = .ok content := by
  rw [slice, if_pos h.le, h.take_drop]

theorem slice_of_holds' {data content : List UInt8} {off len : Nat} (h : Holds data off content)
    (hlen : len = content.length) (label : String) : slice data off len label = .ok content := by
  rw [hlen]
  exact slice_of_holds h label

/-- What a successful slice returns. -/
theorem slice_eq_ok {data bytes : List UInt8} {off len : Nat} {label : String}
    (h : slice data off len label = .ok bytes) :
    off + len ≤ data.length ∧ bytes = (data.drop off).take len ∧ bytes.length = len := by
  unfold slice at h
  split at h
  · next hle =>
    cases h
    refine ⟨hle, rfl, ?_⟩
    rw [List.length_take, List.length_drop]
    omega
  · cases h

theorem readU32_of_holds {data : List UInt8} {off value : Nat}
    (h : Holds data off (toBytes 4 value))
    (hvalue : value < 2 ^ 32) : readU32 data off = .ok value := by
  have hslice : slice data off 4 "u32" = .ok (toBytes 4 value) :=
    slice_of_holds' h (length_toBytes 4 value).symm "u32"
  rw [readU32, hslice]
  change Except.ok (ofBytes (toBytes 4 value)) = Except.ok value
  rw [ofBytes_toBytes, Nat.mod_eq_of_lt (show value < 256 ^ 4 from hvalue)]

theorem readU16_of_length {data : List UInt8} {off : Nat} (h : off + 2 ≤ data.length) :
    readU16 data off = .ok (readLE 2 data off) := by
  rw [readU16, slice, if_pos h]
  rfl

theorem readU32_of_length {data : List UInt8} {off : Nat} (h : off + 4 ≤ data.length) :
    readU32 data off = .ok (readLE 4 data off) := by
  rw [readU32, slice, if_pos h]
  rfl

/-! ## Chains of fallible steps -/

/-- What a step of a fallible computation has computed. -/
theorem bind_eq_ok {α β : Type} {x : Except RomError α} {f : α → Except RomError β} {r : β} :
    (x >>= f) = .ok r ↔ ∃ a, x = .ok a ∧ f a = .ok r := by
  cases x with
  | error e =>
    constructor
    · intro h
      cases h
    · rintro ⟨a, ha, -⟩
      cases ha
  | ok a =>
    constructor
    · intro h
      exact ⟨a, rfl, h⟩
    · rintro ⟨b, hb, hf⟩
      cases hb
      exact hf

theorem readU32_lt {data : List UInt8} {off value : Nat} (h : readU32 data off = .ok value) :
    value < 2 ^ 32 := by
  obtain ⟨bytes, hslice, hvalue⟩ := bind_eq_ok.mp h
  obtain ⟨-, -, hlen⟩ := slice_eq_ok hslice
  cases hvalue
  have hlt := ofBytes_lt bytes
  rw [hlen] at hlt
  exact hlt

/-- A loop succeeds when each of its rounds does. -/
theorem mapM_eq_ok_iff {α β : Type} {f : α → Except RomError β} {l : List α} {r : List β} :
    l.mapM f = .ok r ↔ List.Forall₂ (fun a b => f a = .ok b) l r := by
  induction l generalizing r with
  | nil =>
    rw [List.mapM_nil]
    constructor
    · intro h
      cases h
      exact List.Forall₂.nil
    · intro h
      cases h
      rfl
  | cons a l ih =>
    rw [List.mapM_cons]
    constructor
    · intro h
      obtain ⟨b, hb, h⟩ := bind_eq_ok.mp h
      obtain ⟨rest, hrest, h⟩ := bind_eq_ok.mp h
      cases h
      exact List.Forall₂.cons hb (ih.mp hrest)
    · intro h
      cases h with
      | cons hb hrest => exact bind_eq_ok.mpr ⟨_, hb, bind_eq_ok.mpr ⟨_, ih.mpr hrest, rfl⟩⟩

/-! ## Appending regions -/

/-- Regions at multiples of `0x200` behind the header. -/
abbrev Laid (output : List UInt8) (regions : List (Region UInt8)) : Prop :=
  Placed 0x200 HEADER_SIZE output regions ∧ HEADER_SIZE ≤ output.length

theorem length_alignVec_mod (out : List UInt8) {alignment : Nat}
    (h : 0 < alignment) (value : UInt8) :
    (alignVec out alignment value).length % alignment = 0 := by
  rw [alignVec, List.length_append, List.length_replicate]
  have hlt := Nat.mod_lt out.length h
  have hdiv := Nat.div_add_mod out.length alignment
  by_cases hzero : out.length % alignment = 0
  · rw [hzero, Nat.sub_zero, Nat.mod_self, Nat.add_zero, hzero]
  · have hpad : (alignment - out.length % alignment) % alignment =
        alignment - out.length % alignment := Nat.mod_eq_of_lt (by omega)
    have hsum : out.length + (alignment - out.length % alignment) =
        alignment * (out.length / alignment + 1) := by
      rw [Nat.mul_add, Nat.mul_one]
      omega
    rw [hpad, hsum, Nat.mul_mod_right]

/-- What `place` appends. -/
theorem laid_place {output : List UInt8} {regions : List (Region UInt8)} (h : Laid output regions)
    (fill : UInt8) (content : List UInt8) :
    Laid (place output fill content).1 (regions ++ [⟨(place output fill content).2, content⟩]) := by
  obtain ⟨hplaced, hlen⟩ := h
  have halign := length_alignVec_mod output (show 0 < 0x200 by decide) fill
  have hgrow : output.length ≤ (alignVec output 0x200 fill).length := by
    rw [alignVec, List.length_append]
    omega
  refine ⟨hplaced.snoc (Nat.le_trans hlen hgrow) halign, ?_⟩
  change HEADER_SIZE ≤ (alignVec output 0x200 fill ++ content).length
  rw [List.length_append]
  omega

theorem length_place (output : List UInt8) (fill : UInt8) (content : List UInt8) :
    (place output fill content).1.length = (place output fill content).2 + content.length :=
  List.length_append

/-- An entry of the allocation table that delimits a region. -/
def Entered (fat : List (Nat × Nat)) (id : Nat) (region : Region UInt8) : Prop :=
  fat[id]? = some (u32 region.offset, u32 region.stop)

/-- A loop that places files appends one region for each, and enters it in the table. -/
theorem placeFiles_spec (fill : UInt8) (files : List (Nat × List UInt8)) (fs : FileSystem)
    {regions : List (Region UInt8)} (h : Laid fs.output regions)
    (hids : (files.map Prod.fst).Nodup) (hlt : ∀ id ∈ files.map Prod.fst, id < fs.fat.length) :
    ∃ new, Laid (files.foldl (placeFile fill) fs).output (regions ++ new) ∧
      new.map Region.content = files.map Prod.snd ∧
      List.Forall₂ (Entered (files.foldl (placeFile fill) fs).fat) (files.map Prod.fst) new ∧
      (files.foldl (placeFile fill) fs).fat.length = fs.fat.length ∧
      ∀ id ∉ files.map Prod.fst, (files.foldl (placeFile fill) fs).fat[id]? = fs.fat[id]? := by
  induction files generalizing fs regions with
  | nil =>
    refine ⟨[], ?_, rfl, List.Forall₂.nil, rfl, fun id _ => rfl⟩
    rw [List.append_nil]
    exact h
  | cons file files ih =>
    obtain ⟨id, content⟩ := file
    rw [List.map_cons, List.nodup_cons] at hids
    obtain ⟨hnotin, hids⟩ := hids
    have hid : id < fs.fat.length := hlt id List.mem_cons_self
    have hlen : (placeFile fill fs (id, content)).fat.length = fs.fat.length := List.length_set
    have hlaid := laid_place h fill content
    obtain ⟨new, hnew, hcontent, hentered, hlength, hother⟩ :=
      ih (placeFile fill fs (id, content)) hlaid hids fun other hother => by
        rw [hlen]
        exact hlt other (List.mem_cons_of_mem id hother)
    refine ⟨⟨(place fs.output fill content).2, content⟩ :: new, ?_, ?_, ?_, ?_, ?_⟩
    · rw [List.append_assoc, List.singleton_append] at hnew
      exact hnew
    · rw [List.map_cons, List.map_cons, hcontent]
    · refine List.Forall₂.cons ?_ hentered
      -- later rounds enter other ids
      have hkept := hother id hnotin
      change ((List.foldl (placeFile fill) (placeFile fill fs (id, content)) files).fat)[id]? = _
      rw [hkept]
      change (fs.fat.set id _)[id]? = _
      rw [List.getElem?_set_self hid, length_place]
      rfl
    · exact hlength.trans hlen
    · intro other hout
      rw [List.map_cons, List.mem_cons, not_or] at hout
      have hkept := hother other hout.2
      change ((List.foldl (placeFile fill) (placeFile fill fs (id, content)) files).fat)[other]? = _
      rw [hkept]
      exact List.getElem?_set_ne (Ne.symm hout.1)

/-! ## The whole layout -/

/-- The region of the ARM7 overlay table, which an image need not have. -/
def arm7OvtRegion (rom : RomImage) (l : Layout) : List (Region UInt8) :=
  if rom.arm7OverlayTable.isEmpty then [] else [⟨l.arm7OvtOff, rom.arm7OverlayTable⟩]

/-- The regions of a layout in the order in which they are written. -/
def layoutRegions (rom : RomImage) (l : Layout) (packed : List UInt8) (fatBytes : List UInt8)
    (overlayRegions fileRegions : List (Region UInt8)) : List (Region UInt8) :=
  [⟨l.arm9Off, packed ++ rom.arm9Footer⟩, ⟨l.arm9OvtOff, l.overlayTable⟩] ++ overlayRegions ++
    [⟨l.arm7Off, rom.arm7⟩] ++ arm7OvtRegion rom l ++ [⟨l.fntOff, rom.fnt⟩] ++
    [⟨l.fatOff, fatBytes⟩] ++ [⟨l.bannerOff, rom.banner⟩] ++ fileRegions

/-- What `layout` has computed: the packed binaries, and regions that hold everything, with an entry
of the allocation table for each overlay and each plain file. -/
structure LaidOut (tools : Tools) (rom : RomImage) (l : Layout) (buildInfo : Nat)
    (packed : List UInt8) (payloads : List (List UInt8))
    (overlayRegions fileRegions : List (Region UInt8)) : Prop where
  offset : arm9BuildInfoOffset rom = .ok buildInfo
  compressed : compressArm9WithBuildInfo tools rom.arm9 buildInfo rom.arm9Ram = .ok (l.arm9, packed)
  overlays : rom.overlays.mapM (overlayPayload tools) = .ok payloads
  arm9Size : l.arm9Size = u32 packed.length
  overlayTable : l.overlayTable = (rom.overlays.zip payloads).flatMap fun entry =>
    overlayEntry entry.1 (u32 entry.2.length)
  fat_length : l.fat.length = rom.files.length
  laid : Laid l.output (layoutRegions rom l packed (List.replicate (u32 (rom.files.length * 8)) 0)
    overlayRegions fileRegions)
  overlay_contents : overlayRegions.map Region.content = payloads
  file_contents : fileRegions.map Region.content = (plainFiles rom).map Prod.snd
  overlay_entries : List.Forall₂ (Entered l.fat) (rom.overlays.map Overlay.fileId) overlayRegions
  file_entries : List.Forall₂ (Entered l.fat) ((plainFiles rom).map Prod.fst) fileRegions

/-- The overlay table of the ARM7, if there is one. -/
theorem laid_arm7Ovt (rom : RomImage) {output : List UInt8} {regions : List (Region UInt8)}
    (h : Laid output regions) :
    Laid (if rom.arm7OverlayTable.isEmpty then (output, 0)
        else place output 0 rom.arm7OverlayTable).1
      (regions ++ if rom.arm7OverlayTable.isEmpty then []
        else [⟨(if rom.arm7OverlayTable.isEmpty then (output, 0)
          else place output 0 rom.arm7OverlayTable).2, rom.arm7OverlayTable⟩]) := by
  by_cases hempty : rom.arm7OverlayTable.isEmpty
  · simp only [if_pos hempty, List.append_nil]
    exact h
  · simp only [if_neg hempty]
    exact laid_place h 0 rom.arm7OverlayTable

/-- The files that are not overlays. -/
theorem mem_plainFiles {rom : RomImage} {file : Nat × List UInt8} :
    file ∈ plainFiles rom ↔
      rom.files[file.1]? = some file.2 ∧ file.1 ∉ rom.overlays.map Overlay.fileId := by
  obtain ⟨id, content⟩ := file
  unfold plainFiles
  rw [List.mem_filter, List.mem_map]
  constructor
  · rintro ⟨⟨⟨c, i⟩, hmem, heq⟩, hout⟩
    cases heq
    exact ⟨List.mem_zipIdx_iff_getElem?.mp hmem, of_decide_eq_true hout⟩
  · rintro ⟨hget, hout⟩
    exact ⟨⟨(content, id), List.mem_zipIdx_iff_getElem?.mpr hget, rfl⟩, decide_eq_true hout⟩

theorem nodup_plainFiles (rom : RomImage) : ((plainFiles rom).map Prod.fst).Nodup := by
  have hids : ((rom.files.zipIdx.map fun entry => (entry.2, entry.1)).map Prod.fst).Nodup := by
    rw [List.map_map]
    change (rom.files.zipIdx.map Prod.snd).Nodup
    rw [List.zipIdx_map_snd]
    exact List.nodup_range'
  exact List.Nodup.sublist (List.Sublist.map Prod.fst List.filter_sublist) hids

/-- Entries stay where the table does not change. -/
theorem entered_of_kept {fat fat' : List (Nat × Nat)} {ids : List Nat}
    {regions : List (Region UInt8)} (h : List.Forall₂ (Entered fat) ids regions)
    (hkept : ∀ id ∈ ids, fat'[id]? = fat[id]?) : List.Forall₂ (Entered fat') ids regions := by
  induction h with
  | nil => exact List.Forall₂.nil
  | cons hfirst hrest ih =>
    refine List.Forall₂.cons ?_ (ih fun id hid => hkept id (List.mem_cons_of_mem _ hid))
    exact (hkept _ List.mem_cons_self).trans hfirst

/-- A layout exists only with the regions it promises. -/
theorem layout_spec {tools : Tools} {rom : RomImage} {l : Layout} (h : layout tools rom = .ok l)
    (hids : (rom.overlays.map Overlay.fileId).Nodup)
    (hlt : ∀ id ∈ rom.overlays.map Overlay.fileId, id < rom.files.length) :
    ∃ buildInfo packed payloads overlayRegions fileRegions,
      LaidOut tools rom l buildInfo packed payloads overlayRegions fileRegions := by
  unfold layout at h
  obtain ⟨buildInfo, hinfo, h⟩ := bind_eq_ok.mp h
  obtain ⟨⟨arm9, packed⟩, hpacked, h⟩ := bind_eq_ok.mp h
  obtain ⟨payloads, hpayloads, h⟩ := bind_eq_ok.mp h
  have hlength : payloads.length = rom.overlays.length :=
    (mapM_eq_ok_iff.mp hpayloads).length_eq.symm
  have hzip : ((rom.overlays.map Overlay.fileId).zip payloads).map Prod.fst =
      rom.overlays.map Overlay.fileId := by
    rw [List.map_fst_zip]
    rw [List.length_map]
    omega
  have hzip' : ((rom.overlays.map Overlay.fileId).zip payloads).map Prod.snd = payloads := by
    rw [List.map_snd_zip]
    rw [List.length_map]
    omega
  -- the header, the ARM9 binary and its overlay table
  have hheader : Laid (List.replicate HEADER_SIZE 0) [] :=
    ⟨Placed.nil, by rw [List.length_replicate]⟩
  have harm9 := laid_place hheader 0 (packed ++ rom.arm9Footer)
  have htable := laid_place harm9 0 ((rom.overlays.zip payloads).flatMap fun entry =>
    overlayEntry entry.1 (u32 entry.2.length))
  -- the overlays
  obtain ⟨overlayRegions, hoverlays, hcontents, hentered, hfat, -⟩ :=
    placeFiles_spec 0 ((rom.overlays.map Overlay.fileId).zip payloads)
      { output := _, fat := List.replicate rom.files.length (0, 0) } htable
      (by rw [hzip]; exact hids)
      (by rw [hzip, List.length_replicate]; exact hlt)
  rw [List.length_replicate] at hfat
  rw [hzip] at hentered
  obtain ⟨fs, hfs⟩ : ∃ fs, ((rom.overlays.map Overlay.fileId).zip payloads).foldl (placeFile 0)
      { output := (place (place (List.replicate HEADER_SIZE 0) 0 (packed ++ rom.arm9Footer)).1 0
          ((rom.overlays.zip payloads).flatMap fun entry =>
            overlayEntry entry.1 (u32 entry.2.length))).1
        fat := List.replicate rom.files.length (0, 0) } = fs := ⟨_, rfl⟩
  rw [hfs] at hoverlays hentered hfat
  -- the ARM7 binary, the tables and the banner
  have harm7 := laid_place hoverlays 0 rom.arm7
  have hovt := laid_arm7Ovt rom harm7
  have hfnt := laid_place hovt 0 rom.fnt
  have hspace := laid_place hfnt 0 (List.replicate (u32 (fs.fat.length * 8)) 0)
  have hbanner := laid_place hspace 0 rom.banner
  -- the plain files, whose ids no overlay has
  obtain ⟨fileRegions, hfiles, hfileContents, hfileEntered, hfat', hkept⟩ :=
    placeFiles_spec 0xff (plainFiles rom) { output := _, fat := fs.fat } hbanner
      (nodup_plainFiles rom) (by
        intro id hid
        obtain ⟨file, hmem, rfl⟩ := List.mem_map.mp hid
        have hget := (mem_plainFiles.mp hmem).1
        rw [hfat]
        exact (List.getElem?_eq_some_iff.mp hget).1)
  have hzeros : List.replicate (u32 (fs.fat.length * 8)) (0 : UInt8) =
      List.replicate (u32 (rom.files.length * 8)) 0 := by rw [hfat]
  subst hfs
  cases h
  refine ⟨buildInfo, packed, payloads, overlayRegions, fileRegions,
    hinfo, hpacked, hpayloads, rfl, rfl, hfat'.trans hfat, ?_, hcontents.trans hzip', hfileContents,
    entered_of_kept hentered ?_, hfileEntered⟩
  · rw [← hzeros]
    exact hfiles
  · intro id hid
    refine hkept id fun hplain => ?_
    obtain ⟨file, hmem, rfl⟩ := List.mem_map.mp hplain
    exact (mem_plainFiles.mp hmem).2 hid

/-! ## Filling in the table and the header -/

/-- Words to be written at their offsets, as regions. -/
def wordRegions (writes : List (Nat × Nat)) : List (Region UInt8) :=
  writes.map fun write => ⟨write.1, toBytes 4 write.2⟩

theorem stop_wordRegion {writes : List (Nat × Nat)} {bound : Nat}
    (h : ∀ write ∈ writes, write.1 + 4 ≤ bound) : ∀ r ∈ wordRegions writes, r.stop ≤ bound := by
  intro r hr
  obtain ⟨write, hmem, rfl⟩ := List.mem_map.mp hr
  change write.1 + (toBytes 4 write.2).length ≤ bound
  rw [length_toBytes]
  exact h write hmem

theorem apart_wordRegions {writes : List (Nat × Nat)}
    (h : (writes.map Prod.fst).Pairwise fun a b => a + 4 ≤ b) :
    (wordRegions writes).Pairwise Region.Apart := by
  rw [List.pairwise_map] at h
  rw [wordRegions, List.pairwise_map]
  refine h.imp ?_
  intro a b hab
  refine Or.inl ?_
  change a.1 + (toBytes 4 a.2).length ≤ b.1
  rw [length_toBytes]
  exact hab

/-- A sequence of word writes inside the buffer succeeds. -/
theorem foldlM_writeU32 {writes : List (Nat × Nat)} {output : List UInt8}
    (h : ∀ write ∈ writes, write.1 + 4 ≤ output.length) :
    writes.foldlM (fun output write => writeU32 output write.1 write.2) output =
      .ok (writeAll output (wordRegions writes)) := by
  induction writes generalizing output with
  | nil => rfl
  | cons write writes ih =>
    have hfirst : write.1 + 4 ≤ output.length := h write List.mem_cons_self
    have hlen : (writeAt output write.1 (toBytes 4 write.2)).length = output.length :=
      length_writeAt (by rw [length_toBytes]; exact hfirst)
    have hstep : writeU32 output write.1 write.2 =
        .ok (writeAt output write.1 (toBytes 4 write.2)) := if_pos hfirst
    rw [List.foldlM_cons, hstep]
    refine ih fun other hother => ?_
    rw [hlen]
    exact h other (List.mem_cons_of_mem write hother)

/-- The bytes of the allocation table. -/
def fatImage (l : Layout) : List UInt8 := l.fat.flatMap fun entry =>
  toBytes 4 entry.1 ++ toBytes 4 entry.2

/-- What is written into the allocation table. -/
theorem mem_fatWrites {l : Layout} {write : Nat × Nat} :
    write ∈ fatWrites l ↔ ∃ id entry, l.fat[id]? = some entry ∧
      (write = (l.fatOff + id * 8, entry.1) ∨ write = (l.fatOff + id * 8 + 4, entry.2)) := by
  unfold fatWrites
  rw [List.mem_flatMap]
  constructor
  · rintro ⟨⟨entry, id⟩, hmem, hwrite⟩
    refine ⟨id, entry, List.mem_zipIdx_iff_getElem?.mp hmem, ?_⟩
    simpa using hwrite
  · rintro ⟨id, entry, hget, hwrite⟩
    refine ⟨(entry, id), List.mem_zipIdx_iff_getElem?.mpr hget, ?_⟩
    simpa using hwrite

/-- The entries are written in the order of their offsets. -/
theorem ordered_fatWrites (l : Layout) :
    ((fatWrites l).map Prod.fst).Pairwise fun a b => a + 4 ≤ b := by
  have hfrom : ∀ (fat : List (Nat × Nat)) (first : Nat),
      (((fat.zipIdx first).flatMap fun entry =>
        [(l.fatOff + entry.2 * 8, entry.1.1), (l.fatOff + entry.2 * 8 + 4, entry.1.2)]).map
          Prod.fst).Pairwise (fun a b => a + 4 ≤ b) ∧
      ∀ write ∈ (fat.zipIdx first).flatMap fun entry =>
        [(l.fatOff + entry.2 * 8, entry.1.1), (l.fatOff + entry.2 * 8 + 4, entry.1.2)],
        l.fatOff + first * 8 ≤ write.1 := by
    intro fat
    induction fat with
    | nil => exact fun first => ⟨List.Pairwise.nil, fun write hwrite => absurd hwrite (by simp)⟩
    | cons entry fat ih =>
      intro first
      obtain ⟨hpairwise, hlow⟩ := ih (first + 1)
      rw [List.zipIdx_cons, List.flatMap_cons]
      constructor
      · rw [List.map_append, List.pairwise_append]
        refine ⟨by simp, hpairwise, ?_⟩
        intro a ha b hb
        obtain ⟨write, hwrite, rfl⟩ := List.mem_map.mp hb
        have hle := hlow write hwrite
        simp only [List.map_cons, List.map_nil, List.mem_cons, List.not_mem_nil, or_false] at ha
        omega
      · intro write hwrite
        rcases List.mem_append.mp hwrite with hwrite | hwrite
        · simp only [List.mem_cons, List.not_mem_nil, or_false] at hwrite
          rcases hwrite with rfl | rfl
          · exact Nat.le_refl _
          · exact Nat.le_add_right _ 4
        · have := hlow write hwrite
          omega
  exact (hfrom l.fat 0).1

/-- The words of the header are written in order. -/
theorem ordered_headerWrites (rom : RomImage) (l : Layout) :
    ((headerWrites rom l).map Prod.fst).Pairwise fun a b => a + 4 ≤ b := by
  change [0x20, 0x24, 0x28, 0x2c, 0x30, 0x34, 0x38, 0x3c, 0x40, 0x44, 0x48, 0x4c, 0x50, 0x54, 0x58,
    0x5c, 0x60, 0x64, 0x68, 0x70, 0x80].Pairwise fun a b : Nat => a + 4 ≤ b
  decide

/-- The words of the header lie below its checksum. -/
theorem headerWrites_le {rom : RomImage} {l : Layout} {write : Nat × Nat}
    (h : write ∈ headerWrites rom l) : write.1 + 4 ≤ 0x84 := by
  have hall : ∀ offset ∈ (headerWrites rom l).map Prod.fst, offset + 4 ≤ 0x84 := by
    change ∀ offset ∈ [0x20, 0x24, 0x28, 0x2c, 0x30, 0x34, 0x38, 0x3c, 0x40, 0x44, 0x48, 0x4c, 0x50,
      0x54, 0x58, 0x5c, 0x60, 0x64, 0x68, 0x70, 0x80], offset + 4 ≤ 0x84
    decide
  exact hall write.1 (List.mem_map_of_mem h)

theorem le_nextPowerOfTwo (n : Nat) : n ≤ nextPowerOfTwo n := by
  unfold nextPowerOfTwo
  split
  · assumption
  · next h =>
    have := Nat.lt_log2_self (n := n - 1)
    omega

/-- The order of regions is a matter of their offsets and lengths. -/
theorem ordered_replace {before after : List (Region UInt8)} {offset : Nat}
    {content content' : List UInt8} (hlen : content.length = content'.length)
    (h : (before ++ ⟨offset, content⟩ :: after).Pairwise fun r s => r.stop ≤ s.offset) :
    (before ++ ⟨offset, content'⟩ :: after).Pairwise fun r s => r.stop ≤ s.offset := by
  rw [List.pairwise_append, List.pairwise_cons] at h ⊢
  obtain ⟨hbefore, ⟨hfirst, hafter⟩, hcross⟩ := h
  refine ⟨hbefore, ⟨?_, hafter⟩, ?_⟩
  · intro s hs
    have hle : offset + content.length ≤ s.offset := hfirst s hs
    change offset + content'.length ≤ s.offset
    omega
  · intro r hr s hs
    rcases List.mem_cons.mp hs with rfl | hs
    · exact hcross r hr ⟨offset, content⟩ List.mem_cons_self
    · exact hcross r hr s (List.mem_cons_of_mem _ hs)

/-- The words of the allocation table lie in the space reserved for it. -/
theorem fatWrites_bounds {l : Layout} {write : Nat × Nat} (h : write ∈ fatWrites l) :
    l.fatOff ≤ write.1 ∧ write.1 + 4 ≤ l.fatOff + 8 * l.fat.length := by
  obtain ⟨id, entry, hget, hwrite⟩ := mem_fatWrites.mp h
  have hid : id < l.fat.length := (List.getElem?_eq_some_iff.mp hget).1
  rcases hwrite with rfl | rfl
  · dsimp only
    omega
  · dsimp only
    omega

theorem length_fatEntry (entry : Nat × Nat) :
    (toBytes 4 entry.1 ++ toBytes 4 entry.2).length = 8 := by
  rw [List.length_append, length_toBytes, length_toBytes]

theorem length_fatImage (l : Layout) : (fatImage l).length = 8 * l.fat.length :=
  length_flatMap_of_size length_fatEntry l.fat

/-- Once its words are written the table is in its space. -/
theorem holds_fatImage {l : Layout} {output : List UInt8}
    (hle : l.fatOff + 8 * l.fat.length ≤ output.length) :
    Holds (writeAll output (wordRegions (fatWrites l))) l.fatOff (fatImage l) := by
  have hin : ∀ r ∈ wordRegions (fatWrites l), r.stop ≤ output.length :=
    stop_wordRegion fun write hwrite => Nat.le_trans (fatWrites_bounds hwrite).2 hle
  have hword : ∀ write ∈ fatWrites l,
      Holds (writeAll output (wordRegions (fatWrites l))) write.1 (toBytes 4 write.2) :=
    fun write hwrite => holds_writeAll hin (apart_wordRegions (ordered_fatWrites l))
      (List.mem_map_of_mem hwrite)
  refine Holds.flatMap length_fatEntry ?_ ?_
  · rw [length_writeAll hin]
    exact hle
  · intro id entry hget
    have hstart := hword _ (mem_fatWrites.mpr ⟨id, entry, hget, Or.inl rfl⟩)
    have hstop := hword _ (mem_fatWrites.mpr ⟨id, entry, hget, Or.inr rfl⟩)
    rw [Nat.mul_comm]
    exact hstart.concat (by rw [length_toBytes]; exact hstop)

/-- What the file holds in the end. -/
structure Finished (rom : RomImage) (l : Layout) (regions : List (Region UInt8))
    (output : List UInt8) : Prop where
  placed : Placed 0x200 HEADER_SIZE output regions
  length : output.length = paddedLen rom l
  word : ∀ write ∈ headerWrites rom l, Holds output write.1 (toBytes 4 write.2)
  rest : ∀ i, i < HEADER_SIZE → (∀ write ∈ headerWrites rom l, i < write.1 ∨ write.1 + 4 ≤ i) →
    i < 0x15e ∨ 0x160 ≤ i → output[i]? = rom.header[i]?

/-- The end of the layout leaves the regions as they are, but for the words that it writes. -/
theorem finish_spec (tools : Tools) {rom : RomImage} {l : Layout}
    {before after : List (Region UInt8)} {space : List UInt8}
    (hlaid : Laid l.output (before ++ ⟨l.fatOff, space⟩ :: after))
    (hspace : space.length = 8 * l.fat.length) (hheader : rom.header.length = HEADER_SIZE) :
    ∃ output, finish tools rom l = .ok output ∧
      Finished rom l (before ++ ⟨l.fatOff, fatImage l⟩ :: after) output := by
  obtain ⟨hplaced, hlong⟩ := hlaid
  have hlen : l.output.length ≤ paddedLen rom l :=
    Nat.le_trans (le_nextPowerOfTwo _) (Nat.le_max_left _ _)
  -- the padded output, in which the space of the table is reserved
  obtain ⟨out₀, hout₀⟩ : ∃ out, out = l.output ++
    List.replicate (paddedLen rom l - l.output.length) (0xff : UInt8) := ⟨_, rfl⟩
  have hlen₀ : out₀.length = paddedLen rom l := by
    rw [hout₀, List.length_append, List.length_replicate]
    omega
  have hspaceHolds := hplaced.holds ⟨l.fatOff, space⟩ (by simp)
  have hfatLe : l.fatOff + 8 * l.fat.length ≤ out₀.length := by
    have hle : l.fatOff + space.length ≤ l.output.length := hspaceHolds.le
    omega
  have hfatIn : ∀ write ∈ fatWrites l, write.1 + 4 ≤ out₀.length :=
    fun write hwrite => Nat.le_trans (fatWrites_bounds hwrite).2 hfatLe
  have hlen₁ := length_writeAll (stop_wordRegion hfatIn)
  have hold₁ : ∀ r ∈ before ++ ⟨l.fatOff, fatImage l⟩ :: after,
      Holds (writeAll out₀ (wordRegions (fatWrites l))) r.offset r.content := by
    intro r hr
    have hcases : r = ⟨l.fatOff, fatImage l⟩ ∨ r ∈ before ++ after := by
      simp only [List.mem_append, List.mem_cons] at hr ⊢
      tauto
    rcases hcases with rfl | hr
    · exact holds_fatImage hfatLe
    · have happart := apart_of_ordered hplaced.ordered rfl hr
      have hmem : r ∈ before ++ ⟨l.fatOff, space⟩ :: after := by
        simp only [List.mem_append, List.mem_cons] at hr ⊢
        tauto
      have hbase : Holds out₀ r.offset r.content := by
        rw [hout₀]
        exact (hplaced.holds r hmem).append _
      refine hbase.writeAll (stop_wordRegion hfatIn) ?_
      intro w hw
      obtain ⟨write, hwrite, rfl⟩ := List.mem_map.mp hw
      obtain ⟨hlow, hhigh⟩ := fatWrites_bounds hwrite
      rcases happart with hle | hle
      · refine Or.inr ?_
        change r.offset + r.content.length ≤ write.1
        change r.offset + r.content.length ≤ l.fatOff at hle
        omega
      · refine Or.inl ?_
        change write.1 + (toBytes 4 write.2).length ≤ r.offset
        change l.fatOff + space.length ≤ r.offset at hle
        rw [length_toBytes]
        omega
  -- the header and its words
  have hheaderIn : 0 + rom.header.length ≤ (writeAll out₀ (wordRegions (fatWrites l))).length := by
    rw [hlen₁, hlen₀, hheader]
    omega
  obtain ⟨out₂, hout₂⟩ : ∃ out, out =
    writeAt (writeAll out₀ (wordRegions (fatWrites l))) 0 rom.header := ⟨_, rfl⟩
  have hlen₂ : out₂.length = paddedLen rom l := by
    rw [hout₂, length_writeAt hheaderIn, hlen₁, hlen₀]
  have hwordIn : ∀ write ∈ headerWrites rom l, write.1 + 4 ≤ out₂.length := by
    intro write hwrite
    have hle := headerWrites_le hwrite
    have : (0x84 : Nat) ≤ HEADER_SIZE := by decide
    omega
  have hlen₃ := length_writeAll (stop_wordRegion hwordIn)
  obtain ⟨out₃, hout₃⟩ : ∃ out, out = writeAll out₂ (wordRegions (headerWrites rom l)) := ⟨_, rfl⟩
  rw [← hout₃, hlen₂] at hlen₃
  -- the checksum
  have hcrcIn : ∀ value, 0x15e + (toBytes 2 value).length ≤ out₃.length := by
    intro value
    have : (0x160 : Nat) ≤ HEADER_SIZE := by decide
    rw [length_toBytes, hlen₃]
    omega
  have hcrc : writeU16 out₃ 0x15e (tools.checksum (out₃.take 0x15e)) =
      .ok (writeAt out₃ 0x15e (toBytes 2 (tools.checksum (out₃.take 0x15e)))) := by
    have := hcrcIn (tools.checksum (out₃.take 0x15e))
    rw [length_toBytes] at this
    exact if_pos this
  refine ⟨writeAt out₃ 0x15e (toBytes 2 (tools.checksum (out₃.take 0x15e))), ?_, ?_⟩
  · unfold finish
    dsimp only
    rw [← hout₀]
    refine bind_eq_ok.mpr ⟨_, foldlM_writeU32 hfatIn, bind_eq_ok.mpr ⟨out₃, ?_, hcrc⟩⟩
    rw [← hout₂, foldlM_writeU32 hwordIn, hout₃]
  · have hkeep : ∀ r : Region UInt8, HEADER_SIZE ≤ r.offset →
        Holds (writeAll out₀ (wordRegions (fatWrites l))) r.offset r.content →
        Holds (writeAt out₃ 0x15e (toBytes 2 (tools.checksum (out₃.take 0x15e))))
          r.offset r.content := by
      intro r hoffset hold
      have hsmall : (0x160 : Nat) ≤ HEADER_SIZE := by decide
      have hold₂ : Holds out₂ r.offset r.content := by
        rw [hout₂]
        exact hold.writeAt_apart hheaderIn (Or.inr (by omega))
      have hold₃ : Holds out₃ r.offset r.content := by
        rw [hout₃]
        refine hold₂.writeAll (stop_wordRegion hwordIn) ?_
        intro w hw
        obtain ⟨write, hwrite, rfl⟩ := List.mem_map.mp hw
        have hle := headerWrites_le hwrite
        refine Or.inl ?_
        change write.1 + (toBytes 4 write.2).length ≤ r.offset
        rw [length_toBytes]
        omega
      refine hold₃.writeAt_apart (hcrcIn _) (Or.inr ?_)
      rw [length_toBytes]
      omega
    have hstart : ∀ r ∈ before ++ ⟨l.fatOff, fatImage l⟩ :: after, HEADER_SIZE ≤ r.offset ∧
        r.offset % 0x200 = 0 := by
      intro r hr
      simp only [List.mem_append, List.mem_cons] at hr
      rcases hr with hr | rfl | hr
      · exact ⟨hplaced.start_le r (by simp [hr]), hplaced.aligned r (by simp [hr])⟩
      · exact ⟨hplaced.start_le ⟨l.fatOff, space⟩ (by simp),
          hplaced.aligned ⟨l.fatOff, space⟩ (by simp)⟩
      · exact ⟨hplaced.start_le r (by simp [hr]), hplaced.aligned r (by simp [hr])⟩
    refine ⟨⟨fun r hr => hkeep r (hstart r hr).1 (hold₁ r hr), fun r hr => (hstart r hr).2,
      fun r hr => (hstart r hr).1, ?_⟩, ?_, ?_, ?_⟩
    · refine ordered_replace ?_ hplaced.ordered
      rw [hspace, length_fatImage]
    · rw [length_writeAt (hcrcIn _), hlen₃]
    · intro write hwrite
      have hhold : Holds out₃ write.1 (toBytes 4 write.2) := by
        rw [hout₃]
        exact holds_writeAll (stop_wordRegion hwordIn)
          (apart_wordRegions (ordered_headerWrites rom l))
          (List.mem_map_of_mem hwrite)
      refine hhold.writeAt_apart (hcrcIn _) (Or.inl ?_)
      have hle := headerWrites_le hwrite
      rw [length_toBytes]
      omega
    · intro i hi hout hcrcOut
      rw [getElem?_writeAt (hcrcIn _), if_neg (by rw [length_toBytes]; omega), hout₃,
        getElem?_writeAll_outside (stop_wordRegion hwordIn), hout₂, getElem?_writeAt hheaderIn,
        if_pos (by omega), Nat.sub_zero]
      intro r hr
      obtain ⟨write, hwrite, rfl⟩ := List.mem_map.mp hr
      change i < write.1 ∨ write.1 + (toBytes 4 write.2).length ≤ i
      rw [length_toBytes]
      exact hout write hwrite

end Bigstar.Rom
