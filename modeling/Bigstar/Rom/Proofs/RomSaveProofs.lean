import Bigstar.Rom.Proofs.RomImageProofs

/-!
# Saving a ROM loses nothing

The main result about `load` and `save`, for images that were loaded and patched in place, and the
two ways in which a saved file can fail to be the image again: patches that destroy the table of
ARM9 sections, which `load` refuses, and images that need offsets of more than 32 bits.
-/

namespace Bigstar.Rom

open LittleEndian Pages Buffer

/-- The contents of the regions of a saved ROM, in their order. -/
def regionContents (rom : RomImage) (l : Layout) (packed : List UInt8)
    (payloads : List (List UInt8)) : List (List UInt8) :=
  [packed ++ rom.arm9Footer, l.overlayTable] ++ payloads ++ [rom.arm7] ++
    (if rom.arm7OverlayTable.isEmpty then [] else [rom.arm7OverlayTable]) ++
    [rom.fnt, fatImage l, rom.banner] ++ (plainFiles rom).map Prod.snd

theorem contents_layoutRegions {tools : Tools} {rom : RomImage} {l : Layout} {buildInfo : Nat}
    {packed : List UInt8} {payloads : List (List UInt8)}
    {overlayRegions fileRegions : List (Region UInt8)}
    (hlaid : LaidOut tools rom l buildInfo packed payloads overlayRegions fileRegions) :
    (layoutRegions rom l packed (fatImage l) overlayRegions fileRegions).map Region.content =
      regionContents rom l packed payloads := by
  unfold layoutRegions arm7OvtRegion regionContents
  by_cases hempty : rom.arm7OverlayTable.isEmpty
  · simp [hempty, hlaid.overlay_contents, hlaid.file_contents]
  · simp [hempty, hlaid.overlay_contents, hlaid.file_contents]

/-- An image that was loaded, patched and laid out is saved, and what is saved loads as the same
image, provided that its offsets fit into words and `load` accepts the sections of its ARM9
binary. -/
theorem load_save_patched (tools : Tools) (hlossless : tools.Lossless) {data : List UInt8}
    {rom₀ rom : RomImage} (patches : List Patch) {l : Layout} {sections : List Arm9Section}
    (hload : load tools data = .ok rom₀) (hpatches : patches.foldlM patch rom₀ = .ok rom)
    (hids : (rom.overlays.map Overlay.fileId).Nodup) (hlayout : layout tools rom = .ok l)
    (hsize : l.output.length < 2 ^ 32)
    (hsections : parseArm9Sections l.arm9 rom.arm9Ram rom.arm9CodeSettingsPointer = .ok sections) :
    ∃ output buildInfo rom', save tools rom = .ok output ∧ arm9BuildInfoOffset rom = .ok buildInfo ∧
      load tools output = .ok rom' ∧ SameImage buildInfo rom rom' ∧
      (∃ regions packed payloads,
        regions.map Region.content = regionContents rom l packed payloads ∧
        Placed 0x200 HEADER_SIZE output regions) ∧
      ∀ i, i < HEADER_SIZE → (∀ write ∈ headerWrites rom l, i < write.1 ∨ write.1 + 4 ≤ i) →
        i < 0x15e ∨ 0x160 ≤ i → output[i]? = rom.header[i]? := by
  have hwf := (wellFormed_of_patches hpatches (wellFormed_of_load hload)).1
  have hlt : ∀ id ∈ rom.overlays.map Overlay.fileId, id < rom.files.length := by
    intro id hid
    obtain ⟨overlay, hmem, rfl⟩ := List.mem_map.mp hid
    exact hwf.fileIds overlay hmem
  obtain ⟨buildInfo, packed, payloads, overlayRegions, fileRegions, hlaid⟩ :=
    layout_spec hlayout hids hlt
  obtain ⟨output, hfinish, hfin⟩ := finish_of_laidOut hwf hlaid
  obtain ⟨rom', hload', hsame⟩ := (load_saved hlossless hwf hlaid hfin hsize).1 sections hsections
  exact ⟨output, buildInfo, rom', bind_eq_ok.mpr ⟨l, hlayout, hfinish⟩, hlaid.offset, hload', hsame,
    ⟨_, packed, payloads, contents_layoutRegions hlaid, hfin.placed⟩, hfin.rest⟩

/-! ## The size of a layout -/

theorem length_place_le (output : List UInt8) (fill : UInt8) (content : List UInt8) :
    (place output fill content).1.length ≤ output.length + 0x1ff + content.length := by
  have hpad : (0x200 - output.length % 0x200) % 0x200 ≤ 0x1ff := by omega
  change (alignVec output 0x200 fill ++ content).length ≤ _
  rw [alignVec, List.length_append, List.length_append, List.length_replicate]
  omega

theorem length_placeFiles_le (fill : UInt8) (files : List (Nat × List UInt8)) (fs : FileSystem) :
    (files.foldl (placeFile fill) fs).output.length ≤
      fs.output.length + (files.map fun file => 0x1ff + file.2.length).sum := by
  induction files generalizing fs with
  | nil => exact Nat.le_refl _
  | cons file files ih =>
    have hfirst : (placeFile fill fs file).output.length ≤
        fs.output.length + 0x1ff + file.2.length := length_place_le fs.output fill file.2
    have hrest := ih (placeFile fill fs file)
    rw [List.foldl_cons, List.map_cons, List.sum_cons]
    omega

theorem length_fat_placeFiles (fill : UInt8) (files : List (Nat × List UInt8)) (fs : FileSystem) :
    (files.foldl (placeFile fill) fs).fat.length = fs.fat.length := by
  induction files generalizing fs with
  | nil => rfl
  | cons file files ih => exact (ih _).trans List.length_set

/-- Each region takes its length and at most `0x1ff` bytes of filling. -/
theorem length_layout_le {tools : Tools} {rom : RomImage} {buildInfo : Nat}
    {arm9 packed : List UInt8} {payloads : List (List UInt8)} {l : Layout}
    (hinfo : arm9BuildInfoOffset rom = .ok buildInfo)
    (hpacked : compressArm9WithBuildInfo tools rom.arm9 buildInfo rom.arm9Ram = .ok (arm9, packed))
    (hpayloads : rom.overlays.mapM (overlayPayload tools) = .ok payloads)
    (hempty : rom.arm7OverlayTable = []) (hlayout : layout tools rom = .ok l) :
    l.output.length ≤ HEADER_SIZE + 6 * 0x1ff + packed.length + rom.arm9Footer.length +
      ((rom.overlays.zip payloads).flatMap fun entry =>
        overlayEntry entry.1 (u32 entry.2.length)).length +
      (((rom.overlays.map Overlay.fileId).zip payloads).map fun file => 0x1ff + file.2.length).sum +
      rom.arm7.length + rom.fnt.length + rom.files.length * 8 + rom.banner.length +
      ((plainFiles rom).map fun file => 0x1ff + file.2.length).sum := by
  unfold layout at hlayout
  obtain ⟨buildInfo', hinfo', hlayout⟩ := bind_eq_ok.mp hlayout
  cases hinfo.symm.trans hinfo'
  obtain ⟨⟨arm9', packed'⟩, hpacked', hlayout⟩ := bind_eq_ok.mp hlayout
  cases hpacked.symm.trans hpacked'
  obtain ⟨payloads', hpayloads', hlayout⟩ := bind_eq_ok.mp hlayout
  cases hpayloads.symm.trans hpayloads'
  have harm9 := length_place_le (List.replicate HEADER_SIZE 0) 0 (packed ++ rom.arm9Footer)
  have htable := length_place_le (place (List.replicate HEADER_SIZE 0) 0
    (packed ++ rom.arm9Footer)).1 0 ((rom.overlays.zip payloads).flatMap fun entry =>
      overlayEntry entry.1 (u32 entry.2.length))
  have hoverlays := length_placeFiles_le 0 ((rom.overlays.map Overlay.fileId).zip payloads)
    { output := (place (place (List.replicate HEADER_SIZE 0) 0 (packed ++ rom.arm9Footer)).1 0
        ((rom.overlays.zip payloads).flatMap fun entry =>
          overlayEntry entry.1 (u32 entry.2.length))).1
      fat := List.replicate rom.files.length (0, 0) }
  obtain ⟨fs, hfs⟩ : ∃ fs, ((rom.overlays.map Overlay.fileId).zip payloads).foldl (placeFile 0)
      { output := (place (place (List.replicate HEADER_SIZE 0) 0 (packed ++ rom.arm9Footer)).1 0
          ((rom.overlays.zip payloads).flatMap fun entry =>
            overlayEntry entry.1 (u32 entry.2.length))).1
        fat := List.replicate rom.files.length (0, 0) } = fs := ⟨_, rfl⟩
  rw [hfs] at hoverlays
  dsimp only at hoverlays
  have hfat : fs.fat.length = rom.files.length := by
    rw [← hfs, length_fat_placeFiles, List.length_replicate]
  have harm7 := length_place_le fs.output 0 rom.arm7
  have hfnt := length_place_le (place fs.output 0 rom.arm7).1 0 rom.fnt
  have hspace := length_place_le (place (place fs.output 0 rom.arm7).1 0 rom.fnt).1 0
    (List.replicate (u32 (fs.fat.length * 8)) 0)
  have hbanner := length_place_le (place (place (place fs.output 0 rom.arm7).1 0 rom.fnt).1 0
    (List.replicate (u32 (fs.fat.length * 8)) 0)).1 0 rom.banner
  have hfiles := length_placeFiles_le 0xff (plainFiles rom)
    { output := (place (place (place (place fs.output 0 rom.arm7).1 0 rom.fnt).1 0
        (List.replicate (u32 (fs.fat.length * 8)) 0)).1 0 rom.banner).1
      fat := fs.fat }
  have hword : u32 (fs.fat.length * 8) ≤ rom.files.length * 8 := by
    rw [hfat]
    exact Nat.mod_le _ _
  rw [List.length_replicate] at harm9 hspace
  rw [List.length_append] at harm9
  subst hfs
  simp only [hempty, List.isEmpty_nil, if_true] at hlayout
  cases hlayout
  refine Nat.le_trans hfiles ?_
  dsimp only
  omega

/-! ## A small ROM -/

/-- One byte of the checksum with the polynomial `0xA001`. -/
def crcByte (crc : Nat) (byte : UInt8) : Nat :=
  (List.range 8).foldl (fun crc _ => if crc % 2 = 1 then (crc / 2) ^^^ 0xA001 else crc / 2)
    (crc ^^^ byte.toNat)

/-- A codec that stores its data and marks the end of it with an empty footer. -/
def storedTools : Tools where
  compress := fun data _ => some (data ++ List.replicate 8 0)
  decompress := fun packed =>
    if 8 ≤ packed.length then some (packed.take (packed.length - 8)) else none
  checksum := fun bytes => bytes.foldl crcByte 0xFFFF

theorem storedTools_lossless : storedTools.Lossless := by
  intro data start packed h
  cases h
  change (if 8 ≤ (data ++ List.replicate 8 0).length then _ else none) = some data
  rw [if_pos (by simp), List.length_append, List.length_replicate, Nat.add_sub_cancel,
    List.take_left]

/-- An ARM9 binary at `0x02000000` with its end address at `0x14` and, at `0x24`, an empty copy
table behind its last byte. -/
def smallArm9Words (first stop copyTable : Nat) : List Nat :=
  [first, 0, 0, 0, 0, stop, 0, 0, 0, copyTable, 0x02000040, 0x02000040, 0, 0, 0, 0x02000024]

/-- A small ARM9 binary. -/
def smallArm9 (first stop copyTable : Nat) : List UInt8 :=
  (smallArm9Words first stop copyTable).flatMap (toBytes 4)

/-- The words of a ROM that keeps all its parts at the start of the file: one file from the first
byte to `fileEnd`, and one overlay, which is compressed. -/
def smallWords (fileEnd : Nat) : List Nat :=
  [0, 0, 0, 0, 0, 0, 0, 0,
    0x90, 0x02000800, 0x02000000, 0x48, 0xe8, 0x02380000, 0x02380000, 4, 0xec, 4,
    0xf0, 16, 0x100, 0x20, 0, 0, 0, 0, 0x12c, 0, 0x02000040, 0, 0, 0, 0, 0, 0, 0] ++
    smallArm9Words 0 0 0x02000040 ++
    [0, 0, 0xdec00621, 0, 0, 0, 0xe12fff1e, 0xf000, 0, fileEnd, 0x120, 0x12c,
      0, 0x02100000, 4, 0, 0, 0, 1, 0x0100000c, 0xe12fff1e, 0, 0]

/-- A small file. -/
def smallBytes (fileEnd zeros : Nat) : List UInt8 :=
  (smallWords fileEnd).flatMap (toBytes 4) ++ List.replicate zeros 0

/-- The overlay of that ROM, of one word. -/
def smallOverlay (code : Nat) : Overlay where
  id := 0
  baseAddr := 0x02100000
  codeSize := 4
  bssSize := 0
  ctorStart := 0
  ctorEnd := 0
  fileId := 1
  flags := 0x0100000c
  data := toBytes 4 code

/-- The image in those bytes, with a given ARM9 binary and a given word in the overlay. -/
def smallRom (fileEnd zeros : Nat) (arm9 : List UInt8) (code : Nat) : RomImage where
  header := (smallBytes fileEnd zeros).take HEADER_SIZE
  arm9Ram := 0x02000000
  arm9Entry := 0x02000800
  arm9AutoloadCallback := 0
  arm9CodeSettingsPointer := 0x02000040
  arm9Footer := [0xdec00621, 0, 0].flatMap (toBytes 4)
  arm9 := arm9
  arm9Sections := [{ ramAddr := 0x02000000, fileOff := 0, size := 0x40 }]
  arm7 := toBytes 4 0xe12fff1e
  arm7Ram := 0x02380000
  arm7Entry := 0x02380000
  arm7AutoloadCallback := 0
  fnt := toBytes 4 0xf000
  files := [(smallBytes fileEnd zeros).take fileEnd, [0xe12fff1e, 0, 0].flatMap (toBytes 4)]
  overlays := [smallOverlay code]
  arm7OverlayTable := []
  banner := List.replicate 0x840 0
  originalLen := 0x12c + zeros

theorem length_smallBytes (fileEnd zeros : Nat) :
    (smallBytes fileEnd zeros).length = 0x12c + zeros := by
  rw [smallBytes, List.length_append, length_flatMap_of_size (length_toBytes 4),
    List.length_replicate]
  rfl

theorem holds_smallWords (fileEnd zeros : Nat) :
    Holds (smallBytes fileEnd zeros) 0 ((smallWords fileEnd).flatMap (toBytes 4)) := by
  have := holds_append_self [] ((smallWords fileEnd).flatMap (toBytes 4)) (List.replicate zeros 0)
  rwa [List.nil_append] at this

theorem readU32_small (fileEnd zeros : Nat) {k value : Nat}
    (h : (smallWords fileEnd)[k]? = some value) (hvalue : value < 2 ^ 32) :
    readU32 (smallBytes fileEnd zeros) (4 * k) = .ok value := by
  have hword := (holds_smallWords fileEnd zeros).of_flatMap (length_toBytes 4) h
  rw [Nat.zero_add] at hword
  exact readU32_of_holds hword hvalue

/-- Several words of the ROM as one slice. -/
theorem slice_small (fileEnd zeros : Nat) (before words after : List Nat) {off len : Nat}
    (h : smallWords fileEnd = before ++ words ++ after) (hoff : off = 4 * before.length)
    (hlen : len = 4 * words.length) (label : String) :
    slice (smallBytes fileEnd zeros) off len label = .ok (words.flatMap (toBytes 4)) := by
  have hall := holds_smallWords fileEnd zeros
  rw [h, List.flatMap_append, List.flatMap_append] at hall
  have hpart := hall.of_append
  rw [length_flatMap_of_size (length_toBytes 4), Nat.zero_add, ← hoff] at hpart
  exact slice_of_holds' hpart (by rw [length_flatMap_of_size (length_toBytes 4), hlen]) label

theorem readHeader_small (fileEnd zeros : Nat) :
    readHeader (smallBytes fileEnd zeros) = .ok
      { arm9Off := 0x90, arm9Entry := 0x02000800, arm9Ram := 0x02000000, arm9Size := 0x48,
        arm7Off := 0xe8, arm7Entry := 0x02380000, arm7Ram := 0x02380000, arm7Size := 4,
        fntOff := 0xec, fntSize := 4, fatOff := 0xf0, fatSize := 16, arm9OvtOff := 0x100,
        arm9OvtSize := 0x20, arm7OvtOff := 0, arm7OvtSize := 0, arm9AutoloadCallback := 0,
        arm9CodeSettingsPointer := 0x02000040, arm7AutoloadCallback := 0, bannerOff := 0x12c } := by
  have hword : ∀ k value, (smallWords fileEnd)[k]? = some value → value < 2 ^ 32 →
      readU32 (smallBytes fileEnd zeros) (4 * k) = .ok value := fun k value =>
    readU32_small fileEnd zeros
  unfold readHeader
  refine bind_eq_ok.mpr ⟨_, hword 8 _ rfl (by decide), ?_⟩
  refine bind_eq_ok.mpr ⟨_, hword 9 _ rfl (by decide), ?_⟩
  refine bind_eq_ok.mpr ⟨_, hword 10 _ rfl (by decide), ?_⟩
  refine bind_eq_ok.mpr ⟨_, hword 11 _ rfl (by decide), ?_⟩
  refine bind_eq_ok.mpr ⟨_, hword 12 _ rfl (by decide), ?_⟩
  refine bind_eq_ok.mpr ⟨_, hword 13 _ rfl (by decide), ?_⟩
  refine bind_eq_ok.mpr ⟨_, hword 14 _ rfl (by decide), ?_⟩
  refine bind_eq_ok.mpr ⟨_, hword 15 _ rfl (by decide), ?_⟩
  refine bind_eq_ok.mpr ⟨_, hword 16 _ rfl (by decide), ?_⟩
  refine bind_eq_ok.mpr ⟨_, hword 17 _ rfl (by decide), ?_⟩
  refine bind_eq_ok.mpr ⟨_, hword 18 _ rfl (by decide), ?_⟩
  refine bind_eq_ok.mpr ⟨_, hword 19 _ rfl (by decide), ?_⟩
  refine bind_eq_ok.mpr ⟨_, hword 20 _ rfl (by decide), ?_⟩
  refine bind_eq_ok.mpr ⟨_, hword 21 _ rfl (by decide), ?_⟩
  refine bind_eq_ok.mpr ⟨_, hword 22 _ rfl (by decide), ?_⟩
  refine bind_eq_ok.mpr ⟨_, hword 23 _ rfl (by decide), ?_⟩
  refine bind_eq_ok.mpr ⟨_, hword 24 _ rfl (by decide), ?_⟩
  refine bind_eq_ok.mpr ⟨_, hword 28 _ rfl (by decide), ?_⟩
  refine bind_eq_ok.mpr ⟨_, hword 25 _ rfl (by decide), ?_⟩
  exact bind_eq_ok.mpr ⟨_, hword 26 _ rfl (by decide), rfl⟩

theorem loadFile_small {fileEnd zeros : Nat} (hend : fileEnd ≤ 0x12c + zeros)
    (hlt : fileEnd < 2 ^ 32) :
    loadFile (smallBytes fileEnd zeros) 0xf0 = .ok ((smallBytes fileEnd zeros).take fileEnd) ∧
      loadFile (smallBytes fileEnd zeros) 0xf8 = .ok ([0xe12fff1e, 0, 0].flatMap (toBytes 4)) := by
  constructor
  · refine bind_eq_ok.mpr ⟨0, readU32_small fileEnd zeros (k := 60) rfl (by decide),
      bind_eq_ok.mpr ⟨fileEnd, readU32_small fileEnd zeros (k := 61) rfl hlt, ?_⟩⟩
    rw [slice, if_pos (by rw [length_smallBytes]; omega)]
    rfl
  · refine bind_eq_ok.mpr ⟨0x120, readU32_small fileEnd zeros (k := 62) rfl (by decide),
      bind_eq_ok.mpr ⟨0x12c, readU32_small fileEnd zeros (k := 63) rfl (by decide), ?_⟩⟩
    exact slice_small fileEnd zeros ((smallWords fileEnd).take 72) [0xe12fff1e, 0, 0]
      [] rfl rfl rfl "file"

theorem loadOverlay_small (fileEnd zeros : Nat) (file : List UInt8) :
    loadOverlay storedTools (smallBytes fileEnd zeros)
      [file, [0xe12fff1e, 0, 0].flatMap (toBytes 4)] 0x100 = .ok (smallOverlay 0xe12fff1e) := by
  have hword : ∀ k value, (smallWords fileEnd)[k]? = some value → value < 2 ^ 32 →
      readU32 (smallBytes fileEnd zeros) (4 * k) = .ok value := fun k value =>
    readU32_small fileEnd zeros
  unfold loadOverlay
  refine bind_eq_ok.mpr ⟨_, hword 70 _ rfl (by decide), ?_⟩
  refine bind_eq_ok.mpr ⟨_, hword 71 _ rfl (by decide), ?_⟩
  refine bind_eq_ok.mpr ⟨_, hword 64 _ rfl (by decide), ?_⟩
  refine bind_eq_ok.mpr ⟨toBytes 4 0xe12fff1e, rfl, ?_⟩
  refine bind_eq_ok.mpr ⟨_, hword 65 _ rfl (by decide), ?_⟩
  refine bind_eq_ok.mpr ⟨_, hword 66 _ rfl (by decide), ?_⟩
  refine bind_eq_ok.mpr ⟨_, hword 67 _ rfl (by decide), ?_⟩
  refine bind_eq_ok.mpr ⟨_, hword 68 _ rfl (by decide), ?_⟩
  exact bind_eq_ok.mpr ⟨_, hword 69 _ rfl (by decide), rfl⟩

theorem readBanner_small (fileEnd zeros : Nat) (hzeros : 0x840 ≤ zeros) :
    readBanner (smallBytes fileEnd zeros) 0x12c = .ok (List.replicate 0x840 0) := by
  have hwords : ((smallWords fileEnd).flatMap (toBytes 4)).length = 0x12c := by
    rw [length_flatMap_of_size (length_toBytes 4)]
    rfl
  have hholds : Holds (smallBytes fileEnd zeros) 0x12c (List.replicate 0x840 0) := by
    have hsplit : smallBytes fileEnd zeros = (smallWords fileEnd).flatMap (toBytes 4) ++
        List.replicate 0x840 0 ++ List.replicate (zeros - 0x840) 0 := by
      rw [smallBytes, List.append_assoc, List.replicate_append_replicate,
        Nat.add_sub_cancel' hzeros]
    rw [hsplit, ← hwords]
    exact holds_append_self _ _ _
  have hversion : Holds (smallBytes fileEnd zeros) 0x12c (toBytes 2 0) := by
    have : List.replicate 0x840 (0 : UInt8) = [] ++ toBytes 2 0 ++ List.replicate 0x83e 0 := rfl
    rw [this] at hholds
    exact hholds.of_append
  refine bind_eq_ok.mpr ⟨0, ?_,
    slice_of_holds' hholds (by rw [List.length_replicate]; rfl) "banner"⟩
  have hslice : slice (smallBytes fileEnd zeros) 0x12c 2 "u16" = .ok (toBytes 2 0) :=
    slice_of_holds' hversion rfl "u16"
  rw [readU16, hslice]
  rfl

theorem parseArm9Sections_small :
    parseArm9Sections (smallArm9 0 0 0x02000040) 0x02000000 0x02000040 =
    .ok [{ ramAddr := 0x02000000, fileOff := 0, size := 0x40 }] := by
  decide +kernel

theorem load_small (fileEnd zeros : Nat) (hzeros : HEADER_SIZE ≤ zeros)
    (hend : fileEnd ≤ 0x12c + zeros) (hlt : fileEnd < 2 ^ 32) :
    load storedTools (smallBytes fileEnd zeros) =
      .ok (smallRom fileEnd zeros (smallArm9 0 0 0x02000040) 0xe12fff1e) := by
  obtain ⟨hfile₀, hfile₁⟩ := loadFile_small hend hlt
  have hlong : ¬ (smallBytes fileEnd zeros).length < HEADER_SIZE := by
    rw [length_smallBytes]
    omega
  have hfiles : (List.range (16 / 8)).mapM
      (fun fileId => loadFile (smallBytes fileEnd zeros) (0xf0 + fileId * 8)) =
        .ok [(smallBytes fileEnd zeros).take fileEnd, [0xe12fff1e, 0, 0].flatMap (toBytes 4)] :=
    mapM_eq_ok_iff.mpr (List.Forall₂.cons hfile₀ (List.Forall₂.cons hfile₁ List.Forall₂.nil))
  have hoverlays : (List.range ((0x20 + 31) / 32)).mapM (fun index => loadOverlay storedTools
      (smallBytes fileEnd zeros)
      [(smallBytes fileEnd zeros).take fileEnd, [0xe12fff1e, 0, 0].flatMap (toBytes 4)]
      (0x100 + 0x20 * index)) = .ok [smallOverlay 0xe12fff1e] :=
    mapM_eq_ok_iff.mpr
      (List.Forall₂.cons (loadOverlay_small fileEnd zeros _) List.Forall₂.nil)
  have harm9 : slice (smallBytes fileEnd zeros) 0x90 0x48 "ARM9" =
      .ok ((smallArm9Words 0 0 0x02000040 ++ [0, 0]).flatMap (toBytes 4)) :=
    slice_small fileEnd zeros ((smallWords fileEnd).take 36) _ ((smallWords fileEnd).drop 54)
      (by rfl) (by rfl) (by rfl) "ARM9"
  have hfooter : slice (smallBytes fileEnd zeros) (0x90 + 0x48) ARM9_FOOTER_SIZE "ARM9 footer" =
      .ok ([0xdec00621, 0, 0].flatMap (toBytes 4)) :=
    slice_small fileEnd zeros ((smallWords fileEnd).take 54) _ ((smallWords fileEnd).drop 57)
      (by rfl) (by rfl) (by rfl) "ARM9 footer"
  have harm7 : slice (smallBytes fileEnd zeros) 0xe8 4 "ARM7" =
      .ok ([0xe12fff1e].flatMap (toBytes 4)) :=
    slice_small fileEnd zeros ((smallWords fileEnd).take 58) _ ((smallWords fileEnd).drop 59)
      (by rfl) (by rfl) (by rfl) "ARM7"
  have hfnt : slice (smallBytes fileEnd zeros) 0xec 4 "FNT" = .ok ([0xf000].flatMap (toBytes 4)) :=
    slice_small fileEnd zeros ((smallWords fileEnd).take 59) _ ((smallWords fileEnd).drop 60)
      (by rfl) (by rfl) (by rfl) "FNT"
  unfold load
  rw [if_neg hlong]
  refine bind_eq_ok.mpr ⟨_, readHeader_small fileEnd zeros, ?_⟩
  refine bind_eq_ok.mpr ⟨_, harm9, bind_eq_ok.mpr ⟨_, hfooter, ?_⟩⟩
  refine bind_eq_ok.mpr ⟨smallArm9 0 0 0x02000040, rfl, ?_⟩
  refine bind_eq_ok.mpr ⟨_, parseArm9Sections_small, ?_⟩
  refine bind_eq_ok.mpr ⟨_, hfiles, bind_eq_ok.mpr ⟨_, hoverlays, ?_⟩⟩
  refine bind_eq_ok.mpr ⟨_, harm7, bind_eq_ok.mpr ⟨_, hfnt, ?_⟩⟩
  refine bind_eq_ok.mpr ⟨[], rfl, bind_eq_ok.mpr ⟨List.replicate 0x840 0, ?_, ?_⟩⟩
  · refine readBanner_small fileEnd zeros (Nat.le_trans ?_ hzeros)
    decide
  · change Except.ok _ = Except.ok _
    rw [length_smallBytes]
    rfl

/-- Saving stores the end address of the packed binary at `0x14`. -/
theorem compressArm9_small :
    ∀ words ∈ [(0, 0x02000040), (0, 0x02000000), (0xe3a00000, 0x02000040)],
      compressArm9WithBuildInfo storedTools (smallArm9 words.1 0 words.2) 0 0x02000000 =
        .ok (smallArm9 words.1 0x02000048 words.2,
          smallArm9 words.1 0x02000048 words.2 ++ List.replicate 8 0) := by
  decide +kernel

theorem plainFiles_small (fileEnd zeros : Nat) (arm9 : List UInt8) (code : Nat) :
    plainFiles (smallRom fileEnd zeros arm9 code) =
      [(0, (smallBytes fileEnd zeros).take fileEnd)] := by
  rfl

theorem layout_small (fileEnd zeros first copyTable code : Nat)
    (hwords : (first, copyTable) ∈ [(0, 0x02000040), (0, 0x02000000), (0xe3a00000, 0x02000040)]) :
    ∃ l, layout storedTools (smallRom fileEnd zeros (smallArm9 first 0 copyTable) code) = .ok l ∧
      l.arm9 = smallArm9 first 0x02000048 copyTable ∧ l.output.length ≤ 0x8000 + fileEnd := by
  have hinfo : arm9BuildInfoOffset (smallRom fileEnd zeros (smallArm9 first 0 copyTable) code) =
      .ok 0 := by
    rfl
  have hpacked := compressArm9_small (first, copyTable) hwords
  have hpayloads : (smallRom fileEnd zeros (smallArm9 first 0 copyTable) code).overlays.mapM
      (overlayPayload storedTools) = .ok [toBytes 4 code ++ List.replicate 8 0] := by
    have hpayload : overlayPayload storedTools (smallOverlay code) =
        .ok (toBytes 4 code ++ List.replicate 8 0) := by
      have hcompressed : (smallOverlay code).compressed = true :=
        decide_eq_true (show 0x0100000c / 2 ^ 24 % 2 ≠ 0 by decide)
      unfold overlayPayload
      rw [if_pos hcompressed]
      rfl
    exact mapM_eq_ok_iff.mpr (List.Forall₂.cons hpayload List.Forall₂.nil)
  obtain ⟨l, hlayout, harm9⟩ : ∃ l,
      layout storedTools (smallRom fileEnd zeros (smallArm9 first 0 copyTable) code) = .ok l ∧
        l.arm9 = smallArm9 first 0x02000048 copyTable := by
    unfold layout
    exact ⟨_, bind_eq_ok.mpr ⟨_, hinfo, bind_eq_ok.mpr ⟨_, hpacked,
      bind_eq_ok.mpr ⟨_, hpayloads, rfl⟩⟩⟩, rfl⟩
  refine ⟨l, hlayout, harm9, ?_⟩
  have hle := length_layout_le hinfo hpacked hpayloads rfl hlayout
  rw [plainFiles_small] at hle
  have hfile : ((smallBytes fileEnd zeros).take fileEnd).length ≤ fileEnd := List.length_take_le _ _
  have hbanner : (smallRom fileEnd zeros (smallArm9 first 0 copyTable) code).banner.length =
      0x840 :=
    List.length_replicate
  rw [hbanner] at hle
  change l.output.length ≤ 0x4000 + 6 * 0x1ff + 72 + 12 + 32 + (0x1ff + 12 + 0) + 4 + 4 + 2 * 8 +
    0x840 + (0x1ff + ((smallBytes fileEnd zeros).take fileEnd).length + 0) at hle
  omega

/-- The image with one word of its copy table patched. -/
theorem patch_small (fileEnd zeros : Nat) :
    [Patch.arm9Words 0x02000024 [0x02000000]].foldlM patch
      (smallRom fileEnd zeros (smallArm9 0 0 0x02000040) 0xe12fff1e) =
        .ok (smallRom fileEnd zeros (smallArm9 0 0 0x02000000) 0xe12fff1e) := by
  rfl

/-- One patch in the ARM9 binary and one in the overlay. -/
def smallPatches : List Patch :=
  [.arm9Words 0x02000000 [0xe3a00000], .overlayWords 0x02100000 [0xe1a00000]]

/-- The small ROM is loaded, patched in both places, saved and loaded again. -/
theorem small_saves :
    load storedTools (smallBytes 0x10 0x4000) =
        .ok (smallRom 0x10 0x4000 (smallArm9 0 0 0x02000040) 0xe12fff1e) ∧
      smallPatches.foldlM patch (smallRom 0x10 0x4000 (smallArm9 0 0 0x02000040) 0xe12fff1e) =
        .ok (smallRom 0x10 0x4000 (smallArm9 0xe3a00000 0 0x02000040) 0xe1a00000) ∧
      ∃ output buildInfo rom',
        save storedTools (smallRom 0x10 0x4000 (smallArm9 0xe3a00000 0 0x02000040) 0xe1a00000) =
            .ok output ∧
          load storedTools output = .ok rom' ∧
          SameImage buildInfo (smallRom 0x10 0x4000 (smallArm9 0xe3a00000 0 0x02000040) 0xe1a00000)
            rom' := by
  have hload := load_small 0x10 0x4000 (by decide) (by decide) (by decide)
  have hpatched : smallPatches.foldlM patch
      (smallRom 0x10 0x4000 (smallArm9 0 0 0x02000040) 0xe12fff1e) =
        .ok (smallRom 0x10 0x4000 (smallArm9 0xe3a00000 0 0x02000040) 0xe1a00000) := by
    rfl
  obtain ⟨l, hlayout, harm9, hsize⟩ :=
    layout_small 0x10 0x4000 0xe3a00000 0x02000040 0xe1a00000 (by decide)
  have hsections : parseArm9Sections l.arm9 0x02000000 0x02000040 =
      .ok [{ ramAddr := 0x02000000, fileOff := 0, size := 0x40 }] := by
    rw [harm9]
    decide +kernel
  obtain ⟨output, buildInfo, rom', hsave, -, hload', hsame, -, -⟩ :=
    load_save_patched storedTools storedTools_lossless smallPatches hload hpatched (by decide)
      hlayout (Nat.lt_of_le_of_lt hsize (by decide)) hsections
  exact ⟨hload, hpatched, output, buildInfo, rom', hsave, hload', hsame⟩

/-! ## Files that do not load again -/

/-- The layout of a small ROM, finished. -/
theorem finish_small {fileEnd zeros code : Nat} {arm9 : List UInt8} {l : Layout}
    (hwf : WellFormed (smallRom fileEnd zeros arm9 code))
    (hlayout : layout storedTools (smallRom fileEnd zeros arm9 code) = .ok l) :
    ∃ output buildInfo packed payloads overlayRegions fileRegions,
      save storedTools (smallRom fileEnd zeros arm9 code) = .ok output ∧
        LaidOut storedTools (smallRom fileEnd zeros arm9 code) l buildInfo packed
          payloads overlayRegions
          fileRegions ∧
        Finished (smallRom fileEnd zeros arm9 code) l
          (layoutRegions (smallRom fileEnd zeros arm9 code) l packed (fatImage l) overlayRegions
            fileRegions) output := by
  have hids : ((smallRom fileEnd zeros arm9 code).overlays.map Overlay.fileId).Nodup := by
    change [1].Nodup
    decide
  obtain ⟨buildInfo, packed, payloads, overlayRegions, fileRegions, hlaid⟩ :=
    layout_spec hlayout hids (by change ∀ id ∈ [1], id < 2; decide)
  obtain ⟨output, hfinish, hfin⟩ := finish_of_laidOut hwf hlaid
  exact ⟨output, buildInfo, packed, payloads, overlayRegions, fileRegions,
    bind_eq_ok.mpr ⟨l, hlayout, hfinish⟩, hlaid, hfin⟩

/-- A copy table that a patch has broken is refused by `load`. -/
theorem patched_small_refused :
    ∃ output, save storedTools (smallRom 0x10 0x4000 (smallArm9 0 0 0x02000000) 0xe12fff1e) =
      .ok output ∧
      ∀ rom', load storedTools output ≠ .ok rom' := by
  have hload := load_small 0x10 0x4000 (by decide) (by decide) (by decide)
  have hwf := (wellFormed_of_patches (patch_small 0x10 0x4000) (wellFormed_of_load hload)).1
  obtain ⟨l, hlayout, harm9, hsize⟩ := layout_small 0x10 0x4000 0 0x02000000 0xe12fff1e (by decide)
  obtain ⟨output, buildInfo, packed, payloads, overlayRegions, fileRegions, hsave, hlaid, hfin⟩ :=
    finish_small hwf hlayout
  have herror : parseArm9Sections l.arm9 0x02000000 0x02000040 =
      .error (.arm9Section 0x40 0x02000040) := by
    rw [harm9]
    decide +kernel
  refine ⟨output, hsave, ?_⟩
  rw [(load_saved storedTools_lossless hwf hlaid hfin (Nat.lt_of_le_of_lt hsize (by decide))).2 _
    herror]
  intro rom' h
  cases h

/-- What `load` makes of an entry of the table, also when it does not fit. -/
theorem length_loaded_file {tools : Tools} {rom rom' : RomImage} {l : Layout} {buildInfo : Nat}
    {packed output : List UInt8} {payloads : List (List UInt8)}
    {overlayRegions fileRegions : List (Region UInt8)} (hwf : WellFormed rom)
    (hlaid : LaidOut tools rom l buildInfo packed payloads overlayRegions fileRegions)
    (hfin : Finished rom l (layoutRegions rom l packed (fatImage l) overlayRegions fileRegions)
      output)
    (hfat : l.fatOff < 2 ^ 32) (hload : load tools output = .ok rom') {id : Nat}
    {region : Region UInt8} (hentered : Entered l.fat id region) :
    ∃ content, rom'.files[id]? = some content ∧
      content.length = u32 region.stop - u32 region.offset := by
  obtain ⟨words, hloaded, -⟩ := loaded_of_load hload
  have hreads := reads_of_readHeader hloaded.header
  have hoff : words.fatOff = l.fatOff := by
    have hread := readU32_of_holds
      (hfin.word (0x48, u32 l.fatOff) (by simp [headerWrites])) (u32_lt _)
    rw [u32_of_lt hfat] at hread
    exact Except.ok.inj (hreads.fatOff.symm.trans hread)
  have hcount : words.fatSize / 8 = rom.files.length := by
    have hread := readU32_of_holds
      (hfin.word (0x4c, u32 (l.fat.length * 8)) (by simp [headerWrites]))
      (u32_lt _)
    rw [hlaid.fat_length, u32_of_lt hwf.files] at hread
    rw [Except.ok.inj (hreads.fatSize.symm.trans hread)]
    exact Nat.mul_div_cancel _ (by decide)
  have hfiles := hloaded.files
  rw [hoff, hcount] at hfiles
  have hid : id < rom.files.length := by
    rw [← hlaid.fat_length]
    exact (List.getElem?_eq_some_iff.mp hentered).1
  have htable : Holds output l.fatOff (fatImage l) :=
    hfin.placed.holds ⟨l.fatOff, fatImage l⟩ (by simp [layoutRegions])
  have hentry := htable.of_flatMap length_fatEntry hentered
  dsimp only at hentry
  rw [Nat.mul_comm 8 id] at hentry
  have hfirst : readU32 output (l.fatOff + id * 8) = .ok (u32 region.offset) := by
    refine readU32_of_holds ?_ (u32_lt _)
    rw [← List.nil_append (toBytes 4 (u32 region.offset))] at hentry
    exact hentry.of_append
  have hsecond : readU32 output (l.fatOff + id * 8 + 4) = .ok (u32 region.stop) := by
    refine readU32_of_holds ?_ (u32_lt _)
    rw [← List.append_nil (toBytes 4 (u32 region.offset) ++ _)] at hentry
    have := hentry.of_append
    rwa [length_toBytes] at this
  have hall := mapM_eq_ok_iff.mp hfiles
  have hlen := hall.length_eq
  rw [List.length_range] at hlen
  have hround := hall.get (show id < (List.range rom.files.length).length by
    rw [List.length_range]; exact hid) (show id < rom'.files.length by omega)
  rw [List.get_eq_getElem, List.getElem_range] at hround
  obtain ⟨start, hstart, hround⟩ := bind_eq_ok.mp hround
  obtain ⟨stop, hstop, hround⟩ := bind_eq_ok.mp hround
  cases hfirst.symm.trans hstart
  cases hsecond.symm.trans hstop
  exact ⟨_, List.getElem?_eq_getElem (show id < rom'.files.length by omega),
    (slice_eq_ok hround).2.2⟩

/-- The allocation table lies before the files. -/
theorem fatOff_le_file {tools : Tools} {rom : RomImage} {l : Layout} {buildInfo : Nat}
    {packed : List UInt8} {payloads : List (List UInt8)}
    {overlayRegions fileRegions : List (Region UInt8)}
    (hlaid : LaidOut tools rom l buildInfo packed payloads overlayRegions fileRegions)
    {region : Region UInt8} (hmem : region ∈ fileRegions) : l.fatOff ≤ region.offset := by
  have hordered := hlaid.laid.1.ordered
  rw [splitAtFat, List.pairwise_append, List.pairwise_cons] at hordered
  have hstop := hordered.2.1.1 region (List.mem_append_right _ hmem)
  exact Nat.le_trans (Nat.le_add_right _ _) hstop

/-- A file that reaches behind the last 32-bit offset comes back empty. -/
theorem large_small_emptied :
    ∃ output,
      save storedTools (smallRom (2 ^ 32 - 1) (2 ^ 32) (smallArm9 0 0 0x02000040) 0xe12fff1e) =
        .ok output ∧
      ∀ rom', load storedTools output = .ok rom' →
        rom'.files[0]? ≠
          (smallRom (2 ^ 32 - 1) (2 ^ 32) (smallArm9 0 0 0x02000040) 0xe12fff1e).files[0]? := by
  have hload := load_small (2 ^ 32 - 1) (2 ^ 32) (by decide) (by decide) (by decide)
  have hwf := wellFormed_of_load hload
  obtain ⟨l, hlayout, -, hsize⟩ :=
    layout_small (2 ^ 32 - 1) (2 ^ 32) 0 0x02000040 0xe12fff1e (by decide)
  obtain ⟨output, buildInfo, packed, payloads, overlayRegions, fileRegions, hsave, hlaid, hfin⟩ :=
    finish_small hwf hlayout
  refine ⟨output, hsave, ?_⟩
  intro rom' hload' hsame
  -- the one file that is not an overlay
  obtain ⟨region, hmem, hentered, hcontent⟩ :=
    exists_region hlaid.file_entries hlaid.file_contents (k := 0) rfl rfl
  dsimp only at hentered hcontent
  have hlength : region.content.length = 2 ^ 32 - 1 := by
    rw [hcontent, List.length_take, length_smallBytes]
    decide
  have hregion : region ∈ layoutRegions
    (smallRom (2 ^ 32 - 1) (2 ^ 32) (smallArm9 0 0 0x02000040) 0xe12fff1e) l
      packed (List.replicate (u32 (2 * 8)) 0) overlayRegions fileRegions := mem_fileRegion hmem _
  have hle : region.offset + region.content.length ≤ l.output.length :=
    (hlaid.laid.1.holds region hregion).le
  have hstart : HEADER_SIZE ≤ region.offset := hlaid.laid.1.start_le region hregion
  have hfat := fatOff_le_file hlaid hmem
  obtain ⟨content, hget, hempty⟩ :=
    length_loaded_file hwf hlaid hfin (show l.fatOff < 2 ^ 32 by omega) hload' hentered
  -- the stop of the region wraps to one below its start
  have hstop : u32 region.stop = region.offset - 1 := by
    have hstopEq : region.stop = region.offset - 1 + 2 ^ 32 := by
      unfold Region.stop
      have : 0 < region.offset := Nat.lt_of_lt_of_le (by decide) hstart
      omega
    rw [hstopEq, u32, Nat.add_mod_right]
    exact Nat.mod_eq_of_lt (by omega)
  have hoffset : u32 region.offset = region.offset := u32_of_lt (by omega)
  rw [hstop, hoffset] at hempty
  have hcontent' : content = (smallBytes (2 ^ 32 - 1) (2 ^ 32)).take (2 ^ 32 - 1) :=
    Option.some.inj (hget.symm.trans hsame)
  rw [hcontent', ← hcontent] at hempty
  omega

/-- Neither half of the condition of the main result can be dropped. -/
theorem save_can_lose :
    (∃ rom₀ rom output, load storedTools (smallBytes 0x10 0x4000) = .ok rom₀ ∧
        [Patch.arm9Words 0x02000024 [0x02000000]].foldlM patch rom₀ = .ok rom ∧
        save storedTools rom = .ok output ∧ ∀ rom', load storedTools output ≠ .ok rom') ∧
      ∃ rom output, load storedTools (smallBytes (2 ^ 32 - 1) (2 ^ 32)) = .ok rom ∧
        save storedTools rom = .ok output ∧
        ∀ rom', load storedTools output = .ok rom' → rom'.files[0]? ≠ rom.files[0]? := by
  constructor
  · obtain ⟨output, hsave, hrefused⟩ := patched_small_refused
    exact ⟨_, _, output, load_small 0x10 0x4000 (by decide) (by decide) (by decide),
      patch_small 0x10 0x4000, hsave, hrefused⟩
  · obtain ⟨output, hsave, hemptied⟩ := large_small_emptied
    exact ⟨_, output, load_small (2 ^ 32 - 1) (2 ^ 32) (by decide) (by decide) (by decide), hsave,
      hemptied⟩

end Bigstar.Rom
