import Bigstar.Rom.Proofs.RomLayoutProofs

/-!
# Saving and loading a ROM image

A ROM that was loaded, patched in place and saved loads again with everything that was in it. The
one word that saving rewrites is the end address of the compressed ARM9 binary, which is stored in
the binary itself.
-/

namespace Bigstar.Rom

open LittleEndian Pages Buffer

/-! ## Images that come from a file -/

/-- The words of an overlay table entry are 32 bits wide. -/
structure Overlay.Fits (overlay : Overlay) : Prop where
  id : overlay.id < 2 ^ 32
  baseAddr : overlay.baseAddr < 2 ^ 32
  codeSize : overlay.codeSize < 2 ^ 32
  bssSize : overlay.bssSize < 2 ^ 32
  ctorStart : overlay.ctorStart < 2 ^ 32
  ctorEnd : overlay.ctorEnd < 2 ^ 32
  fileId : overlay.fileId < 2 ^ 32
  flags : overlay.flags < 2 ^ 32

/-- What loading guarantees and patching keeps. -/
structure WellFormed (rom : RomImage) : Prop where
  header : rom.header.length = HEADER_SIZE
  footer : rom.arm9Footer.length = ARM9_FOOTER_SIZE
  arm9Ram : rom.arm9Ram < 2 ^ 32
  arm9Entry : rom.arm9Entry < 2 ^ 32
  arm9AutoloadCallback : rom.arm9AutoloadCallback < 2 ^ 32
  arm9CodeSettingsPointer : rom.arm9CodeSettingsPointer < 2 ^ 32
  arm7Ram : rom.arm7Ram < 2 ^ 32
  arm7Entry : rom.arm7Entry < 2 ^ 32
  arm7AutoloadCallback : rom.arm7AutoloadCallback < 2 ^ 32
  files : rom.files.length * 8 < 2 ^ 32
  banner : rom.banner.length = bannerSize (readLE 2 rom.banner 0)
  overlays : ∀ overlay ∈ rom.overlays, overlay.Fits
  fileIds : ∀ overlay ∈ rom.overlays, overlay.fileId < rom.files.length

/-- The words of the header that `load` keeps. -/
structure HeaderWords.Fits (words : HeaderWords) : Prop where
  arm9Entry : words.arm9Entry < 2 ^ 32
  arm9Ram : words.arm9Ram < 2 ^ 32
  arm7Entry : words.arm7Entry < 2 ^ 32
  arm7Ram : words.arm7Ram < 2 ^ 32
  fatSize : words.fatSize < 2 ^ 32
  arm9AutoloadCallback : words.arm9AutoloadCallback < 2 ^ 32
  arm9CodeSettingsPointer : words.arm9CodeSettingsPointer < 2 ^ 32
  arm7AutoloadCallback : words.arm7AutoloadCallback < 2 ^ 32

/-- The place of each word. -/
structure HeaderWords.Reads (data : List UInt8) (words : HeaderWords) : Prop where
  arm9Off : readU32 data 0x20 = .ok words.arm9Off
  arm9Entry : readU32 data 0x24 = .ok words.arm9Entry
  arm9Ram : readU32 data 0x28 = .ok words.arm9Ram
  arm9Size : readU32 data 0x2c = .ok words.arm9Size
  arm7Off : readU32 data 0x30 = .ok words.arm7Off
  arm7Entry : readU32 data 0x34 = .ok words.arm7Entry
  arm7Ram : readU32 data 0x38 = .ok words.arm7Ram
  arm7Size : readU32 data 0x3c = .ok words.arm7Size
  fntOff : readU32 data 0x40 = .ok words.fntOff
  fntSize : readU32 data 0x44 = .ok words.fntSize
  fatOff : readU32 data 0x48 = .ok words.fatOff
  fatSize : readU32 data 0x4c = .ok words.fatSize
  arm9OvtOff : readU32 data 0x50 = .ok words.arm9OvtOff
  arm9OvtSize : readU32 data 0x54 = .ok words.arm9OvtSize
  arm7OvtOff : readU32 data 0x58 = .ok words.arm7OvtOff
  arm7OvtSize : readU32 data 0x5c = .ok words.arm7OvtSize
  arm9AutoloadCallback : readU32 data 0x60 = .ok words.arm9AutoloadCallback
  arm9CodeSettingsPointer : readU32 data 0x70 = .ok words.arm9CodeSettingsPointer
  arm7AutoloadCallback : readU32 data 0x64 = .ok words.arm7AutoloadCallback
  bannerOff : readU32 data 0x68 = .ok words.bannerOff

/-- The words stand in the header. -/
theorem reads_of_readHeader {data : List UInt8} {words : HeaderWords}
    (h : readHeader data = .ok words) : words.Reads data := by
  unfold readHeader at h
  obtain ⟨_, h1, h⟩ := bind_eq_ok.mp h
  obtain ⟨_, h2, h⟩ := bind_eq_ok.mp h
  obtain ⟨_, h3, h⟩ := bind_eq_ok.mp h
  obtain ⟨_, h4, h⟩ := bind_eq_ok.mp h
  obtain ⟨_, h5, h⟩ := bind_eq_ok.mp h
  obtain ⟨_, h6, h⟩ := bind_eq_ok.mp h
  obtain ⟨_, h7, h⟩ := bind_eq_ok.mp h
  obtain ⟨_, h8, h⟩ := bind_eq_ok.mp h
  obtain ⟨_, h9, h⟩ := bind_eq_ok.mp h
  obtain ⟨_, h10, h⟩ := bind_eq_ok.mp h
  obtain ⟨_, h11, h⟩ := bind_eq_ok.mp h
  obtain ⟨_, h12, h⟩ := bind_eq_ok.mp h
  obtain ⟨_, h13, h⟩ := bind_eq_ok.mp h
  obtain ⟨_, h14, h⟩ := bind_eq_ok.mp h
  obtain ⟨_, h15, h⟩ := bind_eq_ok.mp h
  obtain ⟨_, h16, h⟩ := bind_eq_ok.mp h
  obtain ⟨_, h17, h⟩ := bind_eq_ok.mp h
  obtain ⟨_, h18, h⟩ := bind_eq_ok.mp h
  obtain ⟨_, h19, h⟩ := bind_eq_ok.mp h
  obtain ⟨_, h20, h⟩ := bind_eq_ok.mp h
  cases h
  exact ⟨h1, h2, h3, h4, h5, h6, h7, h8, h9, h10, h11, h12, h13, h14, h15, h16, h17, h18, h19, h20⟩

/-- They have 32 bits. -/
theorem fits_of_readHeader {data : List UInt8} {words : HeaderWords}
    (h : readHeader data = .ok words) : words.Fits := by
  have hreads := reads_of_readHeader h
  exact ⟨readU32_lt hreads.arm9Entry, readU32_lt hreads.arm9Ram, readU32_lt hreads.arm7Entry,
    readU32_lt hreads.arm7Ram, readU32_lt hreads.fatSize, readU32_lt hreads.arm9AutoloadCallback,
    readU32_lt hreads.arm9CodeSettingsPointer, readU32_lt hreads.arm7AutoloadCallback⟩

/-- A loaded overlay has numbers of 32 bits, and a file. -/
theorem loadOverlay_spec {tools : Tools} {data : List UInt8} {files : List (List UInt8)} {off : Nat}
    {overlay : Overlay} (h : loadOverlay tools data files off = .ok overlay) :
    overlay.Fits ∧ overlay.fileId < files.length := by
  unfold loadOverlay at h
  obtain ⟨fileId, h1, h⟩ := bind_eq_ok.mp h
  obtain ⟨flags, h2, h⟩ := bind_eq_ok.mp h
  cases hraw : files[fileId]? with
  | none =>
    rw [hraw] at h
    cases h
  | some raw =>
    rw [hraw] at h
    obtain ⟨_, h3, h⟩ := bind_eq_ok.mp h
    obtain ⟨_, -, h⟩ := bind_eq_ok.mp h
    obtain ⟨_, h4, h⟩ := bind_eq_ok.mp h
    obtain ⟨_, h5, h⟩ := bind_eq_ok.mp h
    obtain ⟨_, h6, h⟩ := bind_eq_ok.mp h
    obtain ⟨_, h7, h⟩ := bind_eq_ok.mp h
    obtain ⟨_, h8, h⟩ := bind_eq_ok.mp h
    cases h
    exact ⟨⟨readU32_lt h3, readU32_lt h4, readU32_lt h5, readU32_lt h6,
      readU32_lt h7, readU32_lt h8,
      readU32_lt h1, readU32_lt h2⟩, (List.getElem?_eq_some_iff.mp hraw).1⟩

theorem readLE_take_drop {width off len : Nat} (data : List UInt8) (h : width ≤ len) :
    readLE width ((data.drop off).take len) 0 = readLE width data off := by
  unfold readLE
  rw [List.drop_zero, List.take_take, Nat.min_eq_left h]

theorem two_le_bannerSize (version : Nat) : 2 ≤ bannerSize version := by
  unfold bannerSize
  split_ifs <;> decide

/-- The length of a banner is that of its version. -/
theorem readBanner_spec {data banner : List UInt8} {off : Nat}
    (h : readBanner data off = .ok banner) :
    banner.length = bannerSize (readLE 2 banner 0) := by
  obtain ⟨version, hversion, h⟩ := bind_eq_ok.mp h
  obtain ⟨hle, hbanner, hlen⟩ := slice_eq_ok h
  have htwo := two_le_bannerSize version
  have hread : version = readLE 2 data off := by
    rw [readU16_of_length (by omega)] at hversion
    exact (Except.ok.inj hversion).symm
  rw [hlen, hbanner, readLE_take_drop data htwo, hread]

/-- What a successful load has read. -/
structure Loaded (tools : Tools) (data : List UInt8) (words : HeaderWords) (rom : RomImage) :
    Prop where
  long : HEADER_SIZE ≤ data.length
  header : readHeader data = .ok words
  footer : slice data (words.arm9Off + words.arm9Size) ARM9_FOOTER_SIZE "ARM9 footer" =
    .ok rom.arm9Footer
  files : (List.range (words.fatSize / 8)).mapM
    (fun fileId => loadFile data (words.fatOff + fileId * 8)) = .ok rom.files
  overlays : (List.range ((words.arm9OvtSize + 31) / 32)).mapM
    (fun index => loadOverlay tools data rom.files (words.arm9OvtOff + 0x20 * index)) =
      .ok rom.overlays
  banner : readBanner data words.bannerOff = .ok rom.banner
  sections : parseArm9Sections rom.arm9 words.arm9Ram words.arm9CodeSettingsPointer =
    .ok rom.arm9Sections

/-- All parts of a loaded image are read from the file. -/
theorem loaded_of_load {tools : Tools} {data : List UInt8} {rom : RomImage}
    (h : load tools data = .ok rom) :
    ∃ words : HeaderWords, Loaded tools data words rom ∧ rom.header = data.take HEADER_SIZE ∧
      rom.arm9Ram = words.arm9Ram ∧ rom.arm9Entry = words.arm9Entry ∧
      rom.arm9AutoloadCallback = words.arm9AutoloadCallback ∧
      rom.arm9CodeSettingsPointer = words.arm9CodeSettingsPointer ∧ rom.arm7Ram = words.arm7Ram ∧
      rom.arm7Entry = words.arm7Entry ∧ rom.arm7AutoloadCallback = words.arm7AutoloadCallback := by
  unfold load at h
  split at h
  · cases h
  · next hlong =>
    obtain ⟨words, hwords, h⟩ := bind_eq_ok.mp h
    obtain ⟨arm9Raw, -, h⟩ := bind_eq_ok.mp h
    obtain ⟨footer, hfooter, h⟩ := bind_eq_ok.mp h
    obtain ⟨arm9, -, h⟩ := bind_eq_ok.mp h
    obtain ⟨sections, hsections, h⟩ := bind_eq_ok.mp h
    obtain ⟨files, hfiles, h⟩ := bind_eq_ok.mp h
    obtain ⟨overlays, hoverlays, h⟩ := bind_eq_ok.mp h
    obtain ⟨arm7, -, h⟩ := bind_eq_ok.mp h
    obtain ⟨fnt, -, h⟩ := bind_eq_ok.mp h
    obtain ⟨table, -, h⟩ := bind_eq_ok.mp h
    obtain ⟨banner, hbanner, h⟩ := bind_eq_ok.mp h
    cases h
    exact ⟨words, ⟨Nat.not_lt.mp hlong, hwords, hfooter, hfiles, hoverlays, hbanner, hsections⟩,
      rfl, rfl, rfl, rfl, rfl, rfl, rfl, rfl⟩

/-- A loaded image is well formed. -/
theorem wellFormed_of_load {tools : Tools} {data : List UInt8} {rom : RomImage}
    (h : load tools data = .ok rom) : WellFormed rom := by
  obtain ⟨words, hloaded, hheader, hram9, hentry9, hcallback9, hpointer, hram7,
      hentry7, hcallback7⟩ :=
    loaded_of_load h
  have hfits := fits_of_readHeader hloaded.header
  have hfiles := (mapM_eq_ok_iff.mp hloaded.files).length_eq
  rw [List.length_range] at hfiles
  have hoverlay : ∀ overlay ∈ rom.overlays, overlay.Fits ∧ overlay.fileId < rom.files.length := by
    intro overlay hmem
    have hall := mapM_eq_ok_iff.mp hloaded.overlays
    obtain ⟨k, hk⟩ := List.getElem?_of_mem hmem
    have hlt : k < rom.overlays.length := (List.getElem?_eq_some_iff.mp hk).1
    have hlt' : k < (List.range ((words.arm9OvtSize + 31) / 32)).length := by
      rw [hall.length_eq]
      exact hlt
    have hget := hall.get hlt' hlt
    have heq : rom.overlays.get ⟨k, hlt⟩ = overlay := (List.getElem?_eq_some_iff.mp hk).2
    rw [heq] at hget
    exact loadOverlay_spec hget
  refine ⟨?_, (slice_eq_ok hloaded.footer).2.2, ?_, ?_, ?_, ?_, ?_, ?_, ?_, ?_,
    readBanner_spec hloaded.banner, fun o ho => (hoverlay o ho).1, fun o ho => (hoverlay o ho).2⟩
  · rw [hheader, List.length_take, Nat.min_eq_left hloaded.long]
  · rw [hram9]
    exact hfits.arm9Ram
  · rw [hentry9]
    exact hfits.arm9Entry
  · rw [hcallback9]
    exact hfits.arm9AutoloadCallback
  · rw [hpointer]
    exact hfits.arm9CodeSettingsPointer
  · rw [hram7]
    exact hfits.arm7Ram
  · rw [hentry7]
    exact hfits.arm7Entry
  · rw [hcallback7]
    exact hfits.arm7AutoloadCallback
  · have := hfits.fatSize
    omega

/-! ## Patches -/

/-- An image with some words replaced: only the bytes of the ARM9 binary and of the overlays
differ. -/
structure PatchOf (rom rom' : RomImage) : Prop where
  same : rom' = { rom with arm9 := rom'.arm9, overlays := rom'.overlays }
  arm9 : rom'.arm9.length = rom.arm9.length
  overlays : List.Forall₂ (fun o o' => o' = { o with data := o'.data } ∧
    o'.data.length = o.data.length)
    rom.overlays rom'.overlays

/-- Words are replaced in place. -/
theorem length_replaceWords (data : List UInt8) (off : Nat) (words : List UInt32) :
    (replaceWords data off words).1.length = data.length := by
  unfold replaceWords
  split
  · rfl
  · next hle =>
    refine length_writeAt ?_
    rw [wordBytes, length_flatMap_of_size fun word : UInt32 => length_toBytes 4 word.toNat]
    omega

theorem forall₂_set {α : Type} {R : α → α → Prop} (hrefl : ∀ a, R a a) {l : List α} {index : Nat}
    {a b : α} (hget : l[index]? = some a) (hab : R a b) : List.Forall₂ R l (l.set index b) := by
  induction l generalizing index with
  | nil => cases hget
  | cons first l ih =>
    cases index with
    | zero =>
      rw [List.getElem?_cons_zero, Option.some.injEq] at hget
      rw [List.set_cons_zero, hget]
      exact List.Forall₂.cons hab (List.forall₂_same.mpr fun x _ => hrefl x)
    | succ index =>
      rw [List.set_cons_succ]
      exact List.Forall₂.cons (hrefl first) (ih hget)

/-- A patch that fails is one of nothing. -/
theorem patchOf_refl (rom : RomImage) : PatchOf rom rom :=
  ⟨rfl, rfl, List.forall₂_same.mpr fun _ _ => ⟨rfl, rfl⟩⟩

/-- A patch of an overlay changes code only. -/
theorem patchOf_replaceOverlayWords (rom : RomImage) (index addr : Nat) (words : List UInt32) :
    PatchOf rom (rom.replaceOverlayWords index addr words).1 := by
  unfold RomImage.replaceOverlayWords
  cases hget : rom.overlays[index]? with
  | none => exact patchOf_refl rom
  | some overlay =>
    exact ⟨rfl, rfl, forall₂_set (fun o => ⟨rfl, rfl⟩) hget ⟨rfl, length_replaceWords _ _ _⟩⟩

/-- So does each patch. -/
theorem patchOf_applyPatch (rom : RomImage) (p : Patch) : PatchOf rom (rom.applyPatch p).1 := by
  cases p with
  | arm9Words addr words =>
    unfold RomImage.applyPatch RomImage.patchArm9Words
    dsimp only
    split
    · exact patchOf_refl rom
    · exact ⟨rfl, length_replaceWords _ _ _, List.forall₂_same.mpr fun o _ => ⟨rfl, rfl⟩⟩
  | overlayWords addr words =>
    unfold RomImage.applyPatch RomImage.patchOverlayWords
    dsimp only
    split
    · exact patchOf_refl rom
    · exact patchOf_replaceOverlayWords _ _ _ _
  | overlayWordsById id addr words =>
    unfold RomImage.applyPatch RomImage.patchOverlayWordsById
    dsimp only
    split
    · exact patchOf_refl rom
    · split
      · exact patchOf_refl rom
      · split
        · exact patchOf_replaceOverlayWords _ _ _ _
        · exact patchOf_refl rom

theorem patchOf_patch {rom rom' : RomImage} {p : Patch} (h : patch rom p = .ok rom') :
    PatchOf rom rom' := by
  unfold patch at h
  cases hresult : (rom.applyPatch p).2 with
  | error e =>
    rw [hresult] at h
    cases h
  | ok old =>
    rw [hresult] at h
    obtain rfl := Except.ok.inj h
    exact patchOf_applyPatch rom p

theorem map_fileId_of_patched {overlays overlays' : List Overlay}
    (h : List.Forall₂ (fun o o' => o' = { o with data := o'.data } ∧ o'.data.length = o.data.length)
      overlays overlays') : overlays'.map Overlay.fileId = overlays.map Overlay.fileId := by
  induction h with
  | nil => rfl
  | cons hpair _ ih => rw [List.map_cons, List.map_cons, ih, hpair.1]

/-- Patching keeps what loading guarantees, and the ids of the overlays. -/
theorem PatchOf.keeps {rom rom' : RomImage} (h : PatchOf rom rom') (hwf : WellFormed rom) :
    WellFormed rom' ∧
      rom'.overlays.map Overlay.fileId = rom.overlays.map Overlay.fileId := by
  obtain ⟨hsame, -, hoverlays⟩ := h
  have hmem : ∀ o' ∈ rom'.overlays, ∃ o ∈ rom.overlays, o' = { o with data := o'.data } := by
    intro o' ho'
    obtain ⟨k, hk⟩ := List.getElem?_of_mem ho'
    obtain ⟨hlt, heq⟩ := List.getElem?_eq_some_iff.mp hk
    have hlt' : k < rom.overlays.length := by
      rw [hoverlays.length_eq]
      exact hlt
    have hpair := (hoverlays.get hlt' hlt).1
    refine ⟨rom.overlays.get ⟨k, hlt'⟩, List.get_mem _ _, ?_⟩
    rw [← heq]
    exact hpair
  refine ⟨?_, map_fileId_of_patched hoverlays⟩
  rw [hsame]
  refine { hwf with overlays := ?_, fileIds := ?_ }
  · intro o' ho'
    obtain ⟨o, ho, heq⟩ := hmem o' ho'
    have hfits := hwf.overlays o ho
    rw [heq]
    exact ⟨hfits.id, hfits.baseAddr, hfits.codeSize, hfits.bssSize, hfits.ctorStart, hfits.ctorEnd,
      hfits.fileId, hfits.flags⟩
  · intro o' ho'
    obtain ⟨o, ho, heq⟩ := hmem o' ho'
    rw [heq]
    exact hwf.fileIds o ho

/-- The same for any number of patches. -/
theorem wellFormed_of_patches {patches : List Patch} {rom rom' : RomImage}
    (h : patches.foldlM patch rom = .ok rom') (hwf : WellFormed rom) :
    WellFormed rom' ∧ rom'.overlays.map Overlay.fileId = rom.overlays.map Overlay.fileId := by
  induction patches generalizing rom with
  | nil =>
    cases h
    exact ⟨hwf, rfl⟩
  | cons p patches ih =>
    rw [List.foldlM_cons] at h
    obtain ⟨next, hnext, h⟩ := bind_eq_ok.mp h
    obtain ⟨hwf', hids⟩ := (patchOf_patch hnext).keeps hwf
    obtain ⟨hwf'', hids'⟩ := ih h hwf'
    exact ⟨hwf'', hids'.trans hids⟩

/-! ## The compressed binaries -/

/-- Decompression undoes compression. -/
def Tools.Lossless (tools : Tools) : Prop :=
  ∀ data start packed, tools.compress data start = some packed → tools.decompress packed = some data

/-- What was compressed can be decompressed. -/
theorem decompress_of_compress {tools : Tools} (hlossless : tools.Lossless)
    {data packed : List UInt8}
    {start : Nat} {context : String} (h : compress tools data start context = .ok packed)
    (context' : String) : decompress tools packed context' = .ok data := by
  unfold compress at h
  cases hpacked : tools.compress data start with
  | none =>
    rw [hpacked] at h
    cases h
  | some packed' =>
    rw [hpacked] at h
    cases h
    rw [decompress, hlossless data start packed hpacked]

/-- Two binaries that differ at most in the word at an offset. -/
structure SameButWord (offset : Nat) (bytes bytes' : List UInt8) : Prop where
  length : bytes'.length = bytes.length
  get : ∀ i, i < offset ∨ offset + 4 ≤ i → bytes'[i]? = bytes[i]?

/-- The word may be written again. -/
theorem SameButWord.writeU32 {offset value : Nat} {bytes bytes' bytes'' : List UInt8}
    (h : SameButWord offset bytes bytes') (hwrite : writeU32 bytes' offset value = .ok bytes'') :
    SameButWord offset bytes bytes'' := by
  unfold Rom.writeU32 writeWord at hwrite
  split at hwrite
  · next hle =>
    cases hwrite
    have hin : offset + (toBytes 4 value).length ≤ bytes'.length := by
      rw [length_toBytes]
      exact hle
    refine ⟨(length_writeAt hin).trans h.length, fun i hi => ?_⟩
    rw [getElem?_writeAt hin, if_neg (by rw [length_toBytes]; omega)]
    exact h.get i hi
  · cases hwrite

/-- The rounds keep the packed binary the compression of the rewritten one. -/
theorem compressRounds_spec {tools : Tools} (hlossless : tools.Lossless) {buildInfo ramBase : Nat}
    (arm9 : List UInt8) {rounds : Nat} {before packed after packed' : List UInt8}
    (hsame : SameButWord (buildInfo + 0x14) arm9 before)
    (hpacked : ∀ context, decompress tools packed context = .ok before)
    (h : compressRounds tools buildInfo ramBase rounds before packed = .ok (after, packed')) :
    SameButWord (buildInfo + 0x14) arm9 after ∧
      ∀ context, decompress tools packed' context = .ok after := by
  induction rounds generalizing before packed with
  | zero =>
    cases h
    exact ⟨hsame, hpacked⟩
  | succ rounds ih =>
    obtain ⟨stored, -, h⟩ := bind_eq_ok.mp h
    split at h
    · cases h
      exact ⟨hsame, hpacked⟩
    · obtain ⟨next, hnext, h⟩ := bind_eq_ok.mp h
      obtain ⟨repacked, hrepacked, h⟩ := bind_eq_ok.mp h
      exact ih (hsame.writeU32 hnext) (decompress_of_compress hlossless hrepacked) h

/-- The binary is compressed as it is, but for the word of the build info. -/
theorem compressArm9_spec {tools : Tools} (hlossless : tools.Lossless)
    {arm9 after packed : List UInt8} {buildInfo ramBase : Nat}
    (h : compressArm9WithBuildInfo tools arm9 buildInfo ramBase = .ok (after, packed)) :
    SameButWord (buildInfo + 0x14) arm9 after ∧
      ∀ context, decompress tools packed context = .ok after := by
  obtain ⟨first, hfirst, h⟩ := bind_eq_ok.mp h
  exact compressRounds_spec hlossless arm9 ⟨rfl, fun i _ => rfl⟩
    (decompress_of_compress hlossless hfirst) h

/-! ## Overlays -/

/-- Overlays that agree in everything but the stored size. -/
structure SameOverlay (o o' : Overlay) : Prop where
  id : o'.id = o.id
  baseAddr : o'.baseAddr = o.baseAddr
  codeSize : o'.codeSize = o.codeSize
  bssSize : o'.bssSize = o.bssSize
  ctorStart : o'.ctorStart = o.ctorStart
  ctorEnd : o'.ctorEnd = o.ctorEnd
  fileId : o'.fileId = o.fileId
  compressed : o'.compressed = o.compressed
  data : o'.data = o.data

/-- The flags of an overlay as they are saved. -/
def savedFlags (overlay : Overlay) (compressedSize : Nat) : Nat :=
  overlay.flags / 2 ^ 24 * 2 ^ 24 + if overlay.compressed then compressedSize % 2 ^ 24 else 0

/-- The flags of an overlay keep their upper bits. -/
theorem savedFlags_spec (overlay : Overlay) (compressedSize : Nat) :
    savedFlags overlay compressedSize / 2 ^ 24 = overlay.flags / 2 ^ 24 := by
  unfold savedFlags
  split
  · omega
  · omega

theorem savedFlags_lt {overlay : Overlay} (h : overlay.flags < 2 ^ 32) (compressedSize : Nat) :
    savedFlags overlay compressedSize < 2 ^ 32 := by
  have hdiv := savedFlags_spec overlay compressedSize
  omega

theorem length_overlayEntry (overlay : Overlay) (compressedSize : Nat) :
    (overlayEntry overlay compressedSize).length = 0x20 := by
  simp [overlayEntry]

/-- The code of an overlay comes back from the file it was saved in. -/
theorem overlayData_of_payload {tools : Tools} (hlossless : tools.Lossless) {overlay : Overlay}
    {payload : List UInt8} (h : overlayPayload tools overlay = .ok payload) (compressedSize : Nat) :
    overlayData tools (savedFlags overlay compressedSize) payload = .ok overlay.data := by
  unfold overlayPayload at h
  unfold overlayData
  rw [savedFlags_spec]
  by_cases hcompressed : overlay.flags / 2 ^ 24 % 2 ≠ 0
  · have hflag : overlay.compressed = true := decide_eq_true hcompressed
    rw [if_pos hflag] at h
    rw [if_pos hcompressed]
    exact decompress_of_compress hlossless h "overlay"
  · have hflag : ¬ overlay.compressed = true := fun hc => hcompressed (of_decide_eq_true hc)
    rw [if_neg hflag] at h
    cases h
    rw [if_neg hcompressed]

/-- An entry of the table loads as the overlay it was written for. -/
theorem loadOverlay_of_holds {tools : Tools} (hlossless : tools.Lossless) {data : List UInt8}
    {files : List (List UInt8)} {off : Nat} {overlay : Overlay} {payload : List UInt8}
    (hfits : overlay.Fits) (hpayload : overlayPayload tools overlay = .ok payload)
    (hfile : files[overlay.fileId]? = some payload)
    (hentry : Holds data off (overlayEntry overlay (u32 payload.length))) :
    ∃ loaded, loadOverlay tools data files off = .ok loaded ∧ SameOverlay overlay loaded := by
  have hword : ∀ k value, [overlay.id, overlay.baseAddr, overlay.codeSize, overlay.bssSize,
      overlay.ctorStart, overlay.ctorEnd, overlay.fileId,
      savedFlags overlay (u32 payload.length)][k]? = some value → value < 2 ^ 32 →
      readU32 data (off + 4 * k) = .ok value := by
    intro k value hget hlt
    exact readU32_of_holds (Holds.of_flatMap (length_toBytes 4) hentry hget) hlt
  have hid := hword 0 _ rfl hfits.id
  have hbase := hword 1 _ rfl hfits.baseAddr
  have hcode := hword 2 _ rfl hfits.codeSize
  have hbss := hword 3 _ rfl hfits.bssSize
  have hstart := hword 4 _ rfl hfits.ctorStart
  have hend := hword 5 _ rfl hfits.ctorEnd
  have hfileId := hword 6 _ rfl hfits.fileId
  have hflags := hword 7 _ rfl (savedFlags_lt hfits.flags (u32 payload.length))
  have hdata := overlayData_of_payload hlossless hpayload (u32 payload.length)
  refine ⟨{ overlay with flags := savedFlags overlay (u32 payload.length) }, ?_,
    rfl, rfl, rfl, rfl, rfl, rfl, rfl, ?_, rfl⟩
  · unfold loadOverlay
    refine bind_eq_ok.mpr ⟨_, hfileId, bind_eq_ok.mpr ⟨_, hflags, ?_⟩⟩
    rw [hfile]
    exact bind_eq_ok.mpr ⟨_, hid, bind_eq_ok.mpr ⟨_, hdata, bind_eq_ok.mpr ⟨_, hbase,
      bind_eq_ok.mpr ⟨_, hcode, bind_eq_ok.mpr ⟨_, hbss, bind_eq_ok.mpr ⟨_, hstart,
        bind_eq_ok.mpr ⟨_, hend, rfl⟩⟩⟩⟩⟩⟩⟩
  · change decide (savedFlags overlay _ / 2 ^ 24 % 2 ≠ 0) = decide (overlay.flags / 2 ^ 24 % 2 ≠ 0)
    rw [savedFlags_spec]

/-! ## Loading what was saved -/

theorem u32_of_lt {value : Nat} (h : value < 2 ^ 32) : u32 value = value := Nat.mod_eq_of_lt h

theorem u32_lt (value : Nat) : u32 value < 2 ^ 32 := Nat.mod_lt value (by decide)

/-- The member of a loop's result that one of its rounds gave. -/
theorem getElem?_of_mapM_range {α : Type} {f : Nat → Except RomError α} {n : Nat} {result : List α}
    (h : (List.range n).mapM f = .ok result) {k : Nat} {a : α} (hk : k < n) (ha : f k = .ok a) :
    result[k]? = some a := by
  have hall := mapM_eq_ok_iff.mp h
  have hlen := hall.length_eq
  rw [List.length_range] at hlen
  have hget := hall.get (show k < (List.range n).length by rw [List.length_range]; exact hk)
    (show k < result.length by omega)
  rw [List.get_eq_getElem, List.getElem_range, ha] at hget
  rw [List.getElem?_eq_getElem (show k < result.length by omega)]
  exact congrArg some (Except.ok.inj hget).symm

/-- Nothing fails where no part does. -/
theorem exists_mapM_range {α : Type} {f : Nat → Except RomError α} {n : Nat}
    (h : ∀ k, k < n → ∃ a, f k = .ok a) : ∃ result, (List.range n).mapM f = .ok result := by
  have hall : ∀ l : List Nat, (∀ k ∈ l, ∃ a, f k = .ok a) → ∃ result, l.mapM f = .ok result := by
    intro l
    induction l with
    | nil => exact fun _ => ⟨[], rfl⟩
    | cons k l ih =>
      intro hl
      obtain ⟨a, ha⟩ := hl k List.mem_cons_self
      obtain ⟨rest, hrest⟩ := ih fun k hk => hl k (List.mem_cons_of_mem _ hk)
      exact ⟨a :: rest, mapM_eq_ok_iff.mpr (List.Forall₂.cons ha (mapM_eq_ok_iff.mp hrest))⟩
  exact hall (List.range n) fun k hk => h k (List.mem_range.mp hk)

/-- What an image has in common with the one that is loaded from the file it was saved in. -/
structure SameImage (buildInfo : Nat) (rom rom' : RomImage) : Prop where
  arm7 : rom'.arm7 = rom.arm7
  fnt : rom'.fnt = rom.fnt
  arm7OverlayTable : rom'.arm7OverlayTable = rom.arm7OverlayTable
  banner : rom'.banner = rom.banner
  arm9Footer : rom'.arm9Footer = rom.arm9Footer
  arm9Entry : rom'.arm9Entry = rom.arm9Entry
  arm9Ram : rom'.arm9Ram = rom.arm9Ram
  arm7Entry : rom'.arm7Entry = rom.arm7Entry
  arm7Ram : rom'.arm7Ram = rom.arm7Ram
  arm9AutoloadCallback : rom'.arm9AutoloadCallback = rom.arm9AutoloadCallback
  arm7AutoloadCallback : rom'.arm7AutoloadCallback = rom.arm7AutoloadCallback
  arm9CodeSettingsPointer : rom'.arm9CodeSettingsPointer = rom.arm9CodeSettingsPointer
  files_length : rom'.files.length = rom.files.length
  files : ∀ id, id ∉ rom.overlays.map Overlay.fileId → rom'.files[id]? = rom.files[id]?
  overlays : List.Forall₂ SameOverlay rom.overlays rom'.overlays
  arm9 : SameButWord (buildInfo + 0x14) rom.arm9 rom'.arm9

section Saved

variable {tools : Tools} {rom : RomImage} {l : Layout} {buildInfo : Nat} {packed : List UInt8}
  {payloads : List (List UInt8)} {overlayRegions fileRegions : List (Region UInt8)}
  {output : List UInt8}

/-- The regions of the file, around the allocation table. -/
theorem splitAtFat (fatBytes : List UInt8) :
    layoutRegions rom l packed fatBytes overlayRegions fileRegions =
      ([⟨l.arm9Off, packed ++ rom.arm9Footer⟩, ⟨l.arm9OvtOff, l.overlayTable⟩] ++ overlayRegions ++
        [⟨l.arm7Off, rom.arm7⟩] ++ arm7OvtRegion rom l ++ [⟨l.fntOff, rom.fnt⟩]) ++
        ⟨l.fatOff, fatBytes⟩ :: ([⟨l.bannerOff, rom.banner⟩] ++ fileRegions) := by
  simp [layoutRegions, List.append_assoc]

/-- The second half of `save` succeeds on a layout. -/
theorem finish_of_laidOut (hwf : WellFormed rom)
    (hlaid : LaidOut tools rom l buildInfo packed payloads overlayRegions fileRegions) :
    ∃ output, finish tools rom l = .ok output ∧
      Finished rom l (layoutRegions rom l packed (fatImage l) overlayRegions fileRegions)
        output := by
  have hlaid' := hlaid.laid
  rw [splitAtFat] at hlaid' ⊢
  refine finish_spec tools hlaid' ?_ hwf.header
  rw [List.length_replicate, u32_of_lt hwf.files, hlaid.fat_length, Nat.mul_comm]

/-- Regions of the saved file start and end below `2 ^ 32` if the layout does. -/
theorem stop_lt (hlaid : LaidOut tools rom l buildInfo packed payloads overlayRegions fileRegions)
    (hsize : l.output.length < 2 ^ 32) {r : Region UInt8}
    (hr : r ∈ layoutRegions rom l packed (List.replicate (u32 (rom.files.length * 8)) 0)
      overlayRegions fileRegions) : r.offset < 2 ^ 32 ∧ r.stop < 2 ^ 32 := by
  have hle : r.offset + r.content.length ≤ l.output.length := (hlaid.laid.1.holds r hr).le
  refine ⟨by omega, ?_⟩
  change r.offset + r.content.length < 2 ^ 32
  omega

theorem mem_overlayRegion {r : Region UInt8} (hr : r ∈ overlayRegions) (fatBytes : List UInt8) :
    r ∈ layoutRegions rom l packed fatBytes overlayRegions fileRegions := by
  simp [layoutRegions, hr]

theorem mem_fileRegion {r : Region UInt8} (hr : r ∈ fileRegions) (fatBytes : List UInt8) :
    r ∈ layoutRegions rom l packed fatBytes overlayRegions fileRegions := by
  simp [layoutRegions, hr]

/-- A file is found through its entry in the allocation table. -/
theorem loadFile_of_entered
    (hlaid : LaidOut tools rom l buildInfo packed payloads overlayRegions fileRegions)
    (hfin : Finished rom l (layoutRegions rom l packed (fatImage l) overlayRegions fileRegions)
      output)
    (hsize : l.output.length < 2 ^ 32) {id : Nat} {region : Region UInt8}
    (hentered : Entered l.fat id region) (hmem : region ∈ overlayRegions ∨ region ∈ fileRegions) :
    loadFile output (l.fatOff + id * 8) = .ok region.content := by
  have hmem' : ∀ fatBytes,
      region ∈ layoutRegions rom l packed fatBytes overlayRegions fileRegions := by
    intro fatBytes
    rcases hmem with hmem | hmem
    · exact mem_overlayRegion hmem fatBytes
    · exact mem_fileRegion hmem fatBytes
  obtain ⟨hstart, hstop⟩ := stop_lt hlaid hsize (hmem' _)
  have htable : Holds output l.fatOff (fatImage l) :=
    hfin.placed.holds ⟨l.fatOff, fatImage l⟩ (by simp [layoutRegions])
  have hentry := htable.of_flatMap length_fatEntry hentered
  dsimp only at hentry
  rw [Nat.mul_comm 8 id, u32_of_lt hstart, u32_of_lt hstop] at hentry
  have hfirst : readU32 output (l.fatOff + id * 8) = .ok region.offset := by
    refine readU32_of_holds ?_ hstart
    rw [← List.nil_append (toBytes 4 region.offset)] at hentry
    exact hentry.of_append
  have hsecond : readU32 output (l.fatOff + id * 8 + 4) = .ok region.stop := by
    refine readU32_of_holds ?_ hstop
    rw [← List.append_nil (toBytes 4 region.offset ++ _)] at hentry
    have := hentry.of_append
    rwa [length_toBytes] at this
  refine bind_eq_ok.mpr ⟨_, hfirst, bind_eq_ok.mpr ⟨_, hsecond, ?_⟩⟩
  refine slice_of_holds' (hfin.placed.holds region (hmem' _)) ?_ "file"
  exact Nat.add_sub_cancel_left region.offset region.content.length

/-- The content of an entered file, by its place in the loop that placed it. -/
theorem exists_region {ids : List Nat} {regions : List (Region UInt8)}
    {contents : List (List UInt8)}
    {fat : List (Nat × Nat)} (hentries : List.Forall₂ (Entered fat) ids regions)
    (hcontents : regions.map Region.content = contents) {k id : Nat} {content : List UInt8}
    (hid : ids[k]? = some id) (hcontent : contents[k]? = some content) :
    ∃ region ∈ regions, Entered fat id region ∧ region.content = content := by
  rw [← hcontents, List.getElem?_map] at hcontent
  obtain ⟨region, hregion, hcontent⟩ := Option.map_eq_some_iff.mp hcontent
  obtain ⟨hidLt, hidEq⟩ := List.getElem?_eq_some_iff.mp hid
  obtain ⟨hregionLt, hregionEq⟩ := List.getElem?_eq_some_iff.mp hregion
  have hentered := hentries.get hidLt hregionLt
  rw [List.get_eq_getElem, List.get_eq_getElem, hidEq, hregionEq] at hentered
  exact ⟨region, List.mem_of_getElem? hregion, hentered, hcontent⟩

/-- The file an overlay is stored in. -/
theorem loadFile_overlay
    (hlaid : LaidOut tools rom l buildInfo packed payloads overlayRegions fileRegions)
    (hfin : Finished rom l (layoutRegions rom l packed (fatImage l) overlayRegions fileRegions)
      output)
    (hsize : l.output.length < 2 ^ 32) {k : Nat} {overlay : Overlay} {payload : List UInt8}
    (hoverlay : rom.overlays[k]? = some overlay) (hpayload : payloads[k]? = some payload) :
    loadFile output (l.fatOff + overlay.fileId * 8) = .ok payload := by
  have hid : (rom.overlays.map Overlay.fileId)[k]? = some overlay.fileId := by
    rw [List.getElem?_map, hoverlay]
    rfl
  obtain ⟨region, hmem, hentered, rfl⟩ :=
    exists_region hlaid.overlay_entries hlaid.overlay_contents hid hpayload
  exact loadFile_of_entered hlaid hfin hsize hentered (Or.inl hmem)

/-- A file that no overlay is stored in. -/
theorem loadFile_plain
    (hlaid : LaidOut tools rom l buildInfo packed payloads overlayRegions fileRegions)
    (hfin : Finished rom l (layoutRegions rom l packed (fatImage l) overlayRegions fileRegions)
      output)
    (hsize : l.output.length < 2 ^ 32) {id : Nat} {content : List UInt8}
    (hget : rom.files[id]? = some content) (hout : id ∉ rom.overlays.map Overlay.fileId) :
    loadFile output (l.fatOff + id * 8) = .ok content := by
  have hmem : (id, content) ∈ plainFiles rom := mem_plainFiles.mpr ⟨hget, hout⟩
  obtain ⟨k, hk⟩ := List.getElem?_of_mem hmem
  have hid : ((plainFiles rom).map Prod.fst)[k]? = some id := by
    rw [List.getElem?_map, hk]
    rfl
  have hcontent : ((plainFiles rom).map Prod.snd)[k]? = some content := by
    rw [List.getElem?_map, hk]
    rfl
  obtain ⟨region, hregion, hentered, rfl⟩ :=
    exists_region hlaid.file_entries hlaid.file_contents hid hcontent
  exact loadFile_of_entered hlaid hfin hsize hentered (Or.inr hregion)

/-- The files that `load` finds in the saved ROM. -/
theorem loadFiles_spec
    (hlaid : LaidOut tools rom l buildInfo packed payloads overlayRegions fileRegions)
    (hfin : Finished rom l (layoutRegions rom l packed (fatImage l) overlayRegions fileRegions)
      output)
    (hsize : l.output.length < 2 ^ 32) (hwf : WellFormed rom) :
    ∃ files, (List.range rom.files.length).mapM
        (fun fileId => loadFile output (l.fatOff + fileId * 8)) = .ok files ∧
      files.length = rom.files.length ∧
      (∀ id, id ∉ rom.overlays.map Overlay.fileId → files[id]? = rom.files[id]?) ∧
      ∀ (k : Nat) (overlay : Overlay) (payload : List UInt8), rom.overlays[k]? = some overlay →
        payloads[k]? = some payload → files[overlay.fileId]? = some payload := by
  have hpayloads := (mapM_eq_ok_iff.mp hlaid.overlays).length_eq
  obtain ⟨files, hfiles⟩ : ∃ files, (List.range rom.files.length).mapM
      (fun fileId => loadFile output (l.fatOff + fileId * 8)) = .ok files := by
    refine exists_mapM_range fun id hid => ?_
    by_cases hmem : id ∈ rom.overlays.map Overlay.fileId
    · obtain ⟨overlay, hoverlay, rfl⟩ := List.mem_map.mp hmem
      obtain ⟨k, hk⟩ := List.getElem?_of_mem hoverlay
      have hlt : k < payloads.length := by
        rw [← hpayloads]
        exact (List.getElem?_eq_some_iff.mp hk).1
      exact ⟨_, loadFile_overlay hlaid hfin hsize hk (List.getElem?_eq_getElem hlt)⟩
    · exact ⟨_, loadFile_plain hlaid hfin hsize (List.getElem?_eq_getElem hid) hmem⟩
  have hlen : files.length = rom.files.length := by
    have := (mapM_eq_ok_iff.mp hfiles).length_eq
    rw [List.length_range] at this
    exact this.symm
  refine ⟨files, hfiles, hlen, ?_, ?_⟩
  · intro id hout
    cases hget : rom.files[id]? with
    | none =>
      rw [List.getElem?_eq_none_iff] at hget ⊢
      omega
    | some content =>
      exact getElem?_of_mapM_range hfiles (List.getElem?_eq_some_iff.mp hget).1
        (loadFile_plain hlaid hfin hsize hget hout)
  · intro k overlay payload hoverlay hpayload
    have hid := hwf.fileIds overlay (List.mem_of_getElem? hoverlay)
    exact getElem?_of_mapM_range hfiles hid (loadFile_overlay hlaid hfin hsize hoverlay hpayload)

/-- The table has one entry for each overlay. -/
theorem length_overlayTable
    (hlaid : LaidOut tools rom l buildInfo packed payloads overlayRegions fileRegions) :
    l.overlayTable.length = 0x20 * rom.overlays.length := by
  have hpayloads := (mapM_eq_ok_iff.mp hlaid.overlays).length_eq
  rw [hlaid.overlayTable,
    length_flatMap_of_size fun entry : Overlay × List UInt8 => length_overlayEntry entry.1 _,
    List.length_zip, ← hpayloads, Nat.min_self]

/-- The overlays that `load` finds in the saved ROM. -/
theorem loadOverlays_spec (hlossless : tools.Lossless)
    (hlaid : LaidOut tools rom l buildInfo packed payloads overlayRegions fileRegions)
    (hfin : Finished rom l (layoutRegions rom l packed (fatImage l) overlayRegions fileRegions)
      output)
    (hwf : WellFormed rom) {files : List (List UInt8)}
    (hfiles : ∀ (k : Nat) (overlay : Overlay) (payload : List UInt8),
      rom.overlays[k]? = some overlay →
      payloads[k]? = some payload → files[overlay.fileId]? = some payload) :
    ∃ overlays, (List.range rom.overlays.length).mapM
        (fun index => loadOverlay tools output files (l.arm9OvtOff + 0x20 * index)) = .ok overlays ∧
      List.Forall₂ SameOverlay rom.overlays overlays := by
  have hpayloads := mapM_eq_ok_iff.mp hlaid.overlays
  have htable : Holds output l.arm9OvtOff l.overlayTable :=
    hfin.placed.holds ⟨l.arm9OvtOff, l.overlayTable⟩ (by simp [layoutRegions])
  rw [hlaid.overlayTable] at htable
  have hload : ∀ k (hk : k < rom.overlays.length), ∃ loaded,
      loadOverlay tools output files (l.arm9OvtOff + 0x20 * k) = .ok loaded ∧
        SameOverlay (rom.overlays.get ⟨k, hk⟩) loaded := by
    intro k hk
    have hk' : k < payloads.length := by
      rw [← hpayloads.length_eq]
      exact hk
    have hoverlay : rom.overlays[k]? = some (rom.overlays.get ⟨k, hk⟩) :=
      List.getElem?_eq_getElem hk
    have hpayload : payloads[k]? = some (payloads.get ⟨k, hk'⟩) := List.getElem?_eq_getElem hk'
    have hzip : (rom.overlays.zip payloads)[k]? =
        some (rom.overlays.get ⟨k, hk⟩, payloads.get ⟨k, hk'⟩) := by
      rw [List.getElem?_zip_eq_some]
      exact ⟨hoverlay, hpayload⟩
    have hentry := htable.of_flatMap
      (fun entry : Overlay × List UInt8 => length_overlayEntry entry.1 (u32 entry.2.length)) hzip
    exact loadOverlay_of_holds hlossless (hwf.overlays _ (List.get_mem _ _))
      (hpayloads.get hk hk') (hfiles k _ _ hoverlay hpayload) hentry
  obtain ⟨overlays, hoverlays⟩ := exists_mapM_range fun k hk =>
    Exists.imp (fun _ h => h.1) (hload k hk)
  refine ⟨overlays, hoverlays, ?_⟩
  have hlen := (mapM_eq_ok_iff.mp hoverlays).length_eq
  rw [List.length_range] at hlen
  refine List.forall₂_iff_get.mpr ⟨hlen, fun k h₁ h₂ => ?_⟩
  obtain ⟨loaded, hloaded, hsame⟩ := hload k h₁
  have hget := getElem?_of_mapM_range hoverlays h₁ hloaded
  rw [List.getElem?_eq_getElem h₂] at hget
  have heq : overlays.get ⟨k, h₂⟩ = loaded := Option.some.inj hget
  rw [heq]
  exact hsame

/-- The header that `load` reads from the saved ROM. -/
def savedWords (rom : RomImage) (l : Layout) (packed : List UInt8) : HeaderWords where
  arm9Off := l.arm9Off
  arm9Entry := rom.arm9Entry
  arm9Ram := rom.arm9Ram
  arm9Size := packed.length
  arm7Off := l.arm7Off
  arm7Entry := rom.arm7Entry
  arm7Ram := rom.arm7Ram
  arm7Size := rom.arm7.length
  fntOff := l.fntOff
  fntSize := rom.fnt.length
  fatOff := l.fatOff
  fatSize := rom.files.length * 8
  arm9OvtOff := l.arm9OvtOff
  arm9OvtSize := l.overlayTable.length
  arm7OvtOff := u32 l.arm7OvtOff
  arm7OvtSize := rom.arm7OverlayTable.length
  arm9AutoloadCallback := rom.arm9AutoloadCallback
  arm9CodeSettingsPointer := rom.arm9CodeSettingsPointer
  arm7AutoloadCallback := rom.arm7AutoloadCallback
  bannerOff := l.bannerOff

/-- The ARM7 overlay table is where the header says, if there is one. -/
theorem length_arm7OverlayTable_lt
    (hlaid : LaidOut tools rom l buildInfo packed payloads overlayRegions fileRegions)
    (hsize : l.output.length < 2 ^ 32) : rom.arm7OverlayTable.length < 2 ^ 32 ∧
      (rom.arm7OverlayTable ≠ [] → u32 l.arm7OvtOff = l.arm7OvtOff) := by
  by_cases hempty : rom.arm7OverlayTable = []
  · refine ⟨by rw [hempty]; decide, fun hne => absurd hempty hne⟩
  · have hmem : (⟨l.arm7OvtOff, rom.arm7OverlayTable⟩ : Region UInt8) ∈
        layoutRegions rom l packed (List.replicate (u32 (rom.files.length * 8)) 0)
          overlayRegions fileRegions := by
      simp [layoutRegions, arm7OvtRegion, hempty]
    obtain ⟨hstart, hstop⟩ := stop_lt hlaid hsize hmem
    change l.arm7OvtOff + rom.arm7OverlayTable.length < 2 ^ 32 at hstop
    exact ⟨by omega, fun _ => u32_of_lt hstart⟩

/-- The header of the saved file says where everything is. -/
theorem readHeader_saved
    (hlaid : LaidOut tools rom l buildInfo packed payloads overlayRegions fileRegions)
    (hfin : Finished rom l (layoutRegions rom l packed (fatImage l) overlayRegions fileRegions)
      output)
    (hsize : l.output.length < 2 ^ 32) (hwf : WellFormed rom) :
    readHeader output = .ok (savedWords rom l packed) := by
  have hregion : ∀ r ∈ layoutRegions rom l packed
      (List.replicate (u32 (rom.files.length * 8)) 0) overlayRegions fileRegions,
      u32 r.offset = r.offset ∧ r.content.length < 2 ^ 32 := by
    intro r hr
    obtain ⟨hstart, hstop⟩ := stop_lt hlaid hsize hr
    change r.offset + r.content.length < 2 ^ 32 at hstop
    exact ⟨u32_of_lt hstart, by omega⟩
  obtain ⟨harm9, hpacked⟩ := hregion ⟨l.arm9Off, packed ++ rom.arm9Footer⟩ (by simp [layoutRegions])
  obtain ⟨hovt, htable⟩ := hregion ⟨l.arm9OvtOff, l.overlayTable⟩ (by simp [layoutRegions])
  obtain ⟨harm7, harm7Size⟩ := hregion ⟨l.arm7Off, rom.arm7⟩ (by simp [layoutRegions])
  obtain ⟨hfnt, hfntSize⟩ := hregion ⟨l.fntOff, rom.fnt⟩ (by simp [layoutRegions])
  obtain ⟨hfat, -⟩ := hregion ⟨l.fatOff, List.replicate (u32 (rom.files.length * 8)) 0⟩
    (by simp [layoutRegions])
  obtain ⟨hbanner, -⟩ := hregion ⟨l.bannerOff, rom.banner⟩ (by simp [layoutRegions])
  have hpackedSize : packed.length < 2 ^ 32 := by
    rw [List.length_append] at hpacked
    omega
  have htable7 := (length_arm7OverlayTable_lt hlaid hsize).1
  have hword : ∀ offset value, (offset, value) ∈ headerWrites rom l → value < 2 ^ 32 →
      readU32 output offset = .ok value := fun offset value hmem hlt =>
    readU32_of_holds (hfin.word (offset, value) hmem) hlt
  have hstop : ∀ offset value, (offset, u32 value) ∈ headerWrites rom l → u32 value = value →
      readU32 output offset = .ok value := by
    intro offset value hmem heq
    rw [← heq]
    exact hword offset (u32 value) hmem (u32_lt value)
  unfold readHeader
  refine bind_eq_ok.mpr ⟨l.arm9Off, hstop _ _ (by simp [headerWrites]) harm9, ?_⟩
  refine bind_eq_ok.mpr ⟨rom.arm9Entry, hword _ _ (by simp [headerWrites]) hwf.arm9Entry, ?_⟩
  refine bind_eq_ok.mpr ⟨rom.arm9Ram, hword _ _ (by simp [headerWrites]) hwf.arm9Ram, ?_⟩
  refine bind_eq_ok.mpr ⟨packed.length, hstop _ _ (by simp [headerWrites, hlaid.arm9Size])
    (u32_of_lt hpackedSize), ?_⟩
  refine bind_eq_ok.mpr ⟨l.arm7Off, hstop _ _ (by simp [headerWrites]) harm7, ?_⟩
  refine bind_eq_ok.mpr ⟨rom.arm7Entry, hword _ _ (by simp [headerWrites]) hwf.arm7Entry, ?_⟩
  refine bind_eq_ok.mpr ⟨rom.arm7Ram, hword _ _ (by simp [headerWrites]) hwf.arm7Ram, ?_⟩
  refine bind_eq_ok.mpr ⟨rom.arm7.length, hstop _ _ (by simp [headerWrites])
    (u32_of_lt harm7Size), ?_⟩
  refine bind_eq_ok.mpr ⟨l.fntOff, hstop _ _ (by simp [headerWrites]) hfnt, ?_⟩
  refine bind_eq_ok.mpr ⟨rom.fnt.length, hstop _ _ (by simp [headerWrites])
    (u32_of_lt hfntSize), ?_⟩
  refine bind_eq_ok.mpr ⟨l.fatOff, hstop _ _ (by simp [headerWrites]) hfat, ?_⟩
  refine bind_eq_ok.mpr ⟨rom.files.length * 8,
    hstop _ _ (by simp [headerWrites, hlaid.fat_length]) (u32_of_lt hwf.files), ?_⟩
  refine bind_eq_ok.mpr ⟨l.arm9OvtOff, hstop _ _ (by simp [headerWrites]) hovt, ?_⟩
  refine bind_eq_ok.mpr ⟨l.overlayTable.length, hstop _ _ (by simp [headerWrites])
    (u32_of_lt htable), ?_⟩
  refine bind_eq_ok.mpr ⟨u32 l.arm7OvtOff, hword _ _ (by simp [headerWrites]) (u32_lt _), ?_⟩
  refine bind_eq_ok.mpr ⟨rom.arm7OverlayTable.length, hstop _ _ (by simp [headerWrites])
    (u32_of_lt htable7), ?_⟩
  refine bind_eq_ok.mpr ⟨rom.arm9AutoloadCallback, hword _ _ (by simp [headerWrites])
    hwf.arm9AutoloadCallback, ?_⟩
  refine bind_eq_ok.mpr ⟨rom.arm9CodeSettingsPointer, hword _ _ (by simp [headerWrites])
    hwf.arm9CodeSettingsPointer, ?_⟩
  refine bind_eq_ok.mpr ⟨rom.arm7AutoloadCallback, hword _ _ (by simp [headerWrites])
    hwf.arm7AutoloadCallback, ?_⟩
  exact bind_eq_ok.mpr ⟨l.bannerOff, hstop _ _ (by simp [headerWrites]) hbanner, rfl⟩

/-- The ARM9 binary and its footer are found side by side. -/
theorem slice_arm9
    (hfin : Finished rom l (layoutRegions rom l packed (fatImage l) overlayRegions fileRegions)
      output) (hwf : WellFormed rom) :
    slice output l.arm9Off packed.length "ARM9" = .ok packed ∧
      slice output (l.arm9Off + packed.length) ARM9_FOOTER_SIZE "ARM9 footer" =
        .ok rom.arm9Footer := by
  have hboth : Holds output l.arm9Off (packed ++ rom.arm9Footer) :=
    hfin.placed.holds ⟨l.arm9Off, packed ++ rom.arm9Footer⟩ (by simp [layoutRegions])
  constructor
  · refine slice_of_holds ?_ "ARM9"
    rw [← List.nil_append packed] at hboth
    exact hboth.of_append
  · refine slice_of_holds' ?_ hwf.footer.symm "ARM9 footer"
    rw [← List.append_nil (packed ++ rom.arm9Footer)] at hboth
    exact hboth.of_append

/-- The banner is read as it was written. -/
theorem readBanner_saved
    (hfin : Finished rom l (layoutRegions rom l packed (fatImage l) overlayRegions fileRegions)
      output) (hwf : WellFormed rom) : readBanner output l.bannerOff = .ok rom.banner := by
  have hbanner : Holds output l.bannerOff rom.banner :=
    hfin.placed.holds ⟨l.bannerOff, rom.banner⟩ (by simp [layoutRegions])
  have htwo : 2 ≤ rom.banner.length := by
    rw [hwf.banner]
    exact two_le_bannerSize _
  have hle := hbanner.le
  have hversion : readLE 2 output l.bannerOff = readLE 2 rom.banner 0 := by
    have htake := hbanner.take_drop
    rw [← readLE_take_drop output htwo, htake]
  refine bind_eq_ok.mpr ⟨readLE 2 rom.banner 0, ?_, ?_⟩
  · rw [readU16_of_length (by omega), hversion]
  · exact slice_of_holds' hbanner hwf.banner.symm "banner"

/-- So is the overlay table of the ARM7. -/
theorem loadArm7OverlayTable_saved
    (hlaid : LaidOut tools rom l buildInfo packed payloads overlayRegions fileRegions)
    (hfin : Finished rom l (layoutRegions rom l packed (fatImage l) overlayRegions fileRegions)
      output)
    (hsize : l.output.length < 2 ^ 32) :
    loadArm7OverlayTable output (u32 l.arm7OvtOff) rom.arm7OverlayTable.length =
      .ok rom.arm7OverlayTable := by
  unfold loadArm7OverlayTable
  by_cases hempty : rom.arm7OverlayTable = []
  · rw [hempty]
    rfl
  · have hlen : rom.arm7OverlayTable.length ≠ 0 := fun hzero =>
      hempty (List.length_eq_zero_iff.mp hzero)
    have hholds : Holds output l.arm7OvtOff rom.arm7OverlayTable :=
      hfin.placed.holds ⟨l.arm7OvtOff, rom.arm7OverlayTable⟩
        (by simp [layoutRegions, arm7OvtRegion, hempty])
    rw [if_neg hlen, (length_arm7OverlayTable_lt hlaid hsize).2 hempty]
    exact slice_of_holds hholds "ARM7 overlay table"

/-- The saved file loads exactly when the sections of its ARM9 binary do, and then it loads as the
image it was saved from. -/
theorem load_saved (hlossless : tools.Lossless) (hwf : WellFormed rom)
    (hlaid : LaidOut tools rom l buildInfo packed payloads overlayRegions fileRegions)
    (hfin : Finished rom l (layoutRegions rom l packed (fatImage l) overlayRegions fileRegions)
      output)
    (hsize : l.output.length < 2 ^ 32) :
    (∀ sections, parseArm9Sections l.arm9 rom.arm9Ram rom.arm9CodeSettingsPointer = .ok sections →
      ∃ rom', load tools output = .ok rom' ∧ SameImage buildInfo rom rom') ∧
    ∀ e, parseArm9Sections l.arm9 rom.arm9Ram rom.arm9CodeSettingsPointer = .error e →
      load tools output = .error e := by
  have hlong : ¬ output.length < HEADER_SIZE := by
    have hle := hlaid.laid.2
    have hpad : l.output.length ≤ paddedLen rom l :=
      Nat.le_trans (le_nextPowerOfTwo _) (Nat.le_max_left _ _)
    rw [hfin.length]
    omega
  obtain ⟨hsame, hunpack⟩ := compressArm9_spec hlossless hlaid.compressed
  obtain ⟨harm9, hfooter⟩ := slice_arm9 hfin hwf
  have hwords := readHeader_saved hlaid hfin hsize hwf
  constructor
  · intro sections hsections
    obtain ⟨files, hfiles, hfilesLen, hplain, hoverlayFiles⟩ := loadFiles_spec hlaid hfin hsize hwf
    obtain ⟨overlays, hoverlays, hsameOverlays⟩ :=
      loadOverlays_spec hlossless hlaid hfin hwf hoverlayFiles
    have hfileCount : rom.files.length * 8 / 8 = rom.files.length :=
      Nat.mul_div_cancel _ (by decide)
    have hoverlayCount : (l.overlayTable.length + 31) / 32 = rom.overlays.length := by
      rw [length_overlayTable hlaid]
      omega
    have harm7 : slice output l.arm7Off rom.arm7.length "ARM7" = .ok rom.arm7 :=
      slice_of_holds (hfin.placed.holds ⟨l.arm7Off, rom.arm7⟩ (by simp [layoutRegions])) "ARM7"
    have hfnt : slice output l.fntOff rom.fnt.length "FNT" = .ok rom.fnt :=
      slice_of_holds (hfin.placed.holds ⟨l.fntOff, rom.fnt⟩ (by simp [layoutRegions])) "FNT"
    have htable7 := loadArm7OverlayTable_saved hlaid hfin hsize
    have hbanner := readBanner_saved hfin hwf
    rw [← hfileCount] at hfiles
    rw [← hoverlayCount] at hoverlays
    unfold load
    rw [if_neg hlong]
    refine ⟨_, bind_eq_ok.mpr ⟨_, hwords, bind_eq_ok.mpr ⟨_, harm9, bind_eq_ok.mpr ⟨_, hfooter,
      bind_eq_ok.mpr ⟨_, hunpack "ARM9", bind_eq_ok.mpr ⟨_, hsections, bind_eq_ok.mpr ⟨_, hfiles,
        bind_eq_ok.mpr ⟨_, hoverlays, bind_eq_ok.mpr ⟨_, harm7, bind_eq_ok.mpr ⟨_, hfnt,
          bind_eq_ok.mpr ⟨_, htable7, bind_eq_ok.mpr ⟨_, hbanner, rfl⟩⟩⟩⟩⟩⟩⟩⟩⟩⟩⟩, ?_⟩
    exact ⟨rfl, rfl, rfl, rfl, rfl, rfl, rfl, rfl, rfl, rfl, rfl, rfl, hfilesLen, hplain,
      hsameOverlays, hsame⟩
  · intro e herror
    unfold load
    rw [if_neg hlong, hwords]
    change (slice output l.arm9Off packed.length "ARM9" >>= _) = _
    rw [harm9]
    change (slice output (l.arm9Off + packed.length) ARM9_FOOTER_SIZE "ARM9 footer" >>= _) = _
    rw [hfooter]
    change (decompress tools packed "ARM9" >>= _) = _
    rw [hunpack "ARM9"]
    change (parseArm9Sections l.arm9 rom.arm9Ram rom.arm9CodeSettingsPointer >>= _) = _
    rw [herror]
    rfl

end Saved

end Bigstar.Rom
