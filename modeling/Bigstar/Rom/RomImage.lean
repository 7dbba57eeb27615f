import Bigstar.Lib.Buffer
import Bigstar.Lib.LittleEndian

/-!
# ROM images

`RomImage` of `bigstar-rom`: how a Nintendo DS ROM is taken apart into its binaries, tables and
files, how words of it are patched in place, and how it is laid out again. The compression and the
checksum come from another package and are parameters. Words are natural numbers below `2 ^ 32`; an
arithmetic operation of the source on `u32` wraps, as it does in a release build.
-/

namespace Bigstar.Rom

open LittleEndian Pages

/-- The errors of the package. -/
inductive RomError where
  /-- There is no room for a header. -/
  | tooSmall
  /-- A part of the file that is read lies outside of it. -/
  | outOfRange (label : String) (off len : Nat)
  /-- A word that is written lies outside of the buffer. -/
  | writeOutOfRange (off : Nat)
  /-- The compression has failed. -/
  | codec (context : String)
  /-- An overlay has no file. -/
  | overlayFileId (fileId : Nat)
  /-- The code settings lie before the ARM9 binary. -/
  | codeSettingsBeforeBase (addr : Nat)
  /-- An entry of the copy table lies outside of the ARM9 binary. -/
  | copyTableEntry (entry : Nat)
  /-- A section does. -/
  | arm9Section (off size : Nat)
  /-- The build info does. -/
  | buildInfo (offset : Nat)
  /-- No section holds the address. -/
  | notInArm9 (addr : Nat)
  /-- No overlay holds the address. -/
  | notInOverlay (addr : Nat)
  /-- No overlay has this id. -/
  | overlayNotFound (id : Nat)
  /-- A patch reaches beyond what it is in. -/
  | patchOutOfRange (off len : Nat)
  deriving DecidableEq, Repr

/-- What the package takes from `ds_rom`. -/
structure Tools where
  /-- `Lz77::compress` from an offset on. -/
  compress : List UInt8 → Nat → Option (List UInt8)
  /-- `Lz77::decompress`. -/
  decompress : List UInt8 → Option (List UInt8)
  /-- `CRC_16_MODBUS.checksum`. -/
  checksum : List UInt8 → Nat

/-- What comes before this offset of the ARM9 binary is not compressed. -/
def ARM9_COMPRESSION_START : Nat := 0x4000

/-- The length of the footer behind the ARM9 binary. -/
def ARM9_FOOTER_SIZE : Nat := 12

/-- The length of the header. -/
def HEADER_SIZE : Nat := 0x4000

/-- A `usize` cast to `u32`. -/
def u32 (value : Nat) : Nat := value % 2 ^ 32

/-! ## Bytes -/

/-- `slice`. -/
def slice (data : List UInt8) (off len : Nat) (label : String) : Except RomError (List UInt8) :=
  if off + len ≤ data.length then .ok ((data.drop off).take len) else
    .error (.outOfRange label off len)

/-- `read_u16`. -/
def readU16 (data : List UInt8) (off : Nat) : Except RomError Nat := do
  let bytes ← slice data off 2 "u16"
  return ofBytes bytes

/-- `read_u32`. -/
def readU32 (data : List UInt8) (off : Nat) : Except RomError Nat := do
  let bytes ← slice data off 4 "u32"
  return ofBytes bytes

/-- `write_u16` and `write_u32`, by the number of bytes. -/
def writeWord (width : Nat) (data : List UInt8) (off value : Nat) : Except RomError (List UInt8) :=
  if off + width ≤ data.length then .ok (writeAt data off (toBytes width value))
  else .error (.writeOutOfRange off)

/-- `write_u16`. -/
def writeU16 (data : List UInt8) (off value : Nat) : Except RomError (List UInt8) :=
  writeWord 2 data off value

/-- `write_u32`. -/
def writeU32 (data : List UInt8) (off value : Nat) : Except RomError (List UInt8) :=
  writeWord 4 data off value

/-- `align_vec`: the buffer filled up to a multiple of the alignment. -/
def alignVec (out : List UInt8) (alignment : Nat) (value : UInt8) : List UInt8 :=
  out ++ List.replicate ((alignment - out.length % alignment) % alignment) value

/-- The size of a banner by its version word. -/
def bannerSize (version : Nat) : Nat :=
  if version = 1 then 0x840
  else if version = 2 then 0x940
  else if version = 3 then 0x1240
  else 0x840

/-- `read_banner`. -/
def readBanner (data : List UInt8) (off : Nat) : Except RomError (List UInt8) := do
  let version ← readU16 data off
  slice data off (bannerSize version) "banner"

/-! ## The image -/

/-- An overlay: its entry in the table, and its code. -/
structure Overlay where
  /-- Its number. -/
  id : Nat
  /-- Where its code stands in memory. -/
  baseAddr : Nat
  /-- The length of the code. -/
  codeSize : Nat
  /-- How much is cleared behind it. -/
  bssSize : Nat
  /-- Where its constructors begin, -/
  ctorStart : Nat
  /-- and where they end. -/
  ctorEnd : Nat
  /-- The file that it is in. -/
  fileId : Nat
  /-- Among others, whether the file is compressed. -/
  flags : Nat
  /-- The code. -/
  data : List UInt8
  deriving DecidableEq, Repr

/-- `Overlay::compressed`: bit 24 of the flags. -/
def Overlay.compressed (overlay : Overlay) : Bool := decide (overlay.flags / 2 ^ 24 % 2 ≠ 0)

/-- A part of the ARM9 binary that has its own place in memory. -/
structure Arm9Section where
  /-- Where it stands in memory, -/
  ramAddr : Nat
  /-- and where in the binary. -/
  fileOff : Nat
  /-- Its length. -/
  size : Nat
  deriving DecidableEq, Repr

/-- `RomImage`. -/
structure RomImage where
  /-- The header. -/
  header : List UInt8
  /-- Where the ARM9 binary stands in memory, -/
  arm9Ram : Nat
  /-- and where it is entered. -/
  arm9Entry : Nat
  /-- The address of a callback. -/
  arm9AutoloadCallback : Nat
  /-- Where the address of the code settings is found, with 4 added. -/
  arm9CodeSettingsPointer : Nat
  /-- The bytes behind the ARM9 binary. -/
  arm9Footer : List UInt8
  /-- The ARM9 binary, not compressed. -/
  arm9 : List UInt8
  /-- The parts of the binary. -/
  arm9Sections : List Arm9Section
  /-- The ARM7 binary. -/
  arm7 : List UInt8
  /-- Where it stands in memory, -/
  arm7Ram : Nat
  /-- and where it is entered. -/
  arm7Entry : Nat
  /-- The address of a callback. -/
  arm7AutoloadCallback : Nat
  /-- The names of the files. -/
  fnt : List UInt8
  /-- The files by number. -/
  files : List (List UInt8)
  /-- The overlays of the ARM9. -/
  overlays : List Overlay
  /-- Those of the ARM7, as they stand in the file. -/
  arm7OverlayTable : List UInt8
  /-- Icon and title. -/
  banner : List UInt8
  /-- The length of the file. -/
  originalLen : Nat
  deriving DecidableEq, Repr

/-! ## Loading -/

/-- One round of the loop over the copy table: the sections so far and where the next one begins. -/
def copyTableEntry (data : List UInt8) (state : List Arm9Section × Nat) (entry : Nat) :
    Except RomError (List Arm9Section × Nat) :=
  if data.length < entry + 12 then .error (.copyTableEntry entry)
  else do
    let sectionRam ← readU32 data entry
    let sectionSize ← readU32 data (entry + 4)
    if data.length < state.2 + sectionSize then .error (.arm9Section state.2 sectionSize)
    else
      .ok (state.1 ++ [{ ramAddr := sectionRam, fileOff := state.2, size := sectionSize }],
        state.2 + sectionSize)

/-- `parse_arm9_sections`. -/
def parseArm9Sections (data : List UInt8) (ramAddr codeSettingsPointerAddr : Nat) :
    Except RomError (List Arm9Section) := do
  let whole : List Arm9Section := [{ ramAddr, fileOff := 0, size := data.length }]
  if codeSettingsPointerAddr < u32 (ramAddr + 4) then
    .error (.codeSettingsBeforeBase codeSettingsPointerAddr)
  else
    match readU32 data (codeSettingsPointerAddr - u32 (ramAddr + 4)) with
    | .error _ => return whole
    | .ok codeSettingsAddr =>
      if codeSettingsAddr < ramAddr ∨ data.length < codeSettingsAddr - ramAddr + 12 then
        return whole
      else
        let codeSettingsOff := codeSettingsAddr - ramAddr
        let copyTableBegin := (← readU32 data codeSettingsOff) - ramAddr
        let copyTableEnd := (← readU32 data (codeSettingsOff + 4)) - ramAddr
        let dataBegin := (← readU32 data (codeSettingsOff + 8)) - ramAddr
        if copyTableEnd < copyTableBegin ∨ data.length < copyTableEnd ∨ data.length < dataBegin then
          return whole
        else
          let entries := (List.range ((copyTableEnd - copyTableBegin + 11) / 12)).map
            fun index => copyTableBegin + 12 * index
          let result ← entries.foldlM (copyTableEntry data)
            ([{ ramAddr, fileOff := 0, size := dataBegin }], dataBegin)
          return result.1

/-- The words `load` reads from the header. -/
structure HeaderWords where
  /-- Where the ARM9 binary is in the file. -/
  arm9Off : Nat
  /-- Where it is entered. -/
  arm9Entry : Nat
  /-- Where it stands in memory. -/
  arm9Ram : Nat
  /-- Its length. -/
  arm9Size : Nat
  /-- Where the ARM7 binary is in the file. -/
  arm7Off : Nat
  /-- Where it is entered. -/
  arm7Entry : Nat
  /-- Where it stands in memory. -/
  arm7Ram : Nat
  /-- Its length. -/
  arm7Size : Nat
  /-- Where the names of the files are. -/
  fntOff : Nat
  /-- Their length. -/
  fntSize : Nat
  /-- Where the allocation table is. -/
  fatOff : Nat
  /-- Its length. -/
  fatSize : Nat
  /-- Where the overlay table of the ARM9 is. -/
  arm9OvtOff : Nat
  /-- Its length. -/
  arm9OvtSize : Nat
  /-- Where that of the ARM7 is. -/
  arm7OvtOff : Nat
  /-- Its length. -/
  arm7OvtSize : Nat
  /-- The callback of the ARM9. -/
  arm9AutoloadCallback : Nat
  /-- The pointer to the code settings. -/
  arm9CodeSettingsPointer : Nat
  /-- The callback of the ARM7. -/
  arm7AutoloadCallback : Nat
  /-- Where the banner is. -/
  bannerOff : Nat

/-- The words at their places in the header. -/
def readHeader (data : List UInt8) : Except RomError HeaderWords := do
  return {
    arm9Off := ← readU32 data 0x20
    arm9Entry := ← readU32 data 0x24
    arm9Ram := ← readU32 data 0x28
    arm9Size := ← readU32 data 0x2c
    arm7Off := ← readU32 data 0x30
    arm7Entry := ← readU32 data 0x34
    arm7Ram := ← readU32 data 0x38
    arm7Size := ← readU32 data 0x3c
    fntOff := ← readU32 data 0x40
    fntSize := ← readU32 data 0x44
    fatOff := ← readU32 data 0x48
    fatSize := ← readU32 data 0x4c
    arm9OvtOff := ← readU32 data 0x50
    arm9OvtSize := ← readU32 data 0x54
    arm7OvtOff := ← readU32 data 0x58
    arm7OvtSize := ← readU32 data 0x5c
    arm9AutoloadCallback := ← readU32 data 0x60
    arm9CodeSettingsPointer := ← readU32 data 0x70
    arm7AutoloadCallback := ← readU32 data 0x64
    bannerOff := ← readU32 data 0x68 }

/-- The file that an entry of the allocation table delimits. -/
def loadFile (data : List UInt8) (entry : Nat) : Except RomError (List UInt8) := do
  let start ← readU32 data entry
  let stop ← readU32 data (entry + 4)
  slice data start (stop - start) "file"

/-- The decoder of `Lz77`, with the error that `context` adds. -/
def decompress (tools : Tools) (raw : List UInt8) (context : String) :
    Except RomError (List UInt8) :=
  match tools.decompress raw with
  | some data => .ok data
  | none => .error (.codec context)

/-- The encoder of `Lz77`, with the error that `context` adds. -/
def compress (tools : Tools) (data : List UInt8) (start : Nat) (context : String) :
    Except RomError (List UInt8) :=
  match tools.compress data start with
  | some packed => .ok packed
  | none => .error (.codec context)

/-- The code of an overlay, from its file. -/
def overlayData (tools : Tools) (flags : Nat) (raw : List UInt8) : Except RomError (List UInt8) :=
  if flags / 2 ^ 24 % 2 ≠ 0 then decompress tools raw "overlay" else .ok raw

/-- One entry of the overlay table. -/
def loadOverlay (tools : Tools) (data : List UInt8) (files : List (List UInt8)) (off : Nat) :
    Except RomError Overlay := do
  let fileId ← readU32 data (off + 0x18)
  let flags ← readU32 data (off + 0x1c)
  match files[fileId]? with
  | none => .error (.overlayFileId fileId)
  | some raw =>
    let overlayId ← readU32 data off
    let code ← overlayData tools flags raw
    return {
      id := overlayId
      baseAddr := ← readU32 data (off + 0x04)
      codeSize := ← readU32 data (off + 0x08)
      bssSize := ← readU32 data (off + 0x0c)
      ctorStart := ← readU32 data (off + 0x10)
      ctorEnd := ← readU32 data (off + 0x14)
      fileId
      flags
      data := code }

/-- The ARM7 overlay table, which a ROM need not have. -/
def loadArm7OverlayTable (data : List UInt8) (off size : Nat) : Except RomError (List UInt8) :=
  if size = 0 then .ok [] else slice data off size "ARM7 overlay table"

/-- `RomImage::load`, on the bytes of the file. -/
def load (tools : Tools) (data : List UInt8) : Except RomError RomImage :=
  if data.length < HEADER_SIZE then .error .tooSmall
  else do
    let words ← readHeader data
    let arm9Raw ← slice data words.arm9Off words.arm9Size "ARM9"
    let arm9Footer ← slice data (words.arm9Off + words.arm9Size) ARM9_FOOTER_SIZE "ARM9 footer"
    let arm9 ← decompress tools arm9Raw "ARM9"
    let arm9Sections ← parseArm9Sections arm9 words.arm9Ram words.arm9CodeSettingsPointer
    let files ← (List.range (words.fatSize / 8)).mapM fun fileId =>
      loadFile data (words.fatOff + fileId * 8)
    let overlays ← (List.range ((words.arm9OvtSize + 31) / 32)).mapM fun index =>
      loadOverlay tools data files (words.arm9OvtOff + 0x20 * index)
    let arm7 ← slice data words.arm7Off words.arm7Size "ARM7"
    let fnt ← slice data words.fntOff words.fntSize "FNT"
    let arm7OverlayTable ← loadArm7OverlayTable data words.arm7OvtOff words.arm7OvtSize
    let banner ← readBanner data words.bannerOff
    return {
      header := data.take HEADER_SIZE
      arm9Ram := words.arm9Ram
      arm9Entry := words.arm9Entry
      arm9AutoloadCallback := words.arm9AutoloadCallback
      arm9CodeSettingsPointer := words.arm9CodeSettingsPointer
      arm9Footer
      arm9
      arm9Sections
      arm7
      arm7Ram := words.arm7Ram
      arm7Entry := words.arm7Entry
      arm7AutoloadCallback := words.arm7AutoloadCallback
      fnt
      files
      overlays
      arm7OverlayTable
      banner
      originalLen := data.length }

/-! ## Patching in place -/

/-- The patches of the package: words of the ARM9 binary by address, of the smallest overlay around
an address, or of the overlay with an id. -/
inductive Patch where
  /-- `patch_arm9_words`. -/
  | arm9Words (addr : Nat) (words : List UInt32)
  /-- `patch_overlay_words`. -/
  | overlayWords (addr : Nat) (words : List UInt32)
  /-- `patch_overlay_words_by_id`. -/
  | overlayWordsById (id addr : Nat) (words : List UInt32)

/-- An address lies in `size` bytes from `base` on. -/
def inRange (addr base size : Nat) : Bool := decide (base ≤ addr ∧ addr < u32 (base + u32 size))

/-- `overlay_index_for_addr`: the first of the smallest overlays around the address. -/
def overlayIndexForAddr (overlays : List Overlay) (addr : Nat) : Option Nat :=
  overlays.zipIdx.foldl
    (fun best entry =>
      if inRange addr entry.1.baseAddr entry.1.data.length then
        match best with
        | none => some (entry.1.data.length, entry.2)
        | some found =>
          if entry.1.data.length < found.1 then some (entry.1.data.length, entry.2) else best
      else best)
    (none : Option (Nat × Nat))
    |>.map Prod.snd

/-- The words as they stand in the memory. -/
def wordBytes (words : List UInt32) : List UInt8 := words.flatMap fun word => toBytes 4 word.toNat

namespace Patch

/-- The address of the first word. -/
def addr : Patch → Nat
  | arm9Words addr _ => addr
  | overlayWords addr _ => addr
  | overlayWordsById _ addr _ => addr

/-- The words of a patch, as bytes. -/
def bytes : Patch → List UInt8
  | arm9Words _ words => wordBytes words
  | overlayWords _ words => wordBytes words
  | overlayWordsById _ _ words => wordBytes words

end Patch

/-- `patch_words`: the data after it, and the bytes that were there. -/
def replaceWords (data : List UInt8) (off : Nat) (words : List UInt32) :
    List UInt8 × Except RomError (List UInt8) :=
  if data.length < off + words.length * 4 then
    (data, .error (.patchOutOfRange off (words.length * 4)))
  else (writeAt data off (wordBytes words), .ok ((data.drop off).take (words.length * 4)))

namespace RomImage

/-- The end of the two functions for overlays. -/
def replaceOverlayWords (rom : RomImage) (index addr : Nat) (words : List UInt32) :
    RomImage × Except RomError (List UInt8) :=
  match rom.overlays[index]? with
  | none => (rom, .error (.notInOverlay addr))
  | some overlay =>
    let replaced := replaceWords overlay.data (addr - overlay.baseAddr) words
    ({ rom with overlays := rom.overlays.set index { overlay with data := replaced.1 } },
      replaced.2)

/-- `patch_arm9_words`. -/
def patchArm9Words (rom : RomImage) (addr : Nat) (words : List UInt32) :
    RomImage × Except RomError (List UInt8) :=
  match rom.arm9Sections.find? fun s => inRange addr s.ramAddr s.size with
  | none => (rom, .error (.notInArm9 addr))
  | some s =>
    let replaced := replaceWords rom.arm9 (s.fileOff + (addr - s.ramAddr)) words
    ({ rom with arm9 := replaced.1 }, replaced.2)

/-- `patch_overlay_words`. -/
def patchOverlayWords (rom : RomImage) (addr : Nat) (words : List UInt32) :
    RomImage × Except RomError (List UInt8) :=
  match overlayIndexForAddr rom.overlays addr with
  | none => (rom, .error (.notInOverlay addr))
  | some index => rom.replaceOverlayWords index addr words

/-- `patch_overlay_words_by_id`. -/
def patchOverlayWordsById (rom : RomImage) (id addr : Nat) (words : List UInt32) :
    RomImage × Except RomError (List UInt8) :=
  match rom.overlays.findIdx? fun overlay => overlay.id = id with
  | none => (rom, .error (.overlayNotFound id))
  | some index =>
    match rom.overlays[index]? with
    | none => (rom, .error (.overlayNotFound id))
    | some overlay =>
      if inRange addr overlay.baseAddr overlay.data.length then
        rom.replaceOverlayWords index addr words
      else (rom, .error (.notInOverlay addr))

/-- The image that a patch leaves behind in either case, and the bytes that it returns. -/
def applyPatch (rom : RomImage) : Patch → RomImage × Except RomError (List UInt8)
  | .arm9Words addr words => rom.patchArm9Words addr words
  | .overlayWords addr words => rom.patchOverlayWords addr words
  | .overlayWordsById id addr words => rom.patchOverlayWordsById id addr words

end RomImage

/-- A patch that the caller gives up with when it fails. -/
def patch (rom : RomImage) (p : Patch) : Except RomError RomImage :=
  (rom.applyPatch p).2.map fun _ => (rom.applyPatch p).1

/-! ## Saving -/

/-- `RomImage::arm9_build_info_offset`. -/
def arm9BuildInfoOffset (rom : RomImage) : Except RomError Nat := do
  let offset ← readU32 rom.arm9Footer 4
  if rom.arm9.length < offset + 0x24 then .error (.buildInfo offset) else return offset

/-- The rounds of `compress_arm9_with_build_info` that are left: the compressed length is stored in
the binary, which changes what there is to compress. -/
def compressRounds (tools : Tools) (buildInfo ramBase : Nat) :
    Nat → List UInt8 → List UInt8 → Except RomError (List UInt8 × List UInt8)
  | 0, arm9, compressed => .ok (arm9, compressed)
  | rounds + 1, arm9, compressed => do
    let stop := u32 (ramBase + u32 compressed.length)
    let stored ← readU32 arm9 (buildInfo + 0x14)
    if stored = stop then .ok (arm9, compressed)
    else
      let arm9 ← writeU32 arm9 (buildInfo + 0x14) stop
      let compressed ← compress tools arm9 ARM9_COMPRESSION_START "ARM9 after build-info update"
      compressRounds tools buildInfo ramBase rounds arm9 compressed

/-- `compress_arm9_with_build_info`: the binary as it is rewritten, and compressed. -/
def compressArm9WithBuildInfo (tools : Tools) (arm9 : List UInt8) (buildInfo ramBase : Nat) :
    Except RomError (List UInt8 × List UInt8) := do
  let compressed ← compress tools arm9 ARM9_COMPRESSION_START "ARM9"
  compressRounds tools buildInfo ramBase 3 arm9 compressed

/-- `append_overlay_entry`: the entry of an overlay in the table. -/
def overlayEntry (overlay : Overlay) (compressedSize : Nat) : List UInt8 :=
  let flags := overlay.flags / 2 ^ 24 * 2 ^ 24 +
    if overlay.compressed then compressedSize % 2 ^ 24 else 0
  [overlay.id, overlay.baseAddr, overlay.codeSize, overlay.bssSize, overlay.ctorStart,
    overlay.ctorEnd, overlay.fileId, flags].flatMap (toBytes 4)

/-- The bytes an overlay has in the file system. -/
def overlayPayload (tools : Tools) (overlay : Overlay) : Except RomError (List UInt8) :=
  if overlay.compressed then compress tools overlay.data 0 "overlay" else .ok overlay.data

/-- Appends a region at the next multiple of `0x200`: the output after it, and where it starts. -/
def place (output : List UInt8) (fill : UInt8) (content : List UInt8) : List UInt8 × Nat :=
  let output := alignVec output 0x200 fill
  (output ++ content, output.length)

/-- The output and the allocation table, as the loops over overlays and files extend them. -/
structure FileSystem where
  /-- The file so far. -/
  output : List UInt8
  /-- Where each file begins and ends. -/
  fat : List (Nat × Nat)

/-- Appends one file and enters it in the table. -/
def placeFile (fill : UInt8) (fs : FileSystem) (file : Nat × List UInt8) : FileSystem :=
  let placed := place fs.output fill file.2
  { output := placed.1
    fat := fs.fat.set file.1 (u32 placed.2, u32 placed.1.length) }

/-- The files that no overlay is stored in, by their ids. -/
def plainFiles (rom : RomImage) : List (Nat × List UInt8) :=
  (rom.files.zipIdx.map fun entry => (entry.2, entry.1)).filter
    fun file => file.1 ∉ rom.overlays.map Overlay.fileId

/-- What `save` has laid out before it fills in the table and the header. -/
structure Layout where
  /-- The file so far. -/
  output : List UInt8
  /-- The ARM9 binary as it is written. -/
  arm9 : List UInt8
  /-- Where it is. -/
  arm9Off : Nat
  /-- Its length. -/
  arm9Size : Nat
  /-- Where the overlay table is. -/
  arm9OvtOff : Nat
  /-- The overlay table. -/
  overlayTable : List UInt8
  /-- Where each file begins and ends. -/
  fat : List (Nat × Nat)
  /-- Where the ARM7 binary is. -/
  arm7Off : Nat
  /-- Where its overlay table is. -/
  arm7OvtOff : Nat
  /-- Where the names of the files are. -/
  fntOff : Nat
  /-- Where the allocation table is. -/
  fatOff : Nat
  /-- Where the banner is. -/
  bannerOff : Nat

/-- The first half of `RomImage::save`. -/
def layout (tools : Tools) (rom : RomImage) : Except RomError Layout := do
  let output := List.replicate HEADER_SIZE 0
  let fat := List.replicate rom.files.length (0, 0)
  let buildInfo ← arm9BuildInfoOffset rom
  let (arm9, compressedArm9) ← compressArm9WithBuildInfo tools rom.arm9 buildInfo rom.arm9Ram
  let (output, arm9Off) := place output 0 (compressedArm9 ++ rom.arm9Footer)
  let payloads ← rom.overlays.mapM (overlayPayload tools)
  let overlayTable := (rom.overlays.zip payloads).flatMap fun entry =>
    overlayEntry entry.1 (u32 entry.2.length)
  let (output, arm9OvtOff) := place output 0 overlayTable
  let fs := ((rom.overlays.map Overlay.fileId).zip payloads).foldl (placeFile 0) { output, fat }
  let (output, arm7Off) := place fs.output 0 rom.arm7
  let (output, arm7OvtOff) :=
    if rom.arm7OverlayTable.isEmpty then (output, 0) else place output 0 rom.arm7OverlayTable
  let (output, fntOff) := place output 0 rom.fnt
  let (output, fatOff) := place output 0 (List.replicate (u32 (fs.fat.length * 8)) 0)
  let (output, bannerOff) := place output 0 rom.banner
  let fs := (plainFiles rom).foldl (placeFile 0xff) { output, fat := fs.fat }
  return {
    output := fs.output
    arm9
    arm9Off
    arm9Size := u32 compressedArm9.length
    arm9OvtOff
    overlayTable
    fat := fs.fat
    arm7Off
    arm7OvtOff
    fntOff
    fatOff
    bannerOff }

/-- The entries of the allocation table, in the order in which they are written. -/
def fatWrites (layout : Layout) : List (Nat × Nat) :=
  layout.fat.zipIdx.flatMap fun entry =>
    [(layout.fatOff + entry.2 * 8, entry.1.1), (layout.fatOff + entry.2 * 8 + 4, entry.1.2)]

/-- The words of the header that `save` writes, in its order. -/
def headerWrites (rom : RomImage) (layout : Layout) : List (Nat × Nat) :=
  [(0x20, u32 layout.arm9Off), (0x24, rom.arm9Entry), (0x28, rom.arm9Ram), (0x2c, layout.arm9Size),
    (0x30, u32 layout.arm7Off), (0x34, rom.arm7Entry), (0x38, rom.arm7Ram),
    (0x3c, u32 rom.arm7.length), (0x40, u32 layout.fntOff), (0x44, u32 rom.fnt.length),
    (0x48, u32 layout.fatOff), (0x4c, u32 (layout.fat.length * 8)), (0x50, u32 layout.arm9OvtOff),
    (0x54, u32 layout.overlayTable.length), (0x58, u32 layout.arm7OvtOff),
    (0x5c, u32 rom.arm7OverlayTable.length), (0x60, rom.arm9AutoloadCallback),
    (0x64, rom.arm7AutoloadCallback), (0x68, u32 layout.bannerOff),
    (0x70, rom.arm9CodeSettingsPointer), (0x80, u32 layout.output.length)]

/-- `usize::next_power_of_two`. -/
def nextPowerOfTwo (n : Nat) : Nat := if n ≤ 1 then 1 else 2 ^ (Nat.log2 (n - 1) + 1)

/-- The length of the file: a power of two that is at least that of the ROM that was loaded. -/
def paddedLen (rom : RomImage) (layout : Layout) : Nat :=
  max (nextPowerOfTwo layout.output.length) (nextPowerOfTwo rom.originalLen)

/-- The second half of `RomImage::save`: padding, the allocation table, the header and its
checksum. -/
def finish (tools : Tools) (rom : RomImage) (layout : Layout) : Except RomError (List UInt8) := do
  let output := layout.output ++
    List.replicate (paddedLen rom layout - layout.output.length) 0xff
  let output ← (fatWrites layout).foldlM
    (fun output write => writeU32 output write.1 write.2) output
  let output := writeAt output 0 rom.header
  let output ← (headerWrites rom layout).foldlM
    (fun output write => writeU32 output write.1 write.2) output
  writeU16 output 0x15e (tools.checksum (output.take 0x15e))

/-- `RomImage::save`: the bytes of the file. -/
def save (tools : Tools) (rom : RomImage) : Except RomError (List UInt8) := do
  let layout ← layout tools rom
  finish tools rom layout

end Bigstar.Rom
