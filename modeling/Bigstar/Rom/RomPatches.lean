import Bigstar.Rom.RomImage

/-!
# What a patch does to the memory of the console

The console loads the sections of the ARM9 binary and the overlays to their addresses: that is what
an address of a patch means.
-/

namespace Bigstar.Rom

open LittleEndian Pages

/-- The image after some patches, whether they succeed or not. -/
def RomImage.applyPatches (rom : RomImage) (patches : List Patch) : RomImage :=
  patches.foldl (fun rom p => (rom.applyPatch p).1) rom

/-! ## The memory of the console -/

/-- What is loaded to addresses of its own: a section of the ARM9 binary, or an overlay, by its
index. -/
inductive Place where
  /-- A section of the ARM9 binary. -/
  | arm9 (index : Nat)
  /-- An overlay. -/
  | overlay (index : Nat)
  deriving DecidableEq

/-- The byte that the console loads from the place to the address. -/
def RomImage.loadedByte (rom : RomImage) (place : Place) (addr : Nat) : Option UInt8 :=
  match place with
  | .arm9 index =>
    rom.arm9Sections[index]?.bind fun s =>
      if s.ramAddr ≤ addr ∧ addr < s.ramAddr + s.size then
        rom.arm9[s.fileOff + (addr - s.ramAddr)]? else none
  | .overlay index =>
    rom.overlays[index]?.bind fun overlay =>
      if overlay.baseAddr ≤ addr then overlay.data[addr - overlay.baseAddr]? else none

/-- The section or overlay that a patch goes through. -/
def RomImage.target (rom : RomImage) : Patch → Option Place
  | .arm9Words addr _ =>
    (rom.arm9Sections.findIdx? fun s => inRange addr s.ramAddr s.size).map .arm9
  | .overlayWords addr _ => (overlayIndexForAddr rom.overlays addr).map .overlay
  | .overlayWordsById id _ _ => (rom.overlays.findIdx? fun overlay => overlay.id = id).map .overlay

/-- The bytes from the address on are replaced by those of the patch, and nothing else is. -/
structure ChangesExactly (rom rom' : RomImage) (place : Place) (addr : Nat)
    (bytes old : List UInt8) : Prop where
  /-- The bytes are there. -/
  written : ∀ k, k < bytes.length → rom'.loadedByte place (addr + k) = bytes[k]?
  /-- As many bytes are returned, -/
  length_old : old.length = bytes.length
  /-- and they are what was there before. -/
  returned : ∀ k, k < bytes.length → rom.loadedByte place (addr + k) = old[k]?
  /-- Every other byte is what it was. -/
  others : ∀ place' a, (place' = place → a < addr ∨ addr + bytes.length ≤ a) →
    rom'.loadedByte place' a = rom.loadedByte place' a
  /-- Only the bytes of the ARM9 binary and of the overlays may differ: no file does, nor any
  table. -/
  rest : rom' = { rom with arm9 := rom'.arm9, overlays := rom'.overlays }
  /-- So is everything but the code. -/
  headers : rom'.overlays.map (fun overlay => { overlay with data := [] })
    = rom.overlays.map fun overlay => { overlay with data := [] }

/-- The words of a patch of the ARM9 binary end within the section that holds their address. -/
def WithinSection (rom : RomImage) : Patch → Prop
  | .arm9Words addr words =>
    ∀ s, (rom.arm9Sections.find? fun s => inRange addr s.ramAddr s.size) = some s →
      addr + words.length * 4 ≤ s.ramAddr + s.size
  | .overlayWords _ _ => True
  | .overlayWordsById _ _ _ => True

/-- Every section begins in the binary where the one before it ends. -/
def Contiguous : Nat → List Arm9Section → Prop
  | _, [] => True
  | off, s :: sections => s.fileOff = off ∧ Contiguous (off + s.size) sections

end Bigstar.Rom
