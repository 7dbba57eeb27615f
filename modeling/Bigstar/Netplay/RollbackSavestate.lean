import Bigstar.Lib.LittleEndian
import Bigstar.Lib.Pages
import Bigstar.Netplay.RollbackStore

/-!
# Main RAM in a rollback savestate

The part of `NDS::DoRollbackSavestate` that saves or loads main RAM, in the four modes of
`NsmbRollbackRuntime.cpp`, and the restore functions that load a chain of such savestates. The same
function saves and loads, depending on the savestate that it is given. What a savestate holds before
and after main RAM is not interpreted: main RAM starts at a fixed offset, behind the header of the
savestate, that of its section and the configuration word.
-/

namespace Bigstar.Netplay.RollbackSavestate

open LittleEndian RollbackStorage

/-- `Savestate`: while saving, the buffer ends at the offset and grows as needed. -/
structure Savestate where
  /-- The state is written, not read. -/
  saving : Bool
  /-- Something went wrong. -/
  error : Bool := false
  /-- The bytes. -/
  buffer : List UInt8 := []
  /-- How far they have been read. -/
  offset : Nat := 0

namespace Savestate

/-- Saves `data`, or loads as many bytes into its place. -/
def varArray (file : Savestate) (data : List UInt8) : Savestate × List UInt8 :=
  if file.error then (file, data)
  else if file.saving then
    ({ file with buffer := file.buffer ++ data, offset := file.offset + data.length }, data)
  else if file.offset + data.length > file.buffer.length then ({ file with error := true }, data)
  else
    ({ file with offset := file.offset + data.length },
      (file.buffer.drop file.offset).take data.length)

/-- A word is written, or read. -/
def var32 (file : Savestate) (value : Nat) : Savestate × Nat :=
  let (file, bytes) := file.varArray (toBytes 4 value)
  (file, ofBytes bytes)

end Savestate

/-- All of main RAM follows. -/
def kMainRAMModeFull : Nat := 0
/-- The pages that are not zero follow. -/
def kMainRAMModeSparse : Nat := 1
/-- The pages that differ from the base follow. -/
def kMainRAMModeDelta : Nat := 2
/-- Nothing follows. -/
def kMainRAMModeSkip : Nat := 3

/-- The largest main RAM of any console. -/
def MainRAMMaxSize : Nat := 0x1000000

/-- The length of a page is a power of two from 256 to 4096. -/
def badPageSize (pageSize : Nat) : Bool :=
  pageSize < 256 || pageSize > 4096 || pageSize &&& (pageSize - 1) != 0

/-- The bytes of one page; the last page may be shorter. -/
def pageBytes (mainRAM : List UInt8) (pageSize page : Nat) : List UInt8 :=
  let offset := page * pageSize
  let len := min pageSize (mainRAM.length - offset)
  (mainRAM.drop offset).take len

/-- Whether a page is saved: in sparse mode if it is not zero, in delta mode if it is not that of
the base. -/
def savesPage (mainRAMMode : Nat) (mainRAM base : List UInt8) (pageSize page : Nat) : Bool :=
  if mainRAMMode = kMainRAMModeSparse then
    (pageBytes mainRAM pageSize page).any fun byte => byte != 0
  else
    let offset := page * pageSize
    let len := min pageSize (mainRAM.length - offset)
    (mainRAM.drop offset).take len != (base.drop offset).take len

/-- The loop that saves the pages. -/
def savePages (file : Savestate) (mainRAMMode : Nat) (mainRAM base : List UInt8)
    (pageSize pageCount : Nat) : Savestate :=
  (List.range pageCount).foldl
    (fun file page =>
      if savesPage mainRAMMode mainRAM base pageSize page then
        ((file.var32 page).1.varArray (pageBytes mainRAM pageSize page)).1
      else file)
    file

/-- The loop that loads as many pages as were saved. -/
def loadPages (pageSize pageCount : Nat) :
    Nat → Savestate → List UInt8 → Savestate × List UInt8 × Bool
  | 0, file, mainRAM => (file, mainRAM, true)
  | savedPageCount + 1, file, mainRAM =>
    let (file, page) := file.var32 0
    if page ≥ pageCount then (file, mainRAM, false)
    else
      let (file, data) := file.varArray (pageBytes mainRAM pageSize page)
      loadPages pageSize pageCount savedPageCount file
        (Pages.writeAt mainRAM (page * pageSize) data)

/-- The modes that save some of the pages. -/
def doPages (file : Savestate) (mainRAM : List UInt8) (mainRAMMode : Nat)
    (deltaBaseMainRAM : Option (List UInt8)) (mainRAMPageSize : Nat) :
    Savestate × List UInt8 × Bool :=
  let pageSize := if badPageSize mainRAMPageSize then 4096 else mainRAMPageSize
  let pageCount := Pages.pageCount pageSize mainRAM.length
  if mainRAMMode = kMainRAMModeDelta ∧ deltaBaseMainRAM = none then (file, mainRAM, false)
  else
    let base := deltaBaseMainRAM.getD []
    let savedPageCount :=
      if file.saving then
        ((List.range pageCount).filter (savesPage mainRAMMode mainRAM base pageSize)).length
      else 0
    let (file, storedPageSize) := file.var32 pageSize
    let (file, storedPageCount) := file.var32 pageCount
    let (file, savedPageCount) := file.var32 savedPageCount
    let pageSize := if file.saving then pageSize else storedPageSize
    let pageCount :=
      if file.saving then pageCount
      else if pageSize = 0 then 0
      else Pages.pageCount pageSize mainRAM.length
    if badPageSize storedPageSize ∨ storedPageCount ≠ pageCount then (file, mainRAM, false)
    else if file.saving then
      (savePages file mainRAMMode mainRAM base pageSize pageCount, mainRAM, true)
    else
      let mainRAM :=
        if mainRAMMode = kMainRAMModeSparse then List.replicate mainRAM.length 0
        else base.take mainRAM.length
      loadPages pageSize pageCount savedPageCount file mainRAM

/-- Main RAM in `NDS::DoRollbackSavestate`: the savestate and main RAM afterwards, and whether the
function goes on to the rest of the state. -/
def doMainRAM (file : Savestate) (mainRAM : List UInt8) (requestedMainRAMMode : Nat)
    (deltaBaseMainRAM : Option (List UInt8)) (mainRAMPageSize : Nat) :
    Savestate × List UInt8 × Bool :=
  let (file, mainRAMLength) := file.var32 mainRAM.length
  if mainRAMLength = 0 ∨ mainRAMLength > MainRAMMaxSize ∨ mainRAMLength ≠ mainRAM.length then
    (file, mainRAM, false)
  else
    let (file, mainRAMMode) := file.var32 requestedMainRAMMode
    if mainRAMMode = kMainRAMModeFull then
      let (file, mainRAM) := file.varArray mainRAM
      (file, mainRAM, true)
    else if mainRAMMode = kMainRAMModeSkip then (file, mainRAM, true)
    else if mainRAMMode = kMainRAMModeSparse ∨ mainRAMMode = kMainRAMModeDelta then
      doPages file mainRAM mainRAMMode deltaBaseMainRAM mainRAMPageSize
    else (file, mainRAM, false)

/-! ## Checkpoints -/

/-- `SaveCheckpointBuffer`, with what the savestate holds before and after main RAM. -/
def saveCheckpointBuffer (head tail mainRAM : List UInt8) (mainRAMMode : Nat)
    (deltaBaseMainRAM : Option (List UInt8)) (mainRAMPageSize : Nat) : Option (List UInt8) :=
  let (file, _, saved) :=
    doMainRAM { saving := true, buffer := head, offset := head.length } mainRAM mainRAMMode
      deltaBaseMainRAM mainRAMPageSize
  if file.error || !saved then none else some (file.buffer ++ tail)

/-- `RestoreCheckpointBuffer`, for savestates whose main RAM starts at `start`. -/
def restoreCheckpointBuffer (start mainRAMPageSize : Nat) (buffer mainRAM : List UInt8)
    (deltaBaseMainRAM : Option (List UInt8)) : Option (List UInt8) :=
  let (file, mainRAM, restored) :=
    doMainRAM { saving := false, buffer, offset := start } mainRAM kMainRAMModeFull deltaBaseMainRAM
      mainRAMPageSize
  if file.error || !restored then none else some mainRAM

/-- `RestoreStoredStates`: each delta is loaded over the main RAM that the checkpoint before it
left. -/
def restoreStoredStates (start mainRAMPageSize : Nat) (mainRAM : List UInt8) :
    List (StoredState (List UInt8)) → Option (List UInt8)
  | [] => none
  | front :: deltas =>
    if front.mainRAMDelta then none
    else do
      let mainRAM ← restoreCheckpointBuffer start mainRAMPageSize
        (front.buffer.getD []) mainRAM none
      deltas.foldlM
        (fun mainRAM delta =>
          if !delta.mainRAMDelta then none
          else
            restoreCheckpointBuffer start mainRAMPageSize
              (delta.buffer.getD []) mainRAM (some mainRAM))
        mainRAM

end Bigstar.Netplay.RollbackSavestate
