import Bigstar.Lib.OrderedMap

/-!
# The checkpoint store

`NsmbRollbackStore.cpp`: checkpoints by frame, the main RAM kept beside the newest one (the frame
shadow), and the chains of deltas and preimages that lead from there to a checkpoint that is to be
restored. The contents of a savestate are of an arbitrary type `β`; the byte counts that `Put` hands
to the statistics are left out.
-/

namespace Bigstar.Netplay.RollbackStorage

open OrderedMap

/-- The frame number that stands for no frame. -/
def kNoFrame : Nat := 0

/-- A checkpoint. -/
structure StoredState (β : Type) where
  /-- The savestate; empty until it has been written. -/
  buffer : Option β := none
  /-- A copy of main RAM, kept with a keyframe. -/
  mainRAMCopy : List UInt8 := []
  /-- The pages that have changed since the base. -/
  mainRAMPreimagePages : List Nat := []
  /-- What these pages held before, one after the other. -/
  mainRAMPreimage : List UInt8 := []
  /-- The frame that the game counts. -/
  gameFrame : Nat := kNoFrame
  /-- The frame of the checkpoint that this one is encoded against. -/
  baseFrame : Nat := kNoFrame
  /-- Main RAM is a delta of the base. -/
  mainRAMDelta : Bool := false
  /-- The preimages lead back to the base. -/
  mainRAMFramePreimage : Bool := false
  deriving DecidableEq

/-- What a new checkpoint is encoded against. -/
inductive DeltaMode where
  /-- Nothing. -/
  | none
  /-- The last keyframe. -/
  | keyframeDelta
  /-- The checkpoint before, but for keyframes. -/
  | frameDelta
  /-- The checkpoint before, which is encoded instead. -/
  | preimage
  deriving DecidableEq

/-- Every frame of the interval, and the first one. -/
def shouldSaveCheckpoint (frame : Nat) (interval : Int) (netplayStartFrame : Nat) : Bool :=
  if interval ≤ 1 then true
  else if netplayStartFrame ≠ kNoFrame ∧ frame = netplayStartFrame then true
  else frame % interval.toNat == 0

/-- Not more than `maxResimFrames` frames are replayed. -/
def clampResimulationMismatch (mismatchFrame currentFrame : Nat) (maxResimFrames : Int) : Nat :=
  if maxResimFrames ≤ 0 ∨ mismatchFrame ≥ currentFrame then mismatchFrame
  else
    let maximum := maxResimFrames.toNat
    if currentFrame - mismatchFrame > maximum then currentFrame - maximum else mismatchFrame

/-- The sum is taken in 32 bits. -/
def isResimulationDelayElapsed (currentFrame : Nat) (observedFrame : Option Nat)
    (delayFrames : Int) : Bool :=
  if delayFrames ≤ 0 then true
  else
    match observedFrame with
    | none => true
    | some observedFrame => currentFrame ≥ (observedFrame + delayFrames.toNat) % 2 ^ 32

/-- A replay renews the checkpoints before the current frame. -/
def shouldSaveResimulationCheckpoint (completedFrame currentFrame : Nat) (skipIntermediate : Bool) :
    Bool :=
  completedFrame < currentFrame && !skipIntermediate

/-- `RollbackStore`. -/
structure Store (β : Type) where
  /-- The checkpoints by frame. -/
  states : NatMap (StoredState β) := ∅
  /-- The main RAM of the newest checkpoint. -/
  frameShadowMainRAM : List UInt8 := []
  /-- Its frame. -/
  frameShadowFrame : Nat := kNoFrame

namespace Store

variable {β : Type}

/-- Keeps a checkpoint. -/
def put (s : Store β) (frame : Nat) (checkpoint : StoredState β) : Store β :=
  { s with states := s.states.insert frame checkpoint }
/-- The newest checkpoint that is not after the frame. -/
def latestAtOrBefore (s : Store β) (frame : Nat) : Option (Nat × StoredState β) :=
  s.states.entryAtOrBefore frame

/-- Drops the checkpoints after a frame. -/
def eraseAfter (s : Store β) (frame : Nat) : Store β :=
  { s with states := s.states.eraseAfter frame }

/-! ## Pruning -/

/-- The loop of `markRequiredChain`: follows the delta bases from `cursor` on. -/
def markChainLoop (states : NatMap (StoredState β)) :
    Nat → List Nat → StoredState β → List Nat
  | 0, requiredFrames, _ => requiredFrames
  | depth + 1, requiredFrames, cursor =>
    if !cursor.mainRAMDelta || cursor.baseFrame == kNoFrame then requiredFrames
    else if requiredFrames.contains cursor.baseFrame then requiredFrames
    else
      let requiredFrames := cursor.baseFrame :: requiredFrames
      match states[cursor.baseFrame]? with
      | none => requiredFrames
      | some base => markChainLoop states depth requiredFrames base

/-- Adds a frame, and all that its checkpoint is a delta of. -/
def markRequiredChain (states : NatMap (StoredState β)) (requiredFrames : List Nat)
    (startFrame : Nat) : List Nat :=
  match states[startFrame]? with
  | none => requiredFrames
  | some start => markChainLoop states states.size (startFrame :: requiredFrames) start

/-- The first frame of the window. -/
def keepFrom (currentFrame window : Nat) : Nat :=
  if currentFrame > window then currentFrame - window else 0

/-- The frames that the checkpoints of the window and the frame shadow are restored through. -/
def requiredFrames (s : Store β) (keepFrom : Nat) : List Nat :=
  let required :=
    (s.states.keys.filter fun storedFrame => keepFrom ≤ storedFrame).foldl
      (markRequiredChain s.states) []
  if s.frameShadowFrame ≠ kNoFrame then markRequiredChain s.states required s.frameShadowFrame
  else required

/-- Drops what is before the window and not required. -/
def prune (s : Store β) (currentFrame window : Nat) : Store β :=
  let keepFrom := keepFrom currentFrame window
  let required := s.requiredFrames keepFrom
  { s with states := s.states.filter fun frame _ =>
      !(decide (frame < keepFrom) && !required.contains frame) }

/-! ## Saving -/

/-- There is a frame shadow, and its checkpoint is still there. -/
def hasUsableFrameShadow (s : Store β) : Bool :=
  s.frameShadowFrame != kNoFrame && !s.frameShadowMainRAM.isEmpty
    && s.states[s.frameShadowFrame]?.isSome

/-- The newest checkpoint at or before a frame that holds a full copy of main RAM. -/
def latestKeyframe (s : Store β) (frame : Nat) : Option (Nat × StoredState β) :=
  (s.states.eraseAfter frame).toList.reverse.find? fun state =>
    !state.2.mainRAMDelta && !state.2.mainRAMCopy.isEmpty

/-- The header of a checkpoint to be written, and the main RAM that it is encoded against. -/
def prepareSave (s : Store β) (frame : Nat) (mode : DeltaMode) (keyframeInterval : Nat)
    (netplayStartFrame : Nat) : StoredState β × List UInt8 :=
  let forceKeyframe :=
    keyframeInterval ≤ 1 || s.states.isEmpty || frame % keyframeInterval == 0
      || (netplayStartFrame != 0 && frame == netplayStartFrame)
  match mode with
  | .none => ({}, [])
  | .preimage =>
    if s.hasUsableFrameShadow then
      ({ mainRAMFramePreimage := true, baseFrame := s.frameShadowFrame }, s.frameShadowMainRAM)
    else ({}, [])
  | .frameDelta =>
    if !forceKeyframe && s.hasUsableFrameShadow then
      ({ mainRAMDelta := true, baseFrame := s.frameShadowFrame }, s.frameShadowMainRAM)
    else ({}, [])
  | .keyframeDelta =>
    if forceKeyframe then ({}, [])
    else
      match s.latestKeyframe frame with
      | some state => ({ mainRAMDelta := true, baseFrame := state.1 }, state.2.mainRAMCopy)
      | none => ({}, [])

/-- An empty main RAM means that there is none. -/
def updateFrameShadow (s : Store β) (frame : Nat) (mainRAM : List UInt8) : Store β :=
  if mainRAM.isEmpty then { s with frameShadowMainRAM := [], frameShadowFrame := kNoFrame }
  else { s with frameShadowMainRAM := mainRAM, frameShadowFrame := frame }

/-! ## Restoring -/

/-- The loop of `BuildRestoreChain`, which collects the chain from the checkpoint to its
keyframe. -/
def restoreChainLoop (states : NatMap (StoredState β)) :
    Nat → StoredState β → List (StoredState β) → Option (List (StoredState β))
  | 0, _, _ => none
  | depth + 1, state, chain =>
    let chain := state :: chain
    if !state.mainRAMDelta then some chain
    else
      match states[state.baseFrame]? with
      | none => none
      | some base => restoreChainLoop states depth base chain

/-- The checkpoints to load for a frame, keyframe first. -/
def buildRestoreChain (s : Store β) (frame : Nat) : Option (List (StoredState β)) :=
  match s.states[frame]? with
  | none => none
  | some state => restoreChainLoop s.states (s.states.size + 1) state []

/-- The loop of `BuildPreimageRestore`: walks back from the frame shadow to `frame`, collecting the
checkpoints whose preimages undo the frames in between. -/
def preimageLoop (states : NatMap (StoredState β)) (frame : Nat) :
    Nat → Nat → Option (Nat × List (StoredState β))
  | 0, cursorFrame => some (cursorFrame, [])
  | depth + 1, cursorFrame =>
    if cursorFrame > frame then
      match states[cursorFrame]? with
      | none => none
      | some state =>
        if !state.mainRAMFramePreimage || state.baseFrame == kNoFrame
            || decide (state.baseFrame ≥ cursorFrame) then none
        else
          match preimageLoop states frame depth state.baseFrame with
          | none => none
          | some (last, reverseStates) => some (last, state :: reverseStates)
    else some (cursorFrame, [])

/-- The checkpoints whose preimages lead from the frame shadow back to a frame, newest first. -/
def buildPreimageRestore (s : Store β) (frame : Nat) :
    Option (List (StoredState β) × List UInt8) :=
  if s.frameShadowFrame = kNoFrame ∨ s.frameShadowFrame < frame ∨ s.frameShadowMainRAM.isEmpty then
    none
  else
    match preimageLoop s.states frame (s.states.size + 1) s.frameShadowFrame with
    | none => none
    | some (cursorFrame, reverseStates) =>
      if cursorFrame = frame then some (reverseStates, s.frameShadowMainRAM) else none

end Store

end Bigstar.Netplay.RollbackStorage
