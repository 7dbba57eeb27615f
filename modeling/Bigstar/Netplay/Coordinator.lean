import Bigstar.Lib.Monitor
import Mathlib.Algebra.Ring.Nat

/-!
# The coordinator of the instances in one process

`NsmbNetplayCoordinator.cpp`: several emulator instances, each on a thread of its own, meet at
barriers, take turns and start together. All operations of `Runtime` hold one mutex and wait on one
condition variable. The thread of instance `i` has number `i`, and passes its own number wherever an
operation takes an instance.
-/

namespace Bigstar.Netplay.Coordination

open Monitor

/-- The most instances of the emulator in one process. -/
def kMaxInstances : Nat := 16

/-- At least one instance, and not more than there can be. -/
def clampInstanceCount (instanceCount : Int) : Nat :=
  (max 1 (min instanceCount kMaxInstances)).toNat

/-- The id of an instance that there can be. -/
def isValidInstance (instanceID : Nat) : Bool := instanceID < kMaxInstances

/-- The places of a frame at which the instances wait for one another. -/
inductive FrameBarrierKind where
  /-- Before the frame is run. -/
  | before
  /-- After the frame is run. -/
  | after
  /-- In the loop of netplay. -/
  | netplay
  deriving DecidableEq

/-- How the wait for the start of netplay has ended. -/
inductive NetplayStartWaitResult where
  /-- The start had been completed before. -/
  | alreadyComplete
  /-- All have arrived, and this instance goes on to complete the start. -/
  | localLeader
  /-- The leader has completed the start. -/
  | peerComplete
  /-- The wait has taken too long, or the instance has no valid id. -/
  | timedOut
  deriving DecidableEq

/-- A barrier for all instances. -/
structure FrameBarrier where
  /-- The instances that have arrived. -/
  waiting : Nat → Bool := fun _ => false
  /-- The frame with which each of them has arrived. -/
  frame : Nat → Nat := fun _ => 0
  /-- How often the barrier has been released. -/
  generation : Nat := 0

namespace FrameBarrier

/-- All instances have arrived with the same frame. -/
def allArrived (barrier : FrameBarrier) (frame instanceCount : Nat) : Bool :=
  (List.range instanceCount).all fun i => barrier.waiting i && barrier.frame i == frame

/-- The barrier is emptied for the next round. -/
def release (barrier : FrameBarrier) (instanceCount : Nat) : FrameBarrier :=
  { barrier with
    waiting := fun i => if i < instanceCount then false else barrier.waiting i
    generation := barrier.generation + 1 }

end FrameBarrier

/-- What the mutex of the coordinator protects. -/
structure Impl where
  /-- The instances that wait for the start of netplay. -/
  netplayStartArrived : Nat → Bool := fun _ => false
  /-- The leader has completed the start. -/
  netplayStartComplete : Bool := false
  /-- The instances that exchange inputs. -/
  netplayLockstepStarted : Nat → Bool := fun _ => false
  /-- Some instance has exchanged inputs since the last reset. -/
  netplayAnyLockstepStarted : Bool := false
  /-- The frame that each instance has reached. -/
  testFrame : Nat → Nat := fun _ => 0
  /-- One barrier for each place. -/
  frameBarriers : FrameBarrierKind → FrameBarrier := fun _ => {}
  /-- The frame that is run in turn. -/
  serialFrame : Nat := 0
  /-- The instance whose turn it is. -/
  serialInstance : Nat := 0
  /-- The instances that have saved their state. -/
  stateSaved : Nat → Bool := fun _ => false
  /-- The instances that have loaded their state. -/
  stateLoaded : Nat → Bool := fun _ => false
  /-- Some instance saves the state of the local network. -/
  localMPSaved : Bool := false
  /-- Some instance loads the state of the local network. -/
  localMPLoadStarted : Bool := false
  /-- That load is over. -/
  localMPLoadFinished : Bool := false
  /-- It has succeeded. -/
  localMPLoaded : Bool := false

/-- What a thread that waits will look at again when it goes on. -/
inductive Wait where
  /-- The leader waits until all have arrived. -/
  | netplayStartLeader (instanceCount : Nat) (timeoutMs : Int)
  /-- A peer waits until the leader has completed the start. -/
  | netplayStartPeer (timeoutMs : Int)
  /-- An instance waits until the barrier is released. -/
  | frameBarrier (kind : FrameBarrierKind) (frame generation instanceCount : Nat) (timeoutMs : Int)
  /-- An instance waits for its turn. -/
  | serialTurn (frame : Nat) (timeoutMs : Int)
  deriving DecidableEq

/-- What the operations return. -/
inductive Result where
  /-- `void`. -/
  | done
  /-- `bool`. -/
  | flag (value : Bool)
  /-- A frame number. -/
  | frame (value : Nat)
  /-- The result of the wait for the start. -/
  | start (value : NetplayStartWaitResult)
  /-- Whether the load of the local network is over, and whether it has succeeded. -/
  | loadStatus (finished loaded : Bool)
  deriving DecidableEq

/-- The operations, without the id of the instance that calls them. -/
inductive Call where
  /-- A new start is to be waited for. -/
  | resetNetplayStartWait
  /-- Waits until all instances have come to the start. -/
  | waitForNetplayStart (localInstance : Nat) (instanceCount : Int) (timeoutMs : Int)
  /-- The leader lets the others go. -/
  | completeNetplayStartWait
  /-- Asks whether the instance exchanges inputs. -/
  | isNetplayLockstepStarted
  /-- Asks whether the first remote input is still missing. -/
  | needsInitialRemoteInput (remoteInputAvailable : Bool)
  /-- The instance exchanges inputs from now on. -/
  | markNetplayLockstepStarted
  /-- The instance does not exchange inputs any more. -/
  | resetNetplayLockstep
  /-- Asks for the test frame of the instance. -/
  | testFrame
  /-- The instance has run a test frame. -/
  | advanceTestFrame
  /-- Asks whether all instances have reached a frame. -/
  | allTestFramesReached (instanceCount : Int) (target : Nat)
  /-- Waits at a barrier until all instances are there. -/
  | waitAtFrameBarrier (kind : FrameBarrierKind) (frame : Nat)
    (instanceCount : Int) (timeoutMs : Int)
  /-- Waits until it is the turn of the instance. -/
  | waitForSerialTurn (frame : Nat) (instanceCount : Int) (timeoutMs : Int)
  /-- Hands the turn to the next instance. -/
  | advanceSerialTurn (frame : Nat) (instanceCount : Int)
  /-- Asks whether the instance has saved its state. -/
  | isStateSaved
  /-- The instance has saved its state. -/
  | markStateSaved
  /-- Asks whether all instances have. -/
  | allStatesSaved (instanceCount : Int)
  /-- Asks for the permission to save, which the first caller gets once all states are saved. -/
  | tryBeginLocalMPSave (instanceCount : Int)
  /-- Asks whether the instance has loaded its state. -/
  | isStateLoaded
  /-- The instance has loaded its state. -/
  | markStateLoaded
  /-- Asks whether all instances have. -/
  | allStatesLoaded (instanceCount : Int)
  /-- Asks for the permission to load, which the first caller gets. -/
  | tryBeginLocalMPLoad
  /-- That load has ended. -/
  | finishLocalMPLoad (loaded : Bool)
  /-- Asks how it has ended. -/
  | localMPLoadStatus
  deriving DecidableEq

namespace Impl

/-- The section of an operation that neither waits nor notifies. -/
def returns (s : Impl) (result : Result) : Section Impl Wait Result :=
  { shared := s, outcome := .returns result }

/-- The call ends here, and all waiting threads are notified. -/
def returnsNotifying (s : Impl) (result : Result) : Section Impl Wait Result :=
  { shared := s, notifyAll := true, outcome := .returns result }

/-- The call waits. -/
def sleeps (s : Impl) (wait : Wait) : Section Impl Wait Result :=
  { shared := s, outcome := .sleeps wait }

/-! ## The start of netplay -/

/-- A new start of netplay is to be waited for. -/
def resetNetplayStartWait (s : Impl) : Section Impl Wait Result :=
  { s with netplayStartArrived := fun _ => false, netplayStartComplete := false }.returnsNotifying
    .done

/-- All instances wait for the start. -/
def allStartArrived (s : Impl) (instanceCount : Nat) : Bool :=
  (List.range instanceCount).all s.netplayStartArrived

/-- The instance of the local player leads; the others wait for it. -/
def waitForNetplayStart (s : Impl) (instanceID localInstance : Nat)
    (instanceCount timeoutMs : Int) :
    Section Impl Wait Result :=
  if !isValidInstance instanceID then s.returns (.start .timedOut)
  else
    let instanceCount := clampInstanceCount instanceCount
    if s.netplayStartComplete then s.returns (.start .alreadyComplete)
    else
      let s :=
        { s with netplayStartArrived := Function.update s.netplayStartArrived instanceID true }
      if instanceID = localInstance then
        if s.allStartArrived instanceCount then s.returnsNotifying (.start .localLeader)
        else { s.sleeps (.netplayStartLeader instanceCount timeoutMs) with notifyAll := true }
      else { s.sleeps (.netplayStartPeer timeoutMs) with notifyAll := true }

/-- The leader lets the others go on. -/
def completeNetplayStartWait (s : Impl) : Section Impl Wait Result :=
  { s with netplayStartComplete := true }.returnsNotifying .done

/-! ## Bookkeeping -/

/-- Whether the instance exchanges inputs. -/
def isNetplayLockstepStarted (s : Impl) (instanceID : Nat) : Section Impl Wait Result :=
  s.returns (.flag (isValidInstance instanceID && s.netplayLockstepStarted instanceID))

/-- Whether the first remote input is still to be waited for. -/
def needsInitialRemoteInput (s : Impl) (remoteInputAvailable : Bool) : Section Impl Wait Result :=
  s.returns (.flag (!s.netplayAnyLockstepStarted && !remoteInputAvailable))

/-- The instance exchanges inputs from now on. -/
def markNetplayLockstepStarted (s : Impl) (instanceID : Nat) : Section Impl Wait Result :=
  if !isValidInstance instanceID then s.returns .done
  else
    { s with
      netplayLockstepStarted := Function.update s.netplayLockstepStarted instanceID true
      netplayAnyLockstepStarted := true }.returns .done

/-- The instance does not exchange inputs any more. -/
def resetNetplayLockstep (s : Impl) (instanceID : Nat) : Section Impl Wait Result :=
  if !isValidInstance instanceID then s.returns .done
  else
    { s with
      netplayLockstepStarted := Function.update s.netplayLockstepStarted instanceID false
      netplayAnyLockstepStarted := false }.returns .done

/-- `TestFrame`. -/
def readTestFrame (s : Impl) (instanceID : Nat) : Section Impl Wait Result :=
  if !isValidInstance instanceID then s.returns (.frame 0)
  else s.returns (.frame (s.testFrame instanceID))

/-- The instance has completed a frame; the new number is returned. -/
def advanceTestFrame (s : Impl) (instanceID : Nat) : Section Impl Wait Result :=
  if !isValidInstance instanceID then s.returns (.frame 0)
  else
    let next := (s.testFrame instanceID + 1) % 2 ^ 32
    { s with testFrame := Function.update s.testFrame instanceID next }.returns (.frame next)

/-- All instances have reached a frame. -/
def allTestFramesReached (s : Impl) (instanceCount : Int) (target : Nat) :
    Section Impl Wait Result :=
  s.returns (.flag ((List.range (clampInstanceCount instanceCount)).all fun i =>
    !decide (s.testFrame i < target)))

/-! ## Frame barriers -/

/-- One barrier changes. -/
def setFrameBarrier (s : Impl) (kind : FrameBarrierKind) (barrier : FrameBarrier) : Impl :=
  { s with frameBarriers := Function.update s.frameBarriers kind barrier }

/-- `Release`, and the return that follows. -/
def releaseFrameBarrier (s : Impl) (kind : FrameBarrierKind) (instanceCount : Nat) :
    Section Impl Wait Result :=
  (s.setFrameBarrier kind ((s.frameBarriers kind).release instanceCount)).returnsNotifying
    (.flag true)

/-- The last instance to arrive releases the barrier, and the others wait. -/
def waitAtFrameBarrier (s : Impl) (kind : FrameBarrierKind) (instanceID frame : Nat)
    (instanceCount timeoutMs : Int) : Section Impl Wait Result :=
  let instanceCount := clampInstanceCount instanceCount
  if !isValidInstance instanceID || decide (instanceID ≥ instanceCount) then s.returns (.flag true)
  else
    let barrier := s.frameBarriers kind
    let generation := barrier.generation
    let barrier := { barrier with
      waiting := Function.update barrier.waiting instanceID true
      frame := Function.update barrier.frame instanceID frame }
    let s := s.setFrameBarrier kind barrier
    if barrier.allArrived frame instanceCount then s.releaseFrameBarrier kind instanceCount
    else s.sleeps (.frameBarrier kind frame generation instanceCount timeoutMs)

/-! ## Serial turns -/

/-- An instance waits until its turn of the frame comes. -/
def waitForSerialTurn (s : Impl) (instanceID frame : Nat) (instanceCount timeoutMs : Int) :
    Section Impl Wait Result :=
  let instanceCount := clampInstanceCount instanceCount
  if !isValidInstance instanceID || decide (instanceID ≥ instanceCount) then s.returns (.flag true)
  else if s.serialFrame = frame ∧ s.serialInstance = instanceID then s.returns (.flag true)
  else s.sleeps (.serialTurn frame timeoutMs)

/-- The turn passes to the next instance, after the last one to the next frame. -/
def advanceSerialTurn (s : Impl) (instanceID frame : Nat) (instanceCount : Int) :
    Section Impl Wait Result :=
  let instanceCount := clampInstanceCount instanceCount
  if !isValidInstance instanceID || decide (instanceID ≥ instanceCount) then s.returns .done
  else if s.serialFrame ≠ frame ∨ s.serialInstance ≠ instanceID then s.returns .done
  else if s.serialInstance + 1 ≥ instanceCount then
    { s with serialInstance := 0, serialFrame := (s.serialFrame + 1) % 2 ^ 32 }.returnsNotifying
      .done
  else { s with serialInstance := s.serialInstance + 1 }.returnsNotifying .done

/-! ## Saving and loading the states of all instances -/

/-- Whether the instance has saved its state. -/
def isStateSaved (s : Impl) (instanceID : Nat) : Section Impl Wait Result :=
  s.returns (.flag (isValidInstance instanceID && s.stateSaved instanceID))

/-- The instance has saved its state. -/
def markStateSaved (s : Impl) (instanceID : Nat) : Section Impl Wait Result :=
  if !isValidInstance instanceID then s.returns .done
  else { s with stateSaved := Function.update s.stateSaved instanceID true }.returns .done

/-- All instances have saved their state. -/
def allStatesSaved (s : Impl) (instanceCount : Int) : Section Impl Wait Result :=
  s.returns (.flag ((List.range (clampInstanceCount instanceCount)).all s.stateSaved))

/-- The first instance that asks once all states are saved gets the permission. -/
def tryBeginLocalMPSave (s : Impl) (instanceCount : Int) : Section Impl Wait Result :=
  if s.localMPSaved then s.returns (.flag false)
  else if !(List.range (clampInstanceCount instanceCount)).all s.stateSaved then
    s.returns (.flag false)
  else { s with localMPSaved := true }.returns (.flag true)

/-- Whether the instance has loaded its state. -/
def isStateLoaded (s : Impl) (instanceID : Nat) : Section Impl Wait Result :=
  s.returns (.flag (isValidInstance instanceID && s.stateLoaded instanceID))

/-- The instance has loaded its state. -/
def markStateLoaded (s : Impl) (instanceID : Nat) : Section Impl Wait Result :=
  if !isValidInstance instanceID then s.returns .done
  else { s with stateLoaded := Function.update s.stateLoaded instanceID true }.returns .done

/-- All instances have loaded their state. -/
def allStatesLoaded (s : Impl) (instanceCount : Int) : Section Impl Wait Result :=
  s.returns (.flag ((List.range (clampInstanceCount instanceCount)).all s.stateLoaded))

/-- The first instance that asks gets the permission. -/
def tryBeginLocalMPLoad (s : Impl) : Section Impl Wait Result :=
  if s.localMPLoadStarted then s.returns (.flag false)
  else { s with localMPLoadStarted := true }.returns (.flag true)

/-- The load is over. -/
def finishLocalMPLoad (s : Impl) (loaded : Bool) : Section Impl Wait Result :=
  { s with localMPLoaded := loaded, localMPLoadFinished := true }.returns .done

/-- Whether the load is over, and with which result. -/
def localMPLoadStatus (s : Impl) : Section Impl Wait Result :=
  s.returns (.loadStatus s.localMPLoadFinished s.localMPLoaded)

end Impl

/-! ## The operations as a monitor -/

/-- The first section of an operation. -/
def call (instanceID : Nat) : Call → Impl → Section Impl Wait Result
  | .resetNetplayStartWait, s => s.resetNetplayStartWait
  | .waitForNetplayStart localInstance instanceCount timeoutMs, s =>
    s.waitForNetplayStart instanceID localInstance instanceCount timeoutMs
  | .completeNetplayStartWait, s => s.completeNetplayStartWait
  | .isNetplayLockstepStarted, s => s.isNetplayLockstepStarted instanceID
  | .needsInitialRemoteInput remoteInputAvailable, s =>
    s.needsInitialRemoteInput remoteInputAvailable
  | .markNetplayLockstepStarted, s => s.markNetplayLockstepStarted instanceID
  | .resetNetplayLockstep, s => s.resetNetplayLockstep instanceID
  | .testFrame, s => s.readTestFrame instanceID
  | .advanceTestFrame, s => s.advanceTestFrame instanceID
  | .allTestFramesReached instanceCount target, s => s.allTestFramesReached instanceCount target
  | .waitAtFrameBarrier kind frame instanceCount timeoutMs, s =>
    s.waitAtFrameBarrier kind instanceID frame instanceCount timeoutMs
  | .waitForSerialTurn frame instanceCount timeoutMs, s =>
    s.waitForSerialTurn instanceID frame instanceCount timeoutMs
  | .advanceSerialTurn frame instanceCount, s => s.advanceSerialTurn instanceID frame instanceCount
  | .isStateSaved, s => s.isStateSaved instanceID
  | .markStateSaved, s => s.markStateSaved instanceID
  | .allStatesSaved instanceCount, s => s.allStatesSaved instanceCount
  | .tryBeginLocalMPSave instanceCount, s => s.tryBeginLocalMPSave instanceCount
  | .isStateLoaded, s => s.isStateLoaded instanceID
  | .markStateLoaded, s => s.markStateLoaded instanceID
  | .allStatesLoaded instanceCount, s => s.allStatesLoaded instanceCount
  | .tryBeginLocalMPLoad, s => s.tryBeginLocalMPLoad
  | .finishLocalMPLoad loaded, s => s.finishLocalMPLoad loaded
  | .localMPLoadStatus, s => s.localMPLoadStatus

/-- The loops of the waiting operations, after the condition variable has let the thread go on. -/
def resume (instanceID : Nat) (wait : Wait) (s : Impl) : Section Impl Wait Result :=
  match wait with
  | .netplayStartLeader instanceCount _ =>
    if s.allStartArrived instanceCount then s.returns (.start .localLeader) else s.sleeps wait
  | .netplayStartPeer _ =>
    if s.netplayStartComplete then s.returns (.start .peerComplete) else s.sleeps wait
  | .frameBarrier kind frame generation instanceCount _ =>
    if (s.frameBarriers kind).allArrived frame instanceCount then
      s.releaseFrameBarrier kind instanceCount
    else if (s.frameBarriers kind).generation = generation then s.sleeps wait
    else s.returns (.flag true)
  | .serialTurn frame _ =>
    if s.serialFrame = frame ∧ s.serialInstance = instanceID then s.returns (.flag true)
    else s.sleeps wait

/-- The branches of these loops where the deadline has passed. -/
def expire (instanceID : Nat) (wait : Wait) (s : Impl) : Option (Section Impl Wait Result) :=
  match wait with
  | .netplayStartLeader _ timeoutMs =>
    if timeoutMs > 0 then some (s.returns (.start .localLeader)) else none
  | .netplayStartPeer timeoutMs =>
    if timeoutMs > 0 then some (s.returns (.start .timedOut)) else none
  | .frameBarrier kind _ _ _ timeoutMs =>
    if timeoutMs > 0 then
      let barrier := s.frameBarriers kind
      some ((s.setFrameBarrier kind
        { barrier with
          waiting := Function.update barrier.waiting instanceID false }).returnsNotifying
          (.flag false))
    else none
  | .serialTurn _ timeoutMs => if timeoutMs > 0 then some (s.returns (.flag false)) else none

/-- The coordinator as a monitor. -/
def operations : Operations Nat Impl Call Wait Result where
  call := call
  resume := resume
  expire := expire

end Bigstar.Netplay.Coordination
