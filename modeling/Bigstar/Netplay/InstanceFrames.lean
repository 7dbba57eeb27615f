import Bigstar.Netplay.Coordinator

/-!
# The frames of the instances in a test run

What `BeforeRunFrame` and `AfterRunFrame` (`NsmbMvlNetplayRuntime.cpp`) make of the coordinator in a
test run with several instances: before a frame an instance waits for its serial turn and at a frame
barrier, each if it is switched on, and after the frame it counts it, waits at another barrier and
hands its turn on. The results of the waits are ignored.
-/

namespace Bigstar.Netplay.Coordination

open Monitor

/-- The settings of a test run that concern the coordinator; `LoadBootstrapConfig` clamps them. -/
structure Harness where
  /-- How many instances there are. -/
  testInstanceCount : Nat
  /-- How long each wait may take. -/
  waitTimeoutMs : Int
  /-- The instances wait for one another before and after each frame. -/
  frameBarrierEnabled : Bool := false
  /-- The instances run their frames in turn. -/
  serialRunEnabled : Bool := false
  /-- There is one. -/
  one_le_testInstanceCount : 1 ≤ testInstanceCount
  /-- There are not more than the coordinator knows. -/
  testInstanceCount_le : testInstanceCount ≤ kMaxInstances

/-- Where an instance is in its loop over the frames. -/
inductive Point where
  /-- The frame number is read. -/
  | beforeRunFrame
  /-- The turn is awaited. -/
  | serialTurn (inputFrame : Nat)
  /-- The barrier before the frame is awaited. -/
  | beforeBarrier (inputFrame : Nat)
  /-- The frame is run; `AdvanceTestFrame` is next. -/
  | runFrame (inputFrame : Nat)
  /-- The barrier after the frame is awaited. -/
  | afterBarrier (logFrame : Nat)
  /-- The turn is passed on. -/
  | advanceTurn (logFrame : Nat)
  deriving DecidableEq

/-- Where an instance stands. -/
structure Place where
  /-- The call that it makes next. -/
  point : Point := .beforeRunFrame
  /-- How many frames the instance has completed. -/
  rounds : Nat := 0
  deriving DecidableEq

namespace Harness

variable (harness : Harness)

/-- The head of `WaitAtFrameBarrier`. -/
def usesBarrier : Bool := harness.frameBarrierEnabled && decide (harness.testInstanceCount > 1)

/-- The head of `WaitForSerialRunTurn` and `AdvanceSerialRunTurn`. -/
def usesTurns : Bool := harness.serialRunEnabled && decide (harness.testInstanceCount > 1)

/-- The next point from the frame barrier before a frame on. -/
def atBeforeBarrier (inputFrame : Nat) : Point :=
  if harness.usesBarrier then .beforeBarrier inputFrame else .runFrame inputFrame

/-- The wait for the turn, if the instances run in turn. -/
def atSerialTurn (inputFrame : Nat) : Point :=
  if harness.usesTurns then .serialTurn inputFrame else harness.atBeforeBarrier inputFrame

/-- The place from the handing on of the turn on. -/
def atAdvanceTurn (logFrame rounds : Nat) : Place :=
  if harness.usesTurns then { point := .advanceTurn logFrame, rounds := rounds }
  else { point := .beforeRunFrame, rounds := rounds + 1 }

/-- The barrier after the frame, if there are barriers. -/
def atAfterBarrier (logFrame rounds : Nat) : Place :=
  if harness.usesBarrier then { point := .afterBarrier logFrame, rounds := rounds }
  else harness.atAdvanceTurn logFrame rounds

/-- The next call of an instance. -/
def next (instanceID : Nat) (place : Place) : Option Call :=
  if instanceID < harness.testInstanceCount then
    some (match place.point with
      | .beforeRunFrame => .testFrame
      | .serialTurn inputFrame =>
        .waitForSerialTurn inputFrame harness.testInstanceCount harness.waitTimeoutMs
      | .beforeBarrier inputFrame =>
        .waitAtFrameBarrier .before inputFrame harness.testInstanceCount harness.waitTimeoutMs
      | .runFrame _ => .advanceTestFrame
      | .afterBarrier logFrame =>
        .waitAtFrameBarrier .after logFrame harness.testInstanceCount harness.waitTimeoutMs
      | .advanceTurn logFrame =>
        -- `logFrame - 1` in 32 bits
        .advanceSerialTurn ((logFrame + (2 ^ 32 - 1)) % 2 ^ 32) harness.testInstanceCount)
  else none

/-- Where an instance goes on after a call. -/
def returned (place : Place) (result : Result) : Place :=
  match place.point, result with
  | .beforeRunFrame, .frame inputFrame => { place with point := harness.atSerialTurn inputFrame }
  | .serialTurn inputFrame, _ => { place with point := harness.atBeforeBarrier inputFrame }
  | .beforeBarrier inputFrame, _ => { place with point := .runFrame inputFrame }
  | .runFrame _, .frame logFrame => harness.atAfterBarrier logFrame place.rounds
  | .afterBarrier logFrame, _ => harness.atAdvanceTurn logFrame place.rounds
  | .advanceTurn _, _ => { point := .beforeRunFrame, rounds := place.rounds + 1 }
  | _, _ => place

/-- The loop of an instance. -/
def program : Program Nat Place Call Result where
  next := harness.next
  returned := fun _ => harness.returned

/-- The loops of all instances, and what has come of them so far. -/
abbrev Frames := State Nat Impl Place Wait

/-- A step of the monitor. -/
def step : Frames → Event Nat → Option Frames := Monitor.step operations harness.program

end Harness

/-- No instance has come to its first frame. -/
def begin : Harness.Frames := { shared := {}, thread := fun _ => .outside {} }

end Bigstar.Netplay.Coordination
