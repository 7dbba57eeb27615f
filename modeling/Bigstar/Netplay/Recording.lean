import Bigstar.Netplay.InputScript

/-!
# What a recording holds

A recording is the text that a recorder has written when it is closed. `keptInput` says which of the
inputs of a sequence of calls it holds: it is stated by frames and knows neither spans nor text.
-/

namespace Bigstar.Netplay.InputTimeline

open CText

/-- A call of `Record`. -/
structure RecordCall where
  /-- The instance. -/
  instanceID : Int
  /-- The frame. -/
  frame : Nat
  /-- Its input. -/
  input : InputState

/-- The calls one after the other. -/
def Recorder.recordAll (r : Recorder) (calls : List RecordCall) : Recorder :=
  calls.foldl (fun r call => r.record call.instanceID call.frame call.input) r

/-- The file that is left by these calls between `Open` and `Close`. -/
def recording (startFrame endFrame : Nat) (instanceID : Int) (calls : List RecordCall) : Text :=
  ((Recorder.openFile startFrame endFrame instanceID).recordAll calls).close.output

/-- The instance is the recorded one, and the frame lies in the recorded range. -/
def RecordCall.InRange (startFrame endFrame : Nat) (instanceID : Int) (call : RecordCall) : Prop :=
  (Recorder.openFile startFrame endFrame instanceID).accepts call.instanceID call.frame = true

instance (startFrame endFrame : Nat) (instanceID : Int) (call : RecordCall) :
    Decidable (call.InRange startFrame endFrame instanceID) :=
  inferInstanceAs (Decidable (_ = true))

/-- An input for a frame. -/
abbrev Sample := Nat × InputState

/-- The calls that are in range, with the input that is recorded. -/
def samples (startFrame endFrame : Nat) (instanceID : Int) (calls : List RecordCall) :
    List Sample :=
  (calls.filter fun call => call.InRange startFrame endFrame instanceID).map fun call =>
    (call.frame, Recorder.recordInput call.input)

/-- The samples that do not go back behind a frame that came before them. -/
def advancing (last : Option Nat) : List Sample → List Sample
  | [] => []
  | sample :: rest =>
    if last.any (sample.1 < ·) then advancing last rest else
      sample :: advancing (some sample.1) rest

/-- The inputs for one frame, in the order of the calls. -/
def inputsAt (history : List Sample) (frame : Nat) : List InputState :=
  (history.filter (·.1 = frame)).map (·.2)

/-- The input that is kept for a frame. A frame whose first input continues the input of the frame
before it keeps this first input; any other frame keeps its last one. -/
def keptInput (history : List Sample) : Nat → Option InputState
  | 0 => (inputsAt history 0).getLast?
  | frame + 1 =>
    if (inputsAt history (frame + 1)).head? = keptInput history frame then
      (inputsAt history (frame + 1)).head?
    else (inputsAt history (frame + 1)).getLast?

end Bigstar.Netplay.InputTimeline
