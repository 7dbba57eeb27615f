import Bigstar.Netplay.InputTimeline
import Bigstar.Lib.CText

/-!
# Recorded inputs and input scripts

The second half of `NsmbInputTimeline.cpp`. A `Recorder` writes the inputs of a session to a file,
one line for each span of frames with the same input; `ParseInputScript` reads such a file, and
`Apply` looks up the input of a frame in the spans it has read.

A file is its text. A recorder whose file could not be opened, the flush after every 64 spans and
the lock are left out. Frames are natural numbers below `2 ^ 32`.
-/

namespace Bigstar.Netplay.InputTimeline

open CText

/-! ## Text -/

/-- The characters that `Trim` removes. -/
def isBlank (c : Char) : Bool := c = ' ' || c = '\t' || c = '\r' || c = '\n'

/-- Blanks at both ends are dropped. -/
def Trim (value : Text) : Text := trim isBlank value

/-- `toupper` of every character. -/
def upper (value : Text) : Text := value.map Char.toUpper

/-- `ParseU32`: the whole text is a number. -/
def parseU32 (m : DataModel) (text : Text) : Option Nat :=
  let parsed := strtoul m text
  if parsed.2 = [] then some (u32 parsed.1) else none

/-- The names of the buttons, by their bits. -/
def kButtonNames : List Text :=
  ["A", "B", "SELECT", "START", "RIGHT", "LEFT", "UP", "DOWN", "R", "L", "X", "Y"].map String.toList

/-- The bit of a button in the key mask. The source returns -1 for a name that is none. -/
def buttonBit (name : Text) : Option Nat := kButtonNames.idxOf? (upper name)

/-- The mask of one bit, `1u << bit`. -/
def bitMask (bit : Nat) : UInt32 := 1 <<< UInt32.ofNat bit

/-! ## Recording -/

/-- The buttons that are down. -/
def pressed (keyMask : UInt32) : List Nat :=
  (List.range 12).filter fun bit => keyMask &&& bitMask bit = 0

/-- `InputSpecForScript`: the pressed buttons, with the touch position if there is one. -/
def inputSpecForScript (input : InputState) : Text :=
  let buttons := ['+'].intercalate ((pressed input.keyMask).map (kButtonNames.getD · []))
  let spec := if buttons = [] then "NONE".toList else buttons
  if input.touching then spec ++ ' ' :: decimal input.touchX.toNat ++
    ',' :: decimal input.touchY.toNat
  else spec

/-- The frames `start` to `finish` with the same input, for one instance or, when negative, for
all. -/
structure InputSpan where
  /-- The instance that gets the input, -1 for all. -/
  instanceID : Int := -1
  /-- The first frame. -/
  start : Nat := 0
  /-- The last frame. -/
  finish : Nat := 0
  /-- The input in all of them. -/
  input : InputState := {}
  deriving DecidableEq, Repr

/-- The recorder of inputs, with the text that it has written. -/
structure Recorder where
  /-- Whether the file is open. -/
  enabled : Bool := false
  /-- What the file holds. -/
  output : Text := []
  /-- The first frame that is recorded. -/
  startFrame : Nat := 0
  /-- The last frame that is recorded, 0 for no end. -/
  endFrame : Nat := 0
  /-- The instance that is recorded, -1 for the first one that comes. -/
  instanceID : Int := -1
  /-- A span has been begun. -/
  hasSpan : Bool := false
  /-- The first frame of that span. -/
  spanStart : Nat := 0
  /-- The last frame of it so far. -/
  spanEnd : Nat := 0
  /-- Its input. -/
  spanInput : InputState := {}

namespace Recorder

/-- The line of one span. -/
def spanLine (start finish : Nat) (input : InputState) : Text :=
  decimal start ++ '-' :: decimal finish ++ ' ' :: inputSpecForScript input

/-- `FlushSpanLocked`: a span that was begun is written. -/
def flushSpanLocked (r : Recorder) : Recorder :=
  if r.hasSpan then
    { r with
      output := r.output ++ spanLine r.spanStart r.spanEnd r.spanInput ++ ['\n']
      hasSpan := false }
  else r

/-- The two comment lines at the top of the file. -/
def header (startFrame endFrame : Nat) (instanceID : Int) : Text :=
  "# NSMB input recording generated by melonDS NSML PoC\n".toList
    ++ "# startFrame=".toList ++ decimal startFrame ++ " endFrame=".toList ++ decimal endFrame
    ++ " instance=".toList ++ (if instanceID < 0 then ['-'] else []) ++
      decimal instanceID.natAbs ++ ['\n']

/-- `Open` on a file that can be written. -/
def openFile (startFrame endFrame : Nat) (instanceID : Int) : Recorder :=
  { enabled := true
    output := header startFrame endFrame instanceID
    startFrame
    endFrame
    instanceID }

/-- A new span begins. -/
def startSpan (r : Recorder) (frame : Nat) (input : InputState) : Recorder :=
  { r with spanStart := frame, spanEnd := frame, spanInput := input, hasSpan := true }

/-- The frames and the instance that a recorder listens to. -/
def accepts (r : Recorder) (instanceID : Int) (frame : Nat) : Bool :=
  !(r.instanceID ≥ 0 && r.instanceID != instanceID)
    && !(frame < r.startFrame || (r.endFrame != 0 && frame > r.endFrame))

/-- The input that is recorded: only the twelve buttons are kept of the key mask. -/
def recordInput (input : InputState) : InputState :=
  { input with keyMask := input.keyMask &&& 0xFFF }

/-- `Record`: the frame prolongs the span, or ends it and begins another one. -/
def record (r : Recorder) (instanceID : Int) (frame : Nat) (input : InputState) : Recorder :=
  if !r.enabled then r
  else if !r.accepts instanceID frame then r
  else
    let input := recordInput input
    if !r.hasSpan then r.startSpan frame input
    else if u32 (r.spanEnd + 1) == frame && inputsEqual r.spanInput input then
      { r with spanEnd := frame }
    else if frame ≤ r.spanEnd then
      -- A frame inside a longer span keeps the input that it was recorded with first.
      if !inputsEqual r.spanInput input && r.spanStart == frame && r.spanEnd == frame then
        { r with spanInput := input }
      else r
    else r.flushSpanLocked.startSpan frame input

/-- `Close`. -/
def close (r : Recorder) : Recorder := { r with enabled := false }.flushSpanLocked

end Recorder

/-! ## Parsing -/

/-- What is wrong with a line. -/
inductive ParseErrorKind where
  /-- The instance. -/
  | target
  /-- The frames. -/
  | range
  /-- The buttons. -/
  | input
  /-- The touch position. -/
  | touch
  deriving DecidableEq, Repr

/-- An error, with its place. -/
structure ParseError where
  /-- What is wrong. -/
  kind : ParseErrorKind
  /-- The number of the line, from 1 on. -/
  line : Nat
  deriving DecidableEq, Repr

/-- The loop of `ParseInputSpec` over the names of the buttons. -/
def releaseButtons : UInt32 → List Text → Option UInt32
  | keyMask, [] => some keyMask
  | keyMask, button :: buttons =>
    match buttonBit (Trim button) with
    | none => none
    | some bit => releaseButtons (keyMask &&& ~~~bitMask bit) buttons

/-- `ParseInputSpec`: the names of buttons, or a mask. -/
def parseInputSpec (m : DataModel) (spec : Text) : Option InputState :=
  if spec = [] ∨ upper spec = "NONE".toList ∨ upper spec = "NEUTRAL".toList then some {}
  else if "mask=".toList <+: spec ∨ "MASK=".toList <+: spec then
    (parseU32 m (spec.drop 5)).map fun mask => { keyMask := UInt32.ofNat mask &&& 0xFFF }
  else (releaseButtons 0xFFF (getlines '+' spec)).map fun keyMask => { keyMask }

/-- The target column: the instance that a span is for, -1 for all. -/
def parseTarget (m : DataModel) (target : Text) : Option Int :=
  let upperTarget := upper target
  if upperTarget = "ALL".toList then some (-1)
  else if "INST".toList <+: upperTarget then
    match parseU32 m (upperTarget.drop 4) with
    | none => none
    | some targetInstance => if targetInstance ≥ 16 then none else some targetInstance
  else none

/-- The texts before and behind the first `c`. -/
def splitAtFirst (c : Char) (text : Text) : Option (Text × Text) :=
  if c ∈ text then some (text.takeWhile (· ≠ c), (text.dropWhile (· ≠ c)).tail) else none

/-- `ParseTouch`: two coordinates with a comma between them. -/
def parseTouch (m : DataModel) (touch : Text) : Option (Nat × Nat) := do
  let (left, right) ← splitAtFirst ',' touch
  let x ← parseU32 m left
  let y ← parseU32 m right
  return (x, y)

/-- The columns of a line behind its target. -/
def parseColumns (m : DataModel) (instanceID : Int) (range buttons touch : Text) :
    Except ParseErrorKind InputSpan :=
  match splitAtFirst '-' range with
  | none => .error .range
  | some (left, right) =>
    match parseU32 m left, parseU32 m right, parseInputSpec m buttons with
    | some start, some finish, some input =>
      if finish < start then .error .input
      else if touch = [] then .ok ⟨instanceID, start, finish, input⟩
      else match parseTouch m touch with
        | none => .error .touch
        | some (x, y) =>
          .ok ⟨instanceID, start, finish,
            { input with
              touching := true
              touchX := UInt16.ofNat (min x 255)
              touchY := UInt16.ofNat (min y 191) }⟩
    | _, _, _ => .error .input

/-- One line of a script without its comment; `none` where nothing is left. -/
def parseLine (m : DataModel) (line : Text) : Except ParseErrorKind (Option InputSpan) :=
  let line := Trim (line.takeWhile (· ≠ '#'))
  if line = [] then .ok none
  else
    let column := fun i => (words line).getD i []
    if '-' ∈ column 0 then (parseColumns m (-1) (column 0) (column 1) (column 2)).map some
    else match parseTarget m (column 0) with
      | none => .error .target
      | some instanceID => (parseColumns m instanceID (column 1) (column 2) (column 3)).map some

/-- The loop of `ParseInputScript`: the spans that have been read when it ends, and the error it
ends with. -/
def parseLines (m : DataModel) : Nat → List InputSpan → List Text →
    List InputSpan × Option ParseError
  | _, spans, [] => (spans, none)
  | lineNo, spans, line :: lines =>
    match parseLine m line with
    | .error kind => (spans, some ⟨kind, lineNo + 1⟩)
    | .ok none => parseLines m (lineNo + 1) spans lines
    | .ok (some span) => parseLines m (lineNo + 1) (spans ++ [span]) lines

/-- `ParseInputScript`: the spans up to the first error. -/
def parseInputScript (m : DataModel) (input : Text) : List InputSpan × Option ParseError :=
  parseLines m 0 [] (getlines '\n' input)

/-- `Apply`: the input of the first span that holds the frame. -/
def applyScript (spans : List InputSpan) (instanceID : Int) (frame : Nat) (fallback : InputState) :
    InputState :=
  match spans with
  | [] => fallback
  | span :: spans =>
    if (span.instanceID < 0 || span.instanceID == instanceID) && frame ≥ span.start &&
      frame ≤ span.finish then
      span.input
    else applyScript spans instanceID frame fallback

end Bigstar.Netplay.InputTimeline
