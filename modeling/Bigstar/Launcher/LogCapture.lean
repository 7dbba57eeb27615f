import Bigstar.Lib.Run
import Bigstar.Lib.Utf8
import Bigstar.Launcher.MvlResults

/-!
# The capture of the standard output

`spawn_log_stream_writer` of `processes.rs`: what the emulator prints is read from a pipe and
written into a file, which takes the place of the older file when it has reached its limit.
`read_mvl_results` reads the two files together. A file that does not exist is an empty one, as it
is for the reader.
-/

namespace Bigstar.Launcher

open CText

/-- The loop of the thread: the two files, and the part of the buffer that has not been written
yet. -/
structure LogWriter where
  /-- The file before the last rotation. -/
  rotated : List UInt8 := []
  /-- The file that is written. -/
  current : List UInt8 := []
  /-- The length of the current file. -/
  written : Nat := 0
  /-- What was read from the pipe and is not written yet. -/
  pending : List UInt8 := []
  deriving DecidableEq

/-- The pipe and the thread that writes. -/
inductive CaptureEvent where
  /-- A read from the pipe. -/
  | read (data : List UInt8)
  /-- One round of the inner loop. -/
  | write
  deriving DecidableEq

/-- What the events have read from the pipe. -/
def bytesRead : List CaptureEvent → List UInt8
  | [] => []
  | .read data :: events => data ++ bytesRead events
  | .write :: events => bytesRead events

/-- `fs::read_to_string(..).unwrap_or_default()`: nothing where the file is not a text. -/
def readToString (bytes : List UInt8) : Text := (Utf8.decode bytes).getD []

namespace LogWriter

/-- The buffer that the pipe is read into. -/
def kBufferSize : Nat := 16 * 1024

/-- The older file is removed, and the current one takes its place. -/
def rotate (w : LogWriter) : LogWriter :=
  { w with rotated := w.current, current := [], written := 0 }

/-- The first part of `write`: the file is rotated once it has reached the limit. -/
def rotateIfFull (limit : Option Nat) (w : LogWriter) : LogWriter :=
  if limit.any fun limit => w.written ≥ limit then w.rotate else w

/-- How much of what is pending the current file takes. -/
def available (limit : Option Nat) (w : LogWriter) : Nat :=
  match limit with
  | none => w.pending.length
  | some limit => min (limit - w.written) w.pending.length

/-- `RotatingLogWriter::write`, once. -/
def write (limit : Option Nat) (w : LogWriter) : LogWriter :=
  let w := w.rotateIfFull limit
  { w with
    current := w.current ++ w.pending.take (w.available limit)
    written := w.written + w.available limit
    pending := w.pending.drop (w.available limit) }

/-- The next read comes when the buffer has been written. -/
def step (limit : Option Nat) (w : LogWriter) : CaptureEvent → Option LogWriter
  | .read data =>
    if w.pending = [] ∧ data ≠ [] ∧ data.length ≤ kBufferSize then
      some { w with pending := data } else none
  | .write => if w.pending = [] then none else some (w.write limit)

/-- The text that `read_mvl_results` reads. -/
def text (w : LogWriter) : Text := readToString w.rotated ++ readToString w.current

/-- The results that the launcher reads from both files. -/
def mvlResults (stages : List UInt8) (w : LogWriter) : List MvlStageResult :=
  mvlResultsOfText stages w.text

end LogWriter

/-! ## What is lost -/

/-- The lines that are results. -/
def resultLines (text : Text) : List Text :=
  (textLines text).filter fun line => (parseMvlResultLine line).isSome

/-- The first line, with its end. -/
def firstLine (text : Text) : Text := (splitInclusive text).head?.getD []

/-- What stands behind the last newline. -/
def unfinishedLine (text : Text) : Text := (text.reverse.takeWhile (· ≠ '\n')).reverse

/-- How many of the first `n` bytes are in front of the current file: a file is full with `limit`
bytes, and the next one is begun with the next byte. -/
def currentStart (limit : Option Nat) (n : Nat) : Nat :=
  match limit with
  | none => 0
  | some limit => (n - 1) / limit * limit

/-- How many of them are in front of the older file. -/
def rotatedStart (limit : Option Nat) (n : Nat) : Nat := currentStart limit n - limit.getD 0

/-- The bytes of the current file. -/
def currentFile (limit : Option Nat) (captured : List UInt8) : List UInt8 :=
  captured.drop (currentStart limit captured.length)

/-- The bytes of the older file. -/
def rotatedFile (limit : Option Nat) (captured : List UInt8) : List UInt8 :=
  (captured.take (currentStart limit captured.length)).drop (rotatedStart limit captured.length)

/-- The bytes can be cut at `i` without a cut within a character. -/
def betweenChars (bytes : List UInt8) (i : Nat) : Bool := (Utf8.decode (bytes.take i)).isSome

/-- The number of bytes at the front of a captured text that the files do not give back: all of them
when the current file begins within a character, since then both files are no texts, those in front
of the current file when only the older one begins within a character, and else those in front of
the older one. -/
def lostBytes (limit : Option Nat) (captured : List UInt8) : Nat :=
  if !betweenChars captured (currentStart limit captured.length) then captured.length
  else if !betweenChars captured (rotatedStart limit captured.length) then
    currentStart limit captured.length
  else rotatedStart limit captured.length

/-- No result line is in the lost bytes, and none is cut at their end: the lines of the lost bytes,
the last of them completed, have no other results than what is left of the last line. While the
captured bytes end within a character, the two files have no result line. -/
def NothingLost (limit : Option Nat) (captured : List UInt8) : Prop :=
  match Utf8.decode captured with
  | none =>
    resultLines (readToString (rotatedFile limit captured) ++
      readToString (currentFile limit captured)) = []
  | some _ =>
    resultLines (readToString (captured.take (lostBytes limit captured)) ++
        firstLine (readToString (captured.drop (lostBytes limit captured)))) =
      resultLines (firstLine (readToString (captured.drop (lostBytes limit captured))))

/-- The prefix ends with a character, and no result is being written. -/
def Settled (captured : List UInt8) : Prop :=
  ∃ text, Utf8.decode captured = some text ∧ parseMvlResultLine (unfinishedLine text) = none

end Bigstar.Launcher
