import Cowrite.Telemetry
import Cowrite.Text.Lines
import Cowrite.Text.Span

/-!
# The editor's buffer

A `Buffer` is what an editor shows of a shared document: lines, and the notifications that the
editor has raised about them. Two parties write to it. The user does by `setLines`, `insertText`
and `deleteText`, and each of these raises a `LineChange` that says which lines were replaced.
The session does by `writeContent` and `writeRange`, which the editor may refuse and which it also
reports as changes, so that the session has to tell its own writes from typing. A formatter may
write behind everybody's back (`replaceSilently`).

A buffer keeps at least one line, no line holds a separator, and the content has one separator
after every line; the operations restore this form whatever they are given.

An editor either can replace a range of bytes in place, which leaves cursors and marks outside
the range alone, or it can only replace everything (`ranged`); in the second case a ranged write
is carried out as a replacement of the whole content. `requests` lists the writes that were asked
for in the form in which they reached the editor, also those that it refused.
-/

namespace Cowrite

/-- A notification that the lines from `first` to `lastOld` of the content as it was were replaced
by the lines from `first` to `lastNew` of the content as it is. `oldBytes` counts the replaced
bytes, separators included, if the editor can tell. -/
structure LineChange where
  first : Nat
  lastOld : Nat
  lastNew : Nat
  oldBytes : Option Nat := none
  deriving DecidableEq, Repr

namespace LineChange

/-- Whether lines were added or removed, rather than edited in place. -/
def changesLineCount (change : LineChange) : Bool :=
  change.lastOld != change.lastNew

/-- The lines from `first` to `last`, as far as they exist. -/
def linesBetween (lines : List Text) (first last : Nat) : List Text :=
  (lines.drop first).take (last - first)

/-- The byte edit that a notification stands for, given the lines before and after the change.
Rows past the end are brought inside. If the number of lines changed, the lines are replaced with
their separators, and else the separators between them stay out of the edit. -/
def toEdit (change : LineChange) (before now : List Text) : Edit :=
  let first := min change.first before.length
  let lastOld := max first (min change.lastOld before.length)
  let newFirst := min change.first now.length
  let lastNew := max newFirst (min change.lastNew now.length)
  let start := Text.lineStart before first
  let oldLines := linesBetween before first lastOld
  let newLines := linesBetween now newFirst lastNew
  if change.changesLineCount then
    { start
      stop := start + change.oldBytes.getD (Text.linesSize oldLines)
      text := Text.joinLines true newLines }
  else
    { start
      stop := start + Text.byteSize (Text.joinLines false oldLines)
      text := Text.joinLines false newLines }

end LineChange

/-- Why an editor did not carry out a write. -/
inductive WriteError where
  /-- The buffer was closed. -/
  | invalid
  /-- The editor refused the write, for a reason in words. -/
  | refused (reason : String)
  deriving DecidableEq, Repr

namespace WriteError

/-- A range that cuts through a character. -/
def splitCharacter (start stop : Nat) : WriteError :=
  .refused s!"range {start}..{stop} is not on a char boundary"

/-- A buffer that must not be changed. -/
def notModifiable : WriteError :=
  .refused "buffer is not modifiable"

def report : WriteError → Report
  | .invalid =>
      { message := "editor buffer is no longer valid", code := some "tandem::surface" }
  | .refused reason =>
      { message := "failed to write editor buffer: " ++ reason, code := some "tandem::surface" }

end WriteError

/-- A write as the editor was asked for it. -/
inductive WriteRequest where
  /-- Replace everything. -/
  | content (text : Text)
  /-- Replace the bytes from `start` to `stop`. -/
  | range (start stop : Nat) (text : Text)
  deriving DecidableEq, Repr

/-- A buffer of an editor. -/
structure Buffer where
  /-- The lines, without separators. -/
  lines : List Text
  /-- Notifications not yet taken, oldest first. -/
  changes : List LineChange := []
  /-- Whether the buffer is still open. -/
  valid : Bool := true
  /-- How many suspensions of automatic processing are in force. -/
  suspensions : Nat := 0
  /-- Whether the editor refuses writes. -/
  readOnly : Bool := false
  /-- Whether the editor can replace a range in place. -/
  ranged : Bool := true
  /-- Number of writes carried out. -/
  writes : Nat := 0
  /-- Number of writes carried out while automatic processing was suspended. -/
  suspendedWrites : Nat := 0
  /-- The writes asked for, oldest first. -/
  requests : List WriteRequest := []
  deriving DecidableEq, Repr

namespace Buffer

/-- A buffer with the given content; a missing final separator is added. -/
def ofText (text : Text) : Buffer :=
  { lines := Text.splitLines (Text.terminated text) }

/-- A buffer with the given lines; with none at all it has one empty line. -/
def ofLines : List Text → Buffer
  | [] => ofText []
  | line :: rest => ofText (Text.joinLines true (line :: rest))

/-- The whole text: every line followed by a separator. -/
def content (buffer : Buffer) : Text :=
  Text.joinLines true buffer.lines

/-- One line, if the buffer has it. -/
def line? (buffer : Buffer) (row : Nat) : Option Text :=
  buffer.lines[row]?

/-- Whether automatic processing is suspended. -/
def isSuspended (buffer : Buffer) : Bool :=
  buffer.suspensions > 0

/-! ## What the user does -/

/-- Replace the lines from `first` to `last`. Lines of the replacement that hold separators come
out as several lines, and a buffer that would be left without lines gets an empty one. -/
def setLines (buffer : Buffer) (first last : Nat) (replacement : List Text) :
    LineChange × Buffer :=
  let count := buffer.lines.length
  let first := min first count
  let last := max first (min last count)
  let oldLines := LineChange.linesBetween buffer.lines first last
  let lines :=
    buffer.lines.take first ++ replacement.flatMap Text.pieces ++ buffer.lines.drop last
  let change : LineChange :=
    { first
      lastOld := last
      lastNew := first + replacement.length
      oldBytes := some (Text.linesSize oldLines) }
  (change,
    { buffer with
      lines := if lines.isEmpty then [[]] else lines
      changes := buffer.changes ++ [change] })

/-- Insert a text at a byte column of a row, as typing does. The column is brought inside the line
and onto a boundary; a row past the end counts as an empty line there. -/
def insertText (buffer : Buffer) (row col : Nat) (text : Text) : LineChange × Buffer :=
  let line := (buffer.line? row).getD []
  let col := Text.floor line col
  buffer.setLines row (row + 1) (Text.pieces (Text.splice line col col text))

/-- Delete `count` bytes of a row from a byte column on. Both ends are brought inside the line and
onto boundaries. -/
def deleteText (buffer : Buffer) (row col count : Nat) : LineChange × Buffer :=
  let line := (buffer.line? row).getD []
  let start := Text.floor line col
  let stop := Text.floor line (start + count)
  buffer.setLines row (row + 1) [Text.splice line start stop []]

/-- Close the buffer. -/
def invalidate (buffer : Buffer) : Buffer :=
  { buffer with valid := false }

/-- Make the editor refuse writes, or accept them again. -/
def setReadOnly (buffer : Buffer) (readOnly : Bool) : Buffer :=
  { buffer with readOnly }

/-- Change the content without a notification, as an external formatter can. -/
def replaceSilently (buffer : Buffer) (text : Text) : Buffer :=
  { buffer with lines := Text.splitLines (Text.terminated text) }

/-! ## What the session does -/

/-- Why the editor refuses any write at all at the moment, if it does. -/
def refusal? (buffer : Buffer) : Option WriteError :=
  if !buffer.valid then some .invalid
  else if buffer.readOnly then some .notModifiable
  else none

/-- Put new lines in place of all others, notify of the change and count the write. -/
def carryOut (buffer : Buffer) (lines : List Text) (change : LineChange) : Buffer :=
  { buffer with
    lines
    changes := buffer.changes ++ [change]
    writes := buffer.writes + 1
    suspendedWrites :=
      if buffer.isSuspended then buffer.suspendedWrites + 1 else buffer.suspendedWrites }

/-- Replace the whole content. -/
def replaceContent (buffer : Buffer) (text : Text) : Except WriteError Unit × Buffer :=
  match buffer.refusal? with
  | some error => (.error error, buffer)
  | none =>
      let lines := Text.splitLines (Text.terminated text)
      let change : LineChange :=
        { first := 0
          lastOld := buffer.lines.length
          lastNew := lines.length
          oldBytes := some (Text.linesSize buffer.lines) }
      (.ok (), buffer.carryOut lines change)

/-- Number of separators in a text. -/
def separators (text : Text) : Nat :=
  text.countP (· == '\n')

/-- Replace a range of bytes in place. Bounds past the end are brought inside, bounds inside a
character are refused, and a removed final separator comes back. -/
def replaceRange (buffer : Buffer) (start stop : Nat) (text : Text) :
    Except WriteError Unit × Buffer :=
  match buffer.refusal? with
  | some error => (.error error, buffer)
  | none =>
      let content := buffer.content
      let stop := min stop (Text.byteSize content)
      let start := min start stop
      if Text.isBoundary content start && Text.isBoundary content stop then
        let count := buffer.lines.length
        let first := min (separators (Text.upTo content start)) (count - 1)
        let lastOld := min (separators (Text.upTo content stop) + 1) count
        let lines := Text.splitLines (Text.terminated (Text.splice content start stop text))
        let change : LineChange :=
          { first
            lastOld
            lastNew := max (lastOld + lines.length - count) first
            oldBytes := some (Text.linesSize (LineChange.linesBetween buffer.lines first lastOld)) }
        (.ok (), buffer.carryOut lines change)
      else (.error (.splitCharacter start stop), buffer)

/-- Note that a write was asked for. -/
def noteRequest (buffer : Buffer) (request : WriteRequest) : Buffer :=
  { buffer with requests := buffer.requests ++ [request] }

/-- Ask the editor to replace the whole content. -/
def writeContent (buffer : Buffer) (text : Text) : Except WriteError Unit × Buffer :=
  (buffer.noteRequest (.content text)).replaceContent text

/-- Replace a range of bytes by writing everything, for an editor that cannot do it in place. -/
def writeRangeAsContent (buffer : Buffer) (start stop : Nat) (text : Text) :
    Except WriteError Unit × Buffer :=
  let content := buffer.content
  let stop := min stop (Text.byteSize content)
  let start := min start stop
  if Text.isBoundary content start && Text.isBoundary content stop then
    buffer.writeContent (Text.splice content start stop text)
  else (.error (.splitCharacter start stop), buffer)

/-- Ask the editor to replace a range of bytes, in the way it can. -/
def writeRange (buffer : Buffer) (start stop : Nat) (text : Text) :
    Except WriteError Unit × Buffer :=
  if buffer.ranged then
    (buffer.noteRequest (.range start stop text)).replaceRange start stop text
  else buffer.writeRangeAsContent start stop text

/-- Keep automatic processing such as formatters from reacting to writes. Suspensions nest, and
their depth is taken to fit a machine word. -/
def suspend (buffer : Buffer) : Buffer :=
  { buffer with suspensions := buffer.suspensions + 1 }

/-- Lift one suspension. -/
def resume (buffer : Buffer) : Buffer :=
  { buffer with suspensions := buffer.suspensions - 1 }

/-- Take the notifications raised since the last time. -/
def takeChanges (buffer : Buffer) : List LineChange × Buffer :=
  (buffer.changes, { buffer with changes := [] })

/-- Take the writes that were asked for since the last time. -/
def takeRequests (buffer : Buffer) : List WriteRequest × Buffer :=
  (buffer.requests, { buffer with requests := [] })

end Buffer

end Cowrite
