import Cowrite.Buffer
import Cowrite.Replica.Basic

/-!
# The binding of a buffer to a document

An editor only reports which lines have changed. The binding keeps a shadow, the lines as they
were before the change, turns a report into one byte edit on the document (`observe`), and takes
the present lines as the new shadow. Several reports at once are not looked at one by one, as the
later ones speak of lines that the shadow never had; the whole texts are compared instead.

In the other direction the binding writes the document's text into the buffer. Where the walks
that remote updates have left behind lead from what the buffer shows to that text, it replays them
as ranged edits, and otherwise it replaces everything. Around a write, automatic processing is
suspended, and the notifications that the write causes are dropped.

The editor reports such a write like any other change, and some of its reports come late. They must
not be taken for typing, so notifications are ignored for a while after a write (`Suppression`). A
lockout that is in force can be extended but never shortened, and it ends by itself.

A buffer can also change without any notification. `reconcile` compares it with the document and
writes the document's text if they differ.
-/

namespace Cowrite

/-- Whether notifications are the user's. -/
inductive Suppression where
  /-- They are. -/
  | idle
  /-- The session is writing. -/
  | writing
  /-- The session wrote a moment ago; they are not before this time. -/
  | lockedUntil (time : Nat)
  deriving DecidableEq, Repr

namespace Suppression

/-- Whether a notification at this time is to be ignored. -/
def suppresses (suppression : Suppression) (now : Nat) : Bool :=
  match suppression with
  | .idle => false
  | .writing => true
  | .lockedUntil limit => now < limit

/-- Ignore notifications for so long from now on, or for as long as it was decided already. -/
def lockOut (suppression : Suppression) (now duration : Nat) : Suppression :=
  match suppression with
  | .lockedUntil limit => .lockedUntil (max limit (now + duration))
  | _ => .lockedUntil (now + duration)

end Suppression

/-- What came of the notifications of a buffer. -/
inductive Observation where
  /-- There were none. -/
  | quiet
  /-- They came from the session's own writing. -/
  | suppressed
  /-- They were edits, and are in the document now. -/
  | edited
  deriving DecidableEq, Repr

/-- What came of a reconciliation. -/
inductive Reconciliation where
  | inSync
  | repaired
  /-- The buffer differs, and the editor refused the write. -/
  | failed
  deriving DecidableEq, Repr

/-- The binding of a buffer to a document. -/
structure Binding where
  /-- The lines of the buffer when they were last looked at. -/
  shadow : List Text
  suppression : Suppression := .idle
  /-- How long notifications are ignored after a write. -/
  lockout : Nat
  deriving DecidableEq, Repr

namespace Binding

/-- Bind a buffer. Notifications from before are dropped. -/
def attach (buffer : Buffer) (lockout : Nat) : Binding × Buffer :=
  ({ shadow := buffer.lines, lockout }, buffer.takeChanges.2)

/-- The text of the buffer in the form in which texts are compared. -/
def shownText (buffer : Buffer) : Text :=
  Text.terminated buffer.content

/-- The edit that one notification stands for, as small as it can be. -/
def editOfChange (shadow current : List Text) (change : LineChange) : Edit :=
  (change.toEdit shadow current).narrow (Text.joinLines true shadow)

/-- The edit that several notifications come to. -/
def editOfTexts (shadow current : List Text) : Edit :=
  Edit.ofTexts (Text.joinLines true shadow) (Text.joinLines true current)

/-- Take the notifications of the buffer and put the edits that they stand for into the
document. -/
def observe (binding : Binding) (buffer : Buffer) (replica : Replica) (now : Nat) :
    Observation × Binding × Buffer × Replica :=
  let (changes, buffer) := buffer.takeChanges
  if changes.isEmpty then (.quiet, binding, buffer, replica)
  else
    let shown := { binding with shadow := buffer.lines }
    if binding.suppression.suppresses now then (.suppressed, shown, buffer, replica)
    else
      let edit :=
        match changes with
        | [change] => editOfChange binding.shadow buffer.lines change
        | _ => editOfTexts binding.shadow buffer.lines
      (.edited, shown, buffer, if edit.isNoop then replica else replica.edit edit)

/-- Let the session write to the buffer: with automatic processing suspended, and so that what the
write causes is not taken for typing. -/
def guardedly (binding : Binding) (buffer : Buffer) (now : Nat)
    (write : Buffer → Except WriteError Unit × Buffer) :
    Except WriteError Unit × Binding × Buffer :=
  let (result, buffer) := write buffer.suspend
  let buffer := buffer.resume.takeChanges.2
  (result,
    { binding with
      shadow := buffer.lines
      suppression := Suppression.writing.lockOut now binding.lockout },
    buffer)

/-- Whether something was written, if nothing was refused. -/
def didWrite : Except WriteError Unit → Except WriteError Bool
  | .ok () => .ok true
  | .error error => .error error

/-- Make the buffer show a text by replacing its content, unless it shows the text already. -/
def display (binding : Binding) (buffer : Buffer) (text : Text) (now : Nat) :
    Except WriteError Bool × Binding × Buffer :=
  let target := Text.terminated text
  if shownText buffer = target then (.ok false, binding, buffer)
  else
    let (result, binding, buffer) := binding.guardedly buffer now (·.writeContent target)
    (didWrite result, binding, buffer)

/-- Write edits one after the other, up to the first that is refused. -/
def writeEdits : List Edit → Buffer → Except WriteError Unit × Buffer
  | [], buffer => (.ok (), buffer)
  | edit :: rest, buffer =>
      match buffer.writeRange edit.start edit.stop edit.text with
      | (.ok (), buffer) => writeEdits rest buffer
      | (.error error, buffer) => (.error error, buffer)

/-- The edits that lead from one text to another along walks, if the walks lead there. -/
def editsAlong? (walks : List Walk) (current target : Text) : Option (List Edit) :=
  match Walk.replay current walks with
  | some (edits, patched) => if patched = target then some edits else none
  | none => none

/-- Make the buffer show a text along walks that lead to it from what the buffer shows; if they do
not, replace its content. -/
def displayAlong (binding : Binding) (buffer : Buffer) (walks : List Walk) (text : Text)
    (now : Nat) : Except WriteError Bool × Binding × Buffer :=
  let target := Text.terminated text
  let current := shownText buffer
  if current = target then (.ok false, binding, buffer)
  else
    match editsAlong? walks current target with
    | some edits =>
        let (result, binding, buffer) := binding.guardedly buffer now (writeEdits edits)
        (didWrite result, binding, buffer)
    | none => binding.display buffer text now

/-- Ignore notifications for one lockout from now on. -/
def lockOut (binding : Binding) (now : Nat) : Binding :=
  { binding with suppression := binding.suppression.lockOut now binding.lockout }

/-- Make the buffer show the document, if it does not. -/
def reconcile (binding : Binding) (buffer : Buffer) (replica : Replica) (now : Nat) :
    Reconciliation × Binding × Buffer × Replica :=
  let expected := Text.terminated replica.text
  if expected = shownText buffer then (.inSync, binding, buffer, replica)
  else
    match (binding.lockOut now).display buffer expected now with
    | (.ok _, binding, buffer) => (.repaired, binding, buffer, replica.clearWalks)
    | (.error _, binding, buffer) => (.failed, binding, buffer, replica.clearWalks)

end Binding

end Cowrite
