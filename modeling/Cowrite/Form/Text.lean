import Cowrite.Buffer
import Cowrite.Form.Basic
import Cowrite.Replica.Basic

/-!
# Forms of positions, changes and edits

A position and a span are lists of their numbers. An edit is a table, and is written with the note
whether it changes anything. A step of a walk is a table with one entry that says what it does.
-/

namespace Cowrite

instance : ToValue Position := ⟨fun position => toValue [position.row, position.col]⟩

instance : OfValue Position where
  ofValue? value := do
    let [row, col] ← OfValue.ofValue? (α := List Nat) value | none
    return ⟨row, col⟩

instance : ToValue Text.Span := ⟨fun span => toValue [span.start, span.oldEnd, span.newEnd]⟩

instance : ToValue LineChange where
  toValue change :=
    .list [toValue change.first, toValue change.lastOld, toValue change.lastNew,
      toValue change.oldBytes]

instance : OfValue LineChange where
  ofValue? value := do
    return {
      first := ← value.entryAs? Nat "first"
      lastOld := ← value.entryAs? Nat "last_old"
      lastNew := ← value.entryAs? Nat "last_new"
      oldBytes := ← value.entryAs? (Option Nat) "old_bytes" }

instance : ToValue Edit where
  toValue edit :=
    .table [("start", toValue edit.start), ("end", toValue edit.stop),
      ("text", toValue edit.text), ("noop", toValue edit.isNoop)]

instance : OfValue Edit where
  ofValue? value := do
    return {
      start := ← value.entryAs? Nat "start"
      stop := ← value.entryAs? Nat "end"
      text := ← value.entryAs? Text "text" }

instance : ToValue Delta where
  toValue
    | .retain count => .table [("retain", toValue count)]
    | .delete count => .table [("delete", toValue count)]
    | .insert text => .table [("insert", toValue text)]

instance : OfValue Delta where
  ofValue? value := do
    match ← value.toTagged? with
    | ("retain", count) => return .retain (← ofValue? count)
    | ("delete", count) => return .delete (← ofValue? count)
    | ("insert", text) => return .insert (← ofValue? text)
    | _ => none

instance : ToValue WriteRequest where
  toValue
    | .content text => .table [("content", toValue text)]
    | .range start stop text =>
        .table [("range", toValue [start, stop]), ("text", toValue text)]

namespace Buffer

/-- The entries that tell what a buffer shows and how often it was written. -/
def entries (buffer : Buffer) : List (String × Value) :=
  [row "content" buffer.content, row "lines" buffer.lines.length, row "writes" buffer.writes,
    row "suspended_writes" buffer.suspendedWrites, row "suspended" buffer.isSuspended,
    row "pending" buffer.changes.length, row "valid" buffer.valid]

end Buffer

instance : ToValue Version where
  toValue version := toValue (version.counts.map fun entry => [entry.1, entry.2])

instance : ToValue VersionToken where
  toValue
    | .known version => toValue version
    | .unreadable => .text "undecodable"

/-- An update is shown by what it means to somebody who has nothing else. -/
instance : ToValue Update where
  toValue
    | .empty => .text "empty"
    | update =>
        match Replica.ofUpdate 0 update with
        | .ok replica => .table [row "alone" replica.text]
        | .error _ => .text "garbage"

end Cowrite
