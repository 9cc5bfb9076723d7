import Cowrite.Text.Span

/-!
# Walks of deltas

A change of a text can also be told as a walk over it: retain so many bytes, delete so many,
insert these. A walk starts at the beginning of the text, insertions move past what they insert,
and what lies beyond the last step is left alone.

`Walk.between` tells the difference of two texts as such a walk, and `Walk.replay` runs a sequence
of walks, each over the text that the previous one left, and reports them as edits.
-/

namespace Cowrite

/-- One step of a walk over a text; lengths are in bytes. -/
inductive Delta where
  /-- Pass over what is there. -/
  | retain (count : Nat)
  /-- Remove what comes next. -/
  | delete (count : Nat)
  /-- Add a text and pass over it. -/
  | insert (text : Text)
  deriving DecidableEq, Repr

/-- The steps of one change, in the order of the text. -/
abbrev Walk := List Delta

namespace Walk

/-- The walk that turns `old` into `new` in one span; it has no step for equal texts. -/
def between (old new : Text) : Walk :=
  let span := Text.changedSpan old new
  if span.isEmpty then []
  else
    (if span.start > 0 then [Delta.retain span.start] else []) ++
    (if span.oldEnd > span.start then [Delta.delete (span.oldEnd - span.start)] else []) ++
    (if span.newEnd > span.start then
      [Delta.insert (Text.between new span.start span.newEnd)] else [])

/-- A walk under way: the text as it is now, where the walk stands in it, and the edits so far. -/
structure Progress where
  text : Text
  cursor : Nat
  edits : List Edit
  deriving DecidableEq, Repr

/-- Take one step, unless it would leave the text or cut through a character. The cursor and the end
of what is deleted are taken to fit the machine words that the lengths are told in. -/
def step (progress : Progress) : Delta → Option Progress
  | .retain count => some { progress with cursor := progress.cursor + count }
  | .delete count =>
      let stop := progress.cursor + count
      if Text.isBoundary progress.text progress.cursor && Text.isBoundary progress.text stop then
        some { progress with
          text := Text.splice progress.text progress.cursor stop []
          edits := progress.edits ++ [⟨progress.cursor, stop, []⟩] }
      else none
  | .insert inserted =>
      if Text.isBoundary progress.text progress.cursor then
        some {
          text := Text.splice progress.text progress.cursor progress.cursor inserted
          cursor := progress.cursor + Text.byteSize inserted
          edits := progress.edits ++ [⟨progress.cursor, progress.cursor, inserted⟩] }
      else none

/-- Run one walk from the start of the text. -/
def run (walk : Walk) (progress : Progress) : Option Progress :=
  walk.foldlM step { progress with cursor := 0 }

/-- Run walks one after the other. The edits come in the order in which they apply, together with
the text that they lead to; `none` if a walk does not fit. -/
def replay (base : Text) (walks : List Walk) : Option (List Edit × Text) :=
  (walks.foldlM (fun progress walk => run walk progress) ⟨base, 0, []⟩).map
    fun progress => (progress.edits, progress.text)

end Walk

end Cowrite
