import Cowrite.Text.Basic

/-!
# The span in which two texts differ, and edits

Two texts that differ agree in a longest common initial part, and what remains of them agrees in
a longest common final part. `changedSpan` gives the bytes between the two: replacing the span of
the old text by the span of the new one turns the old text into the new one. Both parts consist
of whole characters and do not overlap, so the span is well placed in either text.

An `Edit` replaces a range of bytes. `Edit.applyTo` is its meaning, for ranges of any kind: a
range is first brought inside the text and onto boundaries. `Edit.narrow` makes an edit as small
as it can be without changing that meaning, which matters where two people edit one line at once:
an edit that replaces the whole line would leave both versions of it.
-/

namespace Cowrite

namespace Text

/-- The longest common initial part. -/
def commonPrefix : Text → Text → Text
  | c :: left, d :: right => if c = d then c :: commonPrefix left right else []
  | _, _ => []

/-- The longest common final part. -/
def commonSuffix (left right : Text) : Text :=
  (commonPrefix left.reverse right.reverse).reverse

/-- Where two texts differ: the bytes from `start` to `oldEnd` of the old text stand against the
bytes from `start` to `newEnd` of the new one. -/
structure Span where
  start : Nat
  oldEnd : Nat
  newEnd : Nat
  deriving DecidableEq, Repr

/-- Whether the span is empty on both sides. -/
def Span.isEmpty (span : Span) : Bool :=
  span.start == span.oldEnd && span.start == span.newEnd

/-- The span in which two texts differ; an empty one for equal texts. -/
def changedSpan (old new : Text) : Span :=
  let head := commonPrefix old new
  let tail := commonSuffix (old.drop head.length) (new.drop head.length)
  { start := byteSize head
    oldEnd := byteSize old - byteSize tail
    newEnd := byteSize new - byteSize tail }

end Text

/-- The replacement of the bytes from `start` to `stop` by `text`. -/
structure Edit where
  start : Nat
  stop : Nat
  text : Text
  deriving DecidableEq, Repr

namespace Edit

/-- Whether the edit replaces nothing by nothing. -/
def isNoop (edit : Edit) : Bool :=
  edit.start == edit.stop && edit.text.isEmpty

/-- Where the edit starts in `old`: not past its end and on a boundary. -/
def startIn (edit : Edit) (old : Text) : Nat :=
  Text.floor old edit.start

/-- Where the edit stops in `old`: not before it starts, not past the end and on a boundary. -/
def stopIn (edit : Edit) (old : Text) : Nat :=
  Text.floor old (max edit.stop (edit.startIn old))

/-- The text that the edit makes of `old`. -/
def applyTo (edit : Edit) (old : Text) : Text :=
  Text.splice old (edit.startIn old) (edit.stopIn old) edit.text

/-- The part of the edit in which `old` and the replacement really differ. An edit that cuts
through a character stays as it is. -/
def narrow (edit : Edit) (old : Text) : Edit :=
  let stop := min edit.stop (Text.byteSize old)
  let start := min edit.start stop
  if Text.isBoundary old start && Text.isBoundary old stop then
    let span := Text.changedSpan (Text.between old start stop) edit.text
    { start := start + span.start
      stop := start + span.oldEnd
      text := Text.between edit.text span.start span.newEnd }
  else edit

/-- The edit that replaces just the span in which two texts differ. -/
def ofTexts (old new : Text) : Edit :=
  let span := Text.changedSpan old new
  { start := span.start, stop := span.oldEnd, text := Text.between new span.start span.newEnd }

end Edit

end Cowrite
