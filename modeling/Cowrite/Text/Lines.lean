import Cowrite.Text.Basic

/-!
# Lines and positions

An editor shows a text as lines. The whole text of a document has one separator after *every*
line, the last one included, so that `"a\nb\n"` has the two lines `a` and `b`; a text without the
final separator reads as the same lines. Only `'\n'` ends a line: a carriage return or one of
the Unicode separators is an ordinary character of its line.

`joinLines` and `splitLines` are the two directions, `terminated` is the form in which texts are
compared. A `Position` addresses a byte by its line and its column, and `locate` and `offsetOf`
convert between the two ways of pointing.
-/

namespace Cowrite

namespace Text

/-- The lines one after the other, each followed by a separator if `trailing` is set, and else
with separators only between them. -/
def joinLines (trailing : Bool) : List Text → Text
  | [] => []
  | [line] => if trailing then line ++ ['\n'] else line
  | line :: next :: rest => line ++ '\n' :: joinLines trailing (next :: rest)

/-- The pieces between separators; never the empty list. -/
def pieces : Text → List Text
  | [] => [[]]
  | c :: rest =>
      if c = '\n' then [] :: pieces rest
      else
        match pieces rest with
        | [] => [[c]]
        | line :: lines => (c :: line) :: lines

/-- The text without one final separator, if it has one. -/
def withoutFinalSeparator (text : Text) : Text :=
  if text.getLast? = some '\n' then text.dropLast else text

/-- The lines of a text. The empty text has one empty line, as an untouched buffer does. -/
def splitLines (text : Text) : List Text :=
  pieces (withoutFinalSeparator text)

/-- The text with a final separator, added if it is missing. -/
def terminated (text : Text) : Text :=
  if text.getLast? = some '\n' then text else text ++ ['\n']

/-- The bytes of the lines when each is followed by a separator. -/
def linesSize : List Text → Nat
  | [] => 0
  | line :: rest => byteSize line + 1 + linesSize rest

/-- The offset at which a row starts. A row past the end starts where the text ends. -/
def lineStart (lines : List Text) (row : Nat) : Nat :=
  linesSize (lines.take row)

end Text

/-- A row, and a column in bytes of that row's line. -/
structure Position where
  row : Nat
  col : Nat
  deriving DecidableEq, Repr

namespace Position

/-- Reading order: by row, and within a row by column. -/
def order (left right : Position) : Ordering :=
  (compare left.row right.row).then (compare left.col right.col)

end Position

namespace Text

/-- The line that owns an offset, and the column in it. The separator belongs to the line that it
ends; an offset at or past the end of everything goes to the end of the last line. -/
def locate : List Text → Nat → Position
  | [], _ => ⟨0, 0⟩
  | [line], offset => ⟨0, min offset (byteSize line)⟩
  | line :: next :: rest, offset =>
      if offset < byteSize line + 1 then ⟨0, offset⟩
      else
        let position := locate (next :: rest) (offset - (byteSize line + 1))
        ⟨position.row + 1, position.col⟩

/-- The offset of a position. A row past the last line means the last line, and a column past the
end of its line means that end. -/
def offsetOf (lines : List Text) (position : Position) : Nat :=
  if lines.isEmpty then 0
  else
    let row := min position.row (lines.length - 1)
    lineStart lines row + min position.col (byteSize (lines.getD row []))

end Text

end Cowrite
