import Cowrite.Replica.Path
import Cowrite.Text.Basic

/-!
# The sequence of a document's characters

A document keeps every character it ever knew in one sequence, in reading order. A deleted
character stays in the sequence, as others may have been placed next to it, and is only left out
when the text is read.

A new character finds its place without a search through everything: it stands next to its
parent, separated from it at most by the parent's other children on that side and what descends
from them.
-/

namespace Cowrite

/-- A character of a document, with its place in the tree of characters. -/
structure Element where
  id : OpId
  parent : Path
  side : Side
  char : Char
  deleted : Bool := false
  deriving DecidableEq, Repr

namespace Element

/-- The path to the character. -/
def path (element : Element) : Path :=
  ⟨element.side, element.id⟩ :: element.parent

/-- Whether a character comes before another one in reading order. -/
def precedes (left right : Element) : Bool :=
  left.path.order right.path == .lt

end Element

/-- The characters of a document in reading order, deleted ones included. -/
abbrev Sequence := List Element

namespace Sequence

/-- The text: the characters that are not deleted. -/
def text (sequence : Sequence) : Text :=
  (sequence.filter fun element => !element.deleted).map (·.char)

/-- Put an element before the first one that it precedes. -/
def insertForward (element : Element) : Sequence → Sequence
  | [] => [element]
  | next :: rest =>
      if element.precedes next then element :: next :: rest
      else next :: insertForward element rest

/-- Put an element into a reversed sequence, before the first one that precedes it. -/
def insertBackward (element : Element) : Sequence → Sequence
  | [] => [element]
  | next :: rest =>
      if next.precedes element then element :: next :: rest
      else next :: insertBackward element rest

/-- Put a new character in its place: at the parent, on its side. -/
def insert (sequence : Sequence) (element : Element) : Sequence :=
  match element.parent with
  | [] => insertForward element sequence
  | parent :: _ =>
      let front := sequence.takeWhile (·.id != parent.id)
      let rest := sequence.dropWhile (·.id != parent.id)
      match element.side with
      | .before => (insertBackward element front.reverse).reverse ++ rest
      | .behind => front ++ rest.take 1 ++ insertForward element (rest.drop 1)

/-- Mark a character as deleted. -/
def delete (sequence : Sequence) (id : OpId) : Sequence :=
  sequence.map fun element => if element.id = id then { element with deleted := true } else element

/-- The name of the visible character that has so many visible ones before it. -/
def visible? (sequence : Sequence) (index : Nat) : Option OpId :=
  ((sequence.filter fun element => !element.deleted)[index]?).map (·.id)

/-- The path of the last of the first `count` visible characters, or else the given one, and
the path of what comes directly after it, deleted or not. -/
def neighbours (left : Path) : Nat → Sequence → Path × Option Path
  | _, [] => (left, none)
  | 0, next :: _ => (left, some next.path)
  | count + 1, next :: rest =>
      if next.deleted then neighbours left (count + 1) rest
      else neighbours next.path count rest

/-- Where a character goes that is inserted after so many visible ones. -/
def spotAfter (sequence : Sequence) (count : Nat) : Path × Side :=
  let (left, right) := neighbours [] count sequence
  Path.spotBetween left right

end Sequence

end Cowrite
