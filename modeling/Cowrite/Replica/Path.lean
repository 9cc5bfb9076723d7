import Cowrite.Replica.Version

/-!
# Places in the tree of characters

Characters that were ever inserted into a document form a tree. A character is inserted between
the visible character before it and whatever comes directly after that one, and it becomes a child
of one of the two: behind the left neighbour, unless the right neighbour already descends from the
left one; then before the right neighbour. The *path* of a character leads to it through this
tree, in steps that each name a side and a character.

The document is read by walking the tree: the children before a character, the character, the
children behind it, and siblings on one side by their names. `Path.order` is that reading
order, told of two paths alone, without the tree: it compares the two paths from the root,
where the end of a path comes between the steps to one side and the steps to the other. As a
path never changes, replicas that know the same characters read them in the same order, in
whatever order they came to know them.
-/

namespace Cowrite

/-- The side of its parent on which a character stands. -/
inductive Side where
  | before
  | behind
  deriving DecidableEq, Repr

/-- One step of a path: to a child on one side. -/
structure Step where
  side : Side
  id : OpId
  deriving DecidableEq, Repr

namespace Step

/-- What is before the parent precedes what is behind it; on one side, names decide. -/
def order (left right : Step) : Ordering :=
  match left.side, right.side with
  | .before, .behind => .lt
  | .behind, .before => .gt
  | _, _ => left.id.order right.id

/-- How the end of a path compares with a path that goes on with this step. -/
def orderOfEnd (next : Step) : Ordering :=
  match next.side with
  | .before => .gt
  | .behind => .lt

end Step

/-- A path in the tree of characters. The last step comes first, so that the paths of a run of
characters share what they have in common; the empty path is the root, which is no character. -/
abbrev Path := List Step

namespace Path

/-- Reading order of two paths, given from the root on. -/
def orderFromRoot : List Step → List Step → Ordering
  | [], [] => .eq
  | [], step :: _ => step.orderOfEnd
  | step :: _, [] => step.orderOfEnd.swap
  | left :: lefts, right :: rights =>
      match left.order right with
      | .eq => orderFromRoot lefts rights
      | decided => decided

/-- Reading order of two characters, given their paths. -/
def order (left right : Path) : Ordering :=
  orderFromRoot left.reverse right.reverse

/-- Whether a path leads through another one and further in the tree. -/
def descendsFrom (path ancestor : Path) : Bool :=
  ancestor.length < path.length && ancestor.isSuffixOf path

/-- Where a new character goes that is inserted between two neighbours, of which the left one may
be the root and the right one may be missing: the parent, and the side of it. -/
def spotBetween (left : Path) : Option Path → Path × Side
  | some right => if descendsFrom right left then (right, .before) else (left, .behind)
  | none => (left, .behind)

end Path

end Cowrite
