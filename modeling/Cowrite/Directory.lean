import Cowrite.Shelf

/-!
# Things that outlive their names

A directory holds things of one kind, each at a handle that is its own for good. A name leads to a
handle, and can be given to a new thing later: whoever held on to the old one by its handle keeps
it. What was put at a handle is found there (`get?_put_self`) and changes no other handle
(`get?_put_of_ne_handle`); a new name leads to what was added under it (`find?_add`).
-/

namespace Cowrite

/-- What a thing is held on to by. -/
abbrev Handle := Nat

/-- Things of one kind, by handle, and the names that lead to some of them. -/
structure Directory (α : Type) where
  /-- The things, in the order in which they were added. -/
  things : List α := []
  names : Shelf Handle := []
  deriving DecidableEq, Repr

namespace Directory

variable {α : Type}

/-- The handle that a name leads to. -/
def handle? (directory : Directory α) (name : String) : Option Handle :=
  directory.names.get? name

/-- The thing at a handle. -/
def get? (directory : Directory α) (handle : Handle) : Option α :=
  directory.things[handle]?

/-- The handle that a name leads to, and the thing there. -/
def find? (directory : Directory α) (name : String) : Option (Handle × α) := do
  let handle ← directory.handle? name
  return (handle, ← directory.get? handle)

/-- Put a thing in place of the one at a handle. -/
def put (directory : Directory α) (handle : Handle) (thing : α) : Directory α :=
  { directory with things := directory.things.set handle thing }

/-- Add a thing, and let a name lead to it from now on. -/
def add (directory : Directory α) (name : String) (thing : α) : Directory α :=
  { things := directory.things ++ [thing]
    names := directory.names.put name directory.things.length }

theorem get?_put_self {directory : Directory α} {handle : Handle}
    (present : handle < directory.things.length) (thing : α) :
    (directory.put handle thing).get? handle = some thing := by
  simp [get?, put, present]

theorem get?_put_of_ne_handle (directory : Directory α) {handle other : Handle}
    (differ : handle ≠ other) (thing : α) :
    (directory.put handle thing).get? other = directory.get? other := by
  simp [get?, put, differ]

theorem find?_add (directory : Directory α) (name : String) (thing : α) :
    (directory.add name thing).find? name = some (directory.things.length, thing) := by
  simp [find?, handle?, add, get?, Shelf.get?_put]

end Directory

end Cowrite
