/-!
# Things under names

A shelf holds things of one kind, each under a name of its own, in the order in which the names
were first used. Looking a name up after something was put under it gives that thing (`get?_put`),
and leaves all other names as they were (`get?_put_of_ne`).
-/

namespace Cowrite

/-- Things of one kind, by name. -/
abbrev Shelf (α : Type) := List (String × α)

namespace Shelf

variable {α : Type}

/-- The thing under a name. -/
def get? : Shelf α → String → Option α
  | [], _ => none
  | (other, value) :: rest, name => if other = name then some value else get? rest name

/-- Put a thing under a name, in place of what was there. -/
def put (name : String) (value : α) : Shelf α → Shelf α
  | [] => [(name, value)]
  | (other, old) :: rest =>
      if other = name then (other, value) :: rest else (other, old) :: put name value rest

theorem get?_put (name : String) (value : α) (shelf : Shelf α) :
    get? (put name value shelf) name = some value := by
  induction shelf with
  | nil => simp [put, get?]
  | cons entry rest ih =>
      by_cases same : entry.1 = name
      · simp [put, get?, same]
      · simp [put, get?, same, ih]

theorem get?_put_of_ne {name other : String} (differ : name ≠ other) (value : α)
    (shelf : Shelf α) : get? (put name value shelf) other = get? shelf other := by
  induction shelf with
  | nil => simp [put, get?, differ]
  | cons entry rest ih =>
      by_cases same : entry.1 = name
      · have elsewhere : entry.1 ≠ other := fun found => differ (same.symm.trans found)
        simp [put, get?, same, differ]
      · simp [put, get?, same, ih]

end Shelf

end Cowrite
