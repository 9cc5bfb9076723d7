import Cowrite.Shelf

/-!
# Values of files and tools

Settings are read from files, and tools that watch or drive a session exchange values with it. Both
are written in JSON. A `Value` is what is written: numbers are whole, and of any other number only
its spelling is kept, as nothing here has a use for one.
-/

namespace Cowrite

/-- A value as it is written in JSON. -/
inductive Value where
  | null
  | bool (value : Bool)
  | integer (value : Int)
  /-- A number that is not written as an integer. -/
  | otherNumber (spelling : String)
  | text (value : String)
  | list (items : List Value)
  | table (entries : List (String × Value))
  deriving Inhabited

namespace Value

def isNull : Value → Bool
  | .null => true
  | _ => false

/-- An entry of a table; null if there is none. -/
def entry (value : Value) (name : String) : Value :=
  match value with
  | .table entries => (Shelf.get? entries name).getD .null
  | _ => .null

/-- A whole number that is not negative. -/
def toNat? : Value → Option Nat
  | .integer value => if 0 ≤ value then some value.toNat else none
  | _ => none

/-- A whole number below a limit. -/
def toNatBelow? (limit : Nat) (value : Value) : Option Nat :=
  value.toNat?.filter (· < limit)

def toBool? : Value → Option Bool
  | .bool value => some value
  | _ => none

def toText? : Value → Option String
  | .text value => some value
  | _ => none

def toList? : Value → Option (List Value)
  | .list items => some items
  | _ => none

/-- A text that may be missing. -/
def toOptionalText? : Value → Option (Option String)
  | .null => some none
  | .text value => some (some value)
  | _ => none

end Value

end Cowrite
