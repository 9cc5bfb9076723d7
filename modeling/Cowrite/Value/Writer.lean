import Cowrite.Text.Spelling
import Cowrite.Value.Basic

/-!
# Writing values

A value is written on one line, without blanks, and with its entries in their order.
-/

namespace Cowrite

namespace Value

mutual

/-- The value in writing. -/
def render : Value → String
  | .null => "null"
  | .bool value => if value then "true" else "false"
  | .integer value => toString value
  | .otherNumber spelling => spelling
  | .text value => Quoted.encode value
  | .list items => "[" ++ renderItems items ++ "]"
  | .table entries => "\x7b" ++ renderEntries entries ++ "\x7d"

/-- Items, with commas between them. -/
def renderItems : List Value → String
  | [] => ""
  | [item] => item.render
  | item :: next :: rest => item.render ++ "," ++ renderItems (next :: rest)

/-- Entries, with commas between them. -/
def renderEntries : List (String × Value) → String
  | [] => ""
  | [(name, value)] => Quoted.encode name ++ ":" ++ value.render
  | (name, value) :: next :: rest =>
      Quoted.encode name ++ ":" ++ value.render ++ "," ++ renderEntries (next :: rest)

end

end Value

end Cowrite
