import Cowrite.Telemetry
import Cowrite.Text.Basic
import Cowrite.Text.Spelling
import Cowrite.Value.Reader
import Cowrite.Wire.Varint

/-!
# Forms of things in values

How a type of things is written as values (`ToValue`) and read from them (`OfValue`). Reading
refuses whatever has not the right form. Texts are written as texts, bytes as texts of digits of
base 16, and what may be missing is null then.
-/

namespace Cowrite

/-- Things that can be written as values. -/
class ToValue (α : Type) where
  toValue : α → Value

/-- Things that can be read from values. -/
class OfValue (α : Type) where
  ofValue? : Value → Option α

export ToValue (toValue)
export OfValue (ofValue?)

/-- An entry of a table to be. -/
def row {α : Type} [ToValue α] (name : String) (thing : α) : String × Value :=
  (name, toValue thing)

namespace Value

/-- An entry of a table as a thing of some type. -/
def entryAs? (α : Type) [OfValue α] (value : Value) (name : String) : Option α :=
  ofValue? (value.entry name)

/-- The name and the content of a table with a single entry, such as a tagged value. -/
def toTagged? : Value → Option (String × Value)
  | .table [entry] => some entry
  | _ => none

end Value

namespace Hex

/-- The bytes that pairs of digits spell. -/
def bytesOfDigits? : List Char → Option Bytes
  | [] => some []
  | [_] => none
  | high :: low :: rest => do
      let high ← Value.hexDigit? high
      let low ← Value.hexDigit? low
      let bytes ← bytesOfDigits? rest
      return (high * 16 + low).toUInt8 :: bytes

end Hex

instance : ToValue Value := ⟨id⟩

instance : OfValue Value := ⟨some⟩

instance : ToValue Nat := ⟨fun number => .integer number⟩

instance : OfValue Nat := ⟨Value.toNat?⟩

instance : OfValue Int where
  ofValue?
    | .integer value => some value
    | _ => none

instance : ToValue Bool := ⟨.bool⟩

instance : OfValue Bool := ⟨Value.toBool?⟩

instance : ToValue String := ⟨.text⟩

instance : OfValue String := ⟨Value.toText?⟩

instance {α : Type} [ToValue α] : ToValue (List α) :=
  ⟨fun items => .list (items.map toValue)⟩

instance {α : Type} [OfValue α] : OfValue (List α) :=
  ⟨fun value => value.toList?.bind fun items => items.mapM ofValue?⟩

instance {α : Type} [ToValue α] : ToValue (Option α) where
  toValue
    | none => .null
    | some thing => toValue thing

instance {α : Type} [OfValue α] : OfValue (Option α) where
  ofValue?
    | .null => some none
    | value => (ofValue? value).map some

/-- An order is shown as a sign. -/
instance : ToValue Ordering where
  toValue
    | .lt => .integer (-1)
    | .eq => .integer 0
    | .gt => .integer 1

/-- What has been done without a value of its own is shown as done. -/
instance : ToValue Unit := ⟨fun _ => .text "ok"⟩

instance {ε α : Type} [ToValue ε] [ToValue α] : ToValue (Except ε α) where
  toValue
    | .ok thing => toValue thing
    | .error error => toValue error

namespace Report

/-- The entries of a report. What the report does not have is left out. -/
def entries (report : Report) : List (String × Value) :=
  [row "message" report.message] ++ report.code.toList.map (row "code") ++
    report.help.toList.map (row "help") ++ report.cause.toList.map (row "cause")

end Report

instance : ToValue Text := ⟨fun text => .text (String.ofList text)⟩

instance : OfValue Text := ⟨fun value => value.toText?.map String.toList⟩

instance : ToValue Bytes := ⟨fun bytes => .text (Hex.ofBytes bytes)⟩

instance : OfValue Bytes :=
  ⟨fun value => value.toText?.bind fun text => Hex.bytesOfDigits? text.toList⟩

end Cowrite
