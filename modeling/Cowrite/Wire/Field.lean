import Cowrite.Wire.Varint

/-!
# Fields of messages

What messages are made of besides numbers: byte strings and texts, which follow their length in
bytes, optional parts, and parts of a fixed length. A text has to be UTF-8; whether it is, is
judged only once all its bytes are there.
-/

namespace Cowrite.Wire

/-- The UTF-8 form of a text. -/
def utf8 (text : String) : Bytes :=
  text.toUTF8.data.toList

/-- The text that some bytes spell in UTF-8. -/
def ofUtf8? (bytes : Bytes) : Option String :=
  String.fromUTF8? ⟨bytes.toArray⟩

/-- Read a part of fixed length. -/
def takeBytes (count : Nat) (bytes : Bytes) : Except DecodeError (Bytes × Bytes) :=
  if count ≤ bytes.length then .ok (bytes.take count, bytes.drop count) else .error .endOfInput

/-- Write a byte string. -/
def encodeBytes (bytes : Bytes) : Bytes :=
  encodeNumber bytes.length ++ bytes

/-- Read a byte string. -/
def decodeBytes (bytes : Bytes) : Except DecodeError (Bytes × Bytes) := do
  let (length, rest) ← decodeNumber 64 bytes
  takeBytes length rest

/-- Write a text. -/
def encodeText (text : String) : Bytes :=
  encodeBytes (utf8 text)

/-- Read a text. -/
def decodeText (bytes : Bytes) : Except DecodeError (String × Bytes) := do
  let (spelling, rest) ← decodeBytes bytes
  match ofUtf8? spelling with
  | some text => .ok (text, rest)
  | none => .error .badText

/-- Write an optional part. -/
def encodeOption {α : Type} (encode : α → Bytes) : Option α → Bytes
  | none => [0]
  | some value => 1 :: encode value

/-- Read an optional part. -/
def decodeOption {α : Type} (decode : Bytes → Except DecodeError (α × Bytes)) :
    Bytes → Except DecodeError (Option α × Bytes)
  | [] => .error .endOfInput
  | tag :: rest =>
      if tag = 0 then .ok (none, rest)
      else if tag = 1 then do
        let (value, rest) ← decode rest
        .ok (some value, rest)
      else .error .badOption

/-- Write the number of a variant. -/
def encodeVariant (number : Nat) : Bytes :=
  encodeNumber number

/-- Read the number of a variant. -/
def decodeVariant (bytes : Bytes) : Except DecodeError (Nat × Bytes) :=
  decodeNumber 32 bytes

end Cowrite.Wire
