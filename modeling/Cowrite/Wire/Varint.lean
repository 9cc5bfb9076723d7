/-!
# Numbers of variable length

Numbers travel in base 128, low digit first: each byte carries seven bits, and its high bit says
that another byte follows. A reader is told how many bits the number may have. The last byte that
can hold some of these bits must end the number and must not hold more, so that a number of 64
bits takes at most ten bytes, the tenth at most 1, and a number of 32 bits at most five, the fifth
at most 15. Within these bounds longer spellings than needed are read as well.
-/

namespace Cowrite

/-- A sequence of bytes. -/
abbrev Bytes := List UInt8

namespace Wire

/-- Why bytes do not spell a value. -/
inductive DecodeError where
  /-- The bytes end inside the value. -/
  | endOfInput
  /-- A number does not end, or has more bits than it may. -/
  | badNumber
  /-- A text is not UTF-8. -/
  | badText
  /-- An optional part is announced by neither 0 nor 1. -/
  | badOption
  /-- The value is of no known kind. -/
  | unknownVariant
  deriving DecidableEq, Repr

namespace DecodeError

def message : DecodeError → String
  | .endOfInput => "Hit the end of buffer, expected more data"
  | .badNumber =>
      "Found a varint that didn't terminate. Is the usize too big for this platform?"
  | .badText => "Tried to parse invalid utf-8"
  | .badOption => "Found an Option discriminant that wasn't 0 or 1"
  | .unknownVariant => "Serde Deserialization Error"

end DecodeError

/-- Write a number. -/
def encodeNumber (number : Nat) : Bytes :=
  if number < 128 then [number.toUInt8]
  else (number % 128 + 128).toUInt8 :: encodeNumber (number / 128)

/-- Read a number of at most `bits` bits from the front of some bytes, and return the bytes after
it too, as all readers here do. -/
def decodeNumber (bits : Nat) : Bytes → Except DecodeError (Nat × Bytes)
  | [] => .error .endOfInput
  | byte :: rest =>
      let digit := byte.toNat
      if bits ≤ 7 then
        if digit < 1 <<< bits then .ok (digit, rest) else .error .badNumber
      else if digit < 128 then .ok (digit, rest)
      else
        match decodeNumber (bits - 7) rest with
        | .ok (high, rest) => .ok (digit - 128 + 128 * high, rest)
        | .error error => .error error

/-- Read a signed number of at most `bits` bits, written so that 0, -1, 1, -2, .. become
0, 1, 2, 3, .. -/
def decodeSigned (bits : Nat) (bytes : Bytes) : Except DecodeError (Int × Bytes) :=
  match decodeNumber bits bytes with
  | .ok (number, rest) =>
      .ok (if number % 2 = 0 then (number / 2 : Int) else -(number / 2 : Int) - 1, rest)
  | .error error => .error error

end Wire

end Cowrite
