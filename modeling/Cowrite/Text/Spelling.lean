import Cowrite.Wire.Varint

/-!
# Numbers, bytes and texts in writing

Names of replicas, rooms and clients are numbers of a fixed width in base 16, most significant
digit first and in lower case; bytes are two digits each (`Hex`).

Where bytes have to survive in URLs and in a shell, they are written with 64 symbols (`Base64`):
three bytes make four symbols, a rest of one or two bytes makes two or three, and there is no
padding. Reading is strict: it accepts only what writing produces, so a foreign symbol, padding, a
rest of a single symbol, and unused bits that are not zero are all refused.

A text is written between quotation marks, with the marks, backslashes and control characters inside
it escaped (`Quoted`). The five control characters that have a letter use it, and the others are
written by their code point in four digits of base 16. Everything else stands as it is.
-/

namespace Cowrite.Hex

/-- The digit of a number below 16. -/
def digit (number : Nat) : Char :=
  "0123456789abcdef".toList.getD number '0'

/-- A number in at least `width` digits. -/
def ofNat (width number : Nat) : String :=
  let digits := Nat.toDigits 16 number
  String.ofList (List.replicate (width - digits.length) '0' ++ digits)

/-- Two digits for each byte. -/
def ofBytes (bytes : List UInt8) : String :=
  String.ofList (bytes.flatMap fun byte => [digit (byte.toNat / 16), digit (byte.toNat % 16)])

/-- Whether a text consists of digits as they are written here. -/
def isSpelling (text : String) : Bool :=
  text.toList.all fun c => ('0' ≤ c && c ≤ '9') || ('a' ≤ c && c ≤ 'f')

end Cowrite.Hex

namespace Cowrite.Base64

/-- The symbols, in the order of what they stand for. -/
def alphabet : List Char :=
  "ABCDEFGHIJKLMNOPQRSTUVWXYZabcdefghijklmnopqrstuvwxyz0123456789-_".toList

/-- The symbol for a number below 64. -/
def symbol (number : Nat) : Char :=
  alphabet.getD number 'A'

/-- The number that a symbol stands for. -/
def value? (c : Char) : Option Nat :=
  alphabet.findIdx? (· == c)

/-- Write bytes. -/
def encode : Bytes → List Char
  | [] => []
  | [a] =>
      let bits := a.toNat * 16
      [symbol (bits / 64), symbol (bits % 64)]
  | [a, b] =>
      let bits := (a.toNat * 256 + b.toNat) * 4
      [symbol (bits / 4096), symbol (bits / 64 % 64), symbol (bits % 64)]
  | a :: b :: c :: rest =>
      let bits := (a.toNat * 256 + b.toNat) * 256 + c.toNat
      symbol (bits / 262144) :: symbol (bits / 4096 % 64) :: symbol (bits / 64 % 64) ::
        symbol (bits % 64) :: encode rest

/-- Read the numbers that the symbols stand for as bytes. -/
def decodeValues : List Nat → Option Bytes
  | [] => some []
  | [_] => none
  | [p, q] =>
      let bits := p * 64 + q
      if bits % 16 = 0 then some [(bits / 16).toUInt8] else none
  | [p, q, r] =>
      let bits := (p * 64 + q) * 64 + r
      if bits % 4 = 0 then some [(bits / 1024).toUInt8, (bits / 4).toUInt8] else none
  | p :: q :: r :: s :: rest =>
      let bits := ((p * 64 + q) * 64 + r) * 64 + s
      (decodeValues rest).map
        ((bits / 65536).toUInt8 :: (bits / 256).toUInt8 :: bits.toUInt8 :: ·)

/-- Read symbols. -/
def decode (symbols : List Char) : Option Bytes :=
  (symbols.mapM value?).bind decodeValues

end Cowrite.Base64

namespace Cowrite.Quoted

/-- A character as it stands inside the quotation marks. -/
def escape (c : Char) : List Char :=
  if c = '"' then ['\\', '"']
  else if c = '\\' then ['\\', '\\']
  else if c = '\x08' then ['\\', 'b']
  else if c = '\x0c' then ['\\', 'f']
  else if c = '\n' then ['\\', 'n']
  else if c = '\r' then ['\\', 'r']
  else if c = '\t' then ['\\', 't']
  else if c.toNat < 32 then
    ['\\', 'u', '0', '0', Hex.digit (c.toNat / 16), Hex.digit (c.toNat % 16)]
  else [c]

/-- The text in quotation marks. -/
def encode (text : String) : String :=
  String.ofList ('"' :: text.toList.flatMap escape ++ ['"'])

end Cowrite.Quoted
