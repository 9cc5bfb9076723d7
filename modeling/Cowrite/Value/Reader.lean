import Cowrite.Value.Basic

/-!
# Reading values

The reader takes a value from the front of a text and returns what is left of the text. An entry
whose name comes a second time replaces the first. Inside quotation marks a character can be
written by its code point in base 16, and one beyond four digits by a pair of surrogates.

Every value begins with a character of its own, so a text cannot hold values nested more deeply
than it has characters, and the number of characters is enough fuel (`read?`).
-/

namespace Cowrite

namespace Value

/-- The rest of a text after its initial blanks. -/
def skipBlanks (input : List Char) : List Char :=
  input.dropWhile fun c => c == ' ' || c == '\n' || c == '\r' || c == '\t'

/-- The number that a digit of base 16 stands for. -/
def hexDigit? (c : Char) : Option Nat :=
  if '0' ≤ c && c ≤ '9' then some (c.toNat - '0'.toNat)
  else if 'a' ≤ c && c ≤ 'f' then some (c.toNat - 'a'.toNat + 10)
  else if 'A' ≤ c && c ≤ 'F' then some (c.toNat - 'A'.toNat + 10)
  else none

/-- The number that four digits of base 16 stand for. -/
def unit? (a b c d : Char) : Option Nat := do
  let a ← hexDigit? a
  let b ← hexDigit? b
  let c ← hexDigit? c
  let d ← hexDigit? d
  return ((a * 16 + b) * 16 + c) * 16 + d

/-- The character that one letter after a backslash stands for. -/
def escaped? (c : Char) : Option Char :=
  match c with
  | '"' => some '"'
  | '\\' => some '\\'
  | '/' => some '/'
  | 'b' => some '\x08'
  | 'f' => some '\x0c'
  | 'n' => some '\n'
  | 'r' => some '\r'
  | 't' => some '\t'
  | _ => none

def isHighSurrogate (unit : Nat) : Bool := 0xD800 ≤ unit && unit < 0xDC00

def isLowSurrogate (unit : Nat) : Bool := 0xDC00 ≤ unit && unit < 0xE000

/-- The character that two surrogates make, as far as there are two. -/
def ofSurrogates (high low : Nat) : Char :=
  Char.ofNat (0x10000 + (high - 0xD800) * 0x400 + (low - 0xDC00))

/-- Read a text up to its final quotation mark. The list holds what was read so far, newest
first. -/
def readText (done : List Char) : List Char → Option (String × List Char)
  | [] => none
  | '"' :: rest => some (String.ofList done.reverse, rest)
  | '\\' :: 'u' :: a :: b :: c :: d :: '\\' :: 'u' :: e :: f :: g :: h :: rest =>
      match unit? a b c d, unit? e f g h with
      | some high, some low =>
          if isHighSurrogate high && isLowSurrogate low then
            readText (ofSurrogates high low :: done) rest
          else readText (Char.ofNat low :: Char.ofNat high :: done) rest
      | _, _ => none
  | '\\' :: 'u' :: a :: b :: c :: d :: rest =>
      match unit? a b c d with
      | some code => readText (Char.ofNat code :: done) rest
      | none => none
  | '\\' :: c :: rest =>
      match escaped? c with
      | some c => readText (c :: done) rest
      | none => none
  | c :: rest => readText (c :: done) rest

def isNumberPart (c : Char) : Bool :=
  c.isDigit || c == '-' || c == '+' || c == '.' || c == 'e' || c == 'E'

/-- Read a number. A zero with a sign is not an integer, as there is no such integer. -/
def readNumber (input : List Char) : Option (Value × List Char) :=
  let spelling := String.ofList (input.takeWhile isNumberPart)
  let rest := input.dropWhile isNumberPart
  if spelling.isEmpty then none
  else if spelling = "-0" then some (.otherNumber spelling, rest)
  else
    match spelling.toInt? with
    | some value => some (.integer value, rest)
    | none => some (.otherNumber spelling, rest)

mutual

def readValue : Nat → List Char → Option (Value × List Char)
  | 0, _ => none
  | fuel + 1, input =>
      match skipBlanks input with
      | 'n' :: 'u' :: 'l' :: 'l' :: rest => some (.null, rest)
      | 't' :: 'r' :: 'u' :: 'e' :: rest => some (.bool true, rest)
      | 'f' :: 'a' :: 'l' :: 's' :: 'e' :: rest => some (.bool false, rest)
      | '"' :: rest => (readText [] rest).map fun found => (.text found.1, found.2)
      | '[' :: rest =>
          match skipBlanks rest with
          | ']' :: rest => some (.list [], rest)
          | rest => readItems fuel [] rest
      | '\x7b' :: rest =>
          match skipBlanks rest with
          | '\x7d' :: rest => some (.table [], rest)
          | rest => readEntries fuel [] rest
      | rest => readNumber rest

/-- Read the items of a list, after those that were read already, newest first. -/
def readItems : Nat → List Value → List Char → Option (Value × List Char)
  | 0, _, _ => none
  | fuel + 1, done, input =>
      match readValue fuel input with
      | none => none
      | some (item, rest) =>
          match skipBlanks rest with
          | ',' :: rest => readItems fuel (item :: done) rest
          | ']' :: rest => some (.list (item :: done).reverse, rest)
          | _ => none

/-- Read the entries of a table, after those that were read already. -/
def readEntries : Nat → List (String × Value) → List Char → Option (Value × List Char)
  | 0, _, _ => none
  | fuel + 1, done, input =>
      match skipBlanks input with
      | '"' :: rest =>
          match readText [] rest with
          | none => none
          | some (name, rest) =>
              match skipBlanks rest with
              | ':' :: rest =>
                  match readValue fuel rest with
                  | none => none
                  | some (value, rest) =>
                      let done := Shelf.put name value done
                      match skipBlanks rest with
                      | ',' :: rest => readEntries fuel done rest
                      | '\x7d' :: rest => some (.table done, rest)
                      | _ => none
              | _ => none
      | _ => none

end

/-- The value that a text spells, with nothing but blanks around it. -/
def read? (input : String) : Option Value :=
  let symbols := input.toList
  match readValue (symbols.length + 1) symbols with
  | some (value, rest) => if (skipBlanks rest).isEmpty then some value else none
  | none => none

end Value

end Cowrite
