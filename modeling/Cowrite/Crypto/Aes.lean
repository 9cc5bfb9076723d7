import Cowrite.Wire.Varint

/-!
# The block cipher AES with keys of 256 bits

A block has sixteen bytes, read as four columns of four. A round replaces every byte through the
substitution table, rotates the rows, mixes each column as a polynomial over the field with 256
elements, and adds a round key; the last of the fourteen rounds does not mix. Only encryption is
needed here, as the modes of operation in use never decrypt a block.
-/

namespace Cowrite.Aes

/-- Multiplication by x in the field with 256 elements, modulo x^8 + x^4 + x^3 + x + 1. -/
def double (a : UInt8) : UInt8 :=
  (a <<< 1) ^^^ (if a ≥ 0x80 then 0x1b else 0)

/-- Multiplication in the field, by so many of the low bits of `b`. -/
def multiply : Nat → UInt8 → UInt8 → UInt8
  | 0, _, _ => 0
  | bits + 1, a, b =>
      (if b &&& 1 = 1 then a else 0) ^^^ multiply bits (double a) (b >>> 1)

/-- The inverse in the field, as the power with exponent 254; 0 stays 0. -/
def inverse (a : UInt8) : UInt8 :=
  let times := multiply 8
  let a2 := times a a
  let a4 := times a2 a2
  let a8 := times a4 a4
  let a16 := times a8 a8
  let a32 := times a16 a16
  let a64 := times a32 a32
  let a128 := times a64 a64
  times a128 (times a64 (times a32 (times a16 (times a8 (times a4 a2)))))

/-- Rotation of a byte to the left. -/
def rotate (a : UInt8) (count : UInt8) : UInt8 :=
  (a <<< count) ||| (a >>> (8 - count))

/-- The substitution of one byte: inversion, and then an affine map over the bits. -/
def substitution (a : UInt8) : UInt8 :=
  let b := inverse a
  b ^^^ rotate b 1 ^^^ rotate b 2 ^^^ rotate b 3 ^^^ rotate b 4 ^^^ 0x63

/-- The table of substitutions. -/
def substitutions : Array UInt8 :=
  (Array.range 256).map fun a => substitution a.toUInt8

/-- Replace a byte through the table. -/
def substitute (a : UInt8) : UInt8 :=
  substitutions.getD a.toNat 0

/-- Bytewise sum of two words or blocks. -/
def add (left right : Bytes) : Bytes :=
  List.zipWith (· ^^^ ·) left right

/-! ## Round keys -/

/-- The words of the key schedule up to the given number of words after the key itself. -/
def scheduleWords (key : Array Bytes) : Nat → Array Bytes
  | 0 => key
  | count + 1 =>
      let words := scheduleWords key count
      let index := count + 8
      let last := words.getD (index - 1) []
      let mixed :=
        if index % 8 = 0 then
          let round := (List.replicate (index / 8 - 1) ()).foldl (fun a _ => double a) 1
          add ((last.drop 1 ++ last.take 1).map substitute) [round, 0, 0, 0]
        else if index % 8 = 4 then last.map substitute
        else last
      words.push (add (words.getD (index - 8) []) mixed)

/-- The fifteen round keys of a key of 32 bytes. -/
def roundKeys (key : Bytes) : List Bytes :=
  let first := (Array.range 8).map fun index => (key.drop (4 * index)).take 4
  let words := scheduleWords first 52
  (List.range 15).map fun round =>
    (List.range 4).flatMap fun column => words.getD (4 * round + column) []

/-! ## Rounds -/

/-- Rotate the row with number r by r columns. -/
def shiftRows (block : Bytes) : Bytes :=
  (List.range 16).map fun index => block.getD ((index + 4 * (index % 4)) % 16) 0

/-- Mix the column that starts at the given index. -/
def mixColumn (block : Bytes) (start : Nat) : Bytes :=
  let a := block.getD start 0
  let b := block.getD (start + 1) 0
  let c := block.getD (start + 2) 0
  let d := block.getD (start + 3) 0
  let all := a ^^^ b ^^^ c ^^^ d
  [a ^^^ all ^^^ double (a ^^^ b), b ^^^ all ^^^ double (b ^^^ c),
   c ^^^ all ^^^ double (c ^^^ d), d ^^^ all ^^^ double (d ^^^ a)]

def mixColumns (block : Bytes) : Bytes :=
  [0, 4, 8, 12].flatMap (mixColumn block)

/-- The rounds after the first key addition. -/
def rounds (block : Bytes) : List Bytes → Bytes
  | [] => block
  | [last] => add (shiftRows (block.map substitute)) last
  | key :: rest => rounds (add (mixColumns (shiftRows (block.map substitute))) key) rest

/-- Encrypt one block under the given round keys. -/
def encryptBlock (keys : List Bytes) (block : Bytes) : Bytes :=
  match keys with
  | [] => block
  | first :: rest => rounds (add block first) rest

end Cowrite.Aes
