import Cowrite.Wire.Varint

/-!
# The hash SHA-256, and message authentication with it

The message is padded to blocks of 64 bytes, and each block is mixed into a state of eight words
in 64 rounds. `authenticate` is the usual construction that hashes twice, with the key in front
each time (HMAC).
-/

namespace Cowrite.Sha256

/-- The constants of the 64 rounds. -/
def roundConstants : Array UInt32 :=
  #[0x428a2f98, 0x71374491, 0xb5c0fbcf, 0xe9b5dba5, 0x3956c25b, 0x59f111f1, 0x923f82a4, 0xab1c5ed5,
    0xd807aa98, 0x12835b01, 0x243185be, 0x550c7dc3, 0x72be5d74, 0x80deb1fe, 0x9bdc06a7, 0xc19bf174,
    0xe49b69c1, 0xefbe4786, 0x0fc19dc6, 0x240ca1cc, 0x2de92c6f, 0x4a7484aa, 0x5cb0a9dc, 0x76f988da,
    0x983e5152, 0xa831c66d, 0xb00327c8, 0xbf597fc7, 0xc6e00bf3, 0xd5a79147, 0x06ca6351, 0x14292967,
    0x27b70a85, 0x2e1b2138, 0x4d2c6dfc, 0x53380d13, 0x650a7354, 0x766a0abb, 0x81c2c92e, 0x92722c85,
    0xa2bfe8a1, 0xa81a664b, 0xc24b8b70, 0xc76c51a3, 0xd192e819, 0xd6990624, 0xf40e3585, 0x106aa070,
    0x19a4c116, 0x1e376c08, 0x2748774c, 0x34b0bcb5, 0x391c0cb3, 0x4ed8aa4a, 0x5b9cca4f, 0x682e6ff3,
    0x748f82ee, 0x78a5636f, 0x84c87814, 0x8cc70208, 0x90befffa, 0xa4506ceb, 0xbef9a3f7, 0xc67178f2]

/-- The eight words of the state. -/
structure State where
  a : UInt32
  b : UInt32
  c : UInt32
  d : UInt32
  e : UInt32
  f : UInt32
  g : UInt32
  h : UInt32

def State.initial : State :=
  ⟨0x6a09e667, 0xbb67ae85, 0x3c6ef372, 0xa54ff53a, 0x510e527f, 0x9b05688c, 0x1f83d9ab, 0x5be0cd19⟩

def State.words (state : State) : List UInt32 :=
  [state.a, state.b, state.c, state.d, state.e, state.f, state.g, state.h]

def State.add (left right : State) : State :=
  ⟨left.a + right.a, left.b + right.b, left.c + right.c, left.d + right.d,
   left.e + right.e, left.f + right.f, left.g + right.g, left.h + right.h⟩

/-- Rotation of a word to the right. -/
def rotate (word count : UInt32) : UInt32 :=
  (word >>> count) ||| (word <<< (32 - count))

/-- The bytes of a word, highest first. -/
def wordBytes (word : UInt32) : Bytes :=
  [(word >>> 24).toUInt8, (word >>> 16).toUInt8, (word >>> 8).toUInt8, word.toUInt8]

/-- The word at a byte offset. -/
def wordAt (bytes : Bytes) (offset : Nat) : UInt32 :=
  (List.range 4).foldl
    (fun word index => (word <<< 8) ||| (bytes.getD (offset + index) 0).toUInt32) 0

/-- The message followed by a mark, zeros and its length in bits, up to a full block. -/
def pad (message : Bytes) : Bytes :=
  let zeros : Bytes := List.replicate ((119 - message.length % 64) % 64) 0
  let length : Bytes := (List.range 8).map fun index =>
    ((8 * message.length) >>> (8 * (7 - index))).toUInt8
  message ++ [0x80] ++ zeros ++ length

/-- The sixteen words of a block and as many more as asked for. -/
def schedule (block : Bytes) : Nat → Array UInt32
  | 0 => (Array.range 16).map fun index => wordAt block (4 * index)
  | count + 1 =>
      let words := schedule block count
      let index := count + 16
      let early := words.getD (index - 15) 0
      let late := words.getD (index - 2) 0
      let small := rotate early 7 ^^^ rotate early 18 ^^^ (early >>> 3)
      let large := rotate late 17 ^^^ rotate late 19 ^^^ (late >>> 10)
      words.push (words.getD (index - 16) 0 + small + words.getD (index - 7) 0 + large)

/-- One round. -/
def mix (state : State) (constant word : UInt32) : State :=
  let choice := (state.e &&& state.f) ^^^ (~~~state.e &&& state.g)
  let majority := (state.a &&& state.b) ^^^ (state.a &&& state.c) ^^^ (state.b &&& state.c)
  let upper := rotate state.e 6 ^^^ rotate state.e 11 ^^^ rotate state.e 25
  let lower := rotate state.a 2 ^^^ rotate state.a 13 ^^^ rotate state.a 22
  let added := state.h + upper + choice + constant + word
  ⟨added + lower + majority, state.a, state.b, state.c, state.d + added, state.e, state.f, state.g⟩

/-- Mix one block into the state. -/
def compress (state : State) (block : Bytes) : State :=
  let words := schedule block 48
  state.add <| (List.range 64).foldl
    (fun state index => mix state (roundConstants.getD index 0) (words.getD index 0)) state

/-- Mix so many blocks into the state. -/
def compressAll (state : State) (bytes : Bytes) : Nat → State
  | 0 => state
  | count + 1 => compressAll (compress state (bytes.take 64)) (bytes.drop 64) count

/-- The digest of a message: 32 bytes. -/
def digest (message : Bytes) : Bytes :=
  let padded := pad message
  (compressAll .initial padded (padded.length / 64)).words.flatMap wordBytes

/-- The authentication code of a message under a key. -/
def authenticate (key message : Bytes) : Bytes :=
  let short := if key.length ≤ 64 then key else digest key
  let block := short ++ List.replicate (64 - short.length) 0
  digest (block.map (· ^^^ 0x5c) ++ digest (block.map (· ^^^ 0x36) ++ message))

end Cowrite.Sha256
