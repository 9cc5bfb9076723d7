import Cowrite.Crypto.Aes

/-!
# Authenticated encryption

AES-256 in Galois/counter mode, without associated data. The text is added to a stream of bytes
that the key and a nonce of twelve bytes determine, so that encrypting and decrypting are the same
operation (`applyStream`), and the ciphertext is authenticated by a tag of sixteen bytes: the
value at a secret point of the polynomial that has the blocks of the ciphertext and its length as
coefficients, over the field with 2^128 elements.

A sealed text is the nonce, the ciphertext and the tag. Opening recomputes the tag from the nonce
and the ciphertext and refuses everything that does not carry it.
-/

namespace Cowrite.Gcm

def nonceSize : Nat := 12

def tagSize : Nat := 16

/-- Sixteen bytes as one number, first byte highest. -/
def blockOf (bytes : Bytes) : BitVec 128 :=
  (List.range 16).foldl
    (fun block index => (block <<< 8) ||| (bytes.getD index 0).toBitVec.setWidth 128) 0

/-- The sixteen bytes of a block. -/
def bytesOf (block : BitVec 128) : Bytes :=
  (List.range 16).map fun index => UInt8.ofBitVec ((block >>> (8 * (15 - index))).setWidth 8)

/-- The product in the field with 2^128 elements, where the highest bit is the constant term. -/
def multiply (a b : BitVec 128) : BitVec 128 :=
  ((List.range 128).foldl
    (fun (state : BitVec 128 × BitVec 128) index =>
      let sum := if a.getMsbD index then state.1 ^^^ state.2 else state.1
      let shifted := state.2 >>> 1
      (sum, if state.2.getLsbD 0 then shifted ^^^ (0xe1#128 <<< 120) else shifted))
    (0, b)).1

/-- The pieces of sixteen bytes, of which the last one may be shorter. -/
def blocks (bytes : Bytes) : List Bytes :=
  if bytes.isEmpty then [] else bytes.take 16 :: blocks (bytes.drop 16)
termination_by bytes.length
decreasing_by
  cases bytes with
  | nil => simp_all
  | cons byte rest =>
      rw [List.length_drop, List.length_cons]
      omega

/-- The polynomial of a ciphertext at a point. -/
def hash (point : BitVec 128) (ciphertext : Bytes) : BitVec 128 :=
  let sum := (blocks ciphertext).foldl
    (fun sum block => multiply (sum ^^^ blockOf block) point) 0
  multiply (sum ^^^ BitVec.ofNat 128 (8 * ciphertext.length)) point

/-- The block of a nonce and a counter. -/
def counterBlock (nonce : Bytes) (counter : Nat) : Bytes :=
  nonce ++ [(counter >>> 24).toUInt8, (counter >>> 16).toUInt8, (counter >>> 8).toUInt8,
    counter.toUInt8]

/-- Add a stream to a text, as far as the stream goes. -/
def addStream : Bytes → Bytes → Bytes
  | [], _ => []
  | text, [] => text
  | byte :: text, mask :: stream => (byte ^^^ mask) :: addStream text stream

/-- The stream for a text of so many bytes. -/
def stream (keys : List Bytes) (nonce : Bytes) (count : Nat) : Bytes :=
  (List.range ((count + 15) / 16)).flatMap fun index =>
    Aes.encryptBlock keys (counterBlock nonce (index + 2))

/-- Encrypt or decrypt. -/
def applyStream (keys : List Bytes) (nonce text : Bytes) : Bytes :=
  addStream text (stream keys nonce text.length)

/-- The tag of a ciphertext. -/
def tag (keys : List Bytes) (nonce ciphertext : Bytes) : Bytes :=
  let point := blockOf (Aes.encryptBlock keys (List.replicate 16 0))
  let mask := blockOf (Aes.encryptBlock keys (counterBlock nonce 1))
  bytesOf (hash point ciphertext ^^^ mask)

/-- Seal a text under a key with a nonce. -/
def sealText (key nonce text : Bytes) : Bytes :=
  let keys := Aes.roundKeys key
  let ciphertext := applyStream keys nonce text
  nonce ++ ciphertext ++ tag keys nonce ciphertext

/-- Open what `sealText` made; `none` for anything else. -/
def openText (key sealed : Bytes) : Option Bytes :=
  let keys := Aes.roundKeys key
  let nonce := sealed.take nonceSize
  let body := sealed.drop nonceSize
  let ciphertext := body.take (body.length - tagSize)
  if body.drop (body.length - tagSize) = tag keys nonce ciphertext then
    some (applyStream keys nonce ciphertext)
  else none

end Cowrite.Gcm
