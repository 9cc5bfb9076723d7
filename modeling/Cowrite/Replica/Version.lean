import Cowrite.Wire.Varint

/-!
# Versions of a replicated document

Every replica of a document has a number of its own and counts the operations that it makes: an
operation is named by its replica and by its index there (`OpId`). A `Version` says how many
operations of each replica are known. As operations of one replica are always taken up in order,
a version stands for a set of operations (`covers`), and everything that is asked about versions
is asked about their counts: `count` is the view through which versions are compared
(`agreesWith`, `isBelow`) and changed (`bump`).

Others hold versions as opaque tokens. A token is a version or bytes that do not spell one.
-/

namespace Cowrite

/-- The number of a replica. -/
abbrev ReplicaId := Nat

/-- The name of an operation: the replica that made it, and how many it had made before. -/
structure OpId where
  replica : ReplicaId
  index : Nat
  deriving DecidableEq, Repr

namespace OpId

/-- By replica, and within a replica by index. -/
def order (left right : OpId) : Ordering :=
  (compare left.replica right.replica).then (compare left.index right.index)

end OpId

/-- How many operations of each replica are known. Replicas of which none is known are left out,
and the others stand in the order of their numbers. -/
structure Version where
  counts : List (ReplicaId × Nat)
  deriving DecidableEq, Repr

namespace Version

/-- The version that knows nothing. -/
def empty : Version := ⟨[]⟩

/-- The count of a replica in a list of counts. -/
def countIn (replica : ReplicaId) : List (ReplicaId × Nat) → Nat
  | [] => 0
  | (other, number) :: rest => if other = replica then number else countIn replica rest

/-- How many operations of a replica are known. -/
def count (version : Version) (replica : ReplicaId) : Nat :=
  countIn replica version.counts

/-- Put a count into a list of counts, at its place in the order. -/
def setIn (replica : ReplicaId) (number : Nat) : List (ReplicaId × Nat) → List (ReplicaId × Nat)
  | [] => if number = 0 then [] else [(replica, number)]
  | (other, old) :: rest =>
      if other < replica then (other, old) :: setIn replica number rest
      else
        let rest := if other = replica then rest else (other, old) :: rest
        if number = 0 then rest else (replica, number) :: rest

/-- The version with the count of one replica replaced. -/
def set (version : Version) (replica : ReplicaId) (number : Nat) : Version :=
  ⟨setIn replica number version.counts⟩

/-- The version that knows one more operation of a replica. -/
def bump (version : Version) (replica : ReplicaId) : Version :=
  version.set replica (version.count replica + 1)

/-- Whether an operation is among those that the version knows. -/
def covers (version : Version) (id : OpId) : Bool :=
  id.index < version.count id.replica

/-- Whether everything that the one version knows is known to the other too. -/
def isBelow (left right : Version) : Bool :=
  left.counts.all fun entry => entry.2 ≤ right.count entry.1

/-- Whether two versions know the same. -/
def agreesWith (left right : Version) : Bool :=
  left.isBelow right && right.isBelow left

/-- Read the counts of so many replicas on top of those read before. Counts travel as signed
numbers; a negative one knows as little as 0. -/
def decodeCounts : Nat → Version → Bytes → Option Version
  | 0, version, _ => some version
  | entries + 1, version, bytes =>
      match Wire.decodeNumber 64 bytes with
      | .error _ => none
      | .ok (replica, bytes) =>
          match Wire.decodeSigned 32 bytes with
          | .error _ => none
          | .ok (number, bytes) => decodeCounts entries (version.set replica number.toNat) bytes

/-- Read a version: how many replicas it lists, and then the number and the count of each. No
bytes at all are the version that knows nothing. -/
def decode? (bytes : Bytes) : Option Version :=
  if bytes.isEmpty then some .empty
  else
    match Wire.decodeNumber 64 bytes with
    | .error _ => none
    | .ok (entries, bytes) => decodeCounts entries .empty bytes

end Version

/-- A version in the hands of somebody who does not look into it. -/
inductive VersionToken where
  /-- A version. -/
  | known (version : Version)
  /-- Bytes that spell no version. -/
  | unreadable
  deriving DecidableEq, Repr

namespace VersionToken

/-- The token that some bytes are. -/
def ofBytes (bytes : Bytes) : VersionToken :=
  match Version.decode? bytes with
  | some version => .known version
  | none => .unreadable

end VersionToken

end Cowrite
