import Cowrite.Replica.Sequence
import Cowrite.Text.Delta
import Cowrite.Text.Spelling

/-!
# Replicas of a shared document

A replica holds a document that several people write in at once. Every change is made of
operations, each the insertion or the deletion of one character. An operation carries its name,
the version of the replica that made it (everything it may depend on) and, for an insertion, the
place of the character; so it means the same at every replica that takes it up.

* Local edits (`edit`, `setText`) become operations of the replica itself: first the deletions, in
  the order of the text, then the insertions.
* `updateSince` gives another replica what it does not have, and `apply` takes such an update up.
  An operation that depends on others which are not known yet waits until they are.
* Every update that changes the text leaves the walk from the old text to the new one behind, to
  be taken by `takeWalks`.

Two replicas with the same version hold the same operations, and the text depends on these alone.
-/

namespace Cowrite

/-- What an operation does. -/
inductive Action where
  /-- Insert a character on a side of its parent. -/
  | insert (parent : Path) (side : Side) (char : Char)
  /-- Delete a character. -/
  | delete (target : OpId)
  deriving DecidableEq, Repr

/-- An operation: its name, the version at which it was made, and what it does. -/
structure Operation where
  id : OpId
  context : Version
  action : Action
  deriving DecidableEq, Repr

/-- What one replica sends to another. -/
inductive Update where
  /-- Nothing at all. -/
  | empty
  /-- Some operations, oldest first. There may be none, and still this is not nothing. -/
  | operations (operations : List Operation)
  /-- Bytes that no replica understands. -/
  | malformed
  deriving DecidableEq, Repr

namespace Update

def isEmpty : Update → Bool
  | .empty => true
  | _ => false

end Update

/-- What a replica refuses. -/
inductive ReplicaError where
  /-- An update that is not one. -/
  | malformedUpdate
  /-- A version token that is not one. -/
  | unreadableVersion
  deriving DecidableEq, Repr

namespace ReplicaError

/-- The code to look the error up by. -/
def code : ReplicaError → String
  | .malformedUpdate => "tandem::crdt::import"
  | .unreadableVersion => "tandem::crdt::state_vector"

end ReplicaError

/-- A replica of a document. -/
structure Replica where
  /-- Its number. -/
  id : ReplicaId
  /-- How many operations of each replica it has taken up. -/
  version : Version := .empty
  /-- The operations taken up, newest first. -/
  log : List Operation := []
  /-- Operations that depend on unknown ones. -/
  waiting : List Operation := []
  /-- The characters in reading order. -/
  sequence : Sequence := []
  /-- Walks over the text that updates have caused, oldest first. -/
  walks : List Walk := []
  deriving DecidableEq, Repr

namespace Replica

/-- The text of the document. -/
def text (replica : Replica) : Text :=
  replica.sequence.text

/-- Whether the text is empty. -/
def isEmpty (replica : Replica) : Bool :=
  replica.text.isEmpty

/-- The number of the replica in writing. -/
def idText (replica : Replica) : String :=
  Hex.ofNat 16 replica.id

/-! ## Operations -/

/-- What an operation does to the sequence of characters. -/
def perform (sequence : Sequence) (operation : Operation) : Sequence :=
  match operation.action with
  | .insert parent side char => sequence.insert { id := operation.id, parent, side, char }
  | .delete target => sequence.delete target

/-- Take an operation up. -/
def takeUp (replica : Replica) (operation : Operation) : Replica :=
  { replica with
    version := replica.version.bump operation.id.replica
    log := operation :: replica.log
    sequence := perform replica.sequence operation }

/-- Make an operation of one's own. -/
def make (replica : Replica) (action : Action) : Replica :=
  replica.takeUp
    { id := ⟨replica.id, replica.version.count replica.id⟩
      context := replica.version
      action }

/-! ## Local edits -/

/-- Delete the visible character that has `index` visible ones before it. -/
def deleteAt (replica : Replica) (index : Nat) : Replica :=
  match replica.sequence.visible? index with
  | some target => replica.make (.delete target)
  | none => replica

/-- Delete so many visible characters one after the other, all at one place. -/
def deleteRun (replica : Replica) (index : Nat) : Nat → Replica
  | 0 => replica
  | count + 1 => (replica.deleteAt index).deleteRun index count

/-- Insert a character after `index` visible ones. -/
def insertAt (replica : Replica) (index : Nat) (char : Char) : Replica :=
  let (parent, side) := replica.sequence.spotAfter index
  replica.make (.insert parent side char)

/-- Insert a text after `index` visible characters. -/
def insertRun (replica : Replica) (index : Nat) : Text → Replica
  | [] => replica
  | char :: rest => (replica.insertAt index char).insertRun (index + 1) rest

/-- Replace a range of bytes. Its bounds are first brought inside the text and onto boundaries. -/
def edit (replica : Replica) (edit : Edit) : Replica :=
  let text := replica.text
  let start := edit.startIn text
  let stop := edit.stopIn text
  let index := (Text.upTo text start).length
  let removed := (Text.between text start stop).length
  (replica.deleteRun index removed).insertRun index edit.text

/-- Make the text equal to the given one by replacing the span in which they differ. -/
def setText (replica : Replica) (text : Text) : Replica :=
  let change := Edit.ofTexts replica.text text
  if change.isNoop then replica else replica.edit change

/-! ## Updates -/

/-- What a replica with the given version does not have. -/
def updateSince (replica : Replica) (version : Version) : Update :=
  if version.agreesWith replica.version then .empty
  else .operations (replica.log.reverse.filter fun operation => !version.covers operation.id)

/-- What the holder of a version token does not have. -/
def updateSinceToken (replica : Replica) : VersionToken → Except ReplicaError Update
  | .known version => .ok (replica.updateSince version)
  | .unreadable => .error .unreadableVersion

/-- Everything. -/
def fullState (replica : Replica) : Update :=
  replica.updateSince .empty

/-- Whether all that an operation depends on is known. -/
def isReady (version : Version) (operation : Operation) : Bool :=
  operation.context.isBelow version

/-- The first waiting operation that is ready, and the others. -/
def nextReady (version : Version) : List Operation → Option (Operation × List Operation)
  | [] => none
  | operation :: rest =>
      if isReady version operation then some (operation, rest)
      else (nextReady version rest).map fun found => (found.1, operation :: found.2)

/-- Take up waiting operations as long as one of them is ready, but at most so many. -/
def settleUpTo : Nat → Replica → Replica
  | 0, replica => replica
  | count + 1, replica =>
      match nextReady replica.version replica.waiting with
      | none => replica
      | some (operation, waiting) =>
          settleUpTo count (({ replica with waiting } : Replica).takeUp operation)

/-- Take up waiting operations as long as one of them is ready. As every step takes one out of the
waiting ones, their number is enough steps. -/
def settle (replica : Replica) : Replica :=
  settleUpTo replica.waiting.length replica

theorem length_of_nextReady {version : Version} {waiting rest : List Operation}
    {operation : Operation} (ready : nextReady version waiting = some (operation, rest)) :
    rest.length + 1 = waiting.length := by
  induction waiting generalizing rest with
  | nil => simp [nextReady] at ready
  | cons first others ih =>
      simp only [nextReady] at ready
      split at ready
      · cases ready
        rfl
      · obtain ⟨⟨inner, innerRest⟩, innerReady, same⟩ := Option.map_eq_some_iff.1 ready
        cases same
        simpa using ih innerReady

/-- Whether an operation has been taken up or is waiting already. -/
def hasSeen (replica : Replica) (operation : Operation) : Bool :=
  replica.version.covers operation.id || replica.waiting.any (·.id == operation.id)

/-- Receive operations: keep the new ones, and take up whatever is ready then. -/
def receive (replica : Replica) (operations : List Operation) : Replica :=
  let new := operations.filter fun operation => !replica.hasSeen operation
  settle { replica with waiting := replica.waiting ++ new }

/-- Apply an update of another replica. -/
def apply (replica : Replica) : Update → Except ReplicaError Replica
  | .empty => .ok replica
  | .malformed => .error .malformedUpdate
  | .operations operations =>
      let updated := replica.receive operations
      let walk := Walk.between replica.text updated.text
      .ok (if walk.isEmpty then updated else { updated with walks := updated.walks ++ [walk] })

/-- A new replica that starts from an update. -/
def ofUpdate (id : ReplicaId) : Update → Except ReplicaError Replica
  | .empty => .ok { id }
  | .malformed => .error .malformedUpdate
  | .operations operations => .ok (({ id } : Replica).receive operations)

/-- Take the walks that updates have left behind. -/
def takeWalks (replica : Replica) : List Walk × Replica :=
  (replica.walks, { replica with walks := [] })

/-- Forget the walks. -/
def clearWalks (replica : Replica) : Replica :=
  { replica with walks := [] }

/-- The version as others hold it. -/
def token (replica : Replica) : VersionToken :=
  .known replica.version

end Replica

end Cowrite
