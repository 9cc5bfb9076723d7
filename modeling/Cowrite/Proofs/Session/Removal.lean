import Cowrite.Proofs.Session.Bound
import Cowrite.Transport.Scripted

/-!
# What a local edit removes

What was typed is found as an edit of the text that the buffer showed, and made at the same offsets
of the document. So it removes from the document what the user removed from the buffer as long as
the two have the same text there. Whatever the user types next removes the right text exactly if the
shown text is an initial part of the document's (`Roams.removes_iff`): if it is not, to delete
everything removes something else. An update that was taken up but not shown yet is enough for that
(`interrupted_removes`).
-/

namespace Cowrite

namespace Session

/-- What the edit of something typed removes from the document. -/
def removedFromDocument (session : Session) (typed : Buffer) : Text :=
  Text.between session.replica.text
    ((session.binding.editOf typed).startIn session.replica.text)
    ((session.binding.editOf typed).stopIn session.replica.text)

/-- What somebody who typed has removed from the text that was shown. -/
def removedFromBuffer (session : Session) (typed : Buffer) : Text :=
  Text.between (Text.joinLines true session.binding.shadow) (session.binding.editOf typed).start
    (session.binding.editOf typed).stop

/-- Whether something typed is put into the document as an edit at this time, and removes something
else there. -/
def RemovesOther (session : Session) (typed : Buffer) (now : Nat) : Prop :=
  (session.binding.observe typed session.replica now).1 = .edited ∧
    session.removedFromDocument typed ≠ session.removedFromBuffer typed

variable {session : Session} {buffer : Buffer}

/-- Where the document goes on from what was shown, the right text is removed. -/
theorem removedFromDocument_eq (knows : session.binding.Knows buffer)
    (nonempty : session.binding.shadow ≠ [])
    (initial : Text.joinLines true session.binding.shadow <+: session.replica.text) :
    session.removedFromDocument buffer = session.removedFromBuffer buffer := by
  have tracks := Buffer.Typed.tracks knows nonempty rfl
  rcases tracks.exists_parts with ⟨front, middle, back, shown, start, stop⟩
  rcases initial with ⟨rest, whole⟩
  have text : session.replica.text = front ++ (middle ++ (back ++ rest)) := by
    rw [← whole, shown]
    simp
  rw [removedFromDocument, removedFromBuffer, text, shown, Edit.startIn_append _ _ start,
    Edit.stopIn_append _ _ _ start stop, Text.between_append, start, stop, Text.between_append]

/-- Where it does not, to delete everything removes something else. -/
theorem removesOther_deleteAll (tidy : buffer.Tidy) (quiet : buffer.changes = [])
    (shadow : session.binding.shadow = buffer.lines) {now : Nat}
    (heard : session.binding.suppression.suppresses now = false)
    (differs : ¬buffer.content <+: session.replica.text) :
    session.RemovesOther ((Typing.setLines 0 buffer.lines.length []).perform buffer) now := by
  have changes : ((Typing.setLines 0 buffer.lines.length []).perform buffer).changes =
      [{ first := 0, lastOld := buffer.lines.length, lastNew := 0
         oldBytes := some (Text.linesSize buffer.lines) }] := by
    simp [Typing.perform, Buffer.setLines, quiet, LineChange.linesBetween]
  have lines : ((Typing.setLines 0 buffer.lines.length []).perform buffer).lines = [[]] := by
    simp [Typing.perform, Buffer.setLines]
  have edit : session.binding.editOf ((Typing.setLines 0 buffer.lines.length []).perform buffer) =
      ⟨0, Text.byteSize buffer.content, []⟩ := by
    rw [Binding.editOf, changes, lines, shadow]
    exact LineChange.editOfChange_deleteAll tidy.nonempty
  constructor
  · rw [Binding.observe_of_edited _ _ _ _ (by rw [changes]; simp) heard]
  · intro same
    apply differs
    have whole : Text.upTo session.replica.text (Text.byteSize buffer.content) =
        buffer.content := by
      have shown : Text.joinLines true session.binding.shadow = buffer.content := by
        rw [shadow]
        rfl
      rw [removedFromDocument, removedFromBuffer, edit, shown] at same
      simp only [Edit.startIn, Edit.stopIn, Text.between, Text.floor, Text.upTo_zero,
        Text.byteSize_nil, Text.after_zero, Nat.sub_zero, Nat.max_zero,
        Text.upTo_of_byteSize_le (Nat.le_refl _)] at same
      exact (Text.upTo_floor _ _).symm.trans same
    rw [← whole]
    exact ⟨_, Text.upTo_append_after _ _⟩

end Session

namespace Desk

variable {ν : Type} {desk : Desk ν} {session : Session}

/-- The shadow of a session to which nothing was typed is what the buffer shows. -/
theorem Bound.shadow_eq (bound : desk.Bound) (present : desk.session = some session)
    (quiet : desk.buffer.changes = []) : session.binding.shadow = desk.buffer.lines := by
  have typed := bound.knows session present
  rcases Buffer.Typed.heard typed with ⟨_, same⟩ | ⟨change, one, _⟩ | several
  · exact same.symm
  · simp [one] at quiet
  · simp [quiet] at several

variable [Transport ν]

/-- Whatever is typed next removes the right text exactly if the shown text is an initial part of
the document's. -/
theorem Roams.removes_iff (roams : desk.Roams) (present : desk.session = some session)
    (quiet : desk.buffer.changes = []) {now : Nat}
    (heard : session.binding.suppression.suppresses now = false) :
    (∀ typings : List Typing, (∀ typing ∈ typings, typing.IsPlain) →
      ¬session.RemovesOther (typings.foldl Typing.perform desk.buffer) now) ↔
      desk.buffer.content <+: session.replica.text := by
  have bound := roams.bound
  have shadow := bound.shadow_eq present quiet
  constructor
  · intro right
    by_contra differs
    apply right [.setLines 0 desk.buffer.lines.length []]
    · intro typing typed
      rw [List.mem_singleton.1 typed]
      exact nofun
    · exact Session.removesOther_deleteAll bound.tidy quiet shadow heard differs
  · rintro initial typings plain ⟨_, other⟩
    apply other
    have typed : session.binding.Knows (typings.foldl Typing.perform desk.buffer) :=
      Buffer.Typed.foldl (bound.knows session present) plain
    refine Session.removedFromDocument_eq typed ?_ ?_
    · rw [shadow]
      exact bound.tidy.nonempty
    · rw [shadow]
      exact initial

/-- An event comes to a desk. -/
def told (desk : Desk Scripted) (event : TransportEvent Update) : Desk Scripted :=
  { desk with network := (desk.network.emit none event).2 }

theorem Roams.told {desk : Desk Scripted} (roams : desk.Roams) (event : TransportEvent Update) :
    (desk.told event).Roams :=
  roams.carries _

/-- Somebody with three letters in the buffer, and a transport that follows a script. -/
def letters : Desk Scripted :=
  { buffer := Buffer.ofText "abc".toList, network := { serves := .relay } }

/-- A call to host a session. -/
def hosts : Call :=
  .host (.relay (some "ws://relay.test")) ⟨2, 5, ⟨.replicate 32 (.ofNat 0), rfl⟩⟩

/-- A host whose session is in sync. -/
def hosting : Desk Scripted :=
  let connected := Call.poll.perform ((hosts.perform letters 0).told .connected) 10
  Call.poll.perform (connected.told (.syncResponse .empty)) 20

theorem roams_hosting : hosting.Roams := by
  have letters : letters.Roams := .fresh rfl ⟨by decide, by decide⟩
  have connected := ((letters.calls hosts 0).told .connected).calls .poll 10
  exact (connected.told (.syncResponse .empty)).calls .poll 20

/-- The host types, and somebody else's text comes before it has stopped. -/
def interrupted : Desk Scripted :=
  let other : Replica := ({ id := 1 } : Replica).setText "XY".toList
  let typed : Desk Scripted :=
    { hosting with buffer := (Typing.insertText 0 3 "d".toList).perform hosting.buffer }
  let heard := Call.bufferChanged.perform typed 1000
  Call.poll.perform (heard.told (.update other.fullState)) 1010

theorem roams_interrupted : interrupted.Roams := by
  have typed := @Roams.types _ _ hosting roams_hosting (.insertText 0 3 "d".toList) trivial
  exact ((typed.calls .bufferChanged 1000).told _).calls .poll 1010

/-- Nothing that the host could type goes wrong while its buffer shows the document. -/
theorem hosting_removes :
    ∃ session, hosting.session = some session ∧
      ∀ typings : List Typing, (∀ typing ∈ typings, typing.IsPlain) →
        ¬session.RemovesOther (typings.foldl Typing.perform hosting.buffer) 1000 := by
  have showing : hosting.session.any fun session =>
      hosting.buffer.changes = [] ∧ session.binding.suppression.suppresses 1000 = false ∧
        hosting.buffer.content = session.replica.text := by
    decide +kernel
  rcases (Option.any_eq_true _ _).1 showing with ⟨session, present, holds⟩
  rcases of_decide_eq_true holds with ⟨quiet, heard, same⟩
  refine ⟨session, present, (roams_hosting.removes_iff present quiet heard).2 ?_⟩
  exact ⟨[], (List.append_nil _).trans same⟩

/-- Somebody deletes the first letter of the own text, and a letter of the other text goes. -/
theorem interrupted_removes :
    ∃ session, interrupted.session = some session ∧ interrupted.Roams ∧
      session.RemovesOther ((Typing.deleteText 0 0 1).perform interrupted.buffer) 1020 := by
  have removes : interrupted.session.any fun session =>
      (session.binding.observe ((Typing.deleteText 0 0 1).perform interrupted.buffer)
          session.replica 1020).1 = .edited ∧
        session.removedFromDocument ((Typing.deleteText 0 0 1).perform interrupted.buffer) =
          "X".toList ∧
        session.removedFromBuffer ((Typing.deleteText 0 0 1).perform interrupted.buffer) =
          "a".toList := by
    decide +kernel
  rcases (Option.any_eq_true _ _).1 removes with ⟨session, present, holds⟩
  rcases of_decide_eq_true holds with ⟨edited, document, buffer⟩
  refine ⟨session, present, roams_interrupted, edited, ?_⟩
  rw [document, buffer]
  decide

end Desk

end Cowrite
