import Cowrite.Proofs.Replica.Circle
import Mathlib.Order.Bounds.Defs

/-!
# What an edit makes of the text of a document

Whatever a document has been through, an edit does to its text what it means for texts
(`Circle.Reachable.text_edit`): the bounds are brought inside the text and onto boundaries, and what
is between them is replaced. So a law about edits of texts is a law about edits of documents, also
where an edit reaches past the end or cuts through a character. And every text is the text of some
document (`Circle.exists_text_eq`).

What an edit costs can be read from the version: one operation of the document's own for each
character that goes or comes, and nothing of anyone else's (`Replica.Active.advances_edit`). To set
a text costs nothing just if it was the text before, as a version stands for a text.

An edit that is made smaller first does the same. Only an edit whose bounds are boundaries, once
they are brought inside, is made smaller at all; there it keeps within these bounds, and nothing
remains of it just when it changes nothing.
-/

namespace Cowrite

namespace Text

/-- Whether a place is the last boundary of a text that is not past an offset, once the offset is
brought inside the text. -/
def IsLastBoundary (text : Text) (offset place : Nat) : Prop :=
  IsGreatest {boundary | isBoundary text boundary = true ∧ boundary ≤ min offset (byteSize text)}
    place

theorem isLastBoundary_floor (text : Text) (offset : Nat) :
    IsLastBoundary text offset (floor text offset) := by
  constructor
  · exact ⟨isBoundary_floor text offset,
      Nat.le_min.2 ⟨floor_le text offset, floor_le_byteSize text offset⟩⟩
  · rintro boundary ⟨isBoundary, inside⟩
    have still : floor text boundary = boundary := beq_iff_eq.1 isBoundary
    rw [← still]
    exact floor_mono text (Nat.le_min.1 inside).1

end Text

namespace Version

/-- Whether a version counts so many operations of one replica more than another version does, and
as many of every other replica. -/
def Advances (before after : Version) (replica : ReplicaId) (number : Nat) : Prop :=
  ∀ maker, after.count maker = before.count maker + if maker = replica then number else 0

theorem Advances.refl (version : Version) (replica : ReplicaId) :
    version.Advances version replica 0 := by
  intro maker
  simp

theorem Advances.trans {first second third : Version} {replica : ReplicaId} {number more : Nat}
    (early : first.Advances second replica number) (late : second.Advances third replica more) :
    first.Advances third replica (number + more) := by
  intro maker
  rw [late maker, early maker]
  split <;> omega

theorem advances_bump {version : Version} (canonical : version.Canonical) (replica : ReplicaId) :
    version.Advances (version.bump replica) replica 1 := by
  intro maker
  rw [count_bump canonical]
  split
  case isTrue own => rw [own]
  case isFalse => rfl

end Version

namespace Replica

variable {history : History} {replica : Replica}

theorem advances_insertRun (canonical : replica.version.Canonical) (index : Nat) (text : Text) :
    replica.version.Advances (replica.insertRun index text).version replica.id text.length := by
  induction text generalizing replica index with
  | nil => exact .refl replica.version replica.id
  | cons char rest ih =>
      have first : replica.version.Advances (replica.insertAt index char).version replica.id 1 :=
        Version.advances_bump canonical replica.id
      have others : (replica.insertAt index char).version.Advances
          ((replica.insertAt index char).insertRun (index + 1) rest).version replica.id
            rest.length :=
        ih (Version.canonical_bump canonical replica.id) (index + 1)
      rw [List.length_cons, Nat.add_comm]
      exact first.trans others

theorem exists_deleteAt_eq_make {index : Nat} (inside : index < replica.text.length) :
    ∃ target, replica.deleteAt index = replica.make (.delete target) := by
  rcases Sequence.exists_visible inside with ⟨front, element, back, split, visible, rfl⟩
  have found := Sequence.visible?_append_cons front back visible
  rw [← split] at found
  exact ⟨element.id, by rw [deleteAt, found]⟩

/-- Characters of the text are deleted by one operation each. -/
theorem Active.advances_deleteRun (lawful : history.Lawful) (active : replica.Active history)
    {index count : Nat} (inside : index + count ≤ replica.text.length) :
    replica.version.Advances (replica.deleteRun index count).version replica.id count := by
  induction count generalizing history replica with
  | zero => exact .refl replica.version replica.id
  | succ count ih =>
      have next : index < replica.text.length := by omega
      rcases exists_deleteAt_eq_make next with ⟨target, made⟩
      have first : replica.version.Advances (replica.deleteAt index).version replica.id 1 := by
        rw [made]
        exact Version.advances_bump active.canonical replica.id
      have split : replica.sequence = [] ++ (replica.sequence ++ []) := by simp
      rcases active.deleteAt lawful split next with ⟨larger, later, writes, rest, text⟩
      simp only [Sequence.text_nil, List.length_nil, Nat.zero_add] at writes rest
      have left : (replica.deleteAt index).text =
          replica.text.take index ++ replica.text.drop (index + 1) := by
        rw [Replica.text, rest, Sequence.text_append, Sequence.text_append, text]
        simp [Replica.text]
      have shorter : index + count ≤ (replica.deleteAt index).text.length := by
        simp only [left, List.length_append, List.length_take, List.length_drop]
        omega
      have others := ih writes.lawful writes.active shorter
      rw [writes.id_eq] at others
      have both := first.trans others
      rwa [Nat.add_comm] at both

/-- An edit makes one operation for each character that it removes or puts there. -/
theorem Active.advances_edit (lawful : history.Lawful) (active : replica.Active history)
    {edit : Edit} {front removed back : Text}
    (parts : replica.text = front ++ (removed ++ back))
    (start : edit.startIn replica.text = Text.byteSize front)
    (stop : edit.stopIn replica.text = Text.byteSize front + Text.byteSize removed) :
    replica.version.Advances (replica.edit edit).version replica.id
      (removed.length + edit.text.length) := by
  have upTo : Text.upTo replica.text (edit.startIn replica.text) = front := by
    rw [start, parts, Text.upTo_append]
  have between : Text.between replica.text (edit.startIn replica.text)
      (edit.stopIn replica.text) = removed := by
    rw [start, stop, parts, Text.between_append]
  have inside : front.length + removed.length ≤ replica.text.length := by
    rw [parts]
    simp
  have split : replica.sequence = [] ++ (replica.sequence ++ []) := by simp
  rcases active.deleteRun lawful split inside with ⟨larger, later, writes, _, _⟩
  simp only [Sequence.text_nil, List.length_nil, Nat.zero_add] at writes
  have deletes := active.advances_deleteRun lawful inside
  have inserts := advances_insertRun writes.active.canonical front.length edit.text
  rw [writes.id_eq] at inserts
  rw [Replica.edit, upTo, between]
  exact deletes.trans inserts

/-- Nothing is made only if the text is the one that is set: the version stands for the text. -/
theorem Active.version_setText_iff (lawful : history.Lawful) (active : replica.Active history)
    (text : Text) : (replica.setText text).version = replica.version ↔ replica.text = text := by
  rcases active.setText lawful text with ⟨larger, writes, written⟩
  constructor
  · intro same
    have before : replica.Sound larger := active.toSound.mono writes.subset
    rw [← writes.active.toSound.text_eq_of_version_eq writes.lawful before same, written]
  · rintro rfl
    rw [Replica.setText, if_pos (Edit.isNoop_ofTexts_self replica.text)]

end Replica

namespace Circle

theorem exists_text_eq (text : Text) :
    ∃ circle : Circle Unit, circle.Reachable ∧ (circle.replicas ()).text = text := by
  have reachable : Reachable ⟨fun _ : Unit => { id := 0 }, []⟩ := .new fun _ _ _ => rfl
  rcases reachable.coherent with ⟨history, coherent⟩
  rcases (coherent.active ()).setText coherent.lawful text with ⟨_, _, text_eq⟩
  exact ⟨_, reachable.perform () (.setText text), text_eq⟩

variable {σ : Type} [DecidableEq σ] {circle : Circle σ}

theorem Reachable.text_edit (reachable : circle.Reachable) (site : σ) (edit : Edit) :
    ((circle.replicas site).edit edit).text = edit.applyTo (circle.replicas site).text := by
  rcases reachable.coherent with ⟨history, coherent⟩
  rcases (coherent.active site).edit coherent.lawful edit with ⟨_, _, text_eq⟩
  exact text_eq

/-- An edit replaces what is between two boundaries of the text, which are where its bounds are once
they are brought inside, and makes one operation of the document's own for each character that it
removes or puts there. A text that is set is the text afterwards, and nothing is made just if it was
the text before. -/
theorem Reachable.edit_splices (reachable : circle.Reachable) (site : σ) (edit : Edit)
    (text : Text) :
    let document := circle.replicas site
    let edited := document.edit edit
    (∃ front removed back, document.text = front ++ removed ++ back ∧
      edited.text = front ++ edit.text ++ back ∧
      document.text.IsLastBoundary edit.start (Text.byteSize front) ∧
      document.text.IsLastBoundary (max edit.stop (Text.byteSize front))
        (Text.byteSize (front ++ removed)) ∧
      document.version.Advances edited.version document.id
        (removed.length + edit.text.length)) ∧
    (document.setText text).text = text ∧
      ((document.setText text).version = document.version ↔ document.text = text) := by
  intro document edited
  rcases reachable.coherent with ⟨history, coherent⟩
  have active : document.Active history := coherent.active site
  refine ⟨?_, ?_, active.version_setText_iff coherent.lawful text⟩
  · rcases edit.exists_parts document.text with ⟨front, removed, back, parts, start, stop⟩
    refine ⟨front, removed, back, ?_, ?_, ?_, ?_, ?_⟩
    · rw [parts, List.append_assoc]
    · rcases active.edit coherent.lawful edit with ⟨_, _, spliced⟩
      rw [spliced, Edit.applyTo, ← start, ← stop, parts, Text.splice_append]
    · rw [start]
      exact Text.isLastBoundary_floor document.text edit.start
    · rw [Text.byteSize_append, stop, start]
      exact Text.isLastBoundary_floor document.text (max edit.stop (edit.startIn document.text))
    · exact active.advances_edit coherent.lawful parts start.symm stop.symm
  · rcases active.setText coherent.lawful text with ⟨_, _, written⟩
    exact written

/-- The first replica of the crossing circle has a text with letters of its own and of others, and
one that was deleted. The edit goes from inside a letter that takes two bytes to far beyond the end.
-/
theorem crossing_edit_splices :
    let document := (crossing.perform 0 (.edit ⟨1, 2, ['é']⟩)).replicas 0
    let edited := document.edit ⟨2, 99, ['y', 'z', '!']⟩
    document.text = ['a', 'é', 'x'] ∧ edited.text = ['a', 'y', 'z', '!'] ∧
      document.version.Advances edited.version 0 5 ∧
      (document.setText ['a', 'é']).text = ['a', 'é'] ∧
      ¬(document.setText ['a', 'é']).version = document.version := by
  intro document edited
  have reachable := reachable_crossing.perform 0 (.edit ⟨1, 2, ['é']⟩)
  rcases reachable.edit_splices 0 ⟨2, 99, ['y', 'z', '!']⟩ ['a', 'é'] with
    ⟨⟨front, removed, back, parts, spliced, start, stop, advances⟩, written, version⟩
  refine ⟨by decide, by decide, ?_, written, ?_⟩
  · have counted : edited.version.count 0 = document.version.count 0 + 5 := by decide
    have number : removed.length + 3 = 5 := by
      have := advances 0
      change edited.version.count 0 = document.version.count 0 + (removed.length + 3) at this
      omega
    rw [← number]
    exact advances
  · rw [version]
    decide

/-- An edit does the same to a document after it was made smaller. If its bounds are boundaries,
once they are brought inside, it stays between them, and it replaces nothing by nothing just when
the edit as it was would leave the text as it is. -/
theorem Reachable.text_edit_narrow (reachable : circle.Reachable) (site : σ) (edit : Edit)
    (forward : edit.start ≤ edit.stop) :
    let document := circle.replicas site
    let clamped := edit.clamped document.text
    let narrowed := edit.narrow document.text
    (document.edit narrowed).text = (document.edit edit).text ∧
      (Text.isBoundary document.text clamped.start = true →
        Text.isBoundary document.text clamped.stop = true →
          clamped.start ≤ narrowed.start ∧ narrowed.start ≤ narrowed.stop ∧
            narrowed.stop ≤ clamped.stop ∧
              (narrowed.isNoop = true ↔ (document.edit edit).text = document.text)) := by
  intro document clamped narrowed
  have edited : (document.edit edit).text = edit.applyTo document.text :=
    reachable.text_edit site edit
  constructor
  · rw [edited, ← Edit.applyTo_narrow forward]
    exact reachable.text_edit site narrowed
  · intro startBoundary stopBoundary
    have inside := (Edit.leads_clamped forward startBoundary stopBoundary).narrow_inside
    rw [Edit.narrow_clamped forward startBoundary stopBoundary] at inside
    rw [edited]
    exact ⟨inside.1, inside.2.1, inside.2.2,
      Edit.isNoop_narrow_iff forward startBoundary stopBoundary⟩

/-- One letter that takes two bytes is replaced by another, through an edit that goes from the end
of the letter before it to far beyond the end of the text. -/
theorem crossing_text_edit_narrow :
    let document := (crossing.perform 0 (.setText ['é', 'ü', 'x'])).replicas 0
    let narrowed := Edit.narrow ⟨2, 99, ['ö', 'x']⟩ document.text
    document.text = ['é', 'ü', 'x'] ∧
      (document.edit narrowed).text = (document.edit ⟨2, 99, ['ö', 'x']⟩).text ∧
      (document.edit narrowed).text = ['é', 'ö', 'x'] ∧ narrowed = ⟨2, 4, ['ö']⟩ ∧
        2 ≤ narrowed.start ∧ narrowed.stop ≤ 5 ∧
          ¬(document.edit ⟨2, 99, ['ö', 'x']⟩).text = document.text := by
  intro document narrowed
  have before : crossing.Reachable := (Reachable.new fun _ _ same => Fin.ext same).performAll _
  have reachable := before.perform 0 (.setText ['é', 'ü', 'x'])
  have refined := reachable.text_edit_narrow 0 ⟨2, 99, ['ö', 'x']⟩ (by decide)
  rcases refined.2 (by decide) (by decide) with ⟨late, _, early, noop⟩
  exact ⟨by decide, refined.1, by decide, by decide, late, early, fun same =>
    absurd (noop.2 same) (by decide)⟩

end Circle

end Cowrite
