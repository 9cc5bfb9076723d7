import Cowrite.Proofs.Replica.Editing
import Cowrite.Proofs.Session.Typing

/-!
# What notifications bring into a document

The binding takes a single notification at its word, and of several ones only that there are some:
it then compares the lines that it knew with the lines that are there. So the edit that it comes to
leads from the text of the shadow to the text of the buffer if a single notification is accurate
(`LineChange.Accurate`), or if there are several, whatever they say
(`Binding.Informed.leads_editOf`), and nothing remains of it if the two texts are the same. A
document that holds the text of the shadow holds the text of the buffer afterwards
(`Binding.observe_reproduces`).

Nothing is asked of the lines themselves here, not even that there are any.
-/

namespace Cowrite

/-- Whether a notification says truly which lines were replaced by which, and how many bytes they
had if it says that at all. -/
structure LineChange.Accurate (change : LineChange) (before now : List Text) : Prop where
  first_le_lastOld : change.first ≤ change.lastOld
  lastOld_le : change.lastOld ≤ before.length
  first_le_lastNew : change.first ≤ change.lastNew
  lastNew_le : change.lastNew ≤ now.length
  replaced : now = before.take change.first ++
    (LineChange.linesBetween now change.first change.lastNew ++ before.drop change.lastOld)
  counted : ∀ bytes, change.oldBytes = some bytes →
    bytes = Text.linesSize (LineChange.linesBetween before change.first change.lastOld)

namespace LineChange

variable {change : LineChange} {before now : List Text}

/-- An accurate notification stands for an edit that leads from the lines before to the lines
now. -/
theorem Accurate.leads (accurate : change.Accurate before now) :
    (change.toEdit before now).Leads (Text.joinLines true before) (Text.joinLines true now) := by
  let front := before.take change.first
  let middle := linesBetween before change.first change.lastOld
  let added := linesBetween now change.first change.lastNew
  let back := before.drop change.lastOld
  have old : before = front ++ (middle ++ back) :=
    (take_append_linesBetween before accurate.first_le_lastOld).symm
  have new : now = front ++ (added ++ back) := accurate.replaced
  have first : change.first = front.length := by
    rw [List.length_take_of_le]
    exact Nat.le_trans accurate.first_le_lastOld accurate.lastOld_le
  have lastOld : change.lastOld = front.length + middle.length := by
    rw [← first, length_linesBetween accurate.first_le_lastOld accurate.lastOld_le,
      Nat.add_sub_cancel' accurate.first_le_lastOld]
  have lastNew : change.lastNew = front.length + added.length := by
    rw [← first, length_linesBetween accurate.first_le_lastNew accurate.lastNew_le,
      Nat.add_sub_cancel' accurate.first_le_lastNew]
  have counted : change.oldBytes.getD (Text.linesSize middle) = Text.linesSize middle := by
    cases told : change.oldBytes with
    | none => rfl
    | some bytes => exact accurate.counted bytes told
  have leads : (change.toEdit (front ++ (middle ++ back)) (front ++ (added ++ back))).Leads
      (Text.joinLines true (front ++ (middle ++ back)))
      (Text.joinLines true (front ++ (added ++ back))) :=
    leads_toEdit first lastOld lastNew counted
  rwa [← old, ← new] at leads

end LineChange

namespace Binding

variable {binding : Binding} {buffer : Buffer} {replica : Replica} {history : History} {now : Nat}

/-- Whether a binding can tell what became of the lines that it knew: it is told of it by one
accurate notification, or by several of any kind. -/
def Informed (binding : Binding) (buffer : Buffer) : Prop :=
  (∃ change, buffer.changes = [change] ∧ change.Accurate binding.shadow buffer.lines) ∨
    2 ≤ buffer.changes.length

theorem Informed.noisy (informed : binding.Informed buffer) : buffer.changes ≠ [] := by
  rcases informed with ⟨change, one, _⟩ | several
  · simp [one]
  · rintro none
    simp [none] at several

/-- The edit of the waiting notifications, and that nothing remains of it if nothing became
different. -/
theorem Informed.leads_editOf (informed : binding.Informed buffer) :
    (binding.editOf buffer).Leads (Text.joinLines true binding.shadow) buffer.content ∧
      (Text.joinLines true binding.shadow = buffer.content →
        (binding.editOf buffer).isNoop = true) := by
  rcases informed with ⟨change, one, accurate⟩ | several
  · have leads : (change.toEdit binding.shadow buffer.lines).Leads
        (Text.joinLines true binding.shadow) buffer.content := accurate.leads
    rw [editOf, one]
    refine ⟨leads.narrow, ?_⟩
    intro same
    rw [← same] at leads
    exact leads.isNoop_narrow
  · rw [binding.editOf_of_several buffer several]
    refine ⟨Edit.leads_ofTexts _ _, ?_⟩
    intro same
    rw [editOfTexts, same]
    exact Edit.isNoop_ofTexts_self _

/-- A document takes up an edit that leads somewhere from its text, unless nothing is left of it. -/
theorem text_edit_of_leads (lawful : history.Lawful) (active : replica.Active history)
    {edit : Edit} {text : Text} (leads : edit.Leads replica.text text) :
    (if edit.isNoop then replica else replica.edit edit).text = text := by
  split
  case isTrue noop => exact leads.eq_of_isNoop noop
  case isFalse =>
    rcases active.edit lawful edit with ⟨_, _, edited⟩
    rw [edited, leads.applyTo_eq]

/-- The notifications of a buffer, if they are not ignored, bring the document from the text of the
shadow to the text of the buffer, and the binding knows the lines of the buffer. No operation is
made if the two texts are the same. -/
theorem observe_reproduces (lawful : history.Lawful) (active : replica.Active history)
    (holds : replica.text = Text.joinLines true binding.shadow)
    (heard : binding.suppression.suppresses now = false)
    (informed : binding.Informed buffer) :
    ∃ shown taken after,
      binding.observe buffer replica now = (.edited, shown, taken, after) ∧
        after.text = Text.joinLines true buffer.lines ∧
        shown.shadow = buffer.lines ∧ taken.lines = buffer.lines ∧
        (Text.joinLines true binding.shadow = Text.joinLines true buffer.lines →
          after = replica) := by
  rcases informed.leads_editOf with ⟨leads, noop⟩
  refine ⟨_, _, _, binding.observe_of_edited buffer replica now informed.noisy heard, ?_, rfl, rfl,
    ?_⟩
  · rw [← holds] at leads
    exact text_edit_of_leads lawful active leads
  · intro same
    rw [noop same, if_pos rfl]

/-- Somebody splits the second of three lines in two, or two notifications say nothing of use. -/
theorem split_reproduced :
    let lines : List Text := [['é'], ['b', 'c'], ['d']]
    let replica := ({ id := 1 } : Replica).setText (Text.joinLines true lines)
    let binding : Binding := { shadow := lines, lockout := 50 }
    let split : List Text := [['é'], ['b'], ['c'], ['d']]
    let one : Buffer := { lines := split, changes := [⟨1, 2, 3, none⟩] }
    let two : Buffer := { lines := split, changes := [⟨7, 3, 9, some 1⟩, ⟨0, 0, 0, none⟩] }
    (∃ history : History, history.Lawful ∧ replica.Active history) ∧
      replica.text = Text.joinLines true binding.shadow ∧
      binding.suppression.suppresses 0 = false ∧
      binding.Informed one ∧ binding.Informed two ∧
      (binding.observe one replica 0).2.2.2.text = Text.joinLines true split ∧
      (binding.observe two replica 0).2.2.2.text = Text.joinLines true split := by
  intro lines replica binding split one two
  have new : Replica.Active ∅ { id := 1 } := Replica.active_new nofun
  rcases new.setText History.lawful_empty (Text.joinLines true lines) with ⟨history, writes, holds⟩
  have accurate : LineChange.Accurate ⟨1, 2, 3, none⟩ lines split :=
    ⟨by decide, by decide, by decide, by decide, by decide, nofun⟩
  have heard : binding.suppression.suppresses 0 = false := rfl
  have first : binding.Informed one := .inl ⟨_, rfl, accurate⟩
  have second : binding.Informed two := .inr (by decide)
  refine ⟨⟨history, writes.lawful, writes.active⟩, holds, heard, first, second, ?_, ?_⟩
  · rcases observe_reproduces writes.lawful writes.active holds heard first with
      ⟨_, _, _, seen, text, _⟩
    rw [seen]
    exact text
  · rcases observe_reproduces writes.lawful writes.active holds heard second with
      ⟨_, _, _, seen, text, _⟩
    rw [seen]
    exact text

end Binding

end Cowrite
