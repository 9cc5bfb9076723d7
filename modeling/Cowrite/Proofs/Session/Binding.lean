import Cowrite.Session.Binding
import Mathlib.Tactic.Common

/-!
# What the binding does to a document

The binding changes the document in one way only: by one edit for all notifications that it takes
(`replica_observe`). What it writes into the buffer leaves the document as it is, walks apart
(`replica_reconcile`).

A repair does nothing if the document is shown (`reconcile_of_shown`), and else it locks
notifications out and shows the document (`reconcile_of_differs`).
-/

namespace Cowrite

/-- What a repair comes to, by what came of its write. -/
def Reconciliation.ofResult : Except WriteError Bool → Reconciliation
  | .ok _ => .repaired
  | .error _ => .failed

namespace Binding

variable (binding : Binding) (buffer : Buffer) (replica : Replica) (now : Nat)

/-- The edit that the waiting notifications of a buffer come to. -/
def editOf (binding : Binding) (buffer : Buffer) : Edit :=
  match buffer.changes with
  | [change] => editOfChange binding.shadow buffer.lines change
  | _ => editOfTexts binding.shadow buffer.lines

theorem editOf_of_several (several : 2 ≤ buffer.changes.length) :
    binding.editOf buffer = editOfTexts binding.shadow buffer.lines := by
  rw [editOf]
  cases heard : buffer.changes with
  | nil => rfl
  | cons change others =>
      cases others with
      | nil => simp [heard] at several
      | cons other rest => rfl

theorem observe_of_quiet (quiet : buffer.changes = []) :
    binding.observe buffer replica now = (.quiet, binding, buffer.takeChanges.2, replica) := by
  simp [observe, Buffer.takeChanges, quiet]

theorem observe_of_suppressed (noisy : buffer.changes ≠ [])
    (suppressed : binding.suppression.suppresses now = true) :
    binding.observe buffer replica now =
      (.suppressed, { binding with shadow := buffer.lines }, buffer.takeChanges.2, replica) := by
  simp [observe, Buffer.takeChanges, noisy, suppressed]

theorem observe_of_edited (noisy : buffer.changes ≠ [])
    (heard : binding.suppression.suppresses now = false) :
    binding.observe buffer replica now =
      (.edited, { binding with shadow := buffer.lines }, buffer.takeChanges.2,
        if (binding.editOf buffer).isNoop then replica
        else replica.edit (binding.editOf buffer)) := by
  simp only [observe, Buffer.takeChanges, heard, editOf, List.isEmpty_iff, noisy, if_false,
    Bool.false_eq_true]
  rfl

/-- The document changes by one edit, and only if something was typed. -/
theorem replica_observe :
    (binding.observe buffer replica now).1 ≠ .edited ∧
        (binding.observe buffer replica now).2.2.2 = replica ∨
      (binding.observe buffer replica now).1 = .edited ∧
        ((binding.observe buffer replica now).2.2.2 = replica ∨
          ∃ edit, (binding.observe buffer replica now).2.2.2 = replica.edit edit) := by
  by_cases quiet : buffer.changes = []
  · left
    simp [observe_of_quiet binding buffer replica now quiet]
  · cases heard : binding.suppression.suppresses now with
    | true =>
        left
        simp [observe_of_suppressed binding buffer replica now quiet heard]
    | false =>
        right
        rw [observe_of_edited binding buffer replica now quiet heard]
        refine ⟨rfl, ?_⟩
        cases (binding.editOf buffer).isNoop with
        | true => exact .inl rfl
        | false => exact .inr ⟨_, rfl⟩

section

variable {buffer : Buffer} {replica : Replica}

theorem reconcile_of_shown (same : shownText buffer = Text.terminated replica.text) :
    binding.reconcile buffer replica now = (.inSync, binding, buffer, replica) := by
  rw [reconcile, if_pos same.symm]

theorem reconcile_of_differs (differs : shownText buffer ≠ Text.terminated replica.text) :
    binding.reconcile buffer replica now =
      (.ofResult ((binding.lockOut now).display buffer (Text.terminated replica.text) now).1,
        ((binding.lockOut now).display buffer (Text.terminated replica.text) now).2.1,
        ((binding.lockOut now).display buffer (Text.terminated replica.text) now).2.2,
        replica.clearWalks) := by
  rw [reconcile, if_neg (Ne.symm differs)]
  rcases (binding.lockOut now).display buffer (Text.terminated replica.text) now with
    ⟨result, after, shown⟩
  cases result <;> rfl

end

/-- A repair of the buffer takes at most the walks of the document. -/
theorem replica_reconcile :
    ∃ walks, (binding.reconcile buffer replica now).2.2.2 = { replica with walks } := by
  by_cases same : shownText buffer = Text.terminated replica.text
  · rw [binding.reconcile_of_shown now same]
    exact ⟨replica.walks, rfl⟩
  · rw [binding.reconcile_of_differs now same]
    exact ⟨[], rfl⟩

end Binding

end Cowrite
