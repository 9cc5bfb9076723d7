import Cowrite.Proofs.Session.Binding
import Cowrite.Session.Desk

/-!
# Sessions with nothing to say

Without notifications to look at, to look at the buffer changes nothing (`Desk.observe_of_quiet`),
and with nothing pending a flush does nothing either (`Session.flush_of_idle`). What the session
itself writes leaves no notifications behind (`Session.changes_display`,
`Session.changes_reconcile`), so it stays like that until somebody types.
-/

namespace Cowrite

namespace Binding

variable (binding : Binding) {buffer : Buffer} (now : Nat)

theorem changes_display (quiet : buffer.changes = []) (text : Text) :
    (binding.display buffer text now).2.2.changes = [] := by
  simp only [display]
  split
  · exact quiet
  · rfl

theorem changes_displayAlong (quiet : buffer.changes = []) (walks : List Walk) (text : Text) :
    (binding.displayAlong buffer walks text now).2.2.changes = [] := by
  simp only [displayAlong]
  split
  · exact quiet
  · split
    · rfl
    · exact binding.changes_display now quiet text

theorem changes_reconcile (quiet : buffer.changes = []) (replica : Replica) :
    (binding.reconcile buffer replica now).2.2.1.changes = [] := by
  by_cases same : shownText buffer = Text.terminated replica.text
  · rw [binding.reconcile_of_shown now same]
    exact quiet
  · rw [binding.reconcile_of_differs now same]
    exact (binding.lockOut now).changes_display now quiet _

end Binding

namespace Session

variable {session : Session} {buffer : Buffer} {now : Nat}

theorem observe_of_quiet (quiet : buffer.changes = []) (session : Session) (now : Nat) :
    session.observe buffer now = (session, buffer) := by
  have same : buffer.takeChanges.2 = buffer := by
    rw [Buffer.takeChanges, ← quiet]
  rw [observe, Binding.observe_of_quiet _ _ _ _ quiet, same]
  rfl

theorem flush_of_idle {ν : Type} [Transport ν] (idle : session.outbox.pending = false)
    (network : ν) (now : Nat) (force : Bool) :
    session.flush network now force = (.idle, session, network) := by
  simp [flush, Outbox.flush, idle]

theorem changes_display (quiet : buffer.changes = []) (session : Session) (now : Nat) :
    (session.display buffer now).2.changes = [] :=
  session.binding.changes_displayAlong now quiet _ _

theorem changes_displayOrDefer (quiet : buffer.changes = []) (session : Session) (now : Nat) :
    (session.displayOrDefer buffer now).2.changes = [] := by
  rw [displayOrDefer]
  split
  · exact quiet
  · exact changes_display quiet session now

theorem changes_reconcile (quiet : buffer.changes = []) (session : Session) (now : Nat) :
    (session.reconcile buffer now).2.changes = [] :=
  session.binding.changes_reconcile now quiet session.replica

end Session

namespace Desk

variable {ν : Type} {desk : Desk ν} {session : Session}

theorem observe_of_quiet (present : desk.session = some session)
    (quiet : desk.buffer.changes = []) (now : Nat) :
    desk.observe session now = (session, desk) := by
  rw [observe, Session.observe_of_quiet quiet]
  simp only [← present]

end Desk

end Cowrite
