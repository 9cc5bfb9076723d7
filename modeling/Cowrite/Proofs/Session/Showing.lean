import Cowrite.Proofs.Session.FirstState
import Cowrite.Proofs.Session.Flushing
import Cowrite.Proofs.Session.Writing

/-!
# Showing an empty document

A session to which nothing of others has come and whose document is empty has nothing to show
(`Session.HasNothing`). When it shows its document all the same, it asks to write over whatever
text is in the buffer; only typing makes it wait (`Session.requests_displayOrDefer_ne_iff`).
-/

namespace Cowrite

namespace Binding

variable {buffer : Buffer}

theorem lines_ne_nil_of_text (text : Text.isBlank (shownText buffer) = false) :
    buffer.lines ≠ [] := by
  intro none
  rw [shownText, Buffer.content, none] at text
  cases text

theorem shownText_ne_of_text (text : Text.isBlank (shownText buffer) = false) :
    shownText buffer ≠ Text.terminated [] := by
  intro same
  rw [same] at text
  cases text

end Binding

namespace Session

/-- Whether nothing of others has come to a session, and nothing is in its document. -/
def HasNothing (session : Session) : Prop :=
  session.contentReceived = false ∧ session.replica.text = []

instance (session : Session) : Decidable session.HasNothing :=
  inferInstanceAs (Decidable (_ ∧ _))

variable (session : Session) (buffer : Buffer) (now : Nat)

theorem hasNothing_displayOrDefer :
    (session.displayOrDefer buffer now).1.HasNothing ↔ session.HasNothing := by
  rw [displayOrDefer]
  split
  · exact Iff.rfl
  · exact Iff.rfl

theorem deferred_displayOrDefer :
    (session.displayOrDefer buffer now).1.deferred = session.outbox.isTyping now := by
  rw [displayOrDefer]
  split
  case isTrue typing => exact typing.symm
  case isFalse idle => exact (eq_false_of_ne_true idle).symm

/-- A session that has nothing overwrites a text by showing it. -/
theorem requests_display_ne (text : Text.isBlank (Binding.shownText buffer) = false)
    (empty : session.replica.text = []) :
    (session.display buffer now).2.requests ≠ buffer.requests := by
  have asked := session.length_requests_display (Binding.lines_ne_nil_of_text text)
    (by rw [empty]; exact Binding.shownText_ne_of_text text) now
  intro same
  rw [same] at asked
  exact Nat.lt_irrefl _ asked

theorem requests_displayOrDefer_ne_iff (text : Text.isBlank (Binding.shownText buffer) = false)
    (empty : session.replica.text = []) :
    (session.displayOrDefer buffer now).2.requests ≠ buffer.requests ↔
      session.outbox.isTyping now = false := by
  rw [displayOrDefer]
  split
  case isTrue typing => simp [typing]
  case isFalse idle =>
    have asked := session.requests_display_ne buffer now text empty
    simp [idle, asked]

end Session

namespace Outbox

variable {σ : Type} (outbox : Outbox) (replica : Replica) (now : Nat) (force : Bool)
  (send : Update → σ → Except TransportError Unit × σ) (state : σ)

/-- Typing is told by the last edit, which flushing does not touch. -/
theorem isTyping_flush :
    (outbox.flush replica now force send state).2.1.isTyping now = outbox.isTyping now := by
  have same : (outbox.flush replica now force send state).2.1.lastEdit = outbox.lastEdit ∧
      (outbox.flush replica now force send state).2.1.window = outbox.window := by
    rw [flush_eq]
    split
    · split
      · exact ⟨rfl, rfl⟩
      · cases (send (outbox.updateFor replica) state).1 with
        | ok done => exact ⟨rfl, rfl⟩
        | error error => exact ⟨rfl, rfl⟩
    · exact ⟨rfl, rfl⟩
  rw [isTyping, same.1, same.2]
  rfl

end Outbox

namespace Desk

theorem hasNothing_informed (session : Session) (payload : Update) :
    (informed session payload).HasNothing ↔ (receiveState session payload).HasNothing := by
  rw [Session.HasNothing, informed, settleOutbox_eq]
  rfl

end Desk

end Cowrite
