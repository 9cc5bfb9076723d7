import Cowrite.Session.Desk
import Mathlib.Tactic.Common

/-!
# First states

After a connection was made, a session is told the state of the document. Taking it up changes the
document and the outbox only (`receiveState_eq`, `settleOutbox_eq`). Then the document is shown,
unless there was nothing in it and nothing was lost (`onInitialState_of_present`,
`awaitsFallback_eq`).
-/

namespace Cowrite

theorem Session.connection_displayOrDefer (session : Session) (buffer : Buffer) (now : Nat) :
    (session.displayOrDefer buffer now).1.connection = session.connection := by
  rw [displayOrDefer]
  split
  · rfl
  · rfl

namespace Desk

variable (session : Session) (payload : Update) (now : Nat)

theorem settleOutbox_eq :
    settleOutbox session = { session with outbox := (settleOutbox session).outbox } := by
  rw [settleOutbox]
  split
  · rfl
  · split
    · rfl
    · rfl

theorem isTyping_settleOutbox :
    (settleOutbox session).outbox.isTyping now = session.outbox.isTyping now := by
  rw [settleOutbox]
  split
  · simp only
    split
    · rfl
    · rfl
  · split
    · rfl
    · rfl

theorem receiveState_eq :
    receiveState session payload =
      { session with
        replica := (receiveState session payload).replica
        contentReceived := (receiveState session payload).contentReceived } := by
  rw [receiveState]
  split
  · rfl
  · split
    · rfl
    · rfl

theorem receiveState_of_isEmpty (empty : payload.isEmpty = true) :
    receiveState session payload = session := by
  rw [receiveState, if_pos empty]

/-- A session that has taken up the first state after a connection was made. -/
def informed (session : Session) (payload : Update) : Session :=
  let settled := settleOutbox (receiveState session payload)
  { settled with
    resync := false
    connection := { settled.connection with state := .synced } }

/-- Whether a session that has taken up the first state has found nothing in it, and waits before
it shares its own buffer. -/
def awaitsFallback (session : Session) (payload : Update) : Bool :=
  let settled := settleOutbox (receiveState session payload)
  !settled.isHost && !settled.resync && payload.isEmpty && !settled.contentReceived

theorem binding_informed : (informed session payload).binding = session.binding := by
  rw [informed, settleOutbox_eq, receiveState_eq]

theorem isTyping_informed :
    (informed session payload).outbox.isTyping now = session.outbox.isTyping now := by
  have settled := isTyping_settleOutbox (receiveState session payload) now
  rw [receiveState_eq] at settled
  rw [informed, receiveState_eq]
  exact settled

/-- Only an empty state is waited upon, and only if no connection had been lost before it. -/
theorem awaitsFallback_eq (guest : session.isHost = false)
    (nothing : session.contentReceived = false) :
    awaitsFallback session payload = (payload.isEmpty && !session.resync) := by
  rw [awaitsFallback, settleOutbox_eq]
  cases empty : payload.isEmpty with
  | false => simp
  | true =>
      rw [receiveState_of_isEmpty session payload empty]
      change (!session.isHost && !session.resync && true && !session.contentReceived) = _
      simp [guest, nothing]

/-- A first state is shown, unless there is nothing in it and one's own text may be shared. -/
theorem onInitialState_of_present {ν : Type} {desk : Desk ν} {session : Session}
    (present : desk.session = some session) (payload : Update) (now : Nat) :
    desk.onInitialState payload now =
      (if awaitsFallback (desk.observe session now).1 payload then
        { (desk.observe session now).2.withSession (informed (desk.observe session now).1 payload)
          with
          agenda := (desk.observe session now).2.agenda.once .emptySyncFallback
            desk.settings.emptySyncWait now }
      else
        { (desk.observe session now).2 with
          session := some ((informed (desk.observe session now).1 payload).displayOrDefer
            (desk.observe session now).2.buffer now).1
          buffer := ((informed (desk.observe session now).1 payload).displayOrDefer
            (desk.observe session now).2.buffer now).2 }).notify .synced := by
  rw [Desk.onInitialState, present]
  rfl

/-- What a session has once it was told the state. -/
theorem exists_onInitialState {ν : Type} {desk : Desk ν} {session : Session}
    (present : desk.session = some session) (payload : Update) (now : Nat) :
    ∃ told walks, (desk.onInitialState payload now).session = some told ∧
      told.outbox =
          (settleOutbox (receiveState (desk.observe session now).1 payload)).outbox ∧
        told.replica =
          { (receiveState (desk.observe session now).1 payload).replica with walks } := by
  rw [onInitialState_of_present present]
  have same : (informed (desk.observe session now).1 payload).replica =
      (receiveState (desk.observe session now).1 payload).replica := by
    rw [informed, settleOutbox_eq]
  split
  · exact ⟨_, _, rfl, rfl, same⟩
  · rw [← same, Session.displayOrDefer]
    split
    · exact ⟨_, _, rfl, rfl, rfl⟩
    · exact ⟨_, _, rfl, rfl, rfl⟩

theorem settleOutbox_of_due {session : Session}
    (due : session.isHost = true ∨ session.resync = true) :
    (settleOutbox session).outbox = { session.outbox with
      pending := session.outbox.pending || !session.replica.isEmpty
      lastSent := none } := by
  rw [settleOutbox, if_pos (by simpa using due)]
  cases empty : session.replica.isEmpty with
  | true => simp [Outbox.resetSent]
  | false => simp [Outbox.resetSent, Outbox.markPending]

/-- What a session owes that was told the state. -/
theorem outbox_onInitialState {ν : Type} {desk : Desk ν} {session told : Session}
    (present : desk.session = some session)
    (due : session.isHost = true ∨ session.resync = true) {payload : Update} {now : Nat}
    (next : (desk.onInitialState payload now).session = some told) :
    told.outbox.lastSent = none ∧
      (told.outbox.pending = true ↔
        (desk.observe session now).1.outbox.pending = true ∨ told.replica.text ≠ []) := by
  rcases exists_onInitialState present payload now with ⟨_, walks, same, outbox, replica⟩
  cases next.symm.trans same
  have still : (receiveState (desk.observe session now).1 payload).isHost = true ∨
      (receiveState (desk.observe session now).1 payload).resync = true := by
    rw [receiveState_eq]
    exact due
  have before : (receiveState (desk.observe session now).1 payload).outbox =
      (desk.observe session now).1.outbox := by
    rw [receiveState_eq]
  have text : told.replica.text =
      (receiveState (desk.observe session now).1 payload).replica.text := by
    rw [replica]
    rfl
  rw [outbox, settleOutbox_of_due still, before, text]
  simp [Replica.isEmpty]

end Desk

end Cowrite
