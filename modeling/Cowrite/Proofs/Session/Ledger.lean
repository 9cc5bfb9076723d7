import Cowrite.Proofs.Replica.Grown
import Cowrite.Proofs.Session.Binding
import Cowrite.Proofs.Session.FirstState
import Cowrite.Proofs.Session.Flushing
import Cowrite.Proofs.Transport.Recorded
import Mathlib.Logic.Relation

/-!
# What a session does to its document and its outbox

The document of a session, its outbox and what its transport has accepted make up a ledger. A
session changes its ledger in few ways only (`Ledger.Step`): it puts in what was typed or heard,
marks what is pending, and sends, or finds that there is nothing to send. So the document only
grows, and what was accepted stays accepted (`Ledger.Steps.extends`).
-/

namespace Cowrite

/-- The document of a session, its outbox, and what its transport has accepted. -/
structure Ledger where
  replica : Replica
  outbox : Outbox
  accepted : List (OutboundMessage Update)

namespace Ledger

/-- One change of a ledger, in a session that hears of at most one payload. -/
inductive Step (heard : Option Update) : Ledger → Ledger → Prop where
  | types (ledger : Ledger) (edit : Edit) (now : Nat) :
      Step heard ledger { ledger with
        replica := ledger.replica.edit edit
        outbox := ledger.outbox.recordEdit now }
  /-- Something was typed that changes nothing. -/
  | touches (ledger : Ledger) (now : Nat) :
      Step heard ledger { ledger with outbox := ledger.outbox.recordEdit now }
  /-- The text of the buffer is shared. -/
  | shares (ledger : Ledger) (text : Text) :
      Step heard ledger { ledger with
        replica := ledger.replica.setText text
        outbox := ledger.outbox.markPending }
  | hears {ledger : Ledger} {payload : Update} (isHeard : heard = some payload) {updated : Replica}
      (applied : ledger.replica.apply payload = .ok updated) :
      Step heard ledger { ledger with replica := updated }
  | walks (ledger : Ledger) (walks : List Walk) :
      Step heard ledger { ledger with replica := { ledger.replica with walks } }
  /-- The others may have lost what they had. -/
  | forgets (ledger : Ledger) :
      Step heard ledger { ledger with outbox := ledger.outbox.resetSent }
  | marks (ledger : Ledger) :
      Step heard ledger { ledger with outbox := ledger.outbox.markPending }
  /-- With nothing pending, the others are taken to have everything. -/
  | trusts {ledger : Ledger} (idle : ledger.outbox.pending = false) :
      Step heard ledger { ledger with
        outbox := ledger.outbox.recordVersion ledger.replica.token }
  /-- What is pending is nothing new to the others. -/
  | drops {ledger : Ledger}
      (nothing : (ledger.outbox.updateFor ledger.replica).isEmpty = true) :
      Step heard ledger { ledger with outbox := { ledger.outbox with pending := false } }
  | sends {ledger : Ledger}
      (something : (ledger.outbox.updateFor ledger.replica).isEmpty = false) :
      Step heard ledger { ledger with
        outbox := { ledger.outbox with
          pending := false
          lastSent := some ledger.replica.token }
        accepted := ledger.accepted ++ [.update (ledger.outbox.updateFor ledger.replica)] }
  /-- The relay is asked for the state. -/
  | asks (ledger : Ledger) :
      Step heard ledger { ledger with accepted := ledger.accepted ++ [.syncRequest] }

/-- The ledger after everything has been sent to somebody who is new. -/
def welcomed (ledger : Ledger) : Ledger :=
  { ledger with
    outbox := ledger.outbox.recordVersion ledger.replica.token
    accepted := ledger.accepted ++ [.fullState ledger.replica.fullState] }

/-- Any number of changes. -/
abbrev Steps (heard : Option Update) : Ledger → Ledger → Prop :=
  Relation.ReflTransGen (Step heard)

/-- The payloads that have been accepted. -/
def payloads (ledger : Ledger) : List Update :=
  ledger.accepted.filterMap OutboundMessage.payload?

/-- Whatever happens to a ledger, the document grows, and what was accepted stays accepted. -/
structure Extends (before after : Ledger) : Prop where
  grown : after.replica.Grown
  replica : before.replica.Extends after.replica
  accepted : before.accepted <+: after.accepted

section

variable {heard : Option Update} {ledger before after : Ledger}

theorem Extends.refl (grown : ledger.replica.Grown) : ledger.Extends ledger :=
  ⟨grown, .refl _, List.prefix_refl _⟩

theorem Extends.trans {first second third : Ledger} (one : first.Extends second)
    (two : second.Extends third) : first.Extends third :=
  ⟨two.grown, one.replica.trans two.replica, one.accepted.trans two.accepted⟩

theorem Step.extends (step : Step heard before after) (grown : before.replica.Grown) :
    before.Extends after := by
  cases step with
  | types edit now =>
      have makes := grown.makes_edit edit
      exact ⟨makes.grown, makes.extended, List.prefix_refl _⟩
  | touches now => exact ⟨grown, .refl _, List.prefix_refl _⟩
  | shares text =>
      have makes := grown.makes_setText text
      exact ⟨makes.grown, makes.extended, List.prefix_refl _⟩
  | hears isHeard applied =>
      exact ⟨grown.apply applied, grown.extends_apply applied, List.prefix_refl _⟩
  | walks walks =>
      exact ⟨grown.withWalks walks, ⟨rfl, List.Subset.refl _, fun _ => Nat.le_refl _⟩,
        List.prefix_refl _⟩
  | forgets => exact ⟨grown, .refl _, List.prefix_refl _⟩
  | marks => exact ⟨grown, .refl _, List.prefix_refl _⟩
  | trusts idle => exact ⟨grown, .refl _, List.prefix_refl _⟩
  | drops nothing => exact ⟨grown, .refl _, List.prefix_refl _⟩
  | sends something => exact ⟨grown, .refl _, List.prefix_append _ _⟩
  | asks => exact ⟨grown, .refl _, List.prefix_append _ _⟩

theorem Steps.extends (steps : Steps heard before after) (grown : before.replica.Grown) :
    before.Extends after := by
  induction steps with
  | refl => exact .refl grown
  | tail _ step ih => exact ih.trans (step.extends ih.grown)

/-- Whether something stays true of a ledger whatever happens to it. -/
structure Kept (holds : Ledger → Prop) : Prop where
  step : ∀ heard before after, Step heard before after → holds before → holds after
  welcome : ∀ ledger, holds ledger → holds ledger.welcomed

theorem Kept.steps {holds : Ledger → Prop} (kept : Kept holds) (steps : Steps heard before after)
    (has : holds before) : holds after := by
  induction steps with
  | refl => exact has
  | tail _ step ih => exact kept.step _ _ _ step ih

/-- A document grows and grows. -/
theorem kept_grown : Kept fun ledger => ledger.replica.Grown :=
  ⟨fun _ _ _ step grown => (step.extends grown).grown, fun _ grown => grown⟩

end

end Ledger

open Ledger (Step Steps)

/-! ## Sessions -/

namespace Session

variable {ν : Type} (session : Session) (network : Recorded ν) (buffer : Buffer) (now : Nat)
  (heard : Option Update)

def ledger : Ledger :=
  ⟨session.replica, session.outbox, network.accepted⟩

theorem steps_observe :
    Steps heard (session.ledger network) ((session.observe buffer now).1.ledger network) := by
  rcases Binding.replica_observe session.binding buffer session.replica now with
    ⟨heardOf, same⟩ | ⟨edited, same | ⟨edit, isEdit⟩⟩
  · simp only [ledger, observe, heardOf, same, if_false]
    exact .refl
  · simp only [ledger, observe, edited, same, if_true]
    exact .single (.touches _ now)
  · simp only [ledger, observe, edited, isEdit, if_true]
    exact .single (.types _ edit now)

theorem steps_display :
    Steps heard (session.ledger network) ((session.display buffer now).1.ledger network) :=
  .single (.walks _ [])

theorem steps_displayOrDefer :
    Steps heard (session.ledger network)
      ((session.displayOrDefer buffer now).1.ledger network) := by
  rw [displayOrDefer]
  split
  · exact .refl
  · exact session.steps_display network buffer now heard

theorem steps_reconcile :
    Steps heard (session.ledger network) ((session.reconcile buffer now).1.ledger network) := by
  rcases Binding.replica_reconcile session.binding buffer session.replica now with ⟨walks, same⟩
  simp only [ledger, reconcile, same]
  exact .single (.walks _ walks)

/-- Whether a session goes on as the same one, without new peers. -/
structure Continues (session later : Session) : Prop where
  role : later.role = session.role
  mode : later.mode = session.mode
  peers : later.peers ⊆ session.peers

theorem Continues.refl (session : Session) : session.Continues session :=
  ⟨rfl, rfl, List.Subset.refl _⟩

theorem Continues.trans {first second third : Session} (one : first.Continues second)
    (two : second.Continues third) : first.Continues third :=
  ⟨two.role.trans one.role, two.mode.trans one.mode, fun _ present => one.peers (two.peers present)⟩

theorem steps_receiveState (payload : Update) :
    Steps (some payload) (session.ledger network)
      ((Desk.receiveState session payload).ledger network) := by
  rw [Desk.receiveState]
  split
  · exact .refl
  · cases applied : session.replica.apply payload with
    | error _ => exact .refl
    | ok updated => exact .single (.hears rfl applied)

theorem steps_settleOutbox :
    Steps heard (session.ledger network) ((Desk.settleOutbox session).ledger network) := by
  have forgets : Steps heard (session.ledger network)
      ({ session with outbox := session.outbox.resetSent }.ledger network) :=
    .single (.forgets _)
  rw [Desk.settleOutbox]
  split
  · simp only
    split
    · exact forgets
    · exact forgets.tail (.marks _)
  · split
    case isTrue => exact .refl
    case isFalse idle => exact .single (.trusts (eq_false_of_ne_true idle))

theorem steps_informed (payload : Update) :
    Steps (some payload) (session.ledger network)
      ((Desk.informed session payload).ledger network) :=
  (session.steps_receiveState network payload).trans
    ((Desk.receiveState session payload).steps_settleOutbox network (some payload))

variable [Transport ν]

/-- An update that is due and brings something new is sent or refused. -/
theorem flush_of_due {force : Bool} (due : session.outbox.shouldFlush now force = true)
    (something : (session.outbox.updateFor session.replica).isEmpty = false) :
    (∃ transport, session.flush network now force =
        (.sent, { session with outbox := { session.outbox with
            pending := false
            lastSent := some session.replica.token } },
          { transport
            accepted := network.accepted ++
              [.update (session.outbox.updateFor session.replica)] })) ∨
      ∃ transport, session.flush network now force =
        (.failed, session, { network with transport }) := by
  cases client : session.connection.client with
  | none =>
      right
      refine ⟨network.transport, ?_⟩
      simp [flush, Outbox.flush_eq, Outbox.answered, due, something, client]
  | some own =>
      rcases network.send_cases own (.update (session.outbox.updateFor session.replica)) with
        ⟨transport, accepted⟩ | ⟨error, transport, refused⟩
      · left
        refine ⟨transport, ?_⟩
        simp [flush, Outbox.flush_eq, Outbox.answered, due, something, client, accepted]
      · right
        refine ⟨transport, ?_⟩
        simp [flush, Outbox.flush_eq, Outbox.answered, due, something, client, refused]

/-- What a flush comes to. -/
theorem flush_cases (force : Bool) :
    (session.outbox.pending = false ∧
        session.flush network now force = (.idle, session, network)) ∨
      (session.outbox.pending = true ∧ force = false ∧ session.outbox.isTyping now = true ∧
        session.flush network now force = (.waiting, session, network)) ∨
      ((session.outbox.updateFor session.replica).isEmpty = true ∧
        session.flush network now force =
          (.nothingChanged, { session with outbox := { session.outbox with pending := false } },
            network)) ∨
      (session.outbox.pending = true ∧
        (session.outbox.updateFor session.replica).isEmpty = false ∧
        ∃ transport, session.flush network now force =
          (.sent, { session with outbox := { session.outbox with
              pending := false
              lastSent := some session.replica.token } },
            { transport
              accepted := network.accepted ++
                [.update (session.outbox.updateFor session.replica)] })) ∨
      (session.outbox.pending = true ∧
        (session.outbox.updateFor session.replica).isEmpty = false ∧
        ∃ transport, session.flush network now force =
          (.failed, session, { network with transport })) := by
  cases pending : session.outbox.pending with
  | false =>
      left
      simp [flush, Outbox.flush_eq, Outbox.shouldFlush, pending]
  | true =>
      right
      cases time : session.outbox.shouldFlush now force with
      | false =>
          left
          have typing := time
          simp only [Outbox.shouldFlush, pending, Bool.true_and, Bool.or_eq_false_iff,
            Bool.not_eq_false'] at typing
          refine ⟨rfl, typing.1, typing.2, ?_⟩
          simp [flush, Outbox.flush_eq, pending, time]
      | true =>
          right
          cases nothing : (session.outbox.updateFor session.replica).isEmpty with
          | true =>
              left
              simp [flush, Outbox.flush_eq, time, nothing]
          | false =>
              right
              rcases session.flush_of_due network now time nothing with sent | failed
              · exact .inl ⟨rfl, rfl, sent⟩
              · exact .inr ⟨rfl, rfl, failed⟩

theorem steps_flush (force : Bool) :
    Steps heard (session.ledger network)
      ((session.flush network now force).2.1.ledger (session.flush network now force).2.2) := by
  rcases session.flush_cases network now force with
    ⟨_, idle⟩ | ⟨_, _, _, waiting⟩ | ⟨nothing, dropped⟩ | ⟨_, something, transport, sent⟩ |
      ⟨_, _, transport, failed⟩
  · rw [idle]
  · rw [waiting]
  · rw [dropped]
    exact .single (.drops nothing)
  · rw [sent]
    exact .single (.sends something)
  · rw [failed]
    exact .refl

end Session

end Cowrite
