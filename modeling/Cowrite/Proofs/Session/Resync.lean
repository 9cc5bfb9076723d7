import Cowrite.Proofs.Session.Carries
import Cowrite.Proofs.Session.Typing
import Cowrite.Transport.Scripted

/-!
# Sending everything again

When a host gets the state of its session, or anybody gets it after a reconnection, the others may
have lost what they had. So the whole document should go out with the next flush
(`Desk.Resends`): somebody with nothing should get all of it.

A session that owes everything to the others (`Ledger.Owes`) has something pending and takes it that
they have nothing. It goes on owing until a transport accepts a payload (`Ledger.Step.due`), and
whatever a flush sends then is the whole document. But the first state leaves nothing pending if the
text is empty. So everything is sent again if and only if something was pending already or there is
a text (`Lives.resends_iff`); a document from which everything was deleted is not
(`emptied_not_resends`). Whoever is connected again after a loss takes part in this
(`resyncs_onConnected`).
-/

namespace Cowrite

open Ledger (Step Steps)

namespace Ledger

variable {heard : Option Update} {ledger before after : Ledger} {count : Nat}

/-- Whether a session has something pending and takes it that the others have nothing of its
document. -/
structure Owes (ledger : Ledger) : Prop where
  grown : ledger.replica.Grown
  written : ledger.replica.log ≠ []
  pending : ledger.outbox.pending = true
  unknown : ledger.outbox.lastSent = none

/-- What a session sends that owes everything. -/
theorem Owes.updateFor_eq (owes : ledger.Owes) :
    ledger.outbox.updateFor ledger.replica = ledger.replica.fullState := by
  rw [Outbox.updateFor, owes.unknown]

theorem Owes.isEmpty_updateFor (owes : ledger.Owes) :
    (ledger.outbox.updateFor ledger.replica).isEmpty = false := by
  rw [owes.updateFor_eq, owes.grown.fullState_eq owes.written]
  rfl

/-- Whether everything is owed, unless more payloads have been accepted than so many. -/
structure Due (count : Nat) (ledger : Ledger) : Prop where
  grown : ledger.replica.Grown
  atLeast : count ≤ ledger.payloads.length
  owes : ledger.payloads.length = count → ledger.Owes

/-- A message with a payload makes the payloads more. -/
theorem length_payloads_append (messages : List (OutboundMessage Update))
    {message : OutboundMessage Update} {payload : Update}
    (carries : message.payload? = some payload) :
    ((messages ++ [message]).filterMap OutboundMessage.payload?).length =
      (messages.filterMap OutboundMessage.payload?).length + 1 := by
  simp [carries]

/-- Once a further payload has been accepted nothing is due. -/
theorem Due.of_accepted (due : before.Due count) (grown : after.replica.Grown)
    {message : OutboundMessage Update} {payload : Update}
    (carries : message.payload? = some payload)
    (accepted : after.accepted = before.accepted ++ [message]) : after.Due count := by
  have longer : after.payloads.length = before.payloads.length + 1 := by
    rw [payloads, accepted]
    exact length_payloads_append _ carries
  have atLeast := due.atLeast
  refine ⟨grown, by omega, ?_⟩
  intro same
  omega

/-- Somebody who owes everything goes on owing it until a payload is accepted. -/
theorem Step.due (step : Step heard before after) (due : before.Due count) : after.Due count := by
  have went := step.extends due.grown
  have keeps (pending : before.Owes → after.outbox.pending = true)
      (unknown : before.Owes → after.outbox.lastSent = none)
      (same : after.payloads = before.payloads) : after.Due count := by
    refine ⟨went.grown, same ▸ due.atLeast, ?_⟩
    intro few
    have owes := due.owes (same ▸ few)
    refine ⟨went.grown, ?_, pending owes, unknown owes⟩
    exact fun none => owes.written (List.eq_nil_of_subset_nil (none ▸ went.replica.log_subset))
  cases step with
  | types edit now => exact keeps (fun _ => rfl) (fun owes => owes.unknown) rfl
  | touches now => exact keeps (fun _ => rfl) (fun owes => owes.unknown) rfl
  | shares text => exact keeps (fun _ => rfl) (fun owes => owes.unknown) rfl
  | hears isHeard applied =>
      exact keeps (fun owes => owes.pending) (fun owes => owes.unknown) rfl
  | walks walks => exact keeps (fun owes => owes.pending) (fun owes => owes.unknown) rfl
  | forgets => exact keeps (fun owes => owes.pending) (fun _ => rfl) rfl
  | marks => exact keeps (fun _ => rfl) (fun owes => owes.unknown) rfl
  | trusts idle =>
      exact keeps (fun owes => owes.pending) (fun owes => absurd owes.pending (by simp [idle])) rfl
  | drops nothing =>
      refine keeps (fun owes => ?_) (fun owes => owes.unknown) rfl
      exact absurd nothing (by simp [owes.isEmpty_updateFor])
  | sends something => exact due.of_accepted due.grown rfl rfl
  | asks =>
      refine keeps (fun owes => owes.pending) (fun owes => owes.unknown) ?_
      simp [payloads, OutboundMessage.payload?]

theorem kept_due (count : Nat) : Kept (Due count) :=
  ⟨fun _ _ _ step due => step.due due, fun _ due => due.of_accepted due.grown rfl rfl⟩

end Ledger

/-! ## Sessions -/

namespace Session

variable {ν : Type} [Transport ν] {session : Session} {network : Recorded ν} {now : Nat}
  {force : Bool}

/-- Whether a flush sends something from which somebody with nothing gets the whole document, or is
refused. -/
def FlushesAll (session : Session) (network : Recorded ν) (now : Nat) (force : Bool) : Prop :=
  (session.flush network now force).1 = .failed ∨
    (session.flush network now force).1 = .sent ∧
      ∃ payload, (session.flush network now force).2.2.payloads = network.payloads ++ [payload] ∧
        payload.Restores session.replica

/-- Somebody who owes everything sends all of it. -/
theorem flushesAll_of_owes (owes : (session.ledger network).Owes)
    (free : force = true ∨ session.outbox.isTyping now = false) :
    session.FlushesAll network now force := by
  rcases session.flush_cases network now force with
    ⟨idle, _⟩ | ⟨_, patient, typing, _⟩ | ⟨nothing, _⟩ | ⟨_, _, transport, sent⟩ |
      ⟨_, _, transport, failed⟩
  · cases idle.symm.trans owes.pending
  · rcases free with forced | free
    · cases patient.symm.trans forced
    · cases free.symm.trans typing
  · cases nothing.symm.trans owes.isEmpty_updateFor
  · right
    rw [sent]
    refine ⟨rfl, _, ?_, owes.grown.restores_fullState⟩
    simp only [Recorded.payloads, List.filterMap_append, List.append_cancel_left_eq]
    rw [← owes.updateFor_eq]
    rfl
  · left
    rw [failed]

end Session

/-! ## Desks -/

namespace Desk

variable {ν : Type} [Transport ν] {desk later : Desk (Recorded ν)} {session told : Session}
  {count : Nat}

/-- Whatever happens while a session lasts: it is polled and called, and anything may become of the
buffer and of the transport, but not of the record of what was accepted. -/
inductive Goes : Desk (Recorded ν) → Desk (Recorded ν) → Prop where
  | refl (desk : Desk (Recorded ν)) : Goes desk desk
  | carries {desk later : Desk (Recorded ν)} (goes : Goes desk later) (buffer : Buffer)
      (transport : ν) :
      Goes desk { later with buffer, network := { later.network with transport } }
  | calls {desk later : Desk (Recorded ν)} (goes : Goes desk later) {call : Call}
      (same : call.number? = none) (now : Nat) : Goes desk (call.perform later now)
  | turns {desk later : Desk (Recorded ν)} (goes : Goes desk later) (now : Nat) :
      Goes desk (later.pollOnce now).2

theorem Goes.due (goes : desk.Goes later) (due : desk.HasLedger (Ledger.Due count)) :
    later.HasLedger (Ledger.Due count) := by
  induction goes with
  | refl => exact due
  | carries _ buffer transport ih => exact ih
  | calls _ same now ih => exact HasLedger.perform (Ledger.kept_due count) ih same now
  | turns _ now ih => exact HasLedger.pollOnce (Ledger.kept_due count) ih now

theorem Lives.grown (lives : desk.Lives) :
    desk.HasLedger fun ledger => ledger.replica.Grown := by
  have opens : ∀ {desk : Desk (Recorded ν)} {role target key invitation document notices now},
      document.1.Grown →
        ({ desk.opened role target key invitation document now with notices } :
          Desk (Recorded ν)).HasLedger fun ledger => ledger.replica.Grown := by
    intro desk role target key invitation document notices now grown session present
    rw [Session.ledger, (session_opened present).1]
    exact grown
  induction lives with
  | fresh ended _ =>
      intro session present
      cases ended.symm.trans present
  | carries _ buffer network ih => exact ih
  | turns _ now ih => exact ih.pollOnce Ledger.kept_grown now
  | @calls desk _ call now ih =>
      cases call with
      | host target draws =>
          rcases desk.host_cases target draws now with same | ⟨_, _, _, _, _, opened⟩
          · rw [Call.perform, same]
            exact ih
          · rw [Call.perform, opened]
            exact opens (makes_seed draws.replica desk.buffer _).grown
      | join code replica =>
          rcases desk.join_cases code replica now with same | ⟨_, _, _, _, _, opened⟩
          · rw [Call.perform, same]
            exact ih
          · rw [Call.perform, opened]
            exact opens (Replica.grown_new replica)
      | _ => exact ih.perform Ledger.kept_grown rfl now

/-- Whether everything is sent again: until a payload is accepted, whatever else happens, a flush
that does not wait for the user to stop typing sends the whole document, or is refused. -/
def Resends (desk : Desk (Recorded ν)) : Prop :=
  ∀ (later : Desk (Recorded ν)) (session : Session) (now : Nat) (force : Bool),
    desk.Goes later → later.network.payloads = desk.network.payloads →
      later.session = some session →
        (force = true ∨ (later.observe session now).1.outbox.isTyping now = false) →
          (later.observe session now).1.FlushesAll later.network now force

/-- With nothing pending nothing is sent again. -/
theorem not_resends_of_idle (present : desk.session = some session)
    (idle : session.outbox.pending = false) : ¬desk.Resends := by
  intro resends
  let quiet : Desk (Recorded ν) := { desk with buffer := { desk.buffer with changes := [] } }
  have goes : desk.Goes quiet := .carries (.refl desk) _ _
  have still : (quiet.observe session 0).1.outbox = session.outbox := by
    rw [observe, Session.observe, Binding.observe_of_quiet _ _ _ _ rfl]
    rfl
  have flushed : ((quiet.observe session 0).1.flush quiet.network 0 true).1 = .idle := by
    rw [Session.flush, Outbox.flush, still, idle]
    rfl
  rcases resends quiet session 0 true goes rfl present (.inl rfl) with failed | ⟨sent, _⟩
  · cases flushed.symm.trans failed
  · cases flushed.symm.trans sent

/-- Everything is sent again by somebody who owes everything. -/
theorem resends_of_owes (present : desk.session = some session)
    (owes : (session.ledger desk.network).Owes) : desk.Resends := by
  intro later other now force goes same going free
  have start : desk.HasLedger (Ledger.Due desk.network.payloads.length) := by
    intro session there
    cases present.symm.trans there
    exact ⟨owes.grown, Nat.le_refl _, fun _ => owes⟩
  have seen := (Ledger.kept_due _).steps
    (other.steps_observe later.network later.buffer now none) (goes.due start other going)
  exact Session.flushesAll_of_owes (seen.owes (congrArg List.length same)) free

/-- Everything is sent again if and only if something was pending or there is a text. -/
theorem Lives.resends_iff (lives : desk.Lives) (present : desk.session = some session)
    (due : session.isHost = true ∨ session.resync = true) {payload : Update} {now : Nat}
    (next : (desk.onInitialState payload now).session = some told)
    (written : told.replica.log ≠ []) :
    (desk.onInitialState payload now).Resends ↔
      (desk.observe session now).1.outbox.pending = true ∨ told.replica.text ≠ [] := by
  have grown : told.replica.Grown :=
    lives.grown.carries Ledger.kept_grown (carries_onInitialState desk payload now) told next
  rcases outbox_onInitialState present due next with ⟨unknown, owed⟩
  rw [← owed]
  constructor
  · intro resends
    by_contra idle
    exact not_resends_of_idle next (eq_false_of_ne_true idle) resends
  · intro pending
    exact resends_of_owes next ⟨grown, written, pending, unknown⟩

/-! ### After a reconnection -/

/-- Whether the session at a desk, if there is one, sends everything again when the state comes. -/
def Resyncs (desk : Desk (Recorded ν)) : Prop :=
  ∀ session, desk.session = some session → session.resync = true

theorem Resyncs.onConnectionLost (resyncs : desk.Resyncs) (now : Nat) :
    (desk.onConnectionLost now).Resyncs := by
  intro told next
  cases present : desk.session with
  | none =>
      rw [Desk.onConnectionLost, present] at next
      exact resyncs told next
  | some session =>
      rw [Desk.onConnectionLost, present] at next
      cases outcome : ((desk.line session).lose now).1 with
      | exhausted attempts =>
          simp only [outcome] at next
          cases next
      | _ =>
          simp only [outcome] at next
          cases next
          exact resyncs session present

theorem Resyncs.requestState (resyncs : desk.Resyncs) (set : session.resync = true) (now : Nat) :
    (desk.requestState session now).Resyncs := by
  have still (line : Line (Recorded ν)) : (desk.withLine session line).Resyncs := by
    intro told next
    cases next
    exact set
  rw [Desk.requestState]
  split
  · split
    · exact still _
    · exact (still _).onConnectionLost now
  · split
    · exact resyncs
    · exact still _

/-- Whoever is connected again after a loss has everything sent again when the state comes. -/
theorem resyncs_onConnected (present : desk.session = some session)
    (lost : session.connection.state.isReconnecting = true) (now : Nat) :
    (desk.onConnected now).Resyncs := by
  have unconfirmed : session.connection.state.isUnconfirmed = true := by
    cases state : session.connection.state with
    | reconnecting attempt => rfl
    | _ => simp [state, ConnectionState.isReconnecting] at lost
  let again : Session := { session with
    connection := (desk.line session).confirm.2.connection
    resync := session.resync || (desk.line session).confirm.1 }
  have set : again.resync = true := by
    show (session.resync || session.connection.state.isReconnecting) = true
    rw [lost, Bool.or_true]
  have confirms : (desk.withLine again (desk.line session).confirm.2).Resyncs := by
    intro told next
    cases next
    exact set
  rw [onConnected, present]
  simp only [unconfirmed, if_true]
  split
  · refine Resyncs.requestState ?_ set now
    exact confirms
  · exact confirms.requestState set now

/-! ### A host that shares three letters -/

/-- An event comes to a desk. -/
def receives (desk : Desk (Recorded Scripted)) (event : TransportEvent Update) :
    Desk (Recorded Scripted) :=
  { desk with network := { desk.network with
      transport := (desk.network.transport.emit none event).2 } }

theorem Lives.receives {desk : Desk (Recorded Scripted)} (lives : desk.Lives)
    (event : TransportEvent Update) : (desk.receives event).Lives :=
  lives.carries desk.buffer _

/-- Somebody with three letters to share, over a transport that follows a script. -/
def draft : Desk (Recorded Scripted) :=
  { buffer := Buffer.ofText "abc".toList, network := { transport := { serves := .relay } } }

/-- A call to share them. -/
def shares : Call :=
  .host (.relay (some "ws://relay.test"))
    ⟨2, 5, ⟨.replicate 32 (.ofNat 0), SessionKey.length_zeros⟩⟩

/-- The host is in sync and has sent everything. -/
def shared : Desk (Recorded Scripted) :=
  let connected := Call.poll.perform ((shares.perform draft 0).receives .connected) 10
  let synced := Call.poll.perform (connected.receives (.syncResponse .empty)) 20
  Call.flushNow.perform synced 30

theorem lives_shared : shared.Lives := by
  have draft : draft.Lives := .fresh rfl rfl
  have connected := ((draft.calls shares 0).receives .connected).calls .poll 10
  exact ((connected.receives (.syncResponse .empty)).calls .poll 20).calls .flushNow 30

/-- The host deletes everything, and this is sent as well. -/
def emptied : Desk (Recorded Scripted) :=
  let cleared : Desk (Recorded Scripted) :=
    { shared with buffer := (Typing.setLines 0 1 []).perform shared.buffer }
  Call.flushNow.perform cleared 1000

theorem lives_emptied : emptied.Lives :=
  (lives_shared.carries _ shared.network).calls .flushNow 1000

/-- The connection is lost, and the next attempt is confirmed. -/
def reconnected (desk : Desk (Recorded Scripted)) : Desk (Recorded Scripted) :=
  let lost := Call.poll.perform (desk.receives .disconnected) 2000
  let redialed := Call.poll.perform lost 3000
  Call.poll.perform (redialed.receives .connected) 3010

theorem Lives.reconnected {desk : Desk (Recorded Scripted)} (lives : desk.Lives) :
    desk.reconnected.Lives := by
  have lost := (lives.receives .disconnected).calls .poll 2000
  exact ((lost.calls .poll 3000).receives .connected).calls .poll 3010

/-- The relay has lost the text, and everything is sent again. -/
theorem shared_resends :
    ∃ session told, shared.reconnected.Lives ∧
      shared.reconnected.session = some session ∧ session.isHost = true ∧
        (shared.reconnected.onInitialState .empty 3020).session = some told ∧
          told.replica.log ≠ [] ∧ (shared.reconnected.onInitialState .empty 3020).Resends := by
  have present : shared.reconnected.session.any fun session => session.isHost := by
    decide +kernel
  have next : (shared.reconnected.onInitialState .empty 3020).session.any fun told =>
      told.replica.log ≠ [] ∧ told.replica.text ≠ [] := by
    decide +kernel
  rcases (Option.any_eq_true _ _).1 present with ⟨session, present, host⟩
  rcases (Option.any_eq_true _ _).1 next with ⟨told, next, holds⟩
  rcases of_decide_eq_true holds with ⟨written, text⟩
  have lives := lives_shared.reconnected
  exact ⟨session, told, lives, present, host, next, written,
    (lives.resends_iff present (.inl host) next written).2 (.inr text)⟩

/-- The relay has the text still, and nobody tells it that everything was deleted. -/
theorem emptied_not_resends :
    ∃ session told, emptied.reconnected.Lives ∧
      emptied.reconnected.session = some session ∧ session.isHost = true ∧
        session.resync = true ∧
          (emptied.reconnected.onInitialState .empty 3020).session = some told ∧
            told.replica.log ≠ [] ∧ told.replica.text = [] ∧
              ¬(emptied.reconnected.onInitialState .empty 3020).Resends := by
  have present : emptied.reconnected.session.any fun session =>
      session.isHost ∧ session.resync := by
    decide +kernel
  have next : (emptied.reconnected.onInitialState .empty 3020).session.any fun told =>
      told.replica.log ≠ [] ∧ told.replica.text = [] ∧
        (((emptied.reconnected.onInitialState .empty 3020).observe told 4000).1.flush
          (emptied.reconnected.onInitialState .empty 3020).network 4000 true).1 = .idle := by
    decide +kernel
  rcases (Option.any_eq_true _ _).1 present with ⟨session, present, holds⟩
  rcases of_decide_eq_true holds with ⟨host, resync⟩
  rcases (Option.any_eq_true _ _).1 next with ⟨told, next, holds⟩
  rcases of_decide_eq_true holds with ⟨written, text, idle⟩
  refine ⟨session, told, lives_emptied.reconnected, present, host, resync, next, written, text, ?_⟩
  intro resends
  rcases resends _ told 4000 true (.refl _) rfl next (.inl rfl) with failed | ⟨sent, _⟩
  · cases idle.symm.trans failed
  · cases idle.symm.trans sent

end Desk

end Cowrite
