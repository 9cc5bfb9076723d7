import Cowrite.Proofs.Session.Agenda
import Cowrite.Proofs.Session.Binding
import Cowrite.Proofs.Session.Line
import Cowrite.Proofs.Session.Sending
import Cowrite.Session.Desk

/-!
# The calls of a desk at a relay

Every call of a participant in a session (`Desk.Attending`) is a move of the session in its room, or
it ends the session there (`Desk.Follows`). The proof follows the calls down to the events and
tasks that they deal with: each is a composition of the moves that are known one by one, with the
event in hand until all of it is known.
-/

namespace Cowrite

open Scene

namespace Desk

/-- A desk at which a session goes on. -/
structure Attending (url : String) (history : History) (hand : List (Envelope Update))
    (desk : Desk Relay) (session : Session) : Prop where
  present : desk.session = some session
  sound : Sound url ⟨history, desk.network, hand, session.attendance⟩
  mode : session.mode = .relay
  agenda : desk.agenda.Suits session.connection

/-- What becomes of a session: it goes on, or it ends and leaves nothing on the agenda. -/
def Follows (url : String) (scene : Scene) (after : Desk Relay) : Prop :=
  (∃ larger session, after.Attending url larger [] session ∧
    Moves url scene ⟨larger, after.network, [], session.attendance⟩) ∨
  after.session = none ∧ after.agenda = {} ∧ ∃ larger, scene.Ends larger after.network

variable {url : String} {history : History} {hand : List (Envelope Update)} {desk : Desk Relay}
  {session : Session}

theorem Attending.follows {scene : Scene} (attending : desk.Attending url history [] session)
    (moves : Moves url scene ⟨history, desk.network, [], session.attendance⟩) :
    desk.Follows url scene :=
  .inl ⟨history, session, attending, moves⟩

theorem Follows.of_moves {first second : Scene} (moves : Moves url first second)
    (follows : desk.Follows url second) : desk.Follows url first := by
  rcases follows with ⟨larger, later, attending, further⟩ | ⟨none, empty, larger, ends⟩
  · exact .inl ⟨larger, later, attending, moves.trans further⟩
  · exact .inr ⟨none, empty, larger, moves.trans_ends ends⟩

/-- Notices are of no account. -/
theorem Follows.notify {scene : Scene} (follows : desk.Follows url scene) (notice : Notice) :
    (desk.notify notice).Follows url scene := by
  rcases follows with ⟨larger, later, attending, moves⟩ | ended
  · exact .inl ⟨larger, later, ⟨attending.present, attending.sound, attending.mode,
      attending.agenda⟩, moves⟩
  · exact .inr ended

theorem Attending.notify (attending : desk.Attending url history hand session) (notice : Notice) :
    (desk.notify notice).Attending url history hand session :=
  ⟨attending.present, attending.sound, attending.mode, attending.agenda⟩

/-! ## Ending a session -/

theorem lawful_shutDown {line : Line Relay} (lawful : line.network.Lawful history) :
    line.shutDown.network.Lawful history :=
  (@lawful_hangUp history line.beginLeave lawful).of_rooms_eq rfl (Nat.le_refl _)

theorem mailbox_hangUp (line : Line Relay) :
    line.hangUp.connection.mailbox = line.connection.mailbox := by
  rw [Line.hangUp]
  split <;> rfl

theorem elsewhere_shutDown {line : Line Relay} {room : String} {client : Option ClientId}
    {address : Address} (bystander : line.network.Bystander line.connection room client address) :
    Relay.Elsewhere room client address line.network line.shutDown.network := by
  have leaving : line.beginLeave.network.Bystander line.beginLeave.connection room client
      address := ⟨bystander.apart, bystander.isOpen, bystander.other, bystander.minted,
        bystander.alone⟩
  refine (elsewhere_hangUp leaving).trans (Relay.elsewhere_discard _ ?_ _)
  rw [mailbox_hangUp]
  exact bystander.apart

/-- A session that ends leaves the relay to the others. -/
theorem elsewhere_tearDown (present : desk.session = some session) {room : String}
    {client : Option ClientId} {address : Address}
    (bystander : desk.network.Bystander session.connection room client address) :
    Relay.Elsewhere room client address desk.network desk.tearDown.network := by
  rw [tearDown, present]
  refine (@elsewhere_shutDown (desk.line session) room client address bystander).trans
    (Relay.elsewhere_closeBox _ ?_)
  show address ≠ (desk.line session).beginLeave.hangUp.connection.mailbox
  rw [mailbox_hangUp]
  exact bystander.apart

theorem lawful_tearDown (present : desk.session = some session)
    (lawful : desk.network.Lawful history) : desk.tearDown.network.Lawful history := by
  rw [tearDown, present]
  exact (@lawful_shutDown history (desk.line session) lawful).of_rooms_eq rfl (Nat.le_refl _)

theorem session_tearDown (present : desk.session = some session) :
    desk.tearDown.session = none ∧ desk.tearDown.agenda = {} := by
  rw [tearDown, present]
  exact ⟨rfl, rfl⟩

theorem Attending.tearDown (attending : desk.Attending url history hand session) :
    desk.tearDown.Follows url ⟨history, desk.network, hand, session.attendance⟩ := by
  rcases session_tearDown attending.present with ⟨ended, empty⟩
  refine .inr ⟨ended, empty, history, attending.sound.lawful,
    lawful_tearDown attending.present attending.sound.relay, subset_rfl,
    fun _ present new => absurd present new, ?_⟩
  intro room client address bystander
  exact elsewhere_tearDown attending.present bystander

/-! ## The document -/

/-- The scene of a session after it has looked for what was typed. -/
theorem attendance_observe (desk : Desk Relay) (session : Session) (now : Nat) :
    (desk.observe session now).1.attendance =
      ⟨(session.binding.observe desk.buffer session.replica now).2.2.2,
        if (session.binding.observe desk.buffer session.replica now).1 = .edited then
          session.outbox.recordEdit now else session.outbox,
        session.connection⟩ := rfl

/-- What is typed becomes pending. -/
theorem Attending.observe (attending : desk.Attending url history hand session) (now : Nat) :
    ∃ larger watched looked, desk.observe session now = (watched, looked) ∧
      looked.Attending url larger hand watched ∧ looked.network = desk.network ∧
      watched.connection = session.connection ∧
      Moves url ⟨history, desk.network, hand, session.attendance⟩
        ⟨larger, looked.network, hand, watched.attendance⟩ := by
  have sound : Sound url ⟨history, desk.network, hand,
    ⟨session.replica, session.outbox, session.connection⟩⟩ := attending.sound
  have moves : ∃ larger, Moves url
      ⟨history, desk.network, hand, ⟨session.replica, session.outbox, session.connection⟩⟩
      ⟨larger, desk.network, hand, (desk.observe session now).1.attendance⟩ := by
    rw [attendance_observe]
    rcases session.binding.replica_observe desk.buffer session.replica now with
      ⟨unheard, same⟩ | ⟨edited, same | ⟨edit, changed⟩⟩
    · rw [if_neg unheard, same]
      exact ⟨history, .refl sound⟩
    · rw [if_pos edited, same]
      exact ⟨history, sound.moves_writes (.refl sound.lawful sound.active) rfl rfl⟩
    · rw [if_pos edited, changed]
      rcases Replica.Active.edit sound.lawful sound.active edit with ⟨larger, writes, _⟩
      exact ⟨larger, sound.moves_writes writes rfl rfl⟩
  rcases moves with ⟨larger, moves⟩
  exact ⟨larger, _, _, rfl, ⟨rfl, moves.sound, attending.mode, attending.agenda⟩, rfl, rfl, moves⟩

/-- A session that sends keeps its room true to it. -/
theorem Attending.flush (attending : desk.Attending url history hand session) (now : Nat)
    (force : Bool) :
    ∃ outcome kept after, session.flush desk.network now force =
        (outcome, { session with outbox := kept }, after) ∧
      ({ desk with session := some { session with outbox := kept }, network := after } :
        Desk Relay).Attending url history hand { session with outbox := kept } ∧
      Moves url ⟨history, desk.network, hand, session.attendance⟩
        ⟨history, after, hand, ⟨session.replica, kept, session.connection⟩⟩ := by
  rcases attending.sound.flush now force with ⟨outcome, kept, after, flushed, moves⟩
  exact ⟨outcome, kept, after, flushed, ⟨rfl, moves.sound, attending.mode, attending.agenda⟩,
    moves⟩

/-- What is shown in the buffer is no concern of the room. -/
theorem attendance_display (session : Session) (buffer : Buffer) (now : Nat) :
    (session.display buffer now).1.attendance =
      ⟨{ session.replica with walks := [] }, session.outbox, session.connection⟩ := rfl

/-- Whether a session goes on after it has shown something in the buffer of its desk. -/
def Shows (url : String) (history : History) (hand : List (Envelope Update)) (desk : Desk Relay)
    (session shown : Session) (buffer : Buffer) : Prop :=
  ({ desk with session := some shown, buffer } : Desk Relay).Attending url history hand shown ∧
    shown.connection = session.connection ∧
    Moves url ⟨history, desk.network, hand, session.attendance⟩
      ⟨history, desk.network, hand, shown.attendance⟩

theorem Attending.display (attending : desk.Attending url history hand session) (now : Nat) :
    ∃ shown buffer, session.display desk.buffer now = (shown, buffer) ∧
      Shows url history hand desk session shown buffer := by
  have sound : Sound url ⟨history, desk.network, hand,
      (session.display desk.buffer now).1.attendance⟩ := by
    rw [attendance_display]
    exact Sound.withWalks attending.sound []
  exact ⟨_, _, rfl, ⟨rfl, sound, attending.mode, attending.agenda⟩, rfl,
    .of_sound sound rfl rfl rfl rfl fun _ => id⟩

theorem Attending.displayOrDefer (attending : desk.Attending url history hand session)
    (now : Nat) :
    ∃ shown buffer, session.displayOrDefer desk.buffer now = (shown, buffer) ∧
      Shows url history hand desk session shown buffer := by
  rw [Session.displayOrDefer]
  split
  · exact ⟨_, _, rfl, ⟨rfl, attending.sound, attending.mode, attending.agenda⟩, rfl,
      .refl attending.sound⟩
  · exact attending.display now

theorem Attending.reconcile (attending : desk.Attending url history hand session) (now : Nat) :
    ∃ shown buffer, session.reconcile desk.buffer now = (shown, buffer) ∧
      Shows url history hand desk session shown buffer := by
  have same : (session.reconcile desk.buffer now).1.attendance =
      ⟨(session.binding.reconcile desk.buffer session.replica now).2.2.2, session.outbox,
        session.connection⟩ := rfl
  rcases session.binding.replica_reconcile desk.buffer session.replica now with ⟨walks, kept⟩
  have sound : Sound url ⟨history, desk.network, hand,
      (session.reconcile desk.buffer now).1.attendance⟩ := by
    rw [same, kept]
    exact Sound.withWalks attending.sound walks
  have sameId : (session.reconcile desk.buffer now).1.attendance.replica.id =
      session.replica.id := by
    rw [same, kept]
  exact ⟨_, _, rfl, ⟨rfl, sound, attending.mode, attending.agenda⟩, rfl,
    .of_sound sound rfl rfl sameId rfl fun _ => id⟩

/-! ## The connection -/

/-- A lost connection is made anew later, or the session ends. -/
theorem Attending.lose (attending : desk.Attending url history hand session) {now : Nat}
    {outcome : LossOutcome} {lost : Line Relay}
    (loses : (desk.line session).lose now = (outcome, lost)) :
    ((desk.withLine session lost).afterLoss outcome).Follows url
      ⟨history, desk.network, hand, session.attendance⟩ := by
  have sound : Sound url ⟨history, desk.network, hand,
    ⟨session.replica, session.outbox, session.connection⟩⟩ := attending.sound
  have line : desk.line session = ⟨session.connection, desk.agenda, desk.network⟩ := rfl
  rw [line] at loses
  rcases sound.lose desk.agenda now with
    ⟨planned, ignored⟩ | ⟨attempt, delay, after, scheduled, moves⟩ |
      ⟨attempts, last, exhausted, hungUp, mailbox, ends⟩
  · rcases Prod.mk.inj (loses.symm.trans ignored) with ⟨rfl, rfl⟩
    have unjoined : session.connection.state.isJoined = true → False := by
      intro joined
      rcases sound.linked joined with ⟨own, isOwn, _⟩
      have unplanned := attending.agenda.lone own isOwn
      simp [planned] at unplanned
    have dealt := sound.dealtWith fun joined => absurd joined unjoined
    exact .inl ⟨history, session, ⟨rfl, dealt, attending.mode, attending.agenda⟩,
      .of_sound dealt rfl rfl rfl rfl fun _ => id⟩
  · rcases Prod.mk.inj (loses.symm.trans scheduled) with ⟨rfl, rfl⟩
    let waiting : Session := { session with
      connection := { session.connection with
        client := none
        attempts := attempt
        state := .reconnecting attempt } }
    have suits : ((desk.agenda.cancel .connectTimeout).once .reconnect delay now).Suits
        waiting.connection := (attending.agenda.cancel .connectTimeout).reconnect rfl delay now
    exact Follows.notify
      (.inl ⟨history, waiting, ⟨rfl, moves.sound, attending.mode, suits⟩, moves⟩) _
  · rcases Prod.mk.inj (loses.symm.trans exhausted) with ⟨rfl, rfl⟩
    have torn : (desk.withLine session lost).session =
        some { session with connection := lost.connection } := rfl
    rcases session_tearDown torn with ⟨ended, empty⟩
    refine Follows.notify (.inr ⟨ended, empty, history, ends.lawful,
      lawful_tearDown torn ends.relay, ends.subset, ends.own, ?_⟩) _
    intro room client address bystander
    have early := ends.elsewhere room client address bystander
    refine early.trans (elsewhere_tearDown torn (bystander.after early mailbox ?_))
    intro own isOwn
    have alone : lost.connection.client = some own := isOwn
    rw [hungUp] at alone
    cases alone

theorem Attending.onConnectionLost (attending : desk.Attending url history hand session)
    (now : Nat) :
    (desk.onConnectionLost now).Follows url
      ⟨history, desk.network, hand, session.attendance⟩ := by
  let alone : Session := { session with peers := [] }
  have again : (desk.withSession alone).Attending url history hand alone :=
    ⟨rfl, attending.sound, attending.mode, attending.agenda⟩
  cases loses : (desk.line session).lose now with
  | mk outcome lost =>
      simp only [Desk.onConnectionLost, attending.present, loses]
      exact @Attending.lose url history hand (desk.withSession alone) alone again now outcome lost
        loses

/-- The state of the room is asked for, or the connection is lost. -/
theorem Attending.requestState (attending : desk.Attending url history [] session) (now : Nat) :
    (desk.requestState session now).Follows url
      ⟨history, desk.network, [], session.attendance⟩ := by
  have again : (desk.withSession session).Attending url history [] session :=
    ⟨rfl, attending.sound, attending.mode, attending.agenda⟩
  simp only [Desk.requestState, attending.mode, Line.send, Desk.line]
  cases isOwn : session.connection.client with
  | none => exact again.onConnectionLost now
  | some own =>
      cases result : desk.network.send own .syncRequest with
      | mk answer after =>
          simp only [Transport.send, result]
          cases answer with
          | error error =>
              rw [Relay.send_eq_error result]
              exact again.onConnectionLost now
          | ok done =>
              have moves := Sound.request attending.sound isOwn result
              exact .inl ⟨history, _, ⟨rfl, moves.sound, attending.mode,
                attending.agenda.of_client_eq rfl⟩, moves⟩

theorem Attending.onConnected {own : ClientId}
    (attending : desk.Attending url history [⟨own, .connected⟩] session) (now : Nat) :
    (desk.onConnected now).Follows url
      ⟨history, desk.network, [⟨own, .connected⟩], session.attendance⟩ := by
  have sound : Sound url ⟨history, desk.network, [⟨own, .connected⟩],
    ⟨session.replica, session.outbox, session.connection⟩⟩ := attending.sound
  simp only [Desk.onConnected, attending.present]
  split
  case isTrue unconfirmed =>
    have unjoined : session.connection.state.isJoined = false := by
      revert unconfirmed
      cases session.connection.state <;> simp [ConnectionState.isUnconfirmed,
        ConnectionState.isJoined]
    have confirmed := (sound.confirmed unjoined 0).dealtWith (by
      intro joined
      exact absurd joined (by simp [ConnectionState.isJoined]))
    let fresh : Session := { session with
      connection := { session.connection with state := .connected, attempts := 0 }
      resync := session.resync || session.connection.state.isReconnecting }
    have moves : Moves url ⟨history, desk.network, [⟨own, .connected⟩], session.attendance⟩
        ⟨history, desk.network, [], fresh.attendance⟩ :=
      .of_sound confirmed rfl rfl rfl rfl fun _ => id
    have linked : (desk.withLine fresh (desk.line session).confirm.2).Attending url history []
        fresh :=
      ⟨rfl, confirmed, attending.mode,
        (attending.agenda.cancel .connectTimeout).of_client_eq rfl⟩
    refine Follows.of_moves moves ?_
    show (Desk.requestState (if session.connection.state.isReconnecting = true then
      (desk.withLine fresh (desk.line session).confirm.2).notify .reconnected
      else desk.withLine fresh (desk.line session).confirm.2) fresh now).Follows url _
    split
    · exact (linked.notify .reconnected).requestState now
    · exact linked.requestState now
  case isFalse =>
    have dealt := sound.dealtWith (by
      intro _ envelope inHand
      rw [List.mem_singleton.1 inHand]
      exact ⟨by simp, by simp [TransportEvent.carried]⟩)
    exact .inl ⟨history, session, ⟨attending.present, dealt, attending.mode, attending.agenda⟩,
      .of_sound dealt rfl rfl rfl rfl fun _ => id⟩

end Desk

end Cowrite
