import Cowrite.Proofs.Session.Call
import Cowrite.Proofs.Session.Events

/-!
# Polls of a session at a relay

A poll deals with events and runs tasks until nothing is left. Each task is followed like an event,
and the whole poll by induction on its rounds (`Attending.poll`). The other calls, and the start of
a session, come from the same parts.
-/

namespace Cowrite

open Scene

namespace Desk

variable {url : String} {history : History} {desk : Desk Relay} {session : Session}

theorem Attending.stays (attending : desk.Attending url history [] session) :
    desk.Follows url ⟨history, desk.network, [], session.attendance⟩ :=
  .inl ⟨history, session, attending, .refl attending.sound⟩

theorem Attending.closeForInvalidBuffer (attending : desk.Attending url history [] session) :
    desk.closeForInvalidBuffer.Follows url
      ⟨history, desk.network, [], session.attendance⟩ :=
  attending.tearDown.notify _

/-! ## Tasks -/

theorem Attending.runFlush (attending : desk.Attending url history [] session) (now : Nat) :
    (desk.runFlush now).Follows url ⟨history, desk.network, [], session.attendance⟩ := by
  simp only [Desk.runFlush, attending.present]
  split
  · exact attending.closeForInvalidBuffer
  · rcases attending.observe now with ⟨larger, watched, looked, observed, looking, _, _, typed⟩
    rw [observed]
    refine Follows.of_moves typed ?_
    have flushes : ∃ sent after, (if watched.connection.state.isSynced = true then
          (watched.flush looked.network now false).2 else (watched, looked.network)) =
          (sent, after) ∧
        ({ looked with session := some sent, network := after } : Desk Relay).Attending url larger
          [] sent ∧
        Moves url ⟨larger, looked.network, [], watched.attendance⟩
          ⟨larger, after, [], sent.attendance⟩ := by
      split
      · rcases looking.flush now false with ⟨outcome, kept, after, flushed, sending, moves⟩
        rw [flushed]
        exact ⟨_, _, rfl, sending, moves⟩
      · exact ⟨_, _, rfl, ⟨rfl, looking.sound, looking.mode, looking.agenda⟩,
          .refl looking.sound⟩
    rcases flushes with ⟨sent, after, flushed, sending, moves⟩
    rw [flushed]
    refine Follows.of_moves moves ?_
    have displays : ∃ shown buffer, (if (sent.deferred && sent.outbox.isIdle now) = true then
          sent.display looked.buffer now else (sent, looked.buffer)) = (shown, buffer) ∧
        Shows url larger [] { looked with session := some sent, network := after } sent shown
          buffer := by
      split
      · exact sending.display now
      · exact ⟨_, _, rfl, sending, rfl, .refl sending.sound⟩
    rcases displays with ⟨shown, buffer, displayed, showing, _, further⟩
    rw [displayed]
    exact .inl ⟨larger, shown, showing, further⟩

theorem Attending.runReconcile (attending : desk.Attending url history [] session) (now : Nat) :
    (desk.runReconcile now).Follows url ⟨history, desk.network, [], session.attendance⟩ := by
  simp only [Desk.runReconcile, attending.present]
  split
  · exact attending.stays
  · rcases attending.observe now with ⟨larger, watched, looked, observed, looking, _, _, typed⟩
    rw [observed]
    refine Follows.of_moves typed ?_
    simp only
    split
    · rcases looking.reconcile now with ⟨shown, buffer, repaired, showing, _, further⟩
      rw [repaired]
      exact .inl ⟨larger, shown, showing, further⟩
    · exact looking.stays

/-- An attempt to reconnect is made when there is no client and no other attempt is planned. -/
theorem Attending.runReconnect (attending : desk.Attending url history [] session)
    (unplanned : desk.agenda.has .reconnect = false) (now : Nat) :
    (desk.runReconnect now).Follows url ⟨history, desk.network, [], session.attendance⟩ := by
  have sound : Sound url ⟨history, desk.network, [],
    ⟨session.replica, session.outbox, session.connection⟩⟩ := attending.sound
  have staying : session.connection.leaving = false := sound.staying
  simp only [Desk.runReconnect, attending.present, Line.redial, Desk.line, staying,
    Bool.false_eq_true, if_false]
  rcases sound.connect desk.agenda now with
    ⟨error, after, connects, moves⟩ | ⟨own, state, after, connects, moves⟩
  · rw [connects]
    refine Follows.of_moves moves ?_
    have there : ({ desk with network := after } : Desk Relay).Attending url history [] session :=
      ⟨attending.present, moves.sound, attending.mode, attending.agenda⟩
    exact there.lose rfl
  · rw [connects]
    let dialing : Session := { session with
      connection := { session.connection with client := some own, state } }
    have suits : (desk.agenda.once .connectTimeout session.connection.timeout now).Suits
        dialing.connection :=
      (attending.agenda.planned (by simp) _ _).of_not_has (by
        rw [Agenda.once, Agenda.has_put, unplanned]
        rfl) _
    exact .inl ⟨history, dialing, ⟨rfl, moves.sound, attending.mode, suits⟩, moves⟩

/-- A buffer that is shared in an empty session becomes pending. -/
theorem Attending.runEmptySyncFallback (attending : desk.Attending url history [] session)
    (now : Nat) :
    (desk.runEmptySyncFallback now).Follows url
      ⟨history, desk.network, [], session.attendance⟩ := by
  simp only [Desk.runEmptySyncFallback, attending.present]
  split
  · exact attending.stays
  · rcases attending.observe now with ⟨larger, watched, looked, observed, looking, _, _, typed⟩
    rw [observed]
    refine Follows.of_moves typed ?_
    simp only
    split
    · exact looking.stays
    · let seeded : Session := { watched with
        replica := watched.replica.setText (Binding.shownText looked.buffer)
        outbox := watched.outbox.markPending }
      have sound : Sound url ⟨larger, looked.network, [],
        ⟨watched.replica, watched.outbox, watched.connection⟩⟩ := looking.sound
      rcases Replica.Active.setText sound.lawful sound.active (Binding.shownText looked.buffer) with
        ⟨shared, writes, _⟩
      have moves : Moves url ⟨larger, looked.network, [], watched.attendance⟩
          ⟨shared, looked.network, [], seeded.attendance⟩ := sound.moves_writes writes rfl rfl
      have there : (looked.withSession seeded).Attending url shared [] seeded :=
        ⟨rfl, moves.sound, looking.mode, looking.agenda⟩
      exact Follows.notify (.inl ⟨shared, seeded, there, moves⟩) _

/-- A task that has been taken from the agenda is done. -/
theorem Attending.run (attending : desk.Attending url history [] session) {task : Task}
    (unplanned : task = .reconnect → desk.agenda.has .reconnect = false) (now : Nat) :
    (desk.run task now).Follows url ⟨history, desk.network, [], session.attendance⟩ := by
  cases task with
  | flush => exact attending.runFlush now
  | reconcile => exact attending.runReconcile now
  | connectTimeout => exact attending.onConnectionLost now
  | reconnect => exact attending.runReconnect (unplanned rfl) now
  | emptySyncFallback => exact attending.runEmptySyncFallback now

/-! ## Polls -/

/-- The next event is in hand once it is taken. -/
theorem Attending.nextEvent (attending : desk.Attending url history [] session) :
    ∃ next after, desk.nextEvent = (next.map (·.event), after) ∧
      (∀ envelope, next = some envelope →
        session.connection.client = some envelope.client) ∧
      after.Attending url history next.toList session ∧
      Moves url ⟨history, desk.network, [], session.attendance⟩
        ⟨history, after.network, next.toList, session.attendance⟩ := by
  have sound : Sound url ⟨history, desk.network, [],
    ⟨session.replica, session.outbox, session.connection⟩⟩ := attending.sound
  rcases sound.nextEvent desk.agenda with ⟨next, network, taken, own, moves⟩
  have line : desk.line session = ⟨session.connection, desk.agenda, desk.network⟩ := rfl
  refine ⟨next, { desk with session := some session, network }, ?_, own,
    ⟨rfl, moves.sound, attending.mode, attending.agenda⟩, moves⟩
  simp only [Desk.nextEvent, attending.present, line, taken]
  rfl

/-- One round of a poll deals with an event or does a task. -/
theorem Attending.pollOnce (attending : desk.Attending url history [] session) (now : Nat) :
    (desk.pollOnce now).2.Follows url ⟨history, desk.network, [], session.attendance⟩ := by
  rcases attending.nextEvent with ⟨next, after, taken, own, taking, moves⟩
  rw [Desk.pollOnce, taken]
  cases next with
  | some envelope => exact Follows.of_moves moves (taking.handle (own envelope rfl) now)
  | none =>
      refine Follows.of_moves moves ?_
      simp only [Option.map_none]
      cases popped : after.agenda.pop now with
      | none => exact taking.stays
      | some first =>
          rcases first with ⟨task, agenda⟩
          rcases taking.agenda.pop popped with ⟨suits, lone⟩
          have due : ({ after with agenda } : Desk Relay).Attending url history [] session :=
            ⟨taking.present, taking.sound, taking.mode, suits⟩
          exact due.run (fun isReconnect => (lone isReconnect).2) now

/-- A session is followed through all rounds of a poll. -/
theorem Follows.pollUpTo {scene : Scene} (follows : desk.Follows url scene) (count now : Nat) :
    (Desk.pollUpTo count desk now).Follows url scene := by
  induction count generalizing desk with
  | zero => exact follows
  | succ count ih =>
      rcases follows with ⟨larger, later, attending, moves⟩ | ⟨ended, empty, ends⟩
      · have round := Follows.of_moves moves (attending.pollOnce now)
        rw [Desk.pollUpTo]
        cases result : desk.pollOnce now with
        | mk busy after =>
            rw [result] at round
            cases busy with
            | true => exact ih round
            | false => exact round
      · rw [pollUpTo_of_ended ended empty]
        exact .inr ⟨ended, empty, ends⟩

theorem Attending.poll (attending : desk.Attending url history [] session) (now : Nat) :
    (desk.poll now).Follows url ⟨history, desk.network, [], session.attendance⟩ :=
  attending.stays.pollUpTo _ now

/-! ## Other calls -/

theorem Attending.bufferChanged (attending : desk.Attending url history [] session) (now : Nat) :
    (desk.bufferChanged now).Follows url ⟨history, desk.network, [], session.attendance⟩ := by
  simp only [Desk.bufferChanged, attending.present]
  split
  · exact attending.closeForInvalidBuffer
  · rcases attending.observe now with ⟨larger, watched, looked, observed, looking, _, _, typed⟩
    rw [observed]
    exact Follows.of_moves typed looking.stays

theorem Attending.flushNow (attending : desk.Attending url history [] session) (now : Nat) :
    (desk.flushNow now).2.Follows url ⟨history, desk.network, [], session.attendance⟩ := by
  rcases attending.observe now with ⟨larger, watched, looked, observed, looking, _, _, typed⟩
  simp only [Desk.flushNow, attending.present, observed]
  refine Follows.of_moves typed ?_
  split
  · rcases looking.flush now true with ⟨outcome, kept, after, flushed, sending, moves⟩
    rw [flushed]
    exact .inl ⟨larger, _, sending, moves⟩
  · exact looking.stays

theorem Attending.leave (attending : desk.Attending url history [] session) :
    desk.leave.2.Follows url ⟨history, desk.network, [], session.attendance⟩ := by
  simp only [Desk.leave, attending.present, Option.isSome_some, if_true]
  exact attending.tearDown.notify _

theorem Attending.vanish (attending : desk.Attending url history [] session) :
    desk.vanish.Follows url ⟨history, desk.network, [], session.attendance⟩ := by
  simp only [Desk.vanish, attending.present]
  refine .inr ⟨rfl, rfl, history, attending.sound.lawful,
    Relay.Lawful.of_rooms_eq attending.sound.relay rfl (Nat.le_refl _), subset_rfl,
    fun _ present new => absurd present new, ?_⟩
  intro room client address bystander
  exact Relay.elsewhere_closeBox _ bystander.apart

end Desk

end Cowrite
