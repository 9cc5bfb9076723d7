import Cowrite.Proofs.Session.Agenda
import Cowrite.Session.Desk

/-!
# What leaves the document aside

Most of what a session does has to do with its connection and its peers only: the document, the
binding, the outbox and the buffer stay as they are, unless the session ends (`Desk.Aside`).
This holds over any transport. A session cannot come into sync in this way, and the plan to share
one's own buffer in an empty session is not touched either.
-/

namespace Cowrite

/-- Whether two states of a session differ at most in connection, peers and notes about them. -/
structure Session.SameDocument (session later : Session) : Prop where
  role : later.role = session.role
  mode : later.mode = session.mode
  replica : later.replica = session.replica
  binding : later.binding = session.binding
  outbox : later.outbox = session.outbox
  deferred : later.deferred = session.deferred
  contentReceived : later.contentReceived = session.contentReceived

theorem Session.SameDocument.refl (session : Session) : session.SameDocument session :=
  ⟨rfl, rfl, rfl, rfl, rfl, rfl, rfl⟩

theorem Session.SameDocument.trans {first second third : Session} (one : first.SameDocument second)
    (two : second.SameDocument third) : first.SameDocument third :=
  ⟨two.role.trans one.role, two.mode.trans one.mode, two.replica.trans one.replica,
    two.binding.trans one.binding, two.outbox.trans one.outbox, two.deferred.trans one.deferred,
    two.contentReceived.trans one.contentReceived⟩

/-! ## Lines -/

namespace Line

variable {ν : Type}

/-- Whether a line has not come into sync, and keeps the plan to share one's own buffer. -/
structure Aside (before after : Line ν) : Prop where
  synced : after.connection.state.isSynced = true → before.connection.state.isSynced = true
  fallback : after.agenda.has .emptySyncFallback = before.agenda.has .emptySyncFallback

theorem Aside.refl (line : Line ν) : Aside line line :=
  ⟨id, rfl⟩

theorem Aside.trans {first second third : Line ν} (one : Aside first second)
    (two : Aside second third) : Aside first third :=
  ⟨fun synced => one.synced (two.synced synced), two.fallback.trans one.fallback⟩

theorem aside_network (line : Line ν) (network : ν) : Aside line { line with network } :=
  ⟨id, rfl⟩

theorem aside_confirm (line : Line ν) : Aside line line.confirm.2 := by
  refine ⟨by simp [confirm, ConnectionState.isSynced], ?_⟩
  simp [confirm, Agenda.has_cancel]

variable [Transport ν]

theorem aside_nextEvent (line : Line ν) : Aside line line.nextEvent.2 :=
  line.aside_network _

theorem aside_send (line : Line ν) (message : OutboundMessage Update) :
    Aside line (line.send message).2 := by
  rw [send]
  split
  · exact .refl line
  · exact line.aside_network _

theorem aside_hangUp (line : Line ν) : Aside line line.hangUp := by
  rw [hangUp]
  split
  · exact .refl line
  · exact ⟨id, rfl⟩

theorem aside_connect (line : Line ν) (now : Nat) : Aside line (line.connect now).2 := by
  simp only [connect]
  split
  · exact line.aside_network _
  · refine ⟨?_, ?_⟩
    · intro synced
      split at synced
      · exact synced
      · simp [ConnectionState.isSynced] at synced
    · simp [Agenda.once, Agenda.has_put]

theorem aside_lose (line : Line ν) (now : Nat) : Aside line (line.lose now).2 := by
  simp only [lose]
  split
  · exact .refl line
  · have cancels : Aside line { line with agenda := line.agenda.cancel .connectTimeout } :=
      ⟨id, by simp [Agenda.has_cancel]⟩
    have cancelled := cancels.trans (aside_hangUp _)
    have plan := cancelled.fallback
    split
    · exact ⟨by simp [ConnectionState.isSynced], plan⟩
    · refine ⟨by simp [ConnectionState.isSynced], ?_⟩
      rw [← plan]
      simp [Agenda.once, Agenda.has_put]

theorem aside_redial (line : Line ν) (now : Nat) : Aside line (line.redial now).2 := by
  rw [redial]
  split
  · exact .refl line
  · have connects := line.aside_connect now
    rcases connected : line.connect now with ⟨_ | ⟨⟩, later⟩
    · rw [connected] at connects
      exact connects.trans (aside_lose _ now)
    · rw [connected] at connects
      exact connects

end Line

/-! ## Desks -/

namespace Desk

variable {ν : Type} {desk after : Desk ν} {session later : Session}

/-- Whether a session goes on with the same document, or is over. -/
def Aside (desk after : Desk ν) : Prop :=
  after.buffer = desk.buffer ∧ (after.session = none ∨
    ∃ session later, desk.session = some session ∧ after.session = some later ∧
      session.SameDocument later ∧ (desk.line session).Aside (after.line later))

theorem Aside.refl (desk : Desk ν) : desk.Aside desk := by
  refine ⟨rfl, ?_⟩
  cases present : desk.session with
  | none => exact .inl rfl
  | some session => exact .inr ⟨session, session, rfl, rfl, .refl session, .refl _⟩

theorem Aside.trans {last : Desk ν} (one : desk.Aside after) (two : after.Aside last) :
    desk.Aside last := by
  refine ⟨two.1.trans one.1, ?_⟩
  rcases two.2 with ended | ⟨middle, later, between, present, same, line⟩
  · exact .inl ended
  · rcases one.2 with ended | ⟨session, other, before, next, earlier, lines⟩
    · cases ended.symm.trans between
    · cases next.symm.trans between
      exact .inr ⟨session, later, before, present, earlier.trans same, lines.trans line⟩

theorem aside_notify (desk : Desk ν) (notice : Notice) : desk.Aside (desk.notify notice) :=
  Aside.refl desk

theorem aside_withLine (present : desk.session = some session) (same : session.SameDocument later)
    {line : Line ν} (aside : (desk.line session).Aside line) :
    desk.Aside (desk.withLine later line) :=
  ⟨rfl, .inr ⟨session, _, present, rfl, ⟨same.role, same.mode, same.replica, same.binding,
    same.outbox, same.deferred, same.contentReceived⟩, aside⟩⟩

theorem aside_onReady (desk : Desk ν) (endpointId relayUrl : String) :
    desk.Aside (desk.onReady endpointId relayUrl) := by
  rw [onReady]
  cases present : desk.session with
  | none => exact .refl desk
  | some session =>
      let invited : Session := { session with
        invitation := some (Invitation.peer endpointId relayUrl) }
      have same : session.SameDocument invited := ⟨rfl, rfl, rfl, rfl, rfl, rfl, rfl⟩
      refine Aside.trans ?_ (aside_notify _ _)
      simp only
      split
      · have confirms := aside_withLine present same (desk.line session).aside_confirm
        split
        · exact confirms.trans (aside_notify _ _)
        · exact confirms
      · exact aside_withLine present same (.refl _)

theorem aside_onPeerDisconnected (desk : Desk ν) (peer : String) :
    desk.Aside (desk.onPeerDisconnected peer) := by
  rw [onPeerDisconnected]
  cases present : desk.session with
  | none => exact .refl desk
  | some session =>
      refine ⟨rfl, .inr ⟨session, _, present, rfl, ?_, ?_⟩⟩
      · simp only
        split <;> exact ⟨rfl, rfl, rfl, rfl, rfl, rfl, rfl⟩
      · refine ⟨?_, rfl⟩
        simp only [line, notify, withSession]
        split
        · simp [ConnectionState.isSynced]
        · exact id

variable [Transport ν]

theorem aside_tearDown (desk : Desk ν) : desk.Aside desk.tearDown := by
  rw [tearDown]
  split
  · exact .refl desk
  · exact ⟨rfl, .inl rfl⟩

theorem aside_afterLoss (desk : Desk ν) (outcome : LossOutcome) :
    desk.Aside (desk.afterLoss outcome) := by
  cases outcome with
  | ignored => exact .refl desk
  | scheduled attempt delay => exact desk.aside_notify _
  | exhausted attempts => exact desk.aside_tearDown.trans (aside_notify _ _)

theorem aside_onConnectionLost (desk : Desk ν) (now : Nat) :
    desk.Aside (desk.onConnectionLost now) := by
  cases present : desk.session with
  | none =>
      rw [onConnectionLost, present]
      exact .refl desk
  | some session =>
      have loses := (desk.line session).aside_lose now
      rw [onConnectionLost, present]
      refine .trans (aside_withLine present ?_ loses) (aside_afterLoss _ _)
      exact ⟨rfl, rfl, rfl, rfl, rfl, rfl, rfl⟩

theorem aside_requestState (present : desk.session = some session) (now : Nat) :
    desk.Aside (desk.requestState session now) := by
  have same := Session.SameDocument.refl session
  rw [requestState]
  split
  · have sends := (desk.line session).aside_send .syncRequest
    rcases sent : (desk.line session).send .syncRequest with ⟨_ | ⟨⟩, later⟩
    · rw [sent] at sends
      exact (aside_withLine present same sends).trans (aside_onConnectionLost _ now)
    · rw [sent] at sends
      refine aside_withLine present same ?_
      exact ⟨by simp [Line.withState, ConnectionState.isSynced], sends.fallback⟩
  · split
    · exact .refl desk
    · refine aside_withLine present same ?_
      exact ⟨by simp [Line.withState, ConnectionState.isSynced], rfl⟩

theorem aside_onConnected (desk : Desk ν) (now : Nat) : desk.Aside (desk.onConnected now) := by
  rw [onConnected]
  cases present : desk.session with
  | none => exact .refl desk
  | some session =>
      simp only
      split
      · let fresh : Session := { session with
          connection := (desk.line session).confirm.2.connection
          resync := session.resync || (desk.line session).confirm.1 }
        have same : session.SameDocument fresh := ⟨rfl, rfl, rfl, rfl, rfl, rfl, rfl⟩
        have confirms := aside_withLine present same (desk.line session).aside_confirm
        show desk.Aside (Desk.requestState (if (desk.line session).confirm.1 = true then
          (desk.withLine fresh (desk.line session).confirm.2).notify .reconnected
          else desk.withLine fresh (desk.line session).confirm.2) fresh now)
        split
        · exact (confirms.trans (aside_notify _ .reconnected)).trans (aside_requestState rfl now)
        · exact confirms.trans (aside_requestState rfl now)
      · exact .refl desk

theorem aside_runReconnect (desk : Desk ν) (now : Nat) : desk.Aside (desk.runReconnect now) := by
  rw [runReconnect]
  cases present : desk.session with
  | none => exact .refl desk
  | some session =>
      simp only
      have redials := (desk.line session).aside_redial now
      have same := Session.SameDocument.refl session
      rcases redialed : (desk.line session).redial now with ⟨_ | outcome, line⟩
      · rw [redialed] at redials
        exact aside_withLine present same redials
      · rw [redialed] at redials
        exact (aside_withLine present same redials).trans (aside_afterLoss _ outcome)

theorem aside_nextEvent (desk : Desk ν) : desk.Aside desk.nextEvent.2 := by
  rw [nextEvent]
  cases present : desk.session with
  | none => exact .refl desk
  | some session => exact aside_withLine present (.refl session) (desk.line session).aside_nextEvent

theorem aside_leave (desk : Desk ν) : desk.Aside desk.leave.2 := by
  rw [leave]
  split
  · exact desk.aside_tearDown.trans (aside_notify _ _)
  · exact .refl desk

theorem aside_vanish (desk : Desk ν) : desk.Aside desk.vanish := by
  rw [vanish]
  split
  · exact .refl desk
  · exact ⟨rfl, .inl rfl⟩

theorem aside_closeForInvalidBuffer (desk : Desk ν) : desk.Aside desk.closeForInvalidBuffer :=
  desk.aside_tearDown.trans (aside_notify _ _)

end Desk

end Cowrite
