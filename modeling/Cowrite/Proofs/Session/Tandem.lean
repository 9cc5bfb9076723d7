import Cowrite.Proofs.Session.Call
import Cowrite.Proofs.Session.Flushing
import Cowrite.Proofs.Session.Rounds
import Cowrite.Proofs.Transport.Blind

/-!
# Desks in tandem

Two desks are in tandem if they differ in nothing but their transports, and these are like each
other (`Desk.Tandem`). If transports that are like each other answer the same
(`Transport.Steady`), desks in tandem stay so, whatever they deal with (`Desk.Tandem.deal`) and
whatever is called for (`Desk.Tandem.perform`). Nothing is said here of what they read from their
mailboxes.
-/

namespace Cowrite

open Transport (Steady)

variable {ν : Type} {like : ν → ν → Prop}

/-! ## Lines -/

namespace Line

/-- Whether two lines are the same but for their transports, which are like each other. -/
def Tandem (like : ν → ν → Prop) (left right : Line ν) : Prop :=
  ∃ network, right = { left with network } ∧ like left.network network

variable {left right : Line ν}

theorem Tandem.confirm (tandem : Tandem like left right) :
    Agree (Tandem like) left.confirm right.confirm := by
  rcases tandem with ⟨network, rfl, alike⟩
  exact ⟨rfl, _, rfl, alike⟩

theorem Tandem.withState (tandem : Tandem like left right) (state : ConnectionState) :
    Tandem like (left.withState state) (right.withState state) := by
  rcases tandem with ⟨network, rfl, alike⟩
  exact ⟨_, rfl, alike⟩

variable [Transport ν]

theorem Tandem.connect (steady : Steady like) (tandem : Tandem like left right) (now : Nat) :
    Agree (Tandem like) (left.connect now) (right.connect now) := by
  rcases tandem with ⟨network, rfl, alike⟩
  rcases (steady.mintClient alike).exists_eq with ⟨client, one, two, first, second, named⟩
  rcases (steady.connect named client left.connection.target left.connection.key
    left.connection.mailbox).exists_eq with ⟨result, oneAfter, twoAfter, third, fourth, connected⟩
  simp only [Line.connect, first, second, third, fourth]
  cases result with
  | ok done => exact ⟨rfl, _, rfl, connected⟩
  | error error => exact ⟨rfl, _, rfl, connected⟩

theorem Tandem.hangUp (steady : Steady like) (tandem : Tandem like left right) :
    Tandem like left.hangUp right.hangUp := by
  rcases tandem with ⟨network, rfl, alike⟩
  simp only [Line.hangUp]
  split
  · exact ⟨_, rfl, alike⟩
  · exact ⟨_, rfl, steady.disconnect alike _⟩

theorem Tandem.lose (steady : Steady like) (tandem : Tandem like left right) (now : Nat) :
    Agree (Tandem like) (left.lose now) (right.lose now) := by
  rcases tandem with ⟨network, rfl, alike⟩
  have cancels : Tandem like { left with agenda := left.agenda.cancel .connectTimeout }
      { left with network, agenda := left.agenda.cancel .connectTimeout } := ⟨_, rfl, alike⟩
  rcases cancels.hangUp steady with ⟨after, same, hung⟩
  simp only [Line.lose, same]
  split
  · exact ⟨rfl, _, rfl, alike⟩
  · split
    · exact ⟨rfl, _, rfl, hung⟩
    · exact ⟨rfl, _, rfl, hung⟩

theorem Tandem.redial (steady : Steady like) (tandem : Tandem like left right) (now : Nat) :
    Agree (Tandem like) (left.redial now) (right.redial now) := by
  rcases (tandem.connect steady now).exists_eq with ⟨result, one, two, first, second, connected⟩
  rcases (connected.lose steady now).exists_eq with ⟨outcome, three, four, third, fourth, lost⟩
  rcases tandem with ⟨network, rfl, alike⟩
  simp only [Line.redial, first, second]
  split
  · exact ⟨rfl, _, rfl, alike⟩
  · cases result with
    | ok done => exact ⟨rfl, connected⟩
    | error error =>
        simp only [third, fourth]
        exact ⟨rfl, lost⟩

theorem Tandem.send (steady : Steady like) (tandem : Tandem like left right)
    (message : OutboundMessage Update) :
    Agree (Tandem like) (left.send message) (right.send message) := by
  rcases tandem with ⟨network, rfl, alike⟩
  simp only [Line.send]
  cases left.connection.client with
  | none => exact ⟨rfl, _, rfl, alike⟩
  | some client =>
      have sends := steady.send alike client message
      exact ⟨sends.answer, _, rfl, sends.like⟩

theorem Tandem.shutDown (steady : Steady like) (tandem : Tandem like left right) :
    Tandem like left.shutDown right.shutDown := by
  have leaves : Tandem like left.beginLeave right.beginLeave := by
    rcases tandem with ⟨network, rfl, alike⟩
    exact ⟨_, rfl, alike⟩
  rcases leaves.hangUp steady with ⟨after, same, hung⟩
  simp only [Line.shutDown, same]
  exact ⟨_, rfl, steady.clear hung _⟩

end Line

/-! ## Sessions -/

section

/-- What is sent is the same, and so is what comes of it. -/
theorem Outbox.exists_flush_eq {left right : ν} (alike : like left right) (outbox : Outbox)
    (replica : Replica) (now : Nat) (force : Bool)
    (send : Update → ν → Except TransportError Unit × ν)
    (agrees : ∀ update, Agree like (send update left) (send update right)) :
    ∃ outcome later one two, outbox.flush replica now force send left = (outcome, later, one) ∧
      outbox.flush replica now force send right = (outcome, later, two) ∧ like one two := by
  rcases (agrees (outbox.updateFor replica)).exists_eq with
    ⟨result, one, two, first, second, sent⟩
  simp only [flush_eq, first, second]
  split
  · split
    · exact ⟨_, _, _, _, rfl, rfl, alike⟩
    · exact ⟨_, _, _, _, rfl, rfl, sent⟩
  · exact ⟨_, _, _, _, rfl, rfl, alike⟩

variable [Transport ν]

/-- A session sends its outbox over its connection, on both sides. -/
theorem Session.exists_outbox_flush (steady : Steady like) {left right : ν}
    (alike : like left right) (session : Session) :
    ∃ send, (∀ update, Agree like (send update left) (send update right)) ∧
      ∀ network now force, session.flush network now force =
        let (outcome, outbox, network) :=
          session.outbox.flush session.replica now force send network
        (outcome, { session with outbox }, network) := by
  cases present : session.connection.client with
  | none =>
      refine ⟨fun _ network => (.error .closed, network), fun _ => ⟨rfl, alike⟩, ?_⟩
      intro network now force
      simp only [flush, present]
  | some client =>
      refine ⟨fun update network => Transport.send network client (.update update),
        fun update => steady.send alike client _, ?_⟩
      intro network now force
      simp only [flush, present]

theorem Session.exists_flush_eq (steady : Steady like) {left right : ν} (alike : like left right)
    (session : Session) (now : Nat) (force : Bool) :
    ∃ outcome later one two, session.flush left now force = (outcome, later, one) ∧
      session.flush right now force = (outcome, later, two) ∧ like one two := by
  rcases session.exists_outbox_flush steady alike with ⟨send, agrees, flushes⟩
  rcases Outbox.exists_flush_eq alike session.outbox session.replica now force send agrees with
    ⟨outcome, outbox, one, two, first, second, flushed⟩
  simp only [flushes, first, second]
  exact ⟨_, _, _, _, rfl, rfl, flushed⟩

end

/-! ## Desks -/

namespace Desk

/-- Whether two desks are the same but for their transports, which are like each other. -/
def Tandem (like : ν → ν → Prop) (left right : Desk ν) : Prop :=
  ∃ network, right = { left with network } ∧ like left.network network

variable {left right : Desk ν} {session : Session}

theorem Tandem.session_eq (tandem : Tandem like left right) : right.session = left.session := by
  rcases tandem with ⟨network, rfl, alike⟩
  rfl

theorem Tandem.settings_eq (tandem : Tandem like left right) : right.settings = left.settings := by
  rcases tandem with ⟨network, rfl, alike⟩
  rfl

theorem Tandem.buffer_eq (tandem : Tandem like left right) : right.buffer = left.buffer := by
  rcases tandem with ⟨network, rfl, alike⟩
  rfl

theorem Tandem.obstacle?_eq (tandem : Tandem like left right) :
    right.obstacle? = left.obstacle? := by
  rcases tandem with ⟨network, rfl, alike⟩
  rfl

theorem Tandem.notify (tandem : Tandem like left right) (notice : Notice) :
    Tandem like (left.notify notice) (right.notify notice) := by
  rcases tandem with ⟨network, rfl, alike⟩
  exact ⟨_, rfl, alike⟩

theorem Tandem.withSession (tandem : Tandem like left right) (session : Session) :
    Tandem like (left.withSession session) (right.withSession session) := by
  rcases tandem with ⟨network, rfl, alike⟩
  exact ⟨_, rfl, alike⟩

theorem Tandem.line (tandem : Tandem like left right) (session : Session) :
    Line.Tandem like (left.line session) (right.line session) := by
  rcases tandem with ⟨network, rfl, alike⟩
  exact ⟨_, rfl, alike⟩

theorem Tandem.withLine (tandem : Tandem like left right) (session : Session) {one two : Line ν}
    (lines : Line.Tandem like one two) :
    Tandem like (left.withLine session one) (right.withLine session two) := by
  rcases tandem with ⟨network, rfl, _⟩
  rcases lines with ⟨after, rfl, alike⟩
  exact ⟨_, rfl, alike⟩

theorem Tandem.observe (tandem : Tandem like left right) (session : Session) (now : Nat) :
    Agree (Tandem like) (left.observe session now) (right.observe session now) := by
  rcases tandem with ⟨network, rfl, alike⟩
  exact ⟨rfl, _, rfl, alike⟩

/-! ### What takes no transport -/

theorem Tandem.onReady (tandem : Tandem like left right) (endpointId relayUrl : String) :
    Tandem like (left.onReady endpointId relayUrl) (right.onReady endpointId relayUrl) := by
  simp only [Desk.onReady, tandem.session_eq]
  cases left.session with
  | none => exact tandem
  | some session =>
      let invited : Session := { session with
        invitation := some (Invitation.peer endpointId relayUrl) }
      refine Tandem.notify ?_ _
      split
      · rcases (tandem.line invited).confirm.exists_eq with
          ⟨reconnected, one, two, first, second, confirmed⟩
        simp only [invited] at first second
        simp only [first, second]
        split
        · exact (tandem.withLine _ confirmed).notify _
        · exact tandem.withLine _ confirmed
      · exact tandem.withSession _

theorem Tandem.onInitialState (tandem : Tandem like left right) (payload : Update) (now : Nat) :
    Tandem like (left.onInitialState payload now) (right.onInitialState payload now) := by
  simp only [Desk.onInitialState, tandem.session_eq]
  cases left.session with
  | none => exact tandem
  | some session =>
      rcases (tandem.observe session now).exists_eq with ⟨observed, one, two, first, second, looked⟩
      simp only [first, second]
      rcases looked with ⟨after, rfl, alike⟩
      refine Tandem.notify ?_ _
      split
      · exact ⟨after, rfl, alike⟩
      · exact ⟨after, rfl, alike⟩

theorem Tandem.onPeerDisconnected (tandem : Tandem like left right) (peer : String) :
    Tandem like (left.onPeerDisconnected peer) (right.onPeerDisconnected peer) := by
  simp only [Desk.onPeerDisconnected, tandem.session_eq]
  split
  · exact tandem
  · exact (tandem.withSession _).notify _

theorem Tandem.runReconcile (tandem : Tandem like left right) (now : Nat) :
    Tandem like (left.runReconcile now) (right.runReconcile now) := by
  simp only [Desk.runReconcile, tandem.session_eq, tandem.buffer_eq]
  cases left.session with
  | none => exact tandem
  | some session =>
      rcases (tandem.observe session now).exists_eq with ⟨observed, one, two, first, second, looked⟩
      simp only [first, second]
      have after := looked
      rcases looked with ⟨network, rfl, alike⟩
      split
      · exact tandem
      · split
        · exact ⟨network, rfl, alike⟩
        · exact after

theorem Tandem.runEmptySyncFallback (tandem : Tandem like left right) (now : Nat) :
    Tandem like (left.runEmptySyncFallback now) (right.runEmptySyncFallback now) := by
  simp only [Desk.runEmptySyncFallback, tandem.session_eq]
  cases left.session with
  | none => exact tandem
  | some session =>
      rcases (tandem.observe session now).exists_eq with ⟨observed, one, two, first, second, looked⟩
      simp only [first, second]
      rcases looked with ⟨network, rfl, alike⟩
      have looked : Tandem like one { one with network } := ⟨network, rfl, alike⟩
      split
      · exact tandem
      · split
        · exact looked
        · exact (looked.withSession _).notify _

variable [Transport ν]

/-! ### Starting and leaving -/

theorem Tandem.mode_eq (steady : Steady like) (tandem : Tandem like left right) :
    Transport.mode right.network = Transport.mode left.network := by
  rcases tandem with ⟨network, rfl, alike⟩
  exact (steady.mode alike).symm

theorem Tandem.giveUp (steady : Steady like) (tandem : Tandem like left right) {one two : Line ν}
    (lines : Line.Tandem like one two) : Tandem like (left.giveUp one) (right.giveUp two) := by
  rcases tandem with ⟨network, rfl, _⟩
  rcases lines with ⟨after, rfl, alike⟩
  exact ⟨_, rfl, steady.closeBox alike _⟩

theorem Tandem.prepare (steady : Steady like) (tandem : Tandem like left right) (role : Role)
    (target : ConnectTarget) (key : Option SessionKey) (invitation : Option Invitation)
    (replica : Replica) (outbox : Outbox) (now : Nat) :
    Agree (Tandem like) (left.prepare role target key invitation replica outbox now)
      (right.prepare role target key invitation replica outbox now) := by
  rcases tandem with ⟨network, rfl, alike⟩
  rcases (steady.openBox alike).exists_eq with ⟨address, one, two, first, second, opened⟩
  simp only [Desk.prepare, first, second, steady.mode alike]
  exact ⟨rfl, _, rfl, opened⟩

theorem Tandem.start (steady : Steady like) (tandem : Tandem like left right) (session : Session)
    (now : Nat) : Agree (Tandem like) (left.start session now) (right.start session now) := by
  rcases ((tandem.line session).connect steady now).exists_eq with
    ⟨result, one, two, first, second, connected⟩
  simp only [Desk.start, first, second]
  cases result with
  | error error => exact ⟨rfl, tandem.giveUp steady connected⟩
  | ok done =>
      rcases tandem with ⟨network, rfl, alike⟩
      rcases connected with ⟨after, rfl, alikeAfter⟩
      have lines : Line.Tandem like one { one with network := after } := ⟨_, rfl, alikeAfter⟩
      have tandem : Tandem like left { left with network } := ⟨_, rfl, alike⟩
      simp only
      split
      · exact ⟨rfl, tandem.giveUp steady (lines.shutDown steady)⟩
      · exact ⟨rfl, _, rfl, alikeAfter⟩

/-- The same session is prepared, and its start comes to the same. -/
theorem Tandem.exists_start (steady : Steady like) (tandem : Tandem like left right) (role : Role)
    (target : ConnectTarget) (key : Option SessionKey) (invitation : Option Invitation)
    (replica : Replica) (outbox : Outbox) (now : Nat) :
    ∃ session one two result oneAfter twoAfter,
      left.prepare role target key invitation replica outbox now = (session, one) ∧
      right.prepare role target key invitation replica outbox now = (session, two) ∧
      one.start session now = (result, oneAfter) ∧ two.start session now = (result, twoAfter) ∧
      Tandem like oneAfter twoAfter := by
  rcases (tandem.prepare steady role target key invitation replica outbox now).exists_eq with
    ⟨session, one, two, first, second, prepared⟩
  rcases (prepared.start steady session now).exists_eq with
    ⟨result, oneAfter, twoAfter, third, fourth, started⟩
  exact ⟨session, one, two, result, oneAfter, twoAfter, first, second, third, fourth, started⟩

theorem Tandem.host (steady : Steady like) (tandem : Tandem like left right) (target : HostTarget)
    (draws : Draws) (now : Nat) :
    Agree (Tandem like) (left.host target draws now) (right.host target draws now) := by
  simp only [Desk.host, tandem.obstacle?_eq, tandem.settings_eq, tandem.buffer_eq,
    tandem.mode_eq steady]
  split
  · exact ⟨rfl, tandem⟩
  · split
    · exact ⟨rfl, tandem⟩
    · rcases hostPlan left.settings target draws with _ | ⟨connectTarget, invitation, key⟩
      · exact ⟨rfl, tandem⟩
      · let document := seed draws.replica left.buffer { window := left.settings.debounce }
        rcases tandem.exists_start steady .host connectTarget key invitation document.1 document.2
          now with ⟨session, one, two, result, _, _, first, second, third, fourth, started⟩
        simp only [document] at first second
        simp only [first, second, third, fourth]
        cases result with
        | error error => exact ⟨rfl, started⟩
        | ok done => exact ⟨rfl, started.notify _⟩

theorem Tandem.join (steady : Steady like) (tandem : Tandem like left right) (code : String)
    (replica : ReplicaId) (now : Nat) :
    Agree (Tandem like) (left.join code replica now) (right.join code replica now) := by
  simp only [Desk.join, tandem.obstacle?_eq, tandem.settings_eq, tandem.mode_eq steady]
  split
  · exact ⟨rfl, tandem⟩
  · cases Invitation.decode code with
    | error _ => exact ⟨rfl, tandem⟩
    | ok invitation =>
        simp only
        split
        · exact ⟨rfl, tandem⟩
        · rcases tandem.exists_start steady .joiner invitation.target invitation.key?
            (some invitation) { id := replica } { window := left.settings.debounce } now with
            ⟨session, one, two, result, _, _, first, second, third, fourth, started⟩
          simp only [first, second, third, fourth]
          cases result with
          | error error => exact ⟨rfl, started⟩
          | ok done => exact ⟨rfl, started.notify _⟩

theorem Tandem.tearDown (steady : Steady like) (tandem : Tandem like left right) :
    Tandem like left.tearDown right.tearDown := by
  simp only [Desk.tearDown, tandem.session_eq]
  split
  · exact tandem
  · exact tandem.giveUp steady ((tandem.line _).shutDown steady)

theorem Tandem.leave (steady : Steady like) (tandem : Tandem like left right) :
    Agree (Tandem like) left.leave right.leave := by
  simp only [Desk.leave, tandem.session_eq]
  split
  · exact ⟨rfl, (tandem.tearDown steady).notify _⟩
  · exact ⟨rfl, tandem⟩

theorem Tandem.vanish (steady : Steady like) (tandem : Tandem like left right) :
    Tandem like left.vanish right.vanish := by
  simp only [Desk.vanish, tandem.session_eq]
  split
  · exact tandem
  · exact tandem.giveUp steady (tandem.line _)

theorem Tandem.closeForInvalidBuffer (steady : Steady like) (tandem : Tandem like left right) :
    Tandem like left.closeForInvalidBuffer right.closeForInvalidBuffer :=
  (tandem.tearDown steady).notify _

/-! ### The connection -/

theorem Tandem.afterLoss (steady : Steady like) (tandem : Tandem like left right)
    (outcome : LossOutcome) : Tandem like (left.afterLoss outcome) (right.afterLoss outcome) := by
  cases outcome with
  | ignored => exact tandem
  | scheduled attempt delay =>
      rcases tandem with ⟨network, rfl, alike⟩
      exact ⟨_, rfl, alike⟩
  | exhausted attempts => exact (tandem.tearDown steady).notify _

theorem Tandem.onConnectionLost (steady : Steady like) (tandem : Tandem like left right)
    (now : Nat) : Tandem like (left.onConnectionLost now) (right.onConnectionLost now) := by
  simp only [Desk.onConnectionLost, tandem.session_eq]
  cases left.session with
  | none => exact tandem
  | some session =>
      rcases ((tandem.line session).lose steady now).exists_eq with
        ⟨outcome, one, two, first, second, lost⟩
      simp only [first, second]
      exact (tandem.withLine _ lost).afterLoss steady outcome

theorem Tandem.requestState (steady : Steady like) (tandem : Tandem like left right)
    (session : Session) (now : Nat) :
    Tandem like (left.requestState session now) (right.requestState session now) := by
  rcases ((tandem.line session).send steady .syncRequest).exists_eq with
    ⟨result, one, two, first, second, sent⟩
  simp only [Desk.requestState, first, second]
  split
  · cases result with
    | ok done => exact tandem.withLine session (sent.withState .syncing)
    | error error => exact (tandem.withLine session sent).onConnectionLost steady now
  · split
    · exact tandem
    · exact tandem.withLine session ((tandem.line session).withState .syncing)

theorem Tandem.onConnected (steady : Steady like) (tandem : Tandem like left right) (now : Nat) :
    Tandem like (left.onConnected now) (right.onConnected now) := by
  simp only [Desk.onConnected, tandem.session_eq]
  cases left.session with
  | none => exact tandem
  | some session =>
      simp only
      split
      · rcases (tandem.line session).confirm.exists_eq with
          ⟨reconnected, one, two, first, second, confirmed⟩
        simp only [first, second]
        rcases confirmed with ⟨after, rfl, alike⟩
        have lines : Line.Tandem like one { one with network := after } := ⟨_, rfl, alike⟩
        refine Tandem.requestState steady ?_ _ now
        split
        · exact (tandem.withLine _ lines).notify _
        · exact tandem.withLine _ lines
      · exact tandem

/-! ### What is sent -/

theorem Tandem.onRemoteUpdate (steady : Steady like) (tandem : Tandem like left right)
    (payload : Update) (now : Nat) :
    Tandem like (left.onRemoteUpdate payload now) (right.onRemoteUpdate payload now) := by
  simp only [Desk.onRemoteUpdate, tandem.session_eq]
  cases left.session with
  | none => exact tandem
  | some session =>
      rcases (tandem.observe session now).exists_eq with ⟨observed, one, two, first, second, looked⟩
      rcases looked with ⟨network, rfl, alike⟩
      rcases observed.exists_flush_eq steady alike now true with
        ⟨outcome, flushed, three, four, third, fourth, sent⟩
      simp only [first, second, third, fourth]
      split
      · exact ⟨_, rfl, sent⟩
      · exact ⟨_, rfl, sent⟩

theorem Tandem.welcomePeer (steady : Steady like) (tandem : Tandem like left right)
    (session : Session) (now : Nat) :
    Tandem like (left.welcomePeer session now) (right.welcomePeer session now) := by
  rcases (tandem.observe session now).exists_eq with ⟨observed, one, two, first, second, looked⟩
  rcases ((looked.line observed).send steady (.fullState observed.replica.fullState)).exists_eq with
    ⟨result, three, four, third, fourth, sent⟩
  simp only [Desk.welcomePeer, first, second, third, fourth]
  cases result with
  | ok done =>
      simp only
      split
      · exact looked.withLine _ sent
      · exact (looked.withLine _ (sent.withState .synced)).notify _
  | error error =>
      simp only
      split
      · exact looked.withLine _ sent
      · exact (looked.withLine _ (sent.withState .synced)).notify _

theorem Tandem.onPeerConnected (steady : Steady like) (tandem : Tandem like left right)
    (peer : String) (now : Nat) :
    Tandem like (left.onPeerConnected peer now) (right.onPeerConnected peer now) := by
  simp only [Desk.onPeerConnected, tandem.session_eq]
  split
  · exact tandem
  · split
    · exact ((tandem.withSession _).notify _).welcomePeer steady _ now
    · exact (tandem.withSession _).notify _

theorem Tandem.handle (steady : Steady like) (tandem : Tandem like left right)
    (event : TransportEvent Update) (now : Nat) :
    Tandem like (left.handle event now) (right.handle event now) := by
  cases event with
  | connected => exact tandem.onConnected steady now
  | disconnected => exact tandem.onConnectionLost steady now
  | error message => exact tandem.onConnectionLost steady now
  | syncResponse payload => exact tandem.onInitialState payload now
  | update payload => exact tandem.onRemoteUpdate steady payload now
  | fullState payload =>
      rw [Desk.handle, Desk.handle, tandem.session_eq]
      split
      · exact tandem.onRemoteUpdate steady payload now
      · exact tandem.onInitialState payload now
  | peerConnected peer => exact tandem.onPeerConnected steady peer now
  | peerDisconnected peer => exact tandem.onPeerDisconnected peer
  | ready endpointId relayUrl => exact tandem.onReady endpointId relayUrl

/-! ### Tasks -/

theorem Tandem.runFlush (steady : Steady like) (tandem : Tandem like left right) (now : Nat) :
    Tandem like (left.runFlush now) (right.runFlush now) := by
  simp only [Desk.runFlush, tandem.session_eq, tandem.buffer_eq]
  cases left.session with
  | none => exact tandem
  | some session =>
      simp only
      split
      · exact tandem.closeForInvalidBuffer steady
      · rcases (tandem.observe session now).exists_eq with
          ⟨observed, one, two, first, second, looked⟩
        rcases looked with ⟨network, rfl, alike⟩
        rcases observed.exists_flush_eq steady alike now false with
          ⟨outcome, flushed, three, four, third, fourth, sent⟩
        simp only [first, second, third, fourth]
        cases observed.connection.state.isSynced with
        | true => exact ⟨_, rfl, sent⟩
        | false => exact ⟨_, rfl, alike⟩

theorem Tandem.runReconnect (steady : Steady like) (tandem : Tandem like left right) (now : Nat) :
    Tandem like (left.runReconnect now) (right.runReconnect now) := by
  simp only [Desk.runReconnect, tandem.session_eq]
  cases left.session with
  | none => exact tandem
  | some session =>
      rcases ((tandem.line session).redial steady now).exists_eq with
        ⟨outcome, one, two, first, second, dialed⟩
      simp only [first, second]
      cases outcome with
      | dialing => exact tandem.withLine session dialed
      | lost outcome => exact (tandem.withLine session dialed).afterLoss steady outcome

theorem Tandem.deal (steady : Steady like) (tandem : Tandem like left right) (matter : Matter)
    (now : Nat) : Tandem like (left.deal matter now) (right.deal matter now) := by
  cases matter with
  | event event => exact tandem.handle steady event now
  | task task =>
      cases task with
      | flush => exact tandem.runFlush steady now
      | reconcile => exact tandem.runReconcile now
      | connectTimeout => exact tandem.onConnectionLost steady now
      | reconnect => exact tandem.runReconnect steady now
      | emptySyncFallback => exact tandem.runEmptySyncFallback now

/-! ### Calls -/

theorem Tandem.bufferChanged (steady : Steady like) (tandem : Tandem like left right)
    (now : Nat) : Tandem like (left.bufferChanged now) (right.bufferChanged now) := by
  simp only [Desk.bufferChanged, tandem.session_eq, tandem.buffer_eq]
  split
  · exact tandem
  · split
    · exact tandem.closeForInvalidBuffer steady
    · exact (tandem.observe _ now).like

theorem Tandem.flushNow (steady : Steady like) (tandem : Tandem like left right) (now : Nat) :
    Agree (Tandem like) (left.flushNow now) (right.flushNow now) := by
  simp only [Desk.flushNow, tandem.session_eq]
  cases left.session with
  | none => exact ⟨rfl, tandem⟩
  | some session =>
      rcases (tandem.observe session now).exists_eq with
        ⟨observed, one, two, first, second, looked⟩
      rcases looked with ⟨network, rfl, alike⟩
      rcases observed.exists_flush_eq steady alike now true with
        ⟨outcome, flushed, three, four, third, fourth, sent⟩
      simp only [first, second, third, fourth]
      split
      · exact ⟨rfl, _, rfl, sent⟩
      · exact ⟨rfl, _, rfl, alike⟩

theorem Tandem.perform (steady : Steady like) (tandem : Tandem like left right) {call : Call}
    (single : call ≠ .poll) (now : Nat) :
    Tandem like (call.perform left now) (call.perform right now) := by
  cases call with
  | takeNotices =>
      rcases tandem with ⟨network, rfl, alike⟩
      exact ⟨_, rfl, alike⟩
  | host target draws => exact (tandem.host steady target draws now).like
  | join code replica => exact (tandem.join steady code replica now).like
  | bufferChanged => exact tandem.bufferChanged steady now
  | flushNow => exact (tandem.flushNow steady now).like
  | poll => exact absurd rfl single
  | leave => exact (tandem.leave steady).like
  | vanish => exact tandem.vanish steady

end Desk

end Cowrite
