import Cowrite.Proofs.Session.Flushing
import Cowrite.Proofs.Session.Unstuck
import Cowrite.Proofs.Session.Waiting
import Cowrite.Proofs.Transport.Dialed

/-!
# Accounts of retrying

What a session has to do with losing its connection and making it again is a small part of it: how
many losses it counts, the attempt that is planned, what the user was told about it, and how often
the transport was asked to connect (`Account`). Whatever is about the document and the peers leaves
this account alone. To lose the connection, to make the planned attempt and to have a connection
confirmed each do to it what their names say.
-/

namespace Cowrite

/-- Whether a notice is about retrying. -/
def Notice.isRetry : Notice → Bool
  | .reconnecting _ _ _ => true
  | .failed _ => true
  | _ => false

/-! ## Accounts -/

/-- An account of retrying. -/
@[ext]
structure Account where
  settings : Settings
  /-- The losses that the session counts, and its backoff. -/
  contact : Option (Nat × Backoff)
  /-- The attempts to reconnect that are planned. -/
  plans : List Appointment
  /-- What the user was told and has not taken. -/
  told : List Notice
  /-- How often the transport was asked to connect. -/
  dials : Nat

namespace Account

/-- The session is over. -/
def ended (account : Account) : Account :=
  { account with contact := none, plans := [] }

/-- A connection was confirmed. -/
def confirmed (account : Account) : Account :=
  { account with contact := account.contact.map fun contact => (0, contact.2) }

/-- The planned attempt was made. -/
def dialed (account : Account) : Account :=
  { account with plans := [], dials := account.dials + 1 }

/-- A connection was lost. -/
def lost (account : Account) (now : Nat) : Account :=
  match account.contact with
  | none => account
  | some (attempts, backoff) =>
      let attempt := Connection.nextAttempt attempts
      if attempt ≤ backoff.maxAttempts then
        let delay := backoff.delay attempt
        { account with
          contact := some (attempt, backoff)
          plans := [{ task := .reconnect, due := now + delay, period := none }]
          told := account.told ++
            [.reconnecting attempt account.settings.maxReconnects delay] }
      else
        { account.ended with told := account.told ++ [.failed backoff.maxAttempts] }

/-- What may come of one matter: a connection is confirmed, the planned attempt is made, and a
connection is lost. -/
def next (account : Account) (isConfirmed isDialed isLost : Bool) (now : Nat) : Account :=
  let account := bif isConfirmed then account.confirmed else account
  let account := bif isDialed then account.dialed else account
  bif isLost then account.lost now else account

variable {account : Account} {attempts : Nat} {backoff : Backoff}

theorem next_of_kept (contact : account.contact = some (attempts, backoff))
    (isConfirmed isDialed : Bool) (now : Nat) :
    account.next isConfirmed isDialed false now = { account with
      contact := some (bif isConfirmed then 0 else attempts, backoff)
      plans := bif isDialed then [] else account.plans
      dials := account.dials + bif isDialed then 1 else 0 } := by
  cases isConfirmed with
  | true => cases isDialed <;> simp [next, confirmed, dialed, contact]
  | false => cases isDialed <;> simp [next, dialed, ← contact]

/-- A loss that is not the last one. -/
theorem next_of_le (contact : account.contact = some (attempts, backoff))
    (isConfirmed isDialed : Bool)
    (inTime : Connection.nextAttempt (bif isConfirmed then 0 else attempts) ≤ backoff.maxAttempts)
    (now : Nat) :
    account.next isConfirmed isDialed true now =
      let count := Connection.nextAttempt (bif isConfirmed then 0 else attempts)
      { account with
        contact := some (count, backoff)
        plans := [{ task := .reconnect, due := now + backoff.delay count, period := none }]
        told := account.told ++
          [.reconnecting count account.settings.maxReconnects (backoff.delay count)]
        dials := account.dials + bif isDialed then 1 else 0 } := by
  have kept := next_of_kept contact isConfirmed isDialed now
  have lost : account.next isConfirmed isDialed true now =
      (account.next isConfirmed isDialed false now).lost now := rfl
  simp only [lost, kept, Account.lost, if_pos inTime]

/-- The last loss. -/
theorem next_of_lt (contact : account.contact = some (attempts, backoff))
    (isConfirmed isDialed : Bool)
    (late : backoff.maxAttempts < Connection.nextAttempt (bif isConfirmed then 0 else attempts))
    (now : Nat) :
    account.next isConfirmed isDialed true now = { account with
      contact := none
      plans := []
      told := account.told ++ [.failed backoff.maxAttempts]
      dials := account.dials + bif isDialed then 1 else 0 } := by
  have kept := next_of_kept contact isConfirmed isDialed now
  have lost : account.next isConfirmed isDialed true now =
      (account.next isConfirmed isDialed false now).lost now := rfl
  simp only [lost, kept, Account.lost, if_neg (Nat.not_le.2 late), Account.ended]

end Account

/-! ## Lines -/

namespace Line

variable {ν : Type} [Transport ν] (line : Line (Dialed ν)) (now : Nat)

theorem dials_hangUp : line.hangUp.network.dials = line.network.dials := by
  rw [hangUp]
  split
  · rfl
  · rfl

theorem dials_shutDown : line.shutDown.network.dials = line.network.dials :=
  line.beginLeave.dials_hangUp

theorem send_fst_congr {line other : Line (Dialed ν)}
    (client : line.connection.client = other.connection.client)
    (network : line.network = other.network) (message : OutboundMessage Update) :
    (line.send message).1 = (other.send message).1 := by
  rw [send, send, client, network]
  cases other.connection.client with
  | none => rfl
  | some own => rfl

theorem exists_send_dials (message : OutboundMessage Update) :
    ∃ result network, line.send message = (result, { line with network }) ∧
      network.dials = line.network.dials := by
  rw [send]
  split
  · exact ⟨_, line.network, rfl, rfl⟩
  · exact ⟨_, _, rfl, rfl⟩

/-- To connect asks the transport once. -/
theorem connect_cases :
    (∃ later, line.connect now = (.ok (), later) ∧
        later.connection.attempts = line.connection.attempts ∧
        later.connection.backoff = line.connection.backoff ∧
        later.agenda.plans .reconnect = line.agenda.plans .reconnect ∧
        later.network.dials = line.network.dials + 1) ∨
      ∃ error network, line.connect now = (.error error, { line with network }) ∧
        network.dials = line.network.dials + 1 := by
  have asked : (Transport.connect (Transport.mintClient line.network).2
      (Transport.mintClient line.network).1 line.connection.target line.connection.key
      line.connection.mailbox).2.dials = line.network.dials + 1 := rfl
  rw [connect]
  rcases answer : Transport.connect (Transport.mintClient line.network).2
      (Transport.mintClient line.network).1 line.connection.target line.connection.key
      line.connection.mailbox with ⟨error | ⟨⟩, network⟩
  · rw [answer] at asked
    exact .inr ⟨error, network, by simp only [answer], asked⟩
  · rw [answer] at asked
    simp only [answer]
    exact .inl ⟨_, rfl, rfl, rfl, Agenda.plans_put _ (by simp), asked⟩

/-- A loss that is counted is followed by a plan, or it was the last one. -/
theorem lose_cases {line : Line (Dialed ν)} (steadies : line.agenda.Steadies line.connection)
    (unplanned : line.agenda.has .reconnect = false) (now : Nat) :
    let attempt := Connection.nextAttempt line.connection.attempts
    let delay := line.connection.backoff.delay attempt
    ∃ later, later.network.dials = line.network.dials ∧
      if attempt ≤ line.connection.backoff.maxAttempts then
        line.lose now = (.scheduled attempt delay, later) ∧
          later.connection.attempts = attempt ∧
          later.connection.backoff = line.connection.backoff ∧
          later.agenda.plans .reconnect =
            [{ task := .reconnect, due := now + delay, period := none }]
      else line.lose now = (.exhausted line.connection.backoff.maxAttempts, later) := by
  have goesOn : (line.connection.leaving || line.agenda.has .reconnect ||
      decide (line.connection.state = .failed)) = false := by
    simp [steadies.staying, unplanned, steadies.standing]
  let hung := ({ line with agenda := line.agenda.cancel .connectTimeout } : Line (Dialed ν)).hangUp
  have dials : hung.network.dials = line.network.dials := dials_hangUp _
  have backoff : hung.connection.backoff = line.connection.backoff := (hangUp_frame _).2.1
  simp only [lose, goesOn, Bool.false_eq_true, if_false]
  split
  case isTrue inTime =>
    rw [if_neg (Nat.not_lt.2 inTime)]
    refine ⟨_, ?_, rfl, rfl, backoff, Agenda.plans_once _ _ _ _⟩
    exact dials
  case isFalse late =>
    rw [if_pos (Nat.lt_of_not_le late)]
    refine ⟨_, ?_, rfl⟩
    exact dials

end Line

/-- A flush leaves what it sends over as it was, or as one sending leaves it. -/
theorem Outbox.flush_state {σ : Type} (outbox : Outbox) (replica : Replica) (now : Nat)
    (force : Bool) (send : Update → σ → Except TransportError Unit × σ) (state : σ) :
    (outbox.flush replica now force send state).2.2 = state ∨
      ∃ update, (outbox.flush replica now force send state).2.2 = (send update state).2 := by
  rw [flush_eq]
  split
  · split
    · exact .inl rfl
    · exact .inr ⟨_, rfl⟩
  · exact .inl rfl

/-- To send an update asks for no connection. -/
theorem Session.dials_flush {ν : Type} [Transport ν] (session : Session) (network : Dialed ν)
    (now : Nat) (force : Bool) : (session.flush network now force).2.2.dials = network.dials := by
  simp only [flush]
  rcases Outbox.flush_state session.outbox session.replica now force _ network with
    same | ⟨update, sent⟩
  · rw [same]
  · rw [sent]
    cases session.connection.client <;> rfl

/-! ## Desks -/

namespace Desk

variable {ν : Type} {desk after : Desk (Dialed ν)} {session later : Session} {now : Nat}

/-- What a desk has to do with retrying. -/
def account (desk : Desk (Dialed ν)) : Account where
  settings := desk.settings
  contact := desk.session.map fun session =>
    (session.connection.attempts, session.connection.backoff)
  plans := desk.agenda.plans .reconnect
  told := desk.notices.filter Notice.isRetry
  dials := desk.network.dials

/-! ### What the transport says -/

/-- Whether a matter is the word of the transport that the connection is made; a host that waits for
peers has it when it can be reached. -/
def confirms {ν : Type} (desk : Desk ν) (matter : Matter) : Bool :=
  match matter with
  | .event .connected => true
  | .event (.ready _ _) => desk.session.any (·.isHost)
  | _ => false

/-- Whether a session waits for that word. -/
def awaits {ν : Type} (desk : Desk ν) : Bool :=
  desk.session.any (·.connection.state.isUnconfirmed)

/-! ### What leaves the account alone -/

theorem account_notify (desk : Desk (Dialed ν)) {notice : Notice} (other : notice.isRetry = false) :
    (desk.notify notice).account = desk.account := by
  simp [account, notify, List.filter_append, other]

theorem account_notify_retry (desk : Desk (Dialed ν)) {notice : Notice}
    (retry : notice.isRetry = true) :
    (desk.notify notice).account =
      { desk.account with told := desk.account.told ++ [notice] } := by
  simp [account, notify, List.filter_append, retry]

theorem account_of_same (present : desk.session = some session) (next : after.session = some later)
    (connection : (later.connection.attempts, later.connection.backoff) =
      (session.connection.attempts, session.connection.backoff))
    (plans : after.agenda.plans .reconnect = desk.agenda.plans .reconnect)
    (notices : after.notices = desk.notices) (settings : after.settings = desk.settings)
    (dials : after.network.dials = desk.network.dials) : after.account = desk.account := by
  rw [account, account, next, present, Option.map_some, Option.map_some, connection, plans, notices,
    settings, dials]

theorem account_onInitialState (desk : Desk (Dialed ν)) (payload : Update) (now : Nat) :
    (desk.onInitialState payload now).account = desk.account := by
  rcases Option.eq_none_or_eq_some desk.session with ended | ⟨session, present⟩
  · rw [onInitialState, ended]
  · have contact : (informed (desk.observe session now).1 payload).connection =
        { session.connection with state := .synced } := by
      rw [informed, settleOutbox_eq, receiveState_eq]
      rfl
    rw [onInitialState_of_present present, account_notify _ rfl]
    split
    · refine account_of_same present rfl ?_ (Agenda.plans_put _ (by simp)) rfl rfl rfl
      rw [contact]
    · refine account_of_same present rfl ?_ rfl rfl rfl rfl
      rw [Session.connection_displayOrDefer, contact]

theorem account_onPeerDisconnected (desk : Desk (Dialed ν)) (peer : String) :
    (desk.onPeerDisconnected peer).account = desk.account := by
  rcases Option.eq_none_or_eq_some desk.session with ended | ⟨session, present⟩
  · rw [onPeerDisconnected, ended]
  · rw [onPeerDisconnected, present]
    simp only
    rw [account_notify _ rfl]
    split
    · exact account_of_same present rfl rfl rfl rfl rfl rfl
    · exact account_of_same present rfl rfl rfl rfl rfl rfl

theorem account_runReconcile (desk : Desk (Dialed ν)) (now : Nat) :
    (desk.runReconcile now).account = desk.account := by
  rcases Option.eq_none_or_eq_some desk.session with ended | ⟨session, present⟩
  · rw [runReconcile, ended]
  · rw [runReconcile, present]
    simp only
    split
    · rfl
    · split
      · exact account_of_same present rfl rfl rfl rfl rfl rfl
      · exact account_of_same present rfl rfl rfl rfl rfl rfl

theorem account_runEmptySyncFallback (desk : Desk (Dialed ν)) (now : Nat) :
    (desk.runEmptySyncFallback now).account = desk.account := by
  rcases Option.eq_none_or_eq_some desk.session with ended | ⟨session, present⟩
  · rw [runEmptySyncFallback, ended]
  · rw [runEmptySyncFallback, present]
    simp only
    split
    · rfl
    · split
      · exact account_of_same present rfl rfl rfl rfl rfl rfl
      · rw [account_notify _ rfl]
        exact account_of_same present rfl rfl rfl rfl rfl rfl

theorem account_confirm (present : desk.session = some session) (kept : Session) :
    (desk.withLine kept (desk.line session).confirm.2).account = desk.account.confirmed := by
  ext1
  · rfl
  · rw [account, account, Account.confirmed, present]
    rfl
  · exact Agenda.plans_cancel _ (by simp)
  · rfl
  · rfl

theorem account_onReady (desk : Desk (Dialed ν)) (endpointId relayUrl : String) (now : Nat) :
    (desk.onReady endpointId relayUrl).account =
      desk.account.next (desk.session.any (·.isHost) && desk.awaits) false false now := by
  rcases Option.eq_none_or_eq_some desk.session with ended | ⟨session, present⟩
  · rw [Desk.onReady, ended]
    rfl
  · have awaits : desk.awaits = session.connection.state.isUnconfirmed := by
      rw [Desk.awaits, present]
      rfl
    rw [Desk.onReady, awaits, present]
    simp only [Option.any_some]
    rw [account_notify _ rfl]
    split
    case isTrue waits =>
      replace waits : (session.isHost && session.connection.state.isUnconfirmed) = true := waits
      have confirmed := account_confirm present
        { session with invitation := some (Invitation.peer endpointId relayUrl) }
      rw [waits]
      split
      · rw [account_notify _ rfl]
        exact confirmed
      · exact confirmed
    case isFalse settled =>
      replace settled : (session.isHost && session.connection.state.isUnconfirmed) = false :=
        eq_false_of_ne_true settled
      rw [settled]
      exact account_of_same present rfl rfl rfl rfl rfl rfl

variable [Transport ν]

theorem account_onRemoteUpdate (desk : Desk (Dialed ν)) (payload : Update) (now : Nat) :
    (desk.onRemoteUpdate payload now).account = desk.account := by
  rcases Option.eq_none_or_eq_some desk.session with ended | ⟨session, present⟩
  · rw [onRemoteUpdate, ended]
  · have dials : (desk.sentOff session now true).2.dials = desk.network.dials :=
      Session.dials_flush _ _ now true
    cases applied : (desk.observe session now).1.replica.apply payload with
    | error error =>
        rw [onRemoteUpdate_of_refused present applied]
        exact account_of_same present rfl rfl rfl rfl rfl dials
    | ok replica =>
        rw [onRemoteUpdate_of_taken present applied]
        refine account_of_same present rfl ?_ rfl rfl rfl dials
        rw [Session.connection_displayOrDefer]
        rfl

theorem account_welcomePeer (present : desk.session = some session) (now : Nat) :
    (desk.welcomePeer session now).account = desk.account := by
  rcases Line.exists_send_dials ((desk.observe session now).2.line (desk.observe session now).1)
    (.fullState (desk.observe session now).1.replica.fullState) with
    ⟨result, network, sends, dials⟩
  simp only [welcomePeer, sends]
  split
  · split
    · exact account_of_same present rfl rfl rfl rfl rfl dials
    · rw [account_notify _ rfl]
      exact account_of_same present rfl rfl rfl rfl rfl dials
  · split
    · exact account_of_same present rfl rfl rfl rfl rfl dials
    · rw [account_notify _ rfl]
      exact account_of_same present rfl rfl rfl rfl rfl dials

theorem account_onPeerConnected (desk : Desk (Dialed ν)) (peer : String) (now : Nat) :
    (desk.onPeerConnected peer now).account = desk.account := by
  rcases Option.eq_none_or_eq_some desk.session with ended | ⟨session, present⟩
  · rw [onPeerConnected, ended]
  · have joined : ((desk.withSession { session with
        peers := Session.insertPeer peer session.peers }).notify (.peerJoined peer)).account =
        desk.account := by
      rw [account_notify _ rfl]
      exact account_of_same present rfl rfl rfl rfl rfl rfl
    rw [onPeerConnected, present]
    simp only
    split
    · exact (account_welcomePeer rfl now).trans joined
    · exact joined

/-! ### The end of a session -/

theorem account_tearDown (present : desk.session = some session) :
    desk.tearDown.account = desk.account.ended := by
  have dials := (desk.line session).dials_shutDown
  rw [tearDown, present]
  ext1
  · rfl
  · rfl
  · rfl
  · rfl
  · exact dials

/-- A flush ends the session if its buffer is gone, and else has nothing to do with retrying. -/
theorem account_runFlush (desk : Desk (Dialed ν)) (now : Nat) :
    (desk.runFlush now).account = desk.account ∨
      (desk.runFlush now).account = desk.account.ended := by
  rcases Option.eq_none_or_eq_some desk.session with ended | ⟨session, present⟩
  · rw [runFlush, ended]
    exact .inl rfl
  · cases valid : desk.buffer.valid with
    | false =>
        have closes : desk.runFlush now = desk.closeForInvalidBuffer := by
          simp [runFlush, present, valid]
        rw [closes, closeForInvalidBuffer, account_notify _ rfl, account_tearDown present]
        exact .inr rfl
    | true =>
        left
        have dials : (desk.flushed session now).2.dials = desk.network.dials := by
          rw [flushed]
          split
          · exact Session.dials_flush _ _ now false
          · rfl
        have connection : (desk.flushed session now).1.connection = session.connection := by
          rw [flushed_eq]
          rfl
        rw [runFlush_of_valid present valid]
        refine account_of_same present rfl ?_ rfl rfl rfl dials
        split
        · exact congrArg (fun connection : Connection => (connection.attempts, connection.backoff))
            connection
        · exact congrArg (fun connection : Connection => (connection.attempts, connection.backoff))
            connection

/-! ### The connection -/

/-- A loss that is counted. -/
theorem Loses.account_lose (loses : desk.Loses session) (present : desk.session = some session)
    (kept : Session) (now : Nat) :
    ((desk.withLine kept ((desk.line session).lose now).2).afterLoss
      ((desk.line session).lose now).1).account = desk.account.lost now := by
  have contact : desk.account.contact =
      some (session.connection.attempts, session.connection.backoff) := by
    rw [account, present]
    rfl
  have steadies : (desk.line session).agenda.Steadies (desk.line session).connection :=
    loses.steadies
  rcases Line.lose_cases steadies loses.unplanned now with ⟨line, dials, outcome⟩
  rw [Account.lost, contact]
  split at outcome
  case isTrue inTime =>
    rcases outcome with ⟨lost, attempts, backoff, plans⟩
    replace inTime : Connection.nextAttempt session.connection.attempts ≤
      session.connection.backoff.maxAttempts := inTime
    simp only [if_pos inTime, lost, afterLoss]
    rw [account_notify_retry _ rfl]
    ext1
    · rfl
    · exact congrArg some (Prod.ext attempts backoff)
    · exact plans
    · rfl
    · exact dials
  case isFalse late =>
    replace late : ¬Connection.nextAttempt session.connection.attempts ≤
      session.connection.backoff.maxAttempts := late
    simp only [if_neg late, outcome, afterLoss]
    rw [account_notify_retry _ rfl, account_tearDown rfl]
    ext1
    · rfl
    · rfl
    · rfl
    · rfl
    · exact dials

theorem Loses.account_onConnectionLost (loses : desk.Loses session)
    (present : desk.session = some session) (now : Nat) :
    (desk.onConnectionLost now).account = desk.account.lost now := by
  rw [Desk.onConnectionLost, present]
  exact loses.account_lose present { session with peers := [] } now

/-- While an attempt is planned, a signal that the connection was lost is ignored. -/
theorem onConnectionLost_of_planned (planned : desk.agenda.has .reconnect = true) (now : Nat) :
    desk.onConnectionLost now =
      { desk with session := desk.session.map fun session => { session with peers := [] } } := by
  rcases Option.eq_none_or_eq_some desk.session with ended | ⟨session, present⟩
  · simp only [onConnectionLost, ended, Option.map_none]
    rw [← ended]
  · have ignored : (desk.line session).lose now = (.ignored, desk.line session) := by
      simp [Line.lose, line, planned]
    simp only [onConnectionLost, present, ignored]
    rfl

/-! ### What is about the connection -/

/-- Whether a connection is lost by a matter: the transport says so, or the attempt has taken too
long, or it does not begin, or the state of the document cannot be asked for. -/
def losesBy {ν : Type} [Transport ν] (desk : Desk ν) (matter : Matter) (now : Nat) : Bool :=
  match matter with
  | .event .disconnected => true
  | .event (.error _) => true
  | .event .connected => desk.awaits && desk.session.any fun session =>
      session.mode = .relay && !((desk.line session).send .syncRequest).1.isOk
  | .task .connectTimeout => true
  | .task .reconnect => desk.session.any fun session => !((desk.line session).connect now).1.isOk
  | _ => false

theorem Tended.account_requestState (tended : desk.Tended) (present : desk.session = some session)
    (client : session.connection.client ≠ none) (now : Nat) :
    (desk.requestState session now).account = desk.account.next false false
      (session.mode = .relay && !((desk.line session).send .syncRequest).1.isOk) now := by
  rw [Desk.requestState]
  rcases (desk.line session).exists_send_dials .syncRequest with ⟨result, network, sends, dials⟩
  rw [sends]
  cases session.mode with
  | peerToPeer =>
      simp only
      split
      · rfl
      · exact account_of_same present rfl rfl rfl rfl rfl rfl
  | relay =>
      cases result with
      | ok sent => exact account_of_same present rfl rfl rfl rfl rfl dials
      | error error =>
          let refused := desk.withLine session { desk.line session with network }
          have still : refused.Tended := tended.of_same present rfl rfl rfl rfl
          have same : refused.account = desk.account :=
            account_of_same present rfl rfl rfl rfl rfl dials
          exact ((still.loses rfl client).account_onConnectionLost rfl now).trans
            (congrArg (Account.lost · now) same)

/-- A connection is confirmed if the session waits for it, and lost at once if the state of the
document cannot be asked for. -/
theorem Tended.account_onConnected (tended : desk.Tended) (present : desk.session = some session)
    (client : session.connection.client ≠ none) (now : Nat) :
    (desk.onConnected now).account =
      desk.account.next desk.awaits false (desk.losesBy (.event .connected) now) now := by
  have awaits : desk.awaits = session.connection.state.isUnconfirmed := by
    rw [Desk.awaits, present]
    rfl
  have requests {made : Desk (Dialed ν)} {kept : Session} (still : made.Tended)
      (there : made.session = some kept) (mode : kept.mode = session.mode)
      (same : kept.connection.client = session.connection.client)
      (network : made.network = desk.network) (confirmed : made.account = desk.account.confirmed) :
      (made.requestState kept now).account = desk.account.confirmed.next false false
        (session.mode = .relay && !((desk.line session).send .syncRequest).1.isOk) now := by
    have asks : ((made.line kept).send .syncRequest).1 =
        ((desk.line session).send .syncRequest).1 := Line.send_fst_congr same network _
    rw [still.account_requestState there (same ▸ client), confirmed, mode, asks]
  rw [Desk.onConnected, losesBy, awaits, present]
  simp only
  split
  case isTrue unconfirmed =>
    have confirmed := account_confirm present { session with
      connection := (desk.line session).confirm.2.connection
      resync := session.resync || (desk.line session).confirm.1 }
    have still : (desk.withLine { session with
        connection := (desk.line session).confirm.2.connection
        resync := session.resync || (desk.line session).confirm.1 }
        (desk.line session).confirm.2).Tended :=
      tended_withLine ((tended.line session present).confirm client) (tended.limit session present)
    rw [unconfirmed, Bool.true_and, Option.any_some]
    split
    · exact requests (still.notify .reconnected) rfl rfl rfl rfl
        ((account_notify _ rfl).trans confirmed)
    · exact requests still rfl rfl rfl rfl confirmed
  case isFalse settled =>
    rw [eq_false_of_ne_true settled]
    rfl

/-- The attempt to reconnect asks the transport once, and is lost if it does not begin. -/
theorem Loses.account_runReconnect (loses : desk.Loses session)
    (present : desk.session = some session) (now : Nat) :
    (desk.runReconnect now).account =
      desk.account.next false true (desk.losesBy (.task .reconnect) now) now := by
  have unplanned : desk.account.plans = [] := Agenda.plans_eq_nil_iff.2 loses.unplanned
  have staying : (desk.line session).connection.leaving = false := loses.steadies.staying
  rw [Desk.runReconnect, losesBy, present]
  simp only [Option.any_some, Line.redial, staying, Bool.false_eq_true, if_false]
  rcases (desk.line session).connect_cases now with
    ⟨line, connects, attempts, backoff, plans, dials⟩ | ⟨error, network, refused, dials⟩
  · rw [connects]
    ext1
    · rfl
    · exact (congrArg some (Prod.ext attempts backoff)).trans
        (congrArg (Option.map fun session : Session =>
          (session.connection.attempts, session.connection.backoff)) present).symm
    · exact plans.trans unplanned
    · rfl
    · exact dials
  · rw [refused]
    let asked : Desk (Dialed ν) := { desk with network }
    have still : asked.Loses session := ⟨loses.steadies, loses.unplanned, loses.limit⟩
    have dialed : asked.account = desk.account.dialed := by
      ext1
      · rfl
      · rfl
      · exact unplanned
      · rfl
      · exact dials
    exact (still.account_lose present session now).trans (congrArg (Account.lost · now) dialed)

end Desk

end Cowrite
