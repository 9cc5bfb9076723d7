import Cowrite.Session.Basic

/-!
# A participant at the desk

A participant takes part in at most one session at a time: starts one as its host, joins one
somebody else hosts, and leaves it. Everything happens in calls that are told the present time.
`poll` handles the events that have arrived and runs the background tasks that are due, and
`bufferChanged` is called when the editor has raised notifications.

A `Desk` is a participant together with what lies before it: the editor's buffer and the transport
of the session. All operations are functions on desks, and none of them waits for anything.

* The host's document begins with the content of its buffer. A guest's document begins empty, and
  its buffer is not touched until there is something to show; only if the session turns out to be
  empty is the guest's own buffer shared.
* When the connection was lost, both sides may have missed anything, so after a reconnection the
  whole document is sent again.
* The buffer is not written while the user types; what arrives then is shown later.
-/

namespace Cowrite

/-- Somebody who may take part in a session. -/
structure Participant where
  settings : Settings := {}
  /-- The clock that deadlines are told by. -/
  clock : Clock := .usual
  session : Option Session := none
  agenda : Agenda := {}
  /-- Notices not yet shown, oldest first. -/
  notices : List Notice := []
  deriving DecidableEq

/-- A participant with a buffer and a transport. -/
structure Desk (ν : Type) extends Participant where
  buffer : Buffer
  network : ν

/-- Where a host can be reached. -/
inductive HostTarget where
  /-- In a room of a relay server; without a name, of the one in the settings. -/
  | relay (server : Option String)
  /-- Directly. -/
  | peerToPeer
  deriving DecidableEq, Repr

def HostTarget.mode : HostTarget → TransportMode
  | .relay _ => .relay
  | .peerToPeer => .peerToPeer

/-- The random choices of a new session. -/
structure Draws where
  /-- The number of the new replica. -/
  replica : ReplicaId
  /-- The number of a new room. -/
  room : Nat
  /-- The key of an encrypted session. -/
  key : SessionKey

/-- How long until something is due, if anything is. -/
def timeUntil (deadline : Option Nat) (now : Nat) : Option Nat :=
  deadline.map (· - now)

namespace Invitation

/-- The invitation to a new room, which is named by a number of 64 bits in base 16. -/
def newRoom (server : String) (room : Nat) (key : Option SessionKey) : Invitation :=
  .relay server (Hex.ofNat 16 room) key

end Invitation

namespace Participant

/-- Whether there is a session. -/
def isActive (participant : Participant) : Bool :=
  participant.session.isSome

/-- The status line; empty without a session. -/
def statusLine (participant : Participant) : String :=
  match participant.session with
  | none => ""
  | some session => session.connection.state.label session.connection.backoff.maxAttempts

def info (participant : Participant) : Info :=
  match participant.session with
  | none => {}
  | some session =>
      { active := true
        role := some session.role
        mode := some session.mode
        state := some session.connection.state
        status := session.connection.state.label session.connection.backoff.maxAttempts
        code := session.code?
        documentId := some session.replica.idText
        client := session.connection.client
        peers := session.peers
        reconnectAttempt := session.connection.attempts
        maxReconnectAttempts := session.connection.backoff.maxAttempts
        pendingUpdate := session.outbox.pending
        deferredUpdate := session.deferred
        startedAt := some session.startedAt }

/-- Take the notices. -/
def takeNotices (participant : Participant) : List Notice × Participant :=
  (participant.notices, { participant with notices := [] })

end Participant

namespace Desk

variable {ν : Type} [Transport ν]

def notify (desk : Desk ν) (notice : Notice) : Desk ν :=
  { desk with notices := desk.notices ++ [notice] }

def withSession (desk : Desk ν) (session : Session) : Desk ν :=
  { desk with session := some session }

/-- The connection of a session with the agenda and the transport of the desk. -/
def line (desk : Desk ν) (session : Session) : Line ν :=
  { connection := session.connection, agenda := desk.agenda, network := desk.network }

/-- Put a session and the line of its connection back. -/
def withLine (desk : Desk ν) (session : Session) (line : Line ν) : Desk ν :=
  { desk with
    session := some { session with connection := line.connection }
    agenda := line.agenda
    network := line.network }

/-- Put what was typed into the document of the session. -/
def observe (desk : Desk ν) (session : Session) (now : Nat) : Session × Desk ν :=
  let (session, buffer) := session.observe desk.buffer now
  (session, { desk with session := some session, buffer })

/-- Go back to having no session: close the mailbox of a line, and clear the agenda. -/
def giveUp (desk : Desk ν) (line : Line ν) : Desk ν :=
  { desk with
    session := none
    agenda := {}
    network := Transport.closeBox line.network line.connection.mailbox }

/-! ## Starting -/

/-- Why no session can be started at this desk, if none can. -/
def obstacle? (desk : Desk ν) : Option SessionError :=
  if desk.session.isSome then some .alreadyActive
  else
    match desk.settings.validate with
    | .error error => some error
    | .ok () => if desk.buffer.valid then none else some .invalidBuffer

/-- A session at its very beginning, with a mailbox opened and the buffer bound. -/
def prepare (desk : Desk ν) (role : Role) (target : ConnectTarget) (key : Option SessionKey)
    (invitation : Option Invitation) (replica : Replica) (outbox : Outbox) (now : Nat) :
    Session × Desk ν :=
  let (binding, buffer) := Binding.attach desk.buffer desk.settings.lockout
  let (mailbox, network) := Transport.openBox desk.network
  let connection : Connection :=
    { mailbox
      target
      key
      backoff := desk.settings.backoff
      timeout := desk.settings.connectTimeout }
  ({ role
     mode := Transport.mode desk.network
     replica
     binding
     outbox
     connection
     invitation
     startedAt := now },
    { desk with buffer, network })

/-- The agenda with the periodic tasks of a session on it. -/
def periodic (settings : Settings) (clock : Clock) (agenda : Agenda) (now : Nat) :
    Except SessionError Agenda :=
  match settings.reconcileInterval? with
  | none => .error .intervalOverflow
  | some interval =>
      match (agenda.every .flush settings.flushInterval now).every? clock .reconcile interval
          now with
      | none => .error .deadlineOverflow
      | some agenda => .ok agenda

/-- Connect a prepared session and put its periodic tasks on the agenda. A time that cannot be told
comes up when the session is connected already. It ends the whole program; here it is returned as an
error (`SessionError.isOverflow`), and what was begun is taken back. -/
def start (desk : Desk ν) (session : Session) (now : Nat) : Except SessionError Unit × Desk ν :=
  match (desk.line session).connect now with
  | (.error error, line) => (.error (.connect error), desk.giveUp line)
  | (.ok (), line) =>
      match periodic desk.settings desk.clock line.agenda now with
      | .error error => (.error error, desk.giveUp line.shutDown)
      | .ok agenda => (.ok (), desk.withLine session { line with agenda })

/-- What a host connects to: the target, the invitation to share if there is one yet, and the
key. -/
def hostPlan (settings : Settings) (target : HostTarget) (draws : Draws) :
    Except SessionError (ConnectTarget × Option Invitation × Option SessionKey) :=
  match target with
  | .peerToPeer => .ok (.listen, none, none)
  | .relay server =>
      match server <|> settings.defaultServer with
      | none => .error .missingServer
      | some server =>
          let key := if settings.encrypt then some draws.key else none
          let invitation := Invitation.newRoom server draws.room key
          .ok (invitation.target, some invitation, key)

/-- The document of a host, which begins with the content of its buffer unless that is a single
empty line, and whether there is something to send. -/
def seed (replica : ReplicaId) (buffer : Buffer) (outbox : Outbox) : Replica × Outbox :=
  let content := Text.terminated buffer.content
  if content = ['\n'] then ({ id := replica }, outbox)
  else (({ id := replica } : Replica).setText content, outbox.markPending)

/-- Start a session and share the buffer's content. The invitation to a relay session is there at
once; a host that waits for peers has to be ready first. -/
def host (desk : Desk ν) (target : HostTarget) (draws : Draws) (now : Nat) :
    Except SessionError (Option Invitation) × Desk ν :=
  match desk.obstacle? with
  | some error => (.error error, desk)
  | none =>
      if Transport.mode desk.network ≠ target.mode then
        (.error (.modeMismatch target.mode (Transport.mode desk.network)), desk)
      else
        match hostPlan desk.settings target draws with
        | .error error => (.error error, desk)
        | .ok (connectTarget, invitation, key) =>
            let (replica, outbox) :=
              seed draws.replica desk.buffer { window := desk.settings.debounce }
            let (session, desk) :=
              desk.prepare .host connectTarget key invitation replica outbox now
            match desk.start session now with
            | (.error error, desk) => (.error error, desk)
            | (.ok (), desk) => (.ok invitation, desk.notify (.started .host session.code?))

/-- Join the session behind an invitation. -/
def join (desk : Desk ν) (code : String) (replica : ReplicaId) (now : Nat) :
    Except SessionError Unit × Desk ν :=
  match desk.obstacle? with
  | some error => (.error error, desk)
  | none =>
      match Invitation.decode code with
      | .error error => (.error (.invitation error), desk)
      | .ok invitation =>
          if Transport.mode desk.network ≠ invitation.mode then
            (.error (.modeMismatch invitation.mode (Transport.mode desk.network)), desk)
          else
            let (session, desk) :=
              desk.prepare .joiner invitation.target invitation.key? (some invitation)
                { id := replica } { window := desk.settings.debounce } now
            match desk.start session now with
            | (.error error, desk) => (.error error, desk)
            | (.ok (), desk) => (.ok (), desk.notify (.started .joiner none))

/-! ## Leaving -/

/-- End the session, if there is one: close its connection and mailbox and clear the agenda. -/
def tearDown (desk : Desk ν) : Desk ν :=
  match desk.session with
  | none => desk
  | some session => desk.giveUp (desk.line session).shutDown

/-- Leave the session. Tells whether there was one. -/
def leave (desk : Desk ν) : Bool × Desk ν :=
  if desk.session.isSome then (true, desk.tearDown.notify .left) else (false, desk)

/-- Be gone without leaving: nobody is told, and what still arrives is lost. -/
def vanish (desk : Desk ν) : Desk ν :=
  match desk.session with
  | none => desk
  | some session => desk.giveUp (desk.line session)

/-- Leave the session because its buffer was closed. -/
def closeForInvalidBuffer (desk : Desk ν) : Desk ν :=
  desk.tearDown.notify .bufferClosed

/-! ## The connection -/

/-- Tell the user what came of a lost connection, and end the session if nothing more can come. -/
def afterLoss (desk : Desk ν) : LossOutcome → Desk ν
  | .ignored => desk
  | .scheduled attempt delay =>
      desk.notify (.reconnecting attempt desk.settings.maxReconnects delay)
  | .exhausted attempts => desk.tearDown.notify (.failed attempts)

/-- The connection was lost, or could not be made in time. -/
def onConnectionLost (desk : Desk ν) (now : Nat) : Desk ν :=
  match desk.session with
  | none => desk
  | some session =>
      let (outcome, line) := (desk.line session).lose now
      (desk.withLine { session with peers := [] } line).afterLoss outcome

/-- Ask for the state of the document, or wait for a host to send it. -/
def requestState (desk : Desk ν) (session : Session) (now : Nat) : Desk ν :=
  match session.mode with
  | .relay =>
      match (desk.line session).send .syncRequest with
      | (.ok (), line) => desk.withLine session (line.withState .syncing)
      | (.error _, line) => (desk.withLine session line).onConnectionLost now
  | .peerToPeer =>
      if session.isHost then desk
      else desk.withLine session ((desk.line session).withState .syncing)

/-- The transport has connected. Once is enough. -/
def onConnected (desk : Desk ν) (now : Nat) : Desk ν :=
  match desk.session with
  | none => desk
  | some session =>
      if session.connection.state.isUnconfirmed then
        let (reconnected, line) := (desk.line session).confirm
        let session := { session with
          connection := line.connection
          resync := session.resync || reconnected }
        let desk := desk.withLine session line
        let desk := if reconnected then desk.notify .reconnected else desk
        desk.requestState session now
      else desk

/-- A host that waits for peers can be reached. -/
def onReady (desk : Desk ν) (endpointId relayUrl : String) : Desk ν :=
  match desk.session with
  | none => desk
  | some session =>
      let invitation := Invitation.peer endpointId relayUrl
      let session := { session with invitation := some invitation }
      let desk :=
        if session.isHost && session.connection.state.isUnconfirmed then
          let (reconnected, line) := (desk.line session).confirm
          let desk := desk.withLine session line
          if reconnected then desk.notify .reconnected else desk
        else desk.withSession session
      desk.notify (.codeReady invitation.encode)

/-! ## The document -/

/-- Take up the first state after a connection was made, if it can be applied. -/
def receiveState (session : Session) (payload : Update) : Session :=
  if payload.isEmpty then session
  else
    match session.replica.apply payload with
    | .error _ => session
    | .ok replica =>
        { session with
          replica
          contentReceived := session.contentReceived || !replica.isEmpty }

/-- Settle what has to be sent once the first state is there. A host, and anybody after a
reconnection, sends everything again, as the others may have lost what they had. -/
def settleOutbox (session : Session) : Session :=
  if session.isHost || session.resync then
    let outbox := session.outbox.resetSent
    { session with outbox := if session.replica.isEmpty then outbox else outbox.markPending }
  else if session.outbox.pending then session
  else { session with outbox := session.outbox.recordVersion session.replica.token }

/-- The first state after a connection was made: what the relay answered, or what the host sent. A
guest that finds nothing in the session waits a while before it shares its own buffer. -/
def onInitialState (desk : Desk ν) (payload : Update) (now : Nat) : Desk ν :=
  match desk.session with
  | none => desk
  | some session =>
      let (session, desk) := desk.observe session now
      let session := settleOutbox (receiveState session payload)
      let awaitFallback :=
        !session.isHost && !session.resync && payload.isEmpty && !session.contentReceived
      let session := { session with
        resync := false
        connection := { session.connection with state := .synced } }
      let desk :=
        if awaitFallback then
          { desk.withSession session with
            agenda := desk.agenda.once .emptySyncFallback desk.settings.emptySyncWait now }
        else
          let (session, buffer) := session.displayOrDefer desk.buffer now
          { desk with session := some session, buffer }
      desk.notify .synced

/-- An update of somebody else. One's own edits are sent first, so that the others have them
before anything that follows this update. -/
def onRemoteUpdate (desk : Desk ν) (payload : Update) (now : Nat) : Desk ν :=
  match desk.session with
  | none => desk
  | some session =>
      let (session, desk) := desk.observe session now
      let (_, session, network) := session.flush desk.network now true
      let desk := { desk with session := some session, network }
      match session.replica.apply payload with
      | .error _ => desk
      | .ok replica =>
          let outbox :=
            if session.outbox.pending then session.outbox
            else session.outbox.recordVersion replica.token
          let session := { session with
            replica
            outbox
            contentReceived := session.contentReceived || !replica.isEmpty }
          let (session, buffer) := session.displayOrDefer desk.buffer now
          { desk with session := some session, buffer }

/-! ## Peers -/

/-- Send the whole document to a peer that has connected to its host. -/
def welcomePeer (desk : Desk ν) (session : Session) (now : Nat) : Desk ν :=
  let (session, desk) := desk.observe session now
  let (result, line) := (desk.line session).send (.fullState session.replica.fullState)
  let session :=
    match result with
    | .ok () => { session with outbox := session.outbox.recordVersion session.replica.token }
    | .error _ => session
  if session.connection.state.isSynced then desk.withLine session line
  else (desk.withLine session (line.withState .synced)).notify .synced

def onPeerConnected (desk : Desk ν) (peer : String) (now : Nat) : Desk ν :=
  match desk.session with
  | none => desk
  | some session =>
      let session := { session with peers := Session.insertPeer peer session.peers }
      let desk := (desk.withSession session).notify (.peerJoined peer)
      if session.isHost && session.mode = .peerToPeer then desk.welcomePeer session now else desk

/-- A peer is gone. A guest whose last peer is gone has lost its host. -/
def onPeerDisconnected (desk : Desk ν) (peer : String) : Desk ν :=
  match desk.session with
  | none => desk
  | some session =>
      let session := { session with peers := session.peers.filter (· != peer) }
      let alone := !session.isHost && session.mode = .peerToPeer && session.peers.isEmpty
      let session :=
        if alone then
          { session with connection := { session.connection with state := .disconnected } }
        else session
      (desk.withSession session).notify (.peerLeft peer)

/-! ## Events and tasks -/

def handle (desk : Desk ν) (event : TransportEvent Update) (now : Nat) : Desk ν :=
  match event with
  | .connected => desk.onConnected now
  | .ready endpointId relayUrl => desk.onReady endpointId relayUrl
  | .syncResponse payload => desk.onInitialState payload now
  | .fullState payload =>
      if desk.session.any (·.isHost) then desk.onRemoteUpdate payload now
      else desk.onInitialState payload now
  | .update payload => desk.onRemoteUpdate payload now
  | .peerConnected peer => desk.onPeerConnected peer now
  | .peerDisconnected peer => desk.onPeerDisconnected peer
  | .disconnected => desk.onConnectionLost now
  | .error _ => desk.onConnectionLost now

/-- Send what was typed if it is time to, and show what was held back if the user has stopped
typing. -/
def runFlush (desk : Desk ν) (now : Nat) : Desk ν :=
  match desk.session with
  | none => desk
  | some session =>
      if !desk.buffer.valid then desk.closeForInvalidBuffer
      else
        let (session, desk) := desk.observe session now
        let (session, network) :=
          if session.connection.state.isSynced then (session.flush desk.network now false).2
          else (session, desk.network)
        let (session, buffer) :=
          if session.deferred && session.outbox.isIdle now then session.display desk.buffer now
          else (session, desk.buffer)
        { desk with session := some session, network, buffer }

/-- Repair the buffer, unless something is on its way between it and the document. -/
def runReconcile (desk : Desk ν) (now : Nat) : Desk ν :=
  match desk.session with
  | none => desk
  | some session =>
      if !desk.buffer.valid then desk
      else
        let (session, desk) := desk.observe session now
        if session.connection.state.isSynced && session.outbox.isIdle now && !session.deferred &&
            !desk.agenda.has .emptySyncFallback then
          let (session, buffer) := session.reconcile desk.buffer now
          { desk with session := some session, buffer }
        else desk

/-- Make the planned attempt to reconnect. -/
def runReconnect (desk : Desk ν) (now : Nat) : Desk ν :=
  match desk.session with
  | none => desk
  | some session =>
      match (desk.line session).redial now with
      | (.dialing, line) => desk.withLine session line
      | (.lost outcome, line) => (desk.withLine session line).afterLoss outcome

/-- Share one's own buffer in a session in which nothing has arrived. -/
def runEmptySyncFallback (desk : Desk ν) (now : Nat) : Desk ν :=
  match desk.session with
  | none => desk
  | some session =>
      if session.isHost || session.contentReceived then desk
      else
        let (session, desk) := desk.observe session now
        let content := Binding.shownText desk.buffer
        if Text.isBlank content then desk
        else
          let session := { session with
            replica := session.replica.setText content
            outbox := session.outbox.markPending }
          (desk.withSession session).notify .seededFromBuffer

def run (desk : Desk ν) (task : Task) (now : Nat) : Desk ν :=
  match task with
  | .flush => desk.runFlush now
  | .reconcile => desk.runReconcile now
  | .connectTimeout => desk.onConnectionLost now
  | .reconnect => desk.runReconnect now
  | .emptySyncFallback => desk.runEmptySyncFallback now

/-! ## The calls of the outside -/

/-- The next event about the session's present connection. -/
def nextEvent (desk : Desk ν) : Option (TransportEvent Update) × Desk ν :=
  match desk.session with
  | none => (none, desk)
  | some session =>
      let (envelope, line) := (desk.line session).nextEvent
      (envelope.map (·.event), desk.withLine session line)

/-- Handle an event if one waits, and else run a task if one is due. Tells whether there was
anything to do. -/
def pollOnce (desk : Desk ν) (now : Nat) : Bool × Desk ν :=
  match desk.nextEvent with
  | (some event, desk) => (true, desk.handle event now)
  | (none, desk) =>
      match desk.agenda.pop now with
      | none => (false, desk)
      | some (task, agenda) => (true, ({ desk with agenda }).run task now)

/-- Poll as long as there is anything to do, but at most so many times. -/
def pollUpTo : Nat → Desk ν → Nat → Desk ν
  | 0, desk, _ => desk
  | count + 1, desk, now =>
      match desk.pollOnce now with
      | (true, desk) => pollUpTo count desk now
      | (false, desk) => desk

/-- How many rounds a poll can take. An event can bring one more event, the answer to a request
for the state, and put one task on the agenda that is due at once; an attempt to reconnect can
bring an event; and all other tasks are due once. -/
def pollBound (desk : Desk ν) : Nat :=
  let waiting :=
    match desk.session with
    | none => 0
    | some session => (Transport.inbox desk.network session.connection.mailbox).length
  4 * waiting + 4 * desk.agenda.appointments.length + 1

/-- Handle everything that is there to be handled: events first, then the tasks that are due. -/
def poll (desk : Desk ν) (now : Nat) : Desk ν :=
  pollUpTo desk.pollBound desk now

/-- The editor has raised notifications. -/
def bufferChanged (desk : Desk ν) (now : Nat) : Desk ν :=
  match desk.session with
  | none => desk
  | some session =>
      if !desk.buffer.valid then desk.closeForInvalidBuffer
      else (desk.observe session now).2

/-- Send what is pending now, also while the user types; nothing is sent without a session that is
in sync. -/
def flushNow (desk : Desk ν) (now : Nat) : Option FlushOutcome × Desk ν :=
  match desk.session with
  | none => (none, desk)
  | some session =>
      let (session, desk) := desk.observe session now
      if session.connection.state.isSynced then
        let (outcome, session, network) := session.flush desk.network now true
        (some outcome, { desk with session := some session, network })
      else (none, desk)

end Desk

end Cowrite
