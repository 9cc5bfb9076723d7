import Cowrite.Proofs.Session.FirstState
import Cowrite.Proofs.Session.Outline
import Cowrite.Proofs.Session.Redialing

/-!
# What a session does

Which effects answer a matter is a table (`Contact.Answers`). That the table is right is shown once
(`Desk.outline_deal`), so whatever all its entries keep up, dealing with a matter does. There is a
table of what calls do to a session (`Outline.Does`, `Desk.does_perform`), and one of what becomes
of a call for a new one (`Outline.Opens`, `Desk.opens_perform`).
-/

namespace Cowrite

namespace Contact

def isHost (contact : Contact) : Bool :=
  contact.role = .host

/-- What is said when a connection that had been lost is confirmed. -/
def welcomeBack (contact : Contact) : List Effect :=
  if contact.connection.state.isReconnecting then [.tell .reconnected] else []

/-- How the state of the document is asked for. -/
inductive Asks : TransportMode → Bool → List Effect → Prop
  | asks (isHost : Bool) : Asks .relay isHost [.send .syncRequest, .reach .syncing]
  | fails (isHost : Bool) : Asks .relay isHost [.send .syncRequest, .lose]
  | waits : Asks .peerToPeer false [.reach .syncing]
  | serves : Asks .peerToPeer true []

/-- The first state after a connection was made is taken up. -/
inductive Syncs (contact : Contact) : List Effect → Prop
  | shown : Syncs contact [.resync false, .reach .synced, .tell .synced]
  | awaited (guest : contact.isHost = false) (first : contact.resync = false) :
      Syncs contact [.resync false, .reach .synced, .await, .tell .synced]

/-- An update may be sent. -/
inductive Sends : List Effect → Prop
  | nothing : Sends []
  | update (payload : Update) : Sends [.send (.update payload)]

/-- What a session does that deals with a matter. -/
inductive Answers (contact : Contact) : Matter → List Effect → Prop
  | connected (waits : contact.connection.state.isUnconfirmed = true) {requests : List Effect}
      (asks : Asks contact.mode contact.isHost requests) :
      Answers contact (.event .connected)
        ([.confirm, .resync (contact.resync || contact.connection.state.isReconnecting)] ++
          contact.welcomeBack ++ requests)
  | connectedAgain (settled : contact.connection.state.isUnconfirmed = false) :
      Answers contact (.event .connected) []
  | ready (host : contact.isHost = true) (waits : contact.connection.state.isUnconfirmed = true)
      (endpointId relayUrl : String) :
      Answers contact (.event (.ready endpointId relayUrl))
        ([.confirm] ++ contact.welcomeBack ++
          [.tell (.codeReady (Invitation.peer endpointId relayUrl).encode)])
  | readyAgain
      (settled : (contact.isHost && contact.connection.state.isUnconfirmed) = false)
      (endpointId relayUrl : String) :
      Answers contact (.event (.ready endpointId relayUrl))
        [.tell (.codeReady (Invitation.peer endpointId relayUrl).encode)]
  | syncResponse (payload : Update) {effects : List Effect} (syncs : contact.Syncs effects) :
      Answers contact (.event (.syncResponse payload)) effects
  | fullState (guest : contact.isHost = false) (payload : Update) {effects : List Effect}
      (syncs : contact.Syncs effects) : Answers contact (.event (.fullState payload)) effects
  | fullStateToHost (host : contact.isHost = true) (payload : Update) {effects : List Effect}
      (sends : Sends effects) : Answers contact (.event (.fullState payload)) effects
  | update (payload : Update) {effects : List Effect} (sends : Sends effects) :
      Answers contact (.event (.update payload)) effects
  | newcomer (host : contact.isHost = true) (direct : contact.mode = .peerToPeer) (peer : String)
      (payload : Update) :
      Answers contact (.event (.peerConnected peer))
        ([.tell (.peerJoined peer), .send (.fullState payload)] ++
          if contact.connection.state.isSynced then [] else [.reach .synced, .tell .synced])
  | peerConnected (other : ¬(contact.isHost = true ∧ contact.mode = .peerToPeer)) (peer : String) :
      Answers contact (.event (.peerConnected peer)) [.tell (.peerJoined peer)]
  | peerDisconnected (peer : String) :
      Answers contact (.event (.peerDisconnected peer)) [.tell (.peerLeft peer)]
  | hostDisconnected (peer : String) :
      Answers contact (.event (.peerDisconnected peer))
        [.reach .disconnected, .tell (.peerLeft peer)]
  | disconnected : Answers contact (.event .disconnected) [.lose]
  | error (message : String) : Answers contact (.event (.error message)) [.lose]
  | flush {effects : List Effect} (sends : Sends effects) : Answers contact (.task .flush) effects
  | bufferClosed : Answers contact (.task .flush) [.close .bufferClosed]
  | reconcile : Answers contact (.task .reconcile) []
  | connectTimeout : Answers contact (.task .connectTimeout) [.lose]
  | reconnect : Answers contact (.task .reconnect) [.dial]
  | nothingToShare : Answers contact (.task .emptySyncFallback) []
  | seeded : Answers contact (.task .emptySyncFallback) [.tell .seededFromBuffer]

/-- The contact of a session that is about to connect for the first time. -/
structure IsNew (contact : Contact) (settings : Settings) : Prop where
  client : contact.connection.client = none
  state : contact.connection.state = .disconnected
  staying : contact.connection.leaving = false
  backoff : contact.connection.backoff = settings.backoff
  timeout : contact.connection.timeout = settings.connectTimeout
  valid : settings.validate = .ok ()

end Contact

namespace Outline

variable {ν : Type} [Transport ν]

/-- What a round of polling takes to deal with, and what it leaves. -/
inductive Takes (outline : Outline ν) (contact : Contact) (now : Nat) :
    Option Matter → Outline ν → Prop
  | event (event : TransportEvent Update) (client : contact.connection.client ≠ none)
      (count : Nat) :
      Takes outline contact now (some (.event event)) { outline with
        network := Transport.discard outline.network contact.connection.mailbox count }
  | task (task : Task) (agenda : Agenda) (popped : outline.agenda.pop now = some (task, agenda))
      (count : Nat) :
      Takes outline contact now (some (.task task)) { outline with
        agenda
        network := Transport.discard outline.network contact.connection.mailbox count }
  | nothing (count : Nat) :
      Takes outline contact now none { outline with
        network := Transport.discard outline.network contact.connection.mailbox count }

/-- What a call does to a session that is there. -/
inductive Does (outline : Outline ν) (now : Nat) : Call → Outline ν → Prop
  | nothing (call : Call) : Does outline now call outline
  | bufferClosed : Does outline now .bufferChanged (outline.close .bufferClosed)
  | flushNow {effects : List Effect} (sends : Contact.Sends effects) :
      Does outline now .flushNow (outline.run now effects)
  | leave : Does outline now .leave (outline.close .left)
  | takeNotices : Does outline now .takeNotices { outline with notices := [] }
  | vanish (network : ν) : Does outline now .vanish { outline with
      contact := none
      agenda := {}
      network }

/-- A session is about to connect for the first time. -/
def prepared (outline : Outline ν) (contact : Contact) : Outline ν :=
  { outline with
    contact := some contact
    network := (Transport.openBox outline.network).2 }

/-- What becomes of a call for a new session: it is declined, or the transport refuses to connect,
or the clock cannot tell the periodic tasks, or the session begins. -/
inductive Opens (outline : Outline ν) (now : Nat) : Outline ν → Prop
  | declined : Opens outline now outline
  | refused {contact : Contact} (isNew : contact.IsNew outline.settings) {error : TransportError}
      {network : ν}
      (answers : (outline.prepared contact).answer contact = (.error error, network)) :
      Opens outline now { outline with
        contact := none
        agenda := {}
        network := Transport.closeBox network contact.connection.mailbox }
  | abandoned {contact called : Contact} (isNew : contact.IsNew outline.settings) {network : ν}
      (answers : (outline.prepared contact).answer contact = (.ok (), network))
      (present : ((outline.prepared contact).calling contact network now).contact = some called) :
      Opens outline now (((outline.prepared contact).calling contact network now).stop called)
  | begun {contact : Contact} (isNew : contact.IsNew outline.settings) {network : ν}
      (answers : (outline.prepared contact).answer contact = (.ok (), network)) {clock : Clock}
      {agenda : Agenda}
      (plans : Desk.periodic outline.settings clock
        ((outline.prepared contact).calling contact network now).agenda now = .ok agenda)
      (role : Role) (code : Option String) :
      Opens outline now (({ (outline.prepared contact).calling contact network now with agenda } :
        Outline ν).tell (.started role code))

end Outline

/-! ## The table is right -/

namespace Desk

variable {ν : Type} {desk after : Desk ν} {session later : Session} {now : Nat}

def outline (desk : Desk ν) : Outline ν where
  settings := desk.settings
  contact := desk.session.map Session.contact
  agenda := desk.agenda
  notices := desk.notices
  network := desk.network

theorem contact_outline (present : desk.session = some session) :
    desk.outline.contact = some session.contact := by
  rw [outline, present]
  rfl

theorem outline_notify (desk : Desk ν) (notice : Notice) :
    (desk.notify notice).outline = desk.outline.tell notice :=
  rfl

theorem outline_of_network (present : desk.session = some session)
    (next : after.session = some later) (contact : later.contact = session.contact)
    (settings : after.settings = desk.settings) (agenda : after.agenda = desk.agenda)
    (notices : after.notices = desk.notices) :
    after.outline = { desk.outline with network := after.network } := by
  simp only [outline, present, next, Option.map_some, contact, settings, agenda, notices]

/-- The document, the buffer and the peers are not in the outline. -/
theorem outline_of_same (present : desk.session = some session) (next : after.session = some later)
    (contact : later.contact = session.contact) (settings : after.settings = desk.settings)
    (agenda : after.agenda = desk.agenda) (notices : after.notices = desk.notices)
    (network : after.network = desk.network) : after.outline = desk.outline := by
  rw [outline_of_network present next contact settings agenda notices, network]
  rfl

theorem contact_displayOrDefer (session : Session) (buffer : Buffer) (now : Nat) :
    (session.displayOrDefer buffer now).1.contact = session.contact := by
  rw [Session.displayOrDefer]
  split
  · rfl
  · rfl

theorem contact_informed (session : Session) (payload : Update) :
    (informed session payload).contact =
      { session.contact with
        resync := false
        connection := { session.connection with state := .synced } } := by
  rw [informed, settleOutbox_eq, receiveState_eq]
  rfl

/-- Whoever waits before sharing is a guest, and has not lost a connection. -/
theorem guest_of_awaitsFallback {payload : Update}
    (awaits : awaitsFallback session payload = true) :
    session.isHost = false ∧ session.resync = false := by
  rw [awaitsFallback, settleOutbox_eq, receiveState_eq] at awaits
  simp only [Bool.and_eq_true, Bool.not_eq_true'] at awaits
  exact ⟨awaits.1.1.1, awaits.1.1.2⟩

theorem valid_of_obstacle? {desk : Desk ν} (free : desk.obstacle? = none) :
    desk.settings.validate = .ok () := by
  rw [obstacle?] at free
  split at free
  · cases free
  · split at free
    · cases free
    · assumption

theorem outline_runReconcile (present : desk.session = some session) (now : Nat) :
    (desk.runReconcile now).outline = desk.outline := by
  rw [runReconcile, present]
  simp only
  split
  · rfl
  · split
    · exact outline_of_same present rfl rfl rfl rfl rfl rfl
    · exact outline_of_same present rfl rfl rfl rfl rfl rfl

variable [Transport ν]

theorem outline_onInitialState (present : desk.session = some session) (payload : Update)
    (now : Nat) :
    ∃ effects, session.contact.Syncs effects ∧
      (desk.onInitialState payload now).outline = desk.outline.run now effects := by
  have informs : (desk.outline.act now (.resync false)).act now (.reach .synced) =
      { desk.outline with
        contact := some (informed (desk.observe session now).1 payload).contact } := by
    simp only [Outline.act, Outline.onLine, contact_outline present, contact_informed]
    rfl
  rw [onInitialState_of_present present]
  split
  case isTrue awaits =>
    rcases guest_of_awaitsFallback awaits with ⟨guest, first⟩
    refine ⟨_, .awaited guest first, ?_⟩
    simp only [Outline.run_cons, informs]
    rfl
  case isFalse =>
    refine ⟨_, .shown, ?_⟩
    simp only [Outline.run_cons, informs]
    rw [← contact_displayOrDefer _ (desk.observe session now).2.buffer now]
    rfl

/-- To flush sends an update or nothing. -/
theorem exists_of_flush (sender : Session) (line : Line ν)
    (connection : sender.connection = line.connection) (now : Nat) (force : Bool) :
    (sender.flush line.network now force).2.2 = line.network ∨
      ∃ update, (sender.flush line.network now force).2.2 =
        (line.send (.update update)).2.network := by
  simp only [Session.flush]
  rcases Outbox.flush_state sender.outbox sender.replica now force _ line.network with
    kept | ⟨update, sent⟩
  · exact .inl kept
  · refine .inr ⟨update, sent.trans ?_⟩
    rw [Line.send, connection]
    cases line.connection.client with
    | none => rfl
    | some own => rfl

theorem outline_flush (present : desk.session = some session)
    (next : after.session = some later) (contact : later.contact = session.contact)
    (settings : after.settings = desk.settings) (agenda : after.agenda = desk.agenda)
    (notices : after.notices = desk.notices) {sender : Session}
    (same : sender.connection = session.connection) {force : Bool}
    (network : after.network = (sender.flush desk.network now force).2.2) :
    ∃ effects, Contact.Sends effects ∧ after.outline = desk.outline.run now effects := by
  have sends := outline_of_network present next contact settings agenda notices
  rcases exists_of_flush sender (desk.line session) same now force with
    kept | ⟨update, sent⟩
  · refine ⟨[], .nothing, ?_⟩
    rw [sends, network.trans kept]
    rfl
  · refine ⟨_, .update update, ?_⟩
    rw [sends, network.trans sent, Outline.run_cons, Outline.run_nil,
      Outline.act_send (contact_outline present)]
    rfl

theorem outline_onRemoteUpdate (present : desk.session = some session) (payload : Update)
    (now : Nat) :
    ∃ effects, Contact.Sends effects ∧
      (desk.onRemoteUpdate payload now).outline = desk.outline.run now effects := by
  let sender := (desk.observe session now).1
  have same : sender.connection = session.connection := rfl
  cases applied : (desk.observe session now).1.replica.apply payload with
  | error error =>
      rw [onRemoteUpdate_of_refused present applied]
      exact outline_flush present rfl rfl rfl rfl rfl same rfl
  | ok replica =>
      rw [onRemoteUpdate_of_taken present applied]
      refine outline_flush present rfl ?_ rfl rfl rfl same rfl
      exact contact_displayOrDefer _ _ _

theorem outline_tearDown (present : desk.session = some session) (notice : Notice) :
    (desk.tearDown.notify notice).outline = desk.outline.close notice := by
  rw [tearDown, present, Outline.close, contact_outline present]
  rfl

theorem outline_runFlush (present : desk.session = some session) (now : Nat) :
    (∃ effects, Contact.Sends effects ∧
        (desk.runFlush now).outline = desk.outline.run now effects) ∨
      (desk.runFlush now).outline = desk.outline.run now [.close .bufferClosed] := by
  cases valid : desk.buffer.valid with
  | false =>
      right
      rw [runFlush, present]
      simp only [valid, Bool.not_false, if_true]
      exact outline_tearDown present .bufferClosed
  | true =>
      left
      have shown : (if (desk.flushed session now).1.deferred &&
          (desk.flushed session now).1.outbox.isIdle now then
        (desk.flushed session now).1.display (desk.observe session now).2.buffer now
        else ((desk.flushed session now).1, (desk.observe session now).2.buffer)).1.contact =
          session.contact := by
        split
        · rw [flushed_eq]
          rfl
        · rw [flushed_eq]
          rfl
      rw [runFlush_of_valid present valid]
      by_cases synced : (desk.observe session now).1.connection.state.isSynced = true
      · let sender := (desk.observe session now).1
        have same : sender.connection = session.connection := rfl
        have sends : (desk.flushed session now).2 = (sender.flush desk.network now false).2.2 := by
          rw [flushed, if_pos synced]
          rfl
        exact outline_flush present rfl shown rfl rfl rfl same sends
      · have keeps : (desk.flushed session now).2 = desk.network := by
          rw [flushed, if_neg synced]
        exact ⟨[], .nothing, outline_of_same present rfl shown rfl rfl rfl keeps⟩

/-! ### The connection -/

theorem outline_afterLoss (present : desk.session = some session) (outcome : LossOutcome) :
    (desk.afterLoss outcome).outline = desk.outline.afterLoss outcome := by
  cases outcome with
  | ignored => rfl
  | scheduled attempt delay => rfl
  | exhausted attempts => exact outline_tearDown present (.failed attempts)

theorem outline_onConnectionLost (present : desk.session = some session) (now : Nat) :
    (desk.onConnectionLost now).outline = desk.outline.lose now := by
  rw [onConnectionLost, present, Outline.lose, contact_outline present]
  exact outline_afterLoss rfl _

theorem outline_runReconnect (present : desk.session = some session) (now : Nat) :
    (desk.runReconnect now).outline = desk.outline.dial now := by
  have same : desk.outline.line session.contact = desk.line session := rfl
  rw [runReconnect, present, Outline.dial, contact_outline present]
  simp only [same]
  rcases (desk.line session).redial now with ⟨outcome, line⟩
  cases outcome with
  | dialing => rfl
  | lost outcome => exact outline_afterLoss rfl outcome

theorem outline_requestState (present : desk.session = some session) (now : Nat) :
    ∃ effects, Contact.Asks session.mode session.isHost effects ∧
      (desk.requestState session now).outline = desk.outline.run now effects := by
  have same : desk.outline.line session.contact = desk.line session := rfl
  rw [requestState]
  cases session.mode with
  | relay =>
      rcases (desk.line session).exists_send .syncRequest with ⟨result, network, sends⟩
      have sent : desk.outline.act now (.send .syncRequest) =
          (desk.withLine session { desk.line session with network }).outline := by
        have next : (desk.withLine session { desk.line session with network }).session =
            some session := rfl
        rw [Outline.act_send (contact_outline present), same, sends,
          outline_of_network present next rfl rfl rfl rfl]
        rfl
      simp only [sends]
      cases result with
      | ok done =>
          refine ⟨_, .asks _, ?_⟩
          rw [Outline.run_cons, sent]
          rfl
      | error error =>
          refine ⟨_, .fails _, ?_⟩
          rw [Outline.run_cons, sent]
          exact outline_onConnectionLost rfl now
  | peerToPeer =>
      cases session.isHost with
      | true => exact ⟨[], .serves, rfl⟩
      | false =>
          refine ⟨_, .waits, ?_⟩
          simp only [Outline.run_cons, Outline.act, Outline.onLine, contact_outline present]
          rfl

/-- What is said when a connection that had been lost is confirmed. -/
theorem outline_welcomeBack (desk : Desk ν) (contact : Contact) (now : Nat) :
    (if contact.connection.state.isReconnecting then desk.notify .reconnected else desk).outline =
      desk.outline.run now contact.welcomeBack := by
  rw [Contact.welcomeBack]
  split
  · rfl
  · rfl

theorem outline_onConnected (present : desk.session = some session) (now : Nat) :
    ∃ effects, session.contact.Answers (.event .connected) effects ∧
      (desk.onConnected now).outline = desk.outline.run now effects := by
  cases waits : session.connection.state.isUnconfirmed with
  | false =>
      refine ⟨[], .connectedAgain waits, ?_⟩
      rw [onConnected, present]
      simp [waits]
  | true =>
      let kept : Session := { session with
        connection := (desk.line session).confirm.2.connection
        resync := session.resync || session.connection.state.isReconnecting }
      let confirmed : Desk ν := desk.withLine kept (desk.line session).confirm.2
      let welcomed : Desk ν := if session.contact.connection.state.isReconnecting then
        confirmed.notify .reconnected else confirmed
      have opens : desk.onConnected now = welcomed.requestState kept now := by
        rw [onConnected, present]
        exact if_pos waits
      have still : welcomed.session = some kept := by
        simp only [welcomed]
        split
        · rfl
        · rfl
      have confirms : confirmed.outline =
          desk.outline.run now [.confirm, .resync kept.resync] := by
        simp only [Outline.run_cons, Outline.act, Outline.onLine, contact_outline present]
        rfl
      rcases outline_requestState still now with ⟨effects, asks, requested⟩
      refine ⟨_, .connected waits asks, ?_⟩
      have welcomes : welcomed.outline = _ := outline_welcomeBack confirmed session.contact now
      rw [welcomes, confirms] at requested
      rw [Outline.run_append, Outline.run_append, opens]
      exact requested

theorem outline_onReady (present : desk.session = some session) (endpointId relayUrl : String)
    (now : Nat) :
    ∃ effects, session.contact.Answers (.event (.ready endpointId relayUrl)) effects ∧
      (desk.onReady endpointId relayUrl).outline = desk.outline.run now effects := by
  let kept : Session := { session with invitation := some (Invitation.peer endpointId relayUrl) }
  have readies : desk.onReady endpointId relayUrl =
      (if session.contact.isHost && session.contact.connection.state.isUnconfirmed then
        if session.contact.connection.state.isReconnecting then
          (desk.withLine kept (desk.line session).confirm.2).notify .reconnected
        else desk.withLine kept (desk.line session).confirm.2
      else desk.withSession kept).notify
        (.codeReady (Invitation.peer endpointId relayUrl).encode) := by
    rw [onReady, present]
    rfl
  rw [readies, outline_notify]
  cases waits : session.contact.isHost && session.contact.connection.state.isUnconfirmed with
  | false =>
      refine ⟨_, .readyAgain waits endpointId relayUrl, ?_⟩
      have same : (desk.withSession kept).outline = desk.outline :=
        outline_of_same present rfl rfl rfl rfl rfl rfl
      simp only [Bool.false_eq_true, if_false, same]
      rfl
  | true =>
      rcases Bool.and_eq_true_iff.1 waits with ⟨host, unconfirmed⟩
      refine ⟨_, .ready host unconfirmed endpointId relayUrl, ?_⟩
      have confirms : (desk.withLine kept (desk.line session).confirm.2).outline =
          desk.outline.run now [.confirm] := by
        simp only [Outline.run_cons, Outline.act, Outline.onLine, contact_outline present]
        rfl
      rw [if_pos rfl, outline_welcomeBack _ _ now, confirms, Outline.run_append,
        Outline.run_append]
      rfl

/-! ### Peers -/

theorem outline_welcomePeer (present : desk.session = some session) (now : Nat) :
    (desk.welcomePeer session now).outline =
      desk.outline.run now (.send (.fullState (desk.observe session now).1.replica.fullState) ::
        if session.connection.state.isSynced then [] else [.reach .synced, .tell .synced]) := by
  rcases Line.exists_send ((desk.observe session now).2.line (desk.observe session now).1)
    (.fullState (desk.observe session now).1.replica.fullState) with ⟨result, network, sends⟩
  let observed := (desk.observe session now).1
  let there := (desk.observe session now).2
  let line : Line ν := { there.line observed with network }
  have settles (outbox : Outbox) :
      (if session.connection.state.isSynced then there.withLine { observed with outbox } line
        else (there.withLine { observed with outbox } (line.withState .synced)).notify .synced
        ).outline =
      ({ desk.outline with network } : Outline ν).run now
        (if session.connection.state.isSynced then [] else [.reach .synced, .tell .synced]) := by
    split
    · have next : (there.withLine { observed with outbox } line).session =
          some { observed with outbox } := rfl
      exact outline_of_network present next rfl rfl rfl rfl
    · simp only [Outline.run_cons, Outline.act, Outline.onLine, contact_outline present]
      rfl
  have same : desk.outline.line session.contact =
      (desk.observe session now).2.line (desk.observe session now).1 := rfl
  rw [Outline.run_cons, Outline.act_send (contact_outline present), same, welcomePeer]
  simp only [sends]
  cases result with
  | ok done => exact settles _
  | error error => exact settles observed.outbox

theorem outline_onPeerConnected (present : desk.session = some session) (peer : String)
    (now : Nat) :
    ∃ effects, session.contact.Answers (.event (.peerConnected peer)) effects ∧
      (desk.onPeerConnected peer now).outline = desk.outline.run now effects := by
  let joined : Session := { session with peers := Session.insertPeer peer session.peers }
  let told : Desk ν := (desk.withSession joined).notify (.peerJoined peer)
  have joins : told.outline = desk.outline.act now (.tell (.peerJoined peer)) := by
    have same : (desk.withSession joined).outline = desk.outline :=
      outline_of_same present rfl rfl rfl rfl rfl rfl
    rw [outline_notify, same]
    rfl
  rw [onPeerConnected, present]
  by_cases hosts : session.contact.isHost = true ∧ session.contact.mode = .peerToPeer
  · let payload := (told.observe joined now).1.replica.fullState
    refine ⟨_, .newcomer hosts.1 hosts.2 peer payload, ?_⟩
    rw [List.cons_append, Outline.run_cons, ← joins]
    refine (congrArg Desk.outline (if_pos ?_)).trans (outline_welcomePeer rfl now)
    exact Bool.and_eq_true_iff.2 ⟨hosts.1, decide_eq_true hosts.2⟩
  · refine ⟨_, .peerConnected hosts peer, ?_⟩
    refine (congrArg Desk.outline (if_neg fun both => hosts ?_)).trans joins
    exact (Bool.and_eq_true_iff.1 both).imp_right of_decide_eq_true

theorem outline_onPeerDisconnected (present : desk.session = some session) (peer : String)
    (now : Nat) :
    ∃ effects, session.contact.Answers (.event (.peerDisconnected peer)) effects ∧
      (desk.onPeerDisconnected peer).outline = desk.outline.run now effects := by
  rw [onPeerDisconnected, present]
  simp only [outline_notify]
  split
  · refine ⟨_, .hostDisconnected peer, ?_⟩
    simp only [Outline.run_cons, Outline.act, Outline.onLine, contact_outline present]
    rfl
  · refine ⟨_, .peerDisconnected peer, congrArg (Outline.tell · _) ?_⟩
    exact outline_of_same present rfl rfl rfl rfl rfl rfl

theorem outline_handle (present : desk.session = some session) (event : TransportEvent Update)
    (now : Nat) :
    ∃ effects, session.contact.Answers (.event event) effects ∧
      (desk.handle event now).outline = desk.outline.run now effects := by
  cases event with
  | connected => exact outline_onConnected present now
  | disconnected => exact ⟨_, .disconnected, outline_onConnectionLost present now⟩
  | syncResponse payload =>
      rcases outline_onInitialState present payload now with ⟨effects, syncs, told⟩
      exact ⟨effects, .syncResponse payload syncs, told⟩
  | update payload =>
      rcases outline_onRemoteUpdate present payload now with ⟨effects, sends, told⟩
      exact ⟨effects, .update payload sends, told⟩
  | fullState payload =>
      rw [handle, present]
      cases host : session.contact.isHost with
      | true =>
          rcases outline_onRemoteUpdate present payload now with ⟨effects, sends, told⟩
          refine ⟨effects, .fullStateToHost host payload sends, ?_⟩
          exact (congrArg outline (if_pos host)).trans told
      | false =>
          rcases outline_onInitialState present payload now with ⟨effects, syncs, told⟩
          refine ⟨effects, .fullState host payload syncs, ?_⟩
          exact (congrArg outline (if_neg (ne_true_of_eq_false host))).trans told
  | error message => exact ⟨_, .error message, outline_onConnectionLost present now⟩
  | peerConnected peer => exact outline_onPeerConnected present peer now
  | peerDisconnected peer => exact outline_onPeerDisconnected present peer now
  | ready endpointId relayUrl => exact outline_onReady present endpointId relayUrl now

theorem outline_runEmptySyncFallback (present : desk.session = some session) (now : Nat) :
    ∃ effects, session.contact.Answers (.task .emptySyncFallback) effects ∧
      (desk.runEmptySyncFallback now).outline = desk.outline.run now effects := by
  rw [runEmptySyncFallback, present]
  simp only
  split
  · exact ⟨[], .nothingToShare, rfl⟩
  · split
    · exact ⟨[], .nothingToShare, outline_of_same present rfl rfl rfl rfl rfl rfl⟩
    · refine ⟨_, .seeded, ?_⟩
      refine (outline_notify _ _).trans (congrArg (Outline.tell · .seededFromBuffer) ?_)
      exact outline_of_same present rfl rfl rfl rfl rfl rfl

theorem outline_run (present : desk.session = some session) (task : Task) (now : Nat) :
    ∃ effects, session.contact.Answers (.task task) effects ∧
      (desk.run task now).outline = desk.outline.run now effects := by
  cases task with
  | flush =>
      rcases outline_runFlush present now with ⟨effects, sends, told⟩ | closed
      · exact ⟨effects, .flush sends, told⟩
      · exact ⟨_, .bufferClosed, closed⟩
  | reconcile => exact ⟨[], .reconcile, outline_runReconcile present now⟩
  | connectTimeout => exact ⟨_, .connectTimeout, outline_onConnectionLost present now⟩
  | reconnect => exact ⟨_, .reconnect, outline_runReconnect present now⟩
  | emptySyncFallback => exact outline_runEmptySyncFallback present now

/-- Whatever a session deals with, it does what the table says. -/
theorem outline_deal (present : desk.session = some session) (matter : Matter) (now : Nat) :
    ∃ effects, session.contact.Answers matter effects ∧
      (desk.deal matter now).outline = desk.outline.run now effects := by
  cases matter with
  | event event => exact outline_handle present event now
  | task task => exact outline_run present task now

/-! ## Rounds -/

theorem outline_nextEvent (present : desk.session = some session) :
    ∃ count, desk.nextEvent.2.outline = { desk.outline with
      network := Transport.discard desk.network session.connection.mailbox count } := by
  have next : (desk.withLine session (desk.line session).nextEvent.2).session = some session := rfl
  rw [nextEvent, present]
  exact ⟨_, outline_of_network present next rfl rfl rfl rfl⟩

theorem outline_takeMatter (present : desk.session = some session) (now : Nat) :
    desk.outline.Takes session.contact now (desk.takeMatter now).1
      (desk.takeMatter now).2.outline := by
  rcases outline_nextEvent present with ⟨count, looked⟩
  have same : desk.nextEvent.2.agenda = desk.agenda := congrArg Outline.agenda looked
  rcases desk.takeMatter_cases now with
    ⟨event, taken, _⟩ | ⟨task, agenda, popped, taken, _⟩ | ⟨taken, _⟩
  · rcases client_of_takeMatter (congrArg Prod.fst taken) with ⟨_, there, client⟩
    cases present.symm.trans there
    rw [taken, looked]
    exact .event event client count
  · rw [same] at popped
    rw [taken]
    have next : ({ desk.nextEvent.2 with agenda } : Desk ν).outline = { desk.outline with
        agenda
        network := Transport.discard desk.network session.connection.mailbox count } :=
      congrArg (fun outline : Outline ν => { outline with agenda }) looked
    rw [next]
    exact .task task agenda popped count
  · rw [taken, looked]
    exact .nothing count

/-- A round of a session takes a matter, if there is one, and answers it. -/
theorem outline_pollOnce (present : desk.session = some session) (now : Nat) :
    ((desk.takeMatter now).1 = none ∧
        (desk.pollOnce now).2.outline = (desk.takeMatter now).2.outline) ∨
      ∃ matter effects, (desk.takeMatter now).1 = some matter ∧
        session.contact.Answers matter effects ∧
          (desk.pollOnce now).2.outline = (desk.takeMatter now).2.outline.run now effects := by
  cases found : (desk.takeMatter now).1 with
  | none =>
      left
      rw [pollOnce_of_none found]
      exact ⟨rfl, rfl⟩
  | some matter =>
      right
      rw [pollOnce_of_matter found]
      rcases outline_deal (session_takeMatter present now) matter now with ⟨effects, answers, dealt⟩
      exact ⟨matter, effects, rfl, answers, dealt⟩

/-! ## Calls -/

theorem outline_bufferChanged (present : desk.session = some session) (now : Nat) :
    (desk.bufferChanged now).outline = desk.outline ∨
      (desk.bufferChanged now).outline = desk.outline.close .bufferClosed := by
  rw [bufferChanged, present]
  simp only
  split
  · exact .inr (outline_tearDown present .bufferClosed)
  · exact .inl (outline_of_same present rfl rfl rfl rfl rfl rfl)

theorem outline_flushNow (present : desk.session = some session) (now : Nat) :
    ∃ effects, Contact.Sends effects ∧
      (desk.flushNow now).2.outline = desk.outline.run now effects := by
  let sender := (desk.observe session now).1
  have same : sender.connection = session.connection := rfl
  rw [flushNow, present]
  simp only
  split
  · exact outline_flush present rfl rfl rfl rfl rfl same rfl
  · exact ⟨[], .nothing, outline_of_same present rfl rfl rfl rfl rfl rfl⟩

theorem outline_leave (present : desk.session = some session) :
    desk.leave.2.outline = desk.outline.close .left := by
  rw [leave, present]
  exact outline_tearDown present .left

theorem does_perform (present : desk.session = some session) {call : Call} (single : call ≠ .poll)
    (now : Nat) : desk.outline.Does now call (call.perform desk now).outline := by
  cases call with
  | takeNotices => exact .takeNotices
  | host target draws =>
      rw [perform_of_present present (by simp [Call.number?])]
      exact .nothing _
  | join code replica =>
      rw [perform_of_present present (by simp [Call.number?])]
      exact .nothing _
  | bufferChanged =>
      rcases outline_bufferChanged present now with same | closed
      · rw [Call.perform, same]
        exact .nothing _
      · rw [Call.perform, closed]
        exact .bufferClosed
  | flushNow =>
      rcases outline_flushNow present now with ⟨effects, sends, flushed⟩
      rw [Call.perform, flushed]
      exact .flushNow sends
  | poll => exact absurd rfl single
  | leave =>
      rw [Call.perform, outline_leave present]
      exact .leave
  | vanish =>
      rw [Call.perform, vanish, present]
      exact .vanish _

/-- A session that has been prepared begins, or is given up without a word. -/
theorem opens_start {α : Type} (free : desk.obstacle? = none) (role : Role) (target : ConnectTarget)
    (key : Option SessionKey) (invitation : Option Invitation) (replica : Replica) (outbox : Outbox)
    (now : Nat) (done : α) (code : Option String) :
    let opening := desk.prepare role target key invitation replica outbox now
    desk.outline.Opens now
      (match opening.2.start opening.1 now with
        | (.error error, desk) => (Except.error error, desk)
        | (.ok (), desk) => (.ok done, desk.notify (.started role code))).2.outline := by
  intro opening
  have isNew : opening.1.contact.IsNew desk.outline.settings :=
    ⟨rfl, rfl, rfl, rfl, rfl, valid_of_obstacle? free⟩
  have connects : (opening.2.line opening.1).connect now = _ :=
    (desk.outline.prepared opening.1.contact).connect_line opening.1.contact now
  rw [start, connects]
  rcases answers : (desk.outline.prepared opening.1.contact).answer opening.1.contact with
    ⟨result, network⟩
  cases result with
  | error error => exact .refused isNew answers
  | ok done =>
      simp only
      cases plans : periodic opening.2.settings opening.2.clock
          ((desk.outline.prepared opening.1.contact).agenda.once .connectTimeout
            opening.1.contact.connection.timeout now) now with
      | error error => exact .abandoned isNew answers rfl
      | ok agenda => exact .begun isNew answers plans role code

theorem opens_host (desk : Desk ν) (target : HostTarget) (draws : Draws) (now : Nat) :
    desk.outline.Opens now (desk.host target draws now).2.outline := by
  rw [host]
  cases free : desk.obstacle? with
  | none =>
      simp only
      split
      · exact .declined
      · split
        · exact .declined
        · exact opens_start free .host _ _ _ _ _ now _ _
  | some _ => exact .declined

theorem opens_join (desk : Desk ν) (code : String) (replica : ReplicaId) (now : Nat) :
    desk.outline.Opens now (desk.join code replica now).2.outline := by
  rw [join]
  cases free : desk.obstacle? with
  | none =>
      simp only
      split
      · exact .declined
      · split
        · exact .declined
        · exact opens_start free .joiner _ _ _ _ _ now _ _
  | some _ => exact .declined

/-- A call for a new session. -/
theorem opens_perform {call : Call} (begins : call.number? ≠ none) (desk : Desk ν) (now : Nat) :
    desk.outline.Opens now (call.perform desk now).outline := by
  cases call with
  | host target draws => exact opens_host desk target draws now
  | join code replica => exact opens_join desk code replica now
  | _ => exact absurd rfl begins

end Desk

end Cowrite
