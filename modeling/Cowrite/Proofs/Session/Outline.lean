import Cowrite.Proofs.Session.Tending
import Cowrite.Session.Desk

/-!
# Outlines of a session

Of all that happens in a session, the connection, the agenda, the notices and the transport see only
a few effects: the connection is confirmed, lost, made again or closed, its state changes, a message
is sent, a task is planned, the user is told something. An `Outline` is a desk without the document,
the buffer and the peers, and `Outline.act` says what each effect does to it.

To lose a connection and to make it again are the two effects that need cases: a loss may not count
(`Outline.lose_of_ignores`, `Outline.lose_of_counts`), and an attempt may be lost at once
(`Outline.dial_of_staying`).
-/

namespace Cowrite

/-- What a session shows of itself to its transport. -/
structure Contact where
  role : Role
  mode : TransportMode
  resync : Bool
  connection : Connection

def Session.contact (session : Session) : Contact where
  role := session.role
  mode := session.mode
  resync := session.resync
  connection := session.connection

structure Outline (ν : Type) where
  settings : Settings
  contact : Option Contact
  agenda : Agenda
  notices : List Notice
  network : ν

inductive Effect where
  | tell (notice : Notice)
  | resync (isDue : Bool)
  | reach (state : ConnectionState)
  | confirm
  | send (message : OutboundMessage Update)
  /-- Wait before one's own buffer is shared. -/
  | await
  | lose
  | dial
  | close (notice : Notice)

namespace Line

variable {ν : Type} [Transport ν]

theorem hangUp_withAgenda (line : Line ν) (agenda : Agenda) :
    ({ line with agenda } : Line ν).hangUp =
      { connection := { line.connection with client := none }
        agenda
        network := line.hangUp.network } := by
  rcases line with ⟨connection, before, network⟩
  rw [hangUp, hangUp]
  cases client : connection.client with
  | none =>
      rcases connection
      cases client
      rfl
  | some own => rfl

/-- A loss that counts. -/
theorem lose_of_counts (line : Line ν)
    (counts : (line.connection.leaving || line.agenda.has .reconnect ||
      decide (line.connection.state = .failed)) = false) (now : Nat) :
    let hung (state : ConnectionState) (agenda : Agenda) : Line ν :=
      { connection := { line.connection with
          client := none
          state
          attempts := Connection.nextAttempt line.connection.attempts }
        agenda
        network := line.hangUp.network }
    let attempt := Connection.nextAttempt line.connection.attempts
    let delay := line.connection.backoff.delay attempt
    let agenda := line.agenda.cancel .connectTimeout
    line.lose now =
      if attempt ≤ line.connection.backoff.maxAttempts then
        (.scheduled attempt delay, hung (.reconnecting attempt) (agenda.once .reconnect delay now))
      else (.exhausted line.connection.backoff.maxAttempts, hung .failed agenda) := by
  simp only [lose, counts, hangUp_withAgenda, Bool.false_eq_true, if_false]
  split
  case isTrue late => rw [if_neg (Nat.not_le.2 late)]
  case isFalse inTime => rw [if_pos (Nat.not_lt.1 inTime)]

end Line

namespace Outline

variable {ν : Type}

def line (outline : Outline ν) (contact : Contact) : Line ν where
  connection := contact.connection
  agenda := outline.agenda
  network := outline.network

def withLine (outline : Outline ν) (contact : Contact) (line : Line ν) : Outline ν :=
  { outline with
    contact := some { contact with connection := line.connection }
    agenda := line.agenda
    network := line.network }

def onLine (outline : Outline ν) (change : Line ν → Line ν) : Outline ν :=
  match outline.contact with
  | none => outline
  | some contact => outline.withLine contact (change (outline.line contact))

def tell (outline : Outline ν) (notice : Notice) : Outline ν :=
  { outline with notices := outline.notices ++ [notice] }

variable [Transport ν]

def stop (outline : Outline ν) (contact : Contact) : Outline ν :=
  { outline with
    contact := none
    agenda := {}
    network :=
      Transport.closeBox (outline.line contact).shutDown.network
        (outline.line contact).shutDown.connection.mailbox }

/-- End the session and say why. -/
def close (outline : Outline ν) (notice : Notice) : Outline ν :=
  match outline.contact with
  | none => outline
  | some contact => (outline.stop contact).tell notice

def afterLoss (outline : Outline ν) : LossOutcome → Outline ν
  | .ignored => outline
  | .scheduled attempt delay =>
      outline.tell (.reconnecting attempt outline.settings.maxReconnects delay)
  | .exhausted attempts => outline.close (.failed attempts)

def lose (outline : Outline ν) (now : Nat) : Outline ν :=
  match outline.contact with
  | none => outline
  | some contact =>
      let (outcome, line) := (outline.line contact).lose now
      (outline.withLine contact line).afterLoss outcome

def dial (outline : Outline ν) (now : Nat) : Outline ν :=
  match outline.contact with
  | none => outline
  | some contact =>
      match (outline.line contact).redial now with
      | (.dialing, line) => outline.withLine contact line
      | (.lost outcome, line) => (outline.withLine contact line).afterLoss outcome

def act (outline : Outline ν) (now : Nat) : Effect → Outline ν
  | .tell notice => outline.tell notice
  | .resync isDue =>
      { outline with
        contact := outline.contact.map fun contact => { contact with resync := isDue } }
  | .reach state => outline.onLine (·.withState state)
  | .confirm => outline.onLine (·.confirm.2)
  | .send message => outline.onLine fun line => (line.send message).2
  | .await =>
      { outline with
        agenda := outline.agenda.once .emptySyncFallback outline.settings.emptySyncWait now }
  | .lose => outline.lose now
  | .dial => outline.dial now
  | .close notice => outline.close notice

def run (outline : Outline ν) (now : Nat) (effects : List Effect) : Outline ν :=
  effects.foldl (·.act now ·) outline

@[simp]
theorem run_nil (outline : Outline ν) (now : Nat) : outline.run now [] = outline :=
  rfl

@[simp]
theorem run_cons (outline : Outline ν) (now : Nat) (effect : Effect) (effects : List Effect) :
    outline.run now (effect :: effects) = (outline.act now effect).run now effects :=
  rfl

theorem run_append (outline : Outline ν) (now : Nat) (first second : List Effect) :
    outline.run now (first ++ second) = (outline.run now first).run now second :=
  List.foldl_append

variable {outline : Outline ν} {contact : Contact}

theorem act_send (present : outline.contact = some contact) (now : Nat)
    (message : OutboundMessage Update) :
    outline.act now (.send message) =
      { outline with network := ((outline.line contact).send message).2.network } := by
  rcases (outline.line contact).exists_send message with ⟨result, network, sends⟩
  rcases outline with ⟨settings, held, agenda, notices, before⟩
  cases present
  simp only [act, onLine, sends]
  rfl

/-- A loss that changes nothing: it was meant to be, or an attempt is planned already. -/
def ignores (outline : Outline ν) (contact : Contact) : Bool :=
  contact.connection.leaving || outline.agenda.has .reconnect || contact.connection.state = .failed

/-- A lost connection is closed. -/
def hungUp (outline : Outline ν) (contact : Contact) (state : ConnectionState) : Outline ν :=
  { outline with
    contact := some { contact with
      connection := { contact.connection with
        client := none
        state
        attempts := Connection.nextAttempt contact.connection.attempts } }
    agenda := outline.agenda.cancel .connectTimeout
    network := (outline.line contact).hangUp.network }

theorem lose_of_ignores (present : outline.contact = some contact)
    (ignores : outline.ignores contact = true) (now : Nat) : outline.lose now = outline := by
  rcases outline with ⟨settings, held, agenda, notices, network⟩
  cases present
  have same : ((⟨settings, some contact, agenda, notices, network⟩ : Outline ν).line contact
      ).lose now = (.ignored, _) := if_pos ignores
  rw [lose]
  simp only [same]
  rfl

/-- A loss that counts is followed by a plan, or it was the last one. -/
theorem lose_of_counts (present : outline.contact = some contact)
    (counts : outline.ignores contact = false) (now : Nat) :
    outline.lose now =
      if Connection.nextAttempt contact.connection.attempts ≤
          contact.connection.backoff.maxAttempts then
        let attempt := Connection.nextAttempt contact.connection.attempts
        let delay := contact.connection.backoff.delay attempt
        let hung := outline.hungUp contact (.reconnecting attempt)
        ({ hung with agenda := hung.agenda.once .reconnect delay now } : Outline ν).tell
          (.reconnecting attempt outline.settings.maxReconnects delay)
      else
        (outline.hungUp contact .failed).close
          (.failed contact.connection.backoff.maxAttempts) := by
  have lost := (outline.line contact).lose_of_counts counts now
  have same : (outline.line contact).connection = contact.connection := rfl
  rw [lose, present]
  simp only [lost, same]
  split
  · rfl
  · rfl

theorem dial_of_leaving (present : outline.contact = some contact)
    (leaving : contact.connection.leaving = true) (now : Nat) : outline.dial now = outline := by
  rcases outline with ⟨settings, held, agenda, notices, network⟩
  cases present
  have same : ((⟨settings, some contact, agenda, notices, network⟩ : Outline ν).line contact
      ).redial now = (.lost .ignored, _) := if_pos leaving
  rw [dial]
  simp only [same]
  rfl

/-- What the transport answers to the next attempt to connect. -/
def answer (outline : Outline ν) (contact : Contact) : Except TransportError Unit × ν :=
  Transport.connect (Transport.mintClient outline.network).2
    (Transport.mintClient outline.network).1 contact.connection.target contact.connection.key
    contact.connection.mailbox

/-- An attempt to connect has begun. -/
def calling (outline : Outline ν) (contact : Contact) (network : ν) (now : Nat) : Outline ν :=
  { outline with
    contact := some { contact with
      connection := { contact.connection with
        client := some (Transport.mintClient outline.network).1
        state := if contact.connection.state.isReconnecting then contact.connection.state
          else .connecting } }
    agenda := outline.agenda.once .connectTimeout contact.connection.timeout now
    network }

theorem connect_line (outline : Outline ν) (contact : Contact) (now : Nat) :
    (outline.line contact).connect now =
      match outline.answer contact with
      | (.ok (), network) =>
          (.ok (), {
            connection := { contact.connection with
              client := some (Transport.mintClient outline.network).1
              state := if contact.connection.state.isReconnecting then contact.connection.state
                else .connecting }
            agenda := outline.agenda.once .connectTimeout contact.connection.timeout now
            network })
      | (.error error, network) => (.error error, { outline.line contact with network }) := by
  have same : Transport.connect (Transport.mintClient (outline.line contact).network).2
      (Transport.mintClient (outline.line contact).network).1
      (outline.line contact).connection.target (outline.line contact).connection.key
      (outline.line contact).connection.mailbox = outline.answer contact := rfl
  simp only [Line.connect, same]
  rcases outline.answer contact with ⟨result, network⟩
  cases result with
  | ok done => rfl
  | error error => rfl

/-- An attempt to connect begins, or it is lost at once. -/
theorem dial_of_staying (present : outline.contact = some contact)
    (staying : contact.connection.leaving = false) (now : Nat) :
    outline.dial now =
      match outline.answer contact with
      | (.ok (), network) => outline.calling contact network now
      | (.error _, network) => ({ outline with network } : Outline ν).lose now := by
  have stays : (outline.line contact).connection.leaving = false := staying
  rw [dial, present]
  simp only [Line.redial, stays, connect_line, Bool.false_eq_true, if_false]
  rcases outline.answer contact with ⟨result, network⟩
  cases result with
  | ok done => rfl
  | error error =>
      simp only [lose]
      rfl

end Outline

end Cowrite
