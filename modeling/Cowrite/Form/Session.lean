import Cowrite.Form.Text
import Cowrite.Form.Transport
import Cowrite.Session.Desk
import Cowrite.Transport.Scripted

/-!
# Forms of what a session shows

Settings are written as the table that they are read from. Deadlines are written with 64 bits.
States, tasks and outcomes are their names, and tables where there is more to them.
-/

namespace Cowrite

instance : OfValue Settings := ⟨Settings.ofValue?⟩

instance : ToValue Settings where
  toValue settings :=
    .table (Settings.names.zip [
      toValue settings.flushInterval, toValue settings.debounce, toValue settings.reconcileEvery,
      toValue settings.lockout, toValue settings.connectTimeout, toValue settings.reconnectBase,
      toValue settings.reconnectMax, toValue settings.maxReconnects,
      toValue settings.emptySyncWait, toValue settings.defaultServer, toValue settings.encrypt])

namespace Settings

/-- The settings after a change, which is a list of its name and what it sets. -/
def withChange? (settings : Settings) : Value → Option Settings
  | .list [.text "default_server", .text server] =>
      some { settings with defaultServer := some server }
  | .list [.text "encryption", .bool encrypt] => some { settings with encrypt }
  | .list (.text name :: args) => do
      match name, ← args.mapM Value.toNat? with
      | "debounce_ms", [time] => return { settings with debounce := time }
      | "flush_interval_ms", [time] => return { settings with flushInterval := time }
      | "reconnect", [base, longest, attempts] =>
          return { settings with
            reconnectBase := base, reconnectMax := longest, maxReconnects := attempts }
      | _, _ => none
  | _ => none

end Settings

instance : ToValue Backoff where
  toValue backoff :=
    .table [("base", toValue backoff.base), ("max", toValue backoff.max),
      ("max_attempts", toValue backoff.maxAttempts)]

namespace Task

def name : Task → String
  | .flush => "flush"
  | .reconcile => "reconcile"
  | .connectTimeout => "connect_timeout"
  | .reconnect => "reconnect"
  | .emptySyncFallback => "empty_sync_fallback"

end Task

instance : ToValue Task := ⟨fun task => .text task.name⟩

instance : OfValue Task where
  ofValue? value :=
    value.toText?.bind fun name => Task.all.find? fun task => task.name == name

/-- A deadline as it is written, which is with 64 bits. -/
def deadlineForm (time : Nat) : Value :=
  toValue (time % (1 <<< 64))

namespace Agenda

/-- When each task of the agenda is due, as a table. -/
def dueForm (agenda : Agenda) : Value :=
  .table (Task.all.filterMap fun task =>
    (agenda.dueAt? task).map fun due => (task.name, deadlineForm due))

/-- The entries that tell what is on the agenda. -/
def entries (agenda : Agenda) : List (String × Value) :=
  [row "due" agenda.dueForm, row "next" (agenda.nextDue?.map deadlineForm),
    row "len" agenda.appointments.length, row "empty" agenda.appointments.isEmpty]

end Agenda

instance : ToValue Suppression where
  toValue
    | .idle => .text "idle"
    | .writing => .text "applying_remote"
    | .lockedUntil time => .table [("locked_until", deadlineForm time)]

instance : ToValue Observation where
  toValue
    | .quiet => .text "quiet"
    | .suppressed => .text "suppressed"
    | .edited => .text "edited"

instance : ToValue Reconciliation where
  toValue
    | .inSync => .text "in_sync"
    | .repaired => .text "rewrote"
    | .failed => .text "failed"

instance : ToValue FlushOutcome where
  toValue
    | .idle => .text "idle"
    | .waiting => .text "waiting"
    | .nothingChanged => .text "nothing_changed"
    | .sent => .text "sent"
    | .failed => .text "failed"

namespace Outbox

/-- The entries that tell what an outbox has to send and has sent. -/
def entries (outbox : Outbox) : List (String × Value) :=
  [row "pending" outbox.pending, row "last_edit" outbox.lastEdit,
    row "last_sent" outbox.lastSent]

/-- Whether an outbox should be flushed at a time, as a table. -/
def readiness (outbox : Outbox) (now : Nat) : Value :=
  .table [row "typing" (outbox.isTyping now), row "idle" (outbox.isIdle now),
    row "should" (outbox.shouldFlush now false), row "should_forced" (outbox.shouldFlush now true)]

end Outbox

instance : ToValue LossOutcome where
  toValue
    | .ignored => .text "ignored"
    | .scheduled attempt delay => .table [("scheduled", toValue [attempt, delay])]
    | .exhausted attempts => .table [("exhausted", toValue attempts)]

instance : ToValue RedialOutcome where
  toValue
    | .dialing => .text "dialing"
    | .lost outcome => .table [("lost", toValue outcome)]

instance : ToValue SentMessage where
  toValue sent := .list (toValue sent.client :: (match sent.message with
    | .syncRequest => [.text "sync_request"]
    | .update update => [.text "update", toValue update, toValue sent.heard]
    | .fullState update => [.text "full_state", toValue update, toValue sent.heard]))

instance : ToValue ConnectionState := ⟨fun state => .text state.text⟩

namespace ConnectionState

/-- The state with a name, and with the number of an attempt for the one state that has it. -/
def named? (name : String) (attempt : Nat) : Option ConnectionState :=
  match name with
  | "disconnected" => some .disconnected
  | "connecting" => some .connecting
  | "connected" => some .connected
  | "syncing" => some .syncing
  | "synced" => some .synced
  | "reconnecting" => some (.reconnecting attempt)
  | "failed" => some .failed
  | _ => none

end ConnectionState

namespace Line

/-- The entries that tell how a connection stands. -/
def entries {ν : Type} [Transport ν] (line : Line ν) : List (String × Value) :=
  [row "state" line.connection.state, row "client" line.connection.client,
    row "mode" (Transport.mode line.network), row "target" line.connection.target,
    row "attempts" line.connection.attempts,
    row "max_attempts" line.connection.backoff.maxAttempts,
    ("tasks", .table line.agenda.entries)]

end Line

instance : ToValue Role := ⟨fun role => .text role.name⟩

instance : OfValue Role where
  ofValue? value :=
    value.toText?.bind fun name => [Role.host, .joiner].find? fun role => role.name == name

/-- A notice is shown as its text. -/
instance : ToValue Notice := ⟨fun notice => .text notice.text⟩

/-- A notice is read from a table that names it. -/
instance : OfValue Notice where
  ofValue? value := do
    match ← value.entryAs? String "notice" with
    | "started" =>
        return .started (← value.entryAs? Role "role") (← value.entryAs? (Option String) "code")
    | "code_ready" => return .codeReady (← value.entryAs? String "code")
    | "synced" => return .synced
    | "peer_joined" => return .peerJoined (← value.entryAs? String "peer")
    | "peer_left" => return .peerLeft (← value.entryAs? String "peer")
    | "reconnecting" =>
        return .reconnecting (← value.entryAs? Nat "attempt") (← value.entryAs? Nat "attempts")
          (millisecondsOf (← value.entryAs? Nat "delay_us"))
    | "reconnected" => return .reconnected
    | "seeded" => return .seededFromBuffer
    | "failed" => return .failed (← value.entryAs? Nat "attempts")
    | "buffer_closed" => return .bufferClosed
    | "left" => return .left
    | _ => none

namespace Participant

/-- The entries that tell where a participant stands. -/
def entries (participant : Participant) : List (String × Value) :=
  let info := participant.info
  let replica := participant.session.map (·.replica)
  [row "active" info.active, row "status" info.status, row "state" info.state,
    row "doc" (replica.map (·.text)), row "vector" (replica.map (·.version)),
    row "pending" info.pendingUpdate, row "deferred" info.deferredUpdate,
    row "attempt" info.reconnectAttempt, row "peers" info.peers,
    row "tasks" (Task.all.filter participant.agenda.has),
    row "pending_tasks" participant.agenda.appointments.length,
    row "next" (participant.agenda.nextDue?.map deadlineForm)]

end Participant

namespace Info

/-- The entries of an overview. -/
def entries (info : Info) : List (String × Value) :=
  [row "active" info.active, row "role" info.role, row "mode" info.mode,
    row "state" info.state, row "status" info.status, row "code" info.code,
    row "client" info.client, row "peers" info.peers, row "attempt" info.reconnectAttempt,
    row "max_attempts" info.maxReconnectAttempts, row "pending" info.pendingUpdate,
    row "deferred" info.deferredUpdate, row "started_at" info.startedAt]

end Info

instance : OfValue HostTarget where
  ofValue?
    | .text "p2p" => some .peerToPeer
    | value => (value.entryAs? (Option String) "relay").map .relay

end Cowrite
