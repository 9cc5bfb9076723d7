import Cowrite.Session.Error
import Cowrite.Value.Basic

/-!
# Settings

The times and limits of a session. All times are in milliseconds. Settings are written as a table
in a file; a missing entry takes its default and an unknown one is ignored. Whether they can work
is a separate question (`validate`): the background tasks need times that are not zero.
-/

namespace Cowrite

/-- How long to wait before each attempt to reconnect, and how many attempts to make. -/
structure Backoff where
  base : Nat
  max : Nat
  maxAttempts : Nat
  deriving DecidableEq, Repr

namespace Backoff

/-- The wait before an attempt, counted from 1: it doubles with each attempt up to the 32nd, and is
never longer than the maximum. -/
def delay (backoff : Backoff) (attempt : Nat) : Nat :=
  min (backoff.base <<< min (attempt - 1) 31) backoff.max

end Backoff

/-- The settings of a session. -/
structure Settings where
  /-- Time between two runs of the flush task. -/
  flushInterval : Nat := 50
  /-- How long nothing may be typed before edits are sent. -/
  debounce : Nat := 100
  /-- Every how many flush intervals the buffer is reconciled with the document. -/
  reconcileEvery : Nat := 20
  /-- How long notifications are ignored after the session wrote to the buffer. -/
  lockout : Nat := 50
  /-- How long an attempt to connect may take. -/
  connectTimeout : Nat := 10000
  /-- Wait before the first attempt to reconnect. -/
  reconnectBase : Nat := 1000
  /-- Longest wait before an attempt to reconnect. -/
  reconnectMax : Nat := 30000
  maxReconnects : Nat := 10
  /-- How long a guest waits in an empty session before it shares its own buffer. -/
  emptySyncWait : Nat := 500
  /-- The relay server to host on when none is named. -/
  defaultServer : Option String := none
  /-- Whether hosted relay sessions are encrypted. -/
  encrypt : Bool := false
  deriving DecidableEq, Repr

namespace Settings

/-- The names of the entries, in order. -/
def names : List String :=
  ["flush_interval_ms", "debounce_ms", "reconcile_every_ticks", "lockout_ms", "connect_timeout_ms",
   "reconnect_base_delay_ms", "reconnect_max_delay_ms", "max_reconnect_attempts",
   "empty_sync_wait_ms", "default_server", "encrypt"]

/-- Set one entry, if the value is of its kind and in its range. Unknown entries change nothing. -/
def setEntry? (settings : Settings) (name : String) (value : Value) : Option Settings :=
  let wide := value.toNatBelow? (1 <<< 64)
  let narrow := value.toNatBelow? (1 <<< 32)
  match name with
  | "flush_interval_ms" => wide.map fun n => { settings with flushInterval := n }
  | "debounce_ms" => wide.map fun n => { settings with debounce := n }
  | "reconcile_every_ticks" => narrow.map fun n => { settings with reconcileEvery := n }
  | "lockout_ms" => wide.map fun n => { settings with lockout := n }
  | "connect_timeout_ms" => wide.map fun n => { settings with connectTimeout := n }
  | "reconnect_base_delay_ms" => wide.map fun n => { settings with reconnectBase := n }
  | "reconnect_max_delay_ms" => wide.map fun n => { settings with reconnectMax := n }
  | "max_reconnect_attempts" => narrow.map fun n => { settings with maxReconnects := n }
  | "empty_sync_wait_ms" => wide.map fun n => { settings with emptySyncWait := n }
  | "default_server" => value.toOptionalText?.map fun s => { settings with defaultServer := s }
  | "encrypt" => value.toBool?.map fun b => { settings with encrypt := b }
  | _ => some settings

/-- Read settings: a table of entries, or a list of the entries in order, which may end early. -/
def ofValue? : Value → Option Settings
  | .table entries => entries.foldlM (fun settings entry => settings.setEntry? entry.1 entry.2) {}
  | .list items =>
      if names.length < items.length then none
      else (names.zip items).foldlM (fun settings entry => settings.setEntry? entry.1 entry.2) {}
  | _ => none

/-- The entries that must not be zero. -/
def positives (settings : Settings) : List (String × Nat) :=
  [("flush_interval_ms", settings.flushInterval), ("connect_timeout_ms", settings.connectTimeout),
   ("reconnect_base_delay_ms", settings.reconnectBase),
   ("reconcile_every_ticks", settings.reconcileEvery)]

/-- Check that the settings can work. -/
def validate (settings : Settings) : Except SessionError Unit :=
  match settings.positives.find? (·.2 == 0) with
  | some (name, _) => .error (.settings (name ++ " must be greater than zero"))
  | none =>
      if settings.reconnectMax < settings.reconnectBase then
        .error (.settings "reconnect_max_delay_ms must not be below reconnect_base_delay_ms")
      else .ok ()

/-- The time between two reconciliations, unless it has more seconds than fit in 64 bits. -/
def reconcileInterval? (settings : Settings) : Option Nat :=
  let interval := settings.flushInterval * settings.reconcileEvery
  if interval / 1000 < 1 <<< 64 then some interval else none

def backoff (settings : Settings) : Backoff :=
  { base := settings.reconnectBase
    max := settings.reconnectMax
    maxAttempts := settings.maxReconnects }

end Settings

end Cowrite
