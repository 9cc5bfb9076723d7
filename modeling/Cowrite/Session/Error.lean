import Cowrite.Invitation
import Cowrite.Transport.Basic

/-!
# Errors of a session

What can keep a session from starting. What goes wrong later (lost connections, updates that
cannot be applied, refused writes) is never returned: it is dealt with, and the user hears of it
through notices.
-/

namespace Cowrite

/-- Why no session was started. -/
inductive SessionError where
  /-- There is a session already. -/
  | alreadyActive
  /-- The buffer is closed. -/
  | invalidBuffer
  /-- No relay server was named, and none is set. -/
  | missingServer
  /-- The session needs another kind of transport than the one given. -/
  | modeMismatch (needed given : TransportMode)
  | connect (error : TransportError)
  | invitation (error : InvitationError)
  | crypto (error : CryptoError)
  /-- The settings cannot work. -/
  | settings (problem : String)
  /-- The time between two reconciliations is longer than any clock can measure. -/
  | intervalOverflow
  /-- The first reconciliation would come after the end of the clock. -/
  | deadlineOverflow
  deriving DecidableEq, Repr

namespace SessionError

def report : SessionError → Report
  | .alreadyActive =>
      { message := "a session is already active"
        code := some "tandem::session::active"
        help := some "leave the current session first" }
  | .invalidBuffer =>
      { message := "editor buffer is not valid", code := some "tandem::session::surface" }
  | .missingServer =>
      { message := "no relay server given and no default server configured"
        code := some "tandem::session::server"
        help := some "set \x60default_server\x60 in the session config" }
  | .modeMismatch needed given =>
      { message := "session uses " ++ needed.name ++ " transport but " ++ given.name ++
          " transport was supplied"
        code := some "tandem::session::mode" }
  | .connect error =>
      { message := "failed to connect"
        code := some "tandem::session::connect"
        cause := some error.message }
  | .invitation error =>
      { message := "invalid session code"
        code := some "tandem::session::code"
        cause := some error.message }
  | .crypto error =>
      { message := "failed to create session key"
        code := some "tandem::session::crypto"
        cause := some error.message }
  | .settings problem =>
      { message := "invalid configuration: " ++ problem
        code := some "tandem::session::config" }
  | .intervalOverflow => { message := "overflow when multiplying duration by scalar" }
  | .deadlineOverflow => { message := "overflow when adding duration to instant" }

/-- Whether the settings ask for a time that cannot be told, which ends the whole program. -/
def isOverflow : SessionError → Bool
  | .intervalOverflow => true
  | .deadlineOverflow => true
  | _ => false

/-- Whether the session was already made when the error came up, and had to be given up again. -/
def isLate : SessionError → Bool
  | .connect _ => true
  | error => error.isOverflow

end SessionError

end Cowrite
