/-!
# What a user is shown

Errors are values of the type that says what can go wrong in their part of the library. What a
user is shown of one is a `Report`: a sentence, and, where the error has them, a stable code to
look it up by, a hint at what to do, and the sentence of the error behind it.

A process has at most one subscriber to its log. A program that embeds a session may have installed
one of its own, so a second one is refused and the first one stays.
-/

namespace Cowrite

/-- What a user is shown of an error. -/
structure Report where
  message : String
  code : Option String := none
  help : Option String := none
  cause : Option String := none
  deriving DecidableEq, Repr

/-- How much is logged. -/
inductive LogLevel where
  | error
  | warn
  | info
  | debug
  | trace
  deriving DecidableEq, Repr

def LogLevel.name : LogLevel → String
  | .error => "ERROR"
  | .warn => "WARN"
  | .info => "INFO"
  | .debug => "DEBUG"
  | .trace => "TRACE"

/-- The level with a name, in capitals or not. -/
def LogLevel.named? (name : String) : Option LogLevel :=
  [LogLevel.error, .warn, .info, .debug, .trace].find? fun level => level.name == name.toUpper

/-- A subscriber: the service that it speaks for, and how much it wants to see. -/
structure LogSubscriber where
  service : String
  level : LogLevel
  deriving DecidableEq, Repr

/-- The log of a process. -/
structure EventLog where
  subscriber : Option LogSubscriber := none
  deriving DecidableEq, Repr

namespace EventLog

/-- Install a subscriber, unless there is one already. Tells whether it was installed. -/
def install (log : EventLog) (subscriber : LogSubscriber) : Bool × EventLog :=
  match log.subscriber with
  | none => (true, { subscriber := some subscriber })
  | some _ => (false, log)

end EventLog

end Cowrite
