/-!
# The agenda of background tasks

Every kind of background work is a task with a deadline of its own, and periodic ones also have a
period. At most one task of each kind is on the agenda. Nothing here waits: whoever keeps the
agenda asks what is due (`pop`) and does it. A periodic task is due again one period after it was
taken, not after it was due, so that periods missed meanwhile collapse into one run.
-/

namespace Cowrite

/-- A kind of background work. -/
inductive Task where
  /-- Send what was typed, and show what was held back. -/
  | flush
  /-- Repair a buffer that differs from the document. -/
  | reconcile
  /-- Give an attempt to connect up. -/
  | connectTimeout
  /-- Try to connect again. -/
  | reconnect
  /-- Share one's own buffer in an empty session. -/
  | emptySyncFallback
  deriving DecidableEq, Repr

namespace Task

/-- All kinds, in the order in which they run when they are due at the same time. -/
def all : List Task :=
  [.flush, .reconcile, .connectTimeout, .reconnect, .emptySyncFallback]

/-- The place of a kind in that order. -/
def rank : Task → Nat
  | .flush => 0
  | .reconcile => 1
  | .connectTimeout => 2
  | .reconnect => 3
  | .emptySyncFallback => 4

end Task

/-- A task on the agenda: when it is due, and for a periodic one its period. -/
structure Appointment where
  task : Task
  due : Nat
  period : Option Nat
  deriving DecidableEq, Repr

namespace Appointment

/-- Whether an appointment comes before another one: it is due earlier, or at the same time and
its kind goes first. -/
def isBefore (left right : Appointment) : Bool :=
  left.due < right.due || (left.due == right.due && left.task.rank < right.task.rank)

end Appointment

/-- A clock, by the last moment that it can tell, in milliseconds. -/
structure Clock where
  last : Nat
  /-- Any two times of 64 bits have a sum that can be told. -/
  ample : 2 * ((1 <<< 64) - 1) ≤ last
  /-- The seconds are counted with 64 bits at most. -/
  narrow : last / 1000 < 1 <<< 64
  deriving DecidableEq, Repr

/-- A clock that counts seconds with 63 bits. Times are told from a moment when it had been running
for a day. -/
def Clock.usual : Clock where
  last := ((1 <<< 63) - 1 - 86400) * 1000
  ample := by decide
  narrow := by decide

/-- The tasks that wait for their time. -/
structure Agenda where
  appointments : List Appointment := []
  deriving DecidableEq, Repr

namespace Agenda

/-- Take a task off the agenda. -/
def cancel (agenda : Agenda) (task : Task) : Agenda :=
  { appointments := agenda.appointments.filter (·.task != task) }

/-- Put an appointment on the agenda in place of any other of its kind. -/
def put (agenda : Agenda) (appointment : Appointment) : Agenda :=
  { appointments := (agenda.cancel appointment.task).appointments ++ [appointment] }

/-- Run a task after so long, once. The clock is taken to tell the time of it, as it does if `delay`
and `now` have 64 bits. -/
def once (agenda : Agenda) (task : Task) (delay now : Nat) : Agenda :=
  agenda.put { task, due := now + delay, period := none }

/-- Run a task again and again, the first time after one period. The clock is taken to tell that
time; `every?` asks it. -/
def every (agenda : Agenda) (task : Task) (period now : Nat) : Agenda :=
  agenda.put { task, due := now + period, period := some period }

/-- Run a task again and again, if the clock can tell the first time of it. -/
def every? (agenda : Agenda) (clock : Clock) (task : Task) (period now : Nat) : Option Agenda :=
  if now + period ≤ clock.last then some (agenda.every task period now) else none

/-- Whether a task is on the agenda. -/
def has (agenda : Agenda) (task : Task) : Bool :=
  agenda.appointments.any (·.task == task)

/-- When a task is due. -/
def dueAt? (agenda : Agenda) (task : Task) : Option Nat :=
  (agenda.appointments.find? (·.task == task)).map (·.due)

/-- When the next task is due. -/
def nextDue? (agenda : Agenda) : Option Nat :=
  (agenda.appointments.map (·.due)).min?

/-- The appointment that comes first. -/
def first? : List Appointment → Option Appointment
  | [] => none
  | appointment :: rest =>
      match first? rest with
      | none => some appointment
      | some best => if best.isBefore appointment then some best else some appointment

/-- Take the first task whose time has come. It leaves the agenda, or is due again one period from
now, a time that the clock is taken to tell. -/
def pop (agenda : Agenda) (now : Nat) : Option (Task × Agenda) :=
  (first? (agenda.appointments.filter (·.due ≤ now))).map fun appointment =>
    (appointment.task,
      match appointment.period with
      | none => agenda.cancel appointment.task
      | some period => agenda.put { appointment with due := now + period })

/-- Take the first task whose time has come, if there is one. -/
def take (agenda : Agenda) (now : Nat) : Option Task × Agenda :=
  match agenda.pop now with
  | none => (none, agenda)
  | some (task, agenda) => (some task, agenda)

/-- Take tasks whose time has come as long as there are any, but at most so many. -/
def popUpTo : Nat → Agenda → Nat → List Task × Agenda
  | 0, agenda, _ => ([], agenda)
  | count + 1, agenda, now =>
      match agenda.pop now with
      | none => ([], agenda)
      | some (task, agenda) =>
          let (tasks, agenda) := popUpTo count agenda now
          (task :: tasks, agenda)

end Agenda

end Cowrite
