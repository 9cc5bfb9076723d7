import Cowrite.Proofs.Session.Agenda
import Cowrite.Proofs.Transport.Mailbox
import Mathlib.Data.List.TakeWhile

/-!
# Connections that are tended

A session that has no connection is about to make one, and one that waits for its connection to be
confirmed gives up in time. So its agenda tends its connection (`Agenda.Tends`): an attempt to
reconnect is planned exactly while there is no client, and a timeout runs as long as there is one
that has not been confirmed.

For the moment in which a task has been taken off the agenda and not been done, less is true
(`Agenda.Steadies`). Losing the connection or making the attempt brings back what is missing
(`Line.tended_lose`, `Line.tended_redial`), or the session is over.
-/

namespace Cowrite

namespace Agenda

/-- What an agenda keeps to even while a task that was on it is being done. -/
structure Steadies (agenda : Agenda) (connection : Connection) : Prop where
  staying : connection.leaving = false
  standing : connection.state ≠ .failed
  bounded : connection.attempts ≤ connection.backoff.maxAttempts
  /-- The attempts are counted from 1, unless the count begins anew before too many are made. -/
  counted : ∀ attempt, connection.state = .reconnecting attempt →
    attempt = connection.attempts ∧ (connection.backoff.maxAttempts + 1 < 1 <<< 32 → 1 ≤ attempt)
  redials : agenda.Single .reconnect
  expires : agenda.Single .connectTimeout

/-- Whether an attempt to reconnect is planned exactly while there is no client, and a timeout runs
while there is one without a confirmed connection. -/
structure Tends (agenda : Agenda) (connection : Connection) : Prop
    extends Steadies agenda connection where
  planned : agenda.has .reconnect = true ↔ connection.client = none
  alone : connection.client = none →
    connection.state.isReconnecting = true ∧ agenda.has .connectTimeout = false
  timed : connection.client ≠ none → connection.state.isUnconfirmed = true →
    agenda.has .connectTimeout = true

variable {agenda : Agenda} {connection : Connection}

theorem Tends.unplanned (tends : agenda.Tends connection) (client : connection.client ≠ none) :
    agenda.has .reconnect = false := by
  rw [← Bool.not_eq_true, tends.planned]
  exact client

/-- Other appointments do not matter. -/
theorem Tends.put (tends : agenda.Tends connection) {appointment : Appointment}
    (noRedial : appointment.task ≠ .reconnect) (noTimeout : appointment.task ≠ .connectTimeout) :
    (agenda.put appointment).Tends connection := by
  have kept : ∀ task, appointment.task ≠ task →
      (agenda.put appointment).has task = agenda.has task := by
    intro task differ
    rw [has_put]
    simp [differ]
  refine
    { tends.toSteadies with
      redials := ?_
      expires := ?_
      planned := ?_
      alone := ?_
      timed := ?_ }
  · exact tends.redials.put fun same => absurd same noRedial
  · exact tends.expires.put fun same => absurd same noTimeout
  · rw [kept _ noRedial]
    exact tends.planned
  · rw [kept _ noTimeout]
    exact tends.alone
  · rw [kept _ noTimeout]
    exact tends.timed

/-- A client whose connection is confirmed, or has been lost without a word, needs no timeout. -/
theorem Tends.withState (tends : agenda.Tends connection) (client : connection.client ≠ none)
    {state : ConnectionState} (settled : state.isUnconfirmed = false) (standing : state ≠ .failed) :
    agenda.Tends { connection with state } := by
  refine
    { staying := tends.staying
      standing := standing
      bounded := tends.bounded
      counted := ?_
      redials := tends.redials
      expires := tends.expires
      planned := tends.planned
      alone := fun none => absurd none client
      timed := ?_ }
  · rintro attempt rfl
    cases settled
  · intro _ unconfirmed
    exact absurd (unconfirmed.symm.trans settled) (by decide)

theorem Steadies.pop (steadies : agenda.Steadies connection) {now : Nat} {task : Task}
    {later : Agenda} (popped : agenda.pop now = some (task, later)) : later.Steadies connection :=
  { steadies with
    redials := (steadies.redials.pop popped).1
    expires := (steadies.expires.pop popped).1 }

/-- A task that has nothing to do with the connection leaves it tended when it is taken. -/
theorem Tends.pop (tends : agenda.Tends connection) {now : Nat} {task : Task} {later : Agenda}
    (popped : agenda.pop now = some (task, later)) (noRedial : task ≠ .reconnect)
    (noTimeout : task ≠ .connectTimeout) : later.Tends connection := by
  have others := (has_of_pop popped).2
  refine { tends.toSteadies.pop popped with planned := ?_, alone := ?_, timed := ?_ }
  · rw [others _ noRedial.symm]
    exact tends.planned
  · rw [others _ noTimeout.symm]
    exact tends.alone
  · rw [others _ noTimeout.symm]
    exact tends.timed

/-- Once a task about the connection has been taken, no attempt to reconnect is planned. -/
theorem Tends.unplanned_of_pop (tends : agenda.Tends connection) {now : Nat} {task : Task}
    {later : Agenda} (popped : agenda.pop now = some (task, later))
    (about : task = .reconnect ∨ task = .connectTimeout) : later.has .reconnect = false := by
  rcases about with rfl | rfl
  · exact (tends.redials.pop popped).2 rfl
  · rcases has_of_pop popped with ⟨timed, others⟩
    rw [others .reconnect (by decide)]
    apply tends.unplanned
    intro none
    rw [(tends.alone none).2] at timed
    cases timed

end Agenda

/-! ## Lines -/

namespace Line

variable {ν : Type} {line : Line ν}

def Tended (line : Line ν) : Prop :=
  line.agenda.Tends line.connection

theorem Tended.confirm (tended : line.Tended) (client : line.connection.client ≠ none) :
    line.confirm.2.Tended := by
  have unplanned := tended.unplanned client
  refine
    { staying := tended.staying
      standing := by simp [Line.confirm]
      bounded := Nat.zero_le _
      counted := by simp [Line.confirm]
      redials := tended.redials.cancel _
      expires := tended.expires.cancel _
      planned := ?_
      alone := fun none => absurd none client
      timed := by simp [Line.confirm, ConnectionState.isUnconfirmed] }
  simp only [Line.confirm, Agenda.has_cancel, unplanned]
  simpa using client

variable [Transport ν]

/-- An attempt to connect that begins is tended. -/
theorem tended_connect (steadies : line.agenda.Steadies line.connection)
    (unplanned : line.agenda.has .reconnect = false) (now : Nat) :
    (∃ later, line.connect now = (.ok (), later) ∧ later.Tended ∧
        later.connection.backoff = line.connection.backoff) ∨
      ∃ error network, line.connect now = (.error error, { line with network }) := by
  simp only [connect]
  split
  · exact .inr ⟨_, _, rfl⟩
  · refine .inl ⟨_, rfl, ?_, rfl⟩
    refine
      { staying := steadies.staying
        standing := ?_
        bounded := steadies.bounded
        counted := ?_
        redials := steadies.redials.put (by simp)
        expires := steadies.expires.put (by simp)
        planned := ?_
        alone := by simp
        timed := ?_ }
    · simp only
      split
      · exact steadies.standing
      · simp
    · intro attempt
      simp only
      split
      · exact steadies.counted attempt
      · simp
    · simp [Agenda.once, Agenda.has_put, unplanned]
    · simp [Agenda.once, Agenda.has_put]

/-- To hang up gives up the client, and leaves the backoff and the agenda alone. -/
theorem hangUp_frame (line : Line ν) : line.hangUp.connection.client = none ∧
    line.hangUp.connection.backoff = line.connection.backoff ∧
      line.hangUp.connection.leaving = line.connection.leaving ∧
        line.hangUp.agenda = line.agenda := by
  rw [hangUp]
  cases none : line.connection.client with
  | none => exact ⟨none, rfl, rfl, rfl⟩
  | some _ => exact ⟨rfl, rfl, rfl, rfl⟩

/-- When a connection is lost, an attempt to make a new one is planned, or it was the last one. -/
theorem tended_lose (steadies : line.agenda.Steadies line.connection)
    (unplanned : line.agenda.has .reconnect = false) (now : Nat) :
    (∃ attempt delay later, line.lose now = (.scheduled attempt delay, later) ∧ later.Tended ∧
        later.connection.backoff = line.connection.backoff) ∨
      ∃ attempts later, line.lose now = (.exhausted attempts, later) := by
  have goesOn : (line.connection.leaving || line.agenda.has .reconnect ||
      decide (line.connection.state = .failed)) = false := by
    simp [steadies.staying, unplanned, steadies.standing]
  rcases hangUp_frame { line with agenda := line.agenda.cancel .connectTimeout } with
    ⟨client, backoff, leaving, agenda⟩
  simp only [lose, goesOn, Bool.false_eq_true, if_false]
  split
  case isTrue => exact .inr ⟨_, _, rfl⟩
  case isFalse inTime =>
    refine .inl ⟨_, _, _, rfl, ?_, backoff⟩
    simp only [Tended, agenda]
    refine
      { staying := leaving.trans steadies.staying
        standing := by simp
        bounded := ?_
        counted := ?_
        redials := (steadies.redials.cancel _).put (by simp)
        expires := (steadies.expires.cancel _).put (by simp)
        planned := by simp [Agenda.once, Agenda.has_put, client]
        alone := ?_
        timed := fun some => absurd client some }
    · rw [backoff]
      exact Nat.le_of_not_lt inTime
    · intro attempt same
      cases same
      refine ⟨rfl, fun countable => ?_⟩
      rw [backoff] at countable
      have room := Nat.lt_of_le_of_lt (Nat.succ_le_succ steadies.bounded) countable
      rw [Connection.nextAttempt_of_lt room]
      exact Nat.le_add_left _ _
    · intro _
      simp [ConnectionState.isReconnecting, Agenda.once, Agenda.has_put, Agenda.has_cancel]

theorem tended_redial (steadies : line.agenda.Steadies line.connection)
    (unplanned : line.agenda.has .reconnect = false) (now : Nat) :
    (∃ later, line.redial now = (.dialing, later) ∧ later.Tended ∧
        later.connection.backoff = line.connection.backoff) ∨
      (∃ attempt delay later, line.redial now = (.lost (.scheduled attempt delay), later) ∧
        later.Tended ∧ later.connection.backoff = line.connection.backoff) ∨
      ∃ attempts later, line.redial now = (.lost (.exhausted attempts), later) := by
  rw [redial, if_neg (by simp [steadies.staying])]
  rcases tended_connect steadies unplanned now with
    ⟨later, connects, tended, backoff⟩ | ⟨error, network, refused⟩
  · rw [connects]
    exact .inl ⟨later, rfl, tended, backoff⟩
  · rw [refused]
    have still : ({ line with network } : Line ν).agenda.Steadies line.connection := steadies
    rcases tended_lose still unplanned now with
      ⟨attempt, delay, later, loses, tended, backoff⟩ | ⟨attempts, later, loses⟩
    · simp only [loses]
      exact .inr (.inl ⟨attempt, delay, later, rfl, tended, backoff⟩)
    · simp only [loses]
      exact .inr (.inr ⟨attempts, later, rfl⟩)

/-- The event that is taken is the first one about the present client, and what waits after it
keeps waiting. -/
theorem exists_nextEvent (line : Line ν) :
    ∃ stale rest count,
      Transport.inbox line.network line.connection.mailbox = stale ++ rest ∧
      (∀ envelope ∈ stale, line.connection.client ≠ some envelope.client) ∧
      (∀ envelope, rest.head? = some envelope → line.connection.client = some envelope.client) ∧
      line.nextEvent = (rest.head?, { line with
        network := Transport.discard line.network line.connection.mailbox count }) ∧
      (stale ++ rest).drop count = rest.tail := by
  let foreign : Envelope Update → Bool := fun envelope =>
    line.connection.client != some envelope.client
  let waiting := Transport.inbox line.network line.connection.mailbox
  have split : waiting.takeWhile foreign ++ waiting.dropWhile foreign = waiting :=
    List.takeWhile_append_dropWhile
  have next := getElem?_length_takeWhile foreign waiting
  refine ⟨waiting.takeWhile foreign, waiting.dropWhile foreign,
    (waiting.takeWhile foreign).length +
      (if (waiting.dropWhile foreign).head?.isSome then 1 else 0), split.symm, ?_, ?_, ?_, ?_⟩
  · intro envelope passed
    simpa [foreign] using List.mem_takeWhile_imp passed
  · intro envelope first
    have stops := List.head?_dropWhile_not foreign waiting
    rw [first] at stops
    simpa [foreign] using stops
  · rw [← next]
    rfl
  · rw [List.drop_append]
    cases waiting.dropWhile foreign <;> simp

/-- An event is taken only if it is about the present client. -/
theorem client_of_nextEvent {envelope : Envelope Update}
    (next : line.nextEvent.1 = some envelope) : line.connection.client = some envelope.client := by
  rcases line.exists_nextEvent with ⟨stale, rest, count, _, _, own, taken, _⟩
  rw [taken] at next
  exact own envelope next

theorem exists_send (line : Line ν) (message : OutboundMessage Update) :
    ∃ result network, line.send message = (result, { line with network }) := by
  rw [send]
  split
  · exact ⟨_, line.network, rfl⟩
  · exact ⟨_, _, rfl⟩

end Line

end Cowrite
