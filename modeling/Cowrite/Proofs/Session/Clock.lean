import Cowrite.Proofs.Session.Failing
import Cowrite.Proofs.Session.Load

/-!
# Times that can be told

A length of time can be told if its seconds fit in 64 bits (`measured?`), and a moment if the clock
does not end before it (`Clock.last`). All times that are written with 64 bits are far from the end
of any clock. The wait before an attempt to reconnect is found within these limits
whatever the settings are, as the longest wait stands for a product that cannot be told
(`Settings.tellsDelay`). The time between two reconciliations has nothing to stand for it. So
settings that were found to be good can be run from some time on if and only if the clock can tell
the first reconciliation (`Settings.runsFrom_iff`), and with other settings the start of a session
ends the program. The settings with the longest times cannot be run on any clock
(`Settings.endless_not_runsFrom`).
-/

namespace Cowrite

/-- A length of time, unless it has more seconds than fit in 64 bits. -/
def measured? (time : Nat) : Option Nat :=
  if time / 1000 < 1 <<< 64 then some time else none

theorem eq_of_measured? {time told : Nat} (measured : measured? time = some told) :
    told = time := by
  rw [measured?] at measured
  split at measured
  · cases measured
    rfl
  · cases measured

theorem measured?_of_lt {time : Nat} (short : time < 1 <<< 64) : measured? time = some time := by
  rw [measured?, if_pos]
  exact Nat.lt_of_le_of_lt (Nat.div_le_self _ _) short

/-- A time that cannot be told is longer than any that can be. -/
theorem lt_of_measured?_eq_none {time limit : Nat} (long : measured? time = none)
    (told : measured? limit = some limit) : limit < time := by
  rw [measured?, ite_eq_right_iff] at long
  rw [measured?, ite_eq_left_iff] at told
  by_contra within
  have seconds := Nat.div_le_div_right (Nat.le_of_not_lt within) (c := 1000)
  by_cases short : limit / 1000 < 1 <<< 64
  · cases long (Nat.lt_of_le_of_lt seconds short)
  · cases told short

/-- A clock can tell all times that are written with 64 bits, and the sum of any two of them. -/
theorem Clock.add_le_last (clock : Clock) {now time : Nat} (early : now < 1 <<< 64)
    (short : time < 1 <<< 64) : now + time ≤ clock.last := by
  have ample := clock.ample
  omega

/-- What a clock can still tell has a length that can be told. -/
theorem Clock.measured?_of_le_last {clock : Clock} {now time : Nat}
    (told : now + time ≤ clock.last) : measured? time = some time := by
  rw [measured?, if_pos]
  have within := Nat.le_trans (Nat.le_add_left time now) told
  exact Nat.lt_of_le_of_lt (Nat.div_le_div_right within) clock.narrow

/-- The product of the base and a factor may be a length of time that cannot be told. The longest
wait stands for such a product, and is shorter. -/
theorem Backoff.delay_eq_measured {backoff : Backoff}
    (told : measured? backoff.max = some backoff.max) (attempt : Nat) :
    backoff.delay attempt =
      match measured? (backoff.base * 1 <<< min (attempt - 1) 31) with
      | some wait => min wait backoff.max
      | none => backoff.max := by
  have product : backoff.delay attempt =
      min (backoff.base * 1 <<< min (attempt - 1) 31) backoff.max := by
    rw [Nat.one_shiftLeft, ← Nat.shiftLeft_eq]
    rfl
  rw [product]
  cases measured : measured? (backoff.base * 1 <<< min (attempt - 1) 31) with
  | none =>
      have longer := lt_of_measured?_eq_none measured told
      exact Nat.min_eq_right (Nat.le_of_lt longer)
  | some wait => rw [eq_of_measured? measured]

namespace Settings

/-- Whether all numbers are of the size in which they are written. -/
structure InRange (settings : Settings) : Prop where
  flushInterval : settings.flushInterval < 1 <<< 64
  debounce : settings.debounce < 1 <<< 64
  reconcileEvery : settings.reconcileEvery < 1 <<< 32
  lockout : settings.lockout < 1 <<< 64
  connectTimeout : settings.connectTimeout < 1 <<< 64
  reconnectBase : settings.reconnectBase < 1 <<< 64
  reconnectMax : settings.reconnectMax < 1 <<< 64
  maxReconnects : settings.maxReconnects < 1 <<< 32
  emptySyncWait : settings.emptySyncWait < 1 <<< 64

/-- Whether the wait before an attempt is found with a factor of 32 bits and a product that is
given up if it cannot be told, and the clock can tell the time of the attempt. -/
structure TellsDelay (settings : Settings) (clock : Clock) (attempt now : Nat) : Prop where
  factor : 1 <<< min (attempt - 1) 31 < 1 <<< 32
  product : settings.backoff.delay attempt =
    match measured? (settings.reconnectBase * 1 <<< min (attempt - 1) 31) with
    | some wait => min wait settings.reconnectMax
    | none => settings.reconnectMax
  due : now + settings.backoff.delay attempt ≤ clock.last

/-- Whether settings can be run by a clock from a time on: every length of time and every moment
that has to be found can be told, and no call for a new session ends the program. -/
structure RunsFrom (settings : Settings) (clock : Clock) (now : Nat) : Prop where
  interval : settings.reconcileInterval?.isSome = true
  delays : ∀ attempt, settings.TellsDelay clock attempt now
  timeout : now + settings.connectTimeout ≤ clock.last
  flush : now + settings.flushInterval ≤ clock.last
  starts : ∀ {ν : Type} [Transport ν] (desk : Desk ν), desk.settings = settings →
    desk.clock = clock →
      ∀ call error, Call.failure? call desk now = some error → error.isOverflow = false

variable {settings : Settings} {clock : Clock} {now : Nat}

theorem reconcileInterval?_eq (settings : Settings) : settings.reconcileInterval? =
    measured? (settings.flushInterval * settings.reconcileEvery) := rfl

theorem delay_le (settings : Settings) (attempt : Nat) :
    settings.backoff.delay attempt ≤ settings.reconnectMax :=
  Nat.min_le_right _ _

/-- Every wait before an attempt can be found. -/
theorem tellsDelay (inRange : settings.InRange) (clock : Clock) (early : now < 1 <<< 64)
    (attempt : Nat) : settings.TellsDelay clock attempt now := by
  refine ⟨?_, ?_, ?_⟩
  · rw [Nat.one_shiftLeft, Nat.one_shiftLeft]
    exact Nat.pow_lt_pow_right (by decide) (by omega)
  · exact Backoff.delay_eq_measured (measured?_of_lt inRange.reconnectMax) attempt
  · have short := Nat.lt_of_le_of_lt (settings.delay_le attempt) inRange.reconnectMax
    exact clock.add_le_last early short

end Settings

namespace Desk

variable {settings : Settings} {clock : Clock} {agenda : Agenda} {now : Nat}

theorem isOverflow_of_periodic {error : SessionError}
    (fails : periodic settings clock agenda now = .error error) : error.isOverflow = true := by
  rw [periodic] at fails
  split at fails
  · cases fails
    rfl
  · split at fails
    · cases fails
      rfl
    · cases fails

/-- The periodic tasks can be planned exactly if the clock can tell when the buffer is to be
reconciled first. -/
theorem exists_periodic_iff : (∃ planned, periodic settings clock agenda now = .ok planned) ↔
    now + settings.flushInterval * settings.reconcileEvery ≤ clock.last := by
  constructor
  · rintro ⟨planned, plans⟩
    rcases periodic_eq_ok_iff.1 plans with ⟨interval, spaced, told, _⟩
    rw [Settings.reconcileInterval?_eq] at spaced
    cases eq_of_measured? spaced
    exact told
  · intro told
    have spaced := Clock.measured?_of_le_last told
    exact ⟨_, periodic_eq_ok_iff.2 ⟨_, spaced, told, rfl⟩⟩

variable {ν : Type} [Transport ν]

/-- A session that cannot be started for the times in its settings has none that the clock can
tell. -/
theorem last_lt_of_start {desk : Desk ν} {session : Session} {error : SessionError}
    (fails : (desk.start session now).1 = .error error) (overflows : error.isOverflow = true) :
    desk.clock.last < now + desk.settings.flushInterval * desk.settings.reconcileEvery := by
  rw [start] at fails
  split at fails
  · cases fails
    cases overflows
  · by_contra told
    rcases exists_periodic_iff.2 (Nat.le_of_not_lt told) with ⟨planned, plans⟩
    rw [plans] at fails
    cases fails

/-- Calls for a new session end the program only if the settings ask for it. -/
theorem isOverflow_of_failure {desk : Desk ν} {call : Call} {error : SessionError}
    (fails : call.failure? desk now = some error)
    (told : now + desk.settings.flushInterval * desk.settings.reconcileEvery ≤ desk.clock.last) :
    error.isOverflow = false := by
  rcases failsWith_of_failure fails with ⟨_, harmless⟩ | ⟨_, session, prepared, same, _, failed⟩
  · exact harmless
  · by_contra overflows
    have late := last_lt_of_start (congrArg Prod.fst failed) (by simpa using overflows)
    have settings : prepared.settings = desk.settings := congrArg Participant.settings same
    have clock : prepared.clock = desk.clock := congrArg Participant.clock same
    rw [settings, clock] at late
    exact Nat.not_lt.2 told late

/-- With settings whose first reconciliation would come too late, a session that has been connected
is given up, and the program ends. -/
theorem isOverflow_of_connected {desk : Desk ν} {session : Session} {line : Line ν}
    (connects : (desk.line session).connect now = (.ok (), line))
    (late : desk.clock.last <
      now + desk.settings.flushInterval * desk.settings.reconcileEvery) :
    ∃ error, desk.start session now = (.error error, desk.giveUp line.shutDown) ∧
      error.isOverflow = true := by
  rw [start, connects]
  cases plans : periodic desk.settings desk.clock line.agenda now with
  | error error => exact ⟨error, by simp only [plans], isOverflow_of_periodic plans⟩
  | ok planned =>
      have told := exists_periodic_iff.1 ⟨planned, plans⟩
      exact absurd late (Nat.not_lt.2 told)

/-- Somebody who has opened an empty buffer and can be reached by peers. -/
def solitary (settings : Settings) (clock : Clock) : Desk Scripted :=
  { settings, clock, buffer := Buffer.ofText [], network := { serves := .peerToPeer } }

theorem isOverflow_of_solitary (valid : settings.validate = .ok ())
    (late : clock.last < now + settings.flushInterval * settings.reconcileEvery) (draws : Draws) :
    ∃ error, Call.failure? (.host .peerToPeer draws) (solitary settings clock) now = some error ∧
      error.isOverflow = true := by
  have free : (solitary settings clock).obstacle? = none := by
    simp only [obstacle?, solitary, valid]
    rfl
  have mode : Transport.mode (solitary settings clock).network = HostTarget.peerToPeer.mode := rfl
  rw [Call.failure?, host, free]
  simp only [mode, ne_eq, not_true, if_false, hostPlan]
  rcases prepares : (solitary settings clock).prepare .host .listen none none
    (seed draws.replica (solitary settings clock).buffer { window := settings.debounce }).1
    (seed draws.replica (solitary settings clock).buffer { window := settings.debounce }).2 now with
    ⟨session, prepared⟩
  have accepts : ∃ line, (prepared.line session).connect now = (.ok (), line) := by
    cases prepares
    exact ⟨_, rfl⟩
  have same : prepared.settings = settings ∧ prepared.clock = clock := by
    cases prepares
    exact ⟨rfl, rfl⟩
  rcases accepts with ⟨line, connects⟩
  rw [← same.1, ← same.2] at late
  rcases isOverflow_of_connected connects late with ⟨error, fails, overflows⟩
  have debounce : (solitary settings clock).settings.debounce = settings.debounce := rfl
  simp only [debounce, prepares, fails]
  exact ⟨error, rfl, overflows⟩

end Desk

namespace Settings

variable {settings : Settings} {now : Nat}

/-- Settings that were found to be good can be run by a clock from some time on exactly if it can
tell the first reconciliation. The waits before attempts to reconnect can be found in any case. -/
theorem runsFrom_iff (inRange : settings.InRange) (valid : settings.validate = .ok ())
    (clock : Clock) (early : now < 1 <<< 64) :
    (∀ attempt, settings.TellsDelay clock attempt now) ∧
      (settings.RunsFrom clock now ↔
        now + settings.flushInterval * settings.reconcileEvery ≤ clock.last) := by
  refine ⟨tellsDelay inRange clock early, ?_, ?_⟩
  · intro runs
    by_contra late
    let draws : Draws := ⟨1, 0, ⟨.replicate 32 0, SessionKey.length_zeros⟩⟩
    rcases Desk.isOverflow_of_solitary valid (Nat.lt_of_not_le late) draws with
      ⟨error, fails, overflows⟩
    have harmless := runs.starts _ rfl rfl _ error fails
    rw [overflows] at harmless
    cases harmless
  · intro told
    have spaced := Clock.measured?_of_le_last told
    refine ⟨?_, tellsDelay inRange clock early, clock.add_le_last early inRange.connectTimeout,
      clock.add_le_last early inRange.flushInterval, ?_⟩
    · rw [reconcileInterval?_eq, spaced]
      rfl
    · rintro ν _ desk rfl rfl call error fails
      exact Desk.isOverflow_of_failure fails told

/-- The settings that nobody has changed can be run. -/
theorem default_runsFrom :
    ({} : Settings).InRange ∧ ({} : Settings).validate = .ok () ∧
      ({} : Settings).RunsFrom .usual 0 := by
  have inRange : ({} : Settings).InRange := by
    constructor <;> decide
  have valid : ({} : Settings).validate = .ok () := by decide
  exact ⟨inRange, valid, (runsFrom_iff inRange valid .usual (by decide)).2.2 (by decide)⟩

/-- Settings with the longest times, which are found to be good. -/
def endless : Settings :=
  { flushInterval := 18446744073709551615, reconcileEvery := 4294967295 }

/-- A session with the longest times ends the program when it is started, and no clock can run
it. -/
theorem endless_not_runsFrom :
    endless.InRange ∧ endless.validate = .ok () ∧ endless.reconcileInterval? = none ∧
      Call.failure? (.host .peerToPeer ⟨1, 0, ⟨.replicate 32 0, SessionKey.length_zeros⟩⟩)
        (Desk.solitary endless .usual) 0 = some .intervalOverflow ∧
      ∀ clock, ¬endless.RunsFrom clock 0 := by
  have none : endless.reconcileInterval? = none := by decide
  refine ⟨by constructor <;> decide, by decide, none, by decide +kernel, ?_⟩
  intro clock runs
  have some := runs.interval
  rw [none] at some
  cases some

end Settings

end Cowrite
