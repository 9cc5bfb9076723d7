import Cowrite.Proofs.Session.Course
import Cowrite.Proofs.Session.Redialing

/-!
# The discipline of retrying

Each loss of the connection is counted, announced and answered by one plan to try again, after a
wait that its number tells; once too many have been counted the session is over
(`Retrying.Disciplined`). Nothing but the plan makes a session dial, and no signal counts while
there is one.

The count begins anew when the transport confirms a connection, if the session waits for it. It may
have stopped waiting before: a peer or a state of the document that comes first brings it into sync.
A confirmation that follows is taken for a second one, and what was counted stays. So the discipline
is kept all along a run exactly if no confirmation comes too late (`Retrying.disciplined_iff`).
-/

namespace Cowrite

/-- The `k`-th attempt to reconnect, planned at some time. -/
def Settings.attempt (settings : Settings) (k now : Nat) : Appointment :=
  { task := .reconnect, due := now + settings.backoff.delay k, period := none }

def Settings.announcement (settings : Settings) (k : Nat) : Notice :=
  .reconnecting k settings.maxReconnects (settings.backoff.delay k)

namespace Occasion

variable {ν : Type}

def opens : Occasion ν → Bool
  | .call asked _ => asked.number?.isSome
  | _ => false

def takesNotices : Occasion ν → Bool
  | .call .takeNotices _ => true
  | _ => false

end Occasion

/-- A desk, and how many losses there were since the transport last confirmed a connection. -/
structure Retrying (ν : Type) where
  desk : Desk (Dialed ν)
  losses : Nat := 0

namespace Retrying

variable {ν : Type} {retrying : Retrying ν}

/-- The account of a session whose losses have been counted. -/
structure Counted (retrying : Retrying ν) : Prop where
  tended : retrying.desk.Tended
  contact : ∀ contact ∈ retrying.desk.account.contact,
    contact = (retrying.losses, retrying.desk.settings.backoff)
  bounded : retrying.desk.session.isSome = true →
    retrying.losses ≤ retrying.desk.settings.maxReconnects
  /-- One loss too many can still be counted. -/
  countable : retrying.desk.settings.maxReconnects + 1 < 1 <<< 32

theorem Counted.plans_of_ended (counted : retrying.Counted) (ended : retrying.desk.session = none) :
    retrying.desk.account.plans = [] := by
  rw [Desk.account, counted.tended.idle ended]
  rfl

theorem Counted.contact_of_present (counted : retrying.Counted)
    (active : retrying.desk.session.isSome = true) :
    retrying.desk.account.contact = some (retrying.losses, retrying.desk.settings.backoff) := by
  rcases Option.isSome_iff_exists.1 active with ⟨session, present⟩
  have held : (session.connection.attempts, session.connection.backoff) ∈
      retrying.desk.account.contact := by
    rw [Desk.account, present]
    rfl
  rw [← counted.contact _ held]
  exact held

/-- The attempts of the next session are told by the next account. -/
theorem counts_of_contact {losses : Nat} {backoff : Backoff} {desk : Desk (Dialed ν)}
    (contact : ∀ contact ∈ desk.account.contact, contact = (losses, backoff)) :
    ∀ session ∈ desk.session, session.connection.attempts = losses := by
  intro session present
  have same : (session.connection.attempts, session.connection.backoff) ∈ desk.account.contact := by
    rw [Desk.account, present]
    rfl
  exact congrArg Prod.fst (contact _ same)

variable [Transport ν] {occasion : Occasion (Dialed ν)} {now : Nat}

def isConfirmed (retrying : Retrying ν) (occasion : Occasion (Dialed ν)) (now : Nat) : Bool :=
  (retrying.desk.matter? occasion now).any (retrying.desk.takeMatter now).2.confirms

def isLost (retrying : Retrying ν) (occasion : Occasion (Dialed ν)) (now : Nat) : Bool :=
  (retrying.desk.matter? occasion now).any fun matter =>
    (retrying.desk.takeMatter now).2.losesBy matter now

/-- The losses that still count, if there is no other one. -/
def kept (retrying : Retrying ν) (occasion : Occasion (Dialed ν)) (now : Nat) : Nat :=
  if retrying.isConfirmed occasion now then 0 else retrying.losses

/-- Losses are counted from the beginning of a session, and from each confirmation on. -/
def next (retrying : Retrying ν) (occasion : Occasion (Dialed ν)) (now : Nat) : Retrying ν where
  desk := retrying.desk.meets occasion now
  losses :=
    if retrying.desk.session.isNone then 0
    else retrying.kept occasion now + if retrying.isLost occasion now then 1 else 0

/-- What can be expected of anything that happens. -/
structure Disciplined (retrying : Retrying ν) (occasion : Occasion (Dialed ν)) (now : Nat) :
    Prop where
  counts : ∀ session ∈ (retrying.next occasion now).desk.session,
    session.connection.attempts = (retrying.next occasion now).losses
  /-- A loss is followed by one plan and one notice. -/
  schedules : retrying.isLost occasion now = true →
    (retrying.next occasion now).losses ≤ retrying.desk.settings.maxReconnects →
      (retrying.next occasion now).desk.session.isSome = true ∧
      (retrying.next occasion now).desk.account.plans =
        [retrying.desk.settings.attempt (retrying.next occasion now).losses now] ∧
      (retrying.next occasion now).desk.account.told = retrying.desk.account.told ++
        [retrying.desk.settings.announcement (retrying.next occasion now).losses]
  /-- One loss too many ends the session, with one notice. -/
  exhausts : retrying.isLost occasion now = true →
    retrying.desk.settings.maxReconnects < (retrying.next occasion now).losses →
      (retrying.next occasion now).losses = retrying.desk.settings.maxReconnects + 1 ∧
      (retrying.next occasion now).desk.session = none ∧
      (retrying.next occasion now).desk.agenda = {} ∧
      (retrying.next occasion now).desk.account.told = retrying.desk.account.told ++
        [.failed retrying.desk.settings.maxReconnects]
  /-- Without a loss nothing is said and nothing is planned. A plan goes when it is carried out, or
  with the session. -/
  rests : retrying.isLost occasion now = false →
    (occasion.takesNotices = false →
      (retrying.next occasion now).desk.account.told = retrying.desk.account.told) ∧
    (retrying.next occasion now).desk.account.plans =
      if (retrying.next occasion now).desk.session.isNone ∨
          retrying.desk.matter? occasion now = some (.task .reconnect) then []
      else retrying.desk.account.plans
  /-- While an attempt is planned, no event or timeout comes up, and to lose the connection would
  change nothing but that no peers are listed. -/
  ignores : retrying.desk.account.plans ≠ [] →
    (∀ matter ∈ retrying.desk.matter? occasion now, ∃ task, matter = .task task ∧
      task ≠ .connectTimeout) ∧
    retrying.desk.onConnectionLost now = { retrying.desk with
      session := retrying.desk.session.map fun session => { session with peers := [] } }
  /-- The transport is asked to connect when a session is opened, and once for each plan. -/
  dials : occasion.isOwn = true →
    (retrying.next occasion now).desk.network.dials = retrying.desk.network.dials +
        (if retrying.desk.matter? occasion now = some (.task .reconnect) then 1 else 0) ∨
      retrying.desk.session = none ∧ occasion.opens = true ∧
        (retrying.next occasion now).desk.network.dials = retrying.desk.network.dials + 1
  /-- Without a session nothing comes up and none begins unless it is asked for. -/
  closed : retrying.desk.session = none → retrying.desk.matter? occasion now = none ∧
    (occasion.opens = false → (retrying.next occasion now).desk.session = none)

/-- A confirmation comes in time if the session waits for it. If nothing has been lost, it may come
at any time. -/
def Heeds (retrying : Retrying ν) (occasion : Occasion (Dialed ν)) (now : Nat) : Prop :=
  retrying.isConfirmed occasion now = true → retrying.desk.awaits = true ∨ retrying.losses = 0

def Throughout (holds : Retrying ν → Occasion (Dialed ν) → Nat → Prop) (retrying : Retrying ν) :
    List (Occasion (Dialed ν) × Nat) → Prop
  | [] => True
  | (occasion, now) :: rest =>
      holds retrying occasion now ∧ (retrying.next occasion now).Throughout holds rest

/-! ## One step -/

theorem Counted.ignores (counted : retrying.Counted)
    (planned : retrying.desk.account.plans ≠ []) :
    (∀ matter ∈ retrying.desk.matter? occasion now, ∃ task, matter = .task task ∧
      task ≠ .connectTimeout) ∧
    retrying.desk.onConnectionLost now = { retrying.desk with
      session := retrying.desk.session.map fun session => { session with peers := [] } } := by
  have redials : retrying.desk.agenda.has .reconnect = true := by
    rw [← Bool.not_eq_false, ← Agenda.plans_eq_nil_iff]
    exact planned
  refine ⟨?_, Desk.onConnectionLost_of_planned redials now⟩
  intro matter found
  cases occasion with
  | round =>
      cases matter with
      | event event =>
          rcases Desk.client_of_takeMatter found with ⟨session, present, client⟩
          exact absurd (((counted.tended.line session present).planned).1 redials) client
      | task task =>
          refine ⟨task, rfl, ?_⟩
          rintro rfl
          rcases Option.eq_none_or_eq_some retrying.desk.session with ended | ⟨session, present⟩
          · rw [counted.tended.idle ended] at redials
            cases redials
          · have tends := counted.tended.line session present
            have untimed : retrying.desk.agenda.has .connectTimeout = false :=
              (tends.alone (tends.planned.1 redials)).2
            have timed := Desk.has_of_takeMatter found
            exact absurd (timed.symm.trans untimed) (by decide)
  | _ => cases found

theorem Counted.closed (counted : retrying.Counted) (ended : retrying.desk.session = none) :
    retrying.desk.matter? occasion now = none ∧
      (occasion.opens = false → (retrying.next occasion now).desk.session = none) := by
  have empty := counted.tended.idle ended
  cases occasion with
  | network change => exact ⟨rfl, fun _ => ended⟩
  | buffer change => exact ⟨rfl, fun _ => ended⟩
  | call asked single =>
      refine ⟨rfl, fun closed => ?_⟩
      exact (Desk.perform_of_ended ended empty (by simpa [Occasion.opens] using closed) now).1
  | round =>
      have taken := Desk.takeMatter_of_ended ended empty now
      refine ⟨congrArg Prod.fst taken, fun _ => ?_⟩
      have polled := Desk.pollOnce_of_none (congrArg Prod.fst taken)
      rw [taken] at polled
      exact (congrArg (fun polled => polled.2.session) polled).trans ended

/-- What has nothing to do with retrying keeps the discipline and the count. -/
theorem Counted.disciplined_of_calm (counted : retrying.Counted)
    (calm : ∀ matter ∈ retrying.desk.matter? occasion now, matter ≠ .task .reconnect)
    (unconfirmed : retrying.isConfirmed occasion now = false)
    (unlost : retrying.isLost occasion now = false)
    (tended : (retrying.next occasion now).desk.Tended)
    (settings : (retrying.next occasion now).desk.settings = retrying.desk.settings)
    (contact : (retrying.next occasion now).desk.account.contact = none ∨
      (retrying.next occasion now).desk.account.contact = retrying.desk.account.contact ∨
      retrying.desk.session = none ∧ (retrying.next occasion now).desk.account.contact =
        some (0, retrying.desk.settings.backoff))
    (plans : (retrying.next occasion now).desk.session.isSome = true →
      (retrying.next occasion now).desk.account.plans = retrying.desk.account.plans)
    (told : occasion.takesNotices = false →
      (retrying.next occasion now).desk.account.told = retrying.desk.account.told)
    (dials : occasion.isOwn = true →
      (retrying.next occasion now).desk.network.dials = retrying.desk.network.dials ∨
        retrying.desk.session = none ∧ occasion.opens = true ∧
          (retrying.next occasion now).desk.network.dials = retrying.desk.network.dials + 1) :
    retrying.Disciplined occasion now ∧ (retrying.next occasion now).Counted := by
  have losses : (retrying.next occasion now).losses =
      if retrying.desk.session.isNone then 0 else retrying.losses := by
    simp [next, kept, unconfirmed, unlost]
  have later : ∀ contact ∈ (retrying.next occasion now).desk.account.contact,
      contact = ((retrying.next occasion now).losses, retrying.desk.settings.backoff) := by
    intro other held
    rcases contact with none | same | ⟨ended, begun⟩
    · rw [none] at held
      cases held
    · rw [same] at held
      have present : retrying.desk.session.isNone = false := by
        rcases Option.map_eq_some_iff.1 held with ⟨session, present, _⟩
        rw [present]
        rfl
      rw [losses, present]
      exact counted.contact other held
    · rw [begun] at held
      cases held
      rw [losses, ended]
      rfl
  have steady : ¬retrying.desk.matter? occasion now = some (.task .reconnect) :=
    fun fires => calm _ fires rfl
  refine ⟨⟨counts_of_contact later, ?_, ?_, ?_, counted.ignores, ?_, counted.closed⟩, tended,
    ?_, ?_, settings ▸ counted.countable⟩
  · rw [unlost]
    exact fun lost => absurd lost (by decide)
  · rw [unlost]
    exact fun lost => absurd lost (by decide)
  · intro _
    refine ⟨told, ?_⟩
    cases present : (retrying.next occasion now).desk.session with
    | none =>
        rw [Desk.account, tended.idle present]
        rfl
    | some session => simpa [steady] using plans (by rw [present]; rfl)
  · rw [if_neg steady]
    exact dials
  · rw [settings]
    exact later
  · rw [settings, losses]
    intro _
    split
    case isTrue => exact Nat.zero_le _
    case isFalse present =>
      exact counted.bounded (by simpa [Option.isSome_iff_ne_none] using present)

theorem Counted.disciplined_call (counted : retrying.Counted) {call : Call} (single : call ≠ .poll)
    (now : Nat) :
    retrying.Disciplined (.call call single) now ∧
      (retrying.next (.call call single) now).Counted := by
  have tended : (call.perform retrying.desk now).Tended := counted.tended.perform call now
  rcases counted.tended.account_perform single now with
    same | leaves | ⟨rfl, taken⟩ | ⟨opens, ended, contact, begins, opened⟩
  · refine counted.disciplined_of_calm nofun rfl rfl tended (congrArg Account.settings same)
      (.inr (.inl (congrArg Account.contact same))) ?_ ?_ ?_
    · exact fun _ => congrArg Account.plans same
    · exact fun _ => congrArg Account.told same
    · exact fun _ => .inl (congrArg Account.dials same)
  · have nobody : (call.perform retrying.desk now).session = none :=
      Option.map_eq_none_iff.1 (congrArg Account.contact leaves)
    refine counted.disciplined_of_calm nofun rfl rfl tended (congrArg Account.settings leaves)
      (.inl (congrArg Account.contact leaves)) ?_ ?_ ?_
    · intro active
      rw [show (retrying.next (.call call single) now).desk.session = none from nobody] at active
      cases active
    · exact fun _ => (congrArg Account.told leaves :)
    · exact fun _ => .inl (congrArg Account.dials leaves)
  · refine counted.disciplined_of_calm nofun rfl rfl tended (congrArg Account.settings taken)
      (.inr (.inl (congrArg Account.contact taken :))) ?_ ?_ ?_
    · exact fun _ => (congrArg Account.plans taken :)
    · exact fun closed => by cases closed
    · exact fun _ => .inl (congrArg Account.dials taken)
  · have begun := congrArg Account.contact opened
    refine counted.disciplined_of_calm nofun rfl rfl tended (congrArg Account.settings opened)
      ?_ ?_ ?_ ?_
    · rcases begins with rfl | rfl
      · exact .inl begun
      · exact .inr (.inr ⟨ended, begun⟩)
    · intro _
      rw [counted.plans_of_ended ended]
      exact congrArg Account.plans opened
    · exact fun _ => (congrArg Account.told opened :)
    · exact fun _ => .inr ⟨ended, Option.isSome_iff_ne_none.2 opens, congrArg Account.dials opened⟩

theorem losses_next (active : retrying.desk.session.isSome = true) :
    (retrying.next occasion now).losses =
      retrying.kept occasion now + if retrying.isLost occasion now then 1 else 0 := by
  have present : retrying.desk.session.isNone = false := Option.isNone_eq_false_iff.2 active
  simp [next, present]

theorem Counted.kept_le (counted : retrying.Counted)
    (active : retrying.desk.session.isSome = true) :
    retrying.kept occasion now ≤ retrying.desk.settings.maxReconnects := by
  rw [kept]
  split
  · exact Nat.zero_le _
  · exact counted.bounded active

/-- The next loss is within the count. -/
theorem Counted.nextAttempt_kept (counted : retrying.Counted)
    (active : retrying.desk.session.isSome = true) :
    Connection.nextAttempt (retrying.kept occasion now) = retrying.kept occasion now + 1 := by
  apply Connection.nextAttempt_of_lt
  exact Nat.lt_of_le_of_lt (Nat.succ_le_succ (counted.kept_le active)) counted.countable

/-- A round in which the connection is not lost. -/
theorem Counted.disciplined_of_kept (counted : retrying.Counted)
    (active : retrying.desk.session.isSome = true)
    (unlost : retrying.isLost .round now = false)
    (tended : (retrying.next .round now).desk.Tended)
    (deals : (retrying.next .round now).desk.account = { retrying.desk.account with
      contact := some (retrying.kept .round now, retrying.desk.settings.backoff)
      plans := if retrying.desk.matter? .round now = some (.task .reconnect) then []
        else retrying.desk.account.plans
      dials := retrying.desk.account.dials +
        if retrying.desk.matter? .round now = some (.task .reconnect) then 1 else 0 }) :
    retrying.Disciplined .round now ∧ (retrying.next .round now).Counted := by
  have losses : (retrying.next .round now).losses = retrying.kept .round now := by
    simp [losses_next active, unlost]
  have settings : (retrying.next .round now).desk.settings = retrying.desk.settings :=
    congrArg Account.settings deals
  have contact : ∀ contact ∈ (retrying.next .round now).desk.account.contact,
      contact = ((retrying.next .round now).losses, retrying.desk.settings.backoff) := by
    simp [deals, losses]
  have goesOn : (retrying.next .round now).desk.session.isNone = false := by
    simpa [Desk.account] using congrArg (fun account => account.contact.isNone) deals
  refine ⟨⟨counts_of_contact contact, ?_, ?_, ?_, counted.ignores, ?_, counted.closed⟩, tended,
    ?_, ?_, settings ▸ counted.countable⟩
  · exact fun lost => absurd (lost.symm.trans unlost) (by decide)
  · exact fun lost => absurd (lost.symm.trans unlost) (by decide)
  · refine fun _ => ⟨fun _ => (congrArg Account.told deals :), ?_⟩
    simpa [goesOn] using congrArg Account.plans deals
  · exact fun _ => .inl (congrArg Account.dials deals :)
  · rw [settings]
    exact contact
  · rw [settings, losses]
    exact fun _ => counted.kept_le active

/-- A round in which the connection is lost and may be tried again. -/
theorem Counted.disciplined_of_scheduled (counted : retrying.Counted)
    (active : retrying.desk.session.isSome = true)
    (lost : retrying.isLost .round now = true)
    (inTime : retrying.kept .round now < retrying.desk.settings.maxReconnects)
    (tended : (retrying.next .round now).desk.Tended)
    (deals : (retrying.next .round now).desk.account = { retrying.desk.account with
      contact := some (retrying.kept .round now + 1, retrying.desk.settings.backoff)
      plans := [retrying.desk.settings.attempt (retrying.kept .round now + 1) now]
      told := retrying.desk.account.told ++
        [retrying.desk.settings.announcement (retrying.kept .round now + 1)]
      dials := retrying.desk.account.dials +
        if retrying.desk.matter? .round now = some (.task .reconnect) then 1 else 0 }) :
    retrying.Disciplined .round now ∧ (retrying.next .round now).Counted := by
  have losses : (retrying.next .round now).losses = retrying.kept .round now + 1 := by
    simp [losses_next active, lost]
  have settings : (retrying.next .round now).desk.settings = retrying.desk.settings :=
    congrArg Account.settings deals
  have contact : ∀ contact ∈ (retrying.next .round now).desk.account.contact,
      contact = ((retrying.next .round now).losses, retrying.desk.settings.backoff) := by
    simp [deals, losses]
  have goesOn : (retrying.next .round now).desk.session.isSome = true := by
    simpa [Desk.account] using congrArg (fun account => account.contact.isSome) deals
  refine ⟨⟨counts_of_contact contact, ?_, ?_, ?_, counted.ignores, ?_, counted.closed⟩, tended,
    ?_, ?_, settings ▸ counted.countable⟩
  · rw [losses]
    exact fun _ _ => ⟨goesOn, congrArg Account.plans deals, congrArg Account.told deals⟩
  · rw [losses]
    intro _ late
    omega
  · exact fun unlost => absurd (lost.symm.trans unlost) (by decide)
  · exact fun _ => .inl (congrArg Account.dials deals :)
  · rw [settings]
    exact contact
  · rw [settings, losses]
    exact fun _ => inTime

/-- A round in which the connection is lost for good. -/
theorem Counted.disciplined_of_exhausted (counted : retrying.Counted)
    (active : retrying.desk.session.isSome = true)
    (lost : retrying.isLost .round now = true)
    (late : retrying.desk.settings.maxReconnects ≤ retrying.kept .round now)
    (tended : (retrying.next .round now).desk.Tended)
    (deals : (retrying.next .round now).desk.account = { retrying.desk.account with
      contact := none
      plans := []
      told := retrying.desk.account.told ++ [.failed retrying.desk.settings.maxReconnects]
      dials := retrying.desk.account.dials +
        if retrying.desk.matter? .round now = some (.task .reconnect) then 1 else 0 }) :
    retrying.Disciplined .round now ∧ (retrying.next .round now).Counted := by
  have losses : (retrying.next .round now).losses =
      retrying.desk.settings.maxReconnects + 1 := by
    simp [losses_next active, lost, Nat.le_antisymm (counted.kept_le active) late]
  have ended : (retrying.next .round now).desk.session = none :=
    Option.map_eq_none_iff.1 (congrArg Account.contact deals)
  have settings : (retrying.next .round now).desk.settings = retrying.desk.settings :=
    congrArg Account.settings deals
  refine ⟨⟨?_, ?_, ?_, ?_, counted.ignores, ?_, counted.closed⟩, tended, ?_, ?_,
    settings ▸ counted.countable⟩
  · simp [ended]
  · rw [losses]
    intro _ early
    omega
  · exact fun _ _ => ⟨losses, ended, tended.idle ended, congrArg Account.told deals⟩
  · exact fun unlost => absurd (lost.symm.trans unlost) (by decide)
  · exact fun _ => .inl (congrArg Account.dials deals :)
  · simp [deals]
  · simp [ended]

theorem awaits_takeMatter (desk : Desk (Dialed ν)) (now : Nat) :
    (desk.takeMatter now).2.awaits = desk.awaits := by
  rcases desk.exists_takeMatter_snd now with ⟨agenda, taken⟩
  rw [taken, Desk.awaits, Desk.awaits, Desk.nextEvent]
  cases present : desk.session with
  | none => simp only [present]
  | some session => rfl

/-- What a round has to do with retrying: it does what its flags say, or a flush ends the
session. -/
theorem Counted.account_round (counted : retrying.Counted) (now : Nat) :
    (retrying.next .round now).desk.account = retrying.desk.account.next
        (retrying.isConfirmed .round now && retrying.desk.awaits)
        (retrying.desk.matter? .round now = some (.task .reconnect))
        (retrying.isLost .round now) now ∨
      retrying.desk.matter? .round now = some (.task .flush) ∧
        (retrying.next .round now).desk.account = retrying.desk.account.ended := by
  refine (counted.tended.account_pollOnce now).imp_left fun deals => deals.trans ?_
  rw [awaits_takeMatter, isConfirmed, isLost, Desk.matter?]
  cases (retrying.desk.takeMatter now).1 with
  | none => rfl
  | some matter => rfl

/-- A round keeps the discipline if no confirmation comes too late in it. -/
theorem Counted.disciplined_round (counted : retrying.Counted) (heeds : retrying.Heeds .round now) :
    retrying.Disciplined .round now ∧ (retrying.next .round now).Counted := by
  have tended : (retrying.next .round now).desk.Tended := counted.tended.pollOnce now
  cases present : retrying.desk.session with
  | none =>
      have nothing : retrying.desk.matter? .round now = none := (counted.closed present).1
      have same : (retrying.next .round now).desk.account = retrying.desk.account := by
        rcases counted.account_round now with deals | ⟨flushes, _⟩
        · rw [deals, isConfirmed, isLost, nothing]
          rfl
        · cases nothing.symm.trans flushes
      refine counted.disciplined_of_calm ?_ ?_ ?_ tended (congrArg Account.settings same)
        (.inr (.inl (congrArg Account.contact same))) ?_ ?_ ?_
      · simp [nothing]
      · rw [isConfirmed, nothing]
        rfl
      · rw [isLost, nothing]
        rfl
      · exact fun _ => congrArg Account.plans same
      · exact fun _ => congrArg Account.told same
      · exact fun _ => .inl (congrArg Account.dials same)
  | some session =>
      have active : retrying.desk.session.isSome = true := by
        rw [present]
        rfl
      rcases counted.account_round now with deals | ⟨flushes, leaves⟩
      · have contact := counted.contact_of_present active
        have keeps : (bif retrying.isConfirmed .round now && retrying.desk.awaits then 0
            else retrying.losses) = retrying.kept .round now := by
          rw [kept]
          cases confirmed : retrying.isConfirmed .round now with
          | false => rfl
          | true =>
              rcases heeds confirmed with waits | nothing
              · rw [waits]
                rfl
              · simp [nothing]
        cases lost : retrying.isLost .round now with
        | false =>
            rw [lost, Account.next_of_kept contact, keeps] at deals
            simp only [Bool.cond_decide] at deals
            exact counted.disciplined_of_kept active lost tended deals
        | true =>
            have attempt : Connection.nextAttempt (bif retrying.isConfirmed .round now &&
                retrying.desk.awaits then 0 else retrying.losses) =
                  retrying.kept .round now + 1 := by
              rw [keeps]
              exact counted.nextAttempt_kept active
            rw [lost] at deals
            rcases Nat.lt_or_ge (retrying.kept .round now) retrying.desk.settings.maxReconnects with
              inTime | late
            · rw [Account.next_of_le contact _ _ (attempt ▸ inTime), attempt] at deals
              simp only [Bool.cond_decide] at deals
              exact counted.disciplined_of_scheduled active lost inTime tended deals
            · rw [Account.next_of_lt contact _ _ (attempt ▸ Nat.lt_succ_of_le late)] at deals
              simp only [Bool.cond_decide] at deals
              exact counted.disciplined_of_exhausted active lost late tended deals
      · have ended : (retrying.next .round now).desk.session = none :=
          Option.map_eq_none_iff.1 (congrArg Account.contact leaves)
        refine counted.disciplined_of_calm ?_ ?_ ?_ tended (congrArg Account.settings leaves)
          (.inl (congrArg Account.contact leaves)) ?_ ?_ ?_
        · simp [flushes]
        · rw [isConfirmed, flushes]
          rfl
        · rw [isLost, flushes]
          rfl
        · simp [ended]
        · exact fun _ => (congrArg Account.told leaves :)
        · exact fun _ => .inl (congrArg Account.dials leaves)

theorem Counted.disciplined (counted : retrying.Counted) (heeds : retrying.Heeds occasion now) :
    retrying.Disciplined occasion now ∧ (retrying.next occasion now).Counted := by
  have tended := counted.tended
  cases occasion with
  | network change =>
      exact counted.disciplined_of_calm nofun rfl rfl ⟨tended.idle, tended.line, tended.limit⟩ rfl
        (.inr (.inl rfl)) (fun _ => rfl) (fun _ => rfl) nofun
  | buffer change =>
      exact counted.disciplined_of_calm nofun rfl rfl ⟨tended.idle, tended.line, tended.limit⟩ rfl
        (.inr (.inl rfl)) (fun _ => rfl) (fun _ => rfl) nofun
  | call call single => exact counted.disciplined_call single now
  | round => exact counted.disciplined_round heeds

/-- A confirmation that comes too late does not loosen what was counted, so the count is wrong. -/
theorem Counted.heeds (counted : retrying.Counted)
    (disciplined : retrying.Disciplined occasion now) : retrying.Heeds occasion now := by
  intro confirmed
  by_contra! late
  rcases late with ⟨settled, some⟩
  replace settled : retrying.desk.awaits = false := eq_false_of_ne_true settled
  cases occasion with
  | round =>
      rcases (Option.any_eq_true ..).1 confirmed with ⟨matter, found, confirms⟩
      rcases matter with event | task
      · rcases Desk.client_of_takeMatter found with ⟨session, present, _⟩
        have active : retrying.desk.session.isSome = true := by
          rw [present]
          rfl
        have unlost : retrying.isLost .round now = false := by
          have still : (retrying.desk.takeMatter now).2.awaits = false :=
            (awaits_takeMatter _ now).trans settled
          rw [isLost, found, Option.any_some]
          cases event <;> simp_all [Desk.confirms, Desk.losesBy]
        have same : (retrying.next .round now).desk.account = retrying.desk.account := by
          rcases counted.account_round now with deals | ⟨flushes, _⟩
          · rw [deals, settled, unlost, found]
            simp [Account.next]
          · cases found.symm.trans flushes
        have losses : (retrying.next .round now).losses = 0 := by
          simp [losses_next active, unlost, kept, confirmed]
        have contact := (congrArg Account.contact same).trans (counted.contact_of_present active)
        rcases Option.map_eq_some_iff.1 contact with ⟨later, next, count⟩
        exact some ((congrArg Prod.fst count).symm.trans
          ((disciplined.counts later next).trans losses))
      · cases confirms
  | _ => cases confirmed

/-- Over every run from before a session on, the discipline of retrying is kept all along if and
only if no confirmation comes too late. One loss more than the settings allow has to be within a
count of 32 bits. -/
theorem disciplined_iff {desk : Desk (Dialed ν)} (ended : desk.session = none)
    (empty : desk.agenda = {}) (countable : desk.settings.maxReconnects + 1 < 1 <<< 32)
    (occasions : List (Occasion (Dialed ν) × Nat)) :
    (⟨desk, 0⟩ : Retrying ν).Throughout Disciplined occasions ↔
      (⟨desk, 0⟩ : Retrying ν).Throughout Heeds occasions := by
  have counted : (⟨desk, 0⟩ : Retrying ν).Counted := by
    refine ⟨Desk.tended_of_ended ended empty, ?_, ?_, countable⟩
    · simp [Desk.account, ended]
    · simp [ended]
  generalize (⟨desk, 0⟩ : Retrying ν) = retrying at counted
  induction occasions generalizing retrying with
  | nil => exact Iff.rfl
  | cons first rest ih =>
      constructor
      · rintro ⟨disciplined, others⟩
        have heeds := counted.heeds disciplined
        exact ⟨heeds, (ih _ (counted.disciplined heeds).2).1 others⟩
      · rintro ⟨heeds, others⟩
        rcases counted.disciplined heeds with ⟨disciplined, later⟩
        exact ⟨disciplined, (ih _ later).2 others⟩

def run (retrying : Retrying ν) (occasions : List (Occasion (Dialed ν) × Nat)) : Retrying ν :=
  occasions.foldl (fun retrying occasion => retrying.next occasion.1 occasion.2) retrying

instance (retrying : Retrying ν) (occasion : Occasion (Dialed ν)) (now : Nat) :
    Decidable (retrying.Heeds occasion now) :=
  inferInstanceAs (Decidable (_ → _))

/-- To decide whether no confirmation comes too late. -/
def decidableHeeds : (retrying : Retrying ν) → (occasions : List (Occasion (Dialed ν) × Nat)) →
    Decidable (retrying.Throughout Heeds occasions)
  | _, [] => .isTrue trivial
  | retrying, (occasion, now) :: rest =>
      have := decidableHeeds (retrying.next occasion now) rest
      inferInstanceAs (Decidable (_ ∧ _))

instance (retrying : Retrying ν) (occasions : List (Occasion (Dialed ν) × Nat)) :
    Decidable (retrying.Throughout Heeds occasions) :=
  decidableHeeds retrying occasions

/-- Somebody about to host a session, over a transport that follows a script. -/
def idle : Desk (Dialed Scripted) :=
  { buffer := Buffer.ofText [], network := { transport := { serves := .peerToPeer } } }

def arrives (event : TransportEvent Update) : Occasion (Dialed Scripted) :=
  .network fun network => { network with transport := (network.transport.emit none event).2 }

def refuses (isRefusing : Bool) : Occasion (Dialed Scripted) :=
  .network fun network => { network with
    transport := { network.transport with refusesConnections := isRefusing } }

/-- A host loses its connection. -/
def interrupted : List (Occasion (Dialed Scripted) × Nat) :=
  [(.call (.host .peerToPeer ⟨2, 5, ⟨.replicate 32 (.ofNat 0), SessionKey.length_zeros⟩⟩) nofun, 0),
    (arrives .connected, 0), (.round, 10), (arrives .disconnected, 10), (.round, 20)]

/-- The first attempt to make a new one is refused, and the second one is confirmed. -/
def stubborn : List (Occasion (Dialed Scripted) × Nat) :=
  interrupted ++ [(refuses true, 20)] ++ .replicate 3 (.round, 1020) ++ [(refuses false, 1020)] ++
    .replicate 3 (.round, 3020) ++ [(arrives .connected, 3020), (.round, 3030)]

theorem stubborn_disciplined :
    idle.session = none ∧ idle.agenda = {} ∧ idle.settings.maxReconnects + 1 < 1 <<< 32 ∧
      (⟨idle, 0⟩ : Retrying Scripted).Throughout Disciplined stubborn ∧
      ((⟨idle, 0⟩ : Retrying Scripted).run stubborn).desk.network.dials = 3 ∧
        ((⟨idle, 0⟩ : Retrying Scripted).run stubborn).desk.session.isSome = true :=
  ⟨rfl, rfl, by decide, (disciplined_iff rfl rfl (by decide) stubborn).2 (by decide +kernel),
    by decide +kernel, by decide +kernel⟩

/-- A peer comes before the new connection is confirmed. -/
def overtaken : List (Occasion (Dialed Scripted) × Nat) :=
  interrupted ++ .replicate 3 (.round, 1020) ++
    [(arrives (.peerConnected "a"), 1020), (.round, 1030), (arrives .connected, 1030)]

/-- The confirmation comes, and the loss before it is still counted. -/
theorem overtaken_not_disciplined :
    ((⟨idle, 0⟩ : Retrying Scripted).run overtaken).isConfirmed .round 1040 = true ∧
      ¬((⟨idle, 0⟩ : Retrying Scripted).run overtaken).Disciplined .round 1040 := by
  refine ⟨by decide +kernel, fun disciplined => ?_⟩
  have counted :
      ((((⟨idle, 0⟩ : Retrying Scripted).run overtaken).next .round 1040).desk.session.any
        fun session => session.connection.attempts = 1) = true := by decide +kernel
  have none : (((⟨idle, 0⟩ : Retrying Scripted).run overtaken).next .round 1040).losses = 0 := by
    decide +kernel
  rcases (Option.any_eq_true ..).1 counted with ⟨session, present, one⟩
  have attempts := (disciplined.counts session present).trans none
  rw [of_decide_eq_true one] at attempts
  cases attempts

end Retrying

end Cowrite
