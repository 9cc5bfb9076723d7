import Cowrite.Proofs.Session.Bookkeeping

/-!
# Starts that fail

A start can fail before anything was done, and then nothing has changed. It can also fail after the
session was made, as the transport refuses to connect. Then everything is taken back
(`Desk.start_of_error`): what was connected is closed again, and the agenda is cleared. There was
nothing else on the agenda, as there was no session, so the participant is as before
(`Desk.undone_of_failure`).

A time that cannot be told comes up after the connection was made, and ends the program
(`SessionError.isOverflow`). Nothing is said of what is left then.
-/

namespace Cowrite

variable {ν : Type}

/-- A call that comes back with a late error was refused by the transport. -/
theorem SessionError.exists_refusal {error : SessionError} (late : error.isLate = true)
    (returned : error.isOverflow = false) : ∃ refusal, error = .connect refusal := by
  cases error with
  | connect refusal => exact ⟨refusal, rfl⟩
  | _ => exact absurd (returned.symm.trans late) Bool.false_ne_true

theorem Desk.session_of_obstacle? {desk : Desk ν} (free : desk.obstacle? = none) :
    desk.session = none := by
  rw [obstacle?] at free
  split at free
  case isTrue => cases free
  case isFalse inactive => exact Option.not_isSome_iff_eq_none.1 inactive

theorem Settings.isOverflow_of_validate {settings : Settings} {error : SessionError}
    (fails : settings.validate = .error error) : error.isOverflow = false := by
  rw [validate] at fails
  split at fails
  · cases fails
    rfl
  · split at fails
    · cases fails
      rfl
    · cases fails

theorem Desk.isOverflow_of_obstacle? {desk : Desk ν} {error : SessionError}
    (stands : desk.obstacle? = some error) : error.isOverflow = false := by
  rw [obstacle?] at stands
  split at stands
  · cases stands
    rfl
  · cases valid : desk.settings.validate with
    | error invalid =>
        rw [valid] at stands
        cases stands
        exact Settings.isOverflow_of_validate valid
    | ok done =>
        rw [valid] at stands
        simp only at stands
        split at stands
        · cases stands
        · cases stands
          rfl

theorem Desk.isOverflow_of_hostPlan {settings : Settings} {target : HostTarget} {draws : Draws}
    {error : SessionError} (fails : hostPlan settings target draws = .error error) :
    error.isOverflow = false := by
  unfold hostPlan at fails
  split at fails
  · cases fails
  · split at fails
    · cases fails
      rfl
    · cases fails

variable [Transport ν]

/-- Why a call for a new session failed, if it did. -/
def Call.failure? (call : Call) (desk : Desk ν) (now : Nat) : Option SessionError :=
  match call with
  | .host target draws =>
      match (desk.host target draws now).1 with
      | .error error => some error
      | .ok _ => none
  | .join code replica =>
      match (desk.join code replica now).1 with
      | .error error => some error
      | .ok () => none
  | _ => none

theorem isLate_of_periodic {settings : Settings} {clock : Clock} {agenda : Agenda} {now : Nat}
    {error : SessionError} (fails : Desk.periodic settings clock agenda now = .error error) :
    error.isLate = true := by
  rw [Desk.periodic] at fails
  split at fails
  · cases fails
    rfl
  · split at fails
    · cases fails
      rfl
    · cases fails

namespace Line

/-- A connection is begun under the name that was made for it, or not at all. -/
theorem book_connect_cases (line : Line (Booked ν)) (now : Nat) :
    (∃ after client, line.connect now = (.ok (), after) ∧
        after.connection.client = some client ∧
        after.network.book = line.network.book ++ [.opened client]) ∨
      ∃ error network, line.connect now = (.error error, { line with network }) ∧
        network.book = line.network.book := by
  let minted := Transport.mintClient line.network
  have booked := Booked.book_connect minted.2 minted.1 line.connection.target
    line.connection.key line.connection.mailbox
  rcases connects : Transport.connect minted.2 minted.1 line.connection.target
    line.connection.key line.connection.mailbox with ⟨result, network⟩
  rw [connects] at booked
  cases result with
  | ok done =>
      left
      let called : Line (Booked ν) := {
        connection := { line.connection with
          client := some minted.1
          state := if line.connection.state.isReconnecting then line.connection.state
            else .connecting }
        agenda := line.agenda.once .connectTimeout line.connection.timeout now
        network }
      refine ⟨called, minted.1, ?_, rfl, booked⟩
      rw [connect]
      simp only [minted] at connects ⊢
      rw [connects]
  | error error =>
      right
      refine ⟨error, network, ?_, booked⟩
      rw [connect]
      simp only [minted] at connects ⊢
      rw [connects]

theorem book_shutDown (line : Line (Booked ν)) : line.shutDown.network.book =
    line.network.book ++ (line.connection.client.map Entry.closed).toList :=
  Outline.book_hangUp line.beginLeave

end Line

namespace Desk

/-- Whether a failed start has left a desk as it was without a session, with all that was connected
closed again. -/
structure TakenBack (desk after : Desk (Booked ν)) : Prop where
  participant : after.toParticipant = { desk.toParticipant with session := none, agenda := {} }
  book : ∃ past, after.network.book = desk.network.book ++ settled past

theorem start_of_error {desk : Desk (Booked ν)} {session : Session} {now : Nat}
    {error : SessionError} (fails : (desk.start session now).1 = .error error) :
    error.isLate = true ∧ desk.TakenBack (desk.start session now).2 := by
  rw [start] at fails ⊢
  rcases (desk.line session).book_connect_cases now with
    ⟨after, client, connected, own, book⟩ | ⟨refusal, network, refused, book⟩
  · rw [connected] at fails ⊢
    simp only at fails ⊢
    cases plans : periodic desk.settings desk.clock after.agenda now with
    | error late =>
        simp only [plans] at fails ⊢
        cases fails
        refine ⟨isLate_of_periodic plans, rfl, [client], ?_⟩
        refine (Line.book_shutDown after).trans ?_
        rw [book, own, List.append_assoc]
        rfl
    | ok agenda =>
        simp only [plans] at fails
        cases fails
  · rw [refused] at fails ⊢
    simp only at fails ⊢
    cases fails
    exact ⟨rfl, rfl, [], book.trans (List.append_nil _).symm⟩

/-- How a call for a new session fails: before anything is done, and not because a time cannot be
told; or when the session that was prepared is started. -/
def FailsWith (desk : Desk ν) (now : Nat) (error : SessionError) (after : Desk ν) : Prop :=
  after = desk ∧ error.isOverflow = false ∨
    desk.session = none ∧ ∃ (session : Session) (prepared : Desk ν),
      prepared.toParticipant = desk.toParticipant ∧
      prepared.network = (Transport.openBox desk.network).2 ∧
      prepared.start session now = (.error error, after)

/-- Preparing a session changes the buffer and opens a mailbox, and no more. -/
theorem failsWith_of_start {desk prepared after : Desk ν} {role : Role} {target : ConnectTarget}
    {key : Option SessionKey} {invitation : Option Invitation} {replica : Replica}
    {outbox : Outbox} {now : Nat} {session : Session} {error : SessionError}
    (free : desk.obstacle? = none)
    (prepares : desk.prepare role target key invitation replica outbox now = (session, prepared))
    (fails : prepared.start session now = (.error error, after)) :
    desk.FailsWith now error after := by
  have participant : prepared.toParticipant = desk.toParticipant := by
    cases prepares
    rfl
  have opened : prepared.network = (Transport.openBox desk.network).2 := by
    cases prepares
    rfl
  exact .inr ⟨session_of_obstacle? free, session, prepared, participant, opened, fails⟩

theorem failsWith_host {desk : Desk ν} {target : HostTarget} {draws : Draws} {now : Nat}
    {error : SessionError} (fails : (desk.host target draws now).1 = .error error) :
    desk.FailsWith now error (desk.host target draws now).2 := by
  rw [host] at fails ⊢
  cases obstacle : desk.obstacle? with
  | some found =>
      simp only [obstacle] at fails ⊢
      cases fails
      exact .inl ⟨rfl, isOverflow_of_obstacle? obstacle⟩
  | none =>
      simp only [obstacle] at fails ⊢
      by_cases differs : Transport.mode desk.network ≠ target.mode
      · rw [if_pos differs] at fails ⊢
        cases fails
        exact .inl ⟨rfl, rfl⟩
      · rw [if_neg differs] at fails ⊢
        cases plan : hostPlan desk.settings target draws with
        | error missing =>
            simp only [plan] at fails ⊢
            cases fails
            exact .inl ⟨rfl, isOverflow_of_hostPlan plan⟩
        | ok planned =>
            simp only [plan] at fails ⊢
            rcases prepares : desk.prepare .host planned.1 planned.2.2 planned.2.1
              (seed draws.replica desk.buffer { window := desk.settings.debounce }).1
              (seed draws.replica desk.buffer { window := desk.settings.debounce }).2 now with
              ⟨session, prepared⟩
            simp only [prepares] at fails ⊢
            rcases started : prepared.start session now with ⟨outcome, after⟩
            simp only [started] at fails ⊢
            cases outcome with
            | ok done => cases fails
            | error cause =>
                cases fails
                exact failsWith_of_start obstacle prepares started

theorem failsWith_join {desk : Desk ν} {code : String} {replica : ReplicaId} {now : Nat}
    {error : SessionError} (fails : (desk.join code replica now).1 = .error error) :
    desk.FailsWith now error (desk.join code replica now).2 := by
  rw [join] at fails ⊢
  cases obstacle : desk.obstacle? with
  | some found =>
      simp only [obstacle] at fails ⊢
      cases fails
      exact .inl ⟨rfl, isOverflow_of_obstacle? obstacle⟩
  | none =>
      simp only [obstacle] at fails ⊢
      cases reads : Invitation.decode code with
      | error unreadable =>
          simp only [reads] at fails ⊢
          cases fails
          exact .inl ⟨rfl, rfl⟩
      | ok invitation =>
          simp only [reads] at fails ⊢
          by_cases differs : Transport.mode desk.network ≠ invitation.mode
          · rw [if_pos differs] at fails ⊢
            cases fails
            exact .inl ⟨rfl, rfl⟩
          · rw [if_neg differs] at fails ⊢
            rcases prepares : desk.prepare .joiner invitation.target invitation.key?
              (some invitation) { id := replica } { window := desk.settings.debounce } now with
              ⟨session, prepared⟩
            simp only [prepares] at fails ⊢
            rcases started : prepared.start session now with ⟨outcome, after⟩
            simp only [started] at fails ⊢
            cases outcome with
            | ok done => cases fails
            | error cause =>
                cases fails
                exact failsWith_of_start obstacle prepares started

theorem failsWith_of_failure {desk : Desk ν} {call : Call} {now : Nat} {error : SessionError}
    (fails : call.failure? desk now = some error) :
    desk.FailsWith now error (call.perform desk now) := by
  cases call with
  | host target draws =>
      cases failed : (desk.host target draws now).1 with
      | error cause =>
          simp only [Call.failure?, failed, Option.some.injEq] at fails
          exact fails ▸ failsWith_host failed
      | ok invitation => simp [Call.failure?, failed] at fails
  | join code replica =>
      cases failed : (desk.join code replica now).1 with
      | error cause =>
          simp only [Call.failure?, failed, Option.some.injEq] at fails
          exact fails ▸ failsWith_join failed
      | ok done => simp [Call.failure?, failed] at fails
  | _ => cases fails

/-- What a failed call for a new session leaves: the same desk, or one on which everything was taken
back that had been begun without a session. -/
def Unstarted (desk : Desk (Booked ν)) (error : SessionError) (after : Desk (Booked ν)) : Prop :=
  after = desk ∨ desk.session = none ∧ error.isLate = true ∧ desk.TakenBack after

theorem FailsWith.unstarted {desk after : Desk (Booked ν)} {now : Nat} {error : SessionError}
    (fails : desk.FailsWith now error after) : desk.Unstarted error after := by
  rcases fails with ⟨same, _⟩ | ⟨ended, session, prepared, participant, opened, failed⟩
  · exact .inl same
  · have back := start_of_error (congrArg Prod.fst failed)
    rw [failed] at back
    have book : prepared.network.book = desk.network.book := by
      rw [opened]
      rfl
    refine .inr ⟨ended, back.1, ?_, ?_⟩
    · rw [back.2.participant, participant]
    · rw [← book]
      exact back.2.book

/-- With a session there is one reason to fail. -/
theorem failure?_of_present {desk : Desk ν} {session : Session}
    (present : desk.session = some session) {call : Call} {now : Nat} {error : SessionError}
    (fails : call.failure? desk now = some error) : error = .alreadyActive := by
  cases call with
  | host target draws =>
      simp only [Call.failure?, host, obstacle?, present, Option.isSome_some, if_true,
        Option.some.injEq] at fails
      exact fails.symm
  | join code replica =>
      simp only [Call.failure?, join, obstacle?, present, Option.isSome_some, if_true,
        Option.some.injEq] at fails
      exact fails.symm
  | _ => cases fails

/-- A call for a new session that comes back with an error leaves the participant as it was, and
closes whatever it has connected. Unless the transport refused to connect, it has not touched the
buffer and the transport either. A session that is there goes on undisturbed. -/
theorem undone_of_failure {desk : Desk (Booked ν)} (lives : desk.Lives) {call : Call} {now : Nat}
    {error : SessionError} (fails : call.failure? desk now = some error)
    (returned : error.isOverflow = false) :
    (call.perform desk now).toParticipant = desk.toParticipant ∧
      (∃ past, (call.perform desk now).network.book = desk.network.book ++ settled past) ∧
      ((∀ refusal, error ≠ .connect refusal) → call.perform desk now = desk) ∧
      (desk.session.isSome = true → error = .alreadyActive ∧ call.perform desk now = desk) := by
  rcases (failsWith_of_failure fails).unstarted with same | ⟨ended, late, back⟩
  · rw [same]
    refine ⟨rfl, ⟨[], (List.append_nil _).symm⟩, fun _ => rfl, fun active => ⟨?_, rfl⟩⟩
    rcases Option.isSome_iff_exists.1 active with ⟨session, present⟩
    exact failure?_of_present present fails
  · have idle : desk.agenda = {} := lives.tended.idle ended
    refine ⟨?_, back.book, fun unrefused => ?_, fun active => ?_⟩
    · rw [back.participant, ← ended, ← idle]
    · rcases error.exists_refusal late returned with ⟨refusal, same⟩
      exact absurd same (unrefused refusal)
    · rw [ended] at active
      cases active

/-- A guest before a transport that refuses to connect. -/
def shunned : Desk (Booked Scripted) :=
  { buffer := Buffer.ofText ['a']
    notices := [.left]
    network := { transport := { serves := .relay, refusesConnections := true } } }

def unheard : Call :=
  .host (.relay (some "ws://relay.test")) ⟨1, 7, ⟨.replicate 32 0, SessionKey.length_zeros⟩⟩

theorem shunned_undone :
    shunned.Lives ∧ unheard.failure? shunned 5 = some (.connect (.connect "mock" "refused")) ∧
      (unheard.perform shunned 5).toParticipant = shunned.toParticipant ∧
      ∃ past, (unheard.perform shunned 5).network.book = settled past := by
  have lives : shunned.Lives := .fresh rfl rfl
  have fails : unheard.failure? shunned 5 = some (.connect (.connect "mock" "refused")) := by
    decide +kernel
  have undone := undone_of_failure lives fails rfl
  exact ⟨lives, fails, undone.1, undone.2.1⟩

end Desk

end Cowrite
