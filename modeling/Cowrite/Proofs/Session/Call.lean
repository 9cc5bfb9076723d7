import Cowrite.Session.Desk
import Mathlib.Logic.Function.Iterate
import Mathlib.Tactic.Common

/-!
# The calls of the outside

Everything that the outside asks of a participant is a call at a desk (`Call.perform`), whatever the
transport is. Without a session only two of them do anything (`perform_of_ended`), and with one
those two do nothing (`perform_of_present`). Those two, if they do anything, open a session
(`host_cases`, `join_cases`), and a poll is made of rounds (`pollUpTo_induction`).

Whatever the calls are, and whatever becomes of the buffer and the transport in between, the desks
that come about are those that live (`Desk.Lives`).
-/

namespace Cowrite

/-- What the outside asks of a participant. -/
inductive Call where
  | takeNotices
  | host (target : HostTarget) (draws : Draws)
  | join (code : String) (replica : ReplicaId)
  | bufferChanged
  | flushNow
  | poll
  | leave
  | vanish

namespace Call

/-- The number that a call gives to a new replica. -/
def number? : Call → Option ReplicaId
  | .host _ draws => some draws.replica
  | .join _ replica => some replica
  | _ => none

variable {ν : Type} [Transport ν]

def perform (call : Call) (desk : Desk ν) (now : Nat) : Desk ν :=
  match call with
  | .takeNotices => { desk with toParticipant := desk.toParticipant.takeNotices.2 }
  | .host target draws => (desk.host target draws now).2
  | .join code replica => (desk.join code replica now).2
  | .bufferChanged => desk.bufferChanged now
  | .flushNow => (desk.flushNow now).2
  | .poll => desk.poll now
  | .leave => desk.leave.2
  | .vanish => desk.vanish

end Call

namespace Desk

variable {ν : Type} [Transport ν] {desk : Desk ν} {session : Session}

/-- Without a session and with nothing on the agenda a poll does nothing. -/
theorem pollUpTo_of_ended (ended : desk.session = none) (empty : desk.agenda = {})
    (count now : Nat) : pollUpTo count desk now = desk := by
  have once : desk.pollOnce now = (false, desk) := by
    rw [pollOnce, nextEvent, ended]
    simp only [empty]
    rfl
  cases count with
  | zero => rfl
  | succ count => rw [pollUpTo, once]

/-- Without a session no call does anything but for a new one, and to take the notices. -/
theorem perform_eq_of_ended (ended : desk.session = none) (empty : desk.agenda = {}) {call : Call}
    (begins : call.number? = none) (kept : call ≠ .takeNotices) (now : Nat) :
    call.perform desk now = desk := by
  cases call with
  | takeNotices => exact absurd rfl kept
  | host target draws => cases begins
  | join code replica => cases begins
  | bufferChanged => simp [Call.perform, bufferChanged, ended]
  | flushNow => simp [Call.perform, flushNow, ended]
  | poll => exact pollUpTo_of_ended ended empty _ now
  | leave => simp [Call.perform, leave, ended]
  | vanish => simp [Call.perform, vanish, ended]

/-- Without a session there is nothing to call for but a new one. -/
theorem perform_of_ended (ended : desk.session = none) (empty : desk.agenda = {}) {call : Call}
    (begins : call.number? = none) (now : Nat) :
    (call.perform desk now).session = none ∧ (call.perform desk now).agenda = {} ∧
      (call.perform desk now).network = desk.network ∧
      (call.perform desk now).buffer = desk.buffer := by
  by_cases kept : call = .takeNotices
  · subst kept
    exact ⟨ended, empty, rfl, rfl⟩
  · rw [perform_eq_of_ended ended empty begins kept]
    exact ⟨ended, empty, rfl, rfl⟩

/-- With a session no other one begins. -/
theorem perform_of_present (present : desk.session = some session) {call : Call}
    (begins : call.number? ≠ none) (now : Nat) : call.perform desk now = desk := by
  cases call with
  | host target draws => simp [Call.perform, host, obstacle?, present]
  | join code replica => simp [Call.perform, join, obstacle?, present]
  | _ => exact absurd rfl begins

/-- What every round of a poll keeps up, a whole poll does. -/
theorem pollUpTo_induction {motive : Desk ν → Prop} {now : Nat}
    (round : ∀ desk, motive desk → motive (desk.pollOnce now).2) (count : Nat)
    (start : motive desk) : motive (pollUpTo count desk now) := by
  induction count generalizing desk with
  | zero => exact start
  | succ count ih =>
      have next := round desk start
      rw [pollUpTo]
      rcases polled : desk.pollOnce now with ⟨_ | _, after⟩
      · rw [polled] at next
        exact next
      · rw [polled] at next
        exact ih next

/-- A poll is so many rounds. -/
theorem exists_poll_eq_iterate (desk : Desk ν) (now : Nat) :
    ∃ rounds, desk.poll now = (fun desk : Desk ν => (desk.pollOnce now).2)^[rounds] desk := by
  rw [poll]
  refine pollUpTo_induction (motive := fun after => ∃ rounds,
    after = (fun desk : Desk ν => (desk.pollOnce now).2)^[rounds] desk) ?_ _ ⟨0, rfl⟩
  rintro other ⟨rounds, rfl⟩
  refine ⟨rounds + 1, ?_⟩
  rw [Function.iterate_succ_apply']

/-! ## Opening a session -/

/-- The desk after an attempt to open a session with a new replica and its outbox. -/
def opened (desk : Desk ν) (role : Role) (target : ConnectTarget) (key : Option SessionKey)
    (invitation : Option Invitation) (document : Replica × Outbox) (now : Nat) : Desk ν :=
  let (session, prepared) :=
    desk.prepare role target key invitation document.1 document.2 now
  (prepared.start session now).2

/-- The periodic tasks are planned if the time between two reconciliations can be told and the
first one comes before the end of the clock. -/
theorem periodic_eq_ok_iff {settings : Settings} {clock : Clock} {agenda planned : Agenda}
    {now : Nat} :
    periodic settings clock agenda now = .ok planned ↔
      ∃ interval, settings.reconcileInterval? = some interval ∧ now + interval ≤ clock.last ∧
        planned =
          (agenda.every .flush settings.flushInterval now).every .reconcile interval now := by
  rw [periodic]
  cases spaced : settings.reconcileInterval? with
  | none => simp
  | some interval =>
      by_cases told : now + interval ≤ clock.last
      · simp [Agenda.every?, told, eq_comm]
      · simp [Agenda.every?, told]

theorem exists_of_periodic {settings : Settings} {clock : Clock} {agenda planned : Agenda}
    {now : Nat} (plans : periodic settings clock agenda now = .ok planned) :
    ∃ interval, settings.reconcileInterval? = some interval ∧ planned =
      (agenda.every .flush settings.flushInterval now).every .reconcile interval now := by
  rcases periodic_eq_ok_iff.1 plans with ⟨interval, spaced, _, same⟩
  exact ⟨interval, spaced, same⟩

/-- A session that has been opened has its replica, its outbox and no peers. -/
theorem session_opened {desk : Desk ν} {role : Role} {target : ConnectTarget}
    {key : Option SessionKey} {invitation : Option Invitation} {document : Replica × Outbox}
    {now : Nat} {session : Session}
    (present : (desk.opened role target key invitation document now).session = some session) :
    session.replica = document.1 ∧ session.outbox = document.2 ∧ session.peers = [] := by
  simp only [opened, start] at present
  split at present
  · cases present
  · split at present
    · cases present
    · cases present
      exact ⟨rfl, rfl, rfl⟩

/-- A host opens a session, unless something stands against it. -/
theorem host_cases (desk : Desk ν) (target : HostTarget) (draws : Draws) (now : Nat) :
    (desk.host target draws now).2 = desk ∨
      desk.session = none ∧ ∃ connectTarget key invitation notices,
        (desk.host target draws now).2 =
          { desk.opened .host connectTarget key invitation
              (seed draws.replica desk.buffer { window := desk.settings.debounce }) now with
            notices } := by
  cases present : desk.session with
  | some session => exact .inl (by simp [host, obstacle?, present])
  | none =>
      rw [host]
      split
      · exact .inl rfl
      · split
        · exact .inl rfl
        · rcases hostPlan desk.settings target draws with _ | ⟨connectTarget, invitation, key⟩
          · exact .inl rfl
          · refine .inr ⟨rfl, connectTarget, key, invitation, ?_⟩
            simp only [opened]
            rcases Desk.start _ _ now with ⟨_ | ⟨⟩, after⟩
            · exact ⟨after.notices, rfl⟩
            · exact ⟨_, rfl⟩

/-- A guest opens a session, unless something stands against it. -/
theorem join_cases (desk : Desk ν) (code : String) (replica : ReplicaId) (now : Nat) :
    (desk.join code replica now).2 = desk ∨
      desk.session = none ∧ ∃ connectTarget key invitation notices,
        (desk.join code replica now).2 =
          { desk.opened .joiner connectTarget key invitation
              ({ id := replica }, { window := desk.settings.debounce }) now with
            notices } := by
  cases present : desk.session with
  | some session => exact .inl (by simp [join, obstacle?, present])
  | none =>
      rw [join]
      split
      · exact .inl rfl
      · rcases Invitation.decode code with error | invitation
        · exact .inl rfl
        · by_cases other : Transport.mode desk.network ≠ invitation.mode
          · simp [other]
          · simp only [if_neg other, opened, true_and]
            refine .inr ⟨invitation.target, invitation.key?, some invitation, ?_⟩
            rcases Desk.start _ _ now with ⟨_ | ⟨⟩, after⟩
            · exact ⟨after.notices, rfl⟩
            · exact ⟨_, rfl⟩

/-! ## Desks that come about -/

/-- The desks that can come about, also between the rounds of a poll. At any time anything may
become of the buffer and the transport. -/
inductive Lives : Desk ν → Prop where
  | fresh {desk : Desk ν} (ended : desk.session = none) (empty : desk.agenda = {}) : Lives desk
  | carries {desk : Desk ν} (lives : Lives desk) (buffer : Buffer) (network : ν) :
      Lives { desk with buffer, network }
  | calls {desk : Desk ν} (lives : Lives desk) (call : Call) (now : Nat) :
      Lives (call.perform desk now)
  | turns {desk : Desk ν} (lives : Lives desk) (now : Nat) : Lives (desk.pollOnce now).2

end Desk

end Cowrite
