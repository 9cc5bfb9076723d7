import Cowrite.Proofs.Session.Aside
import Cowrite.Proofs.Session.Tending

/-!
# Rounds of polling

A round deals with one matter (`Desk.deal`): an event that has arrived, or else a task that is due
(`Desk.takeMatter_cases`).
-/

namespace Cowrite

/-- What one round of polling deals with. -/
inductive Matter where
  | event (event : TransportEvent Update)
  | task (task : Task)
  deriving DecidableEq

/-- What a session hears from a matter. -/
def Matter.payload? : Matter → Option Update
  | .event (.syncResponse payload) => some payload
  | .event (.fullState payload) => some payload
  | .event (.update payload) => some payload
  | _ => none

/-- The state that a matter brings, if it is the first one after a connection was made. -/
def Matter.state? : Matter → Option Update
  | .event (.syncResponse payload) => some payload
  | .event (.fullState payload) => some payload
  | _ => none

namespace Desk

variable {ν : Type} [Transport ν]

/-- Take what the next round of polling deals with, if there is anything. -/
def takeMatter (desk : Desk ν) (now : Nat) : Option Matter × Desk ν :=
  match desk.nextEvent with
  | (some event, desk) => (some (.event event), desk)
  | (none, desk) =>
      match desk.agenda.pop now with
      | none => (none, desk)
      | some (task, agenda) => (some (.task task), { desk with agenda })

def deal (desk : Desk ν) (matter : Matter) (now : Nat) : Desk ν :=
  match matter with
  | .event event => desk.handle event now
  | .task task => desk.run task now

variable {desk : Desk ν} {session : Session} {now : Nat}

theorem session_nextEvent (present : desk.session = some session) :
    desk.nextEvent.2.session = some session := by
  rw [nextEvent, present]
  rfl

/-- A round deals with an event, or with a task that is due, or with nothing. -/
theorem takeMatter_cases (desk : Desk ν) (now : Nat) :
    (∃ event, desk.takeMatter now = (some (.event event), desk.nextEvent.2) ∧
        desk.pollOnce now = (true, desk.nextEvent.2.handle event now)) ∨
      (∃ task agenda, desk.nextEvent.2.agenda.pop now = some (task, agenda) ∧
        desk.takeMatter now = (some (.task task), { desk.nextEvent.2 with agenda }) ∧
        desk.pollOnce now = (true, ({ desk.nextEvent.2 with agenda } : Desk ν).run task now)) ∨
      (desk.takeMatter now = (none, desk.nextEvent.2) ∧
        desk.pollOnce now = (false, desk.nextEvent.2)) := by
  rcases next : desk.nextEvent with ⟨event, looked⟩
  cases event with
  | some event =>
      left
      refine ⟨event, ?_, ?_⟩
      · rw [takeMatter, next]
      · rw [pollOnce, next]
  | none =>
      right
      cases popped : looked.agenda.pop now with
      | none =>
          right
          constructor
          · simp only [takeMatter, next, popped]
          · simp only [pollOnce, next, popped]
      | some due =>
          left
          refine ⟨due.1, due.2, rfl, ?_, ?_⟩
          · simp only [takeMatter, next, popped]
          · simp only [pollOnce, next, popped]

/-- Taking a matter changes the transport and the agenda only. -/
theorem exists_takeMatter_snd (desk : Desk ν) (now : Nat) :
    ∃ agenda, (desk.takeMatter now).2 = { desk.nextEvent.2 with agenda } := by
  rcases desk.takeMatter_cases now with
    ⟨event, taken, _⟩ | ⟨task, agenda, _, taken, _⟩ | ⟨taken, _⟩
  · exact ⟨_, by rw [taken]⟩
  · exact ⟨agenda, by rw [taken]⟩
  · exact ⟨_, by rw [taken]⟩

theorem session_takeMatter (present : desk.session = some session) (now : Nat) :
    (desk.takeMatter now).2.session = some session := by
  rcases desk.exists_takeMatter_snd now with ⟨agenda, taken⟩
  rw [taken]
  exact session_nextEvent present

theorem session_takeMatter_eq (desk : Desk ν) (now : Nat) :
    (desk.takeMatter now).2.session = desk.session := by
  rcases Option.eq_none_or_eq_some desk.session with ended | ⟨session, present⟩
  · rcases desk.exists_takeMatter_snd now with ⟨agenda, taken⟩
    rw [taken, nextEvent, ended]
    exact ended
  · rw [session_takeMatter present now, present]

theorem buffer_takeMatter (desk : Desk ν) (now : Nat) :
    (desk.takeMatter now).2.buffer = desk.buffer := by
  rcases desk.exists_takeMatter_snd now with ⟨agenda, taken⟩
  rw [taken]
  exact desk.aside_nextEvent.1

theorem pollOnce_of_matter {matter : Matter} (found : (desk.takeMatter now).1 = some matter) :
    desk.pollOnce now = (true, (desk.takeMatter now).2.deal matter now) := by
  rcases desk.takeMatter_cases now with
    ⟨event, taken, polled⟩ | ⟨task, agenda, _, taken, polled⟩ | ⟨taken, _⟩
  · rw [taken] at found ⊢
    cases found
    exact polled
  · rw [taken] at found ⊢
    cases found
    exact polled
  · rw [taken] at found
    cases found

theorem pollOnce_of_none (found : (desk.takeMatter now).1 = none) :
    desk.pollOnce now = (false, (desk.takeMatter now).2) := by
  rcases desk.takeMatter_cases now with
    ⟨event, taken, _⟩ | ⟨task, agenda, _, taken, _⟩ | ⟨taken, polled⟩
  · rw [taken] at found
    cases found
  · rw [taken] at found
    cases found
  · rw [taken]
    exact polled

theorem takeMatter_of_ended (ended : desk.session = none) (empty : desk.agenda = {}) (now : Nat) :
    desk.takeMatter now = (none, desk) := by
  rw [takeMatter, nextEvent, ended]
  simp only [empty]
  rfl

/-- Without a session there is nothing to deal with. -/
theorem deal_of_ended (ended : desk.session = none) (matter : Matter) (now : Nat) :
    desk.deal matter now = desk := by
  cases matter with
  | event event =>
      cases event <;>
        simp [deal, handle, onConnected, onReady, onInitialState, onRemoteUpdate,
          onPeerConnected, onPeerDisconnected, onConnectionLost, ended]
  | task task =>
      cases task <;>
        simp [deal, run, runFlush, runReconcile, runReconnect, runEmptySyncFallback,
          onConnectionLost, ended]

/-- An event is dealt with only if it is about the present client. -/
theorem client_of_takeMatter {event : TransportEvent Update}
    (found : (desk.takeMatter now).1 = some (.event event)) :
    ∃ session, desk.session = some session ∧ session.connection.client ≠ none := by
  rcases Option.eq_none_or_eq_some desk.session with ended | ⟨session, present⟩
  · rw [takeMatter, nextEvent, ended] at found
    simp only at found
    split at found
    · cases found
    · cases found
  · refine ⟨session, present, ?_⟩
    rw [takeMatter, nextEvent, present] at found
    simp only at found
    cases next : (desk.line session).nextEvent.1 with
    | some envelope =>
        rw [show session.connection.client = some envelope.client from
          Line.client_of_nextEvent next]
        exact Option.some_ne_none _
    | none =>
        simp only [next, Option.map_none] at found
        split at found
        · cases found
        · cases found

/-- A task is dealt with only if it was on the agenda. -/
theorem has_of_takeMatter {task : Task} (found : (desk.takeMatter now).1 = some (.task task)) :
    desk.agenda.has task = true := by
  have same : desk.nextEvent.2.agenda = desk.agenda := by
    rw [nextEvent]
    split
    · rfl
    · rfl
  rcases desk.takeMatter_cases now with
    ⟨event, taken, _⟩ | ⟨other, agenda, popped, taken, _⟩ | ⟨taken, _⟩
  · rw [taken] at found
    cases found
  · rw [taken] at found
    cases found
    rw [same] at popped
    exact (Agenda.has_of_pop popped).1
  · rw [taken] at found
    cases found

end Desk

end Cowrite
