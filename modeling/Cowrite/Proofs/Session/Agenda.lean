import Cowrite.Session.Connection
import Mathlib.Tactic.Common

/-!
# When a session reconnects

An agenda suits a connection (`Agenda.Suits`) if an attempt to reconnect is made once and not again
and again, and if none is planned while there is a client. Then a task to reconnect is taken only
when there is no client and no other attempt is left (`Suits.pop`).
-/

namespace Cowrite

namespace Agenda

/-- An agenda on which attempts to reconnect stand once each, and only while there is no client. -/
structure Suits (agenda : Agenda) (connection : Connection) : Prop where
  once : ∀ appointment ∈ agenda.appointments, appointment.task = .reconnect →
    appointment.period = none
  lone : ∀ own, connection.client = some own → agenda.has .reconnect = false

variable {agenda : Agenda} {connection : Connection}

theorem suits_empty (connection : Connection) : Suits {} connection :=
  ⟨by simp, fun _ _ => rfl⟩

theorem has_cancel (agenda : Agenda) (task other : Task) :
    (agenda.cancel task).has other = (other != task && agenda.has other) := by
  rw [Bool.eq_iff_iff]
  simp only [has, cancel, List.any_filter, List.any_eq_true, Bool.and_eq_true, bne_iff_ne, ne_eq,
    beq_iff_eq]
  constructor
  · rintro ⟨appointment, present, differ, same⟩
    exact ⟨same ▸ differ, appointment, present, same⟩
  · rintro ⟨differ, appointment, present, same⟩
    exact ⟨appointment, present, same ▸ differ, same⟩

theorem has_put (agenda : Agenda) (appointment : Appointment) (other : Task) :
    (agenda.put appointment).has other = (appointment.task == other || agenda.has other) := by
  have cancelled := agenda.has_cancel appointment.task other
  have put : (agenda.put appointment).has other =
      ((agenda.cancel appointment.task).has other || appointment.task == other) := by
    simp [has, Agenda.put]
  rw [put, cancelled]
  by_cases same : appointment.task = other
  · subst same
    simp
  · have off : (appointment.task == other) = false := by
      simpa using same
    have kept : (other != appointment.task) = true := by
      simpa using fun eq => same eq.symm
    rw [off, kept]
    simp

theorem Suits.cancel (suits : agenda.Suits connection) (task : Task) :
    (agenda.cancel task).Suits connection := by
  refine ⟨?_, ?_⟩
  · intro appointment present
    exact suits.once appointment (List.mem_filter.1 present).1
  · intro own isOwn
    rw [has_cancel, suits.lone own isOwn, Bool.and_false]

theorem Suits.put (suits : agenda.Suits connection) {appointment : Appointment}
    (differ : appointment.task ≠ .reconnect) : (agenda.put appointment).Suits connection := by
  refine ⟨?_, ?_⟩
  · intro other present isReconnect
    rcases List.mem_append.1 present with old | new
    · exact suits.once other (List.mem_filter.1 old).1 isReconnect
    · rw [List.mem_singleton.1 new] at isReconnect
      exact absurd isReconnect differ
  · intro own isOwn
    rw [has_put, suits.lone own isOwn]
    simpa using differ

theorem Suits.planned (suits : agenda.Suits connection) {task : Task} (differ : task ≠ .reconnect)
    (delay now : Nat) : (agenda.once task delay now).Suits connection :=
  suits.put differ

/-- An attempt to reconnect may be planned when there is no client. -/
theorem Suits.reconnect (suits : agenda.Suits connection) {later : Connection}
    (alone : later.client = none) (delay now : Nat) :
    (agenda.once .reconnect delay now).Suits later := by
  refine ⟨?_, ?_⟩
  · intro other present isReconnect
    rcases List.mem_append.1 present with old | new
    · exact suits.once other (List.mem_filter.1 old).1 isReconnect
    · rw [List.mem_singleton.1 new]
  · intro own isOwn
    rw [alone] at isOwn
    cases isOwn

/-- An agenda without an attempt to reconnect suits any connection. -/
theorem Suits.of_not_has (suits : agenda.Suits connection)
    (unplanned : agenda.has .reconnect = false) (later : Connection) : agenda.Suits later :=
  ⟨suits.once, fun _ _ => unplanned⟩

theorem Suits.of_client_eq (suits : agenda.Suits connection) {later : Connection}
    (same : later.client = connection.client) : agenda.Suits later :=
  ⟨suits.once, fun own isOwn => suits.lone own (same ▸ isOwn)⟩

theorem mem_of_first? {appointments : List Appointment} {first : Appointment}
    (found : first? appointments = some first) : first ∈ appointments := by
  induction appointments generalizing first with
  | nil => simp [first?] at found
  | cons appointment rest ih =>
      rw [first?] at found
      cases best : first? rest with
      | none =>
          simp only [best, Option.some.injEq] at found
          simp [found]
      | some other =>
          simp only [best] at found
          split at found
          · rw [← Option.some.inj found]
            exact List.mem_cons_of_mem _ (ih best)
          · rw [← Option.some.inj found]
            exact List.mem_cons_self

/-- A task that is taken was on the agenda, and all others stay on it. -/
theorem has_of_pop {now : Nat} {task : Task} {later : Agenda}
    (popped : agenda.pop now = some (task, later)) :
    agenda.has task = true ∧ ∀ other, other ≠ task → later.has other = agenda.has other := by
  rw [Agenda.pop, Option.map_eq_some_iff] at popped
  rcases popped with ⟨appointment, found, same⟩
  rcases Prod.mk.inj same with ⟨rfl, isLater⟩
  have present := (List.mem_filter.1 (mem_of_first? found)).1
  refine ⟨List.any_eq_true.2 ⟨appointment, present, by simp⟩, ?_⟩
  intro other differ
  cases period : appointment.period with
  | none =>
      simp only [period] at isLater
      rw [← isLater, has_cancel]
      simp [differ]
  | some pace =>
      simp only [period] at isLater
      rw [← isLater, has_put]
      simp [differ.symm]

/-! ## Plans -/

/-- The appointments for a task. -/
def plans (agenda : Agenda) (task : Task) : List Appointment :=
  agenda.appointments.filter (·.task == task)

theorem plans_eq_nil_iff {task : Task} : agenda.plans task = [] ↔ agenda.has task = false := by
  simp [plans, has]

theorem plans_cancel (agenda : Agenda) {task other : Task} (differ : other ≠ task) :
    (agenda.cancel other).plans task = agenda.plans task := by
  rw [plans, cancel, List.filter_filter]
  apply List.filter_congr
  intro appointment _
  by_cases same : appointment.task = task
  · simp [same, differ.symm]
  · simp [same]

theorem plans_put (agenda : Agenda) {task : Task} {appointment : Appointment}
    (differ : appointment.task ≠ task) :
    (agenda.put appointment).plans task = agenda.plans task := by
  have others := agenda.plans_cancel differ
  rw [plans] at others
  rw [plans, put, List.filter_append, others]
  simp [differ]

/-- To plan a task leaves it planned once. -/
theorem plans_once (agenda : Agenda) (task : Task) (delay now : Nat) :
    (agenda.once task delay now).plans task =
      [{ task, due := now + delay, period := none }] := by
  have gone : (agenda.cancel task).plans task = [] := by
    rw [plans_eq_nil_iff, has_cancel]
    simp
  rw [plans] at gone
  rw [plans, once, put, List.filter_append, gone]
  simp

theorem plans_pop {now : Nat} {task taken : Task} {later : Agenda}
    (popped : agenda.pop now = some (taken, later)) (differ : taken ≠ task) :
    later.plans task = agenda.plans task := by
  rw [Agenda.pop, Option.map_eq_some_iff] at popped
  rcases popped with ⟨appointment, _, same⟩
  rcases Prod.mk.inj same with ⟨rfl, rfl⟩
  split
  · exact agenda.plans_cancel differ
  · exact agenda.plans_put differ

/-! ## Tasks that are done once -/

/-- Whether a task stands on an agenda only to be done once. -/
def Single (agenda : Agenda) (task : Task) : Prop :=
  ∀ appointment ∈ agenda.appointments, appointment.task = task → appointment.period = none

theorem single_empty (task : Task) : Single {} task := by
  simp [Single]

theorem Single.cancel {task : Task} (single : agenda.Single task) (other : Task) :
    (agenda.cancel other).Single task := by
  intro appointment present
  exact single appointment (List.mem_filter.1 present).1

theorem Single.put {task : Task} (single : agenda.Single task) {appointment : Appointment}
    (fits : appointment.task = task → appointment.period = none) :
    (agenda.put appointment).Single task := by
  intro other present same
  rcases List.mem_append.1 present with old | new
  · exact single.cancel _ other old same
  · rw [List.mem_singleton.1 new] at same ⊢
    exact fits same

/-- A task that is done once is off the agenda when it is taken. -/
theorem Single.pop {task : Task} (single : agenda.Single task) {now : Nat} {taken : Task}
    {later : Agenda} (popped : agenda.pop now = some (taken, later)) :
    later.Single task ∧ (taken = task → later.has task = false) := by
  rw [Agenda.pop, Option.map_eq_some_iff] at popped
  rcases popped with ⟨appointment, found, same⟩
  have present : appointment ∈ agenda.appointments :=
    (List.mem_filter.1 (mem_of_first? found)).1
  rcases Prod.mk.inj same with ⟨isTask, isLater⟩
  have once := single appointment present
  cases period : appointment.period with
  | none =>
      simp only [period] at isLater
      subst isLater
      refine ⟨single.cancel _, ?_⟩
      intro isTaken
      rw [has_cancel, isTask, isTaken]
      simp
  | some pace =>
      simp only [period] at isLater
      subst isLater
      have differ : appointment.task ≠ task := by
        intro isTaken
        have none := once isTaken
        simp [period] at none
      exact ⟨single.put fun isTaken => absurd isTaken differ,
        fun isTaken => absurd (isTask.trans isTaken) differ⟩

/-- A task to reconnect is taken when there is no client, and it was the only one. -/
theorem Suits.pop (suits : agenda.Suits connection) {now : Nat} {task : Task} {later : Agenda}
    (popped : agenda.pop now = some (task, later)) :
    later.Suits connection ∧
      (task = .reconnect → connection.client = none ∧ later.has .reconnect = false) := by
  have once : agenda.Single .reconnect := suits.once
  rcases once.pop popped with ⟨single, removed⟩
  rcases has_of_pop popped with ⟨planned, others⟩
  have unplanned : ∀ own, connection.client = some own → task ≠ .reconnect := by
    intro own isOwn isReconnect
    rw [isReconnect, suits.lone own isOwn] at planned
    cases planned
  refine ⟨⟨single, ?_⟩, ?_⟩
  · intro own isOwn
    rw [others .reconnect (unplanned own isOwn).symm]
    exact suits.lone own isOwn
  · intro isReconnect
    refine ⟨?_, removed isReconnect⟩
    cases client : connection.client with
    | none => rfl
    | some own => exact absurd isReconnect (unplanned own client)

end Agenda

end Cowrite
