import Cowrite.Proofs.Session.Load

/-!
# Taking all that is due

Whatever was asked of an agenda, and whatever the clock said when it was asked, there is at most one
appointment for each task (`Agenda.Distinct`). So an agenda is told by what it says of each task
(`Agenda.appointment?`), and the order in which the appointments are kept does not matter.

A task that is taken is not due any more, as no period is empty. So whoever takes tasks as long as
one is due comes to an end, and has then taken exactly those that were due, in order
(`Agenda.clears_after`). The induction is on the number of the tasks that are due; it is carried by
what taking a single task does (`Agenda.exists_of_pop`).
-/

namespace Cowrite

namespace Task

theorem getElem?_rank (task : Task) : all[task.rank]? = some task := by
  cases task <;> rfl

theorem eq_of_rank_eq {left right : Task} (same : left.rank = right.rank) : left = right := by
  have place := left.getElem?_rank
  rw [same, getElem?_rank, Option.some.injEq] at place
  exact place.symm

end Task

namespace Appointment

theorem isBefore_iff {left right : Appointment} : left.isBefore right = true ↔
    left.due < right.due ∨ left.due = right.due ∧ left.task.rank < right.task.rank := by
  simp [isBefore]

/-- What becomes of an appointment when its task is taken: it is over, or it is due again one period
later. -/
def renewed? (appointment : Appointment) (now : Nat) : Option Appointment :=
  appointment.period.map fun period => { appointment with due := now + period }

end Appointment

namespace Agenda

variable {agenda later : Agenda} {appointment : Appointment} {task other : Task} {now : Nat}

/-! ## The appointment for a task -/

/-- The appointment for a task, if there is one. -/
def appointment? (agenda : Agenda) (task : Task) : Option Appointment :=
  agenda.appointments.find? (·.task == task)

theorem dueAt?_eq (agenda : Agenda) (task : Task) :
    agenda.dueAt? task = (agenda.appointment? task).map (·.due) := rfl

theorem mem_of_appointment? (found : agenda.appointment? task = some appointment) :
    appointment ∈ agenda.appointments ∧ appointment.task = task :=
  ⟨List.mem_of_find?_eq_some found, by simpa using List.find?_some found⟩

theorem appointment?_cancel (agenda : Agenda) (task other : Task) :
    (agenda.cancel task).appointment? other =
      if other = task then none else agenda.appointment? other := by
  rw [appointment?, cancel, List.find?_filter]
  by_cases same : other = task
  · rw [if_pos same, List.find?_eq_none]
    simp [same]
  · rw [if_neg same, appointment?]
    congr 1
    funext appointment
    by_cases isOther : appointment.task = other
    · simp [isOther, same]
    · simp [isOther]

theorem appointment?_put (agenda : Agenda) (appointment : Appointment) (other : Task) :
    (agenda.put appointment).appointment? other =
      if other = appointment.task then some appointment else agenda.appointment? other := by
  have old := agenda.appointment?_cancel appointment.task other
  rw [appointment?] at old
  rw [appointment?, put, List.find?_append, old]
  by_cases same : other = appointment.task
  · simp [same]
  · have differ : ¬appointment.task = other := fun eq => same eq.symm
    simp [same, differ]

/-- Whether there is at most one appointment for each task. -/
def Distinct (agenda : Agenda) : Prop :=
  (agenda.appointments.map (·.task)).Nodup

theorem Distinct.appointment?_eq (distinct : agenda.Distinct)
    (present : appointment ∈ agenda.appointments) :
    agenda.appointment? appointment.task = some appointment := by
  cases found : agenda.appointment? appointment.task with
  | none =>
      have absent := List.find?_eq_none.1 found appointment present
      simp at absent
  | some other =>
      rcases mem_of_appointment? found with ⟨otherMem, same⟩
      rw [List.inj_on_of_nodup_map distinct otherMem present same]

theorem Distinct.length_plans_le (distinct : agenda.Distinct) (task : Task) :
    (agenda.plans task).length ≤ 1 := by
  have once := List.nodup_iff_count_le_one.1 distinct task
  rwa [List.count, List.countP_map, List.countP_eq_length_filter] at once

theorem distinct_empty : Distinct {} :=
  List.nodup_nil

theorem Distinct.cancel (distinct : agenda.Distinct) (task : Task) :
    (agenda.cancel task).Distinct :=
  distinct.sublist (List.filter_sublist.map _)

theorem Distinct.put (distinct : agenda.Distinct) (appointment : Appointment) :
    (agenda.put appointment).Distinct := by
  rw [Distinct, Agenda.put, List.map_append, List.nodup_append]
  refine ⟨distinct.cancel appointment.task, by simp, ?_⟩
  intro task present other single same
  rcases List.mem_map.1 present with ⟨old, oldMem, rfl⟩
  have differ : old.task ≠ appointment.task := by
    simpa using (List.mem_filter.1 oldMem).2
  exact differ (same.trans (List.mem_singleton.1 single))

/-! ## Taking one task -/

/-- Nothing comes before the appointment that comes first. -/
theorem not_isBefore_of_first? {appointments : List Appointment}
    (found : first? appointments = some appointment) :
    ∀ other ∈ appointments, ¬other.isBefore appointment = true := by
  induction appointments generalizing appointment with
  | nil => simp [first?] at found
  | cons head rest ih =>
      rw [first?] at found
      cases best : first? rest with
      | none =>
          have single : rest = [] := first?_eq_none_iff.1 best
          simp only [best, Option.some.injEq] at found
          subst found
          simp [single, Appointment.isBefore_iff]
      | some champion =>
          have first := ih best
          simp only [best] at found
          split at found
          case isTrue wins =>
            cases found
            rw [Appointment.isBefore_iff] at wins
            refine List.forall_mem_cons.2 ⟨?_, first⟩
            rw [Appointment.isBefore_iff]
            omega
          case isFalse loses =>
            cases found
            rw [Appointment.isBefore_iff] at loses
            refine List.forall_mem_cons.2 ⟨by simp [Appointment.isBefore_iff], ?_⟩
            intro other present
            have behind := first other present
            rw [Appointment.isBefore_iff] at behind ⊢
            omega

/-- What it comes to when a task is taken: its time has come, it goes before all others whose time
has come, and nothing else on the agenda changes. -/
theorem exists_of_pop (distinct : agenda.Distinct)
    (popped : agenda.pop now = some (task, later)) :
    ∃ appointment, agenda.appointment? task = some appointment ∧ appointment.due ≤ now ∧
      (∀ other ∈ agenda.due now, other.task ≠ task → appointment.isBefore other = true) ∧
      later.appointment? task = appointment.renewed? now ∧
      ∀ other, other ≠ task → later.appointment? other = agenda.appointment? other := by
  rw [Agenda.pop, Option.map_eq_some_iff] at popped
  rcases popped with ⟨appointment, found, same⟩
  rcases Prod.mk.inj same with ⟨rfl, isLater⟩
  rcases List.mem_filter.1 (mem_of_first? found) with ⟨present, isDue⟩
  refine ⟨appointment, distinct.appointment?_eq present, by simpa using isDue, ?_, ?_⟩
  · intro other otherDue differ
    have behind := not_isBefore_of_first? found other otherDue
    rw [Appointment.isBefore_iff] at behind ⊢
    have ranks : other.task.rank ≠ appointment.task.rank :=
      fun tie => differ (Task.eq_of_rank_eq tie)
    omega
  · cases period : appointment.period with
    | none =>
        simp only [period] at isLater
        subst isLater
        refine ⟨by simp [appointment?_cancel, Appointment.renewed?, period], ?_⟩
        intro other differ
        rw [appointment?_cancel, if_neg differ]
    | some pace =>
        simp only [period] at isLater
        subst isLater
        refine ⟨by simp [appointment?_put, Appointment.renewed?, period], ?_⟩
        intro other differ
        rw [appointment?_put, if_neg differ]

theorem Distinct.pop (distinct : agenda.Distinct)
    (popped : agenda.pop now = some (task, later)) : later.Distinct := by
  rw [Agenda.pop, Option.map_eq_some_iff] at popped
  rcases popped with ⟨appointment, _, same⟩
  rcases Prod.mk.inj same with ⟨rfl, rfl⟩
  split
  · exact distinct.cancel _
  · exact distinct.put _

/-! ## Taking all of them -/

/-- Whether the one task is due before the other, or at the same time and its kind goes first. -/
def Precedes (agenda : Agenda) (first second : Task) : Prop :=
  ∃ early late, agenda.dueAt? first = some early ∧ agenda.dueAt? second = some late ∧
    (early < late ∨ early = late ∧ first.rank < second.rank)

/-- What it comes to when tasks are taken as long as one is due. -/
structure Clears (agenda : Agenda) (now : Nat) (taken : List Task) (later : Agenda) : Prop where
  /-- There is an end to it, after so many tasks as were taken. -/
  ends : ∀ count, taken.length ≤ count → agenda.popUpTo count now = (taken, later)
  rests : later.pop now = none
  /-- The tasks are those whose time has come. -/
  mem_iff : ∀ task, task ∈ taken ↔ ∃ time ≤ now, agenda.dueAt? task = some time
  nodup : taken.Nodup
  ordered : taken.Pairwise agenda.Precedes
  renewed : ∀ task ∈ taken,
    later.appointment? task = (agenda.appointment? task).bind (·.renewed? now)
  kept : ∀ task, task ∉ taken → later.appointment? task = agenda.appointment? task
  /-- Whatever is left is due later. -/
  nextDue : ∀ time, later.nextDue? = some time → now < time

theorem lt_of_dueAt? (nothing : agenda.pop now = none) {time : Nat}
    (planned : agenda.dueAt? task = some time) : now < time := by
  rw [dueAt?_eq, Option.map_eq_some_iff] at planned
  rcases planned with ⟨appointment, found, rfl⟩
  have none := pop_eq_none_iff.1 nothing
  rw [due, List.filter_eq_nil_iff] at none
  simpa using none appointment (mem_of_appointment? found).1

theorem clears_of_pop_eq_none (nothing : agenda.pop now = none) : agenda.Clears now [] agenda where
  ends count _ := by
    cases count with
    | zero => rfl
    | succ count => rw [popUpTo, nothing]
  rests := nothing
  mem_iff task := by
    simp only [List.not_mem_nil, false_iff]
    rintro ⟨time, early, planned⟩
    have := lt_of_dueAt? nothing planned
    omega
  nodup := List.nodup_nil
  ordered := .nil
  renewed := by simp
  kept _ _ := rfl
  nextDue time found := by
    have none := pop_eq_none_iff.1 nothing
    rw [due, List.filter_eq_nil_iff] at none
    rcases List.mem_map.1 (List.min?_mem found) with ⟨appointment, present, rfl⟩
    simpa using none appointment present

/-- A task that is taken is followed by those that are taken from what is left. It is not among
them, as its period is not empty. -/
theorem Clears.cons {next : Agenda} {taken : List Task} (distinct : agenda.Distinct)
    (paced : agenda.Paced) (popped : agenda.pop now = some (task, next))
    (clears : next.Clears now taken later) : agenda.Clears now (task :: taken) later := by
  rcases exists_of_pop distinct popped with
    ⟨appointment, planned, isDue, first, renewed, others⟩
  have due : ∀ other, other ≠ task → next.dueAt? other = agenda.dueAt? other := by
    intro other differ
    rw [dueAt?_eq, dueAt?_eq, others other differ]
  have fresh : task ∉ taken := by
    intro again
    rcases (clears.mem_iff task).1 again with ⟨time, early, isTime⟩
    rw [dueAt?_eq, renewed, Appointment.renewed?, Option.map_map, Option.map_eq_some_iff] at isTime
    rcases isTime with ⟨period, spaced, rfl⟩
    have := paced appointment (mem_of_appointment? planned).1 period spaced
    simp only [Function.comp_apply] at early
    omega
  have differs : ∀ other ∈ taken, other ≠ task := by
    rintro other present rfl
    exact fresh present
  refine ⟨?_, clears.rests, ?_, List.nodup_cons.2 ⟨fresh, clears.nodup⟩, ?_, ?_, ?_,
    clears.nextDue⟩
  · intro count enough
    cases count with
    | zero => simp at enough
    | succ count =>
        have ends := clears.ends count (by simpa using enough)
        simp only [popUpTo, popped, ends]
  · intro other
    rw [List.mem_cons]
    by_cases same : other = task
    · subst same
      simp [dueAt?_eq, planned, isDue]
    · simp only [same, false_or]
      rw [clears.mem_iff, due other same]
  · rw [List.pairwise_cons]
    constructor
    · intro other present
      rcases (clears.mem_iff other).1 present with ⟨time, early, isTime⟩
      rw [due other (differs other present), dueAt?_eq, Option.map_eq_some_iff] at isTime
      rcases isTime with ⟨later, found, rfl⟩
      rcases mem_of_appointment? found with ⟨laterMem, isOther⟩
      have waits : later ∈ agenda.due now := List.mem_filter.2 ⟨laterMem, by simpa using early⟩
      have before := first later waits (by rw [isOther]; exact differs other present)
      rw [Appointment.isBefore_iff, (mem_of_appointment? planned).2, isOther] at before
      exact ⟨_, _, by rw [dueAt?_eq, planned]; rfl, by rw [dueAt?_eq, found]; rfl, before⟩
    · refine clears.ordered.imp_of_mem ?_
      rintro left right leftMem rightMem ⟨early, late, isEarly, isLate, before⟩
      rw [due left (differs left leftMem)] at isEarly
      rw [due right (differs right rightMem)] at isLate
      exact ⟨early, late, isEarly, isLate, before⟩
  · intro other present
    rcases List.mem_cons.1 present with rfl | present
    · rw [clears.kept other fresh, renewed, planned]
      rfl
    · rw [clears.renewed other present, others other (differs other present)]
  · intro other absent
    rw [List.mem_cons, not_or] at absent
    rw [clears.kept other absent.2, others other absent.1]

theorem exists_clears (distinct : agenda.Distinct) (paced : agenda.Paced) (now : Nat) :
    ∃ taken later, agenda.Clears now taken later := by
  induction size : (agenda.due now).length using Nat.strong_induction_on generalizing agenda with
  | _ count ih =>
      cases popped : agenda.pop now with
      | none => exact ⟨[], agenda, clears_of_pop_eq_none popped⟩
      | some found =>
          rcases found with ⟨task, next⟩
          rcases due_pop paced popped with ⟨rest, appointment, present, isTask⟩
          have fewer : (next.due now).length < count := by
            rw [rest, ← size, List.length_filter_lt_length_iff_exists]
            exact ⟨appointment, present, by simp [isTask]⟩
          rcases ih _ fewer (distinct.pop popped) (paced.pop popped) rfl with
            ⟨taken, later, clears⟩
          exact ⟨task :: taken, later, clears.cons distinct paced popped⟩

/-! ## What is asked of an agenda -/

/-- Something that is asked of an agenda, with the time at which it is asked where that matters. -/
inductive Move where
  | every (task : Task) (period now : Nat)
  | once (task : Task) (delay now : Nat)
  | cancel (task : Task)
  | cancelAll
  | pop (now : Nat)

namespace Move

/-- What becomes of an agenda. -/
def apply (agenda : Agenda) : Move → Agenda
  | .every task period now => agenda.every task period now
  | .once task delay now => agenda.once task delay now
  | .cancel task => agenda.cancel task
  | .cancelAll => {}
  | .pop now => (agenda.take now).2

/-- Whether no empty period is asked for. -/
def IsPaced : Move → Prop
  | .every _ period _ => 0 < period
  | _ => True

end Move

/-- What becomes of a new agenda when one thing after the other is asked of it. -/
def after (moves : List Move) : Agenda :=
  moves.foldl Move.apply {}

theorem take_cases (agenda : Agenda) (now : Nat) :
    (agenda.take now).2 = agenda ∨ ∃ task, agenda.pop now = some (task, (agenda.take now).2) := by
  rw [take]
  cases popped : agenda.pop now with
  | none => exact .inl rfl
  | some found => exact .inr ⟨found.1, rfl⟩

theorem Distinct.apply (distinct : agenda.Distinct) (move : Move) :
    (move.apply agenda).Distinct := by
  cases move with
  | every task period now => exact distinct.put _
  | once task delay now => exact distinct.put _
  | cancel task => exact distinct.cancel task
  | cancelAll => exact distinct_empty
  | pop now =>
      show (agenda.take now).2.Distinct
      rcases agenda.take_cases now with same | ⟨task, popped⟩
      · rwa [same]
      · exact distinct.pop popped

theorem Paced.apply (paced : agenda.Paced) {move : Move} (spaced : move.IsPaced) :
    (move.apply agenda).Paced := by
  cases move with
  | every task period now =>
      refine paced.put ?_
      rintro _ ⟨⟩
      exact spaced
  | once task delay now => exact paced.once task delay now
  | cancel task => exact paced.cancel task
  | cancelAll => exact paced_empty
  | pop now =>
      show (agenda.take now).2.Paced
      rcases agenda.take_cases now with same | ⟨task, popped⟩
      · rwa [same]
      · exact paced.pop popped

theorem distinct_and_paced_foldl (distinct : agenda.Distinct) (paced : agenda.Paced)
    {moves : List Move} (spaced : ∀ move ∈ moves, move.IsPaced) :
    (moves.foldl Move.apply agenda).Distinct ∧ (moves.foldl Move.apply agenda).Paced := by
  induction moves generalizing agenda with
  | nil => exact ⟨distinct, paced⟩
  | cons move rest ih =>
      exact ih (distinct.apply move) (paced.apply (spaced move List.mem_cons_self))
        fun other present => spaced other (List.mem_cons_of_mem _ present)

/-- Whatever was asked of an agenda and at whatever times, as long as no period is empty, there is
at most one appointment for each task; and at any time whoever takes tasks as long as one is due
comes to an end and clears the agenda of all that is due then. -/
theorem clears_after (moves : List Move) (spaced : ∀ move ∈ moves, move.IsPaced) :
    (∀ task, ((after moves).plans task).length ≤ 1) ∧
      ∀ now, ∃ taken later, (after moves).Clears now taken later := by
  rcases distinct_and_paced_foldl distinct_empty paced_empty spaced with ⟨distinct, paced⟩
  exact ⟨distinct.length_plans_le, exists_clears distinct paced⟩

/-- An agenda after a clock that went back, with tasks that were replaced, given up and taken
already, and with two pairs of tasks that are due at the same time. -/
theorem clears_after_turmoil :
    let moves : List Move := [.every .flush 50 0, .every .reconcile 1000 0,
      .once .reconnect 500 100, .pop 600, .once .emptySyncFallback 100 20,
      .once .reconnect 300 100, .every .flush 60 60, .cancel .reconcile,
      .once .connectTimeout 200 200]
    (∀ move ∈ moves, move.IsPaced) ∧
      ((∀ task, ((after moves).plans task).length ≤ 1) ∧
        ∀ now, ∃ taken later, (after moves).Clears now taken later) ∧
      ((after moves).popUpTo 9 400).1 =
        [.flush, .emptySyncFallback, .connectTimeout, .reconnect] := by
  intro moves
  have spaced : ∀ move ∈ moves, move.IsPaced := by
    simp [moves, Move.IsPaced]
  exact ⟨spaced, clears_after moves spaced, by decide⟩

end Agenda

end Cowrite
