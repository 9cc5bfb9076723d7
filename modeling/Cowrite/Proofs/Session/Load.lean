import Cowrite.Proofs.Session.Effects
import Cowrite.Proofs.Transport.Modest
import Mathlib.Algebra.Group.Action.Defs
import Mathlib.Algebra.GroupWithZero.Nat
import Mathlib.Algebra.Order.BigOperators.Group.List
import Mathlib.Algebra.Order.Group.Nat

/-!
# The load of a poll

What a session has to deal with are the events that wait for its client and the tasks that are due.
An event can bring another one and make a task due, and a task can bring an event; but over a modest
transport what a matter brings always weighs less than the matter itself (`Contact.Answers.cost`).
So a session has less to deal with after each round (`Outline.Picks.load_add_weight`,
`Outline.load_answers`).

That no task is due again as soon as it was run is due to the settings, which allow no empty
intervals (`Outline.Paced`).
-/

namespace Cowrite

/-! ## Weights -/

def TransportEvent.weight : TransportEvent Update → Nat
  | .connected => 3
  | .syncResponse _ => 2
  | .fullState _ => 2
  | _ => 1

def Task.weight : Task → Nat
  | .reconnect => 4
  | _ => 1

def Matter.weight : Matter → Nat
  | .event arrived => arrived.weight
  | .task planned => planned.weight

/-- How much can come of an effect. -/
def Effect.cost : Effect → Nat
  | .send .syncRequest => 2
  | .await => 1
  | .dial => 3
  | _ => 0

theorem TransportEvent.weight_le (event : TransportEvent Update) : event.weight ≤ 4 := by
  cases event <;> simp [weight]

theorem Task.weight_le (task : Task) : task.weight ≤ 4 := by
  cases task <;> simp [weight]

namespace Contact

variable {contact : Contact} {matter : Matter} {effects : List Effect}

theorem cost_welcomeBack (contact : Contact) :
    (contact.welcomeBack.map Effect.cost).sum = 0 := by
  rw [welcomeBack]
  split
  · rfl
  · rfl

theorem Asks.cost {mode : TransportMode} {isHost : Bool} (asks : Asks mode isHost effects) :
    (effects.map Effect.cost).sum ≤ 2 := by
  cases asks <;> simp [Effect.cost]

theorem Syncs.cost (syncs : contact.Syncs effects) : (effects.map Effect.cost).sum ≤ 1 := by
  cases syncs <;> simp [Effect.cost]

theorem Sends.cost (sends : Sends effects) : (effects.map Effect.cost).sum = 0 := by
  cases sends <;> simp [Effect.cost]

/-- What a matter brings weighs less than the matter. -/
theorem Answers.cost (answers : contact.Answers matter effects) :
    (effects.map Effect.cost).sum < matter.weight := by
  cases answers with
  | connected waits asks =>
      have cost := asks.cost
      have free := contact.cost_welcomeBack
      simp only [List.map_append, List.sum_append, free, Matter.weight, TransportEvent.weight]
      simp [Effect.cost]
      omega
  | ready host waits endpointId relayUrl =>
      have free := contact.cost_welcomeBack
      simp [free, Effect.cost, Matter.weight, TransportEvent.weight]
  | syncResponse payload syncs => exact Nat.lt_succ_of_le syncs.cost
  | fullState guest payload syncs => exact Nat.lt_succ_of_le syncs.cost
  | fullStateToHost host payload sends => simp [sends.cost, Matter.weight, TransportEvent.weight]
  | update payload sends => simp [sends.cost, Matter.weight, TransportEvent.weight]
  | newcomer host direct peer payload =>
      split
      · simp [Effect.cost, Matter.weight, TransportEvent.weight]
      · simp [Effect.cost, Matter.weight, TransportEvent.weight]
  | flush sends => simp [sends.cost, Matter.weight, Task.weight]
  | _ => simp [Effect.cost, Matter.weight, TransportEvent.weight, Task.weight]

theorem Asks.dial_not_mem {mode : TransportMode} {isHost : Bool} (asks : Asks mode isHost effects) :
    .dial ∉ effects := by
  cases asks <;> simp

theorem Syncs.dial_not_mem (syncs : contact.Syncs effects) : .dial ∉ effects := by
  cases syncs <;> simp

theorem Sends.dial_not_mem (sends : Sends effects) : .dial ∉ effects := by
  cases sends <;> simp

/-- An attempt to connect is made by a task of its own. -/
theorem Answers.dials (answers : contact.Answers matter effects) :
    matter = .task .reconnect ∧ effects = [.dial] ∨ .dial ∉ effects := by
  have welcomes : Effect.dial ∉ contact.welcomeBack := by
    rw [welcomeBack]
    split
    · simp
    · simp
  cases answers with
  | connected waits asks => exact .inr (by simp [welcomes, asks.dial_not_mem])
  | ready host waits endpointId relayUrl => exact .inr (by simp [welcomes])
  | syncResponse payload syncs => exact .inr syncs.dial_not_mem
  | fullState guest payload syncs => exact .inr syncs.dial_not_mem
  | fullStateToHost host payload sends => exact .inr sends.dial_not_mem
  | update payload sends => exact .inr sends.dial_not_mem
  | newcomer host direct peer payload =>
      right
      split
      · simp
      · simp
  | flush sends => exact .inr sends.dial_not_mem
  | reconnect => exact .inl ⟨rfl, rfl⟩
  | _ => exact .inr (by simp)

end Contact

/-! ## Tasks that are due -/

namespace Agenda

variable {agenda later : Agenda} {now : Nat}

def due (agenda : Agenda) (now : Nat) : List Appointment :=
  agenda.appointments.filter (·.due ≤ now)

/-- The work of the tasks that are due. -/
def work (agenda : Agenda) (now : Nat) : Nat :=
  ((agenda.due now).map (·.task.weight)).sum

theorem due_cancel (agenda : Agenda) (task : Task) (now : Nat) :
    (agenda.cancel task).due now = (agenda.due now).filter (·.task != task) := by
  simp only [due, cancel, List.filter_filter, Bool.and_comm]

theorem due_put (agenda : Agenda) (appointment : Appointment) (now : Nat) :
    (agenda.put appointment).due now = (agenda.due now).filter (·.task != appointment.task) ++
      if appointment.due ≤ now then [appointment] else [] := by
  rw [← due_cancel]
  simp only [due, put, List.filter_append]
  split
  case isTrue isDue => simp [isDue]
  case isFalse isLater => simp [isLater]

theorem due_put_later (agenda : Agenda) {appointment : Appointment}
    (isLater : now < appointment.due) :
    (agenda.put appointment).due now = (agenda.due now).filter (·.task != appointment.task) := by
  rw [due_put, if_neg (by omega), List.append_nil]

theorem due_once (agenda : Agenda) (task : Task) {delay : Nat} (positive : 0 < delay)
    (now : Nat) : (agenda.once task delay now).due now = (agenda.due now).filter (·.task != task) :=
  due_put_later agenda (Nat.lt_add_of_pos_right positive)

theorem work_once_le (agenda : Agenda) (task : Task) (delay now : Nat) :
    (agenda.once task delay now).work now ≤ agenda.work now + task.weight := by
  have others := ((List.filter_sublist (l := agenda.due now) (p := (·.task != task))).map
    (·.task.weight)).sum_le_sum fun _ _ => Nat.zero_le _
  rw [work, once, due_put, work, List.map_append, List.sum_append]
  refine Nat.add_le_add others ?_
  split
  · simp
  · simp

theorem work_le_of_sublist (sublist : (later.due now).Sublist (agenda.due now)) :
    later.work now ≤ agenda.work now :=
  (sublist.map _).sum_le_sum fun _ _ => Nat.zero_le _

/-- Whether no periodic task is due again at once. -/
def Paced (agenda : Agenda) : Prop :=
  ∀ appointment ∈ agenda.appointments, ∀ period ∈ appointment.period, 0 < period

theorem paced_empty : Paced {} := by
  simp [Paced]

theorem Paced.cancel (paced : agenda.Paced) (task : Task) : (agenda.cancel task).Paced := by
  intro appointment present
  exact paced appointment (List.mem_filter.1 present).1

theorem Paced.put (paced : agenda.Paced) {appointment : Appointment}
    (spaced : ∀ period ∈ appointment.period, 0 < period) : (agenda.put appointment).Paced := by
  intro other present
  rcases List.mem_append.1 present with old | new
  · exact paced.cancel _ other old
  · rw [List.mem_singleton.1 new]
    exact spaced

theorem Paced.once (paced : agenda.Paced) (task : Task) (delay now : Nat) :
    (agenda.once task delay now).Paced :=
  paced.put (by simp)

theorem Paced.pop (paced : agenda.Paced) {task : Task}
    (popped : agenda.pop now = some (task, later)) : later.Paced := by
  rw [Agenda.pop, Option.map_eq_some_iff] at popped
  rcases popped with ⟨appointment, found, same⟩
  have present := (List.mem_filter.1 (mem_of_first? found)).1
  rcases Prod.mk.inj same with ⟨rfl, rfl⟩
  cases period : appointment.period with
  | none => exact paced.cancel _
  | some pace =>
      refine paced.put ?_
      intro other spaced
      exact paced appointment present other (period.trans spaced)

/-- A task that is taken is not due any more. -/
theorem due_pop (paced : agenda.Paced) {task : Task}
    (popped : agenda.pop now = some (task, later)) :
    later.due now = (agenda.due now).filter (·.task != task) ∧
      ∃ appointment ∈ agenda.due now, appointment.task = task := by
  rw [Agenda.pop, Option.map_eq_some_iff] at popped
  rcases popped with ⟨appointment, found, same⟩
  have present := mem_of_first? found
  rcases Prod.mk.inj same with ⟨rfl, rfl⟩
  refine ⟨?_, appointment, present, rfl⟩
  cases period : appointment.period with
  | none => exact due_cancel _ _ _
  | some pace =>
      have spaced := paced appointment (List.mem_filter.1 present).1 pace period
      exact due_put_later _ (by simp; omega)

theorem work_pop (paced : agenda.Paced) {task : Task}
    (popped : agenda.pop now = some (task, later)) :
    later.work now + task.weight ≤ agenda.work now := by
  rcases due_pop paced popped with ⟨rest, appointment, present, rfl⟩
  rcases List.append_of_mem present with ⟨before, after, split⟩
  rw [work, work, rest, split]
  have first := ((List.filter_sublist (l := before)
    (p := fun other => other.task != appointment.task)).map (·.task.weight)).sum_le_sum
      fun _ _ => Nat.zero_le _
  have second := ((List.filter_sublist (l := after)
    (p := fun other => other.task != appointment.task)).map (·.task.weight)).sum_le_sum
      fun _ _ => Nat.zero_le _
  simp
  omega

theorem first?_eq_none_iff {appointments : List Appointment} :
    first? appointments = none ↔ appointments = [] := by
  cases appointments with
  | nil => exact ⟨fun _ => rfl, fun _ => rfl⟩
  | cons first rest =>
      rw [first?]
      split
      · simp
      · split
        · simp
        · simp

theorem pop_eq_none_iff : agenda.pop now = none ↔ agenda.due now = [] := by
  rw [Agenda.pop, Option.map_eq_none_iff, first?_eq_none_iff, due]

end Agenda

/-! ## Settings that can work -/

namespace Settings

variable {settings : Settings}

theorem validate_eq_ok_iff : settings.validate = .ok () ↔
    0 < settings.flushInterval ∧ 0 < settings.connectTimeout ∧ 0 < settings.reconnectBase ∧
      0 < settings.reconcileEvery ∧ settings.reconnectBase ≤ settings.reconnectMax := by
  rw [validate]
  cases first : settings.positives.find? (·.2 == 0) with
  | none =>
    simp only [positives, List.find?_eq_none, List.forall_mem_cons, beq_iff_eq] at first
    by_cases below : settings.reconnectMax < settings.reconnectBase
    · simp only [if_pos below, reduceCtorEq, false_iff]
      omega
    · simp only [if_neg below, true_iff]
      omega
  | some entry =>
    rcases entry with ⟨name, value⟩
    have zero := List.find?_some first
    have present := List.mem_of_find?_eq_some first
    simp only [beq_iff_eq] at zero
    simp only [positives, List.mem_cons, Prod.mk.injEq, List.not_mem_nil, or_false] at present
    simp only [reduceCtorEq, false_iff]
    omega

/-- There is a wait before each attempt to reconnect. -/
theorem delay_pos (valid : settings.validate = .ok ()) (attempt : Nat) :
    0 < settings.backoff.delay attempt := by
  rcases validate_eq_ok_iff.1 valid with ⟨_, _, base, _, ordered⟩
  rw [Backoff.delay, Nat.shiftLeft_eq]
  exact Nat.lt_min.2 ⟨Nat.mul_pos base (Nat.two_pow_pos _), Nat.lt_of_lt_of_le base ordered⟩

theorem interval_pos (valid : settings.validate = .ok ()) {interval : Nat}
    (spaced : settings.reconcileInterval? = some interval) : 0 < interval := by
  rcases validate_eq_ok_iff.1 valid with ⟨flush, _, _, often, _⟩
  rw [reconcileInterval?] at spaced
  split at spaced
  · cases spaced
    exact Nat.mul_pos flush often
  · cases spaced

end Settings

/-! ## Outlines -/

namespace Outline

variable {ν : Type} {outline : Outline ν} {contact : Contact} {now : Nat}

/-- No wait of a session is over at once. -/
structure Paced (outline : Outline ν) : Prop where
  agenda : outline.agenda.Paced
  waits : ∀ contact ∈ outline.contact,
    (∀ attempt, 0 < contact.connection.backoff.delay attempt) ∧ 0 < contact.connection.timeout

theorem paced_of_ended (ended : outline.contact = none) (empty : outline.agenda = {}) :
    outline.Paced := by
  constructor
  · simp [empty, Agenda.paced_empty]
  · simp [ended]

theorem Paced.tell (paced : outline.Paced) (notice : Notice) : (outline.tell notice).Paced :=
  ⟨paced.agenda, paced.waits⟩

theorem Paced.of_agenda (paced : outline.Paced) {agenda : Agenda} (spaced : agenda.Paced) :
    ({ outline with agenda } : Outline ν).Paced :=
  ⟨spaced, paced.waits⟩

theorem Paced.of_network (paced : outline.Paced) (network : ν) :
    ({ outline with network } : Outline ν).Paced :=
  ⟨paced.agenda, paced.waits⟩

theorem Paced.onLine (paced : outline.Paced) (change : Line ν → Line ν)
    (agenda : ∀ line, line.agenda.Paced → (change line).agenda.Paced)
    (kept : ∀ line, (change line).connection.backoff = line.connection.backoff ∧
      (change line).connection.timeout = line.connection.timeout) :
    (outline.onLine change).Paced := by
  rw [Outline.onLine]
  cases present : outline.contact with
  | none => exact paced
  | some contact =>
      refine ⟨agenda _ paced.agenda, ?_⟩
      rintro _ ⟨⟩
      rcases kept (outline.line contact) with ⟨backoff, timeout⟩
      simp only [backoff, timeout]
      exact paced.waits contact present

variable [Transport ν]

theorem Paced.close (paced : outline.Paced) (notice : Notice) : (outline.close notice).Paced := by
  rw [Outline.close]
  split
  · exact paced
  · exact (paced_of_ended rfl rfl).tell notice

theorem Paced.hungUp (paced : outline.Paced) (present : outline.contact = some contact)
    (state : ConnectionState) : (outline.hungUp contact state).Paced := by
  refine ⟨paced.agenda.cancel _, ?_⟩
  rintro _ ⟨⟩
  exact paced.waits contact present

theorem Paced.lose (paced : outline.Paced) (now : Nat) : (outline.lose now).Paced := by
  cases present : outline.contact with
  | none =>
      rw [Outline.lose, present]
      exact paced
  | some contact =>
      cases ignored : outline.ignores contact with
      | true =>
          rw [lose_of_ignores present ignored]
          exact paced
      | false =>
          rw [lose_of_counts present ignored]
          split
          · have hung := paced.hungUp present
              (.reconnecting (Connection.nextAttempt contact.connection.attempts))
            exact (hung.of_agenda (hung.agenda.once _ _ _)).tell _
          · exact (paced.hungUp present .failed).close _

theorem Paced.calling (paced : outline.Paced) (present : outline.contact = some contact)
    (network : ν) (now : Nat) : (outline.calling contact network now).Paced := by
  refine ⟨paced.agenda.once _ _ _, ?_⟩
  rintro _ ⟨⟩
  exact paced.waits contact present

theorem Paced.dial (paced : outline.Paced) (now : Nat) : (outline.dial now).Paced := by
  cases present : outline.contact with
  | none =>
      rw [Outline.dial, present]
      exact paced
  | some contact =>
      cases leaving : contact.connection.leaving with
      | true =>
          rw [dial_of_leaving present leaving]
          exact paced
      | false =>
          rw [dial_of_staying present leaving]
          split
          · exact paced.calling present _ now
          · exact (paced.of_network _).lose now

theorem Paced.act (paced : outline.Paced) (now : Nat) (effect : Effect) :
    (outline.act now effect).Paced := by
  cases effect with
  | tell notice => exact paced.tell notice
  | resync isDue =>
      refine ⟨paced.agenda, ?_⟩
      intro later held
      rcases Option.map_eq_some_iff.1 held with ⟨contact, present, rfl⟩
      exact paced.waits contact present
  | reach state =>
      exact paced.onLine (·.withState state) (fun _ spaced => spaced) fun _ => ⟨rfl, rfl⟩
  | confirm =>
      exact paced.onLine (·.confirm.2) (fun _ spaced => spaced.cancel _) fun _ => ⟨rfl, rfl⟩
  | send message =>
      refine paced.onLine (fun line => (line.send message).2) ?_ ?_
      · intro line spaced
        rcases line.exists_send message with ⟨result, network, sends⟩
        rw [sends]
        exact spaced
      · intro line
        rcases line.exists_send message with ⟨result, network, sends⟩
        rw [sends]
        exact ⟨rfl, rfl⟩
  | await => exact paced.of_agenda (paced.agenda.once _ _ _)
  | lose => exact paced.lose now
  | dial => exact paced.dial now
  | close notice => exact paced.close notice

theorem Paced.run (paced : outline.Paced) (now : Nat) (effects : List Effect) :
    (outline.run now effects).Paced := by
  induction effects generalizing outline with
  | nil => exact paced
  | cons effect rest ih => exact ih (paced.act now effect)

theorem Paced.takes (paced : outline.Paced) {found : Option Matter} {looked : Outline ν}
    (takes : outline.Takes contact now found looked) : looked.Paced := by
  cases takes with
  | event event client count => exact paced.of_network _
  | task task agenda popped count =>
      exact ⟨paced.agenda.pop popped, paced.waits⟩
  | nothing count => exact paced.of_network _

theorem Paced.does (paced : outline.Paced) {call : Call} {after : Outline ν}
    (does : outline.Does now call after) : after.Paced := by
  cases does with
  | nothing => exact paced
  | bufferClosed => exact paced.close _
  | flushNow sends => exact paced.run now _
  | leave => exact paced.close _
  | takeNotices => exact ⟨paced.agenda, paced.waits⟩
  | vanish network => exact paced_of_ended rfl rfl

theorem Paced.opens (paced : outline.Paced) {after : Outline ν}
    (opens : outline.Opens now after) : after.Paced := by
  cases opens with
  | declined => exact paced
  | refused => exact paced_of_ended rfl rfl
  | abandoned => exact paced_of_ended rfl rfl
  | @begun contact isNew network answers clock agenda plans role code =>
      rcases Settings.validate_eq_ok_iff.1 isNew.valid with ⟨flush, timeout, _⟩
      rcases Desk.exists_of_periodic plans with ⟨interval, spaced, rfl⟩
      have called : ((outline.prepared contact).calling contact network now).agenda.Paced :=
        paced.agenda.once _ _ _
      refine Paced.tell ⟨?_, ?_⟩ _
      · refine (called.put ?_).put ?_
        · rintro _ ⟨⟩
          exact flush
        · rintro _ ⟨⟩
          exact Settings.interval_pos isNew.valid spaced
      · rintro _ ⟨⟩
        refine ⟨?_, ?_⟩
        · intro attempt
          rw [isNew.backoff]
          exact Settings.delay_pos isNew.valid attempt
        · rw [isNew.timeout]
          exact timeout

/-! ### What waits and what is due -/

/-- The events that wait for the present client. -/
def waiting (outline : Outline ν) : List (TransportEvent Update) :=
  match outline.contact with
  | none => []
  | some contact =>
      match contact.connection.client with
      | none => []
      | some own => eventsOf own (Transport.inbox outline.network contact.connection.mailbox)

def load (outline : Outline ν) (now : Nat) : Nat :=
  (outline.waiting.map (·.weight)).sum + outline.agenda.work now

/-- Whether a session has looked at everything that has arrived. -/
def Read (outline : Outline ν) : Prop :=
  ∀ contact ∈ outline.contact, Transport.inbox outline.network contact.connection.mailbox = []

/-- Whether a session has no connection and nothing of an earlier one. -/
structure Severed (outline : Outline ν) : Prop where
  read : outline.Read
  alone : ∀ contact ∈ outline.contact, contact.connection.client = none

theorem waiting_of_ended (ended : outline.contact = none) : outline.waiting = [] := by
  rw [waiting, ended]

theorem waiting_of_alone (present : outline.contact = some contact)
    (alone : contact.connection.client = none) : outline.waiting = [] := by
  rw [waiting, present]
  simp only [alone]

theorem waiting_of_client (present : outline.contact = some contact) {own : ClientId}
    (client : contact.connection.client = some own) : outline.waiting =
      eventsOf own (Transport.inbox outline.network contact.connection.mailbox) := by
  rw [waiting, present]
  simp only [client]

theorem waiting_of_contact {other : Outline ν} (present : outline.contact = some contact)
    {later : Contact} (next : other.contact = some later)
    (client : later.connection.client = contact.connection.client)
    (mailbox : later.connection.mailbox = contact.connection.mailbox)
    (network : other.network = outline.network) : other.waiting = outline.waiting := by
  rw [waiting, waiting, present, next]
  simp only [client, mailbox, network]

theorem length_waiting_le (present : outline.contact = some contact) :
    outline.waiting.length ≤
      (Transport.inbox outline.network contact.connection.mailbox).length := by
  cases client : contact.connection.client with
  | none => simp [waiting_of_alone present client]
  | some own =>
      rw [waiting_of_client present client, eventsOf, List.length_map]
      exact List.length_filter_le _ _

theorem load_le (outline : Outline ν) (now : Nat) : outline.load now ≤
    4 * outline.waiting.length + 4 * outline.agenda.appointments.length := by
  have waits := List.sum_le_card_nsmul (outline.waiting.map (·.weight)) 4 (by
    simpa using fun event _ => event.weight_le)
  have works := List.sum_le_card_nsmul ((outline.agenda.due now).map (·.task.weight)) 4 (by
    simpa using fun appointment _ => appointment.task.weight_le)
  have few : (outline.agenda.due now).length ≤ outline.agenda.appointments.length :=
    List.length_filter_le _ _
  rw [List.length_map, smul_eq_mul] at waits works
  rw [load, Agenda.work]
  omega

theorem waiting_close (outline : Outline ν) (notice : Notice) :
    (outline.close notice).waiting = [] := by
  rw [close]
  cases ended : outline.contact with
  | none => exact waiting_of_ended ended
  | some _ => exact waiting_of_ended rfl

theorem due_close (outline : Outline ν) (notice : Notice) (now : Nat) :
    ((outline.close notice).agenda.due now).Sublist (outline.agenda.due now) := by
  rw [close]
  split
  · exact .refl _
  · exact List.nil_sublist _

/-- Once a connection is lost nothing waits, and nothing more is due. -/
theorem waiting_lose (outline : Outline ν) (now : Nat) :
    (outline.lose now).waiting = [] ∨ outline.lose now = outline := by
  cases present : outline.contact with
  | none =>
      right
      rw [lose, present]
  | some contact =>
      cases ignored : outline.ignores contact with
      | true => exact .inr (lose_of_ignores present ignored now)
      | false =>
          left
          rw [lose_of_counts present ignored]
          split
          · exact waiting_of_alone rfl rfl
          · exact waiting_close _ _

theorem Paced.due_lose (paced : outline.Paced) (now : Nat) :
    ((outline.lose now).agenda.due now).Sublist (outline.agenda.due now) := by
  cases present : outline.contact with
  | none => rw [Outline.lose, present]
  | some contact =>
      cases ignored : outline.ignores contact with
      | true => rw [lose_of_ignores present ignored now]
      | false =>
          have cancelled (state : ConnectionState) :
              ((outline.hungUp contact state).agenda.due now).Sublist (outline.agenda.due now) :=
            Agenda.due_cancel outline.agenda .connectTimeout now ▸ List.filter_sublist
          have wait := (paced.waits contact present).1
            (Connection.nextAttempt contact.connection.attempts)
          rw [lose_of_counts present ignored]
          split
          · refine List.Sublist.trans ?_ (cancelled .failed)
            exact Agenda.due_once _ _ wait now ▸ List.filter_sublist
          · exact (due_close _ _ now).trans (cancelled .failed)

theorem Paced.due_dial (paced : outline.Paced) (now : Nat) :
    ((outline.dial now).agenda.due now).Sublist (outline.agenda.due now) := by
  cases present : outline.contact with
  | none => rw [Outline.dial, present]
  | some contact =>
      cases leaving : contact.connection.leaving with
      | true => rw [dial_of_leaving present leaving]
      | false =>
          rw [dial_of_staying present leaving]
          rcases outline.answer contact with ⟨_ | ⟨⟩, network⟩
          · exact (paced.of_network network).due_lose now
          · have wait := (paced.waits contact present).2
            exact Agenda.due_once outline.agenda .connectTimeout wait now ▸ List.filter_sublist

theorem network_send {own : ClientId} (client : contact.connection.client = some own)
    (message : OutboundMessage Update) :
    ((outline.line contact).send message).2.network =
      (Transport.send outline.network own message).2 := by
  have there : (outline.line contact).connection.client = some own := client
  rw [Line.send, there]
  rfl

/-- Of all effects but an attempt to connect, only a request for the state can bring an event. -/
theorem waiting_act (modest : Transport.Modest ν) (outline : Outline ν) (now : Nat)
    {effect : Effect} (other : effect ≠ .dial) :
    (outline.act now effect).waiting = [] ∨
      (outline.act now effect).waiting = outline.waiting ∨
      effect = .send .syncRequest ∧
        ∃ payload,
          (outline.act now effect).waiting = outline.waiting ++ [.syncResponse payload] := by
  have onLine (change : Line ν → Line ν)
      (client : ∀ line, (change line).connection.client = line.connection.client)
      (mailbox : ∀ line, (change line).connection.mailbox = line.connection.mailbox)
      (network : ∀ line, (change line).network = line.network) :
      (outline.onLine change).waiting = outline.waiting := by
    rw [Outline.onLine]
    cases present : outline.contact with
    | none => rfl
    | some contact => exact waiting_of_contact present rfl (client _) (mailbox _) (network _)
  cases effect with
  | tell notice => exact .inr (.inl rfl)
  | resync isDue =>
      right; left
      cases present : outline.contact with
      | none =>
          rw [waiting_of_ended present]
          exact waiting_of_ended (congrArg (Option.map _) present)
      | some contact =>
          exact waiting_of_contact present (congrArg (Option.map _) present) rfl rfl rfl
  | reach state => exact .inr (.inl (onLine _ (fun _ => rfl) (fun _ => rfl) fun _ => rfl))
  | confirm => exact .inr (.inl (onLine _ (fun _ => rfl) (fun _ => rfl) fun _ => rfl))
  | send message =>
      cases present : outline.contact with
      | none =>
          left
          exact waiting_of_ended (by rw [act, Outline.onLine, present, present])
      | some contact =>
          rw [act_send present]
          cases client : contact.connection.client with
          | none => exact .inl (waiting_of_alone present client)
          | some own =>
              rw [network_send client]
              rcases modest.sends outline.network own message contact.connection.mailbox with
                ⟨new, inbox, brought⟩
              have there : ({ outline with network := (Transport.send outline.network own message).2
                  } : Outline ν).contact = some contact := present
              have grown : ({ outline with network := (Transport.send outline.network own message).2
                  } : Outline ν).waiting = outline.waiting ++ eventsOf own new := by
                rw [waiting_of_client present client, ← eventsOf_append, ← inbox]
                exact waiting_of_client there client
              rcases brought with none | ⟨rfl, payload, answered⟩
              · rw [grown, none, List.append_nil]
                exact .inr (.inl rfl)
              · rw [grown, answered]
                exact .inr (.inr ⟨rfl, payload, rfl⟩)
  | await => exact .inr (.inl rfl)
  | lose => exact (outline.waiting_lose now).imp_right fun same => .inl (congrArg waiting same)
  | dial => exact absurd rfl other
  | close notice => exact .inl (outline.waiting_close notice)

/-- Only a wait before one's own buffer is shared can be over at once. -/
theorem Paced.due_act (paced : outline.Paced) (now : Nat) {effect : Effect}
    (other : effect ≠ .await) :
    ((outline.act now effect).agenda.due now).Sublist (outline.agenda.due now) := by
  have onLine (change : Line ν → Line ν)
      (eases : ∀ line, ((change line).agenda.due now).Sublist (line.agenda.due now)) :
      ((outline.onLine change).agenda.due now).Sublist (outline.agenda.due now) := by
    rw [Outline.onLine]
    cases present : outline.contact with
    | none => rfl
    | some contact => exact eases (outline.line contact)
  cases effect with
  | tell notice => exact .refl _
  | resync isDue => exact .refl _
  | reach state => exact onLine (·.withState state) fun _ => .refl _
  | confirm =>
      refine onLine (·.confirm.2) ?_
      intro line
      exact Agenda.due_cancel line.agenda .connectTimeout now ▸ List.filter_sublist
  | send message =>
      refine onLine (fun line => (line.send message).2) ?_
      intro line
      rcases line.exists_send message with ⟨result, network, sends⟩
      rw [sends]
  | await => exact absurd rfl other
  | lose => exact paced.due_lose now
  | dial => exact paced.due_dial now
  | close notice => exact due_close outline notice now

theorem Paced.due_run (paced : outline.Paced) (now : Nat) {effects : List Effect}
    (others : Effect.await ∉ effects) :
    ((outline.run now effects).agenda.due now).Sublist (outline.agenda.due now) := by
  induction effects generalizing outline with
  | nil => exact .refl _
  | cons effect rest ih =>
      rw [List.mem_cons, not_or] at others
      exact (ih (paced.act now effect) others.2).trans (paced.due_act now (Ne.symm others.1))

/-- What an effect brings is no more than it costs. -/
theorem Paced.load_act (modest : Transport.Modest ν) (paced : outline.Paced) (now : Nat)
    {effect : Effect} (other : effect ≠ .dial) :
    (outline.act now effect).load now ≤ outline.load now + effect.cost := by
  rw [load, load]
  by_cases awaits : effect = .await
  · subst awaits
    have works := Agenda.work_once_le outline.agenda .emptySyncFallback
      outline.settings.emptySyncWait now
    exact Nat.add_le_add_left works _
  · have works := Agenda.work_le_of_sublist (paced.due_act now awaits)
    rcases waiting_act modest outline now other with none | same | ⟨rfl, payload, more⟩
    · rw [none, List.map_nil, List.sum_nil]
      omega
    · rw [same]
      omega
    · rw [more, List.map_append, List.sum_append]
      simp only [List.map_cons, List.map_nil, List.sum_singleton, TransportEvent.weight,
        Effect.cost]
      omega

theorem Paced.load_run (modest : Transport.Modest ν) (paced : outline.Paced) (now : Nat)
    {effects : List Effect} (others : Effect.dial ∉ effects) :
    (outline.run now effects).load now ≤ outline.load now + (effects.map Effect.cost).sum := by
  induction effects generalizing outline with
  | nil => simp
  | cons effect rest ih =>
      rw [List.mem_cons, not_or] at others
      have first := paced.load_act modest now (Ne.symm others.1)
      have later := ih (paced.act now effect) others.2
      rw [run_cons, List.map_cons, List.sum_cons]
      omega

/-- All that an attempt to connect can bring is the confirmation. -/
theorem Severed.waiting_dial (modest : Transport.Modest ν) (severed : outline.Severed) (now : Nat) :
    (outline.dial now).waiting = [] ∨ (outline.dial now).waiting = [.connected] ∧
      ∃ contact network, outline.contact = some contact ∧
        outline.dial now = outline.calling contact network now := by
  cases present : outline.contact with
  | none =>
      left
      rw [dial, present]
      exact waiting_of_ended present
  | some contact =>
      have alone := severed.alone contact present
      cases leaving : contact.connection.leaving with
      | true =>
          left
          rw [dial_of_leaving present leaving]
          exact waiting_of_alone present alone
      | false =>
          rw [dial_of_staying present leaving]
          rcases answers : outline.answer contact with ⟨result, network⟩
          cases result with
          | error error =>
              left
              rcases ({ outline with network } : Outline ν).waiting_lose now with none | same
              · exact none
              · simp only [same]
                exact waiting_of_alone present alone
          | ok done =>
              let named := Transport.mintClient outline.network
              rcases modest.connects named.2 named.1 contact.connection.target
                contact.connection.key contact.connection.mailbox with ⟨new, inbox, brought⟩
              rw [modest.mints, severed.read contact present, List.nil_append] at inbox
              have same : network = (outline.answer contact).2 := by rw [answers]
              have called : ∃ later, (outline.calling contact network now).contact = some later ∧
                  later.connection.client = some named.1 ∧
                  later.connection.mailbox = contact.connection.mailbox := ⟨_, rfl, rfl, rfl⟩
              rcases called with ⟨later, next, client, mailbox⟩
              have waits : (outline.calling contact network now).waiting =
                  eventsOf named.1 new := by
                rw [waiting_of_client next client, mailbox, ← inbox]
                exact congrArg (fun network => eventsOf named.1
                  (Transport.inbox network contact.connection.mailbox)) same
              rw [waits]
              exact brought.imp_right fun confirmed => ⟨confirmed, contact, network, rfl, rfl⟩

theorem Severed.load_dial (modest : Transport.Modest ν) (severed : outline.Severed)
    (paced : outline.Paced) (now : Nat) :
    (outline.dial now).load now ≤ outline.load now + 3 := by
  have works := Agenda.work_le_of_sublist (paced.due_dial now)
  have waits : ((outline.dial now).waiting.map (·.weight)).sum ≤ 3 := by
    rcases severed.waiting_dial modest now with none | ⟨one, _⟩
    · simp [none]
    · simp [one, TransportEvent.weight]
  rw [load, load]
  omega

/-! ## Rounds -/

/-- What a round of polling takes, and what it leaves: the first event about the present client, or
else, when all events have been looked at, a task that is due. -/
inductive Picks (outline : Outline ν) (now : Nat) : Option Matter → Outline ν → Prop
  | event {looked : Outline ν} {event : TransportEvent Update}
      (waits : outline.waiting = event :: looked.waiting)
      (contact : looked.contact = outline.contact)
      (agenda : looked.agenda = outline.agenda) :
      Picks outline now (some (.event event)) looked
  | task {looked : Outline ν} {task : Task} (none : outline.waiting = []) (read : looked.Read)
      (contact : looked.contact = outline.contact)
      (popped : outline.agenda.pop now = some (task, looked.agenda)) :
      Picks outline now (some (.task task)) looked
  | nothing {looked : Outline ν} (none : outline.waiting = []) (read : looked.Read)
      (contact : looked.contact = outline.contact) (agenda : looked.agenda = outline.agenda)
      (idle : outline.agenda.pop now = .none) : Picks outline now .none looked

theorem Read.waiting (read : outline.Read) : outline.waiting = [] := by
  rw [Outline.waiting]
  cases present : outline.contact with
  | none => rfl
  | some contact =>
      simp only
      split
      · rfl
      · rw [read contact present, eventsOf_nil]

variable {looked : Outline ν} {matter : Matter} {found : Option Matter}

theorem Picks.contact_eq (picks : outline.Picks now found looked) :
    looked.contact = outline.contact := by
  cases picks with
  | event waits contact agenda => exact contact
  | task none read contact popped => exact contact
  | nothing none read contact agenda idle => exact contact

/-- What is taken is off the load. -/
theorem Picks.load_add_weight (picks : outline.Picks now (some matter) looked)
    (paced : outline.Paced) : looked.load now + matter.weight ≤ outline.load now := by
  cases picks with
  | event waits contact agenda =>
      rw [load, load, waits, agenda, List.map_cons, List.sum_cons, Matter.weight]
      omega
  | task none read contact popped =>
      have works := Agenda.work_pop paced.agenda popped
      rw [load, load, none, read.waiting, Matter.weight]
      omega

/-- A planned attempt to connect is taken when there is no connection. -/
theorem Picks.severed (picks : outline.Picks now (some (.task .reconnect)) looked)
    (tends : ∀ contact ∈ outline.contact, outline.agenda.Tends contact.connection) :
    looked.Severed := by
  cases picks with
  | task none read contact popped =>
      refine ⟨read, ?_⟩
      rw [contact]
      intro alone present
      exact (tends alone present).planned.1 (Agenda.has_of_pop popped).1

/-- To deal with a matter brings less than the matter weighed. -/
theorem load_answers (modest : Transport.Modest ν) (paced : looked.Paced)
    (severed : matter = .task .reconnect → looked.Severed) {effects : List Effect}
    (answers : contact.Answers matter effects) (now : Nat) :
    (looked.run now effects).load now < looked.load now + matter.weight := by
  rcases answers.dials with ⟨rfl, rfl⟩ | undialed
  · have brought := (severed rfl).load_dial modest paced now
    exact Nat.lt_succ_of_le brought
  · have brought := paced.load_run modest now undialed
    have costs := answers.cost
    omega

end Outline

end Cowrite
