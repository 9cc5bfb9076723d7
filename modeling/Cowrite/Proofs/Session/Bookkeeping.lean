import Cowrite.Proofs.Session.Effects
import Cowrite.Proofs.Transport.Booked

/-!
# The books of a session

Whatever is begun for a session is ended with it (`Desk.served_square`): its tasks stand on the
agenda as long as it goes on and are gone after it, each of its connections is closed before the
next one is opened and at its end at the latest, and the user who was told that it has started is
told once that it is over. A session can end within a call, an event or a task, but it does so by
one of the effects that are looked at one by one here (`Outline.Squares`).
-/

namespace Cowrite

/-! ## Periodic tasks -/

/-- Whether a task is done again and again as long as a session goes on. -/
def Task.isPeriodic : Task → Bool
  | .flush => true
  | .reconcile => true
  | _ => false

namespace Agenda

/-- An agenda with all periodic tasks, each of which comes again when it is taken. -/
structure Beats (agenda : Agenda) : Prop where
  planned : ∀ task, task.isPeriodic = true → agenda.has task = true
  again : ∀ appointment ∈ agenda.appointments, appointment.task.isPeriodic = true →
    appointment.period ≠ none

variable {agenda later : Agenda}

theorem Beats.cancel (beats : agenda.Beats) {task : Task} (single : task.isPeriodic = false) :
    (agenda.cancel task).Beats := by
  refine ⟨?_, ?_⟩
  · intro other periodic
    have differ : other ≠ task := by
      rintro rfl
      cases single.symm.trans periodic
    rw [has_cancel, beats.planned other periodic]
    simpa using differ
  · intro appointment present
    exact beats.again appointment (List.mem_filter.1 present).1

theorem Beats.put (beats : agenda.Beats) {appointment : Appointment}
    (fits : appointment.task.isPeriodic = true → appointment.period ≠ none) :
    (agenda.put appointment).Beats := by
  refine ⟨?_, ?_⟩
  · intro task periodic
    rw [has_put, beats.planned task periodic, Bool.or_true]
  · intro other present
    rcases List.mem_append.1 present with old | new
    · exact beats.again other (List.mem_filter.1 old).1
    · rw [List.mem_singleton.1 new]
      exact fits

theorem Beats.once (beats : agenda.Beats) {task : Task} (single : task.isPeriodic = false)
    (delay now : Nat) : (agenda.once task delay now).Beats :=
  beats.put fun periodic => absurd (single.symm.trans periodic) (by decide)

theorem Beats.pop (beats : agenda.Beats) {now : Nat} {task : Task}
    (popped : agenda.pop now = some (task, later)) : later.Beats := by
  rw [Agenda.pop, Option.map_eq_some_iff] at popped
  rcases popped with ⟨appointment, found, same⟩
  have present := (List.mem_filter.1 (mem_of_first? found)).1
  rcases Prod.mk.inj same with ⟨rfl, rfl⟩
  cases period : appointment.period with
  | none =>
      refine beats.cancel ?_
      by_contra periodic
      exact beats.again appointment present (eq_true_of_ne_false periodic) period
  | some pace => exact beats.put (by simp)

/-- The tasks of a new session. -/
theorem beats_of_periodic {settings : Settings} {clock : Clock} {now : Nat}
    (none : ∀ appointment ∈ agenda.appointments, appointment.task.isPeriodic = false)
    (plans : Desk.periodic settings clock agenda now = .ok later) : later.Beats := by
  rcases Desk.exists_of_periodic plans with ⟨interval, _, rfl⟩
  refine ⟨?_, ?_⟩
  · intro task periodic
    rw [every, has_put, every, has_put]
    cases task with
    | flush => rfl
    | reconcile => rfl
    | _ => cases periodic
  · intro appointment present periodic
    rcases List.mem_append.1 present with old | new
    · rcases List.mem_append.1 (List.mem_filter.1 old).1 with older | new
      · have single := none appointment (List.mem_filter.1 older).1
        cases single.symm.trans periodic
      · rw [List.mem_singleton.1 new]
        exact Option.some_ne_none _
    · rw [List.mem_singleton.1 new]
      exact Option.some_ne_none _

end Agenda

/-! ## Notices -/

namespace Notice

def isStart : Notice → Bool
  | .started _ _ => true
  | _ => false

/-- Whether a notice tells that a session is over. -/
def isEnd : Notice → Bool
  | .left => true
  | .failed _ => true
  | .bufferClosed => true
  | _ => false

end Notice

/-- Whether as many sessions have started as are over, but for the one that goes on. -/
def Balanced (notices : List Notice) (isActive : Bool) : Prop :=
  notices.countP Notice.isStart = notices.countP Notice.isEnd + isActive.toNat

namespace Balanced

variable {notices : List Notice} {isActive : Bool} {notice : Notice}

theorem tell (balanced : Balanced notices isActive) (noStart : notice.isStart = false)
    (noEnd : notice.isEnd = false) : Balanced (notices ++ [notice]) isActive := by
  simp only [Balanced, List.countP_append, List.countP_singleton, noStart, noEnd]
  exact balanced

theorem finish (balanced : Balanced notices true) (noStart : notice.isStart = false)
    (isEnd : notice.isEnd = true) : Balanced (notices ++ [notice]) false := by
  simp only [Balanced, List.countP_append, List.countP_singleton, noStart, isEnd] at *
  simpa using balanced

theorem start (balanced : Balanced notices false) (isStart : notice.isStart = true)
    (noEnd : notice.isEnd = false) : Balanced (notices ++ [notice]) true := by
  simp only [Balanced, List.countP_append, List.countP_singleton, isStart, noEnd] at *
  simpa using balanced

end Balanced

/-! ## Effects -/

namespace Effect

/-- An effect that needs no more of a session than that its books are square. -/
def IsPlain : Effect → Prop
  | .tell notice => notice.isStart = false ∧ notice.isEnd = false
  | .close notice => notice.isStart = false ∧ notice.isEnd = true
  | .await => False
  | .dial => False
  | _ => True

end Effect

namespace Contact

variable {contact : Contact} {matter : Matter} {effects : List Effect}

theorem Sends.plain (sends : Sends effects) : ∀ effect ∈ effects, effect.IsPlain := by
  cases sends <;> simp [Effect.IsPlain]

theorem Asks.plain {mode : TransportMode} {isHost : Bool} (asks : Asks mode isHost effects) :
    ∀ effect ∈ effects, effect.IsPlain := by
  cases asks <;> simp [Effect.IsPlain]

theorem welcomeBack_plain (contact : Contact) :
    ∀ effect ∈ contact.welcomeBack, effect.IsPlain := by
  rw [welcomeBack]
  split
  · simp [Effect.IsPlain, Notice.isStart, Notice.isEnd]
  · simp

/-- All but two answers are plain. -/
theorem Answers.plain (answers : contact.Answers matter effects) :
    (∀ effect ∈ effects, effect.IsPlain) ∨ matter = .task .reconnect ∧ effects = [.dial] ∨
      effects = [.resync false, .reach .synced, .await, .tell .synced] := by
  have synced : Effect.IsPlain (.tell .synced) := ⟨rfl, rfl⟩
  have syncs {effects : List Effect} (syncs : contact.Syncs effects) :
      (∀ effect ∈ effects, effect.IsPlain) ∨
        effects = [.resync false, .reach .synced, .await, .tell .synced] := by
    cases syncs with
    | shown => exact .inl (by simp [Effect.IsPlain, Notice.isStart, Notice.isEnd])
    | awaited guest first => exact .inr rfl
  cases answers with
  | connected waits asks =>
      left
      simp only [List.forall_mem_append]
      exact ⟨⟨by simp [Effect.IsPlain], contact.welcomeBack_plain⟩, asks.plain⟩
  | ready host waits endpointId relayUrl =>
      left
      simp only [List.forall_mem_append]
      exact ⟨⟨by simp [Effect.IsPlain], contact.welcomeBack_plain⟩,
        by simp [Effect.IsPlain, Notice.isStart, Notice.isEnd]⟩
  | syncResponse payload brought => exact (syncs brought).imp_right .inr
  | fullState guest payload brought => exact (syncs brought).imp_right .inr
  | fullStateToHost host payload sends => exact .inl sends.plain
  | update payload sends => exact .inl sends.plain
  | newcomer host direct peer payload =>
      left
      split
      · simp [Effect.IsPlain, Notice.isStart, Notice.isEnd]
      · simp [Effect.IsPlain, Notice.isStart, Notice.isEnd]
  | flush sends => exact .inl sends.plain
  | reconnect => exact .inr (.inl ⟨rfl, rfl⟩)
  | _ => exact .inl (by simp [Effect.IsPlain, Notice.isStart, Notice.isEnd])

end Contact

namespace Outline

variable {ν : Type} {outline looked : Outline (Booked ν)} {contact : Contact}
  {taken : List Notice} {now : Nat} {effects : List Effect}

/-- The present client of a session, if it has one. -/
def client (outline : Outline (Booked ν)) : Option ClientId :=
  outline.contact.bind (·.connection.client)

/-- Whether the books of a session are square, with the notices that were taken. -/
structure Squares (outline : Outline (Booked ν)) (taken : List Notice) : Prop where
  idle : outline.contact = none → outline.agenda = {}
  beats : outline.contact ≠ none → outline.agenda.Beats
  book : ∃ past, outline.network.book = settled past ++ (outline.client.map Entry.opened).toList
  told : Balanced (taken ++ outline.notices) outline.contact.isSome

theorem Squares.tell (squares : outline.Squares taken) {notice : Notice}
    (noStart : notice.isStart = false) (noEnd : notice.isEnd = false) :
    (outline.tell notice).Squares taken := by
  refine ⟨squares.idle, squares.beats, squares.book, ?_⟩
  rw [Outline.tell, ← List.append_assoc]
  exact squares.told.tell noStart noEnd

/-- Whatever leaves the client and the periodic tasks alone leaves the books square. -/
theorem Squares.of_same (squares : outline.Squares taken) (present : outline.contact = some contact)
    {after : Outline (Booked ν)} {later : Contact} (next : after.contact = some later)
    (client : later.connection.client = contact.connection.client)
    (agenda : outline.agenda.Beats → after.agenda.Beats)
    (book : after.network.book = outline.network.book)
    (notices : after.notices = outline.notices) : after.Squares taken := by
  have active : outline.contact ≠ none := present ▸ Option.some_ne_none _
  have same : after.client = outline.client := by
    rw [Outline.client, Outline.client, present, next]
    exact client
  refine ⟨fun ended => (nomatch next.symm.trans ended), fun _ => agenda (squares.beats active),
    ?_, ?_⟩
  · rw [same, book]
    exact squares.book
  · have told := squares.told
    rw [present] at told
    rw [notices, next]
    exact told

theorem Squares.onLine (squares : outline.Squares taken)
    (change : Line (Booked ν) → Line (Booked ν))
    (client : ∀ line, (change line).connection.client = line.connection.client)
    (agenda : ∀ line, line.agenda.Beats → (change line).agenda.Beats)
    (book : ∀ line, (change line).network.book = line.network.book) :
    (outline.onLine change).Squares taken := by
  rw [Outline.onLine]
  cases present : outline.contact with
  | none => exact squares
  | some contact =>
      exact squares.of_same present rfl (client _) (agenda (outline.line contact)) (book _) rfl

/-- The connections of a session that has closed the present one were all closed. -/
theorem Squares.exists_closed (squares : outline.Squares taken)
    (present : outline.contact = some contact) :
    ∃ past, outline.network.book ++ (contact.connection.client.map Entry.closed).toList =
      settled past := by
  rcases squares.book with ⟨past, book⟩
  rw [book, client, present, Option.bind_some]
  cases contact.connection.client with
  | none => exact ⟨past, by simp⟩
  | some own => exact ⟨past ++ [own], (settled_concat past own).symm⟩

variable [Transport ν]

theorem book_hangUp (line : Line (Booked ν)) : line.hangUp.network.book =
    line.network.book ++ (line.connection.client.map Entry.closed).toList := by
  rw [Line.hangUp]
  cases line.connection.client with
  | none => simp
  | some own => rfl

theorem book_stop (outline : Outline (Booked ν)) (contact : Contact) :
    (outline.stop contact).network.book = outline.network.book ++
      (contact.connection.client.map Entry.closed).toList :=
  book_hangUp (outline.line contact).beginLeave

theorem Squares.close (squares : outline.Squares taken) {notice : Notice}
    (noStart : notice.isStart = false) (isEnd : notice.isEnd = true) :
    (outline.close notice).Squares taken := by
  rw [Outline.close]
  cases present : outline.contact with
  | none => exact squares
  | some contact =>
      rcases squares.exists_closed present with ⟨past, closed⟩
      refine ⟨fun _ => rfl, fun some => absurd rfl some, ⟨past, ?_⟩, ?_⟩
      · refine (book_stop outline contact).trans (closed.trans ?_)
        exact (List.append_nil _).symm
      · have told := squares.told
        rw [present] at told
        have finished := told.finish noStart isEnd
        rw [List.append_assoc] at finished
        exact finished

theorem Squares.hungUp (squares : outline.Squares taken) (present : outline.contact = some contact)
    (state : ConnectionState) : (outline.hungUp contact state).Squares taken := by
  have active : outline.contact ≠ none := present ▸ Option.some_ne_none _
  rcases squares.exists_closed present with ⟨past, closed⟩
  refine ⟨nofun, fun _ => (squares.beats active).cancel rfl, ⟨past, ?_⟩, ?_⟩
  · refine (book_hangUp (outline.line contact)).trans (closed.trans ?_)
    exact (List.append_nil _).symm
  · have told := squares.told
    rw [present] at told
    exact told

theorem Squares.lose (squares : outline.Squares taken) (now : Nat) :
    (outline.lose now).Squares taken := by
  cases present : outline.contact with
  | none =>
      rw [Outline.lose, present]
      exact squares
  | some contact =>
      cases ignored : outline.ignores contact with
      | true =>
          rw [lose_of_ignores present ignored]
          exact squares
      | false =>
          rw [lose_of_counts present ignored]
          split
          · refine Squares.tell ?_ rfl rfl
            have hung := squares.hungUp present
              (.reconnecting (Connection.nextAttempt contact.connection.attempts))
            exact hung.of_same rfl rfl rfl (fun beats => beats.once rfl _ _) rfl rfl
          · exact (squares.hungUp present .failed).close rfl rfl

theorem Squares.act (squares : outline.Squares taken) (now : Nat) {effect : Effect}
    (plain : effect.IsPlain) : (outline.act now effect).Squares taken := by
  cases effect with
  | tell notice => exact squares.tell plain.1 plain.2
  | resync isDue =>
      cases present : outline.contact with
      | none =>
          have same : outline.act now (.resync isDue) = outline := by
            rcases outline with ⟨settings, held, agenda, notices, network⟩
            cases present
            rfl
          rw [same]
          exact squares
      | some contact =>
          exact squares.of_same present (congrArg (Option.map _) present) rfl id rfl rfl
  | reach state =>
      exact squares.onLine (·.withState state) (fun _ => rfl) (fun _ => id) fun _ => rfl
  | confirm =>
      exact squares.onLine (·.confirm.2) (fun _ => rfl) (fun _ beats => beats.cancel rfl)
        fun _ => rfl
  | send message =>
      have sends (line : Line (Booked ν)) : ∃ network,
          (line.send message).2 = { line with network } ∧
            network.book = line.network.book := by
        rw [Line.send]
        split
        · exact ⟨line.network, rfl, rfl⟩
        · exact ⟨_, rfl, rfl⟩
      refine squares.onLine (fun line => (line.send message).2) ?_ ?_ ?_
      · intro line
        rcases sends line with ⟨network, sent, _⟩
        rw [sent]
      · intro line beats
        rcases sends line with ⟨network, sent, _⟩
        rw [sent]
        exact beats
      · intro line
        rcases sends line with ⟨network, sent, book⟩
        rw [sent]
        exact book
  | lose => exact squares.lose now
  | close notice => exact squares.close plain.1 plain.2
  | await => exact plain.elim
  | dial => exact plain.elim

theorem Squares.run (squares : outline.Squares taken) (now : Nat)
    (plain : ∀ effect ∈ effects, effect.IsPlain) : (outline.run now effects).Squares taken := by
  induction effects generalizing outline with
  | nil => exact squares
  | cons effect rest ih =>
      rw [List.forall_mem_cons] at plain
      exact ih (squares.act now plain.1) plain.2

theorem book_answer (outline : Outline (Booked ν)) (contact : Contact) :
    (outline.answer contact).2.book =
      match (outline.answer contact).1 with
      | .ok () => outline.network.book ++ [.opened (Transport.mintClient outline.network).1]
      | .error _ => outline.network.book :=
  Booked.book_connect _ _ _ _ _

/-- An attempt to connect is made when there is no connection. -/
theorem Squares.dial (squares : outline.Squares taken)
    (alone : ∀ contact ∈ outline.contact, contact.connection.client = none) (now : Nat) :
    (outline.dial now).Squares taken := by
  cases present : outline.contact with
  | none =>
      rw [Outline.dial, present]
      exact squares
  | some contact =>
      cases leaving : contact.connection.leaving with
      | true =>
          rw [dial_of_leaving present leaving]
          exact squares
      | false =>
          have booked := outline.book_answer contact
          have free : outline.client = none := by
            rw [client, present]
            exact alone contact present
          rw [dial_of_staying present leaving]
          rcases answers : outline.answer contact with ⟨result, network⟩
          rw [answers] at booked
          cases result with
          | error error =>
              have there : ({ outline with network } : Outline (Booked ν)).contact = some contact :=
                present
              exact (squares.of_same present there rfl id booked rfl).lose now
          | ok done =>
              have active : outline.contact ≠ none := present ▸ Option.some_ne_none _
              rcases squares.book with ⟨past, book⟩
              rw [free] at book
              refine ⟨fun ended => absurd ended (Option.some_ne_none _),
                fun _ => (squares.beats active).once rfl _ _, ⟨past, ?_⟩, ?_⟩
              · refine Eq.trans booked ?_
                rw [book]
                simp [client, calling]
              · have told := squares.told
                rw [present] at told
                exact told

/-- A wait before one's own buffer is shared begins. -/
theorem Squares.awaited (squares : outline.Squares taken) (present : outline.contact = some contact)
    (now : Nat) :
    (outline.run now [.resync false, .reach .synced, .await, .tell .synced]).Squares taken := by
  have told : (outline.run now [.resync false, .reach .synced, .await, .tell .synced]) =
      ({ outline with
        contact := some { contact with
          resync := false
          connection := { contact.connection with state := .synced } }
        agenda := outline.agenda.once .emptySyncFallback outline.settings.emptySyncWait now } :
        Outline (Booked ν)).tell .synced := by
    rcases outline with ⟨settings, held, agenda, notices, network⟩
    cases present
    rfl
  rw [told]
  refine Squares.tell ?_ rfl rfl
  exact squares.of_same present rfl rfl (fun beats => beats.once rfl _ _) rfl rfl

theorem Squares.takes (squares : outline.Squares taken) (present : outline.contact = some contact)
    {found : Option Matter} (takes : outline.Takes contact now found looked) :
    looked.Squares taken := by
  cases takes with
  | event event client count => exact squares.of_same present present rfl id rfl rfl
  | task task agenda popped count =>
      exact squares.of_same present present rfl (fun beats => beats.pop popped) rfl rfl
  | nothing count => exact squares.of_same present present rfl id rfl rfl

theorem Squares.answers (squares : looked.Squares taken) (present : looked.contact = some contact)
    {matter : Matter} (alone : matter = .task .reconnect → contact.connection.client = none)
    (answers : contact.Answers matter effects) (now : Nat) :
    (looked.run now effects).Squares taken := by
  rcases answers.plain with plain | ⟨rfl, rfl⟩ | rfl
  · exact squares.run now plain
  · refine squares.dial ?_ now
    intro other there
    cases present.symm.trans there
    exact alone rfl
  · exact squares.awaited present now

theorem Squares.does (squares : outline.Squares taken) {call : Call} {after : Outline (Booked ν)}
    (does : outline.Does now call after) (kept : call ≠ .takeNotices) (stays : call ≠ .vanish) :
    after.Squares taken := by
  cases does with
  | nothing => exact squares
  | bufferClosed => exact squares.close rfl rfl
  | flushNow sends => exact squares.run now sends.plain
  | leave => exact squares.close rfl rfl
  | takeNotices => exact absurd rfl kept
  | vanish network => exact absurd rfl stays

/-- A session that begins has its tasks and its connection, and the user is told. -/
theorem Squares.opens (squares : outline.Squares taken) (ended : outline.contact = none)
    {after : Outline (Booked ν)} (opens : outline.Opens now after) : after.Squares taken := by
  have booked (contact : Contact) := (outline.prepared contact).book_answer contact
  have closed : ∃ past, outline.network.book = settled past := by
    rcases squares.book with ⟨past, book⟩
    rw [client, ended] at book
    exact ⟨past, book.trans (List.append_nil _)⟩
  rcases closed with ⟨past, book⟩
  have told := squares.told
  rw [ended] at told
  cases opens with
  | declined => exact squares
  | @refused contact isNew error network answers =>
      have kept := booked contact
      rw [answers] at kept
      refine ⟨fun _ => rfl, fun some => absurd rfl some, ⟨past, ?_⟩, told⟩
      exact (kept.trans book).trans (List.append_nil _).symm
  | @abandoned contact called isNew network answers present =>
      have opened := booked contact
      rw [answers] at opened
      cases present
      refine ⟨fun _ => rfl, fun some => absurd rfl some,
        ⟨past ++ [(Transport.mintClient (outline.prepared contact).network).1], ?_⟩, told⟩
      rw [settled_concat, ← book]
      refine (book_stop _ _).trans ?_
      refine (congrArg (· ++ _) opened).trans ?_
      exact (List.append_nil _).symm
  | @begun contact isNew network answers clock agenda plans role code =>
      have opened := booked contact
      rw [answers] at opened
      refine ⟨nofun, ?_, ⟨past, ?_⟩, ?_⟩
      · intro _
        refine Agenda.beats_of_periodic ?_ plans
        have only : ((outline.prepared contact).calling contact network now).agenda =
            Agenda.once {} .connectTimeout contact.connection.timeout now :=
          congrArg (Agenda.once · .connectTimeout contact.connection.timeout now)
            (squares.idle ended)
        rw [only]
        simp [Agenda.once, Agenda.put, Agenda.cancel, Task.isPeriodic]
      · rw [← book]
        exact opened
      · have isStart : (Notice.started role code).isStart = true := rfl
        have started := told.start isStart rfl
        rw [List.append_assoc] at started
        exact started

end Outline

/-! ## Runs -/

namespace Desk

variable {ν : Type} [Transport ν] {desk : Desk (Booked ν)} {taken : List Notice} {now : Nat}

/-- The desks that come about, also between the rounds of a poll, with the notices that were taken.
At any time anything may become of the buffer and the transport. -/
inductive Served : List Notice → Desk (Booked ν) → Prop
  | fresh {desk : Desk (Booked ν)} (ended : desk.session = none) (empty : desk.agenda = {})
      (unread : desk.notices = []) (unused : desk.network.book = []) : Served [] desk
  | carries {taken : List Notice} {desk : Desk (Booked ν)} (served : Served taken desk)
      (buffer : Buffer) (transport : ν) :
      Served taken { desk with buffer, network := { desk.network with transport } }
  | calls {taken : List Notice} {desk : Desk (Booked ν)} (served : Served taken desk) (call : Call)
      (kept : call ≠ .takeNotices) (stays : call ≠ .vanish) (now : Nat) :
      Served taken (call.perform desk now)
  | takes {taken : List Notice} {desk : Desk (Booked ν)} (served : Served taken desk) (now : Nat) :
      Served (taken ++ desk.notices) (Call.takeNotices.perform desk now)
  | turns {taken : List Notice} {desk : Desk (Booked ν)} (served : Served taken desk) (now : Nat) :
      Served taken (desk.pollOnce now).2

theorem Served.tended (served : Served taken desk) : desk.Tended := by
  induction served with
  | fresh ended empty => exact tended_of_ended ended empty
  | carries _ buffer transport ih => exact ⟨ih.idle, ih.line, ih.limit⟩
  | calls _ call _ _ now ih => exact ih.perform call now
  | takes _ now ih => exact ih.perform .takeNotices now
  | turns _ now ih => exact ih.pollOnce now

theorem squares_pollOnce (tended : desk.Tended) (squares : desk.outline.Squares taken) (now : Nat) :
    (desk.pollOnce now).2.outline.Squares taken := by
  rcases Option.eq_none_or_eq_some desk.session with ended | ⟨session, present⟩
  · have nothing := takeMatter_of_ended ended (tended.idle ended) now
    rw [pollOnce_of_none (congrArg Prod.fst nothing), nothing]
    exact squares
  · have contact := contact_outline present
    have looked := squares.takes contact (outline_takeMatter present now)
    rcases outline_pollOnce present now with
      ⟨_, polled⟩ | ⟨matter, effects, found, answers, polled⟩
    · rw [polled]
      exact looked
    · rw [polled]
      refine looked.answers (contact_outline (session_takeMatter present now)) ?_ answers now
      rintro rfl
      exact (tended.line session present).planned.1 (has_of_takeMatter found)

theorem squares_poll (tended : desk.Tended) (squares : desk.outline.Squares taken) (now : Nat) :
    (desk.poll now).outline.Squares taken := by
  have kept : (desk.poll now).Tended ∧ (desk.poll now).outline.Squares taken := by
    refine pollUpTo_induction (motive := fun desk => desk.Tended ∧ desk.outline.Squares taken) ?_ _
      ⟨tended, squares⟩
    rintro other ⟨tended, squares⟩
    exact ⟨tended.pollOnce now, squares_pollOnce tended squares now⟩
  exact kept.2

theorem Served.squares (served : Served taken desk) : desk.outline.Squares taken := by
  induction served with
  | @fresh desk ended empty unread unused =>
      refine ⟨fun _ => empty, ?_, ⟨[], ?_⟩, ?_⟩
      · intro active
        exact absurd (congrArg (Option.map _) ended) active
      · rw [show desk.outline.client = none from congrArg (Option.bind · _)
          (congrArg (Option.map Session.contact) ended)]
        exact unused
      · have quiet : desk.outline.notices = [] := unread
        rw [quiet, show desk.outline.contact = none from congrArg (Option.map _) ended]
        rfl
  | carries _ buffer transport ih => exact ⟨ih.idle, ih.beats, ih.book, ih.told⟩
  | @calls taken desk served call kept stays now ih =>
      by_cases polls : call = .poll
      · subst polls
        exact squares_poll served.tended ih now
      · rcases Option.eq_none_or_eq_some desk.session with ended | ⟨session, present⟩
        · cases begins : call.number? with
          | none =>
              rw [perform_eq_of_ended ended (served.tended.idle ended) begins kept]
              exact ih
          | some number =>
              exact ih.opens (congrArg (Option.map _) ended)
                (opens_perform (by simp [begins]) desk now)
        · exact ih.does (does_perform present polls now) kept stays
  | takes _ now ih =>
      refine ⟨ih.idle, ih.beats, ih.book, ?_⟩
      exact (List.append_nil _).symm ▸ ih.told
  | turns served now ih => exact squares_pollOnce served.tended ih now

/-- The books of every run are square: without a session nothing is on the agenda, and with one its
periodic tasks are; the connections that began were each closed, once and before the next one began,
but for that of the present client; and as many sessions have started as the user was told are over,
but for the present one. -/
theorem served_square (served : Served taken desk) :
    (desk.session = none → desk.agenda = {}) ∧
      (∀ session ∈ desk.session,
        desk.agenda.has .flush = true ∧ desk.agenda.has .reconcile = true) ∧
      (∃ past, desk.network.book = settled past ++
        ((desk.session.bind (·.connection.client)).map Entry.opened).toList) ∧
      (taken ++ desk.notices).countP Notice.isStart =
        (taken ++ desk.notices).countP Notice.isEnd + if desk.session.isSome then 1 else 0 := by
  have squares := served.squares
  refine ⟨served.tended.idle, ?_, ?_, ?_⟩
  · intro session present
    have active : desk.outline.contact ≠ none := by
      rw [contact_outline present]
      exact Option.some_ne_none _
    have planned := (squares.beats active).planned
    exact ⟨planned .flush rfl, planned .reconcile rfl⟩
  · rcases squares.book with ⟨past, book⟩
    have same : desk.outline.client = desk.session.bind (·.connection.client) := by
      rw [Outline.client, outline]
      cases desk.session <;> rfl
    rw [← same]
    exact ⟨past, book⟩
  · have told := squares.told
    rw [Balanced, outline, Option.isSome_map] at told
    rw [told]
    cases desk.session <;> rfl

/-- Somebody about to host a session for peers. -/
def newcomer : Desk (Booked Scripted) :=
  { buffer := Buffer.ofText ['a'], network := { transport := { serves := .peerToPeer } } }

def hears (desk : Desk (Booked Scripted)) (event : TransportEvent Update) :
    Desk (Booked Scripted) :=
  { desk with network := { desk.network with
      transport := (desk.network.transport.emit none event).2 } }

theorem Served.hears {desk : Desk (Booked Scripted)} (served : Served taken desk)
    (event : TransportEvent Update) : Served taken (desk.hears event) :=
  served.carries desk.buffer _

/-- A connection is made, lost and made again. -/
def retried : Desk (Booked Scripted) :=
  let hosting := (Call.host .peerToPeer ⟨1, 0, ⟨.replicate 32 0, SessionKey.length_zeros⟩⟩).perform
    newcomer 0
  let lost := (((hosting.hears .connected).poll 10).hears .disconnected).poll 20
  lost.poll 1020

theorem retried_square :
    Served [] retried ∧ Served [] retried.leave.2 ∧
      retried.agenda.has .flush = true ∧ retried.agenda.has .reconcile = true ∧
      retried.network.book = [.opened ⟨"mock-1"⟩, .closed ⟨"mock-1"⟩, .opened ⟨"mock-2"⟩] ∧
      retried.leave.2.agenda = {} ∧
      (∃ past, retried.leave.2.network.book = settled past) ∧
      retried.leave.2.notices.countP Notice.isStart =
        retried.leave.2.notices.countP Notice.isEnd := by
  have fresh : Served [] newcomer := .fresh rfl rfl rfl rfl
  have hosting := fresh.calls (.host .peerToPeer
    ⟨1, 0, ⟨.replicate 32 0, SessionKey.length_zeros⟩⟩) nofun nofun 0
  have linked := (hosting.hears .connected).calls .poll nofun nofun 10
  have lost := (linked.hears .disconnected).calls .poll nofun nofun 20
  have going : Served [] retried := lost.calls .poll nofun nofun 1020
  have left : Served [] retried.leave.2 := going.calls .leave nofun nofun 1020
  have active : retried.session.isSome = true := by decide +kernel
  rcases Option.isSome_iff_exists.1 active with ⟨session, present⟩
  rcases served_square going with ⟨_, planned, _⟩
  rcases served_square left with ⟨idle, _, closed, told⟩
  have ended : retried.leave.2.session = none := by
    rw [leave, if_pos active, tearDown, present]
    rfl
  rw [ended] at closed told
  refine ⟨going, left, (planned session present).1, (planned session present).2,
    by decide +kernel, idle ended, ?_, told⟩
  rcases closed with ⟨past, book⟩
  exact ⟨past, book.trans (List.append_nil _)⟩

end Desk

end Cowrite
