import Cowrite.Proofs.Session.Load

/-!
# Polls leave nothing to do

Over a transport that answers little, every poll deals with all that there is to deal with
(`Desk.Lives.quiesces`). There is an end to it because a session has less and less to deal with
(`Outline.Picks.load_add_weight`, `Outline.load_answers`). No task is run twice because nothing that
still comes once a task was run makes a task due: the only events are the confirmation of a new
attempt to connect and the state after it (`Outline.Calm`), and a session that waits for a state
again does not wait before it shares its own buffer.
-/

namespace Cowrite

/-- The task that a matter is, if it is one. -/
def Matter.task? : Matter → Option Task
  | .event _ => none
  | .task planned => some planned

theorem Contact.Asks.await_not_mem {mode : TransportMode} {isHost : Bool} {effects : List Effect}
    (asks : Asks mode isHost effects) : .await ∉ effects := by
  cases asks <;> simp

namespace Outline

variable {ν : Type} [Transport ν] {outline looked : Outline ν} {contact : Contact} {now : Nat}
  {matter : Matter} {effects : List Effect}

/-- Whether all that waits belongs to making a connection again. -/
inductive Calm (outline : Outline ν) : Prop
  | silent (none : outline.waiting = [])
  | confirmed (waits : outline.waiting = [.connected])
      (again : ∀ contact ∈ outline.contact, contact.connection.state.isReconnecting = true)
  | answered {payload : Update} (waits : outline.waiting = [.syncResponse payload])
      (again : ∀ contact ∈ outline.contact, contact.resync = true)

/-- Without an attempt to connect and a request for the state nothing comes. -/
theorem waiting_run_eq_nil (modest : Transport.Modest ν) (none : outline.waiting = [])
    (undialed : .dial ∉ effects) (unasked : .send .syncRequest ∉ effects) :
    (outline.run now effects).waiting = [] := by
  induction effects generalizing outline with
  | nil => exact none
  | cons effect rest ih =>
      rw [List.mem_cons, not_or] at undialed unasked
      refine ih ?_ undialed.2 unasked.2
      rcases waiting_act modest outline now (Ne.symm undialed.1) with silent | same | ⟨asks, _⟩
      · exact silent
      · rw [same, none]
      · exact absurd asks.symm unasked.1

theorem contact_send (outline : Outline ν) (message : OutboundMessage Update) (now : Nat) :
    (outline.act now (.send message)).contact = outline.contact := by
  cases present : outline.contact with
  | none => rw [act, onLine, present, present]
  | some contact => rw [act_send present, present]

/-- Whether a session waits to hear the state again makes no difference to its connection. -/
theorem resync_reach (again : ∀ contact ∈ outline.contact, contact.resync = true)
    (state : ConnectionState) :
    ∀ contact ∈ (outline.act now (.reach state)).contact, contact.resync = true := by
  rw [act, onLine]
  cases present : outline.contact with
  | none => exact again
  | some contact =>
      rintro _ ⟨⟩
      exact again contact present

/-- A session asks for the state again. -/
theorem calm_of_asks (modest : Transport.Modest ν) (none : outline.waiting = [])
    (again : ∀ contact ∈ outline.contact, contact.resync = true) {mode : TransportMode}
    {isHost : Bool} (asks : Contact.Asks mode isHost effects) :
    (outline.run now effects).Calm := by
  let asked := outline.act now (.send .syncRequest)
  have expects : ∀ contact ∈ asked.contact, contact.resync = true := by
    rw [contact_send]
    exact again
  have brought : asked.waiting = [] ∨ ∃ payload, asked.waiting = [.syncResponse payload] := by
    have other : Effect.send .syncRequest ≠ .dial := nofun
    rcases waiting_act modest outline now other with
      silent | same | ⟨_, payload, answered⟩
    · exact .inl silent
    · exact .inl (same.trans none)
    · rw [none] at answered
      exact .inr ⟨payload, answered⟩
  have calm : asked.Calm := by
    rcases brought with silent | ⟨payload, waits⟩
    · exact .silent silent
    · exact .answered waits expects
  cases asks with
  | asks =>
      rw [run_cons, run_cons, run_nil]
      have other : Effect.reach .syncing ≠ .dial := nofun
      rcases waiting_act modest asked now other with
        silent | same | ⟨sends, _⟩
      · exact .silent silent
      · rcases brought with silent | ⟨payload, waits⟩
        · exact .silent (same.trans silent)
        · exact .answered (same.trans waits) (resync_reach expects _)
      · cases sends
  | fails =>
      rcases asked.waiting_lose now with silent | same
      · exact .silent silent
      · have runs : outline.run now [.send .syncRequest, .lose] = asked.lose now := rfl
        rw [runs, same]
        exact calm
  | waits => exact .silent (waiting_run_eq_nil modest none (by simp) (by simp))
  | serves => exact .silent none

/-- What waits while all is calm. -/
theorem Calm.of_event (calm : outline.Calm) {event : TransportEvent Update}
    (picks : outline.Picks now (some (.event event)) looked) :
    looked.waiting = [] ∧
      (event = .connected ∧
          (∀ contact ∈ outline.contact, contact.connection.state.isReconnecting = true) ∨
        (∃ payload, event = .syncResponse payload) ∧
          ∀ contact ∈ outline.contact, contact.resync = true) := by
  cases picks with
  | event waits contact agenda =>
      cases calm with
      | silent none =>
          rw [none] at waits
          cases waits
      | confirmed only again =>
          rcases List.cons.inj (waits.symm.trans only) with ⟨rfl, rest⟩
          exact ⟨rest, .inl ⟨rfl, again⟩⟩
      | answered only again =>
          rcases List.cons.inj (waits.symm.trans only) with ⟨rfl, rest⟩
          exact ⟨rest, .inr ⟨⟨_, rfl⟩, again⟩⟩

/-- Dealing with an event of a connection that is made again keeps all calm, and no wait before
one's own buffer is shared begins. -/
theorem Calm.event (modest : Transport.Modest ν) (calm : outline.Calm)
    (present : outline.contact = some contact) {event : TransportEvent Update}
    (picks : outline.Picks now (some (.event event)) looked)
    (answers : contact.Answers (.event event) effects) :
    (looked.run now effects).Calm ∧ .await ∉ effects := by
  rcases calm.of_event picks with ⟨silent, ⟨rfl, again⟩ | ⟨⟨payload, rfl⟩, again⟩⟩
  · have reconnecting := again contact present
    cases answers with
    | connected waits asks =>
        let welcome : List Effect :=
          [.confirm, .resync (contact.resync || contact.connection.state.isReconnecting)] ++
            contact.welcomeBack
        have tells : contact.welcomeBack = [.tell .reconnected] := if_pos reconnecting
        have none : (looked.run now welcome).waiting = [] :=
          waiting_run_eq_nil modest silent (by simp [welcome, tells]) (by simp [welcome, tells])
        have resyncs : ∀ contact ∈ (looked.run now welcome).contact, contact.resync = true := by
          have same : looked.contact = some contact := picks.contact_eq.trans present
          simp [welcome, tells, reconnecting, act, onLine, same, withLine, tell]
        refine ⟨?_, ?_⟩
        · rw [run_append]
          exact calm_of_asks modest none resyncs asks
        · simp [tells, asks.await_not_mem]
    | connectedAgain settled => exact ⟨.silent silent, by simp⟩
  · have resyncs := again contact present
    cases answers with
    | syncResponse payload syncs =>
        cases syncs with
        | shown => exact ⟨.silent (waiting_run_eq_nil modest silent (by simp) (by simp)), by simp⟩
        | awaited guest first =>
            rw [resyncs] at first
            cases first

/-- Once a task was run all is calm. -/
theorem calm_of_task (modest : Transport.Modest ν) (present : outline.contact = some contact)
    (tends : outline.agenda.Tends contact.connection) {task : Task}
    (picks : outline.Picks now (some (.task task)) looked)
    (answers : contact.Answers (.task task) effects) :
    (looked.run now effects).Calm ∧ .await ∉ effects := by
  have same : looked.contact = some contact := picks.contact_eq.trans present
  have silent : looked.waiting = [] := by
    cases picks with
    | task none read _ popped => exact read.waiting
  cases answers with
  | reconnect =>
      refine ⟨?_, by simp⟩
      have severed : looked.Severed := by
        refine picks.severed ?_
        intro other there
        cases present.symm.trans there
        exact tends
      rw [run_cons, run_nil, act]
      rcases severed.waiting_dial modest now with none | ⟨waits, called, network, there, calls⟩
      · exact .silent none
      · cases same.symm.trans there
        refine .confirmed waits ?_
        rw [calls]
        rintro _ ⟨⟩
        have alone := (tends.alone (severed.alone contact same)).1
        rw [if_pos alone]
        exact alone
  | flush sends =>
      cases sends with
      | nothing => exact ⟨.silent silent, by simp⟩
      | update payload =>
          exact ⟨.silent (waiting_run_eq_nil modest silent (by simp) (by simp)), by simp⟩
  | _ => exact ⟨.silent (waiting_run_eq_nil modest silent (by simp) (by simp)), by simp⟩

end Outline

namespace Desk

variable {ν : Type} [Transport ν] {desk after : Desk ν} {session : Session} {now : Nat}

/-! ## Rounds -/

/-- What is taken from a modest transport. -/
theorem nextEvent_cases (modest : Transport.Modest ν) (present : desk.session = some session) :
    (desk.nextEvent.1 = none ∧ desk.outline.waiting = [] ∧ desk.nextEvent.2.outline.Read) ∨
      ∃ event, desk.nextEvent.1 = some event ∧
        desk.outline.waiting = event :: desk.nextEvent.2.outline.waiting := by
  have contact := contact_outline present
  rcases (desk.line session).exists_nextEvent with
    ⟨stale, rest, count, inbox, foreign, own, taken, left⟩
  have looked : desk.nextEvent = (rest.head?.map (·.event),
      desk.withLine session { desk.line session with
        network := Transport.discard desk.network session.connection.mailbox count }) := by
    rw [nextEvent, present]
    simp only [taken]
    rfl
  have next : (desk.nextEvent.2).outline.contact = some session.contact := by
    rw [looked]
    rfl
  have inboxAfter : Transport.inbox desk.nextEvent.2.outline.network session.connection.mailbox =
      rest.tail := by
    rw [← left, ← inbox, looked]
    exact modest.inbox_discard _ _ _
  cases rest with
  | nil =>
      refine .inl ⟨congrArg Prod.fst looked, ?_, ?_⟩
      · cases client : session.connection.client with
        | none => exact Outline.waiting_of_alone contact client
        | some own =>
            refine (Outline.waiting_of_client contact client).trans ?_
            refine (congrArg (eventsOf own) (inbox.trans stale.append_nil)).trans ?_
            apply eventsOf_eq_nil
            rintro envelope passed rfl
            exact foreign envelope passed client
      · intro other there
        cases next.symm.trans there
        exact inboxAfter
  | cons envelope rest =>
      have client := own envelope rfl
      refine .inr ⟨envelope.event, congrArg Prod.fst looked, ?_⟩
      have skipped : eventsOf envelope.client stale = [] := by
        apply eventsOf_eq_nil
        intro other passed same
        exact foreign other passed (same ▸ client)
      rw [Outline.waiting_of_client next client]
      refine (Outline.waiting_of_client contact client).trans ?_
      refine (congrArg (eventsOf envelope.client) inbox).trans ?_
      rw [eventsOf_append, skipped]
      refine Eq.trans ?_ (congrArg (envelope.event :: eventsOf envelope.client ·) inboxAfter.symm)
      simp [eventsOf]

theorem picks_takeMatter (modest : Transport.Modest ν) (present : desk.session = some session)
    (now : Nat) :
    desk.outline.Picks now (desk.takeMatter now).1 (desk.takeMatter now).2.outline := by
  rcases outline_nextEvent present with ⟨count, looked⟩
  have contact : desk.nextEvent.2.outline.contact = desk.outline.contact := by rw [looked]
  have agenda : desk.nextEvent.2.agenda = desk.agenda := congrArg Outline.agenda looked
  rw [takeMatter]
  rcases nextEvent_cases modest present with ⟨none, silent, read⟩ | ⟨event, first, waits⟩
  · generalize desk.nextEvent = next at none read contact agenda
    rcases next with ⟨event, after⟩
    cases none
    simp only
    cases popped : after.agenda.pop now with
    | none =>
        rw [agenda] at popped
        exact .nothing silent read contact agenda popped
    | some due =>
        rw [agenda] at popped
        exact .task silent read contact popped
  · generalize desk.nextEvent = next at first waits contact agenda
    rcases next with ⟨event, after⟩
    cases first
    exact .event waits contact agenda

theorem Lives.paced (lives : desk.Lives) : desk.outline.Paced := by
  have rounds (desk : Desk ν) (paced : desk.outline.Paced) (tended : desk.Tended) (now : Nat) :
      (desk.pollOnce now).2.outline.Paced := by
    rcases Option.eq_none_or_eq_some desk.session with ended | ⟨session, present⟩
    · have taken := takeMatter_of_ended ended (tended.idle ended) now
      rw [pollOnce_of_none (congrArg Prod.fst taken), taken]
      exact paced
    · have looked := paced.takes (outline_takeMatter present now)
      rcases outline_pollOnce present now with ⟨_, polled⟩ | ⟨matter, effects, _, _, polled⟩
      · rw [polled]
        exact looked
      · rw [polled]
        exact looked.run now effects
  induction lives with
  | fresh ended empty =>
      exact Outline.paced_of_ended (congrArg (Option.map _) ended) empty
  | carries _ buffer network ih => exact ih.of_network network
  | @calls desk lives call now ih =>
      by_cases polls : call = .poll
      · subst polls
        have kept : (desk.poll now).outline.Paced ∧ (desk.poll now).Tended := by
          refine pollUpTo_induction (motive := fun desk => desk.outline.Paced ∧ desk.Tended) ?_ _
            ⟨ih, lives.tended⟩
          rintro other ⟨paced, tended⟩
          exact ⟨rounds other paced tended now, tended.pollOnce now⟩
        exact kept.1
      · rcases Option.eq_none_or_eq_some desk.session with ended | ⟨session, present⟩
        · cases begins : call.number? with
          | none =>
              rcases perform_of_ended ended (lives.tended.idle ended) begins now with
                ⟨still, empty, _⟩
              exact Outline.paced_of_ended (congrArg (Option.map _) still) empty
          | some number =>
              exact ih.opens (opens_perform (by simp [begins]) desk now)
        · exact ih.does (does_perform present polls now)
  | @turns desk lives now ih => exact rounds desk ih lives.tended now

/-! ## Polls -/

/-- Polling until there is nothing to do, and what is dealt with, one matter after the other. -/
inductive Polls (now : Nat) : Desk ν → List Matter → Desk ν → Prop
  | rests {desk : Desk ν} (nothing : (desk.takeMatter now).1 = none) :
      Polls now desk [] (desk.takeMatter now).2
  | deals {desk after : Desk ν} {matter : Matter} {matters : List Matter}
      (found : (desk.takeMatter now).1 = some matter)
      (further : Polls now ((desk.takeMatter now).2.deal matter now) matters after) :
      Polls now desk (matter :: matters) after

/-- A desk in the middle of a poll in which some tasks were run. -/
structure Midway (desk : Desk ν) (ran : List Task) (now : Nat) : Prop where
  tended : desk.Tended
  paced : desk.outline.Paced
  fresh : ∀ appointment ∈ desk.agenda.due now, appointment.task ∉ ran
  calm : ran ≠ [] → desk.outline.Calm

/-- A matter is taken, and the session answers it. -/
structure Answered (desk : Desk ν) (now : Nat) (matter : Matter) (session : Session)
    (effects : List Effect) : Prop where
  present : desk.session = some session
  picks : desk.outline.Picks now (some matter) (desk.takeMatter now).2.outline
  answers : session.contact.Answers matter effects
  dealt : ((desk.takeMatter now).2.deal matter now).outline =
    (desk.takeMatter now).2.outline.run now effects

variable {ran : List Task} {matter : Matter} {effects : List Effect}

theorem Tended.exists_answered (modest : Transport.Modest ν) (tended : desk.Tended)
    (found : (desk.takeMatter now).1 = some matter) :
    ∃ session effects, desk.Answered now matter session effects := by
  rcases Option.eq_none_or_eq_some desk.session with ended | ⟨session, present⟩
  · rw [takeMatter_of_ended ended (tended.idle ended)] at found
    cases found
  · have picks := picks_takeMatter modest present now
    rw [found] at picks
    rcases outline_deal (session_takeMatter present now) matter now with ⟨effects, answers, dealt⟩
    exact ⟨session, effects, present, picks, answers, dealt⟩

theorem Answered.looked (answered : desk.Answered now matter session effects)
    (paced : desk.outline.Paced) : (desk.takeMatter now).2.outline.Paced :=
  paced.takes (outline_takeMatter answered.present now)

/-- What was due after a round was due before it, if no new wait begins. -/
theorem Answered.due_subset (answered : desk.Answered now matter session effects)
    (paced : desk.outline.Paced) (undelayed : .await ∉ effects) :
    ((desk.takeMatter now).2.deal matter now).agenda.due now ⊆
      (desk.takeMatter now).2.agenda.due now := by
  have fewer := (answered.looked paced).due_run now undelayed
  rw [← answered.dealt] at fewer
  exact fewer.subset

/-- A round brings less than it deals with. -/
theorem Midway.load_lt (modest : Transport.Modest ν) (midway : desk.Midway ran now)
    (answered : desk.Answered now matter session effects) :
    ((desk.takeMatter now).2.deal matter now).outline.load now < desk.outline.load now := by
  have taken := answered.picks.load_add_weight midway.paced
  have severed : matter = .task .reconnect → (desk.takeMatter now).2.outline.Severed := by
    rintro rfl
    refine answered.picks.severed ?_
    intro other there
    cases (contact_outline answered.present).symm.trans there
    exact midway.tended.line session answered.present
  have brought := Outline.load_answers modest (answered.looked midway.paced) severed
    answered.answers now
  rw [answered.dealt]
  omega

/-- A task that is run was not run before, and is not due again. -/
theorem Midway.fresh_of_task (midway : desk.Midway ran now) {task : Task}
    (answered : desk.Answered now (.task task) session effects) :
    task ∉ ran ∧ ∀ appointment ∈ (desk.takeMatter now).2.agenda.due now,
      appointment.task ∉ task :: ran := by
  have picks := answered.picks
  generalize (desk.takeMatter now).2 = looked at picks
  cases picks with
  | task none read _ popped =>
      rcases Agenda.due_pop midway.paced.agenda popped with ⟨rest, appointment, isDue, rfl⟩
      refine ⟨midway.fresh appointment isDue, ?_⟩
      intro other still
      rw [show looked.agenda.due now = _ from rest, List.mem_filter, bne_iff_ne] at still
      rw [List.mem_cons, not_or]
      exact ⟨still.2, midway.fresh other still.1⟩

theorem Midway.task (modest : Transport.Modest ν) (midway : desk.Midway ran now) {task : Task}
    (answered : desk.Answered now (.task task) session effects)
    (tended : ((desk.takeMatter now).2.deal (.task task) now).Tended)
    (paced : ((desk.takeMatter now).2.deal (.task task) now).outline.Paced) :
    ((desk.takeMatter now).2.deal (.task task) now).Midway (task :: ran) now := by
  rcases Outline.calm_of_task modest (contact_outline answered.present)
    (midway.tended.line session answered.present) answered.picks answered.answers with
    ⟨calm, undelayed⟩
  rw [← answered.dealt] at calm
  refine ⟨tended, paced, ?_, fun _ => calm⟩
  intro appointment isDue
  exact (midway.fresh_of_task answered).2 appointment
    (answered.due_subset midway.paced undelayed isDue)

theorem Midway.event (modest : Transport.Modest ν) (midway : desk.Midway ran now)
    {event : TransportEvent Update} (answered : desk.Answered now (.event event) session effects)
    (tended : ((desk.takeMatter now).2.deal (.event event) now).Tended)
    (paced : ((desk.takeMatter now).2.deal (.event event) now).outline.Paced) :
    ((desk.takeMatter now).2.deal (.event event) now).Midway ran now := by
  by_cases first : ran = []
  · subst first
    exact ⟨tended, paced, by simp, fun some => absurd rfl some⟩
  · rcases (midway.calm first).event modest (contact_outline answered.present) answered.picks
      answered.answers with ⟨calm, undelayed⟩
    rw [← answered.dealt] at calm
    refine ⟨tended, paced, ?_, fun _ => calm⟩
    intro appointment isDue
    have still := answered.due_subset midway.paced undelayed isDue
    have picks := answered.picks
    generalize (desk.takeMatter now).2 = looked at picks still
    cases picks with
    | event waits _ agenda =>
        rw [show looked.agenda = _ from agenda] at still
        exact midway.fresh appointment still

/-- What a round of a poll keeps up. -/
theorem Midway.round (modest : Transport.Modest ν) (midway : desk.Midway ran now)
    (found : (desk.takeMatter now).1 = some matter) :
    ((desk.takeMatter now).2.deal matter now).outline.load now < desk.outline.load now ∧
      (∀ task ∈ matter.task?, task ∉ ran) ∧
      ((desk.takeMatter now).2.deal matter now).Midway (matter.task?.toList ++ ran) now := by
  rcases midway.tended.exists_answered modest found with ⟨session, effects, answered⟩
  have tended := midway.tended.pollOnce now
  rw [pollOnce_of_matter found] at tended
  have paced := (answered.looked midway.paced).run now effects
  rw [← answered.dealt] at paced
  refine ⟨midway.load_lt modest answered, ?_⟩
  cases matter with
  | event event => exact ⟨by simp [Matter.task?], midway.event modest answered tended paced⟩
  | task task =>
      refine ⟨?_, midway.task modest answered tended paced⟩
      rintro _ ⟨⟩
      exact (midway.fresh_of_task answered).1

/-- Whether there is nothing to do. -/
structure Rested (desk : Desk ν) (now : Nat) : Prop where
  read : ∀ session ∈ desk.session,
    Transport.inbox desk.network session.connection.mailbox = []
  done : ∀ appointment ∈ desk.agenda.appointments, now < appointment.due

theorem rested_of_nothing (modest : Transport.Modest ν) (tended : desk.Tended)
    (nothing : (desk.takeMatter now).1 = none) : (desk.takeMatter now).2.Rested now := by
  rcases Option.eq_none_or_eq_some desk.session with ended | ⟨session, present⟩
  · have empty := tended.idle ended
    rw [takeMatter_of_ended ended empty]
    exact ⟨by simp [ended], by simp [empty]⟩
  · have picks := picks_takeMatter modest present now
    rw [nothing] at picks
    generalize (desk.takeMatter now).2 = looked at picks
    cases picks with
    | nothing none read contact agenda idle =>
        refine ⟨?_, ?_⟩
        · intro other there
          exact read other.contact (contact_outline there)
        · intro appointment there
          rw [show looked.agenda = _ from agenda] at there
          have due := Agenda.pop_eq_none_iff.1 idle
          by_contra early
          have isDue : appointment ∈ desk.agenda.due now :=
            List.mem_filter.2 ⟨there, by simpa using early⟩
          rw [show desk.agenda.due now = [] from due] at isDue
          cases isDue

/-- Nothing is taken where there is nothing to do. -/
theorem Rested.takeMatter (modest : Transport.Modest ν) (rested : desk.Rested now) :
    desk.takeMatter now = (none, desk) := by
  have looked : desk.nextEvent = (none, desk) := by
    cases present : desk.session with
    | none => rw [nextEvent, present]
    | some session =>
        have read := rested.read session present
        rw [nextEvent, present]
        simp only [Line.nextEvent, line, read, List.takeWhile_nil, List.length_nil,
          List.getElem?_nil, Option.isSome_none, Bool.false_eq_true, if_false, Nat.add_zero,
          modest.discard_zero, Option.map_none, withLine, ← present]
  have idle : desk.agenda.pop now = none := by
    rw [Agenda.pop_eq_none_iff, Agenda.due, List.filter_eq_nil_iff]
    intro appointment present
    simpa using rested.done appointment present
  rw [Desk.takeMatter, looked]
  simp only [idle]

theorem Rested.poll (modest : Transport.Modest ν) (rested : desk.Rested now) :
    desk.poll now = desk := by
  have taken := rested.takeMatter modest
  have once : desk.pollOnce now = (false, desk) := by
    rw [pollOnce_of_none (congrArg Prod.fst taken), taken]
  rw [Desk.poll, pollBound, pollUpTo, once]

/-- There is an end to a poll. -/
theorem Midway.polls (modest : Transport.Modest ν) (midway : desk.Midway ran now) {rounds : Nat}
    (light : desk.outline.load now < rounds) :
    ∃ matters, Polls now desk matters (pollUpTo rounds desk now) ∧
      (matters.filterMap Matter.task?).Nodup ∧
        (∀ task ∈ matters.filterMap Matter.task?, task ∉ ran) ∧
          (pollUpTo rounds desk now).Rested now := by
  induction rounds generalizing desk ran with
  | zero => omega
  | succ rounds ih =>
      rw [pollUpTo]
      cases found : (desk.takeMatter now).1 with
      | none =>
          rw [pollOnce_of_none found]
          exact ⟨[], .rests found, by simp, by simp, rested_of_nothing modest midway.tended found⟩
      | some matter =>
          rw [pollOnce_of_matter found]
          rcases midway.round modest found with ⟨lighter, fresh, later⟩
          rcases ih later (by omega) with ⟨matters, polls, once, unrun, rested⟩
          refine ⟨matter :: matters, .deals found polls, ?_, ?_, rested⟩
          · cases matter with
            | event event => exact once
            | task task =>
                simp only [Matter.task?, Option.toList_some, List.singleton_append, List.mem_cons,
                  not_or] at unrun
                refine List.nodup_cons.2 ⟨?_, once⟩
                intro twice
                exact (unrun task twice).1 rfl
          · cases matter with
            | event event => exact unrun
            | task task =>
                simp only [Matter.task?, Option.toList_some, List.singleton_append, List.mem_cons,
                  not_or] at unrun fresh
                intro other present
                rcases List.mem_cons.1 present with rfl | present
                · exact fresh _ rfl
                · exact (unrun other present).2

/-- Whether a poll comes to an end, runs no task twice and leaves nothing to do. -/
structure Quiesces (desk : Desk ν) (now : Nat) : Prop where
  ends : ∃ matters, Polls now desk matters (desk.poll now) ∧
    (matters.filterMap Matter.task?).Nodup
  rested : (desk.poll now).Rested now
  still : (desk.poll now).takeMatter now = (none, desk.poll now)
  again : (desk.poll now).poll now = desk.poll now

theorem load_lt_pollBound (desk : Desk ν) (now : Nat) :
    desk.outline.load now < desk.pollBound := by
  have few := desk.outline.load_le now
  have same : desk.outline.agenda = desk.agenda := rfl
  rw [same] at few
  rw [pollBound]
  cases present : desk.session with
  | none =>
      rw [Outline.waiting_of_ended (congrArg (Option.map _) present), List.length_nil] at few
      simp only
      omega
  | some session =>
      have fewer : desk.outline.waiting.length ≤
          (Transport.inbox desk.network session.connection.mailbox).length :=
        Outline.length_waiting_le (contact_outline present)
      simp only
      omega

theorem Lives.quiesces (modest : Transport.Modest ν) (lives : desk.Lives) (now : Nat) :
    desk.Quiesces now := by
  have midway : desk.Midway [] now :=
    ⟨lives.tended, lives.paced, by simp, fun some => absurd rfl some⟩
  rcases midway.polls modest (desk.load_lt_pollBound now) with
    ⟨matters, polls, once, _, rested⟩
  have rested : (desk.poll now).Rested now := rested
  exact ⟨⟨matters, polls, once⟩, rested, rested.takeMatter modest, rested.poll modest⟩

/-- At the relay within the process, and over any transport from which nothing comes while it is
called, every poll of a session comes to an end and leaves nothing to do. -/
theorem poll_quiesces :
    (∀ desk : Desk Relay, desk.Lives → ∀ now, desk.Quiesces now) ∧
      ∀ (μ : Type) [Transport μ], Transport.Silent μ →
        ∀ desk : Desk μ, desk.Lives → ∀ now, desk.Quiesces now :=
  ⟨fun _ lives now => lives.quiesces Relay.modest now,
    fun _ _ silent _ lives now => lives.quiesces silent.modest now⟩

/-- Somebody at the relay who is about to be connected, and has a letter to share. -/
def sharing : Desk Relay :=
  (Call.host (.relay (some "wss://relay"))
    ⟨1, 0, ⟨.replicate 32 0, SessionKey.length_zeros⟩⟩).perform
    { buffer := Buffer.ofText ['a'], network := {} } 0

/-- One poll brings the session into sync and sends the letter, another one makes the attempt to
reconnect of a session that nobody answered. -/
theorem sharing_poll_quiesces :
    sharing.Lives ∧ unanswered.Lives ∧ Transport.Silent Scripted ∧
      sharing.Quiesces 50 ∧ unanswered.Quiesces 11000 ∧
      (sharing.poll 50).session.any (fun session =>
        session.connection.state.isSynced && !session.outbox.pending) = true ∧
      (unanswered.poll 11000).agenda.has .connectTimeout = true := by
  have shares : sharing.Lives := (Lives.fresh rfl rfl).calls _ 0
  have waits : unanswered.Lives := ((Lives.fresh rfl rfl).calls _ 0).calls .poll 10000
  exact ⟨shares, waits, Scripted.silent, poll_quiesces.1 sharing shares 50,
    poll_quiesces.2 Scripted Scripted.silent unanswered waits 11000, by decide +kernel,
    by decide +kernel⟩

end Desk

end Cowrite
