import Cowrite.Proofs.Session.Course
import Cowrite.Proofs.Session.Effects
import Cowrite.Transport.Scripted

/-!
# When an attempt to connect expires

An attempt to connect may only take so long. Its timeout is meant for connections that were never
made: once the transport has confirmed one, nothing is left to expire (`Timely.Spares`).

The timeout is cancelled when the transport confirms the attempt and the session waits for it. But a
state of the document, or a peer, also brings a session into sync, and cancels nothing. A
confirmation that follows finds a session that does not wait any more, and is passed over. So no
established connection is killed in a run exactly if nothing brings the session into sync before the
attempt is confirmed (`Timely.spares_iff`).
-/

namespace Cowrite

/-- Whether a connection counts as made. -/
def ConnectionState.isEstablished : ConnectionState → Bool
  | .connected => true
  | .syncing => true
  | .synced => true
  | _ => false

/-! ## Effects -/

namespace Outline

variable {ν : Type} {outline : Outline ν} {contact : Contact} {isConfirmed : Bool} {now : Nat}

/-- The timeout runs exactly until the attempt is confirmed, and a connection is not made before. -/
structure Timed (outline : Outline ν) (isConfirmed : Bool) : Prop where
  runs : ∀ contact, outline.contact = some contact → contact.connection.client ≠ none →
    outline.agenda.has .connectTimeout = !isConfirmed
  waits : ∀ contact, outline.contact = some contact →
    contact.connection.state.isEstablished = true → isConfirmed = true

theorem timed_of_ended (ended : outline.contact = none) : outline.Timed isConfirmed := by
  constructor
  · simp [ended]
  · simp [ended]

theorem timed_of_present (present : outline.contact = some contact)
    (runs : contact.connection.client ≠ none → outline.agenda.has .connectTimeout = !isConfirmed)
    (waits : contact.connection.state.isEstablished = true → isConfirmed = true) :
    outline.Timed isConfirmed := by
  constructor
  · simpa [present] using runs
  · simpa [present] using waits

theorem timed_of_alone (present : outline.contact = some contact)
    (alone : contact.connection.client = none)
    (down : contact.connection.state.isEstablished = false) : outline.Timed isConfirmed := by
  apply timed_of_present present
  · simp [alone]
  · simp [down]

/-- What leaves the connection and its timeout alone. -/
theorem Timed.of_same (timed : outline.Timed isConfirmed) {after : Outline ν}
    (connection : after.contact.map (·.connection) = outline.contact.map (·.connection))
    (agenda : after.agenda.has .connectTimeout = outline.agenda.has .connectTimeout) :
    after.Timed isConfirmed := by
  have known (contact : Contact) (present : after.contact = some contact) :
      ∃ before, outline.contact = some before ∧ before.connection = contact.connection := by
    rw [present] at connection
    exact Option.map_eq_some_iff.1 connection.symm
  constructor
  · intro contact present client
    rcases known contact present with ⟨before, held, same⟩
    rw [agenda]
    exact timed.runs before held (same ▸ client)
  · intro contact present established
    rcases known contact present with ⟨before, held, same⟩
    exact timed.waits before held (same ▸ established)

theorem Timed.tell (timed : outline.Timed isConfirmed) (notice : Notice) :
    (outline.tell notice).Timed isConfirmed :=
  timed.of_same rfl rfl

variable [Transport ν]

theorem Timed.resync (timed : outline.Timed isConfirmed) (isDue : Bool) (now : Nat) :
    (outline.act now (.resync isDue)).Timed isConfirmed := by
  apply timed.of_same
  · simp [act, Function.comp_def]
  · rfl

theorem Timed.await (timed : outline.Timed isConfirmed) (now : Nat) :
    (outline.act now .await).Timed isConfirmed := by
  apply timed.of_same
  · rfl
  · simp [act, Agenda.once, Agenda.has_put]

theorem Timed.send (timed : outline.Timed isConfirmed) (message : OutboundMessage Update)
    (now : Nat) :
    (outline.act now (.send message)).Timed isConfirmed := by
  cases present : outline.contact with
  | none =>
      rw [act, onLine, present]
      exact timed
  | some contact =>
      rw [act_send present]
      exact timed.of_same rfl rfl

theorem Timed.reach (timed : outline.Timed isConfirmed) {state : ConnectionState}
    (inTime : state.isEstablished = true → isConfirmed = true) (now : Nat) :
    (outline.act now (.reach state)).Timed isConfirmed := by
  cases present : outline.contact with
  | none =>
      rw [act, onLine, present]
      exact timed
  | some contact =>
      rw [act, onLine, present]
      exact timed_of_present rfl (timed.runs contact present) inTime

theorem timed_confirm (outline : Outline ν) (now : Nat) :
    (outline.act now .confirm).Timed true := by
  rw [act, onLine]
  cases ended : outline.contact with
  | none => exact timed_of_ended ended
  | some _ =>
      apply timed_of_present rfl
      · simp [withLine, Line.confirm, Agenda.has_cancel]
      · simp

theorem timed_close (outline : Outline ν) (notice : Notice) :
    (outline.close notice).Timed isConfirmed := by
  apply timed_of_ended
  rw [close]
  split
  · assumption
  · rfl

theorem timed_lose_of_counts (present : outline.contact = some contact)
    (counts : outline.ignores contact = false) (now : Nat) :
    (outline.lose now).Timed isConfirmed := by
  rw [lose_of_counts present counts]
  split
  · exact timed_of_alone rfl rfl rfl
  · exact timed_close _ _

theorem Timed.lose (timed : outline.Timed isConfirmed) (now : Nat) :
    (outline.lose now).Timed isConfirmed := by
  cases present : outline.contact with
  | none =>
      rw [Outline.lose, present]
      exact timed
  | some contact =>
      cases ignored : outline.ignores contact with
      | true =>
          rw [lose_of_ignores present ignored]
          exact timed
      | false => exact timed_lose_of_counts present ignored now

/-- The next attempt is not confirmed yet. -/
theorem timed_dial (present : outline.contact = some contact)
    (staying : contact.connection.leaving = false) (alone : contact.connection.client = none)
    (retries : contact.connection.state.isReconnecting = true) (now : Nat) :
    (outline.dial now).Timed false := by
  have before : outline.Timed false := by
    apply timed_of_alone present alone
    cases state : contact.connection.state <;> simp_all [ConnectionState.isReconnecting,
      ConnectionState.isEstablished]
  rw [dial_of_staying present staying]
  rcases outline.answer contact with ⟨result, network⟩
  cases result with
  | error error =>
      have still : ({ outline with network } : Outline ν).Timed false := before.of_same rfl rfl
      exact still.lose now
  | ok done =>
      apply timed_of_present rfl
      · simp [calling, Agenda.once, Agenda.has_put]
      · simpa [retries] using before.waits contact present

theorem timed_of_opens (ended : outline.contact = none) {after : Outline ν}
    (opens : outline.Opens now after) : after.Timed false := by
  cases opens with
  | declined => exact timed_of_ended ended
  | refused => exact timed_of_ended rfl
  | abandoned => exact timed_of_ended rfl
  | begun isNew answers plans role code =>
      refine Timed.tell (timed_of_present rfl ?_ ?_) _
      · rcases Desk.exists_of_periodic plans with ⟨interval, _, rfl⟩
        simp [calling, Agenda.once, Agenda.every, Agenda.has_put]
      · simp [isNew.state, ConnectionState.isReconnecting, ConnectionState.isEstablished]

theorem Timed.sends (timed : outline.Timed isConfirmed) {effects : List Effect}
    (sends : Contact.Sends effects) (now : Nat) : (outline.run now effects).Timed isConfirmed := by
  cases sends with
  | nothing => exact timed
  | update payload => exact timed.send _ now

theorem Timed.welcomeBack (timed : outline.Timed isConfirmed) (contact : Contact) (now : Nat) :
    (outline.run now contact.welcomeBack).Timed isConfirmed := by
  rw [Contact.welcomeBack]
  split
  · exact timed.tell _
  · exact timed

theorem Timed.asks (timed : outline.Timed true) {mode : TransportMode} {isHost : Bool}
    {effects : List Effect} (asks : Contact.Asks mode isHost effects) (now : Nat) :
    (outline.run now effects).Timed true := by
  cases asks with
  | asks => exact (timed.send _ now).reach (fun _ => rfl) now
  | fails => exact (timed.send _ now).lose now
  | waits => exact timed.reach (fun _ => rfl) now
  | serves => exact timed

theorem Timed.syncs (timed : outline.Timed true) {effects : List Effect}
    (syncs : contact.Syncs effects) (now : Nat) : (outline.run now effects).Timed true := by
  have synced : ((outline.act now (.resync false)).act now (.reach .synced)).Timed true :=
    (timed.resync false now).reach (fun _ => rfl) now
  cases syncs with
  | shown => exact synced.tell _
  | awaited => exact (synced.await now).tell _

end Outline

/-! ## Matters -/

namespace Contact

/-- Whether a matter is the word of the transport that the connection is made, and the session waits
for it. -/
def hears (contact : Contact) : Matter → Bool
  | .event .connected => contact.connection.state.isUnconfirmed
  | .event (.ready _ _) => contact.isHost && contact.connection.state.isUnconfirmed
  | _ => false

/-- Whether a matter brings a session into sync. -/
def isBrought (contact : Contact) : Matter → Bool
  | .event (.syncResponse _) => true
  | .event (.fullState _) => !contact.isHost
  | .event (.peerConnected _) => contact.isHost && contact.mode = .peerToPeer
  | _ => false

end Contact

namespace Outline

variable {ν : Type} [Transport ν] {outline : Outline ν} {contact : Contact} {isConfirmed : Bool}
  {event : TransportEvent Update} {effects : List Effect} {now : Nat}

/-- An event leaves the timeout running until the attempt is confirmed, unless it brings the session
into sync before. -/
theorem Timed.answers (timed : outline.Timed isConfirmed)
    (answers : contact.Answers (.event event) effects)
    (inTime : contact.isBrought (.event event) = true → isConfirmed = true) (now : Nat) :
    (outline.run now effects).Timed (isConfirmed || contact.hears (.event event)) := by
  cases answers with
  | connected waits asks =>
      have confirmed := ((timed_confirm outline now).resync
        (contact.resync || contact.connection.state.isReconnecting) now).welcomeBack contact now
      rw [Contact.hears, waits, Bool.or_true, run_append, run_append]
      exact confirmed.asks asks now
  | connectedAgain settled =>
      rw [Contact.hears, settled, Bool.or_false]
      exact timed
  | ready host waits endpointId relayUrl =>
      have confirmed := (timed_confirm outline now).welcomeBack contact now
      rw [Contact.hears, host, waits, Bool.and_self, Bool.or_true, run_append, run_append]
      exact confirmed.tell _
  | readyAgain settled endpointId relayUrl =>
      rw [Contact.hears, settled, Bool.or_false]
      exact timed.tell _
  | syncResponse payload syncs =>
      cases inTime rfl
      exact timed.syncs syncs now
  | fullState guest payload syncs =>
      cases inTime (by simp [Contact.isBrought, guest])
      exact timed.syncs syncs now
  | fullStateToHost host payload sends =>
      simp only [Contact.hears, Bool.or_false]
      exact timed.sends sends now
  | update payload sends =>
      simp only [Contact.hears, Bool.or_false]
      exact timed.sends sends now
  | newcomer host direct peer payload =>
      cases inTime (by simp [Contact.isBrought, host, direct])
      have welcomed : (outline.run now [.tell (.peerJoined peer),
          .send (.fullState payload)]).Timed true := (timed.tell _).send _ now
      rw [run_append]
      split
      · exact welcomed
      · exact (welcomed.reach (fun _ => rfl) now).tell _
  | peerConnected other peer =>
      simp only [Contact.hears, Bool.or_false]
      exact timed.tell _
  | peerDisconnected peer =>
      simp only [Contact.hears, Bool.or_false]
      exact timed.tell _
  | hostDisconnected peer =>
      simp only [Contact.hears, Bool.or_false]
      have down : ConnectionState.disconnected.isEstablished = true → isConfirmed = true := nofun
      exact (timed.reach down now).tell _
  | disconnected =>
      simp only [Contact.hears, Bool.or_false]
      exact timed.lose now
  | error message =>
      simp only [Contact.hears, Bool.or_false]
      exact timed.lose now

/-- A task that is taken leaves the timeout running, unless it is the next attempt. -/
theorem Timed.answers_task (timed : outline.Timed isConfirmed)
    (present : outline.contact = some contact) (tends : outline.agenda.Tends contact.connection)
    {task : Task} {agenda : Agenda} (popped : outline.agenda.pop now = some (task, agenda))
    (answers : contact.Answers (.task task) effects) :
    (({ outline with agenda } : Outline ν).run now effects).Timed
      (task ≠ .reconnect && isConfirmed) := by
  rcases Agenda.has_of_pop popped with ⟨planned, others⟩
  have steadies := tends.toSteadies.pop popped
  have there : ({ outline with agenda } : Outline ν).contact = some contact := present
  have kept : task ≠ .connectTimeout → ({ outline with agenda } : Outline ν).Timed isConfirmed :=
    fun differ => timed.of_same rfl (others _ differ.symm)
  cases answers with
  | flush sends => exact (kept nofun).sends sends now
  | bufferClosed => exact timed_close _ _
  | reconcile => exact kept nofun
  | connectTimeout =>
      have unplanned := tends.unplanned_of_pop popped (.inr rfl)
      refine timed_lose_of_counts there ?_ now
      simp [ignores, steadies.staying, unplanned, steadies.standing]
  | reconnect =>
      have alone := tends.planned.1 planned
      exact timed_dial there steadies.staying alone (tends.alone alone).1 now
  | nothingToShare => exact kept nofun
  | seeded => exact (kept nofun).tell _

theorem Timed.round (timed : outline.Timed isConfirmed) (present : outline.contact = some contact)
    (tends : outline.agenda.Tends contact.connection) {matter : Matter} {looked : Outline ν}
    (takes : outline.Takes contact now (some matter) looked)
    (answers : contact.Answers matter effects)
    (inTime : contact.isBrought matter = true → isConfirmed = true) :
    (looked.run now effects).Timed
      (matter ≠ .task .reconnect && (isConfirmed || contact.hears matter)) := by
  have kept (network : ν) : ({ outline with network } : Outline ν).Timed isConfirmed :=
    timed.of_same rfl rfl
  cases takes with
  | event event client count => exact (kept _).answers answers inTime now
  | task task agenda popped count =>
      have dealt := (kept (Transport.discard outline.network contact.connection.mailbox count)
        ).answers_task present tends popped answers
      simpa [Contact.hears] using dealt

theorem Timed.rest (timed : outline.Timed isConfirmed) {looked : Outline ν}
    (takes : outline.Takes contact now none looked) : looked.Timed isConfirmed := by
  cases takes with
  | nothing count => exact timed.of_same rfl rfl

/-- What brings a session into sync leaves the timeout as it is. -/
theorem exists_of_syncs (present : outline.contact = some contact)
    (syncs : contact.Syncs effects) (now : Nat) :
    ∃ later, (outline.run now effects).contact = some later ∧
      later.connection.state = .synced ∧
      (outline.run now effects).agenda.has .connectTimeout =
        outline.agenda.has .connectTimeout := by
  cases syncs with
  | shown =>
      simp only [run_cons, act, onLine, present, Option.map_some]
      exact ⟨_, rfl, rfl, rfl⟩
  | awaited =>
      simp only [run_cons, act, onLine, present, Option.map_some]
      refine ⟨_, rfl, rfl, ?_⟩
      simp [tell, withLine, line, Line.withState, Agenda.once, Agenda.has_put]

theorem exists_of_isBrought (present : outline.contact = some contact)
    (down : contact.connection.state.isEstablished = false)
    (answers : contact.Answers (.event event) effects)
    (brought : contact.isBrought (.event event) = true) (now : Nat) :
    ∃ later, (outline.run now effects).contact = some later ∧
      later.connection.state = .synced ∧
      (outline.run now effects).agenda.has .connectTimeout =
        outline.agenda.has .connectTimeout := by
  cases answers with
  | syncResponse payload syncs => exact exists_of_syncs present syncs now
  | fullState guest payload syncs => exact exists_of_syncs present syncs now
  | newcomer host direct peer payload =>
      have unsynced : contact.connection.state.isSynced = false := by
        cases state : contact.connection.state <;> simp_all [ConnectionState.isEstablished,
          ConnectionState.isSynced]
      have joined : (outline.act now (.tell (.peerJoined peer))).contact = some contact := present
      rw [List.cons_append, run_cons, List.cons_append, run_cons, act_send joined, unsynced]
      simp only [Bool.false_eq_true, if_false, List.nil_append, run_cons, act, onLine, tell,
        present]
      exact ⟨_, rfl, rfl, rfl⟩
  | fullStateToHost host payload sends => simp [Contact.isBrought, host] at brought
  | peerConnected other peer =>
      simp only [Contact.isBrought, Bool.and_eq_true, decide_eq_true_eq] at brought
      exact absurd brought other
  | _ => simp [Contact.isBrought] at brought

end Outline

/-! ## Runs -/

/-- A desk, and whether the transport has confirmed its present attempt to connect, when the session
waited for it. -/
structure Timely (ν : Type) where
  desk : Desk ν
  isConfirmed : Bool := false

namespace Timely

variable {ν : Type} {timely : Timely ν}

structure Kept (timely : Timely ν) : Prop where
  tended : timely.desk.Tended
  timed : timely.desk.outline.Timed timely.isConfirmed

theorem Kept.unarmed (kept : timely.Kept) :
    ∀ session ∈ timely.desk.session, session.connection.state.isEstablished = true →
      timely.desk.agenda.has .connectTimeout = false := by
  intro session present established
  have contact := Desk.contact_outline present
  have confirmed := kept.timed.waits _ contact established
  by_cases client : session.connection.client = none
  · exact ((kept.tended.line session present).alone client).2
  · have runs := kept.timed.runs _ contact client
    rw [confirmed] at runs
    exact runs

variable [Transport ν] {occasion : Occasion ν} {now : Nat}

/-- Each attempt has to be confirmed anew. -/
def next (timely : Timely ν) (occasion : Occasion ν) (now : Nat) : Timely ν where
  desk := timely.desk.meets occasion now
  isConfirmed := timely.desk.session.any fun session =>
    timely.desk.matter? occasion now ≠ some (.task .reconnect) &&
      (timely.isConfirmed || (timely.desk.matter? occasion now).any session.contact.hears)

/-- No timeout runs for an established connection, and none kills one. -/
structure Spares (timely : Timely ν) (occasion : Occasion ν) (now : Nat) : Prop where
  unarmed : ∀ session ∈ (timely.next occasion now).desk.session,
    session.connection.state.isEstablished = true →
      (timely.next occasion now).desk.agenda.has .connectTimeout = false
  spared : timely.desk.matter? occasion now = some (.task .connectTimeout) →
    ∀ session ∈ timely.desk.session, session.connection.state.isEstablished = false

/-- Nothing brings the session into sync before the attempt to connect is confirmed. -/
def Heeds (timely : Timely ν) (occasion : Occasion ν) (now : Nat) : Prop :=
  ∀ session ∈ timely.desk.session, ∀ matter ∈ timely.desk.matter? occasion now,
    session.contact.isBrought matter = true → timely.isConfirmed = true

def Throughout (holds : Timely ν → Occasion ν → Nat → Prop) (timely : Timely ν) :
    List (Occasion ν × Nat) → Prop
  | [] => True
  | (occasion, now) :: rest =>
      holds timely occasion now ∧ (timely.next occasion now).Throughout holds rest

theorem Kept.round (kept : timely.Kept) (heeds : timely.Heeds .round now) :
    (timely.next .round now).Kept := by
  refine ⟨kept.tended.pollOnce now, ?_⟩
  rcases Option.eq_none_or_eq_some timely.desk.session with ended | ⟨session, present⟩
  · have taken := Desk.takeMatter_of_ended ended (kept.tended.idle ended) now
    have nothing : (timely.desk.takeMatter now).1 = none := congrArg Prod.fst taken
    apply Outline.timed_of_ended
    rw [next, Desk.meets, Desk.pollOnce_of_none nothing, taken, Desk.outline, ended]
    rfl
  · have contact := Desk.contact_outline present
    have takes := Desk.outline_takeMatter present now
    have tends := kept.tended.line session present
    show (timely.desk.pollOnce now).2.outline.Timed (timely.next .round now).isConfirmed
    rcases Desk.outline_pollOnce present now with
      ⟨nothing, polled⟩ | ⟨matter, effects, found, answers, polled⟩
    · have still : (timely.next .round now).isConfirmed = timely.isConfirmed := by
        simp [next, present, Desk.matter?, nothing]
      rw [nothing] at takes
      rw [still, polled]
      exact kept.timed.rest takes
    · have confirms : (timely.next .round now).isConfirmed =
          (matter ≠ .task .reconnect && (timely.isConfirmed || session.contact.hears matter)) := by
        simp [next, present, Desk.matter?, found]
      rw [found] at takes
      rw [confirms, polled]
      exact kept.timed.round contact tends takes answers (heeds session present matter found)

theorem Kept.call (kept : timely.Kept) {call : Call} (single : call ≠ .poll) (now : Nat) :
    (timely.next (.call call single) now).Kept := by
  refine ⟨kept.tended.perform call now, ?_⟩
  rcases Option.eq_none_or_eq_some timely.desk.session with ended | ⟨session, present⟩
  · have unconfirmed : (timely.next (.call call single) now).isConfirmed = false := by
      simp [next, ended]
    rw [unconfirmed]
    show (call.perform timely.desk now).outline.Timed false
    cases begins : call.number? with
    | none =>
        apply Outline.timed_of_ended
        rw [Desk.outline, (Desk.perform_of_ended ended (kept.tended.idle ended) begins now).1]
        rfl
    | some number =>
        have isNew : call.number? ≠ none := by
          simp [begins]
        have opens := Desk.opens_perform isNew timely.desk now
        refine Outline.timed_of_opens ?_ opens
        rw [Desk.outline, ended]
        rfl
  · have still : (timely.next (.call call single) now).isConfirmed = timely.isConfirmed := by
      simp [next, present, Desk.matter?]
    rw [still]
    show (call.perform timely.desk now).outline.Timed timely.isConfirmed
    have does := Desk.does_perform present single now
    generalize (call.perform timely.desk now).outline = after at does
    cases does with
    | nothing => exact kept.timed
    | bufferClosed => exact Outline.timed_close _ _
    | flushNow sends => exact kept.timed.sends sends now
    | leave => exact Outline.timed_close _ _
    | takeNotices => exact kept.timed.of_same rfl rfl
    | vanish network => exact Outline.timed_of_ended rfl

/-- What others do to the transport and the buffer does not matter. -/
theorem Kept.timed_of_others (kept : timely.Kept)
    (nothing : timely.desk.matter? occasion now = none)
    (contact : (timely.desk.meets occasion now).outline.contact = timely.desk.outline.contact)
    (agenda : (timely.desk.meets occasion now).agenda = timely.desk.agenda) :
    (timely.next occasion now).desk.outline.Timed (timely.next occasion now).isConfirmed := by
  rcases Option.eq_none_or_eq_some timely.desk.session with ended | ⟨session, present⟩
  · refine Outline.timed_of_ended (contact.trans ?_)
    rw [Desk.outline, ended]
    rfl
  · have still : (timely.next occasion now).isConfirmed = timely.isConfirmed := by
      simp [Timely.next, present, nothing]
    rw [still]
    exact kept.timed.of_same (congrArg (Option.map _) contact)
      (congrArg (Agenda.has · .connectTimeout) agenda)

theorem Kept.next (kept : timely.Kept) (heeds : timely.Heeds occasion now) :
    (timely.next occasion now).Kept := by
  have tended := kept.tended
  cases occasion with
  | network change =>
      exact ⟨⟨tended.idle, tended.line, tended.limit⟩, kept.timed_of_others rfl rfl rfl⟩
  | buffer change =>
      exact ⟨⟨tended.idle, tended.line, tended.limit⟩, kept.timed_of_others rfl rfl rfl⟩
  | call call single => exact kept.call single now
  | round => exact kept.round heeds

theorem Kept.spares (kept : timely.Kept) (heeds : timely.Heeds occasion now) :
    timely.Spares occasion now := by
  refine ⟨(kept.next heeds).unarmed, ?_⟩
  intro expires session present
  cases occasion with
  | round =>
      have timed := Desk.has_of_takeMatter expires
      cases established : session.connection.state.isEstablished with
      | false => rfl
      | true =>
          rw [kept.unarmed session present established] at timed
          cases timed
  | _ => cases expires

/-- What comes too early leaves a timeout for an established connection. -/
theorem Kept.heeds (kept : timely.Kept) (spares : timely.Spares occasion now) :
    timely.Heeds occasion now := by
  intro session present matter found brought
  by_contra early
  replace early : timely.isConfirmed = false := eq_false_of_ne_true early
  cases occasion with
  | round =>
      have contact := Desk.contact_outline present
      have down : session.connection.state.isEstablished = false := by
        by_contra established
        rw [kept.timed.waits _ contact (eq_true_of_ne_false established)] at early
        cases early
      cases matter with
      | task task => cases brought
      | event event =>
          have takes := Desk.outline_takeMatter present now
          rcases Desk.outline_pollOnce present now with
            ⟨nothing, _⟩ | ⟨_, effects, same, answers, polled⟩
          · cases nothing.symm.trans found
          · cases found.symm.trans same
            rw [show (timely.desk.takeMatter now).1 = _ from found] at takes
            have armed : ∃ later, (timely.desk.pollOnce now).2.outline.contact = some later ∧
                later.connection.state = .synced ∧
                (timely.desk.pollOnce now).2.outline.agenda.has .connectTimeout = true := by
              rw [polled]
              generalize (timely.desk.takeMatter now).2.outline = looked at takes
              cases takes with
              | event event client count =>
                  have runs := kept.timed.runs _ contact client
                  rw [early] at runs
                  have there : ({ timely.desk.outline with
                      network := Transport.discard timely.desk.outline.network
                        session.contact.connection.mailbox count } : Outline ν).contact =
                      some session.contact := contact
                  rcases Outline.exists_of_isBrought there down answers brought now with
                    ⟨later, next, synced, same⟩
                  exact ⟨later, next, synced, same.trans runs⟩
            rcases armed with ⟨_, next, synced, armed⟩
            rcases Option.map_eq_some_iff.1 next with ⟨later, there, rfl⟩
            have established : later.connection.state.isEstablished = true := by
              rw [show later.connection.state = _ from synced]
              rfl
            have unarmed := spares.unarmed later there established
            exact absurd (unarmed.symm.trans armed) (by decide)
  | _ => cases found

omit [Transport ν] in
theorem kept_of_ended {desk : Desk ν} (ended : desk.session = none) (empty : desk.agenda = {}) :
    (⟨desk, false⟩ : Timely ν).Kept := by
  refine ⟨Desk.tended_of_ended ended empty, Outline.timed_of_ended ?_⟩
  rw [Desk.outline, ended]
  rfl

theorem Kept.throughout_iff (kept : timely.Kept) (occasions : List (Occasion ν × Nat)) :
    timely.Throughout Spares occasions ↔ timely.Throughout Heeds occasions := by
  induction occasions generalizing timely with
  | nil => exact Iff.rfl
  | cons first rest ih =>
      constructor
      · rintro ⟨spares, others⟩
        have heeds := kept.heeds spares
        exact ⟨heeds, (ih (kept.next heeds)).1 others⟩
      · rintro ⟨heeds, others⟩
        exact ⟨kept.spares heeds, (ih (kept.next heeds)).2 others⟩

/-- Over every run from before a session on, no timeout runs for an established connection and none
kills one if and only if nothing brings the session into sync before the transport has confirmed its
attempt to connect. -/
theorem spares_iff {desk : Desk ν} (ended : desk.session = none) (empty : desk.agenda = {})
    (occasions : List (Occasion ν × Nat)) :
    (⟨desk, false⟩ : Timely ν).Throughout Spares occasions ↔
      (⟨desk, false⟩ : Timely ν).Throughout Heeds occasions :=
  (kept_of_ended ended empty).throughout_iff occasions

def run (timely : Timely ν) (occasions : List (Occasion ν × Nat)) : Timely ν :=
  occasions.foldl (fun timely occasion => timely.next occasion.1 occasion.2) timely

instance (timely : Timely ν) (occasion : Occasion ν) (now : Nat) :
    Decidable (timely.Heeds occasion now) :=
  inferInstanceAs (Decidable (∀ session ∈ timely.desk.session,
    ∀ matter ∈ timely.desk.matter? occasion now,
      session.contact.isBrought matter = true → timely.isConfirmed = true))

instance decidableHeeds : (timely : Timely ν) → (occasions : List (Occasion ν × Nat)) →
    Decidable (timely.Throughout Heeds occasions)
  | _, [] => .isTrue trivial
  | timely, (occasion, now) :: rest =>
      have := decidableHeeds (timely.next occasion now) rest
      inferInstanceAs (Decidable (_ ∧ _))

/-- Somebody about to host a session for peers, with an empty buffer. -/
def idle : Desk Scripted :=
  { buffer := Buffer.ofText [], network := { serves := .peerToPeer } }

def hosts : Occasion Scripted × Nat :=
  (.call (.host .peerToPeer ⟨1, 0, ⟨.replicate 32 0, SessionKey.length_zeros⟩⟩) nofun, 0)

def arrives (event : TransportEvent Update) : Occasion Scripted :=
  .network fun network => (network.emit none event).2

/-- The connection is confirmed, a peer comes, and the time of the attempt runs out. -/
def prompt : List (Occasion Scripted × Nat) :=
  [hosts, (arrives .connected, 0), (.round, 10), (arrives (.peerConnected "a"), 10), (.round, 10),
    (.round, 10000), (.round, 10000), (.round, 10000)]

theorem prompt_spares :
    idle.session = none ∧ idle.agenda = {} ∧
      (⟨idle, false⟩ : Timely Scripted).Throughout Spares prompt ∧
      ((⟨idle, false⟩ : Timely Scripted).run prompt).desk.session.any
        (·.connection.state.isSynced) = true :=
  ⟨rfl, rfl, (spares_iff rfl rfl prompt).2 (by decide +kernel), by decide +kernel⟩

/-- A peer comes before the connection is confirmed. -/
def hasty : List (Occasion Scripted × Nat) :=
  [hosts, (arrives (.peerConnected "a"), 0), (.round, 10)]

/-- The session is in sync while the timeout of its attempt runs, and then the timeout kills it. -/
theorem hasty_not_spares :
    ¬(⟨idle, false⟩ : Timely Scripted).Throughout Spares hasty ∧
      ((⟨idle, false⟩ : Timely Scripted).run hasty).desk.session.any
        (·.connection.state.isSynced) = true ∧
      ((⟨idle, false⟩ : Timely Scripted).run hasty).desk.agenda.has .connectTimeout = true ∧
      ((⟨idle, false⟩ : Timely Scripted).run (hasty ++ .replicate 3 (.round, 10000))
        ).desk.session.any (·.connection.state = .reconnecting 1) = true := by
  refine ⟨?_, by decide +kernel, by decide +kernel, by decide +kernel⟩
  rw [(kept_of_ended rfl rfl).throughout_iff]
  decide +kernel

end Timely

end Cowrite
