import Cowrite.Proofs.Replica.Own
import Cowrite.Proofs.Session.Rounds
import Cowrite.Proofs.Session.Showing

/-!
# Guests that wait

A guest comes with a text of its own in the buffer and an empty document. As long as nothing has
come to it, nothing should be written over its text; and if the session turns out to be empty, it
should plan to share its text instead.

`Desk.reveals` tells what goes wrong with that in a single round of polling: a first state that is
not simply empty and first, an update without text, and a display that was held back, each show the
empty document. Nothing else does (`Desk.breaks_deal_iff`), because a guest that nothing went
wrong with keeps out of the way of repairs (`Desk.Sheltered`).
-/

namespace Cowrite

namespace Session

/-- Whether a first state makes a session show that it has nothing, or is the very first and empty
and does not make it plan to share its buffer. -/
def revealsByState (session : Session) (payload : Update) (informed : Bool) (now : Nat) : Bool :=
  (!payload.isEmpty || session.resync) &&
    (decide (Desk.receiveState session payload).HasNothing && !session.outbox.isTyping now ||
      payload.isEmpty && !informed)

/-- Whether an update makes a session show that it has nothing. -/
def revealsByUpdate (session : Session) (payload : Update) (now : Nat) : Bool :=
  match session.replica.apply payload with
  | .error _ => false
  | .ok replica => replica.isEmpty && !session.outbox.isTyping now

end Session

namespace Desk

variable {ν : Type}

/-- Whether a guest waits: nothing of others has come to it, and once it has had a first state,
nothing of its own is in the document either. -/
def Waits (desk : Desk ν) (informed : Bool) : Prop :=
  ∃ session ∈ desk.session, session.isHost = false ∧ session.contentReceived = false ∧
    (informed = true → session.replica.text = [])

instance (desk : Desk ν) (informed : Bool) : Decidable (desk.Waits informed) :=
  inferInstanceAs (Decidable (∃ session ∈ desk.session, _ ∧ _ ∧ _))

/-- Whether the buffer has a text. -/
def HasText (desk : Desk ν) : Prop :=
  Text.isBlank (Binding.shownText desk.buffer) = false

instance (desk : Desk ν) : Decidable desk.HasText :=
  inferInstanceAs (Decidable (_ = _))

/-- Whether a write was asked for although there was nothing to show. -/
def Overwrites (desk after : Desk ν) : Prop :=
  after.buffer.requests ≠ desk.buffer.requests ∧ ∃ session ∈ after.session, session.HasNothing

instance (desk after : Desk ν) : Decidable (desk.Overwrites after) :=
  inferInstanceAs (Decidable (_ ∧ ∃ session ∈ after.session, Session.HasNothing session))

/-- Whether the very first state was empty, and nothing is planned after it. -/
def Forgets (after : Desk ν) (informed : Bool) (matter : Matter) : Prop :=
  informed = false ∧ matter.state? = some .empty ∧ after.agenda.has .emptySyncFallback = false

instance (after : Desk ν) (informed : Bool) (matter : Matter) :
    Decidable (after.Forgets informed matter) :=
  inferInstanceAs (Decidable (_ ∧ _ ∧ _))

/-- What keeps a waiting guest out of the way of repairs: before the first state it is not in sync,
and later it plans to share its buffer or has held a display back. -/
structure Shelters (agenda : Agenda) (informed : Bool) (session : Session) : Prop where
  early : informed = false →
    session.connection.state.isSynced = false ∧ agenda.has .emptySyncFallback = false
  late : informed = true → session.connection.state.isSynced = true →
    agenda.has .emptySyncFallback = true ∨ session.deferred = true

def Sheltered (desk : Desk ν) (informed : Bool) : Prop :=
  ∀ session, desk.session = some session → Shelters desk.agenda informed session

variable [Transport ν]

/-- A session that has sent what was typed, with the transport after it. -/
def sentOff (desk : Desk ν) (session : Session) (now : Nat) (force : Bool) : Session × ν :=
  ((desk.observe session now).1.flush desk.network now force).2

/-- A session that has sent what was typed if it was time to. -/
def flushed (desk : Desk ν) (session : Session) (now : Nat) : Session × ν :=
  if (desk.observe session now).1.connection.state.isSynced then desk.sentOff session now false
  else ((desk.observe session now).1, desk.network)

/-- Whether a display that was held back makes a session show that it has nothing. -/
def revealsByFlush (desk : Desk ν) (session : Session) (now : Nat) : Bool :=
  desk.buffer.valid && (desk.flushed session now).1.replica.isEmpty &&
    ((desk.flushed session now).1.deferred && (desk.flushed session now).1.outbox.isIdle now)

/-- Whether dealing with a matter makes a waiting guest show that it has nothing, or forget to share
its buffer. -/
def reveals (desk : Desk ν) (informed : Bool) (matter : Matter) (now : Nat) : Bool :=
  desk.session.any fun session =>
    let seen := (desk.observe session now).1
    match matter with
    | .event (.syncResponse payload) => seen.revealsByState payload informed now
    | .event (.fullState payload) => seen.revealsByState payload informed now
    | .event (.update payload) => seen.revealsByUpdate payload now
    | .task .flush => desk.revealsByFlush session now
    | _ => false

end Desk

/-! ## Events and tasks -/

namespace Desk

variable {ν : Type} {desk after : Desk ν} {informed : Bool} {session : Session} {now : Nat}

theorem not_overwrites_of_requests_eq (same : after.buffer.requests = desk.buffer.requests) :
    ¬desk.Overwrites after :=
  fun overwrites => overwrites.1 same

theorem requests_observe (desk : Desk ν) (session : Session) (now : Nat) :
    (desk.observe session now).2.buffer.requests = desk.buffer.requests :=
  session.requests_observe desk.buffer now

theorem HasText.observe (text : desk.HasText) (session : Session) (now : Nat) :
    Text.isBlank (Binding.shownText (desk.observe session now).2.buffer) = false := by
  have lines := session.lines_observe desk.buffer now
  change Text.isBlank (Text.terminated (Text.joinLines true
    (session.observe desk.buffer now).2.lines)) = false
  rw [lines]
  exact text

theorem sheltered_of_present {later : Session} (present : after.session = some later)
    (shelters : Shelters after.agenda informed later) : after.Sheltered informed := by
  intro other same
  cases present.symm.trans same
  exact shelters

theorem sheltered_of_ended (ended : after.session = none) : after.Sheltered informed := by
  intro other same
  cases ended.symm.trans same

theorem Sheltered.aside (sheltered : desk.Sheltered informed) (aside : desk.Aside after) :
    after.Sheltered informed := by
  rcases aside with ⟨_, ended | ⟨session, later, present, next, same, line⟩⟩
  · exact sheltered_of_ended ended
  · have shelters := sheltered session present
    have fallback : after.agenda.has .emptySyncFallback = desk.agenda.has .emptySyncFallback :=
      line.fallback
    apply sheltered_of_present next
    constructor
    · intro early
      refine ⟨?_, fallback.trans (shelters.early early).2⟩
      cases synced : later.connection.state.isSynced with
      | false => rfl
      | true => exact (line.synced synced).symm.trans (shelters.early early).1
    · intro late synced
      rw [fallback, same.deferred]
      exact shelters.late late (line.synced synced)

theorem not_overwrites_of_aside (aside : desk.Aside after) : ¬desk.Overwrites after := by
  apply not_overwrites_of_requests_eq
  rw [aside.1]

/-- To show the document overwrites a text exactly if there is nothing to show and nobody types. -/
theorem overwrites_of_displayOrDefer {shown : Session} {buffer : Buffer}
    (displays : after.session = some (shown.displayOrDefer buffer now).1)
    (writes : after.buffer = (shown.displayOrDefer buffer now).2)
    (same : buffer.requests = desk.buffer.requests)
    (text : Text.isBlank (Binding.shownText buffer) = false) :
    desk.Overwrites after ↔ shown.HasNothing ∧ shown.outbox.isTyping now = false := by
  rw [Overwrites, displays, writes, ← same]
  constructor
  · rintro ⟨asked, other, isShown, nothing⟩
    cases isShown
    rw [Session.hasNothing_displayOrDefer] at nothing
    exact ⟨nothing, (shown.requests_displayOrDefer_ne_iff buffer now text nothing.2).1 asked⟩
  · rintro ⟨nothing, idle⟩
    refine ⟨?_, _, rfl, (shown.hasNothing_displayOrDefer buffer now).2 nothing⟩
    exact (shown.requests_displayOrDefer_ne_iff buffer now text nothing.2).2 idle

/-! ### First states -/

theorem overwrites_onInitialState_iff (present : desk.session = some session)
    (guest : session.isHost = false) (nothing : session.contentReceived = false)
    (text : desk.HasText) (payload : Update) :
    desk.Overwrites (desk.onInitialState payload now) ↔
      (!payload.isEmpty || session.resync) = true ∧
        (receiveState (desk.observe session now).1 payload).HasNothing ∧
        (desk.observe session now).1.outbox.isTyping now = false := by
  have awaits : awaitsFallback (desk.observe session now).1 payload =
      (payload.isEmpty && !session.resync) := awaitsFallback_eq _ payload guest nothing
  have otherwise : (!payload.isEmpty || session.resync) =
      !(payload.isEmpty && !session.resync) := by simp
  rw [onInitialState_of_present present, awaits, otherwise]
  cases payload.isEmpty && !session.resync with
  | true =>
      simp only [if_true, Bool.not_true, Bool.false_eq_true, false_and, iff_false]
      exact not_overwrites_of_requests_eq (desk.requests_observe session now)
  | false =>
      simp only [Bool.false_eq_true, if_false, Bool.not_false, true_and]
      rw [← hasNothing_informed, ← isTyping_informed _ payload]
      exact overwrites_of_displayOrDefer rfl rfl (desk.requests_observe session now)
        (text.observe session now)

theorem fallback_onInitialState (present : desk.session = some session)
    (guest : session.isHost = false) (nothing : session.contentReceived = false)
    (payload : Update) :
    (desk.onInitialState payload now).agenda.has .emptySyncFallback =
      ((payload.isEmpty && !session.resync) || desk.agenda.has .emptySyncFallback) := by
  have awaits : awaitsFallback (desk.observe session now).1 payload =
      (payload.isEmpty && !session.resync) := awaitsFallback_eq _ payload guest nothing
  rw [onInitialState_of_present present, awaits]
  cases payload.isEmpty && !session.resync with
  | true =>
      simp only [if_true, notify, Bool.true_or]
      rw [Agenda.once, Agenda.has_put]
      rfl
  | false => rfl

/-- A first state breaks what a guest can expect exactly if it reveals that there is nothing. -/
theorem breaks_onInitialState_iff (present : desk.session = some session)
    (guest : session.isHost = false) (nothing : session.contentReceived = false)
    (text : desk.HasText) (sheltered : desk.Sheltered informed) {payload : Update}
    {matter : Matter} (isState : matter.state? = some payload) :
    desk.Overwrites (desk.onInitialState payload now) ∨
        (desk.onInitialState payload now).Forgets informed matter ↔
      (desk.observe session now).1.revealsByState payload informed now = true := by
  have early := (sheltered session present).early
  have resync : (desk.observe session now).1.resync = session.resync := rfl
  rw [overwrites_onInitialState_iff present guest nothing text, Forgets,
    fallback_onInitialState present guest nothing, isState, Session.revealsByState, resync]
  cases payload with
  | empty =>
      cases informed with
      | false =>
          simp only [Update.isEmpty, (early rfl).2, Bool.not_true, Bool.false_or, Bool.true_and,
            Bool.or_false, Bool.not_false, Bool.and_true, Bool.or_true, Bool.not_eq_false',
            true_and]
          exact ⟨fun broken => broken.elim (·.1) id, .inr⟩
      | true => simp [Update.isEmpty]
  | operations operations => simp [Update.isEmpty]
  | malformed => simp [Update.isEmpty]

theorem sheltered_onInitialState (present : desk.session = some session)
    (guest : session.isHost = false) (nothing : session.contentReceived = false)
    {payload : Update}
    (hidden : (desk.observe session now).1.revealsByState payload informed now = false)
    (waits : (desk.onInitialState payload now).Waits true) :
    (desk.onInitialState payload now).Sheltered true := by
  have fallback := @fallback_onInitialState ν desk session now present guest nothing payload
  intro later next
  constructor
  · intro early
    cases early
  · intro _ _
    cases planned : payload.isEmpty && !session.resync with
    | true =>
        left
        rw [fallback, planned]
        rfl
    | false =>
        right
        rcases waits with ⟨other, same, _, received, none⟩
        cases next.symm.trans same
        have awaits : awaitsFallback (desk.observe session now).1 payload = false :=
          (awaitsFallback_eq (desk.observe session now).1 payload guest nothing).trans planned
        rw [onInitialState_of_present present, awaits] at next
        cases next
        have empty : (receiveState (desk.observe session now).1 payload).HasNothing := by
          rw [← hasNothing_informed, ← Session.hasNothing_displayOrDefer]
          exact ⟨received, none rfl⟩
        have otherwise : (!payload.isEmpty || (desk.observe session now).1.resync) = true := by
          have resync : (desk.observe session now).1.resync = session.resync := rfl
          rw [resync, ← Bool.not_not session.resync, ← Bool.not_and, planned]
          rfl
        rw [Session.revealsByState, otherwise, decide_eq_true empty] at hidden
        rw [Session.deferred_displayOrDefer, isTyping_informed]
        cases typing : (desk.observe session now).1.outbox.isTyping now with
        | true => rfl
        | false => simp [typing] at hidden

/-! ### Repairs and sharing -/

/-- A sheltered guest that waits is not repaired. -/
theorem runReconcile_of_sheltered (present : desk.session = some session)
    (sheltered : desk.Sheltered informed) :
    desk.runReconcile now = desk ∨ desk.runReconcile now = (desk.observe session now).2 := by
  have shelters := sheltered session present
  have inTheWay : ((desk.observe session now).1.connection.state.isSynced &&
      (desk.observe session now).1.outbox.isIdle now && !(desk.observe session now).1.deferred &&
      !(desk.observe session now).2.agenda.has .emptySyncFallback) = false := by
    have connection : (desk.observe session now).1.connection = session.connection := rfl
    have deferred : (desk.observe session now).1.deferred = session.deferred := rfl
    have agenda : (desk.observe session now).2.agenda = desk.agenda := rfl
    rw [connection, deferred, agenda]
    cases informed with
    | false => simp [(shelters.early rfl).1]
    | true =>
        cases synced : session.connection.state.isSynced with
        | false => simp
        | true =>
            rcases shelters.late rfl synced with planned | held
            · simp [planned]
            · simp [held]
  rw [Desk.runReconcile, present]
  simp only [inTheWay]
  split
  · exact .inl rfl
  · exact .inr rfl

theorem sheltered_observe (present : desk.session = some session)
    (sheltered : desk.Sheltered informed) (now : Nat) :
    (desk.observe session now).2.Sheltered informed := by
  have shelters := sheltered session present
  exact sheltered_of_present rfl ⟨shelters.early, shelters.late⟩

theorem runEmptySyncFallback_of_guest (present : desk.session = some session)
    (guest : session.isHost = false) (nothing : session.contentReceived = false)
    (text : desk.HasText) :
    desk.runEmptySyncFallback now =
      ((desk.observe session now).2.withSession { (desk.observe session now).1 with
        replica := (desk.observe session now).1.replica.setText
          (Binding.shownText (desk.observe session now).2.buffer)
        outbox := (desk.observe session now).1.outbox.markPending }).notify .seededFromBuffer := by
  have looked := text.observe session now
  rw [Desk.runEmptySyncFallback, present]
  simp only [guest, nothing, Bool.or_self, Bool.false_eq_true, if_false, looked]

/-- What is typed into an empty document is the replica's own. -/
theorem showsOwn_observe (session : Session) (empty : session.replica.text = []) (desk : Desk ν)
    (now : Nat) : (desk.observe session now).1.replica.ShowsOwn := by
  have own := Replica.showsOwn_of_text_eq_nil empty
  have observed := session.binding.replica_observe desk.buffer session.replica now
  change (session.binding.observe desk.buffer session.replica now).2.2.2.ShowsOwn
  rcases observed with ⟨_, same⟩ | ⟨_, same | ⟨edit, edited⟩⟩
  · rw [same]
    exact own
  · rw [same]
    exact own
  · rw [edited]
    exact (own.edit edit).1

/-- A guest that shares its buffer does not wait any longer. -/
theorem not_waits_runEmptySyncFallback (present : desk.session = some session)
    (guest : session.isHost = false) (nothing : session.contentReceived = false)
    (text : desk.HasText) (empty : session.replica.text = []) :
    ¬(desk.runEmptySyncFallback now).Waits true := by
  have looked := text.observe session now
  rw [runEmptySyncFallback_of_guest present guest nothing text]
  rintro ⟨later, same, _, _, none⟩
  cases same
  have length := (showsOwn_observe session empty desk now).length_setText
    (Binding.shownText (desk.observe session now).2.buffer)
  have blank : Binding.shownText (desk.observe session now).2.buffer = [] := by
    rw [← List.length_eq_zero_iff]
    exact Nat.le_zero.1 (length.trans (Nat.le_of_eq (congrArg List.length (none rfl))))
  rw [blank] at looked
  cases looked

/-! ### Updates -/

/-- A session that has taken up an update. -/
def updated (session : Session) (replica : Replica) : Session :=
  { session with
    replica
    outbox :=
      if session.outbox.pending then session.outbox
      else session.outbox.recordVersion replica.token
    contentReceived := session.contentReceived || !replica.isEmpty }

variable [Transport ν]

theorem isTyping_sentOff (desk : Desk ν) (session : Session) (now : Nat) (force : Bool) :
    (desk.sentOff session now force).1.outbox.isTyping now =
      (desk.observe session now).1.outbox.isTyping now := by
  simp only [sentOff, Session.flush]
  apply Outbox.isTyping_flush

theorem isTyping_updated (session : Session) (replica : Replica) (now : Nat) :
    (updated session replica).outbox.isTyping now = session.outbox.isTyping now := by
  rw [updated]
  simp only
  split
  · rfl
  · rfl

theorem onRemoteUpdate_of_present (present : desk.session = some session) (payload : Update) :
    desk.onRemoteUpdate payload now =
      match (desk.observe session now).1.replica.apply payload with
      | .error _ => { (desk.observe session now).2 with
          session := some (desk.sentOff session now true).1
          network := (desk.sentOff session now true).2 }
      | .ok replica => { (desk.observe session now).2 with
          session := some ((updated (desk.sentOff session now true).1 replica).displayOrDefer
            (desk.observe session now).2.buffer now).1
          buffer := ((updated (desk.sentOff session now true).1 replica).displayOrDefer
            (desk.observe session now).2.buffer now).2
          network := (desk.sentOff session now true).2 } := by
  rw [Desk.onRemoteUpdate, present]
  rfl

theorem onRemoteUpdate_of_refused (present : desk.session = some session) {payload : Update}
    {error : ReplicaError}
    (refused : (desk.observe session now).1.replica.apply payload = .error error) :
    desk.onRemoteUpdate payload now =
      { (desk.observe session now).2 with
        session := some (desk.sentOff session now true).1
        network := (desk.sentOff session now true).2 } := by
  rw [onRemoteUpdate_of_present present, refused]

theorem onRemoteUpdate_of_taken (present : desk.session = some session) {payload : Update}
    {replica : Replica}
    (taken : (desk.observe session now).1.replica.apply payload = .ok replica) :
    desk.onRemoteUpdate payload now =
      { (desk.observe session now).2 with
        session := some ((updated (desk.sentOff session now true).1 replica).displayOrDefer
          (desk.observe session now).2.buffer now).1
        buffer := ((updated (desk.sentOff session now true).1 replica).displayOrDefer
          (desk.observe session now).2.buffer now).2
        network := (desk.sentOff session now true).2 } := by
  rw [onRemoteUpdate_of_present present, taken]

theorem overwrites_onRemoteUpdate_iff (present : desk.session = some session)
    (nothing : session.contentReceived = false) (text : desk.HasText) (payload : Update) :
    desk.Overwrites (desk.onRemoteUpdate payload now) ↔
      (desk.observe session now).1.revealsByUpdate payload now = true := by
  cases applied : (desk.observe session now).1.replica.apply payload with
  | error error =>
      rw [onRemoteUpdate_of_refused present applied, Session.revealsByUpdate, applied]
      simp only [Bool.false_eq_true, iff_false]
      exact not_overwrites_of_requests_eq (desk.requests_observe session now)
  | ok replica =>
      let sent := (desk.sentOff session now true).1
      have typing : (updated sent replica).outbox.isTyping now =
          (desk.observe session now).1.outbox.isTyping now :=
        (isTyping_updated sent replica now).trans (desk.isTyping_sentOff session now true)
      have received : sent.contentReceived = false := nothing
      have empty_iff : (updated sent replica).HasNothing ↔ replica.isEmpty = true := by
        rw [Session.HasNothing, updated]
        simp [received, Replica.isEmpty]
      rw [onRemoteUpdate_of_taken present applied, Session.revealsByUpdate, applied]
      simp only [Bool.and_eq_true, Bool.not_eq_true']
      rw [← typing, ← empty_iff]
      exact overwrites_of_displayOrDefer rfl rfl (desk.requests_observe session now)
        (text.observe session now)

theorem sheltered_onRemoteUpdate (present : desk.session = some session)
    (sheltered : desk.Sheltered informed) {payload : Update}
    (hidden : (desk.observe session now).1.revealsByUpdate payload now = false)
    (waits : (desk.onRemoteUpdate payload now).Waits informed) :
    (desk.onRemoteUpdate payload now).Sheltered informed := by
  have shelters := sheltered session present
  cases applied : (desk.observe session now).1.replica.apply payload with
  | error error =>
      rw [onRemoteUpdate_of_refused present applied]
      exact sheltered_of_present rfl ⟨shelters.early, shelters.late⟩
  | ok replica =>
      let sent := (desk.sentOff session now true).1
      have typing : (updated sent replica).outbox.isTyping now =
          (desk.observe session now).1.outbox.isTyping now :=
        (isTyping_updated sent replica now).trans (desk.isTyping_sentOff session now true)
      rcases waits with ⟨other, same, _, _, none⟩
      rw [onRemoteUpdate_of_taken present applied] at same ⊢
      cases same
      apply sheltered_of_present rfl
      constructor
      · rw [Session.connection_displayOrDefer]
        exact shelters.early
      · intro late _
        right
        have empty : replica.isEmpty = true := by
          have text := none late
          rw [Session.displayOrDefer] at text
          split at text
          · exact List.isEmpty_iff.2 text
          · exact List.isEmpty_iff.2 text
        rw [Session.revealsByUpdate, applied] at hidden
        simp only [empty, Bool.true_and, Bool.not_eq_false'] at hidden
        rw [Session.deferred_displayOrDefer, typing]
        exact hidden

/-! ### Tasks -/

theorem flushed_eq (desk : Desk ν) (session : Session) (now : Nat) :
    (desk.flushed session now).1 =
      { (desk.observe session now).1 with outbox := (desk.flushed session now).1.outbox } := by
  rw [flushed]
  split
  · rfl
  · rfl

theorem runFlush_of_valid (present : desk.session = some session)
    (valid : desk.buffer.valid = true) :
    desk.runFlush now =
      { (desk.observe session now).2 with
        session := some (if ((desk.flushed session now).1.deferred &&
            (desk.flushed session now).1.outbox.isIdle now) = true then
          (desk.flushed session now).1.display (desk.observe session now).2.buffer now
          else ((desk.flushed session now).1, (desk.observe session now).2.buffer)).1
        buffer := (if ((desk.flushed session now).1.deferred &&
            (desk.flushed session now).1.outbox.isIdle now) = true then
          (desk.flushed session now).1.display (desk.observe session now).2.buffer now
          else ((desk.flushed session now).1, (desk.observe session now).2.buffer)).2
        network := (desk.flushed session now).2 } := by
  rw [Desk.runFlush, present]
  simp only [valid, Bool.not_true, Bool.false_eq_true, if_false]
  rfl

theorem overwrites_runFlush_iff (present : desk.session = some session)
    (nothing : session.contentReceived = false) (text : desk.HasText) :
    desk.Overwrites (desk.runFlush now) ↔ desk.revealsByFlush session now = true := by
  cases valid : desk.buffer.valid with
  | false =>
      have closes : desk.runFlush now = desk.closeForInvalidBuffer := by
        simp [Desk.runFlush, present, valid]
      rw [closes, revealsByFlush, valid]
      simp only [Bool.false_and, Bool.false_eq_true, iff_false]
      exact not_overwrites_of_aside desk.aside_closeForInvalidBuffer
  | true =>
      have looked := text.observe session now
      have received : (desk.flushed session now).1.contentReceived = false := by
        rw [flushed_eq]
        exact nothing
      rw [runFlush_of_valid present valid, revealsByFlush, valid]
      cases (desk.flushed session now).1.deferred &&
          (desk.flushed session now).1.outbox.isIdle now with
      | false =>
          simp only [Bool.false_eq_true, if_false, Bool.and_false, iff_false]
          exact not_overwrites_of_requests_eq (desk.requests_observe session now)
      | true =>
          simp only [if_true, Bool.and_true, Bool.true_and]
          constructor
          · rintro ⟨_, other, same, still⟩
            cases same
            exact List.isEmpty_iff.2 still.2
          · intro empty
            have none := List.isEmpty_iff.1 empty
            refine ⟨?_, _, rfl, received, none⟩
            rw [← requests_observe desk session now]
            exact Session.requests_display_ne _ _ _ looked none

theorem sheltered_runFlush (present : desk.session = some session)
    (sheltered : desk.Sheltered informed) (hidden : desk.revealsByFlush session now = false)
    (waits : (desk.runFlush now).Waits informed) : (desk.runFlush now).Sheltered informed := by
  have shelters := sheltered session present
  cases valid : desk.buffer.valid with
  | false =>
      have closes : desk.runFlush now = desk.closeForInvalidBuffer := by
        simp [Desk.runFlush, present, valid]
      rw [closes]
      exact sheltered.aside desk.aside_closeForInvalidBuffer
  | true =>
      have connection : (desk.flushed session now).1.connection = session.connection := by
        rw [flushed_eq]
        rfl
      have deferred : (desk.flushed session now).1.deferred = session.deferred := by
        rw [flushed_eq]
        rfl
      rcases waits with ⟨other, same, _, _, none⟩
      rw [runFlush_of_valid present valid] at same ⊢
      rw [revealsByFlush, valid] at hidden
      cases shown : (desk.flushed session now).1.deferred &&
          (desk.flushed session now).1.outbox.isIdle now with
      | false =>
          simp only [Bool.false_eq_true, if_false]
          apply sheltered_of_present rfl
          constructor
          · rw [connection]
            exact shelters.early
          · rw [connection, deferred]
            exact shelters.late
      | true =>
          simp only [shown, if_true, Bool.and_true, Bool.true_and] at same hidden ⊢
          cases same
          apply sheltered_of_present rfl
          constructor
          · intro early
            change (desk.flushed session now).1.connection.state.isSynced = false ∧ _
            rw [connection]
            exact shelters.early early
          · intro late _
            have empty : (desk.flushed session now).1.replica.isEmpty = true :=
              List.isEmpty_iff.2 (none late)
            cases empty.symm.trans hidden

theorem aside_onPeerConnected (present : desk.session = some session)
    (guest : session.isHost = false) (peer : String) :
    desk.Aside (desk.onPeerConnected peer now) := by
  let joined : Session := { session with peers := Session.insertPeer peer session.peers }
  have isGuest : joined.isHost = false := guest
  have stays : desk.onPeerConnected peer now =
      (desk.withSession joined).notify (.peerJoined peer) := by
    rw [Desk.onPeerConnected, present]
    simp only [joined] at isGuest ⊢
    rw [isGuest]
    rfl
  rw [stays]
  exact ⟨rfl, .inr ⟨session, joined, present, rfl, ⟨rfl, rfl, rfl, rfl, rfl, rfl, rfl⟩, id, rfl⟩⟩

/-! ### All matters -/

/-- A guest takes the whole state up as a first one. -/
theorem deal_fullState_of_guest (present : desk.session = some session)
    (guest : session.isHost = false) (payload : Update) :
    desk.deal (.event (.fullState payload)) now = desk.onInitialState payload now := by
  rw [deal, handle, present, Option.any_some, guest]
  rfl

/-- Dealing with a matter breaks what a waiting guest can expect exactly if it reveals that there is
nothing. -/
theorem breaks_deal_iff {matter : Matter}
    (sheltered : matter ≠ .task .emptySyncFallback → desk.Sheltered informed)
    (waits : desk.Waits informed) (text : desk.HasText) :
    desk.Overwrites (desk.deal matter now) ∨ (desk.deal matter now).Forgets informed matter ↔
      desk.reveals informed matter now = true := by
  rcases waits with ⟨session, present, guest, nothing, _⟩
  rw [reveals, present, Option.any_some]
  have stateless (none : matter.state? = none) :
      ¬(desk.deal matter now).Forgets informed matter := by
    rintro ⟨_, some, _⟩
    rw [none] at some
    cases some
  have quiet (none : matter.state? = none) {after : Desk ν} (result : desk.deal matter now = after)
      (same : after.buffer.requests = desk.buffer.requests) :
      desk.Overwrites (desk.deal matter now) ∨ (desk.deal matter now).Forgets informed matter ↔
        false = true := by
    simp only [stateless none, or_false, Bool.false_eq_true, iff_false]
    rw [result]
    exact not_overwrites_of_requests_eq same
  have aside (none : matter.state? = none) {after : Desk ν} (result : desk.deal matter now = after)
      (aside : desk.Aside after) := quiet none result (by rw [aside.1])
  cases matter with
  | event event =>
      have apart := sheltered (by simp)
      cases event with
      | connected => exact aside rfl rfl (desk.aside_onConnected now)
      | disconnected => exact aside rfl rfl (desk.aside_onConnectionLost now)
      | syncResponse payload =>
          exact breaks_onInitialState_iff present guest nothing text apart rfl
      | update payload =>
          simp only [stateless rfl, or_false]
          exact overwrites_onRemoteUpdate_iff present nothing text payload
      | fullState payload =>
          rw [deal_fullState_of_guest present guest]
          exact breaks_onInitialState_iff present guest nothing text apart rfl
      | error message => exact aside rfl rfl (desk.aside_onConnectionLost now)
      | peerConnected peer => exact aside rfl rfl (aside_onPeerConnected present guest peer)
      | peerDisconnected peer => exact aside rfl rfl (desk.aside_onPeerDisconnected peer)
      | ready endpointId relayUrl => exact aside rfl rfl (desk.aside_onReady endpointId relayUrl)
  | task task =>
      cases task with
      | flush =>
          simp only [stateless rfl, or_false]
          exact overwrites_runFlush_iff present nothing text
      | reconcile =>
          rcases runReconcile_of_sheltered present (sheltered (by simp)) with same | same
          · exact quiet rfl same rfl
          · exact quiet rfl same (desk.requests_observe session now)
      | connectTimeout => exact aside rfl rfl (desk.aside_onConnectionLost now)
      | reconnect => exact aside rfl rfl (desk.aside_runReconnect now)
      | emptySyncFallback =>
          exact quiet rfl (runEmptySyncFallback_of_guest present guest nothing text)
            (desk.requests_observe session now)

/-- A guest to which nothing was revealed is sheltered further on. -/
theorem sheltered_deal {matter : Matter}
    (sheltered : matter ≠ .task .emptySyncFallback → desk.Sheltered informed)
    (late : matter = .task .emptySyncFallback → informed = true) (waits : desk.Waits informed)
    (text : desk.HasText) (hidden : desk.reveals informed matter now = false)
    (still : (desk.deal matter now).Waits (informed || matter.state?.isSome)) :
    (desk.deal matter now).Sheltered (informed || matter.state?.isSome) := by
  rcases waits with ⟨session, present, guest, nothing, none⟩
  rw [reveals, present, Option.any_some] at hidden
  have goesOn (stateless : matter.state? = .none) (apart : desk.Sheltered informed)
      {after : Desk ν} (result : desk.deal matter now = after) (aside : desk.Aside after) :
      (desk.deal matter now).Sheltered (informed || matter.state?.isSome) := by
    rw [stateless, Option.isSome_none, Bool.or_false, result]
    exact apart.aside aside
  cases matter with
  | event event =>
      have apart := sheltered (by simp)
      cases event with
      | syncResponse payload =>
          simp only [Matter.state?, Option.isSome_some, Bool.or_true] at still ⊢
          exact sheltered_onInitialState present guest nothing hidden still
      | fullState payload =>
          rw [deal_fullState_of_guest present guest] at still ⊢
          simp only [Matter.state?, Option.isSome_some, Bool.or_true] at still ⊢
          exact sheltered_onInitialState present guest nothing hidden still
      | update payload =>
          simp only [Matter.state?, Option.isSome_none, Bool.or_false] at still ⊢
          exact sheltered_onRemoteUpdate present apart hidden still
      | connected => exact goesOn rfl apart rfl (desk.aside_onConnected now)
      | disconnected => exact goesOn rfl apart rfl (desk.aside_onConnectionLost now)
      | error message => exact goesOn rfl apart rfl (desk.aside_onConnectionLost now)
      | peerConnected peer => exact goesOn rfl apart rfl (aside_onPeerConnected present guest peer)
      | peerDisconnected peer => exact goesOn rfl apart rfl (desk.aside_onPeerDisconnected peer)
      | ready endpointId relayUrl =>
          exact goesOn rfl apart rfl (desk.aside_onReady endpointId relayUrl)
  | task task =>
      cases task with
      | flush =>
          simp only [Matter.state?, Option.isSome_none, Bool.or_false] at still ⊢
          exact sheltered_runFlush present (sheltered (by simp)) hidden still
      | reconcile =>
          simp only [Matter.state?, Option.isSome_none, Bool.or_false]
          change (desk.runReconcile now).Sheltered informed
          rcases runReconcile_of_sheltered present (sheltered (by simp)) with same | same
          · rw [same]
            exact sheltered (by simp)
          · rw [same]
            exact sheltered_observe present (sheltered (by simp)) now
      | connectTimeout =>
          exact goesOn rfl (sheltered (by simp)) rfl (desk.aside_onConnectionLost now)
      | reconnect => exact goesOn rfl (sheltered (by simp)) rfl (desk.aside_runReconnect now)
      | emptySyncFallback =>
          simp only [Matter.state?, Option.isSome_none, Bool.or_false, late rfl] at still
          exact absurd still
            (not_waits_runEmptySyncFallback present guest nothing text (none (late rfl)))

/-! ## Rounds -/

/-- Taking a matter keeps the shelter, unless the plan to share the buffer is taken up. -/
theorem sheltered_takeMatter (sheltered : desk.Sheltered informed)
    (differs : (desk.takeMatter now).1 ≠ some (.task .emptySyncFallback)) :
    (desk.takeMatter now).2.Sheltered informed := by
  have next := sheltered.aside desk.aside_nextEvent
  rcases desk.takeMatter_cases now with
    ⟨event, taken, _⟩ | ⟨task, agenda, popped, taken, _⟩ | ⟨taken, _⟩
  · rw [taken]
    exact next
  · rw [taken] at differs ⊢
    have kept : agenda.has .emptySyncFallback = desk.nextEvent.2.agenda.has .emptySyncFallback := by
      apply (Agenda.has_of_pop popped).2
      exact fun same => differs (by rw [← same])
    intro session present
    have shelters := next session present
    constructor
    · rw [kept]
      exact shelters.early
    · rw [kept]
      exact shelters.late
  · rw [taken]
    exact next

/-- Before a first state there is no plan to share the buffer. -/
theorem informed_of_takeMatter (sheltered : desk.Sheltered informed)
    (present : desk.session = some session)
    (found : (desk.takeMatter now).1 = some (.task .emptySyncFallback)) : informed = true := by
  have next := sheltered.aside desk.aside_nextEvent session (session_nextEvent present)
  rcases desk.takeMatter_cases now with
    ⟨event, taken, _⟩ | ⟨task, agenda, popped, taken, _⟩ | ⟨taken, _⟩
  · rw [taken] at found
    cases found
  · rw [taken] at found
    cases found
    cases informed with
    | true => rfl
    | false => cases (next.early rfl).2.symm.trans (Agenda.has_of_pop popped).1
  · rw [taken] at found
    cases found

end Desk

end Cowrite
