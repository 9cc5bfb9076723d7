import Cowrite.Proofs.Replica.Hearing
import Cowrite.Proofs.Session.Course
import Cowrite.Proofs.Session.Refusal
import Cowrite.Proofs.Session.Resync

/-!
# Sessions that do not echo

Somebody who only listens has nothing to say. Whatever updates arrive, and whatever is written into
the buffer for them, at once or later, the session sends no update and has none pending, and its
document is what the updates it has heard make of it (`Desk.no_echo`).

Nothing of this would be so if a write left notifications behind, or if a flush sent something
although nothing is pending. A first state and the plan to share one's own buffer do make a session
say something; a listener meets with neither (`Desk.Listens`).
-/

namespace Cowrite

/-- The update that a message brings to everybody, if it is one. -/
def OutboundMessage.update? {π : Type} : OutboundMessage π → Option π
  | .update payload => some payload
  | _ => none

/-- The updates that a transport has accepted, oldest first. -/
def Recorded.updates {ν : Type} (network : Recorded ν) : List Update :=
  network.accepted.filterMap OutboundMessage.update?

/-! ## Lines -/

namespace Line

variable {ν : Type} [Transport ν] (line : Line (Recorded ν)) (now : Nat)

theorem updates_shutDown : line.shutDown.network.updates = line.network.updates := by
  rw [Recorded.updates, Recorded.updates]
  exact congrArg _ line.beginLeave.accepted_hangUp

theorem updates_lose : (line.lose now).2.network.updates = line.network.updates := by
  rw [Recorded.updates, accepted_lose]
  rfl

theorem updates_redial : (line.redial now).2.network.updates = line.network.updates := by
  rw [Recorded.updates, accepted_redial]
  rfl

/-- To send anything but an update. -/
theorem updates_send (message : OutboundMessage Update) (other : message.update? = none) :
    (line.send message).2.network.updates = line.network.updates := by
  rcases line.send_cases message with ⟨transport, sent⟩ | ⟨error, transport, refused⟩
  · rw [sent]
    simp [Recorded.updates, other]
  · rw [refused]
    rfl

end Line

namespace Desk

variable {ν : Type} {desk after : Desk (Recorded ν)} {session later : Session} {now : Nat}

/-! ## Listening -/

/-- What becomes of a session with nothing to say that hears at most one payload: it says nothing,
nothing is pending, and its document has heard the payload. -/
structure Hears (heard : Option Update) (desk after : Desk (Recorded ν)) : Prop where
  updates : after.network.updates = desk.network.updates
  quiet : after.buffer.changes = []
  document : after.session = none ∨ ∃ session later, desk.session = some session ∧
    after.session = some later ∧ later.outbox.pending = false ∧
      later.replica.clearWalks = heard.elim session.replica.clearWalks session.replica.hear

/-- A desk with nothing to say. -/
structure Silent (desk : Desk (Recorded ν)) : Prop where
  quiet : desk.buffer.changes = []
  idle : ∀ session ∈ desk.session, session.outbox.pending = false

/-- Whether a matter is a first state, or the plan to share one's own buffer comes due and there is
something to share. -/
def Unsettles (desk : Desk ν) (matter : Matter) : Bool :=
  match matter with
  | .event event => desk.takesAsFirst event
  | .task .emptySyncFallback => desk.session.any fun session =>
      !session.isHost && !session.contentReceived &&
        !Text.isBlank (Binding.shownText desk.buffer)
  | _ => false

theorem Hears.notify {heard : Option Update} (hears : desk.Hears heard after) (notice : Notice) :
    desk.Hears heard (after.notify notice) :=
  ⟨hears.updates, hears.quiet, hears.document⟩

theorem Hears.silent {heard : Option Update} (hears : desk.Hears heard after) : after.Silent := by
  refine ⟨hears.quiet, ?_⟩
  intro later next
  rcases hears.document with ended | ⟨_, other, _, same, idle, _⟩
  · cases ended.symm.trans next
  · cases same.symm.trans next
    exact idle

theorem Silent.hears_of_aside (silent : desk.Silent) (aside : desk.Aside after)
    (updates : after.network.updates = desk.network.updates) : desk.Hears none after := by
  refine ⟨updates, aside.1 ▸ silent.quiet, ?_⟩
  rcases aside.2 with ended | ⟨session, later, present, next, same, _⟩
  · exact .inl ended
  · refine .inr ⟨session, later, present, next, ?_, ?_⟩
    · rw [same.outbox]
      exact silent.idle session present
    · rw [same.replica]
      rfl

theorem Silent.hears_refl (silent : desk.Silent) : desk.Hears none desk :=
  silent.hears_of_aside (.refl desk) rfl

/-- A listener that changes no more than the walks of its document hears nothing. -/
theorem Silent.hears_of_walks (silent : desk.Silent) (present : desk.session = some session)
    (next : after.session = some later) (pending : later.outbox.pending = session.outbox.pending)
    (replica : later.replica.clearWalks = session.replica.clearWalks)
    (updates : after.network.updates = desk.network.updates)
    (quiet : after.buffer.changes = []) : desk.Hears none after := by
  refine ⟨updates, quiet, .inr ⟨session, later, present, next, ?_, replica⟩⟩
  rw [pending]
  exact silent.idle session present

/-! ## The connection -/

theorem updates_onReady (desk : Desk (Recorded ν)) (endpointId relayUrl : String) :
    (desk.onReady endpointId relayUrl).network.updates = desk.network.updates := by
  rw [onReady]
  split
  · rfl
  · simp only
    split
    · split
      · rfl
      · rfl
    · rfl

theorem updates_onPeerDisconnected (desk : Desk (Recorded ν)) (peer : String) :
    (desk.onPeerDisconnected peer).network.updates = desk.network.updates := by
  rw [onPeerDisconnected]
  split
  · rfl
  · rfl

/-! ## Tasks that stay at the desk -/

theorem Silent.hears_runReconcile (silent : desk.Silent) :
    desk.Hears none (desk.runReconcile now) := by
  rcases Option.eq_none_or_eq_some desk.session with ended | ⟨session, present⟩
  · rw [runReconcile, ended]
    exact silent.hears_refl
  · have observed := observe_of_quiet present silent.quiet now
    rcases session.binding.replica_reconcile desk.buffer session.replica now with ⟨walks, same⟩
    have replica : (session.reconcile desk.buffer now).1.replica = { session.replica with walks } :=
      same
    simp only [runReconcile, present, observed]
    split
    · exact silent.hears_refl
    · split
      · refine silent.hears_of_walks present rfl rfl ?_ rfl
          (Session.changes_reconcile silent.quiet session now)
        rw [replica]
        rfl
      · exact silent.hears_refl

theorem Silent.hears_runEmptySyncFallback (silent : desk.Silent)
    (settled : desk.Unsettles (.task .emptySyncFallback) = false) :
    desk.Hears none (desk.runEmptySyncFallback now) := by
  rcases Option.eq_none_or_eq_some desk.session with ended | ⟨session, present⟩
  · rw [runEmptySyncFallback, ended]
    exact silent.hears_refl
  · have observed := observe_of_quiet present silent.quiet now
    rw [Unsettles, present, Option.any_some] at settled
    simp only [runEmptySyncFallback, present, observed]
    split
    case isTrue => exact silent.hears_refl
    case isFalse waits =>
      have waits := Bool.or_eq_false_iff.1 (eq_false_of_ne_true waits)
      have blank : Text.isBlank (Binding.shownText desk.buffer) = true := by
        simpa [waits.1, waits.2] using settled
      rw [if_pos blank]
      exact silent.hears_refl

/-! ## The loss of the connection -/

variable [Transport ν]

theorem updates_tearDown (desk : Desk (Recorded ν)) :
    desk.tearDown.network.updates = desk.network.updates := by
  rw [tearDown]
  cases desk.session with
  | none => rfl
  | some session => exact (desk.line session).updates_shutDown

theorem updates_afterLoss (desk : Desk (Recorded ν)) (outcome : LossOutcome) :
    (desk.afterLoss outcome).network.updates = desk.network.updates := by
  cases outcome with
  | ignored => rfl
  | scheduled attempt delay => rfl
  | exhausted attempts => exact desk.updates_tearDown

theorem updates_onConnectionLost (desk : Desk (Recorded ν)) (now : Nat) :
    (desk.onConnectionLost now).network.updates = desk.network.updates := by
  rw [onConnectionLost]
  cases desk.session with
  | none => rfl
  | some session => exact (updates_afterLoss _ _).trans ((desk.line session).updates_lose now)

theorem updates_requestState (desk : Desk (Recorded ν)) (session : Session) (now : Nat) :
    (desk.requestState session now).network.updates = desk.network.updates := by
  rw [requestState]
  split
  · have sends := (desk.line session).updates_send .syncRequest rfl
    rcases sent : (desk.line session).send .syncRequest with ⟨_ | ⟨⟩, later⟩
    · rw [sent] at sends
      exact (updates_onConnectionLost _ now).trans sends
    · rw [sent] at sends
      exact sends
  · split
    · rfl
    · rfl

theorem updates_onConnected (desk : Desk (Recorded ν)) (now : Nat) :
    (desk.onConnected now).network.updates = desk.network.updates := by
  rw [onConnected]
  split
  · rfl
  · split
    · simp only
      rw [updates_requestState]
      split
      · rfl
      · rfl
    · rfl

theorem updates_runReconnect (desk : Desk (Recorded ν)) (now : Nat) :
    (desk.runReconnect now).network.updates = desk.network.updates := by
  rw [runReconnect]
  cases desk.session with
  | none => rfl
  | some session =>
      simp only
      have redials := (desk.line session).updates_redial now
      rcases redialed : (desk.line session).redial now with ⟨_ | _, later⟩
      · rw [redialed] at redials
        exact redials
      · rw [redialed] at redials
        exact (updates_afterLoss _ _).trans redials

/-! ## Updates, peers and tasks -/

theorem Silent.hears_onRemoteUpdate (silent : desk.Silent) (payload : Update) :
    desk.Hears (some payload) (desk.onRemoteUpdate payload now) := by
  rcases Option.eq_none_or_eq_some desk.session with ended | ⟨session, present⟩
  · rw [onRemoteUpdate, ended]
    exact ⟨rfl, silent.quiet, .inl ended⟩
  · have idle := silent.idle session present
    have observed := observe_of_quiet present silent.quiet now
    have sent : desk.sentOff session now true = (session, desk.network) := by
      rw [sentOff, observed, Session.flush_of_idle idle]
    cases applied : session.replica.apply payload with
    | error error =>
        rw [onRemoteUpdate_of_quiet present silent.quiet idle applied]
        refine ⟨rfl, silent.quiet, .inr ⟨session, session, present, present, idle, ?_⟩⟩
        exact (Replica.hear_of_error applied).symm
    | ok replica =>
        have taken : (desk.observe session now).1.replica.apply payload = .ok replica := by
          rw [observed]
          exact applied
        have settled : (updated session replica).outbox.pending = false := by
          simp [updated, idle, Outbox.recordVersion]
        have heard : replica.clearWalks = session.replica.hear payload :=
          (Replica.hear_of_ok applied).symm
        rw [onRemoteUpdate_of_taken present taken, observed, sent]
        refine ⟨rfl, Session.changes_displayOrDefer silent.quiet _ now, .inr ⟨session, _, present,
          rfl, ?_⟩⟩
        rw [Session.displayOrDefer]
        split
        · exact ⟨settled, heard⟩
        · exact ⟨settled, heard⟩

theorem Silent.hears_onPeerConnected (silent : desk.Silent) (peer : String) :
    desk.Hears none (desk.onPeerConnected peer now) := by
  rcases Option.eq_none_or_eq_some desk.session with ended | ⟨session, present⟩
  · rw [onPeerConnected, ended]
    exact silent.hears_refl
  · let joined : Session := { session with peers := Session.insertPeer peer session.peers }
    let there : Desk (Recorded ν) := (desk.withSession joined).notify (.peerJoined peer)
    have member : there.session = some joined := rfl
    have quiet : there.buffer.changes = [] := silent.quiet
    have observed := observe_of_quiet member quiet now
    have sends := (there.line joined).updates_send (.fullState joined.replica.fullState) rfl
    have welcomes : desk.Hears none (there.welcomePeer joined now) := by
      simp only [welcomePeer, observed]
      split
      · split
        · exact silent.hears_of_walks present rfl rfl rfl sends silent.quiet
        · refine Hears.notify ?_ _
          exact silent.hears_of_walks present rfl rfl rfl sends silent.quiet
      · split
        · exact silent.hears_of_walks present rfl rfl rfl sends silent.quiet
        · refine Hears.notify ?_ _
          exact silent.hears_of_walks present rfl rfl rfl sends silent.quiet
    rw [onPeerConnected, present]
    simp only
    split
    · exact welcomes
    · exact silent.hears_of_walks present rfl rfl rfl rfl silent.quiet

theorem Silent.hears_runFlush (silent : desk.Silent) : desk.Hears none (desk.runFlush now) := by
  rcases Option.eq_none_or_eq_some desk.session with ended | ⟨session, present⟩
  · rw [runFlush, ended]
    exact silent.hears_refl
  · cases valid : desk.buffer.valid with
    | false =>
        have closes : desk.runFlush now = desk.closeForInvalidBuffer := by
          simp [runFlush, present, valid]
        rw [closes]
        exact silent.hears_of_aside desk.aside_closeForInvalidBuffer desk.updates_tearDown
    | true =>
        have observed := observe_of_quiet present silent.quiet now
        have flushed : desk.flushed session now = (session, desk.network) := by
          rw [Desk.flushed, sentOff, observed, Session.flush_of_idle (silent.idle session present)]
          split
          · rfl
          · rfl
        rw [runFlush_of_valid present valid, flushed, observed]
        split
        · exact silent.hears_of_walks present rfl rfl rfl rfl
            (Session.changes_display silent.quiet session now)
        · exact silent.hears_of_walks present rfl rfl rfl rfl silent.quiet

/-! ## Rounds and calls -/

theorem Silent.hears_handle (silent : desk.Silent) {event : TransportEvent Update}
    (follows : desk.takesAsFirst event = false) (now : Nat) :
    desk.Hears (Matter.event event).payload? (desk.handle event now) := by
  cases event with
  | connected =>
      exact silent.hears_of_aside (desk.aside_onConnected now) (desk.updates_onConnected now)
  | disconnected =>
      exact silent.hears_of_aside (desk.aside_onConnectionLost now)
        (desk.updates_onConnectionLost now)
  | syncResponse payload => cases follows
  | update payload => exact silent.hears_onRemoteUpdate payload
  | fullState payload =>
      have isHost : desk.session.any (·.isHost) = true := by simpa [takesAsFirst] using follows
      rw [handle, isHost]
      exact silent.hears_onRemoteUpdate payload
  | error message =>
      exact silent.hears_of_aside (desk.aside_onConnectionLost now)
        (desk.updates_onConnectionLost now)
  | peerConnected peer => exact silent.hears_onPeerConnected peer
  | peerDisconnected peer =>
      exact silent.hears_of_aside (desk.aside_onPeerDisconnected peer)
        (desk.updates_onPeerDisconnected peer)
  | ready endpointId relayUrl =>
      exact silent.hears_of_aside (desk.aside_onReady endpointId relayUrl)
        (desk.updates_onReady endpointId relayUrl)

theorem Silent.hears_deal (silent : desk.Silent) {matter : Matter}
    (settled : desk.Unsettles matter = false) (now : Nat) :
    desk.Hears matter.payload? (desk.deal matter now) := by
  cases matter with
  | event event => exact silent.hears_handle settled now
  | task task =>
      cases task with
      | flush => exact silent.hears_runFlush
      | reconcile => exact silent.hears_runReconcile
      | connectTimeout =>
          exact silent.hears_of_aside (desk.aside_onConnectionLost now)
            (desk.updates_onConnectionLost now)
      | reconnect =>
          exact silent.hears_of_aside (desk.aside_runReconnect now) (desk.updates_runReconnect now)
      | emptySyncFallback => exact silent.hears_runEmptySyncFallback settled

/-- A call says nothing either, as long as it opens no session. -/
theorem Silent.hears_perform (silent : desk.Silent) {call : Call} (single : call ≠ .poll)
    (begun : call.number? = none ∨ desk.session.isSome) (now : Nat) :
    desk.Hears none (call.perform desk now) := by
  have opensNothing (begins : call.number? ≠ none) : desk.Hears none (call.perform desk now) := by
    rcases begun with none | active
    · exact absurd none begins
    · rcases Option.isSome_iff_exists.1 active with ⟨session, present⟩
      rw [perform_of_present present begins]
      exact silent.hears_refl
  cases call with
  | takeNotices => exact ⟨rfl, silent.quiet, silent.hears_refl.document⟩
  | host target draws => exact opensNothing (by simp [Call.number?])
  | join code replica => exact opensNothing (by simp [Call.number?])
  | bufferChanged =>
      rw [Call.perform, bufferChanged]
      cases present : desk.session with
      | none => exact silent.hears_refl
      | some session =>
          simp only
          split
          · exact silent.hears_of_aside desk.aside_closeForInvalidBuffer desk.updates_tearDown
          · rw [observe_of_quiet present silent.quiet]
            exact silent.hears_refl
  | flushNow =>
      rw [Call.perform, flushNow]
      cases present : desk.session with
      | none => exact silent.hears_refl
      | some session =>
          simp only [observe_of_quiet present silent.quiet]
          split
          · rw [Session.flush_of_idle (silent.idle session present)]
            exact silent.hears_of_walks present rfl rfl rfl rfl silent.quiet
          · exact silent.hears_refl
  | poll => exact absurd rfl single
  | leave =>
      refine silent.hears_of_aside desk.aside_leave ?_
      rw [Call.perform, leave]
      split
      · exact desk.updates_tearDown
      · rfl
  | vanish =>
      refine silent.hears_of_aside desk.aside_vanish ?_
      rw [Call.perform, vanish]
      split
      · rfl
      · rfl

theorem Silent.hears_round (silent : desk.Silent)
    (settled : ∀ matter ∈ (desk.takeMatter now).1,
      (desk.takeMatter now).2.Unsettles matter = false) :
    desk.Hears ((desk.takeMatter now).1.bind Matter.payload?) (desk.pollOnce now).2 := by
  have sessions := desk.session_takeMatter_eq now
  have buffers := desk.buffer_takeMatter now
  have updates : (desk.takeMatter now).2.network.updates = desk.network.updates := by
    rw [Recorded.updates, accepted_takeMatter]
    rfl
  have still : (desk.takeMatter now).2.Silent :=
    ⟨by rw [buffers]; exact silent.quiet, by rw [sessions]; exact silent.idle⟩
  have taken {heard : Option Update} {after : Desk (Recorded ν)}
      (hears : (desk.takeMatter now).2.Hears heard after) : desk.Hears heard after :=
    ⟨hears.updates.trans updates, hears.quiet, sessions ▸ hears.document⟩
  cases found : (desk.takeMatter now).1 with
  | none =>
      rw [pollOnce_of_none found]
      exact taken still.hears_refl
  | some matter =>
      rw [pollOnce_of_matter found]
      exact taken (still.hears_deal (settled matter found) now)

/-! ## Courses -/

/-- What a listener meets with: nobody types, and nothing sends in its place, there is no first
state, its buffer is not shared, and no session is opened. -/
def Listens (desk : Desk (Recorded ν)) (occasion : Occasion (Recorded ν)) (now : Nat) : Prop :=
  match occasion with
  | .network change => (change desk.network).accepted = desk.network.accepted
  | .buffer change => (change desk.buffer).changes = []
  | .call call _ => call.number? = none ∨ desk.session.isSome
  | .round =>
      ∀ matter ∈ (desk.takeMatter now).1, (desk.takeMatter now).2.Unsettles matter = false

/-- The updates that a desk hears in the course of things, in their order. -/
def heard (desk : Desk (Recorded ν)) : List (Occasion (Recorded ν) × Nat) → List Update
  | [] => []
  | (occasion, now) :: rest =>
      ((desk.matter? occasion now).bind Matter.payload?).toList ++
        (desk.meets occasion now).heard rest

theorem Silent.hears_meets (silent : desk.Silent) {occasion : Occasion (Recorded ν)}
    (listens : desk.Listens occasion now) :
    desk.Hears ((desk.matter? occasion now).bind Matter.payload?) (desk.meets occasion now) := by
  cases occasion with
  | network change =>
      exact ⟨congrArg (List.filterMap OutboundMessage.update?) listens, silent.quiet,
        silent.hears_refl.document⟩
  | buffer change => exact ⟨rfl, listens, silent.hears_refl.document⟩
  | call call single => exact silent.hears_perform single listens now
  | round => exact silent.hears_round listens

/-- After any stretch of listening, and so at any point of one, no update has been sent and nothing
is pending. The document is what the updates that were heard make of it, in their order, and no
operation in it is of the listener's own making. -/
theorem no_echo (quiet : desk.buffer.changes = [])
    (idle : ∀ session ∈ desk.session, session.outbox.pending = false)
    {occasions : List (Occasion (Recorded ν) × Nat)} (listens : desk.Throughout Listens occasions) :
    (desk.course occasions).network.updates = desk.network.updates ∧
      ∀ later ∈ (desk.course occasions).session, ∃ session ∈ desk.session,
        later.outbox.pending = false ∧
          later.replica.clearWalks =
            (desk.heard occasions).foldl Replica.hear session.replica.clearWalks ∧
          ∀ operation ∈ later.replica.log, operation ∈ session.replica.log ∨
            operation ∈ session.replica.waiting ∨
              operation ∈ (desk.heard occasions).flatMap Update.carried := by
  have course : (desk.course occasions).network.updates = desk.network.updates ∧
      ∀ later ∈ (desk.course occasions).session, ∃ session ∈ desk.session,
        later.outbox.pending = false ∧ later.replica.clearWalks =
          (desk.heard occasions).foldl Replica.hear session.replica.clearWalks := by
    induction occasions generalizing desk with
    | nil => exact ⟨rfl, fun later present => ⟨later, present, idle later present, rfl⟩⟩
    | cons first rest ih =>
        have hears := (⟨quiet, idle⟩ : desk.Silent).hears_meets listens.1
        rcases ih hears.silent.quiet hears.silent.idle listens.2 with ⟨updates, documents⟩
        refine ⟨updates.trans hears.updates, ?_⟩
        intro later present
        rcases documents later present with ⟨middle, next, settled, made⟩
        rcases hears.document with ended | ⟨session, other, before, same, _, makes⟩
        · cases ended.symm.trans next
        · cases same.symm.trans next
          refine ⟨session, before, settled, ?_⟩
          rw [made, makes, heard, List.foldl_append]
          cases (desk.matter? first.1 first.2).bind Matter.payload? with
          | none => rfl
          | some payload => rw [Option.toList, List.foldl_cons, List.foldl_nil,
              Replica.hear_clearWalks]; rfl
  refine ⟨course.1, ?_⟩
  intro later present
  rcases course.2 later present with ⟨session, before, settled, made⟩
  refine ⟨session, before, settled, made, ?_⟩
  intro operation member
  refine (session.replica.clearWalks.gathers_foldl_hear (desk.heard occasions)).log operation ?_
  rw [← made]
  exact member

/-- Two letters of somebody else have arrived at a host that has nothing to say. -/
def addressed : Desk (Recorded Scripted) :=
  shared.receives (.update (({ id := 7 } : Replica).setText "XY".toList).fullState)

/-- They are heard and shown, and nothing is sent for it. -/
theorem addressed_no_echo :
    addressed.buffer.changes = [] ∧
      (∀ session ∈ addressed.session, session.outbox.pending = false) ∧
      addressed.Throughout Listens [(.round, 1010), (.round, 1120), (.round, 2000)] ∧
      (addressed.heard [(.round, 1010), (.round, 1120), (.round, 2000)]).length = 1 ∧
        (addressed.course [(.round, 1010), (.round, 1120), (.round, 2000)]).network.updates =
          addressed.network.updates := by
  have quiet : addressed.buffer.changes = [] := by decide +kernel
  have settled : addressed.session.all fun session => !session.outbox.pending := by decide +kernel
  have idle : ∀ session ∈ addressed.session, session.outbox.pending = false := by
    simpa [Option.all_eq_true] using settled
  have listens : addressed.Throughout Listens [(.round, 1010), (.round, 1120), (.round, 2000)] := by
    refine ⟨?_, ?_, ?_, trivial⟩
    · show ∀ matter ∈ _, _
      decide +kernel
    · show ∀ matter ∈ _, _
      decide +kernel
    · show ∀ matter ∈ _, _
      decide +kernel
  exact ⟨quiet, idle, listens, by decide +kernel, (no_echo quiet idle listens).1⟩

end Desk

end Cowrite
