import Cowrite.Proofs.Session.Carries
import Cowrite.Proofs.Session.Course
import Cowrite.Proofs.Session.Guest
import Cowrite.Proofs.Session.Resync

/-!
# Patience with the user

While the user types, the buffer is left alone: what arrives is taken into the document and the
display of it is held back. Nothing forgets such a display but the display itself
(`Desk.Minds.remembers`), and a flush makes up for it as soon as nothing is typed or pending any
more (`Desk.displays_runFlush`).

Four paths lead to the buffer, and each looks at what was typed before it decides whether to write.
To look can only turn somebody who does not type into somebody who does
(`Session.isTyping_observe`), so whoever is found not to type after a write was not typing before it
either.
-/

namespace Cowrite

namespace Session

variable {session : Session} {now : Nat}

/-- Whoever types goes on typing when the buffer is looked at. -/
theorem isTyping_observe (typing : session.outbox.isTyping now = true) (buffer : Buffer) :
    (session.observe buffer now).1.outbox.isTyping now = true := by
  cases last : session.outbox.lastEdit with
  | none => simp [Outbox.isTyping, last] at typing
  | some edited =>
      rw [Outbox.isTyping, last] at typing
      have window : now - edited < session.outbox.window := of_decide_eq_true typing
      simp only [observe]
      split
      · simp only [Outbox.recordEdit, Outbox.isTyping, Nat.sub_self]
        exact decide_eq_true (Nat.zero_lt_of_lt window)
      · rw [Outbox.isTyping, last]
        exact typing

/-- To look at the buffer takes its notifications. -/
theorem buffer_observe (session : Session) (buffer : Buffer) (now : Nat) :
    (session.observe buffer now).2 = buffer.takeChanges.2 := by
  simp only [observe, Binding.observe]
  split
  · rfl
  · split
    · rfl
    · rfl

theorem not_isTyping_of_observe {buffer : Buffer}
    (idle : (session.observe buffer now).1.outbox.isTyping now = false) :
    session.outbox.isTyping now = false := by
  cases typing : session.outbox.isTyping now with
  | false => rfl
  | true => exact (isTyping_observe typing buffer).symm.trans idle

end Session

namespace Desk

variable {ν : Type} {desk after : Desk ν} {session later shown : Session} {now : Nat}

theorem buffer_observe (desk : Desk ν) (session : Session) (now : Nat) :
    (desk.observe session now).2.buffer = desk.buffer.takeChanges.2 :=
  session.buffer_observe desk.buffer now

/-- Whether a session holds the display of its document back. -/
def HoldsBack (desk : Desk ν) : Prop :=
  ∃ session ∈ desk.session, session.deferred = true

instance (desk : Desk ν) : Decidable desk.HoldsBack :=
  inferInstanceAs (Decidable (∃ session ∈ desk.session, _ = _))

/-- Whether a session has made the buffer of a desk show its document. -/
def Displays (desk after : Desk ν) (now : Nat) : Prop :=
  ∃ shown : Session, after.session = some (shown.display desk.buffer.takeChanges.2 now).1 ∧
    after.buffer = (shown.display desk.buffer.takeChanges.2 now).2

/-- What a desk may do to its buffer: write only if nothing was typed a moment ago, and forget a
display that was held back only when it shows the document. -/
structure Minds (desk after : Desk ν) (now : Nat) : Prop where
  pauses : after.buffer.requests ≠ desk.buffer.requests →
    ∃ session later, desk.session = some session ∧ after.session = some later ∧
      session.outbox.isTyping now = false ∧ later.outbox.isTyping now = false
  remembers : desk.HoldsBack → after.session = none ∨ after.HoldsBack ∨ desk.Displays after now

/-- Once the document is shown, nothing is held back. -/
theorem Displays.not_holdsBack (displayed : desk.Displays after now) : ¬after.HoldsBack := by
  rintro ⟨later, present, held⟩
  rcases displayed with ⟨shown, next, _⟩
  cases next.symm.trans present
  cases held

/-! ## What leaves the buffer alone -/

theorem minds_of_same (requests : after.buffer.requests = desk.buffer.requests)
    (present : desk.session = some session) (next : after.session = some later)
    (deferred : later.deferred = session.deferred) : desk.Minds after now := by
  refine ⟨fun asked => absurd requests asked, ?_⟩
  rintro ⟨other, same, held⟩
  cases present.symm.trans same
  exact .inr (.inl ⟨later, next, deferred.trans held⟩)

theorem minds_of_ended (requests : after.buffer.requests = desk.buffer.requests)
    (ended : desk.session = none) : desk.Minds after now := by
  refine ⟨fun asked => absurd requests asked, ?_⟩
  rintro ⟨session, present, _⟩
  cases ended.symm.trans present

theorem Minds.refl (desk : Desk ν) (now : Nat) : desk.Minds desk now :=
  ⟨fun asked => absurd rfl asked, fun held => .inr (.inl held)⟩

theorem Minds.notify (minds : desk.Minds after now) (notice : Notice) :
    desk.Minds (after.notify notice) now :=
  ⟨minds.pauses, minds.remembers⟩

theorem minds_of_aside (aside : desk.Aside after) (now : Nat) : desk.Minds after now := by
  have requests : after.buffer.requests = desk.buffer.requests := by rw [aside.1]
  rcases aside.2 with ended | ⟨session, later, present, next, same, _⟩
  · exact ⟨fun asked => absurd requests asked, fun _ => .inl ended⟩
  · exact minds_of_same requests present next same.deferred

theorem minds_observe (present : desk.session = some session) (now : Nat) :
    desk.Minds (desk.observe session now).2 now :=
  minds_of_same (desk.requests_observe session now) present rfl rfl

/-! ## What shows the document -/

/-- To write after having looked, if nothing was found to be typed. -/
theorem minds_of_idle (present : desk.session = some session)
    (next : after.session = some later)
    (idle : (desk.observe session now).1.outbox.isTyping now = false)
    (still : later.outbox.isTyping now = (desk.observe session now).1.outbox.isTyping now)
    (remembers : desk.HoldsBack → after.HoldsBack ∨ desk.Displays after now) :
    desk.Minds after now :=
  ⟨fun _ => ⟨session, later, present, next, Session.not_isTyping_of_observe idle,
    still.trans idle⟩, fun held => .inr (remembers held)⟩

/-- To show the document or to hold it back minds the user. -/
theorem minds_displayOrDefer (present : desk.session = some session)
    (typing : shown.outbox.isTyping now = (desk.observe session now).1.outbox.isTyping now)
    (next : after.session = some (shown.displayOrDefer (desk.observe session now).2.buffer now).1)
    (buffer : after.buffer = (shown.displayOrDefer (desk.observe session now).2.buffer now).2) :
    desk.Minds after now := by
  rw [buffer_observe, Session.displayOrDefer] at next buffer
  split at next
  case isTrue types =>
    rw [if_pos types] at buffer
    refine ⟨fun asked => absurd (congrArg Buffer.requests buffer) asked, ?_⟩
    intro _
    exact .inr (.inl ⟨_, next, rfl⟩)
  case isFalse idle =>
    rw [if_neg idle] at buffer
    have pauses := eq_false_of_ne_true idle
    exact minds_of_idle present next (typing.symm.trans pauses) typing
      fun _ => .inr ⟨shown, next, buffer⟩

theorem minds_onInitialState (desk : Desk ν) (payload : Update) (now : Nat) :
    desk.Minds (desk.onInitialState payload now) now := by
  rcases Option.eq_none_or_eq_some desk.session with ended | ⟨session, present⟩
  · rw [onInitialState, ended]
    exact .refl desk now
  · rw [onInitialState_of_present present]
    refine Minds.notify ?_ _
    split
    · refine minds_of_same (desk.requests_observe session now) present rfl ?_
      rw [informed, settleOutbox_eq, receiveState_eq]
      rfl
    · exact minds_displayOrDefer present (isTyping_informed _ payload now) rfl rfl

theorem minds_runReconcile (desk : Desk ν) (now : Nat) :
    desk.Minds (desk.runReconcile now) now := by
  rw [runReconcile]
  cases present : desk.session with
  | none => exact .refl desk now
  | some session =>
      simp only
      split
      · exact .refl desk now
      · split
        case isTrue apart =>
          rw [Bool.and_eq_true, Bool.and_eq_true, Bool.and_eq_true] at apart
          have idle : (desk.observe session now).1.outbox.isTyping now = false := by
            have rests := Bool.and_elim_left apart.1.1.2
            simpa using rests
          have shown : (desk.observe session now).1.deferred = false := by simpa using apart.1.2
          refine minds_of_idle present rfl idle rfl ?_
          rintro ⟨other, same, held⟩
          cases present.symm.trans same
          cases shown.symm.trans held
        case isFalse => exact minds_observe present now

theorem minds_runEmptySyncFallback (desk : Desk ν) (now : Nat) :
    desk.Minds (desk.runEmptySyncFallback now) now := by
  rw [runEmptySyncFallback]
  cases present : desk.session with
  | none => exact .refl desk now
  | some session =>
      simp only
      split
      · exact .refl desk now
      · split
        · exact minds_observe present now
        · exact minds_of_same (desk.requests_observe session now) present rfl rfl

/-- Whether a session has taken a document up and shows it, or holds it back while the user
types. -/
def TakesUp (desk after : Desk ν) (replica : Replica) (now : Nat) : Prop :=
  ∃ later ∈ after.session, later.replica.text = replica.text ∧
    (later.outbox.isTyping now = true ∧ later.deferred = true ∧
        after.buffer.requests = desk.buffer.requests ∨
      later.outbox.isTyping now = false ∧ desk.Displays after now)

theorem takesUp_displayOrDefer {session shown : Session} {replica : Replica}
    (text : shown.replica.text = replica.text)
    (next : after.session = some (shown.displayOrDefer (desk.observe session now).2.buffer now).1)
    (buffer : after.buffer = (shown.displayOrDefer (desk.observe session now).2.buffer now).2) :
    desk.TakesUp after replica now := by
  rw [buffer_observe, Session.displayOrDefer] at next buffer
  split at next
  case isTrue types =>
    rw [if_pos types] at buffer
    have requests : after.buffer.requests = desk.buffer.requests := by
      rw [buffer]
      rfl
    exact ⟨_, next, text, .inl ⟨types, rfl, requests⟩⟩
  case isFalse idle =>
    rw [if_neg idle] at buffer
    exact ⟨_, next, text, .inr ⟨eq_false_of_ne_true idle, shown, next, buffer⟩⟩

variable [Transport ν]

theorem minds_onRemoteUpdate (desk : Desk ν) (payload : Update) (now : Nat) :
    desk.Minds (desk.onRemoteUpdate payload now) now := by
  rcases Option.eq_none_or_eq_some desk.session with ended | ⟨session, present⟩
  · rw [onRemoteUpdate, ended]
    exact .refl desk now
  · cases applied : (desk.observe session now).1.replica.apply payload with
    | error error =>
        rw [onRemoteUpdate_of_refused present applied]
        exact minds_of_same (desk.requests_observe session now) present rfl rfl
    | ok replica =>
        rw [onRemoteUpdate_of_taken present applied]
        refine minds_displayOrDefer present ?_ rfl rfl
        rw [isTyping_updated]
        exact desk.isTyping_sentOff session now true

theorem minds_onPeerConnected (desk : Desk ν) (peer : String) (now : Nat) :
    desk.Minds (desk.onPeerConnected peer now) now := by
  rw [onPeerConnected]
  cases present : desk.session with
  | none => exact .refl desk now
  | some session =>
      have requests := desk.requests_observe session now
      simp only
      split
      · simp only [welcomePeer]
        split
        · split
          · exact minds_of_same requests present rfl rfl
          · exact minds_of_same requests present rfl rfl
        · split
          · exact minds_of_same requests present rfl rfl
          · exact minds_of_same requests present rfl rfl
      · exact minds_of_same rfl present rfl rfl

/-- A display that was held back is shown by a flush that finds nothing typed or pending. -/
theorem displays_runFlush (present : desk.session = some session) (valid : desk.buffer.valid = true)
    (held : session.deferred = true)
    (idle : (desk.flushed session now).1.outbox.isIdle now = true) :
    desk.Displays (desk.runFlush now) now := by
  have due : ((desk.flushed session now).1.deferred &&
      (desk.flushed session now).1.outbox.isIdle now) = true := by
    rw [idle, flushed_eq]
    exact (Bool.and_true _).trans held
  rw [runFlush_of_valid present valid, if_pos due, buffer_observe]
  exact ⟨_, rfl, rfl⟩

theorem minds_runFlush (desk : Desk ν) (now : Nat) : desk.Minds (desk.runFlush now) now := by
  rcases Option.eq_none_or_eq_some desk.session with ended | ⟨session, present⟩
  · rw [runFlush, ended]
    exact .refl desk now
  · cases valid : desk.buffer.valid with
    | false =>
        have closes : desk.runFlush now = desk.closeForInvalidBuffer := by
          simp [runFlush, present, valid]
        rw [closes]
        exact minds_of_aside desk.aside_closeForInvalidBuffer now
    | true =>
        have typing : (desk.flushed session now).1.outbox.isTyping now =
            (desk.observe session now).1.outbox.isTyping now := by
          rw [flushed]
          split
          · exact desk.isTyping_sentOff session now false
          · rfl
        rw [runFlush_of_valid present valid]
        split
        case isTrue due =>
          rw [Bool.and_eq_true, Outbox.isIdle, Bool.and_eq_true] at due
          have idle : (desk.flushed session now).1.outbox.isTyping now = false := by
            simpa using due.2.1
          rw [buffer_observe]
          exact minds_of_idle present rfl (typing.symm.trans idle) typing
            fun _ => .inr ⟨_, rfl, rfl⟩
        case isFalse =>
          refine minds_of_same (desk.requests_observe session now) present rfl ?_
          rw [flushed_eq]
          rfl

/-! ## Rounds and calls -/

theorem minds_handle (desk : Desk ν) (event : TransportEvent Update) (now : Nat) :
    desk.Minds (desk.handle event now) now := by
  cases event with
  | connected => exact minds_of_aside (desk.aside_onConnected now) now
  | disconnected => exact minds_of_aside (desk.aside_onConnectionLost now) now
  | syncResponse payload => exact desk.minds_onInitialState payload now
  | update payload => exact desk.minds_onRemoteUpdate payload now
  | fullState payload =>
      rw [handle]
      split
      · exact desk.minds_onRemoteUpdate payload now
      · exact desk.minds_onInitialState payload now
  | error message => exact minds_of_aside (desk.aside_onConnectionLost now) now
  | peerConnected peer => exact desk.minds_onPeerConnected peer now
  | peerDisconnected peer => exact minds_of_aside (desk.aside_onPeerDisconnected peer) now
  | ready endpointId relayUrl => exact minds_of_aside (desk.aside_onReady endpointId relayUrl) now

theorem minds_run (desk : Desk ν) (task : Task) (now : Nat) :
    desk.Minds (desk.run task now) now := by
  cases task with
  | flush => exact desk.minds_runFlush now
  | reconcile => exact desk.minds_runReconcile now
  | connectTimeout => exact minds_of_aside (desk.aside_onConnectionLost now) now
  | reconnect => exact minds_of_aside (desk.aside_runReconnect now) now
  | emptySyncFallback => exact desk.minds_runEmptySyncFallback now

/-- To take a matter changes nothing that minding the user is about. -/
theorem minds_takeMatter (desk : Desk ν) {after : Desk ν}
    (minds : (desk.takeMatter now).2.Minds after now) : desk.Minds after now := by
  have session : (desk.takeMatter now).2.session = desk.session := by
    cases present : desk.session with
    | none =>
        rcases desk.exists_takeMatter_snd now with ⟨agenda, taken⟩
        rw [taken, nextEvent, present]
        exact present
    | some session => exact session_takeMatter present now
  rcases minds with ⟨pauses, remembers⟩
  rw [buffer_takeMatter, session] at pauses
  rw [HoldsBack, Displays, buffer_takeMatter, session] at remembers
  exact ⟨pauses, remembers⟩

theorem minds_pollOnce (desk : Desk ν) (now : Nat) : desk.Minds (desk.pollOnce now).2 now := by
  apply minds_takeMatter
  cases found : (desk.takeMatter now).1 with
  | none =>
      rw [pollOnce_of_none found]
      exact .refl _ now
  | some matter =>
      rw [pollOnce_of_matter found]
      cases matter with
      | event event => exact minds_handle _ event now
      | task task => exact minds_run _ task now

/-- An attempt to open a session looks at the buffer only. -/
theorem buffer_opened (desk : Desk ν) (role : Role) (target : ConnectTarget)
    (key : Option SessionKey) (invitation : Option Invitation) (document : Replica × Outbox)
    (now : Nat) :
    (desk.opened role target key invitation document now).buffer = desk.buffer.takeChanges.2 := by
  simp only [opened, start]
  split
  · rfl
  · split
    · rfl
    · rfl

theorem minds_perform (desk : Desk ν) {call : Call} (single : call ≠ .poll) (now : Nat) :
    desk.Minds (call.perform desk now) now := by
  cases call with
  | takeNotices => exact ⟨fun asked => absurd rfl asked, fun held => .inr (.inl held)⟩
  | host target draws =>
      rcases desk.host_cases target draws now with same | ⟨ended, _, _, _, _, opens⟩
      · rw [Call.perform, same]
        exact .refl desk now
      · rw [Call.perform, opens]
        refine minds_of_ended ?_ ended
        rw [buffer_opened]
        rfl
  | join code replica =>
      rcases desk.join_cases code replica now with same | ⟨ended, _, _, _, _, opens⟩
      · rw [Call.perform, same]
        exact .refl desk now
      · rw [Call.perform, opens]
        refine minds_of_ended ?_ ended
        rw [buffer_opened]
        rfl
  | bufferChanged =>
      rcases desk.bufferChanged_cases now with aside | ⟨session, present, looks⟩
      · exact minds_of_aside aside now
      · rw [Call.perform, looks]
        exact minds_observe present now
  | flushNow =>
      rw [Call.perform, flushNow]
      cases present : desk.session with
      | none => exact .refl desk now
      | some session =>
          simp only
          split
          · exact minds_of_same (desk.requests_observe session now) present rfl rfl
          · exact minds_observe present now
  | poll => exact absurd rfl single
  | leave => exact minds_of_aside desk.aside_leave now
  | vanish => exact minds_of_aside desk.aside_vanish now

/-! ## What is taken up -/

/-- Whatever a matter brings that can be applied is taken up, as far as it is not empty. -/
theorem takesUp_deal (present : desk.session = some session) {matter : Matter} {payload : Update}
    (brings : matter.payload? = some payload) (something : payload.isEmpty = false)
    {replica : Replica}
    (applied : (desk.observe session now).1.replica.apply payload = .ok replica) :
    desk.TakesUp (desk.deal matter now) replica now := by
  have takesState : desk.TakesUp (desk.onInitialState payload now) replica now := by
    have notAwaiting : awaitsFallback (desk.observe session now).1 payload = false := by
      simp [awaitsFallback, something]
    have text : (informed (desk.observe session now).1 payload).replica.text = replica.text := by
      rw [informed, settleOutbox_eq]
      simp only [receiveState, something, applied]
      rfl
    rw [onInitialState_of_present present, notAwaiting]
    exact takesUp_displayOrDefer text rfl rfl
  have takesUpdate : desk.TakesUp (desk.onRemoteUpdate payload now) replica now := by
    rw [onRemoteUpdate_of_taken present applied]
    exact takesUp_displayOrDefer rfl rfl rfl
  cases matter with
  | task task => cases brings
  | event event =>
      cases event with
      | syncResponse state =>
          cases brings
          exact takesState
      | fullState state =>
          cases brings
          rw [deal, handle]
          split
          · exact takesUpdate
          · exact takesState
      | update update =>
          cases brings
          exact takesUpdate
      | _ => cases brings

/-! ## Everything that happens -/

/-- What a user who types can expect of anything that happens. -/
structure Patient (desk : Desk ν) (occasion : Occasion ν) (now : Nat) : Prop where
  /-- The session asks for a write only if nothing was typed a moment ago. -/
  pauses : occasion.isOwn = true →
    (desk.meets occasion now).buffer.requests ≠ desk.buffer.requests →
      ∃ session later, desk.session = some session ∧
        (desk.meets occasion now).session = some later ∧
          session.outbox.isTyping now = false ∧ later.outbox.isTyping now = false
  /-- What arrives and can be applied is shown, or held back because the user types. -/
  takesUp : ∀ session ∈ desk.session, ∀ matter ∈ desk.matter? occasion now,
    ∀ payload ∈ matter.payload?, payload.isEmpty = false →
      ∀ replica, (session.observe desk.buffer now).1.replica.apply payload = .ok replica →
        desk.TakesUp (desk.meets occasion now) replica now
  /-- What is held back stays so until it is shown, as long as the session lasts. -/
  remembers : desk.HoldsBack → (desk.meets occasion now).session = none ∨
    (desk.meets occasion now).HoldsBack ∨ desk.Displays (desk.meets occasion now) now
  /-- A flush shows it that leaves nothing pending and finds that nothing is typed. -/
  catchesUp : desk.matter? occasion now = some (.task .flush) → desk.buffer.valid = true →
    ∀ session ∈ desk.session, session.deferred = true →
      ((desk.takeMatter now).2.flushed session now).1.outbox.isIdle now = true →
        desk.Displays (desk.meets occasion now) now ∧ ¬(desk.meets occasion now).HoldsBack

theorem patient_round (desk : Desk ν) (now : Nat) : desk.Patient .round now := by
  have minds := desk.minds_pollOnce now
  refine ⟨fun _ => minds.pauses, ?_, minds.remembers, ?_⟩
  · intro session present matter found payload brings something replica applied
    have polled : desk.meets .round now = (desk.takeMatter now).2.deal matter now :=
      congrArg Prod.snd (pollOnce_of_matter found)
    have observed : ((desk.takeMatter now).2.observe session now).1.replica.apply payload =
        .ok replica := by
      rw [observe, buffer_takeMatter]
      exact applied
    have taken := takesUp_deal (session_takeMatter present now) brings something observed
    rw [TakesUp, Displays, buffer_takeMatter] at taken
    rw [TakesUp, Displays, polled]
    exact taken
  · intro found valid session present held idle
    have polled : desk.meets .round now = (desk.takeMatter now).2.runFlush now :=
      congrArg Prod.snd (pollOnce_of_matter found)
    rw [← buffer_takeMatter desk now] at valid
    have displayed := displays_runFlush (session_takeMatter present now) valid held idle
    refine ⟨?_, polled ▸ displayed.not_holdsBack⟩
    rw [Displays, buffer_takeMatter] at displayed
    rw [Displays, polled]
    exact displayed

theorem patient (desk : Desk ν) (occasion : Occasion ν) (now : Nat) :
    desk.Patient occasion now := by
  have quiet (matters : desk.matter? occasion now = none)
      (pauses : occasion.isOwn = true → desk.Minds (desk.meets occasion now) now)
      (remembers : desk.HoldsBack → (desk.meets occasion now).session = none ∨
        (desk.meets occasion now).HoldsBack ∨ desk.Displays (desk.meets occasion now) now) :
      desk.Patient occasion now := by
    refine ⟨fun own => (pauses own).pauses, ?_, remembers, ?_⟩
    · intro session _ matter found
      cases matters.symm.trans found
    · intro found
      cases matters.symm.trans found
  cases occasion with
  | network change => exact quiet rfl (by simp [Occasion.isOwn]) fun held => .inr (.inl held)
  | buffer change => exact quiet rfl (by simp [Occasion.isOwn]) fun held => .inr (.inl held)
  | call call single =>
      have minds := desk.minds_perform single now
      exact quiet rfl (fun _ => minds) minds.remembers
  | round => exact desk.patient_round now

/-- Whether the document is shown in the course of things, or the session ends. -/
def Resolves (desk : Desk ν) : List (Occasion ν × Nat) → Prop
  | [] => False
  | (occasion, now) :: rest =>
      (desk.meets occasion now).session = none ∨
        desk.Displays (desk.meets occasion now) now ∨ (desk.meets occasion now).Resolves rest

/-- Whatever happens, the buffer is not written while the user types, and what was held back for
that is shown in the end, or still held back, or the session is over. -/
theorem patient_throughout (desk : Desk ν) (occasions : List (Occasion ν × Nat)) :
    desk.Throughout Patient occasions ∧
      (desk.HoldsBack → desk.Resolves occasions ∨ (desk.course occasions).HoldsBack) := by
  refine ⟨throughout_of_forall patient desk occasions, ?_⟩
  induction occasions generalizing desk with
  | nil => exact .inr
  | cons first rest ih =>
      intro held
      rcases (desk.patient first.1 first.2).remembers held with ended | still | shown
      · exact .inl (.inl ended)
      · rcases ih (desk.meets first.1 first.2) still with resolves | holds
        · exact .inl (.inr (.inr resolves))
        · exact .inr holds
      · exact .inl (.inr (.inl shown))

/-- The host types a letter, and before it pauses an update of somebody else arrives. -/
def interleaved : Desk (Recorded Scripted) :=
  let typed : Desk (Recorded Scripted) :=
    { shared with buffer := (Typing.insertText 0 3 "d".toList).perform shared.buffer }
  let other : Replica := ({ id := 7 } : Replica).setText "XY".toList
  let typing := Call.bufferChanged.perform typed 1000
  (typing.receives (.update other.fullState)).meets .round 1010

/-- The update is held back, and shown once the host has paused. -/
theorem interleaved_patient :
    interleaved.HoldsBack ∧
      interleaved.Resolves [(.round, 1010), (.round, 1010), (.round, 1120)] := by
  have held : interleaved.HoldsBack := by decide +kernel
  refine ⟨held, ?_⟩
  rcases (interleaved.patient_throughout
    [(.round, 1010), (.round, 1010), (.round, 1120)]).2 held with resolves | still
  · exact resolves
  · have shown : ¬(interleaved.course
        [(.round, 1010), (.round, 1010), (.round, 1120)]).HoldsBack := by
      decide +kernel
    exact absurd still shown

end Desk

end Cowrite
