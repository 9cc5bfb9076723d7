import Cowrite.Proofs.Session.Carries
import Cowrite.Proofs.Session.Guest
import Cowrite.Proofs.Session.Quiet
import Cowrite.Proofs.Session.Resync

/-!
# Payloads that the document refuses

A payload that the document refuses should change nothing. As an update it does not
(`Desk.onRemoteUpdate_of_quiet`). As a first state it leaves the document and what is known about
the others alone, but the session goes on as if it had taken something up and makes the buffer show
the document. So the buffer stays as it is if and only if the payload is no first state, the user
types, or the buffer shows the document already (`Desk.refused_handle_iff`); the text of a guest
whose first state is unreadable is written over (`Desk.unreadable_overwrites`).
-/

namespace Cowrite

namespace Session

variable {session : Session} {buffer : Buffer}

/-- Without walks a document is shown by replacing everything. -/
theorem content_display (accepts : buffer.refusal? = none) (unwalked : session.replica.walks = [])
    (differs : Binding.shownText buffer ≠ Text.terminated session.replica.text) (now : Nat) :
    (session.display buffer now).2.content = Text.terminated session.replica.text := by
  have replaces : Binding.editsAlong? [] (Binding.shownText buffer)
      (Text.terminated session.replica.text) = none := by
    simp [Binding.editsAlong?, Walk.replay, differs]
  have still : buffer.suspend.refusal? = none := accepts
  have written := Buffer.content_writeContent still (Text.terminated session.replica.text)
  rw [Text.terminated_terminated] at written
  have shown : (session.display buffer now).2 =
      (session.binding.displayAlong buffer session.replica.walks session.replica.text now).2.2 :=
    rfl
  rw [shown, unwalked, Binding.displayAlong, if_neg differs, replaces, Binding.display,
    if_neg differs]
  exact written

end Session

namespace Desk

variable {ν : Type} {desk : Desk ν} {session : Session} {payload : Update} {error : ReplicaError}
  {now : Nat}

/-- Whether an event is handled as the first state after a connection was made. -/
def takesAsFirst (desk : Desk ν) (event : TransportEvent Update) : Bool :=
  match event with
  | .syncResponse _ => true
  | .fullState _ => !desk.session.any (·.isHost)
  | _ => false

/-- Whether a session that does not take up what an event brings writes its document over the
buffer all the same. -/
def Rewrites (desk : Desk ν) (session : Session) (event : TransportEvent Update) (now : Nat) :
    Prop :=
  desk.takesAsFirst event = true ∧ session.outbox.isTyping now = false ∧
    Binding.shownText desk.buffer ≠ Text.terminated session.replica.text

instance (desk : Desk ν) (session : Session) (event : TransportEvent Update) (now : Nat) :
    Decidable (desk.Rewrites session event now) :=
  inferInstanceAs (Decidable (_ ∧ _ ∧ _))

theorem receiveState_of_refused (refused : session.replica.apply payload = .error error) :
    receiveState session payload = session := by
  rw [receiveState, refused]
  split
  · rfl
  · rfl

theorem isEmpty_of_refused (refused : session.replica.apply payload = .error error) :
    payload.isEmpty = false := by
  cases payload with
  | empty => cases refused
  | operations operations => rfl
  | malformed => rfl

/-- What a first state does that is refused. -/
theorem onInitialState_of_refused (present : desk.session = some session)
    (quiet : desk.buffer.changes = []) (refused : session.replica.apply payload = .error error) :
    desk.onInitialState payload now =
      ({ desk with
        session := some ((informed session payload).displayOrDefer desk.buffer now).1
        buffer := ((informed session payload).displayOrDefer desk.buffer now).2 } :
          Desk ν).notify .synced := by
  have notAwaiting : awaitsFallback session payload = false := by
    simp [awaitsFallback, isEmpty_of_refused refused]
  rw [onInitialState_of_present present, observe_of_quiet present quiet, notAwaiting]
  rfl

theorem replica_informed_of_refused (refused : session.replica.apply payload = .error error) :
    (informed session payload).replica = session.replica ∧
      (informed session payload).contentReceived = session.contentReceived := by
  rw [informed, settleOutbox_eq, receiveState_of_refused refused]
  exact ⟨rfl, rfl⟩

variable [Transport ν]

/-- An update that is refused changes nothing at all. -/
theorem onRemoteUpdate_of_quiet (present : desk.session = some session)
    (quiet : desk.buffer.changes = []) (idle : session.outbox.pending = false)
    (refused : session.replica.apply payload = .error error) :
    desk.onRemoteUpdate payload now = desk := by
  have observed := observe_of_quiet present quiet now
  have sent : desk.sentOff session now true = (session, desk.network) := by
    rw [sentOff, observed, Session.flush_of_idle idle]
  have still : (desk.observe session now).1.replica.apply payload = .error error := by
    rw [observed]
    exact refused
  rw [onRemoteUpdate_of_refused present still, observed, sent]
  simp only [← present]

theorem handle_of_first {event : TransportEvent Update}
    (brings : (Matter.event event).payload? = some payload) :
    desk.handle event now =
      if desk.takesAsFirst event then desk.onInitialState payload now
      else desk.onRemoteUpdate payload now := by
  cases event with
  | syncResponse state =>
      cases brings
      rfl
  | fullState state =>
      cases brings
      rw [handle, takesAsFirst]
      cases desk.session.any (·.isHost) with
      | true => rfl
      | false => rfl
  | update update =>
      cases brings
      rfl
  | _ => cases brings

/-- What a payload that is refused does to the buffer: the first state alone can make the session
write, if the user does not type and the buffer shows something else. -/
theorem buffer_handle_of_refused (present : desk.session = some session) (tidy : desk.buffer.Tidy)
    (quiet : desk.buffer.changes = []) (idle : session.outbox.pending = false)
    {event : TransportEvent Update} (brings : (Matter.event event).payload? = some payload)
    (refused : session.replica.apply payload = .error error) :
    ¬desk.Rewrites session event now ∧ (desk.handle event now).buffer = desk.buffer ∨
      desk.Rewrites session event now ∧
        (desk.handle event now).buffer.requests ≠ desk.buffer.requests ∧
        (session.replica.walks = [] → desk.buffer.refusal? = none →
          (desk.handle event now).buffer.content = Text.terminated session.replica.text) := by
  have replica := (replica_informed_of_refused refused).1
  have typing := isTyping_informed session payload now
  rw [handle_of_first brings, Rewrites]
  cases desk.takesAsFirst event with
  | false =>
      left
      simp only [Bool.false_eq_true, if_false, false_and, not_false_eq_true, true_and]
      rw [onRemoteUpdate_of_quiet present quiet idle refused]
  | true =>
      simp only [if_true, true_and]
      rw [onInitialState_of_refused present quiet refused, ← typing, ← replica]
      cases types : (informed session payload).outbox.isTyping now with
      | true =>
          left
          simp [Session.displayOrDefer, types, notify]
      | false =>
          by_cases same : Binding.shownText desk.buffer =
              Text.terminated (informed session payload).replica.text
          · left
            simp only [Session.displayOrDefer, types, notify, same]
            exact ⟨by simp, Session.requests_display_of_eq _ same now⟩
          · right
            have asked := Session.length_requests_display _ tidy.nonempty same now
            simp only [Session.displayOrDefer, types, notify]
            refine ⟨⟨trivial, same⟩, ?_, ?_⟩
            · intro unasked
              exact absurd (congrArg List.length unasked) (Nat.ne_of_gt asked)
            · intro unwalked accepts
              exact Session.content_display accepts unwalked same now

theorem exists_handle_of_refused (present : desk.session = some session)
    (quiet : desk.buffer.changes = []) (idle : session.outbox.pending = false)
    {event : TransportEvent Update} (brings : (Matter.event event).payload? = some payload)
    (refused : session.replica.apply payload = .error error) :
    ∃ later walks, (desk.handle event now).session = some later ∧
      later.replica = { session.replica with walks } ∧
        later.contentReceived = session.contentReceived := by
  rcases replica_informed_of_refused refused with ⟨replica, received⟩
  rw [handle_of_first brings]
  split
  · rw [onInitialState_of_refused present quiet refused, Session.displayOrDefer, ← replica,
      ← received]
    split
    · exact ⟨_, _, rfl, rfl, rfl⟩
    · exact ⟨_, _, rfl, rfl, rfl⟩
  · rw [onRemoteUpdate_of_quiet present quiet idle refused]
    exact ⟨session, session.replica.walks, present, rfl, rfl⟩

/-- A payload that is refused changes neither the document nor what is taken to have been received,
and it leaves the buffer as it is exactly if it does not make the session write. -/
theorem refused_handle_iff (present : desk.session = some session) (tidy : desk.buffer.Tidy)
    (quiet : desk.buffer.changes = []) (idle : session.outbox.pending = false)
    {event : TransportEvent Update} (brings : (Matter.event event).payload? = some payload)
    (refused : session.replica.apply payload = .error error) (now : Nat) :
    (∃ later, (desk.handle event now).session = some later ∧
        later.replica.text = session.replica.text ∧
          later.replica.version = session.replica.version ∧
            later.contentReceived = session.contentReceived) ∧
      ((desk.handle event now).buffer = desk.buffer ↔ ¬desk.Rewrites session event now) ∧
      (session.replica.walks = [] → desk.buffer.refusal? = none →
        ((desk.handle event now).buffer.content = desk.buffer.content ↔
          ¬desk.Rewrites session event now)) := by
  rcases exists_handle_of_refused present quiet idle brings refused with
    ⟨later, walks, next, replica, received⟩
  refine ⟨⟨later, next, by rw [replica]; rfl, by rw [replica], received⟩, ?_⟩
  rcases buffer_handle_of_refused present tidy quiet idle brings refused with
    ⟨leaves, same⟩ | ⟨rewrites, asked, written⟩
  · exact ⟨iff_of_true same leaves, fun _ _ => iff_of_true (congrArg Buffer.content same) leaves⟩
  · refine ⟨iff_of_false ?_ (not_not_intro rewrites), ?_⟩
    · exact fun same => asked (congrArg Buffer.requests same)
    · intro unwalked accepts
      refine iff_of_false ?_ (not_not_intro rewrites)
      intro same
      have shown := same.symm.trans (written unwalked accepts)
      apply rewrites.2.2
      rw [Binding.shownText, shown, Text.terminated_terminated]

/-- The host has shared its letters and is in sync, and an update that cannot be read arrives. -/
theorem shared_unharmed :
    ∃ session, shared.session = some session ∧ shared.buffer.Tidy ∧ shared.buffer.changes = [] ∧
      session.outbox.pending = false ∧
        session.replica.apply .malformed = .error .malformedUpdate ∧
          (shared.handle (.update .malformed) 40).buffer = shared.buffer := by
  have settled : shared.session.any fun session => !session.outbox.pending := by decide +kernel
  rcases (Option.any_eq_true _ _).1 settled with ⟨session, present, idle⟩
  have idle : session.outbox.pending = false := by simpa using idle
  have tidy : shared.buffer.Tidy := ⟨by decide +kernel, by decide +kernel⟩
  have quiet : shared.buffer.changes = [] := by decide +kernel
  have leaves : ¬shared.Rewrites session (.update .malformed) 40 := fun rewrites => by
    cases rewrites.1
  exact ⟨session, present, tidy, quiet, idle, rfl,
    (refused_handle_iff present tidy quiet idle rfl rfl 40).2.1.2 leaves⟩

/-- Somebody with a word in the buffer has joined, and the connection is confirmed. -/
def expectant : Desk Scripted :=
  ((Guest.joined Guest.mine Guest.room 1 0).run
    [(Guest.arrives .connected, 0), (.round, 10)]).desk

/-- The first state cannot be read, and the word is gone. -/
theorem unreadable_overwrites :
    ∃ session, expectant.session = some session ∧ expectant.buffer.Tidy ∧
      expectant.buffer.changes = [] ∧ session.outbox.pending = false ∧
        session.replica.apply .malformed = .error .malformedUpdate ∧
          expectant.buffer.content = "mine\n".toList ∧
            (expectant.handle (.syncResponse .malformed) 20).buffer.content = "\n".toList := by
  have happens : (expectant.session.any fun session => !session.outbox.pending) = true ∧
      expectant.buffer.lines = ["mine".toList] ∧ expectant.buffer.changes = [] ∧
        (expectant.handle (.syncResponse .malformed) 20).buffer.content = "\n".toList := by
    decide +kernel
  rcases happens with ⟨settled, lines, quiet, written⟩
  rcases (Option.any_eq_true _ _).1 settled with ⟨session, present, idle⟩
  have tidy : expectant.buffer.Tidy := ⟨by simp [lines], by simp [lines]⟩
  have content : expectant.buffer.content = "mine\n".toList := by
    rw [Buffer.content, lines]
    rfl
  exact ⟨session, present, tidy, quiet, by simpa using idle, rfl, content, written⟩

end Desk

end Cowrite
