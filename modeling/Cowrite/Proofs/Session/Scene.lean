import Cowrite.Proofs.Replica.Editing
import Cowrite.Proofs.Transport.Passing
import Cowrite.Session.Basic

/-!
# A session in the room of a relay

What concerns the others of all that a session keeps is its replica, its outbox and its connection
(`Attendance`). A `Scene` shows them together with the history of the document, the relay, and
the event that the session has in hand: one that it has taken out of its mailbox and not dealt with
yet. A scene is sound (`Scene.Sound`) if the following holds, among other things.

* What the session holds, it wrote itself or got from its room; without pending edits the room has
  all of it (`sent`), and the outbox believes of the room only what is true (`trusts`).
* Once the session has asked for the state of its room, it either is a member and gets to know
  everything that the room has, or it will be told that it is none (`linked`). What it is yet to
  know stands in the events that wait.

A session acts on its scene (`Scene.Moves`): it may write operations of its own, and to the others
whatever it does is a change elsewhere. The others do the same to it, which leaves its scene sound
(`Sound.elsewhere`).
-/

namespace Cowrite

/-- Whether the state of the room has been asked for since the connection was made. -/
def ConnectionState.isJoined : ConnectionState → Bool
  | .syncing => true
  | .synced => true
  | _ => false

/-- Whether an event is one that a room with a given log sends. -/
def TransportEvent.ComesFrom (log : List Operation) : TransportEvent Update → Prop
  | .connected => True
  | .disconnected => True
  | .syncResponse payload => payload.Tells log
  | .update payload => payload.Tells log
  | _ => False

theorem TransportEvent.ComesFrom.mono {log longer : List Operation} (subset : log ⊆ longer)
    {event : TransportEvent Update} (comes : event.ComesFrom log) : event.ComesFrom longer := by
  cases event with
  | syncResponse payload => exact Update.Tells.mono subset comes
  | update payload => exact Update.Tells.mono subset comes
  | _ => exact comes

/-- What of a session concerns the others in its room. -/
structure Attendance where
  replica : Replica
  outbox : Outbox
  connection : Connection

def Session.attendance (session : Session) : Attendance :=
  ⟨session.replica, session.outbox, session.connection⟩

/-- A session at its relay, with events in hand. -/
structure Scene where
  history : History
  relay : Relay
  hand : List (Envelope Update)
  attendance : Attendance

namespace Scene

def replica (scene : Scene) : Replica :=
  scene.attendance.replica

def outbox (scene : Scene) : Outbox :=
  scene.attendance.outbox

def connection (scene : Scene) : Connection :=
  scene.attendance.connection

/-- The events that the session has not dealt with. -/
def queue (scene : Scene) : List (Envelope Update) :=
  scene.hand ++ scene.relay.mail.inbox scene.connection.mailbox

/-- Whether everything that the room has is known to the session or will be. -/
def Informed (scene : Scene) (url : String) (own : ClientId) : Prop :=
  ∀ operation ∈ scene.relay.logAt url, scene.replica.Holds operation ∨
    ∃ envelope ∈ scene.queue, envelope.client = own ∧ operation ∈ envelope.event.carried

/-- What is true at all times of a session in the room of a url. -/
structure Sound (url : String) (scene : Scene) : Prop where
  lawful : scene.history.Lawful
  relay : scene.relay.Lawful scene.history
  active : scene.replica.Active scene.history
  target : scene.connection.target = .relay url
  staying : scene.connection.leaving = false
  standing : scene.connection.state ≠ .failed
  isOpen : scene.relay.IsOpen scene.connection.mailbox
  minted : ∀ own, scene.connection.client = some own → scene.relay.HasMinted own
  alone : ∀ own, scene.connection.client = some own → ∀ other place,
    scene.relay.IsMember other own place → other = url ∧ place = scene.connection.mailbox
  named : ∀ envelope ∈ scene.queue, scene.relay.HasMinted envelope.client
  events : ∀ envelope ∈ scene.queue, scene.connection.client = some envelope.client →
    envelope.event.ComesFrom (scene.relay.logAt url)
  answered : ∀ envelope ∈ scene.queue, scene.connection.client = some envelope.client →
    ∀ payload, envelope.event = .syncResponse payload → scene.connection.state.isJoined = true
  linked : scene.connection.state.isJoined = true → ∃ own,
    scene.connection.client = some own ∧ (⟨own, .disconnected⟩ ∈ scene.queue ∨
      scene.relay.IsMember url own scene.connection.mailbox ∧ scene.Informed url own)
  waiting : ∀ operation ∈ scene.replica.waiting, operation ∈ scene.relay.logAt url
  sent : scene.outbox.pending = false → scene.replica.log ⊆ scene.relay.logAt url
  trusts : scene.outbox.Trusts (scene.relay.logAt url)

variable {url : String} {history : History} {relay : Relay} {hand : List (Envelope Update)}
  {replica : Replica} {outbox : Outbox} {connection : Connection} {scene : Scene}

/-- Everything that the session holds is known to it from its own work or from the room. -/
theorem Sound.known (sound : scene.Sound url) :
    ∀ operation ∈ scene.relay.logAt url, operation ∈ scene.history :=
  sound.relay.logAt_known url

/-! ## Changes by others -/

/-- What others do at the relay leaves the scene sound. -/
theorem Sound.elsewhere {after : Relay}
    (sound : Sound url ⟨history, relay, hand, ⟨replica, outbox, connection⟩⟩)
    (lawful : after.Lawful history)
    (elsewhere : Relay.Elsewhere url connection.client connection.mailbox relay after) :
    Sound url ⟨history, after, hand, ⟨replica, outbox, connection⟩⟩ := by
  rcases elsewhere.news with ⟨new, inbox, news⟩
  have queue : hand ++ after.mail.inbox connection.mailbox =
      (hand ++ relay.mail.inbox connection.mailbox) ++ new := by
    rw [inbox, List.append_assoc]
  have subset : hand ++ relay.mail.inbox connection.mailbox ⊆
      hand ++ after.mail.inbox connection.mailbox := by
    rw [queue]
    exact List.subset_append_left _ _
  have cases_queue : ∀ envelope ∈ hand ++ after.mail.inbox connection.mailbox,
      envelope ∈ hand ++ relay.mail.inbox connection.mailbox ∨ envelope ∈ new := by
    intro envelope present
    rw [queue] at present
    exact List.mem_append.1 present
  refine
    { lawful := sound.lawful
      relay := lawful
      active := sound.active
      target := sound.target
      staying := sound.staying
      standing := sound.standing
      isOpen := elsewhere.isOpen sound.isOpen
      minted := fun own isOwn => (sound.minted own isOwn).mono elsewhere.minted_le
      alone := fun own isOwn other place isMember =>
        sound.alone own isOwn other place (elsewhere.member own isOwn other place isMember)
      named := ?_
      events := ?_
      answered := ?_
      linked := ?_
      waiting := fun operation present => elsewhere.log_subset (sound.waiting operation present)
      sent := fun idle operation present => elsewhere.log_subset (sound.sent idle present)
      trusts := sound.trusts.mono elsewhere.log_subset }
  · intro envelope present
    rcases cases_queue envelope present with old | isNew
    · exact (sound.named envelope old).mono elsewhere.minted_le
    · exact (news envelope isNew).1
  · intro envelope present own
    rcases cases_queue envelope present with old | isNew
    · exact (sound.events envelope old own).mono elsewhere.log_subset
    · rcases (news envelope isNew).2 own with lost | ⟨payload, isUpdate, tells⟩
      · rw [lost]
        trivial
      · rw [isUpdate]
        exact tells
  · intro envelope present own payload answer
    rcases cases_queue envelope present with old | isNew
    · exact sound.answered envelope old own payload answer
    · rcases (news envelope isNew).2 own with lost | ⟨update, isUpdate, _⟩
      · simp [lost] at answer
      · simp [isUpdate] at answer
  · intro joined
    rcases sound.linked joined with ⟨own, isOwn, lost | ⟨isMember, informed⟩⟩
    · exact ⟨own, isOwn, .inl (subset lost)⟩
    · refine ⟨own, isOwn, ?_⟩
      rcases elsewhere.passed own isOwn sound.isOpen isMember with lost | ⟨stays, passed⟩
      · exact .inl (List.mem_append_right _ lost)
      · refine .inr ⟨stays, ?_⟩
        intro operation present
        rcases passed operation present with old | ⟨envelope, waits, about⟩
        · rcases informed operation old with held | ⟨envelope, waits, about⟩
          · exact .inl held
          · exact .inr ⟨envelope, subset waits, about⟩
        · exact .inr ⟨envelope, List.mem_append_right _ waits, about⟩

/-- What others write leaves the scene sound. -/
theorem Sound.mono {larger : History}
    (sound : Sound url ⟨history, relay, hand, ⟨replica, outbox, connection⟩⟩)
    (lawful : larger.Lawful) (subset : history ⊆ larger)
    (others : ∀ operation ∈ larger, operation ∉ history →
      operation.id.replica ≠ replica.id) :
    Sound url ⟨larger, relay, hand, ⟨replica, outbox, connection⟩⟩ :=
  { sound with
    lawful := lawful
    relay := sound.relay.mono subset
    active := sound.active.mono subset others }

/-! ## Changes by the session -/

/-- What the session writes is pending until it is sent. -/
theorem Sound.writes {larger : History} {written : Replica} {noted : Outbox}
    (sound : Sound url ⟨history, relay, hand, ⟨replica, outbox, connection⟩⟩)
    (writes : replica.Writes history larger written) (pending : noted.pending = true)
    (lastSent : noted.lastSent = outbox.lastSent) :
    Sound url ⟨larger, relay, hand, ⟨written, noted, connection⟩⟩ :=
  { sound with
    lawful := writes.lawful
    relay := sound.relay.mono writes.subset
    active := writes.active
    linked := by
      intro joined
      rcases sound.linked joined with ⟨own, isOwn, lost | ⟨isMember, informed⟩⟩
      · exact ⟨own, isOwn, .inl lost⟩
      · refine ⟨own, isOwn, .inr ⟨isMember, ?_⟩⟩
        intro operation present
        rcases informed operation present with (inLog | waits) | told
        · exact .inl (.inl (writes.log_subset inLog))
        · refine .inl (.inr ?_)
          show operation ∈ written.waiting
          rwa [writes.waiting_eq]
        · exact .inr told
    waiting := by
      intro operation present
      apply sound.waiting operation
      show operation ∈ replica.waiting
      rwa [← writes.waiting_eq]
    sent := by
      intro idle
      exact absurd (pending.symm.trans idle) (by decide)
    trusts := by
      intro token held
      exact sound.trusts token (lastSent ▸ held) }

/-- Walks are of no account. -/
theorem Sound.withWalks (sound : Sound url ⟨history, relay, hand, ⟨replica, outbox, connection⟩⟩)
    (walks : List Walk) :
    Sound url ⟨history, relay, hand, ⟨{ replica with walks }, outbox, connection⟩⟩ :=
  { sound with active := sound.active.withWalks walks }

/-- What the outbox keeps may change as long as it stays true. -/
theorem Sound.withOutbox {kept : Outbox}
    (sound : Sound url ⟨history, relay, hand, ⟨replica, outbox, connection⟩⟩)
    (sent : kept.pending = false → replica.log ⊆ relay.logAt url)
    (trusts : kept.Trusts (relay.logAt url)) :
    Sound url ⟨history, relay, hand, ⟨replica, kept, connection⟩⟩ :=
  { sound with
    sent := sent
    trusts := trusts }

/-- Events that are not about the present client can be thrown away. -/
theorem Sound.withQueue {after : Relay} {kept : List (Envelope Update)}
    (sound : Sound url ⟨history, relay, hand, ⟨replica, outbox, connection⟩⟩)
    (rooms : after.rooms = relay.rooms) (minted : after.minted = relay.minted)
    (isOpen : after.IsOpen connection.mailbox)
    (subset : kept ++ after.mail.inbox connection.mailbox ⊆
      hand ++ relay.mail.inbox connection.mailbox)
    (superset : ∀ envelope ∈ hand ++ relay.mail.inbox connection.mailbox,
      connection.client = some envelope.client →
        envelope ∈ kept ++ after.mail.inbox connection.mailbox) :
    Sound url ⟨history, after, kept, ⟨replica, outbox, connection⟩⟩ := by
  have log := Relay.logAt_of_rooms_eq rooms url
  have named : ∀ {client}, relay.HasMinted client → after.HasMinted client :=
    fun known => known.mono (Nat.le_of_eq minted.symm)
  exact
    { lawful := sound.lawful
      relay := sound.relay.of_rooms_eq rooms (Nat.le_of_eq minted.symm)
      active := sound.active
      target := sound.target
      staying := sound.staying
      standing := sound.standing
      isOpen := isOpen
      minted := fun own isOwn => named (sound.minted own isOwn)
      alone := fun own isOwn other place isMember =>
        sound.alone own isOwn other place ((Relay.isMember_of_rooms_eq rooms).1 isMember)
      named := fun envelope present => named (sound.named envelope (subset present))
      events := by
        intro envelope present own
        have comes := sound.events envelope (subset present) own
        show envelope.event.ComesFrom (after.logAt url)
        rwa [log]
      answered := fun envelope present => sound.answered envelope (subset present)
      linked := by
        intro joined
        rcases sound.linked joined with ⟨own, isOwn, lost | ⟨isMember, informed⟩⟩
        · exact ⟨own, isOwn, .inl (superset _ lost isOwn)⟩
        · refine ⟨own, isOwn, .inr ⟨(Relay.isMember_of_rooms_eq rooms).2 isMember, ?_⟩⟩
          intro operation present
          have before : operation ∈ relay.logAt url := by
            rwa [← log]
          rcases informed operation before with held | ⟨envelope, waits, rfl, about⟩
          · exact .inl held
          · exact .inr ⟨envelope, superset envelope waits isOwn, rfl, about⟩
      waiting := by
        intro operation present
        show operation ∈ after.logAt url
        rw [log]
        exact sound.waiting operation present
      sent := by
        intro idle
        show replica.log ⊆ after.logAt url
        rw [log]
        exact sound.sent idle
      trusts := by
        show outbox.Trusts (after.logAt url)
        rw [log]
        exact sound.trusts }

/-- The events in hand have been dealt with when all that they carry is known, and none was the end
of the connection. -/
theorem Sound.dealtWith
    (sound : Sound url ⟨history, relay, hand, ⟨replica, outbox, connection⟩⟩)
    (done : connection.state.isJoined = true → ∀ envelope ∈ hand,
      envelope.event ≠ .disconnected ∧
        ∀ operation ∈ envelope.event.carried, replica.Holds operation) :
    Sound url ⟨history, relay, [], ⟨replica, outbox, connection⟩⟩ :=
  { sound with
    named := fun other present => sound.named other (List.mem_append_right _ present)
    events := fun other present => sound.events other (List.mem_append_right _ present)
    answered := fun other present => sound.answered other (List.mem_append_right _ present)
    linked := by
      intro joined
      rcases sound.linked joined with ⟨own, isOwn, lost | ⟨isMember, informed⟩⟩
      · refine ⟨own, isOwn, .inl ?_⟩
        rcases List.mem_append.1 lost with inHand | later
        · exact absurd rfl (done joined _ inHand).1
        · exact later
      · refine ⟨own, isOwn, .inr ⟨isMember, ?_⟩⟩
        intro operation present
        rcases informed operation present with held | ⟨other, waits, isOther, about⟩
        · exact .inl held
        · rcases List.mem_append.1 waits with inHand | later
          · exact .inl ((done joined other inHand).2 operation about)
          · exact .inr ⟨other, later, isOther, about⟩ }

/-- The session takes up what the room has. -/
theorem Sound.apply {payload : Update} {updated : Replica}
    (sound : Sound url ⟨history, relay, hand, ⟨replica, outbox, connection⟩⟩)
    (tells : payload.Tells (relay.logAt url)) (applied : replica.apply payload = .ok updated) :
    Sound url ⟨history, relay, hand, ⟨updated, outbox, connection⟩⟩ ∧ updated.id = replica.id ∧
      ∀ operation ∈ payload.carried, updated.Holds operation := by
  have learns := sound.active.toSound.apply sound.lawful sound.active.settled
    (tells.isFrom sound.known) applied
  have active := sound.active.apply sound.lawful (tells.isFrom sound.known) applied
  have held : ∀ operation, updated.Holds operation →
      operation ∈ replica.log ∨ operation ∈ relay.logAt url := by
    intro operation holds
    rcases (learns.holds_iff operation).1 holds with (inLog | waits) | carried
    · exact .inl inLog
    · exact .inr (sound.waiting operation waits)
    · exact .inr (tells.subset carried)
  refine ⟨?_, learns.id_eq, fun operation carried => (learns.holds_iff operation).2 (.inr carried)⟩
  exact
    { sound with
      active := active
      linked := by
        intro joined
        rcases sound.linked joined with ⟨own, isOwn, lost | ⟨isMember, informed⟩⟩
        · exact ⟨own, isOwn, .inl lost⟩
        · refine ⟨own, isOwn, .inr ⟨isMember, ?_⟩⟩
          intro operation present
          rcases informed operation present with holds | told
          · exact .inl ((learns.holds_iff operation).2 (.inl holds))
          · exact .inr told
      waiting := by
        intro operation waits
        rcases held operation (.inr waits) with inLog | known
        · have covered := learns.sound.covers_of_mem (learns.log_subset inLog)
          simp [learns.sound.waiting_new operation waits] at covered
        · exact known
      sent := by
        intro idle operation inLog
        rcases held operation (.inl inLog) with old | known
        · exact sound.sent idle old
        · exact known }

end Scene

end Cowrite
