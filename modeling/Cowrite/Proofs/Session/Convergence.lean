import Cowrite.Proofs.Session.Gathering

/-!
# Convergence

In every gathering that can come about, a session that is synced, has nothing pending and has taken
all events about its present client out of its mailbox has exactly what its room has: the invariant
says that it was told all that the room has (`Sound.linked`), and that the room has all that it
wrote (`Sound.sent`). Nothing is asked of the order in which anything happened before.
-/

namespace Cowrite

open Scene

namespace Scene

variable {url : String} {history : History} {relay : Relay} {replica : Replica} {outbox : Outbox}
  {connection : Connection}

/-- A session that has dealt with everything has taken up all that its room has. -/
theorem Sound.logAt_subset
    (sound : Sound url ⟨history, relay, [], ⟨replica, outbox, connection⟩⟩)
    (joined : connection.state.isJoined = true)
    (drained : ∀ envelope ∈ relay.mail.inbox connection.mailbox,
      connection.client ≠ some envelope.client) :
    (∃ room, relay.room? url = some room) ∧ relay.logAt url ⊆ replica.log := by
  rcases sound.linked joined with ⟨own, isOwn, lost | ⟨⟨room, present, isUrl, isMember⟩, informed⟩⟩
  · exact absurd isOwn (drained _ lost)
  have found : relay.room? url = some room := isUrl ▸ Relay.Lawful.room?_eq sound.relay present
  refine ⟨⟨room, found⟩, ?_⟩
  have log : relay.logAt url = room.replica.log := by
    rw [Relay.logAt, found]
    rfl
  have told : ∀ operation ∈ relay.logAt url, replica.Holds operation := by
    intro operation taken
    rcases informed operation taken with held | ⟨envelope, waits, isClient, _⟩
    · exact held
    · exact absurd (isClient ▸ isOwn) (drained envelope waits)
  have document : room.replica.Sound history := Relay.Lawful.sound sound.relay room present
  have active : replica.Active history := sound.active
  rw [log] at told ⊢
  exact active.toSound.mem_log_of_told sound.lawful active.settled document.known document.causal
    told

/-- A session that has dealt with everything, and has nothing left to send, agrees with its room. -/
theorem Sound.agrees
    (sound : Sound url ⟨history, relay, [], ⟨replica, outbox, connection⟩⟩)
    (joined : connection.state.isJoined = true) (idle : outbox.pending = false)
    (drained : ∀ envelope ∈ relay.mail.inbox connection.mailbox,
      connection.client ≠ some envelope.client) :
    ∃ room, relay.room? url = some room ∧ replica.version = room.replica.version ∧
      replica.text = room.replica.text := by
  rcases sound.logAt_subset joined drained with ⟨⟨room, found⟩, superset⟩
  have log : relay.logAt url = room.replica.log := by
    rw [Relay.logAt, found]
    rfl
  have document : room.replica.Sound history :=
    Relay.Lawful.sound sound.relay room (Relay.mem_of_room? found).1
  have active : replica.Active history := sound.active
  have version : replica.version = room.replica.version :=
    active.toSound.version_eq_of_log_subset document (log ▸ sound.sent idle) (log ▸ superset)
  exact ⟨room, found, version,
    active.toSound.text_eq_of_version_eq sound.lawful document version⟩

end Scene

namespace Gathering

variable {σ : Type} [DecidableEq σ] {gathering : Gathering σ}

/-- Whoever has dealt with everything has the document of the room. -/
theorem Reachable.converges (reachable : gathering.Reachable) {site : σ} {session : Session}
    (present : (gathering.stations site).participant.session = some session)
    (synced : session.connection.state = .synced) (idle : session.outbox.pending = false)
    (drained : ∀ envelope ∈ gathering.relay.mail.inbox session.connection.mailbox,
      session.connection.client ≠ some envelope.client) :
    ∃ url room, session.connection.target = .relay url ∧
      gathering.relay.room? url = some room ∧
      session.replica.version = room.replica.version ∧
      session.replica.text = room.replica.text := by
  rcases reachable.lawful with ⟨history, lawful⟩
  rcases (lawful.stands site).attending_of_present present with ⟨url, attending⟩
  have sound : Sound url ⟨history, gathering.relay, [],
    ⟨session.replica, session.outbox, session.connection⟩⟩ := attending.sound
  have joined : session.connection.state.isJoined = true := by
    rw [synced]
    rfl
  rcases sound.agrees joined idle drained with ⟨room, found, version, text⟩
  exact ⟨url, room, sound.target, found, version, text⟩

/-- One hosts, another one joins and types before the first state has arrived, and both poll. -/
def meeting : Gathering Bool :=
  let shared := Buffer.ofText "ab".toList
  let start : Gathering Bool := ⟨{}, fun _ => ⟨{}, shared⟩, []⟩
  let draws : Draws := ⟨1, 5, ⟨.replicate 32 0, rfl⟩⟩
  let hosted := (start.act false (.call (.host (.relay (some "wss://relay")) draws)) 0).act false
    (.call .poll) 60
  let code := "AAt3c3M6Ly9yZWxheRAwMDAwMDAwMDAwMDAwMDA1AA"
  let joined := hosted.act true (.call (.join code 2)) 100
  let typed := joined.act true (.edit (shared.insertText 0 0 "x".toList).2) 110
  (typed.act true (.call .poll) 120).act true (.call .poll) 300

theorem meeting_converges :
    ∃ session url room, (meeting.stations true).participant.session = some session ∧
      session.connection.target = .relay url ∧ meeting.relay.room? url = some room ∧
      session.replica.version = room.replica.version ∧
      session.replica.text = room.replica.text := by
  have reachable : meeting.Reachable := by
    refine .step (.step (.step (.step (.step (.step (.initial ⟨rfl, fun _ => ⟨rfl, rfl⟩⟩)
      (.act _ _ _ _ ?_)) (.act _ _ _ _ ?_)) (.act _ _ _ _ ?_)) (.act _ _ _ _ ?_))
      (.act _ _ _ _ ?_)) (.act _ _ _ _ ?_)
    all_goals rintro id ⟨⟩
    all_goals decide
  have settled : (meeting.stations true).participant.session.any fun session =>
      session.connection.state = .synced ∧ session.outbox.pending = false ∧
        meeting.relay.mail.inbox session.connection.mailbox = [] := by
    decide +kernel
  rcases (Option.any_eq_true _ _).1 settled with ⟨session, present, holds⟩
  rcases of_decide_eq_true holds with ⟨synced, idle, drained⟩
  rcases reachable.converges present synced idle (by simp [drained]) with
    ⟨url, room, agrees⟩
  exact ⟨session, url, room, present, agrees⟩

end Gathering

end Cowrite
