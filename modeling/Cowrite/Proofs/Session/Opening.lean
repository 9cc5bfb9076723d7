import Cowrite.Proofs.Session.Polling

/-!
# How a session begins at a relay

A session begins at a desk where there is none, with a replica and a mailbox of its own. What its
replica holds then it wrote itself, so a session that is about to begin (`Opening`) is sound before
it connects, and its first attempt to connect is a move like any other (`Opening.follows_start`).
-/

namespace Cowrite

open Scene

namespace Desk

/-- Somebody with a mailbox at a relay. -/
structure Lodger (relay : Relay) (room : String) (client : Option ClientId) (address : Address) :
    Prop where
  isOpen : relay.IsOpen address
  minted : ∀ own, client = some own → relay.HasMinted own
  alone : ∀ own, client = some own → ∀ other place, relay.IsMember other own place → other = room

/-- A session that is about to begin at a desk, which is not connected yet. -/
structure Opening (url : String) (history larger : History) (desk : Desk Relay) (id : ReplicaId)
    (opened : Desk Relay) (session : Session) : Prop where
  attending : (opened.withSession session).Attending url larger [] session
  idle : opened.agenda = {}
  subset : history ⊆ larger
  own : ∀ operation ∈ larger, operation ∉ history → operation.id.replica = id
  id_eq : session.replica.id = id
  client : session.connection.client = none
  fresh : ¬desk.network.IsOpen session.connection.mailbox
  minted_eq : opened.network.minted = desk.network.minted
  elsewhere : ∀ room client address, Lodger desk.network room client address →
    Relay.Elsewhere room client address desk.network opened.network

variable {url : String} {history larger : History} {desk opened : Desk Relay} {id : ReplicaId}
  {session : Session}

/-! ## Preparing -/

/-- The document of a host is its own work, and pending unless it is empty. -/
theorem exists_seed (lawful : history.Lawful)
    (unused : ∀ operation ∈ history, operation.id.replica ≠ id) (buffer : Buffer)
    (window : Nat) :
    ∃ larger replica outbox, seed id buffer { window } = (replica, outbox) ∧
      Replica.Writes history { id } larger replica ∧
      (outbox.pending = false → replica.log = []) ∧ outbox.lastSent = none := by
  rw [seed]
  have active := Replica.active_new unused
  by_cases blank : Text.terminated buffer.content = ['\n']
  · simp only [blank, if_true]
    exact ⟨history, _, _, rfl, .refl lawful active, fun _ => rfl, rfl⟩
  · simp only [blank, if_false]
    rcases Replica.Active.setText lawful active (Text.terminated buffer.content) with
      ⟨larger, writes, _⟩
    exact ⟨larger, _, _, rfl, writes, fun idle => absurd idle (by simp [Outbox.markPending]), rfl⟩

/-- A session with a replica of its own can begin at a desk without one. -/
theorem exists_prepare {replica : Replica} {outbox : Outbox} (relay : desk.network.Lawful history)
    (empty : desk.agenda = {}) (writes : Replica.Writes history { id } larger replica)
    (sent : outbox.pending = false → replica.log = []) (unsent : outbox.lastSent = none)
    (url : String) (role : Role) (key : Option SessionKey) (invitation : Option Invitation)
    (now : Nat) :
    ∃ session opened,
      desk.prepare role (.relay url) key invitation replica outbox now = (session, opened) ∧
      opened.session = desk.session ∧ Opening url history larger desk id opened session := by
  have address := desk.network.mail.isOpen_openBox_fst
  have isOpen : (Transport.openBox desk.network).2.IsOpen (Transport.openBox desk.network).1 := by
    show ((desk.network.mail.openBox.2.box desk.network.mail.openBox.1).isOpen) = true
    rw [PostOffice.box_openBox, if_pos rfl]
  have inbox : (Transport.openBox desk.network).2.mail.inbox
      (Transport.openBox desk.network).1 = [] := by
    show (desk.network.mail.openBox.2.box desk.network.mail.openBox.1).queue = []
    rw [PostOffice.box_openBox, if_pos rfl]
  have waiting : replica.waiting = [] := writes.waiting_eq
  refine ⟨_, _, rfl, rfl, ?_⟩
  refine
    { attending := ⟨rfl, ?_, rfl, empty ▸ Agenda.suits_empty _⟩
      idle := empty
      subset := writes.subset
      own := writes.own
      id_eq := writes.id_eq
      client := rfl
      fresh := ?_
      minted_eq := rfl
      elsewhere := fun room client address lodger =>
        Relay.elsewhere_openBox desk.network lodger.isOpen }
  · exact
      { lawful := writes.lawful
        relay := (relay.mono writes.subset).of_rooms_eq rfl (Nat.le_refl _)
        active := writes.active
        target := rfl
        staying := rfl
        standing := by simp [Scene.connection, Session.attendance]
        isOpen := isOpen
        minted := fun own isOwn => by cases isOwn
        alone := fun own isOwn => by cases isOwn
        named := fun envelope waits => by
          rw [Scene.queue, List.nil_append] at waits
          exact absurd (inbox ▸ waits) (List.not_mem_nil)
        events := fun envelope _ isOwn => by cases isOwn
        answered := fun envelope _ isOwn => by cases isOwn
        linked := fun joined => by cases joined
        waiting := fun operation waits => by
          have present : operation ∈ replica.waiting := waits
          rw [waiting] at present
          cases present
        sent := fun idle operation inLog => by
          have present : operation ∈ replica.log := inLog
          rw [sent idle] at present
          cases present
        trusts := fun token held => by
          have noted : outbox.lastSent = some token := held
          rw [unsent] at noted
          cases noted }
  · intro opened
    have closed : desk.network.IsOpen desk.network.mail.openBox.1 := opened
    rw [Relay.IsOpen, address] at closed
    cases closed

/-! ## Starting -/

/-- The periodic tasks of a session are no attempts to reconnect. -/
theorem suits_periodic {settings : Settings} {clock : Clock} {agenda planned : Agenda}
    {connection : Connection}
    (suits : agenda.Suits connection) {now : Nat}
    (plans : periodic settings clock agenda now = .ok planned) : planned.Suits connection := by
  rcases exists_of_periodic plans with ⟨interval, _, rfl⟩
  have flushing : (agenda.every .flush settings.flushInterval now).Suits connection :=
    suits.put (by simp)
  exact flushing.put (by simp)

/-- A session that is about to begin connects, or it ends at once. -/
theorem Opening.follows_start (opening : Opening url history larger desk id opened session)
    (now : Nat) :
    (opened.start session now).2.Follows url
      ⟨larger, opened.network, [], session.attendance⟩ := by
  have attending := opening.attending
  have sound : Sound url ⟨larger, opened.network, [],
    ⟨session.replica, session.outbox, session.connection⟩⟩ := attending.sound
  have line : opened.line session = ⟨session.connection, opened.agenda, opened.network⟩ := rfl
  rw [Desk.start, line]
  rcases sound.connect opened.agenda now with
    ⟨error, after, connects, moves⟩ | ⟨own, state, after, connects, moves⟩
  · rw [connects]
    have there : ({ opened.withSession session with network := after } : Desk Relay).Attending url
        larger [] session := ⟨rfl, moves.sound, attending.mode, attending.agenda⟩
    exact Follows.of_moves moves there.vanish
  · rw [connects]
    let dialing : Session := { session with
      connection := { session.connection with client := some own, state } }
    have unplanned : opened.agenda.has .reconnect = false := by
      rw [opening.idle]
      rfl
    have suits : (opened.agenda.once .connectTimeout session.connection.timeout now).Suits
        dialing.connection :=
      (attending.agenda.planned (by simp) _ _).of_not_has (by
        rw [Agenda.once, Agenda.has_put]
        exact unplanned) _
    have there : (opened.withLine session ⟨dialing.connection,
        opened.agenda.once .connectTimeout session.connection.timeout now, after⟩).Attending url
        larger [] dialing := ⟨rfl, moves.sound, attending.mode, suits⟩
    refine Follows.of_moves moves ?_
    cases plans : periodic opened.settings opened.clock
        (opened.agenda.once .connectTimeout session.connection.timeout now) now with
    | error error =>
        simp only [plans]
        exact there.tearDown
    | ok planned =>
        simp only [plans]
        exact .inl ⟨larger, dialing, ⟨rfl, moves.sound, attending.mode,
          suits_periodic suits plans⟩, .refl moves.sound⟩

/-- What comes of an attempt to begin a session: none begins, or one follows from its opening. -/
def Begins (history : History) (desk : Desk Relay) (id : ReplicaId) (after : Desk Relay) : Prop :=
  after = desk ∨ ∃ url larger opened session, Opening url history larger desk id opened session ∧
    after.Follows url ⟨larger, opened.network, [], session.attendance⟩

/-- A host at a relay connects to a room. -/
theorem exists_of_hostPlan {settings : Settings} {target : HostTarget} {draws : Draws}
    {connectTarget : ConnectTarget} {invitation : Option Invitation} {key : Option SessionKey}
    (mode : target.mode = .relay)
    (plan : hostPlan settings target draws = .ok (connectTarget, invitation, key)) :
    ∃ url, connectTarget = .relay url := by
  cases target with
  | peerToPeer => cases mode
  | relay server =>
      rw [hostPlan] at plan
      split at plan
      · cases plan
      · cases plan
        exact ⟨_, rfl⟩

theorem begins_host (lawful : history.Lawful) (relay : desk.network.Lawful history)
    (empty : desk.agenda = {}) {draws : Draws}
    (unused : ∀ operation ∈ history, operation.id.replica ≠ draws.replica) (target : HostTarget)
    (now : Nat) : Begins history desk draws.replica (desk.host target draws now).2 := by
  rw [Desk.host]
  split
  · exact .inl rfl
  · split
    case isTrue => exact .inl rfl
    case isFalse served =>
      have mode : target.mode = .relay := by
        by_contra other
        exact served fun same => other same.symm
      rcases plan : hostPlan desk.settings target draws with _ | ⟨connectTarget, invitation, key⟩
      · exact .inl rfl
      · rcases exists_of_hostPlan mode plan with ⟨url, rfl⟩
        rcases exists_seed lawful unused desk.buffer desk.settings.debounce with
          ⟨larger, replica, outbox, seeds, writes, sent, unsent⟩
        rcases exists_prepare relay empty writes sent unsent url .host key invitation now with
          ⟨session, opened, prepares, _, opening⟩
        have follows := opening.follows_start now
        refine .inr ⟨url, larger, opened, session, opening, ?_⟩
        rw [seeds]
        simp only [prepares]
        cases started : opened.start session now with
        | mk result after =>
            rw [started] at follows
            cases result with
            | error error => exact follows
            | ok done => exact follows.notify _

theorem begins_join (lawful : history.Lawful) (relay : desk.network.Lawful history)
    (empty : desk.agenda = {}) (unused : ∀ operation ∈ history, operation.id.replica ≠ id)
    (code : String) (now : Nat) : Begins history desk id (desk.join code id now).2 := by
  rw [Desk.join]
  split
  · exact .inl rfl
  · cases Invitation.decode code with
    | error error => exact .inl rfl
    | ok invitation =>
      simp only
      split
      case isTrue => exact .inl rfl
      case isFalse served =>
        have target : ∃ url, invitation.target = .relay url := by
          cases invitation with
          | relay server room key => exact ⟨_, rfl⟩
          | peer endpointId relayUrl =>
              exact absurd (fun same : (TransportMode.relay = .peerToPeer) => by cases same) served
        rcases target with ⟨url, isUrl⟩
        have writes := Replica.Writes.refl lawful (Replica.active_new unused)
        have sent : ({ window := desk.settings.debounce } : Outbox).pending = false →
            ({ id } : Replica).log = [] := fun _ => rfl
        rcases exists_prepare relay empty writes sent rfl url .joiner invitation.key?
          (some invitation) now with
          ⟨session, opened, prepares, _, opening⟩
        have follows := opening.follows_start now
        refine .inr ⟨url, history, opened, session, opening, ?_⟩
        rw [isUrl]
        simp only [prepares]
        cases started : opened.start session now with
        | mk result after =>
            rw [started] at follows
            cases result with
            | error error => exact follows
            | ok done => exact follows.notify _

end Desk

end Cowrite
