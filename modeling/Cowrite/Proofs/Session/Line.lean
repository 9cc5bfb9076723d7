import Cowrite.Proofs.Session.Moves
import Cowrite.Proofs.Session.Tending

/-!
# The line of a session to its room

What a session does with its connection: it takes the next event, connects under a new name
(`Sound.connect`), asks for the state of its room (`Sound.request`), and notices that the
connection is lost (`Sound.lose`). None of this needs the document; it does need that an attempt to
connect is planned only while there is no client, as two clients of one session would be passed
everything twice.
-/

namespace Cowrite

namespace Scene

variable {url : String} {history : History} {relay : Relay} {hand : List (Envelope Update)}
  {replica : Replica} {outbox : Outbox} {connection : Connection}

/-! ## Taking an event -/

/-- An event that is taken out of the mailbox is about the present client. -/
theorem Sound.nextEvent
    (sound : Sound url ⟨history, relay, [], ⟨replica, outbox, connection⟩⟩) (agenda : Agenda) :
    ∃ next after,
      (⟨connection, agenda, relay⟩ : Line Relay).nextEvent = (next, ⟨connection, agenda, after⟩) ∧
        (∀ envelope, next = some envelope → connection.client = some envelope.client) ∧
        Moves url ⟨history, relay, [], ⟨replica, outbox, connection⟩⟩
          ⟨history, after, next.toList, ⟨replica, outbox, connection⟩⟩ := by
  rcases (⟨connection, agenda, relay⟩ : Line Relay).exists_nextEvent with
    ⟨stale, rest, count, inbox, foreign, own, taken, left⟩
  have inbox : relay.mail.inbox connection.mailbox = stale ++ rest := inbox
  have left : (Transport.discard relay connection.mailbox count).mail.inbox connection.mailbox =
      rest.tail := by
    rw [← left, ← inbox]
    exact (relay.mail.inbox_discard connection.mailbox connection.mailbox count).trans (if_pos rfl)
  refine ⟨_, _, taken, own, .of_relay ?_ rfl (Nat.le_refl _) (fun _ => .inl) ?_⟩
  · have whole : rest.head?.toList ++ rest.tail = rest := by
      cases rest <;> rfl
    refine sound.withQueue rfl rfl ?_ ?_ ?_
    · have isOpen : relay.IsOpen connection.mailbox := sound.isOpen
      simpa [Relay.IsOpen, Transport.discard] using isOpen
    · rw [left, whole, inbox]
      exact List.subset_append_right _ _
    · rw [left, whole, inbox, List.nil_append]
      intro envelope present isOwn
      rcases List.mem_append.1 present with passed | kept
      · exact absurd isOwn (foreign envelope passed)
      · exact kept
  · intro room client address bystander
    exact Relay.elsewhere_discard relay bystander.apart count

/-! ## Connecting -/

/-- What a session sees when it has entered its room. -/
theorem Sound.entered
    (sound : Sound url ⟨history, relay, [], ⟨replica, outbox, connection⟩⟩) {own : ClientId}
    {state : ConnectionState} {named after : Relay} (rooms : named.rooms = relay.rooms)
    (mail : named.mail = relay.mail) (minted : relay.minted ≤ named.minted)
    (isNew : ¬relay.HasMinted own) (isNamed : named.HasMinted own)
    (unjoined : state.isJoined = false) (standing : state ≠ .failed)
    (connected : named.connect own connection.target connection.mailbox = (.ok (), after)) :
    Sound url ⟨history, after, [], ⟨replica, outbox,
      { connection with client := some own, state }⟩⟩ := by
  have lawful : named.Lawful history := sound.relay.of_rooms_eq rooms minted
  rcases Relay.connect_eq_ok connected with ⟨entering, target, isAfter⟩
  have isUrl : entering = url := by
    have := target.symm.trans sound.target
    simpa using this
  subst isUrl
  have putRooms : after.rooms =
      (named.putRoom (named.entered entering own connection.mailbox)).rooms := by
    rw [isAfter]
    rfl
  have putMinted : after.minted = named.minted := by
    rw [isAfter]
    exact Relay.minted_putRoom _ _
  have log : after.logAt entering = relay.logAt entering := by
    rw [Relay.logAt_of_rooms_eq putRooms, Relay.logAt_putRoom_entered,
      Relay.logAt_of_rooms_eq rooms]
  have putOpen : (named.putRoom (named.entered entering own connection.mailbox)).IsOpen
      connection.mailbox := by
    rw [Relay.IsOpen, Relay.mail_putRoom, mail]
    exact sound.isOpen
  have isOpen : after.IsOpen connection.mailbox := by
    rw [isAfter]
    exact (Relay.isOpen_deliverAll_iff [(own, connection.mailbox)] .connected _ _).2 putOpen
  have inbox : after.mail.inbox connection.mailbox =
      relay.mail.inbox connection.mailbox ++ [⟨own, .connected⟩] := by
    rw [isAfter, Relay.inbox_deliver, if_pos ⟨rfl, putOpen⟩, Relay.mail_putRoom, mail]
  have about : ∀ envelope ∈ after.mail.inbox connection.mailbox, some own = some envelope.client →
      envelope.event = .connected := by
    intro envelope present isOwn
    rw [inbox] at present
    rcases List.mem_append.1 present with old | new
    · have known := sound.named envelope old
      rw [← Option.some.inj isOwn] at known
      exact absurd known isNew
    · rw [List.mem_singleton.1 new]
  refine
    { lawful := sound.lawful
      relay := (Relay.lawful_entered lawful isNamed connection.mailbox).of_rooms_eq putRooms ?_
      active := sound.active
      target := sound.target
      staying := sound.staying
      standing := standing
      isOpen := isOpen
      minted := ?_
      alone := ?_
      named := ?_
      events := ?_
      answered := ?_
      linked := fun joined => absurd (unjoined.symm.trans joined) (by decide)
      waiting := ?_
      sent := ?_
      trusts := ?_ }
  · exact Nat.le_of_eq ((Relay.minted_putRoom _ _).trans putMinted.symm)
  · intro client isOwn
    rw [← Option.some.inj isOwn]
    exact isNamed.mono (Nat.le_of_eq putMinted.symm)
  · intro client isOwn other place isMember
    rw [← Option.some.inj isOwn] at isMember
    have put := (Relay.isMember_of_rooms_eq putRooms).1 isMember
    rcases (Relay.isMember_putRoom_entered lawful).1 put with ⟨_, old⟩ | ⟨_, isUrl, isPlace⟩
    · have known := (Relay.isMember_of_rooms_eq rooms).1 old
      exact absurd (sound.relay.named _ _ _ known) isNew
    · exact ⟨isUrl, isPlace⟩
  · intro envelope present
    have waits : envelope ∈ after.mail.inbox connection.mailbox := present
    rw [inbox] at waits
    rcases List.mem_append.1 waits with old | new
    · exact (sound.named envelope old).mono (Nat.le_trans minted (Nat.le_of_eq putMinted.symm))
    · rw [List.mem_singleton.1 new]
      exact isNamed.mono (Nat.le_of_eq putMinted.symm)
  · intro envelope present isOwn
    rw [about envelope present isOwn]
    trivial
  · intro envelope present isOwn payload answer
    rw [about envelope present isOwn] at answer
    cases answer
  · intro operation waits
    exact log ▸ sound.waiting operation waits
  · intro idle
    exact log ▸ sound.sent idle
  · exact log ▸ sound.trusts

/-- To connect is to enter the room under a new name, or else to do nothing. -/
theorem Sound.connect
    (sound : Sound url ⟨history, relay, [], ⟨replica, outbox, connection⟩⟩)
    (agenda : Agenda) (now : Nat) :
    (∃ error after, (⟨connection, agenda, relay⟩ : Line Relay).connect now =
        (.error error, ⟨connection, agenda, after⟩) ∧
      Moves url ⟨history, relay, [], ⟨replica, outbox, connection⟩⟩
        ⟨history, after, [], ⟨replica, outbox, connection⟩⟩) ∨
    ∃ own state after, (⟨connection, agenda, relay⟩ : Line Relay).connect now =
        (.ok (), ⟨{ connection with client := some own, state },
          agenda.once .connectTimeout connection.timeout now, after⟩) ∧
      Moves url ⟨history, relay, [], ⟨replica, outbox, connection⟩⟩
        ⟨history, after, [], ⟨replica, outbox,
          { connection with client := some own, state }⟩⟩ := by
  have minted : relay.minted ≤ relay.mintClient.2.minted := Nat.le_succ _
  have isNew := relay.not_hasMinted_mintClient
  have lawful : relay.mintClient.2.Lawful history := sound.relay.of_rooms_eq rfl minted
  have mints : ∀ room client address, Relay.Elsewhere room client address relay
      relay.mintClient.2 := fun _ _ _ => Relay.elsewhere_mintClient relay
  cases result : relay.mintClient.2.connect relay.mintClient.1 connection.target
    connection.mailbox with
  | mk outcome after =>
      cases outcome with
      | error error =>
          left
          refine ⟨error, after, ?_, ?_⟩
          · simp [Line.connect, Transport.mintClient, Transport.connect, result]
          · rw [Relay.connect_eq_error result]
            exact .of_relay (sound.elsewhere lawful (mints _ _ _)) rfl minted (fun _ => .inl)
              fun room client address _ => mints room client address
      | ok done =>
          right
          refine ⟨relay.mintClient.1,
            if connection.state.isReconnecting then connection.state else .connecting, after,
            ?_, .of_relay ?_ rfl ?_ ?_ ?_⟩
          · simp [Line.connect, Transport.mintClient, Transport.connect, result]
          · have rooms : relay.mintClient.2.rooms = relay.rooms := rfl
            have mail : relay.mintClient.2.mail = relay.mail := rfl
            refine sound.entered rooms mail minted isNew relay.hasMinted_mintClient ?_ ?_ result
            · cases connection.state <;> rfl
            · cases connection.state <;> simp [ConnectionState.isReconnecting]
          · rcases Relay.connect_eq_ok result with ⟨entering, _, rfl⟩
            exact Nat.le_trans minted (Nat.le_of_eq (Relay.minted_putRoom _ _).symm)
          · intro own isOwn
            rw [← Option.some.inj isOwn]
            exact .inr isNew
          · intro room client address bystander
            refine (mints room client address).trans
              (Relay.elsewhere_connect lawful ?_ bystander.apart result)
            rintro rfl
            exact isNew (bystander.minted _ rfl)

/-! ## Asking for the state -/

/-- A connection that is confirmed has not been answered yet. -/
theorem Sound.confirmed
    (sound : Sound url ⟨history, relay, hand, ⟨replica, outbox, connection⟩⟩)
    (unconfirmed : connection.state.isJoined = false) (attempts : Nat) :
    Sound url ⟨history, relay, hand, ⟨replica, outbox,
      { connection with state := .connected, attempts }⟩⟩ :=
  { sound with
    standing := by simp [Scene.connection]
    answered := by
      intro envelope present isOwn payload answer
      have joined := sound.answered envelope present isOwn payload answer
      exact absurd (unconfirmed.symm.trans joined) (by decide)
    linked := by
      intro joined
      exact absurd joined (by simp [Scene.connection, ConnectionState.isJoined]) }

/-- Once the state of the room has been given, whatever the room takes up is passed on. -/
theorem Sound.synced
    (sound : Sound url ⟨history, relay, hand, ⟨replica, outbox, connection⟩⟩)
    (joined : connection.state.isJoined = true) :
    Sound url ⟨history, relay, hand, ⟨replica, outbox,
      { connection with state := .synced }⟩⟩ :=
  { sound with
    standing := by simp [Scene.connection]
    answered := fun _ _ _ _ _ => rfl
    linked := fun _ => sound.linked joined }

/-- The answer to a request is all that the room has. -/
theorem Sound.request
    (sound : Sound url ⟨history, relay, hand, ⟨replica, outbox, connection⟩⟩) {own : ClientId}
    (isOwn : connection.client = some own) {after : Relay}
    (sent : relay.send own .syncRequest = (.ok (), after)) :
    Moves url ⟨history, relay, hand, ⟨replica, outbox, connection⟩⟩
      ⟨history, after, hand, ⟨replica, outbox, { connection with state := .syncing }⟩⟩ := by
  rcases Relay.send_syncRequest sound.relay sent with
    ⟨room, present, ⟨address, isMember⟩, asking, asks, nonempty, isAfter⟩
  have room_url : room.url = url := (sound.alone own isOwn _ _ isMember).1
  have rooms : after.rooms = relay.rooms := by
    rw [isAfter, Relay.rooms_deliverAll]
  have minted : after.minted = relay.minted := by
    rw [isAfter, Relay.minted_deliverAll]
  have log : after.logAt url = room.replica.log := by
    rw [Relay.logAt_of_rooms_eq rooms, ← room_url, sound.relay.logAt_eq present]
  have isOpen : after.IsOpen connection.mailbox := by
    rw [isAfter]
    exact (Relay.isOpen_deliverAll_iff _ _ _ _).2 sound.isOpen
  have place : ∀ member ∈ asking, member = (own, connection.mailbox) := by
    intro member isAsking
    rcases asks member isAsking with ⟨isClient, inRoom⟩
    have inUrl : relay.IsMember room.url own member.2 := ⟨room, present, rfl, isClient ▸ inRoom⟩
    exact Prod.ext isClient (sound.alone own isOwn _ _ inUrl).2
  have answers : (own, connection.mailbox) ∈ asking := by
    rcases List.exists_mem_of_ne_nil asking nonempty with ⟨member, isAsking⟩
    rwa [← place member isAsking]
  rcases Relay.exists_inbox_deliverAll asking (.syncResponse room.replica.fullState) relay
    connection.mailbox with ⟨new, inbox, about, delivered⟩
  rw [← isAfter] at inbox
  have tells := (sound.relay.sound room present).tells_fullState
  have cases_queue : ∀ envelope ∈ hand ++ after.mail.inbox connection.mailbox,
      envelope ∈ hand ++ relay.mail.inbox connection.mailbox ∨ envelope ∈ new := by
    intro envelope waits
    rw [inbox, ← List.append_assoc] at waits
    exact List.mem_append.1 waits
  refine .of_relay ?_ rfl (Nat.le_of_eq minted.symm) (fun _ => .inl) ?_
  · refine
      { lawful := sound.lawful
        relay := sound.relay.of_rooms_eq rooms (Nat.le_of_eq minted.symm)
        active := sound.active
        target := sound.target
        staying := sound.staying
        standing := by simp [Scene.connection]
        isOpen := isOpen
        minted := fun client isClient =>
          (sound.minted client isClient).mono (Nat.le_of_eq minted.symm)
        alone := fun client isClient other entered isMember =>
          sound.alone client isClient other entered ((Relay.isMember_of_rooms_eq rooms).1 isMember)
        named := ?_
        events := ?_
        answered := fun _ _ _ _ _ => rfl
        linked := ?_
        waiting := ?_
        sent := ?_
        trusts := ?_ }
    · intro envelope waits
      rcases cases_queue envelope waits with old | isNew
      · exact (sound.named envelope old).mono (Nat.le_of_eq minted.symm)
      · have isClient : envelope.client = own := (asks _ (about envelope isNew).2).1
        rw [isClient]
        exact (sound.minted own isOwn).mono (Nat.le_of_eq minted.symm)
    · intro envelope waits isClient
      show envelope.event.ComesFrom (after.logAt url)
      rcases cases_queue envelope waits with old | isNew
      · rw [Relay.logAt_of_rooms_eq rooms]
        exact sound.events envelope old isClient
      · rw [(about envelope isNew).1, log]
        exact tells
    · intro _
      have inUrl : relay.IsMember url own connection.mailbox := by
        rw [← room_url]
        exact ⟨room, present, rfl, (asks _ answers).2⟩
      refine ⟨own, isOwn, .inr ⟨(Relay.isMember_of_rooms_eq rooms).2 inUrl, ?_⟩⟩
      intro operation taken
      refine .inr ⟨⟨own, .syncResponse room.replica.fullState⟩, ?_, rfl, ?_⟩
      · refine List.mem_append_right _ ?_
        show _ ∈ after.mail.inbox connection.mailbox
        rw [inbox]
        exact List.mem_append_right _ (delivered own sound.isOpen answers)
      · apply (sound.relay.sound room present).mem_carried_fullState
        rwa [← log]
    · intro operation waits
      show operation ∈ after.logAt url
      rw [Relay.logAt_of_rooms_eq rooms]
      exact sound.waiting operation waits
    · intro idle
      show replica.log ⊆ after.logAt url
      rw [Relay.logAt_of_rooms_eq rooms]
      exact sound.sent idle
    · show outbox.Trusts (after.logAt url)
      rw [Relay.logAt_of_rooms_eq rooms]
      exact sound.trusts
  · intro room client address bystander
    refine Relay.elsewhere_syncRequest sound.relay ?_ sent
    intro isClient
    exact bystander.other own isClient isOwn

/-! ## Losing the connection -/

theorem lawful_hangUp {line : Line Relay} (lawful : line.network.Lawful history) :
    line.hangUp.network.Lawful history := by
  rw [Line.hangUp]
  split
  · exact lawful
  · exact Relay.lawful_disconnect lawful _

theorem elsewhere_hangUp {line : Line Relay} {room : String} {client : Option ClientId}
    {address : Address} (bystander : line.network.Bystander line.connection room client address) :
    Relay.Elsewhere room client address line.network line.hangUp.network := by
  rw [Line.hangUp]
  cases isOwn : line.connection.client with
  | none => exact .refl _ _ _ _
  | some own =>
      refine Relay.elsewhere_disconnect line.network ?_
      intro isClient
      exact bystander.other own isClient isOwn

/-- A session without a client is passed nothing and awaits nothing. -/
theorem Sound.hungUp
    (sound : Sound url ⟨history, relay, hand, ⟨replica, outbox, connection⟩⟩) {after : Relay}
    (lawful : after.Lawful history) (log : after.logAt url = relay.logAt url)
    (minted : after.minted = relay.minted) (mail : after.mail = relay.mail)
    {state : ConnectionState} (unjoined : state.isJoined = false) (standing : state ≠ .failed)
    (attempts : Nat) :
    Sound url ⟨history, after, [], ⟨replica, outbox,
      { connection with client := none, state, attempts }⟩⟩ :=
  { lawful := sound.lawful
    relay := lawful
    active := sound.active
    target := sound.target
    staying := sound.staying
    standing := standing
    isOpen := by
      show after.IsOpen connection.mailbox
      rw [Relay.IsOpen, mail]
      exact sound.isOpen
    minted := by
      intro own isOwn
      cases isOwn
    alone := by
      intro own isOwn
      cases isOwn
    named := by
      intro envelope present
      have waits : envelope ∈ relay.mail.inbox connection.mailbox := mail ▸ present
      exact (sound.named envelope (List.mem_append_right _ waits)).mono (Nat.le_of_eq minted.symm)
    events := by
      intro envelope _ isOwn
      cases isOwn
    answered := by
      intro envelope _ isOwn
      cases isOwn
    linked := fun joined => absurd (unjoined.symm.trans joined) (by decide)
    waiting := fun operation waits => log ▸ sound.waiting operation waits
    sent := fun idle => log ▸ sound.sent idle
    trusts := log ▸ sound.trusts }

/-- A lost connection is given up and made anew later, unless that is planned already or all
attempts have failed. -/
theorem Sound.lose
    (sound : Sound url ⟨history, relay, hand, ⟨replica, outbox, connection⟩⟩) (agenda : Agenda)
    (now : Nat) :
    (agenda.has .reconnect = true ∧ (⟨connection, agenda, relay⟩ : Line Relay).lose now =
        (.ignored, ⟨connection, agenda, relay⟩)) ∨
    (∃ attempt delay after, (⟨connection, agenda, relay⟩ : Line Relay).lose now =
        (.scheduled attempt delay,
          ⟨{ connection with client := none, attempts := attempt, state := .reconnecting attempt },
            (agenda.cancel .connectTimeout).once .reconnect delay now, after⟩) ∧
      Moves url ⟨history, relay, hand, ⟨replica, outbox, connection⟩⟩
        ⟨history, after, [], ⟨replica, outbox,
          { connection with
            client := none
            attempts := attempt
            state := .reconnecting attempt }⟩⟩) ∨
    ∃ attempts line, (⟨connection, agenda, relay⟩ : Line Relay).lose now =
        (.exhausted attempts, line) ∧ line.connection.client = none ∧
      line.connection.mailbox = connection.mailbox ∧
      Ends ⟨history, relay, hand, ⟨replica, outbox, connection⟩⟩ history line.network := by
  let quiet : Line Relay := ⟨connection, agenda.cancel .connectTimeout, relay⟩
  have lawful : quiet.hangUp.network.Lawful history := lawful_hangUp sound.relay
  have log : quiet.hangUp.network.logAt url = relay.logAt url := by
    rw [Line.hangUp]
    split
    · rfl
    · exact Relay.logAt_disconnect _ _ _
  have minted : quiet.hangUp.network.minted = relay.minted := by
    rw [Line.hangUp]
    split <;> rfl
  have mail : quiet.hangUp.network.mail = relay.mail := by
    rw [Line.hangUp]
    split <;> rfl
  have hung : quiet.hangUp.connection = { connection with client := none } := by
    rw [Line.hangUp]
    cases none : quiet.connection.client with
    | none =>
        simp only
        rw [← none]
    | some _ => rfl
  have kept : quiet.hangUp.agenda = agenda.cancel .connectTimeout := by
    rw [Line.hangUp]
    split <;> rfl
  have elsewhere : ∀ room client address, relay.Bystander connection room client address →
      Relay.Elsewhere room client address relay quiet.hangUp.network :=
    fun room client address bystander => @elsewhere_hangUp quiet room client address bystander
  have staying : connection.leaving = false := sound.staying
  have standing : connection.state ≠ .failed := sound.standing
  by_cases planned : agenda.has .reconnect = true
  · left
    refine ⟨planned, ?_⟩
    simp [Line.lose, planned]
  · right
    have loses : (connection.leaving || agenda.has .reconnect || connection.state = .failed) =
        false := by
      simp [staying, planned, standing]
    by_cases many :
      Connection.nextAttempt connection.attempts > connection.backoff.maxAttempts
    · right
      refine ⟨connection.backoff.maxAttempts, ⟨{ connection with
          client := none
          attempts := Connection.nextAttempt connection.attempts
          state := .failed },
        quiet.hangUp.agenda, quiet.hangUp.network⟩, ?_, rfl, rfl, ?_⟩
      · simp [Line.lose, loses, many, quiet, hung]
      · exact ⟨sound.lawful, lawful, subset_rfl, fun _ present new => absurd present new,
          elsewhere⟩
    · left
      refine ⟨Connection.nextAttempt connection.attempts,
        connection.backoff.delay (Connection.nextAttempt connection.attempts),
        quiet.hangUp.network, ?_, .of_relay ?_ rfl (Nat.le_of_eq minted.symm) ?_ elsewhere⟩
      · simp [Line.lose, loses, many, quiet, hung, kept]
      · exact sound.hungUp lawful log minted mail rfl (by simp) _
      · intro own isOwn
        cases isOwn

end Scene

end Cowrite
