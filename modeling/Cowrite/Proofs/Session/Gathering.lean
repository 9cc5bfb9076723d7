import Cowrite.Proofs.Session.Opening

/-!
# Several participants at one relay

A gathering has any number of participants, each with a buffer of its own, at one relay. They act
one at a time, in any order and at any times, their buffers change in any way, and the relay goes
down and comes back (`Gathering.Step`). The only thing that is asked of chance is that no two
replicas ever get the same number.

In a lawful gathering (`Gathering.Lawful`) every session is sound, and different sessions have
different numbers, mailboxes and clients. Whatever one of them does, the others are bystanders, so
what is true of them stays true (`Lawful.act`), and every gathering that can come about is lawful
(`Reachable.lawful`).
-/

namespace Cowrite

open Scene

/-- A participant with a buffer. -/
structure Station where
  participant : Participant
  buffer : Buffer

/-- Participants, named by some type, who share a relay. -/
structure Gathering (σ : Type) where
  relay : Relay
  stations : σ → Station
  /-- The numbers that replicas have got. -/
  given : List ReplicaId

/-- Something that happens at a desk. -/
inductive Act where
  /-- The buffer changes: somebody types, or writes without any notification, or closes it. -/
  | edit (buffer : Buffer)
  | call (call : Call)

namespace Act

/-- The number that the act gives to a new replica. -/
def number? : Act → Option ReplicaId
  | .edit _ => none
  | .call asked => asked.number?

def perform (act : Act) (desk : Desk Relay) (now : Nat) : Desk Relay :=
  match act with
  | .edit buffer => { desk with buffer }
  | .call asked => asked.perform desk now

end Act

namespace Gathering

variable {σ : Type}

/-- The desk of somebody who acts now. -/
def desk (gathering : Gathering σ) (site : σ) : Desk Relay :=
  { toParticipant := (gathering.stations site).participant
    buffer := (gathering.stations site).buffer
    network := gathering.relay }

/-- What becomes of a gathering when somebody acts. -/
def act [DecidableEq σ] (gathering : Gathering σ) (site : σ) (act : Act) (now : Nat) :
    Gathering σ :=
  let desk := act.perform (gathering.desk site) now
  { relay := desk.network
    stations := fun other =>
      if other = site then ⟨desk.toParticipant, desk.buffer⟩ else gathering.stations other
    given := act.number?.toList ++ gathering.given }

/-- A gathering at a new relay, where nobody has a session. -/
def Initial (gathering : Gathering σ) : Prop :=
  gathering.relay = {} ∧ ∀ site, (gathering.desk site).session = none ∧
    (gathering.desk site).agenda = {}

/-- One step of a gathering: somebody acts, or the relay goes down or comes back. -/
inductive Step [DecidableEq σ] : Gathering σ → Gathering σ → Prop where
  | act (gathering : Gathering σ) (site : σ) (act : Act) (now : Nat)
      (fresh : ∀ id, act.number? = some id → id ∉ gathering.given) :
      Step gathering (gathering.act site act now)
  | setOnline (gathering : Gathering σ) (online : Bool) :
      Step gathering { gathering with relay := gathering.relay.setOnline online }

/-- The gatherings that can come about. -/
inductive Reachable [DecidableEq σ] : Gathering σ → Prop where
  | initial {gathering : Gathering σ} (initial : gathering.Initial) : Reachable gathering
  | step {before after : Gathering σ} (reachable : Reachable before) (step : Step before after) :
      Reachable after

end Gathering

/-! ## What an act comes to -/

/-- Two sessions that have nothing in common. -/
structure Session.Apart (left right : Session) : Prop where
  number : left.replica.id ≠ right.replica.id
  mailbox : left.connection.mailbox ≠ right.connection.mailbox
  client : ∀ own, left.connection.client = some own → right.connection.client ≠ some own

theorem Session.Apart.symm {left right : Session} (apart : left.Apart right) :
    right.Apart left :=
  ⟨apart.number.symm, apart.mailbox.symm, fun own isOwn isOther =>
    apart.client own isOther isOwn⟩

namespace Desk

variable {url : String} {history larger : History} {desk after : Desk Relay} {session : Session}
  {number : Option ReplicaId}

/-- A desk whose session, if there is one, goes on at its relay. -/
def Stands (history : History) (desk : Desk Relay) : Prop :=
  desk.session = none ∧ desk.agenda = {} ∨
    ∃ url session, desk.Attending url history [] session

/-- Whether a number is that of the session at a desk or of one that begins there. -/
def IsOwn (desk : Desk Relay) (number : Option ReplicaId) (id : ReplicaId) : Prop :=
  (∃ session, desk.session = some session ∧ session.replica.id = id) ∨ number = some id

/-- What an act at a desk comes to for everybody. -/
structure Yields (history larger : History) (desk after : Desk Relay)
    (number : Option ReplicaId) : Prop where
  lawful : larger.Lawful
  relay : after.network.Lawful larger
  subset : history ⊆ larger
  own : ∀ operation ∈ larger, operation ∉ history → desk.IsOwn number operation.id.replica
  stands : after.Stands larger
  number : ∀ later, after.session = some later → desk.IsOwn number later.replica.id
  mailbox : ∀ later, after.session = some later →
    (∃ session, desk.session = some session ∧
      later.connection.mailbox = session.connection.mailbox) ∨
    ¬desk.network.IsOpen later.connection.mailbox
  client : ∀ later, after.session = some later → ∀ own, later.connection.client = some own →
    (∃ session, desk.session = some session ∧ session.connection.client = some own) ∨
    ¬desk.network.HasMinted own
  elsewhere : ∀ room client address, Lodger desk.network room client address →
    (∀ session, desk.session = some session → address ≠ session.connection.mailbox ∧
      ∀ own, client = some own → session.connection.client ≠ some own) →
    Relay.Elsewhere room client address desk.network after.network

theorem yields_of_same (lawful : history.Lawful) (relay : desk.network.Lawful history)
    (stands : after.Stands history) (session : after.session = desk.session)
    (network : after.network = desk.network) : Yields history history desk after number := by
  refine ⟨lawful, network ▸ relay, subset_rfl, fun _ present new => absurd present new, stands,
    ?_, ?_, ?_, ?_⟩
  · intro later present
    exact .inl ⟨later, session ▸ present, rfl⟩
  · intro later present
    exact .inl ⟨later, session ▸ present, rfl⟩
  · intro later present own isOwn
    exact .inl ⟨later, session ▸ present, isOwn⟩
  · intro room client address _ _
    rw [network]
    exact .refl _ _ _ _

/-- A session that goes on or ends is followed by everybody. -/
theorem Attending.yields (attending : desk.Attending url history [] session)
    (follows : after.Follows url ⟨history, desk.network, [], session.attendance⟩) :
    ∃ larger, Yields history larger desk after number := by
  have bystander : ∀ room client address, Lodger desk.network room client address →
      (∀ session, desk.session = some session → address ≠ session.connection.mailbox ∧
        ∀ own, client = some own → session.connection.client ≠ some own) →
      desk.network.Bystander session.connection room client address := by
    intro room client address lodger differs
    rcases differs session attending.present with ⟨apart, other⟩
    exact ⟨apart, lodger.isOpen, other, lodger.minted, lodger.alone⟩
  rcases follows with ⟨larger, later, going, moves⟩ | ⟨ended, empty, larger, ends⟩
  · have only : ∀ last, after.session = some last → last = later := fun last present =>
      Option.some.inj (present.symm.trans going.present)
    refine ⟨larger, going.sound.lawful, going.sound.relay, moves.subset, ?_,
      .inr ⟨url, later, going⟩, ?_, ?_, ?_, ?_⟩
    · intro operation present new
      exact .inl ⟨session, attending.present, (moves.own operation present new).symm⟩
    · intro last present
      rw [only last present]
      exact .inl ⟨session, attending.present, moves.id_eq.symm⟩
    · intro last present
      rw [only last present]
      exact .inl ⟨session, attending.present, moves.mailbox_eq⟩
    · intro last present own isOwn
      rw [only last present] at isOwn
      rcases moves.names own isOwn with before | new
      · exact .inl ⟨session, attending.present, before⟩
      · exact .inr new
    · intro room client address lodger differs
      exact moves.elsewhere room client address (bystander room client address lodger differs)
  · have gone : ∀ last, after.session = some last → False := by
      intro last present
      cases ended.symm.trans present
    refine ⟨larger, ends.lawful, ends.relay, ends.subset, ?_, .inl ⟨ended, empty⟩,
      fun last present => (gone last present).elim, fun last present => (gone last present).elim,
      fun last present => (gone last present).elim, ?_⟩
    · intro operation present new
      exact .inl ⟨session, attending.present, (ends.own operation present new).symm⟩
    · intro room client address lodger differs
      exact ends.elsewhere room client address (bystander room client address lodger differs)

/-- A session that begins has nothing in common with what was there before. -/
theorem Begins.yields {id : ReplicaId} (begins : Begins history desk id after)
    (lawful : history.Lawful) (relay : desk.network.Lawful history)
    (ended : desk.session = none) (empty : desk.agenda = {}) :
    ∃ larger, Yields history larger desk after (some id) := by
  rcases begins with rfl | ⟨url, larger, opened, session, opening, follows⟩
  · exact ⟨history, yields_of_same lawful relay (.inl ⟨ended, empty⟩) rfl rfl⟩
  have attending : (opened.withSession session).Attending url larger [] session :=
    opening.attending
  rcases @Attending.yields url larger _ after session (some id) attending follows with
    ⟨final, yields⟩
  refine ⟨final, yields.lawful, yields.relay, opening.subset.trans yields.subset, ?_,
    yields.stands, ?_, ?_, ?_, ?_⟩
  · intro operation present new
    by_cases early : operation ∈ larger
    · exact .inr (congrArg some (opening.own operation early new).symm)
    · rcases yields.own operation present early with ⟨other, same, isId⟩ | isId
      · rw [← Option.some.inj same, opening.id_eq] at isId
        exact .inr (congrArg some isId)
      · exact .inr isId
  · intro later present
    rcases yields.number later present with ⟨other, same, isId⟩ | isId
    · rw [← Option.some.inj same, opening.id_eq] at isId
      exact .inr (congrArg some isId)
    · exact .inr isId
  · intro later present
    rcases yields.mailbox later present with ⟨other, same, isMailbox⟩ | new
    · rw [← Option.some.inj same] at isMailbox
      rw [isMailbox]
      exact .inr opening.fresh
    · refine .inr fun isOpen => new ?_
      exact (opening.elsewhere url none _ ⟨isOpen, nofun, nofun⟩).isOpen isOpen
  · intro later present own isOwn
    rcases yields.client later present own isOwn with ⟨other, same, isClient⟩ | new
    · rw [← Option.some.inj same, opening.client] at isClient
      cases isClient
    · exact .inr fun known => new (known.mono (Nat.le_of_eq opening.minted_eq.symm))
  · intro room client address lodger _
    have early := opening.elsewhere room client address lodger
    refine early.trans (yields.elsewhere room client address ?_ ?_)
    · exact ⟨early.isOpen lodger.isOpen,
        fun own isOwn => (lodger.minted own isOwn).mono early.minted_le,
        fun own isOwn other place isMember =>
          lodger.alone own isOwn other place (early.member own isOwn other place isMember)⟩
    · intro other same
      rw [← Option.some.inj same]
      refine ⟨?_, ?_⟩
      · intro isMailbox
        exact opening.fresh (isMailbox ▸ lodger.isOpen)
      · intro own _ isClient
        rw [opening.client] at isClient
        cases isClient

/-- A session goes on, or ends, in every call. -/
theorem Attending.yields_call (attending : desk.Attending url history [] session) (call : Call)
    (now : Nat) : ∃ larger, Yields history larger desk (call.perform desk now) number := by
  cases call with
  | takeNotices =>
      have there : ({ desk with toParticipant := desk.toParticipant.takeNotices.2 } :
          Desk Relay).Attending url history [] session :=
        ⟨attending.present, attending.sound, attending.mode, attending.agenda⟩
      exact attending.yields there.stays
  | host target draws =>
      rw [perform_of_present attending.present (by simp [Call.number?])]
      exact attending.yields attending.stays
  | join code replica =>
      rw [perform_of_present attending.present (by simp [Call.number?])]
      exact attending.yields attending.stays
  | bufferChanged => exact attending.yields (attending.bufferChanged now)
  | flushNow => exact attending.yields (attending.flushNow now)
  | poll => exact attending.yields (attending.poll now)
  | leave => exact attending.yields attending.leave
  | vanish => exact attending.yields attending.vanish

/-- Without a session, all that can happen is that one begins. -/
theorem exists_yields_of_ended (ended : desk.session = none) (empty : desk.agenda = {})
    (lawful : history.Lawful) (relay : desk.network.Lawful history) {call : Call}
    (unused : ∀ id, call.number? = some id → ∀ operation ∈ history, operation.id.replica ≠ id)
    (now : Nat) : ∃ larger, Yields history larger desk (call.perform desk now) call.number? := by
  cases number : call.number? with
  | none =>
      rcases perform_of_ended ended empty number now with ⟨none, still, network, _⟩
      exact ⟨history, yields_of_same lawful relay (.inl ⟨none, still⟩) (none.trans ended.symm)
        network⟩
  | some id =>
      cases call with
      | host target draws =>
          cases number
          exact (begins_host lawful relay empty (unused _ rfl) target now).yields lawful relay
            ended empty
      | join code replica =>
          cases number
          exact (begins_join lawful relay empty (unused _ rfl) code now).yields lawful relay
            ended empty
      | _ => cases number

theorem Stands.yields (stands : desk.Stands history) (lawful : history.Lawful)
    (relay : desk.network.Lawful history) {act : Act}
    (unused : ∀ id, act.number? = some id → ∀ operation ∈ history, operation.id.replica ≠ id)
    (now : Nat) : ∃ larger, Yields history larger desk (act.perform desk now) act.number? := by
  rcases stands with ⟨ended, empty⟩ | ⟨url, session, attending⟩
  · cases act with
    | edit buffer => exact ⟨history, yields_of_same lawful relay (.inl ⟨ended, empty⟩) rfl rfl⟩
    | call call => exact exists_yields_of_ended ended empty lawful relay unused now
  · cases act with
    | edit buffer =>
        have there : ({ desk with buffer } : Desk Relay).Attending url history [] session :=
          ⟨attending.present, attending.sound, attending.mode, attending.agenda⟩
        exact ⟨history, yields_of_same lawful relay (.inr ⟨url, session, there⟩) rfl rfl⟩
    | call call => exact attending.yields_call call now

/-! ## What an act is to a bystander -/

theorem Stands.attending_of_present (stands : desk.Stands history)
    (present : desk.session = some session) :
    ∃ url, desk.Attending url history [] session := by
  rcases stands with ⟨ended, _⟩ | ⟨url, other, attending⟩
  · cases ended.symm.trans present
  · cases attending.present.symm.trans present
    exact ⟨url, attending⟩

/-- A session goes on while something happens elsewhere. -/
theorem Attending.elsewhere {relay : Relay} (attending : desk.Attending url history [] session)
    (lawful : larger.Lawful) (subset : history ⊆ larger)
    (others : ∀ operation ∈ larger, operation ∉ history →
      operation.id.replica ≠ session.replica.id)
    (relayLawful : relay.Lawful larger)
    (elsewhere : Relay.Elsewhere url session.connection.client session.connection.mailbox
      desk.network relay) :
    ({ desk with network := relay } : Desk Relay).Attending url larger [] session := by
  have sound : Sound url ⟨history, desk.network, [],
    ⟨session.replica, session.outbox, session.connection⟩⟩ := attending.sound
  exact ⟨attending.present, (sound.mono lawful subset others).elsewhere relayLawful elsewhere,
    attending.mode, attending.agenda⟩

theorem Attending.lodger (attending : desk.Attending url history [] session) :
    Lodger desk.network url session.connection.client session.connection.mailbox :=
  ⟨attending.sound.isOpen, attending.sound.minted, fun own isOwn other place isMember =>
    (attending.sound.alone own isOwn other place isMember).1⟩

end Desk

namespace Gathering

variable {σ : Type} {gathering : Gathering σ} {history : History}

/-- A gathering in which all sessions are sound and have nothing in common. -/
structure Lawful (history : History) (gathering : Gathering σ) : Prop where
  lawful : history.Lawful
  relay : gathering.relay.Lawful history
  given : ∀ operation ∈ history, operation.id.replica ∈ gathering.given
  stands : ∀ site, (gathering.desk site).Stands history
  numbered : ∀ site session, (gathering.desk site).session = some session →
    session.replica.id ∈ gathering.given
  apart : ∀ site other, site ≠ other → ∀ left right,
    (gathering.desk site).session = some left → (gathering.desk other).session = some right →
      left.Apart right

/-- Only the numbers of sessions at hand, and new ones, are used. -/
theorem Lawful.mem_given_of_isOwn (lawful : gathering.Lawful history) {site : σ}
    {number : Option ReplicaId} {id : ReplicaId}
    (isOwn : (gathering.desk site).IsOwn number id) : id ∈ number.toList ++ gathering.given := by
  rcases isOwn with ⟨session, present, rfl⟩ | rfl
  · exact List.mem_append_right _ (lawful.numbered site session present)
  · simp

/-- Nobody else's number is used. -/
theorem Lawful.ne_of_isOwn (lawful : gathering.Lawful history) {site other : σ}
    (differ : site ≠ other) {session : Session}
    (present : (gathering.desk other).session = some session) {number : Option ReplicaId}
    (fresh : ∀ id, number = some id → id ∉ gathering.given) {id : ReplicaId}
    (isOwn : (gathering.desk site).IsOwn number id) : id ≠ session.replica.id := by
  rcases isOwn with ⟨own, here, rfl⟩ | isNew
  · exact (lawful.apart site other differ own session here present).number
  · rintro rfl
    exact fresh _ isNew (lawful.numbered other session present)

/-- Somebody acts, and all others are bystanders. -/
theorem Lawful.act [DecidableEq σ] (lawful : gathering.Lawful history) (site : σ) {act : Act}
    (fresh : ∀ id, act.number? = some id → id ∉ gathering.given) (now : Nat) :
    ∃ larger, (gathering.act site act now).Lawful larger := by
  have unused : ∀ id, act.number? = some id → ∀ operation ∈ history,
      operation.id.replica ≠ id := by
    rintro id isNew operation present rfl
    exact fresh _ isNew (lawful.given operation present)
  rcases (lawful.stands site).yields lawful.lawful lawful.relay unused now with ⟨larger, yields⟩
  have here : (gathering.act site act now).desk site = act.perform (gathering.desk site) now := by
    simp [Gathering.act, Gathering.desk]
  have there : ∀ other, other ≠ site → (gathering.act site act now).desk other =
      { gathering.desk other with network := (act.perform (gathering.desk site) now).network } := by
    intro other differ
    simp [Gathering.act, Gathering.desk, differ]
  have bystander : ∀ other, other ≠ site → ∀ url session,
      (gathering.desk other).Attending url history [] session →
        ((gathering.act site act now).desk other).Attending url larger [] session := by
    intro other differ url session attending
    rw [there other differ]
    refine attending.elsewhere yields.lawful yields.subset ?_ yields.relay
      (yields.elsewhere _ _ _ attending.lodger ?_)
    · intro operation present new
      have own := yields.own operation present new
      exact lawful.ne_of_isOwn differ.symm attending.present fresh own
    · intro own present
      have apart := lawful.apart other site differ session own attending.present present
      exact ⟨apart.mailbox, apart.client⟩
  have apart : ∀ other, other ≠ site → ∀ left right,
      (act.perform (gathering.desk site) now).session = some left →
        (gathering.desk other).session = some right → left.Apart right := by
    intro other differ left right isLeft isRight
    rcases (lawful.stands other).attending_of_present isRight with ⟨url, attending⟩
    refine ⟨lawful.ne_of_isOwn differ.symm isRight fresh (yields.number left isLeft), ?_, ?_⟩
    · rcases yields.mailbox left isLeft with ⟨own, present, same⟩ | new
      · rw [same]
        exact (lawful.apart site other differ.symm own right present isRight).mailbox
      · intro same
        exact new (same ▸ attending.sound.isOpen)
    · intro client isClient isOther
      rcases yields.client left isLeft client isClient with ⟨own, present, isOwn⟩ | new
      · exact (lawful.apart site other differ.symm own right present isRight).client client isOwn
          isOther
      · exact new (attending.sound.minted client isOther)
  refine ⟨larger, yields.lawful, yields.relay, ?_, ?_, ?_, ?_⟩
  · intro operation present
    by_cases early : operation ∈ history
    · exact List.mem_append_right _ (lawful.given operation early)
    · exact lawful.mem_given_of_isOwn (yields.own operation present early)
  · intro other
    by_cases same : other = site
    · rw [same, here]
      exact yields.stands
    · rcases lawful.stands other with ⟨ended, empty⟩ | ⟨url, session, attending⟩
      · left
        rw [there other same]
        exact ⟨ended, empty⟩
      · exact .inr ⟨url, session, bystander other same url session attending⟩
  · intro other session present
    by_cases same : other = site
    · rw [same, here] at present
      exact lawful.mem_given_of_isOwn (yields.number session present)
    · rw [there other same] at present
      exact List.mem_append_right _ (lawful.numbered other session present)
  · intro first second differ left right isLeft isRight
    by_cases isFirst : first = site
    · have isSecond : second ≠ site := fun same => differ (isFirst.trans same.symm)
      rw [isFirst, here] at isLeft
      rw [there second isSecond] at isRight
      exact apart second isSecond left right isLeft isRight
    · rw [there first isFirst] at isLeft
      by_cases isSecond : second = site
      · rw [isSecond, here] at isRight
        exact (apart first isFirst right left isRight isLeft).symm
      · rw [there second isSecond] at isRight
        exact lawful.apart first second differ left right isLeft isRight

/-- The relay goes down or comes back, and everybody is a bystander. -/
theorem Lawful.setOnline (lawful : gathering.Lawful history) (online : Bool) :
    Lawful history { gathering with relay := gathering.relay.setOnline online } := by
  have relay := Relay.lawful_setOnline lawful.relay online
  refine ⟨lawful.lawful, relay, lawful.given, ?_, lawful.numbered, lawful.apart⟩
  intro site
  rcases lawful.stands site with ended | ⟨url, session, attending⟩
  · exact .inl ended
  · exact .inr ⟨url, session, attending.elsewhere lawful.lawful subset_rfl
      (fun _ present new => absurd present new) relay
      (Relay.elsewhere_setOnline lawful.relay online url _ _)⟩

theorem lawful_initial (initial : gathering.Initial) : gathering.Lawful ∅ := by
  rcases initial with ⟨relay, ended⟩
  refine ⟨History.lawful_empty, ?_, nofun, fun site => .inl (ended site), ?_, ?_⟩
  · rw [relay]
    exact Relay.lawful_new ∅
  · intro site session present
    cases (ended site).1.symm.trans present
  · intro site _ _ left _ present _
    cases (ended site).1.symm.trans present

/-- Every gathering that can come about is lawful. -/
theorem Reachable.lawful [DecidableEq σ] (reachable : gathering.Reachable) :
    ∃ history, gathering.Lawful history := by
  induction reachable with
  | initial initial => exact ⟨∅, lawful_initial initial⟩
  | step _ step ih =>
      rcases ih with ⟨history, before⟩
      cases step with
      | act site act now fresh => exact before.act site fresh now
      | setOnline online => exact ⟨history, before.setOnline online⟩

end Gathering

end Cowrite
