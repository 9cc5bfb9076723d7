import Cowrite.Proofs.Session.Scene

/-!
# What a session does in its room

Whatever a session does to its scene is a move (`Scene.Moves`) or ends the session (`Scene.Ends`).
Both add operations of the session alone to the history, and both are a change elsewhere for every
bystander, that is for any other session at the relay (`Relay.Bystander`). A name under which a
session appears later is one that no bystander can have. So moves can be put together
(`Moves.trans`), and it is enough to look at what a session does step by step.
-/

namespace Cowrite

/-- Somebody at a relay who is not the session with a given connection. -/
structure Relay.Bystander (relay : Relay) (connection : Connection) (url : String)
    (client : Option ClientId) (address : Address) : Prop where
  apart : address ≠ connection.mailbox
  isOpen : relay.IsOpen address
  other : ∀ own, client = some own → connection.client ≠ some own
  minted : ∀ own, client = some own → relay.HasMinted own
  alone : ∀ own, client = some own → ∀ room place, relay.IsMember room own place → room = url

/-- A bystander stays one while the session appears under new names only. -/
theorem Relay.Bystander.after {before after : Relay} {connection later : Connection}
    {url : String} {client : Option ClientId} {address : Address}
    (bystander : before.Bystander connection url client address)
    (elsewhere : Relay.Elsewhere url client address before after)
    (mailbox : later.mailbox = connection.mailbox)
    (names : ∀ own, later.client = some own →
      connection.client = some own ∨ ¬before.HasMinted own) :
    after.Bystander later url client address := by
  refine ⟨mailbox ▸ bystander.apart, elsewhere.isOpen bystander.isOpen, ?_, ?_, ?_⟩
  · intro own isOwn appears
    rcases names own appears with before | new
    · exact bystander.other own isOwn before
    · exact new (bystander.minted own isOwn)
  · exact fun own isOwn => (bystander.minted own isOwn).mono elsewhere.minted_le
  · exact fun own isOwn room place isMember =>
      bystander.alone own isOwn room place (elsewhere.member own isOwn room place isMember)

namespace Scene

/-- What a session does that goes on. -/
structure Moves (url : String) (before after : Scene) : Prop where
  sound : after.Sound url
  subset : before.history ⊆ after.history
  own : ∀ operation ∈ after.history, operation ∉ before.history →
    operation.id.replica = before.replica.id
  id_eq : after.replica.id = before.replica.id
  mailbox_eq : after.connection.mailbox = before.connection.mailbox
  minted_le : before.relay.minted ≤ after.relay.minted
  names : ∀ own, after.connection.client = some own →
    before.connection.client = some own ∨ ¬before.relay.HasMinted own
  elsewhere : ∀ room client address, before.relay.Bystander before.connection room client address →
    Relay.Elsewhere room client address before.relay after.relay

/-- What a session leaves behind when it ends. -/
structure Ends (before : Scene) (larger : History) (after : Relay) : Prop where
  lawful : larger.Lawful
  relay : after.Lawful larger
  subset : before.history ⊆ larger
  own : ∀ operation ∈ larger, operation ∉ before.history →
    operation.id.replica = before.replica.id
  elsewhere : ∀ room client address, before.relay.Bystander before.connection room client address →
    Relay.Elsewhere room client address before.relay after

variable {url : String} {history : History} {relay : Relay} {hand : List (Envelope Update)}
  {replica : Replica} {outbox : Outbox} {connection : Connection}

/-- A move that leaves history and relay alone. -/
theorem Moves.of_sound {before after : Scene} (sound : after.Sound url)
    (history : after.history = before.history) (relay : after.relay = before.relay)
    (id : after.replica.id = before.replica.id)
    (mailbox : after.connection.mailbox = before.connection.mailbox)
    (client : ∀ own, after.connection.client = some own → before.connection.client = some own) :
    Moves url before after := by
  refine ⟨sound, by rw [history], ?_, id, mailbox, by rw [relay],
    fun own appears => .inl (client own appears), ?_⟩
  · intro operation present new
    rw [history] at present
    exact absurd present new
  · intro room client address _
    rw [relay]
    exact .refl _ _ _ _

theorem Moves.refl {scene : Scene} (sound : scene.Sound url) : Moves url scene scene :=
  .of_sound sound rfl rfl rfl rfl fun _ => id

/-- A move that leaves the document alone. -/
theorem Moves.of_relay {after : Relay} {kept : List (Envelope Update)} {noted : Outbox}
    {later : Connection} (sound : Sound url ⟨history, after, kept, ⟨replica, noted, later⟩⟩)
    (mailbox : later.mailbox = connection.mailbox) (minted : relay.minted ≤ after.minted)
    (names : ∀ own, later.client = some own →
      connection.client = some own ∨ ¬relay.HasMinted own)
    (elsewhere : ∀ room client address, relay.Bystander connection room client address →
      Relay.Elsewhere room client address relay after) :
    Moves url ⟨history, relay, hand, ⟨replica, outbox, connection⟩⟩
      ⟨history, after, kept, ⟨replica, noted, later⟩⟩ :=
  ⟨sound, subset_rfl, fun _ present new => absurd present new, rfl, mailbox, minted, names,
    elsewhere⟩

theorem Moves.trans {first second third : Scene} (one : Moves url first second)
    (two : Moves url second third) : Moves url first third := by
  refine ⟨two.sound, one.subset.trans two.subset, ?_, two.id_eq.trans one.id_eq,
    two.mailbox_eq.trans one.mailbox_eq, Nat.le_trans one.minted_le two.minted_le, ?_, ?_⟩
  · intro operation present new
    by_cases early : operation ∈ second.history
    · exact one.own operation early new
    · rw [← one.id_eq]
      exact two.own operation present early
  · intro own appears
    rcases two.names own appears with earlier | new
    · exact one.names own earlier
    · exact .inr fun known => new (known.mono one.minted_le)
  · intro room client address bystander
    have early := one.elsewhere room client address bystander
    have later := bystander.after early one.mailbox_eq one.names
    exact early.trans (two.elsewhere room client address later)

theorem Moves.trans_ends {first second : Scene} {larger : History} {after : Relay}
    (one : Moves url first second) (ends : second.Ends larger after) :
    first.Ends larger after := by
  refine ⟨ends.lawful, ends.relay, one.subset.trans ends.subset, ?_, ?_⟩
  · intro operation present new
    by_cases early : operation ∈ second.history
    · exact one.own operation early new
    · rw [← one.id_eq]
      exact ends.own operation present early
  · intro room client address bystander
    have early := one.elsewhere room client address bystander
    have later := bystander.after early one.mailbox_eq one.names
    exact early.trans (ends.elsewhere room client address later)

/-- What a session writes is a move. -/
theorem Sound.moves_writes {larger : History} {written : Replica} {noted : Outbox}
    (sound : Sound url ⟨history, relay, hand, ⟨replica, outbox, connection⟩⟩)
    (writes : replica.Writes history larger written) (pending : noted.pending = true)
    (lastSent : noted.lastSent = outbox.lastSent) :
    Moves url ⟨history, relay, hand, ⟨replica, outbox, connection⟩⟩
      ⟨larger, relay, hand, ⟨written, noted, connection⟩⟩ :=
  ⟨sound.writes writes pending lastSent, writes.subset, writes.own, writes.id_eq, rfl,
    Nat.le_refl _, fun _ => .inl, fun _ _ _ _ => .refl _ _ _ _⟩

end Scene

end Cowrite
