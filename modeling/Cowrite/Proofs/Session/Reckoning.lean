import Cowrite.Proofs.Session.Ledger

/-!
# What a session has yet to send

An operation is owed to the others while something is pending and it goes out with the next update
(`Ledger.Owed`). Each change of a ledger keeps owing what is owed, or sends it to everybody, and
what is made in between is owed as well (`Ledger.Step.reckons`, `Ledger.Steps.reckons`). This needs
that the others are never taken to have more than the document has (`Ledger.Lawful`).

To send everything to somebody who is new is another matter: nobody else gets it, and yet nothing is
owed to anybody from then on (`Ledger.not_owed_welcomed`).
-/

namespace Cowrite

namespace OutboundMessage

/-- The operations that a message tells everybody. -/
def broadcast : OutboundMessage Update → List Operation
  | .update payload => payload.carried
  | _ => []

/-- The operations that a message tells somebody who is new. -/
def greeting : OutboundMessage Update → List Operation
  | .fullState payload => payload.carried
  | _ => []

end OutboundMessage

namespace Replica

variable {replica before after : Replica} {operation : Operation}

/-- Whether an operation is in the log and covered by the version. -/
structure Has (replica : Replica) (operation : Operation) : Prop where
  present : operation ∈ replica.log
  covered : replica.version.covers operation.id = true

theorem Has.mono (has : before.Has operation) (extended : before.Extends after) :
    after.Has operation := by
  have covered := Version.covers_iff.1 has.covered
  refine ⟨extended.log_subset has.present, Version.covers_iff.2 ?_⟩
  exact Nat.lt_of_lt_of_le covered (extended.count_le _)

/-- What a version covers is left out of an update since then, and nothing else. -/
theorem Has.mem_carried_updateSince (has : replica.Has operation) (version : Version) :
    operation ∈ (replica.updateSince version).carried ↔ version.covers operation.id = false :=
  Replica.mem_carried_updateSince has.present has.covered version

theorem Has.mem_carried_fullState (has : replica.Has operation) :
    operation ∈ replica.fullState.carried := by
  rw [fullState, has.mem_carried_updateSince]
  simp [Version.covers]

theorem Has.mem_carried_updateFor (has : replica.Has operation) (outbox : Outbox) :
    operation ∈ (outbox.updateFor replica).carried ↔
      ∀ version, outbox.lastSent = some (.known version) →
        version.covers operation.id = false := by
  rw [Outbox.updateFor]
  cases outbox.lastSent with
  | none => simp [has.mem_carried_fullState]
  | some token =>
      cases token with
      | known version => simp [updateSinceToken, has.mem_carried_updateSince]
      | unreadable => simp [updateSinceToken, has.mem_carried_fullState]

end Replica

/-- The operations of what a session hears, if it hears anything. -/
def heardOperations (heard : Option Update) : List Operation :=
  heard.elim [] Update.carried

namespace Ledger

variable {heard : Option Update} {ledger before middle after : Ledger} {operation : Operation}

/-- Whether an operation goes out with the next update. -/
def Owed (ledger : Ledger) (operation : Operation) : Prop :=
  ledger.outbox.pending = true ∧ operation ∈ (ledger.outbox.updateFor ledger.replica).carried

instance (ledger : Ledger) (operation : Operation) : Decidable (ledger.Owed operation) :=
  inferInstanceAs (Decidable (_ ∧ _))

/-- Whether the others are taken to have nothing that the document does not have. -/
structure Lawful (ledger : Ledger) : Prop where
  grown : ledger.replica.Grown
  known : ∀ version, ledger.outbox.lastSent = some (.known version) →
    ∀ maker, version.count maker ≤ ledger.replica.version.count maker

theorem owed_iff (has : ledger.replica.Has operation) :
    ledger.Owed operation ↔ ledger.outbox.pending = true ∧
      ∀ version, ledger.outbox.lastSent = some (.known version) →
        version.covers operation.id = false := by
  rw [Owed, has.mem_carried_updateFor]

/-- Whether an operation was told everybody from one time to another. -/
def Sent (before after : Ledger) (operation : Operation) : Prop :=
  operation ∈ (after.accepted.drop before.accepted.length).flatMap OutboundMessage.broadcast

theorem sent_iff {messages : List (OutboundMessage Update)}
    (accepted : after.accepted = before.accepted ++ messages) :
    Sent before after operation ↔ operation ∈ messages.flatMap OutboundMessage.broadcast := by
  rw [Sent, accepted, List.drop_left]

theorem not_mem_carried_of_isEmpty {payload : Update} (empty : payload.isEmpty = true)
    (operation : Operation) : operation ∉ payload.carried := by
  cases payload with
  | empty => simp [Update.carried]
  | operations operations => cases empty
  | malformed => cases empty

theorem Step.lawful (step : Step heard before after) (lawful : before.Lawful) : after.Lawful := by
  have extended := step.extends lawful.grown
  have grows (same : after.outbox.lastSent = before.outbox.lastSent) : after.Lawful := by
    refine ⟨extended.grown, ?_⟩
    intro version held maker
    have below := lawful.known version (same ▸ held) maker
    exact Nat.le_trans below (extended.replica.count_le maker)
  have settles {version : Version} (same : after.outbox.lastSent = some (.known version))
      (own : version = after.replica.version) : after.Lawful := by
    refine ⟨extended.grown, ?_⟩
    intro other held maker
    cases same.symm.trans held
    rw [own]
  cases step with
  | types edit now => exact grows rfl
  | touches now => exact grows rfl
  | shares text => exact grows rfl
  | hears isHeard applied => exact grows rfl
  | walks walks => exact grows rfl
  | forgets => exact ⟨lawful.grown, nofun⟩
  | marks => exact grows rfl
  | trusts idle => exact settles rfl rfl
  | drops nothing => exact grows rfl
  | sends something => exact settles rfl rfl
  | asks => exact grows rfl

/-- What is owed stays owed or is told everybody. -/
theorem Step.owed (step : Step heard before after) (lawful : before.Lawful)
    (has : before.replica.Has operation) (owed : before.Owed operation) :
    after.Owed operation ∨ Sent before after operation := by
  have still := has.mono (step.extends lawful.grown).replica
  have new := ((owed_iff has).1 owed).2
  have keeps (pending : after.outbox.pending = true)
      (same : after.outbox.lastSent = before.outbox.lastSent) :
      after.Owed operation ∨ Sent before after operation := by
    left
    rw [owed_iff still, same]
    exact ⟨pending, new⟩
  cases step with
  | types edit now => exact keeps rfl rfl
  | touches now => exact keeps rfl rfl
  | shares text => exact keeps rfl rfl
  | hears isHeard applied => exact keeps owed.1 rfl
  | walks walks => exact keeps owed.1 rfl
  | forgets => exact .inl ((owed_iff still).2 ⟨owed.1, nofun⟩)
  | marks => exact keeps rfl rfl
  | trusts idle => exact absurd owed.1 (by simp [idle])
  | drops nothing => exact absurd owed.2 (not_mem_carried_of_isEmpty nothing operation)
  | sends something =>
      right
      rw [sent_iff rfl]
      simpa [OutboundMessage.broadcast] using owed.2
  | asks => exact keeps owed.1 rfl

/-- What is made is owed. -/
theorem Lawful.owed_of_makes (lawful : before.Lawful)
    (makes : before.replica.Makes after.replica) (pending : after.outbox.pending = true)
    (same : after.outbox.lastSent = before.outbox.lastSent) :
    ∀ operation ∈ after.replica.log,
      operation ∈ before.replica.log ∨ after.replica.Has operation ∧ after.Owed operation := by
  intro operation present
  rcases makes.made operation present with held | ⟨covered, new⟩
  · exact .inl held
  · right
    have has : after.replica.Has operation := ⟨present, covered⟩
    refine ⟨has, (owed_iff has).2 ⟨pending, ?_⟩⟩
    intro version held
    have below := lawful.known version (same ▸ held) operation.id.replica
    rw [← Bool.not_eq_true, Version.covers_iff] at new ⊢
    omega

/-- Whatever is new in the log is owed, or comes from somebody else. -/
theorem Step.made (step : Step heard before after) (lawful : before.Lawful) :
    ∀ operation ∈ after.replica.log, operation ∈ before.replica.log ∨
      operation ∈ before.replica.waiting ∨ operation ∈ heardOperations heard ∨
        after.replica.Has operation ∧ after.Owed operation := by
  have of_makes (makes : before.replica.Makes after.replica)
      (pending : after.outbox.pending = true)
      (same : after.outbox.lastSent = before.outbox.lastSent) :
      ∀ operation ∈ after.replica.log, operation ∈ before.replica.log ∨
        operation ∈ before.replica.waiting ∨ operation ∈ heardOperations heard ∨
          after.replica.Has operation ∧ after.Owed operation := by
    intro operation present
    rcases lawful.owed_of_makes makes pending same operation present with held | owed
    · exact .inl held
    · exact .inr (.inr (.inr owed))
  cases step with
  | types edit now => exact of_makes (lawful.grown.makes_edit edit) rfl rfl
  | shares text => exact of_makes (lawful.grown.makes_setText text) rfl rfl
  | hears isHeard applied =>
      intro operation present
      rw [isHeard]
      rcases (Replica.gathers_apply applied).log operation present with held | waits | told
      · exact .inl held
      · exact .inr (.inl waits)
      · exact .inr (.inr (.inl told))
  | _ => exact fun _ => .inl

/-- Whatever waits has waited already, or is heard. -/
theorem Step.waiting (step : Step heard before after) (lawful : before.Lawful) :
    ∀ operation ∈ after.replica.waiting,
      operation ∈ before.replica.waiting ∨ operation ∈ heardOperations heard := by
  have of_makes (makes : before.replica.Makes after.replica) :
      ∀ operation ∈ after.replica.waiting,
        operation ∈ before.replica.waiting ∨ operation ∈ heardOperations heard :=
    fun _ waits => .inl (makes.waiting_eq ▸ waits)
  cases step with
  | types edit now => exact of_makes (lawful.grown.makes_edit edit)
  | shares text => exact of_makes (lawful.grown.makes_setText text)
  | hears isHeard applied =>
      rw [isHeard]
      exact (Replica.gathers_apply applied).waiting
  | _ => exact fun _ => .inl

/-- What becomes of operations as a session goes on: those that are owed stay owed or are told
everybody, and so are those that come from nobody else. -/
structure Reckons (heard : Option Update) (before after : Ledger) : Prop where
  lawful : after.Lawful
  extended : before.Extends after
  waiting : ∀ operation ∈ after.replica.waiting,
    operation ∈ before.replica.waiting ∨ operation ∈ heardOperations heard
  owed : ∀ operation, before.replica.Has operation → before.Owed operation →
    after.Owed operation ∨ Sent before after operation
  made : ∀ operation ∈ after.replica.log, operation ∈ before.replica.log ∨
    operation ∈ before.replica.waiting ∨ operation ∈ heardOperations heard ∨
      after.replica.Has operation ∧ (after.Owed operation ∨ Sent before after operation)

theorem Reckons.refl (lawful : ledger.Lawful) : Reckons heard ledger ledger :=
  { lawful
    extended := .refl lawful.grown
    waiting := fun _ => .inl
    owed := fun _ _ => .inl
    made := fun _ => .inl }

theorem Reckons.trans (first : Reckons heard before middle) (second : Reckons heard middle after) :
    Reckons heard before after := by
  rcases first.extended.accepted with ⟨earlier, one⟩
  rcases second.extended.accepted with ⟨later, two⟩
  have both : after.accepted = before.accepted ++ (earlier ++ later) := by
    rw [← two, ← one, List.append_assoc]
  have sent {operation : Operation}
      (told : Sent before middle operation ∨ Sent middle after operation) :
      Sent before after operation := by
    rw [sent_iff one.symm, sent_iff two.symm, ← List.mem_append, ← List.flatMap_append] at told
    exact (sent_iff both).2 told
  have settles : ∀ operation, middle.replica.Has operation →
      middle.Owed operation ∨ Sent before middle operation →
        after.Owed operation ∨ Sent before after operation := by
    rintro operation has (owed | told)
    · exact (second.owed operation has owed).imp_right fun told => sent (.inr told)
    · exact .inr (sent (.inl told))
  refine
    { lawful := second.lawful
      extended := first.extended.trans second.extended
      waiting := ?_
      owed := ?_
      made := ?_ }
  · intro operation waits
    rcases second.waiting operation waits with waited | isHeard
    · exact first.waiting operation waited
    · exact .inr isHeard
  · intro operation has owed
    exact settles operation (has.mono first.extended.replica) (first.owed operation has owed)
  · intro operation present
    rcases second.made operation present with held | waits | isHeard | ⟨has, settled⟩
    · rcases first.made operation held with older | waits | isHeard | ⟨has, settled⟩
      · exact .inl older
      · exact .inr (.inl waits)
      · exact .inr (.inr (.inl isHeard))
      · have still := has.mono second.extended.replica
        exact .inr (.inr (.inr ⟨still, settles operation has settled⟩))
    · rcases first.waiting operation waits with waited | isHeard
      · exact .inr (.inl waited)
      · exact .inr (.inr (.inl isHeard))
    · exact .inr (.inr (.inl isHeard))
    · exact .inr (.inr (.inr ⟨has, settled.imp_right fun told => sent (.inr told)⟩))

theorem Step.reckons (step : Step heard before after) (lawful : before.Lawful) :
    Reckons heard before after := by
  refine
    { lawful := step.lawful lawful
      extended := step.extends lawful.grown
      waiting := step.waiting lawful
      owed := fun _ has owed => step.owed lawful has owed
      made := ?_ }
  intro operation present
  rcases step.made lawful operation present with held | waits | isHeard | ⟨has, owed⟩
  · exact .inl held
  · exact .inr (.inl waits)
  · exact .inr (.inr (.inl isHeard))
  · exact .inr (.inr (.inr ⟨has, .inl owed⟩))

theorem Steps.reckons (steps : Steps heard before after) (lawful : before.Lawful) :
    Reckons heard before after := by
  induction steps with
  | refl => exact .refl lawful
  | tail _ step ih => exact ih.trans (step.reckons ih.lawful)

/-! ## Welcomes -/

theorem Lawful.welcomed (lawful : ledger.Lawful) : ledger.welcomed.Lawful := by
  refine ⟨lawful.grown, ?_⟩
  intro version held maker
  cases held
  exact Nat.le_refl _

/-- Once everything was sent to somebody who is new, nothing is owed to anybody. -/
theorem not_owed_welcomed (has : ledger.replica.Has operation) :
    ¬ledger.welcomed.Owed operation := by
  have still : ledger.welcomed.replica.Has operation := has
  rw [owed_iff still]
  rintro ⟨_, new⟩
  cases has.covered.symm.trans (new _ rfl)

end Ledger

end Cowrite
