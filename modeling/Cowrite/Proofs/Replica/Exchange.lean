import Cowrite.Proofs.Replica.Sound
import Cowrite.Session.Outbox

/-!
# What replicas tell one another

An update tells of a log (`Update.Tells`) if it carries operations of that log only, each once, and
can be read. Whatever a replica sends tells of its own log (`Sound.tells_updateSince`), and leaves
out only what the given version covers (`Sound.covers_or_mem_carried`).

Whoever holds what the version covers has the whole log of the sender after taking up the update
(`Sound.exists_learns_updateSince`).

An outbox leaves out what it believes the others to hold (`Outbox.believed`). While all that it
believes is true of the others (`Outbox.Trusts`), its update closes every gap, and nothing is left
to wait for (`Sound.apply_updateFor`).
-/

namespace Cowrite

namespace Update

/-- Whether an update can be read and carries operations of a log only, each once. -/
structure Tells (log : List Operation) (update : Update) : Prop where
  readable : update ≠ .malformed
  subset : update.carried ⊆ log
  nodup : update.carried.Nodup

theorem Tells.mono {log longer : List Operation} (subset : log ⊆ longer) {update : Update}
    (tells : update.Tells log) : update.Tells longer :=
  ⟨tells.readable, fun _ present => subset (tells.subset present), tells.nodup⟩

theorem Tells.isFrom {history : History} {log : List Operation}
    (known : ∀ operation ∈ log, operation ∈ history) {update : Update}
    (tells : update.Tells log) : update.IsFrom history :=
  ⟨fun operation present => known operation (tells.subset present), tells.nodup⟩

end Update

/-- The version that an outbox believes the others to hold. What no version is says nothing. -/
def Outbox.believed (outbox : Outbox) : Version :=
  match outbox.lastSent with
  | some (.known version) => version
  | _ => .empty

theorem Outbox.updateFor_eq (outbox : Outbox) (replica : Replica) :
    outbox.updateFor replica = replica.updateSince outbox.believed := by
  rw [updateFor, believed]
  cases outbox.lastSent with
  | none => rfl
  | some token =>
      cases token with
      | known version => rfl
      | unreadable => rfl

/-- Whether what an outbox believes the others to hold is part of a log. -/
def Outbox.Trusts (outbox : Outbox) (log : List Operation) : Prop :=
  ∀ token, outbox.lastSent = some token → ∃ version, token = .known version ∧
    ∀ id, version.covers id = true → ∃ operation ∈ log, operation.id = id

theorem Outbox.Trusts.mono {outbox : Outbox} {log longer : List Operation}
    (trusts : outbox.Trusts log) (subset : log ⊆ longer) : outbox.Trusts longer := by
  intro token held
  rcases trusts token held with ⟨version, known, covered⟩
  refine ⟨version, known, ?_⟩
  intro id covers
  rcases covered id covers with ⟨operation, present, same⟩
  exact ⟨operation, subset present, same⟩

theorem Outbox.Trusts.exists_of_believed {outbox : Outbox} {log : List Operation}
    (trusts : outbox.Trusts log) {id : OpId} (covers : outbox.believed.covers id = true) :
    ∃ operation ∈ log, operation.id = id := by
  cases held : outbox.lastSent with
  | none => simp [Outbox.believed, held, Version.covers] at covers
  | some token =>
      rcases trusts _ held with ⟨version, rfl, covered⟩
      rw [Outbox.believed, held] at covers
      exact covered id covers

namespace Replica

section

variable {history : History} {replica : Replica}

theorem isEmpty_updateSince (replica : Replica) (version : Version) :
    (replica.updateSince version).isEmpty = version.agreesWith replica.version := by
  rw [updateSince]
  cases version.agreesWith replica.version with
  | true => rfl
  | false => rfl

theorem Sound.tells_updateSince (sound : replica.Sound history) (version : Version) :
    (replica.updateSince version).Tells replica.log := by
  rw [updateSince]
  split
  · exact ⟨by simp, by simp [Update.carried], by simp [Update.carried]⟩
  · refine ⟨by simp, ?_, ?_⟩
    · intro operation present
      exact List.mem_reverse.1 (List.mem_of_mem_filter present)
    · exact (List.nodup_reverse.2 sound.causal.nodup).filter _

/-- What a version covers is left out of an update since then, and nothing else. -/
theorem mem_carried_updateSince {operation : Operation} (present : operation ∈ replica.log)
    (covered : replica.version.covers operation.id = true) (version : Version) :
    operation ∈ (replica.updateSince version).carried ↔ version.covers operation.id = false := by
  rw [updateSince]
  split
  case isTrue agrees =>
    rw [Version.agreesWith, Bool.and_eq_true] at agrees
    have same := Version.covers_of_isBelow agrees.2 covered
    simp [Update.carried, same]
  case isFalse => simp [Update.carried, present]

theorem Sound.covers_or_mem_carried (sound : replica.Sound history) (version : Version)
    {operation : Operation} (present : operation ∈ replica.log) :
    version.covers operation.id = true ∨
      operation ∈ (replica.updateSince version).carried := by
  rw [mem_carried_updateSince present (sound.covers_of_mem present)]
  exact Bool.eq_false_or_eq_true _

/-- Whoever holds what a version covers of a replica has the whole log of that replica after taking
up its update since the version. -/
theorem Sound.exists_learns_updateSince (lawful : history.Lawful) (sound : replica.Sound history)
    {other : Replica} (otherSound : other.Sound history) (settled : other.Settled)
    {version : Version} (held : ∀ operation ∈ replica.log,
      version.covers operation.id = true → other.Holds operation) :
    ∃ after, other.apply (replica.updateSince version) = .ok after ∧
      Learns history (replica.updateSince version).carried other after ∧
        replica.log ⊆ after.log := by
  have tells := sound.tells_updateSince version
  rcases exists_apply other tells.readable with ⟨after, applied⟩
  have learns := otherSound.apply lawful settled (tells.isFrom sound.known) applied
  refine ⟨after, applied, learns, ?_⟩
  apply learns.sound.mem_log_of_told lawful learns.settled sound.known sound.causal
  intro operation present
  rw [learns.holds_iff]
  exact (sound.covers_or_mem_carried version present).imp_left (held operation present)

theorem Sound.tells_fullState (sound : replica.Sound history) :
    replica.fullState.Tells replica.log :=
  sound.tells_updateSince .empty

theorem Sound.mem_carried_fullState (sound : replica.Sound history) {operation : Operation}
    (present : operation ∈ replica.log) : operation ∈ replica.fullState.carried := by
  rcases sound.covers_or_mem_carried .empty present with covered | carried
  · simp [Version.covers] at covered
  · exact carried

/-! ## Updates of an outbox -/

theorem Sound.trusts_recordVersion (sound : replica.Sound history) (outbox : Outbox)
    {log : List Operation} (subset : replica.log ⊆ log) :
    (outbox.recordVersion replica.token).Trusts log := by
  intro token held
  cases held
  refine ⟨replica.version, rfl, ?_⟩
  intro id covered
  rcases (sound.covers_iff id).1 covered with ⟨operation, present, same⟩
  exact ⟨operation, subset present, same⟩

theorem Sound.tells_updateFor (sound : replica.Sound history) (outbox : Outbox) :
    (outbox.updateFor replica).Tells replica.log := by
  rw [outbox.updateFor_eq]
  exact sound.tells_updateSince outbox.believed

theorem Sound.believed_or_mem_carried (sound : replica.Sound history) (outbox : Outbox)
    {operation : Operation} (present : operation ∈ replica.log) :
    outbox.believed.covers operation.id = true ∨
      operation ∈ (outbox.updateFor replica).carried := by
  rw [outbox.updateFor_eq]
  exact sound.covers_or_mem_carried outbox.believed present

/-- What an outbox leaves out, the others hold. -/
theorem Sound.mem_or_mem_carried (lawful : history.Lawful) (sound : replica.Sound history)
    {outbox : Outbox} {log : List Operation} (known : ∀ operation ∈ log, operation ∈ history)
    (trusts : outbox.Trusts log) {operation : Operation} (present : operation ∈ replica.log) :
    operation ∈ log ∨ operation ∈ (outbox.updateFor replica).carried := by
  rcases sound.believed_or_mem_carried outbox present with covers | carried
  · rcases trusts.exists_of_believed covers with ⟨other, otherMem, same⟩
    left
    rwa [← lawful.unique other (known other otherMem) operation
      (sound.known operation present) same]
  · exact .inr carried

/-- Nothing is left to be sent when the others hold the whole log. -/
theorem Sound.log_subset_of_isEmpty (lawful : history.Lawful) (sound : replica.Sound history)
    {outbox : Outbox} {log : List Operation} (known : ∀ operation ∈ log, operation ∈ history)
    (trusts : outbox.Trusts log) (nothing : (outbox.updateFor replica).isEmpty = true) :
    replica.log ⊆ log := by
  intro operation present
  rcases sound.mem_or_mem_carried lawful known trusts present with held | carried
  · exact held
  · cases update : outbox.updateFor replica with
    | empty => simp [update, Update.carried] at carried
    | operations operations => simp [update, Update.isEmpty] at nothing
    | malformed => simp [update, Update.carried] at carried

/-- Whoever holds what an outbox believes the others to hold has the log of the sender after taking
up its update. -/
theorem Sound.exists_learns_updateFor (lawful : history.Lawful) (sound : replica.Sound history)
    {other : Replica} (otherSound : other.Sound history) (settled : other.Settled)
    {outbox : Outbox} (held : ∀ operation ∈ replica.log,
      outbox.believed.covers operation.id = true → other.Holds operation) :
    ∃ after, other.apply (outbox.updateFor replica) = .ok after ∧
      Learns history (outbox.updateFor replica).carried other after ∧ replica.log ⊆ after.log := by
  rw [outbox.updateFor_eq]
  exact sound.exists_learns_updateSince lawful otherSound settled held

/-- A replica that takes up the update of an outbox has the log of the sender afterwards, and
nothing more that it did not have before. -/
theorem Sound.apply_updateFor (lawful : history.Lawful) (sound : replica.Sound history)
    {other : Replica} (otherSound : other.Sound history) (idle : other.waiting = [])
    {outbox : Outbox} (trusts : outbox.Trusts other.log) :
    ∃ after, other.apply (outbox.updateFor replica) = .ok after ∧ after.Sound history ∧
      after.waiting = [] ∧ other.log ⊆ after.log ∧ replica.log ⊆ after.log ∧
        ∀ operation ∈ after.log,
          operation ∈ other.log ∨ operation ∈ (outbox.updateFor replica).carried := by
  have tells := sound.tells_updateFor outbox
  have settled : other.Settled := by
    intro operation waits
    simp [idle] at waits
  have believedHeld : ∀ operation ∈ replica.log,
      outbox.believed.covers operation.id = true → other.Holds operation := by
    intro operation present covers
    rcases trusts.exists_of_believed covers with ⟨found, foundMem, same⟩
    rw [lawful.unique operation (sound.known operation present) found
      (otherSound.known found foundMem) same.symm]
    exact .inl foundMem
  rcases sound.exists_learns_updateFor lawful otherSound settled believedHeld with
    ⟨after, applied, learns, caughtUp⟩
  have held : ∀ operation, after.Holds operation →
      operation ∈ other.log ∨ operation ∈ (outbox.updateFor replica).carried := by
    intro operation holds
    rcases (learns.holds_iff operation).1 holds with (inLog | waits) | carried
    · exact .inl inLog
    · simp [idle] at waits
    · exact .inr carried
  refine ⟨after, applied, learns.sound, ?_, learns.log_subset, caughtUp,
    fun operation present => held operation (.inl present)⟩
  rw [List.eq_nil_iff_forall_not_mem]
  intro operation waits
  have taken : operation ∈ after.log := by
    rcases held operation (.inr waits) with inLog | carried
    · exact learns.log_subset inLog
    · exact caughtUp (tells.subset carried)
  have covered := learns.sound.covers_of_mem taken
  simp [learns.sound.waiting_new operation waits] at covered

end

end Replica

end Cowrite
