import Cowrite.Proofs.Replica.Circle

/-!
# When there is nothing new

A document that is asked for what is newer than a version answers with nothing at all only if the
version counts the same as its own (`Replica.Sound.isEmpty_updateSince_iff`). But there is nothing
new as soon as the version counts no less (`Replica.Sound.forall_covers_iff`), and versions are
ordered in part only. If the version lacks something of the document, be it that it also knows more,
the answer has something in it and is enough for everybody who holds the rest (`Circle.Completes`).
If it lacks nothing and knows more, there is nothing new, and still the answer is not nothing but an
update without operations. This is the only case in which an update does not tell whether there is
news (`Circle.Reachable.tellsNews_iff`).

The versions that are compared are canonical: whatever is read is (`Version.canonical_of_decode?`),
and the version of a replica is (`Replica.Sound.canonical`).
-/

namespace Cowrite

namespace Version

/-- Versions that are read count each replica once, and only if there is something to count. -/
theorem canonical_of_decodeCounts {entries : Nat} {version read : Version} {bytes : Bytes}
    (canonical : version.Canonical) (decoded : decodeCounts entries version bytes = some read) :
    read.Canonical := by
  induction entries generalizing version bytes with
  | zero =>
      cases decoded
      exact canonical
  | succ entries ih =>
      rw [decodeCounts] at decoded
      split at decoded
      · cases decoded
      · split at decoded
        · cases decoded
        · exact ih (canonical_set canonical _ _) decoded

theorem canonical_of_decode? {bytes : Bytes} {version : Version}
    (decoded : decode? bytes = some version) : version.Canonical := by
  rw [decode?] at decoded
  split at decoded
  · cases decoded
    exact canonical_empty
  · split at decoded
    · cases decoded
    · exact canonical_of_decodeCounts canonical_empty decoded

/-- Whether a version covers all operations of a replica, and something more. -/
def IsAheadOf (version : Version) (replica : Replica) : Prop :=
  (∀ operation ∈ replica.log, version.covers operation.id = true) ∧
    ∃ id, version.covers id = true ∧ ∀ operation ∈ replica.log, operation.id ≠ id

end Version

namespace Replica

variable {history : History} {replica : Replica}

theorem Sound.forall_covers_iff (sound : replica.Sound history) {version : Version} :
    (∀ operation ∈ replica.log, version.covers operation.id = true) ↔
      ∀ maker, replica.version.count maker ≤ version.count maker := by
  constructor
  · intro covers maker
    by_contra fewer
    rcases sound.exists_mem_of_lt_count (Nat.lt_of_not_le fewer) with ⟨operation, present, named⟩
    have covered := covers operation present
    rw [named, Version.covers_iff] at covered
    exact Nat.lt_irrefl _ covered
  · intro below operation present
    have known := sound.lt_count_of_mem present rfl
    exact Version.covers_iff.2 (Nat.lt_of_lt_of_le known (below operation.id.replica))

theorem Sound.isAheadOf_iff (sound : replica.Sound history) {version : Version} :
    version.IsAheadOf replica ↔ (∀ maker, replica.version.count maker ≤ version.count maker) ∧
      ∃ maker, replica.version.count maker < version.count maker := by
  rw [Version.IsAheadOf, sound.forall_covers_iff]
  refine and_congr_right fun _ => ⟨?_, ?_⟩
  · rintro ⟨id, covered, foreign⟩
    by_contra none
    have known : id.index < replica.version.count id.replica :=
      Nat.lt_of_lt_of_le (Version.covers_iff.1 covered) (Nat.le_of_not_lt fun more =>
        none ⟨id.replica, more⟩)
    rcases sound.exists_mem_of_lt_count known with ⟨operation, present, named⟩
    exact foreign operation present named
  · rintro ⟨maker, more⟩
    refine ⟨⟨maker, replica.version.count maker⟩, Version.covers_iff.2 more, ?_⟩
    exact fun operation present named => Nat.lt_irrefl _ (sound.lt_count_of_mem present named)

/-- Nothing at all is what a replica answers just if the version counts what its own counts. -/
theorem Sound.isEmpty_updateSince_iff (sound : replica.Sound history) {version : Version}
    (canonical : version.Canonical) : (replica.updateSince version).isEmpty = true ↔
      ∀ maker, version.count maker = replica.version.count maker := by
  rw [isEmpty_updateSince, Version.agreesWith_iff canonical sound.canonical]

/-- Where the version covers everything and more, there is an update, but nothing in it. -/
theorem Sound.updateSince_of_isAheadOf (sound : replica.Sound history) {version : Version}
    (ahead : version.IsAheadOf replica) : replica.updateSince version = .operations [] := by
  rcases sound.isAheadOf_iff.1 ahead with ⟨_, maker, more⟩
  have differs : ¬version.agreesWith replica.version = true := by
    intro agrees
    have := Version.count_eq_of_agreesWith agrees maker
    omega
  rw [updateSince, if_neg differs]
  congr 1
  rw [List.filter_eq_nil_iff]
  intro operation present
  simp [ahead.1 operation (List.mem_reverse.1 present)]

end Replica

namespace Circle

variable {σ : Type} [DecidableEq σ] {circle : Circle σ}

/-- Whether an update is enough for everybody who holds what a version covers of a document: now,
and after whatever else may happen before it reaches them. -/
def Completes (circle : Circle σ) (site : σ) (believed : Version) (update : Update) : Prop :=
  ∀ (turns : List (σ × Turn)) (other : σ),
    let taker := (circle.performAll turns).replicas other
    (∀ operation ∈ (circle.replicas site).log,
      believed.covers operation.id = true → taker.Holds operation) →
        ∃ told, taker.apply update = .ok told ∧ (circle.replicas site).log ⊆ told.log

theorem Coherent.completes_updateSince {history : History} (coherent : circle.Coherent history)
    (site : σ) (version : Version) :
    circle.Completes site version ((circle.replicas site).updateSince version) := by
  intro turns other taker held
  rcases coherent.performAll turns with ⟨larger, subset, later⟩
  have sender := (coherent.active site).toSound.mono subset
  rcases sender.exists_learns_updateSince later.lawful (later.active other).toSound
    (later.active other).settled held with ⟨told, applied, _, caughtUp⟩
  exact ⟨told, applied, caughtUp⟩

/-- Whether the update of a document since a version is nothing at all just if the version covers
all its operations, and otherwise is enough for everybody who holds what the version covers. -/
structure TellsNews (circle : Circle σ) (site : σ) (version : Version) : Prop where
  isEmpty_iff : ((circle.replicas site).updateSince version).isEmpty = true ↔
    ∀ operation ∈ (circle.replicas site).log, version.covers operation.id = true
  completes : (∃ operation ∈ (circle.replicas site).log, version.covers operation.id = false) →
    circle.Completes site version ((circle.replicas site).updateSince version)

/-- The update since a version tells whether there is news, and brings them, unless the version is
ahead of the document. Then it is an update without operations. -/
theorem Reachable.tellsNews_iff (reachable : circle.Reachable) (site : σ) {version : Version}
    (canonical : version.Canonical) :
    let document := circle.replicas site
    (circle.TellsNews site version ↔ ¬version.IsAheadOf document) ∧
      (version.IsAheadOf document → document.updateSince version = .operations []) := by
  intro document
  rcases reachable.coherent with ⟨history, coherent⟩
  have sound : document.Sound history := (coherent.active site).toSound
  refine ⟨⟨?_, ?_⟩, sound.updateSince_of_isAheadOf⟩
  · intro tells ahead
    have nothing := tells.isEmpty_iff.2 ahead.1
    rw [sound.updateSince_of_isAheadOf ahead] at nothing
    simp [Update.isEmpty] at nothing
  · intro level
    refine ⟨?_, fun _ => coherent.completes_updateSince site version⟩
    rw [sound.isEmpty_updateSince_iff canonical, sound.forall_covers_iff]
    constructor
    · exact fun same maker => Nat.le_of_eq (same maker).symm
    · intro below maker
      by_contra differs
      have more := Nat.lt_of_le_of_ne (below maker) (Ne.symm differs)
      exact level (sound.isAheadOf_iff.2 ⟨below, maker, more⟩)

/-- A version with the first two operations of the first replica and some of a replica that nobody
has heard of is neither ahead of the first replica nor behind it. What it lacks is in the update,
and that is enough for the third replica once it has heard what was made first. -/
theorem crossing_tellsNews :
    let version : Version := ⟨[(0, 2), (7, 5)]⟩
    crossing.TellsNews 0 version ∧ ∃ told,
      ((crossing.perform 2 (.hear 0)).replicas 2).apply
          ((crossing.replicas 0).updateSince version) = .ok told ∧
        (crossing.replicas 0).log ⊆ told.log := by
  intro version
  have level : ¬version.IsAheadOf (crossing.replicas 0) := by
    rintro ⟨covers, _⟩
    revert covers
    decide
  have canonical : version.Canonical := by
    constructor <;> decide
  have tells := (reachable_crossing.tellsNews_iff 0 canonical).1.2 level
  refine ⟨tells, ?_⟩
  have held : ∀ operation ∈ (crossing.replicas 0).log, version.covers operation.id = true →
      operation ∈ ((crossing.perform 2 (.hear 0)).replicas 2).log := by decide
  exact tells.completes (by decide) [(2, .hear 0)] 2 fun operation present covers =>
    .inl (held operation present covers)

/-- The first replica knows all that the third one knows, and more. So the third one has nothing
new for it, and gives it an update all the same. -/
theorem crossing_not_tellsNews :
    let version := (crossing.replicas 0).version
    crossing.Reachable ∧ version.IsAheadOf (crossing.replicas 2) ∧
      ((crossing.replicas 2).updateSince version).isEmpty = false ∧
        ¬crossing.TellsNews 2 version := by
  intro version
  have covers : ∀ operation ∈ (crossing.replicas 2).log,
      version.covers operation.id = true := by decide
  have something : ((crossing.replicas 2).updateSince version).isEmpty = false := by decide
  refine ⟨reachable_crossing, ⟨covers, ⟨0, 0⟩, by decide, by decide⟩, something, ?_⟩
  intro tells
  rw [tells.isEmpty_iff.2 covers] at something
  cases something

end Circle

end Cowrite
