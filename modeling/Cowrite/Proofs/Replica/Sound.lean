import Cowrite.Proofs.Replica.History

/-!
# Sound replicas

A replica is sound for a history (`Replica.Sound`) if it holds operations of that history only, if
its version and its sequence are those of its log, and if what waits in it is new. It is settled
if nothing that waits is ready. Taking up what is ready keeps a replica sound
(`Sound.settle`), so whatever arrives from others (`Update.IsFrom`) leaves it sound and settled,
and nothing of what arrived is lost: it is in the log or waits (`Sound.apply`).

Two facts about sound replicas carry everything that is said of sessions. A replica that has been
told a whole causal log, be it waiting, has taken it up (`Sound.mem_log_of_told`). And replicas
with the same version have the same text (`Sound.text_eq_of_version_eq`).
-/

namespace Cowrite

namespace Update

/-- The operations that an update carries. -/
def carried : Update → List Operation
  | .empty => []
  | .operations held => held
  | .malformed => []

/-- Whether an update carries operations of a history only, each once. -/
structure IsFrom (history : History) (update : Update) : Prop where
  known : ∀ operation ∈ update.carried, operation ∈ history
  nodup : update.carried.Nodup

theorem IsFrom.mono {history larger : History} (subset : history ⊆ larger) {update : Update}
    (honest : update.IsFrom history) : update.IsFrom larger :=
  ⟨fun operation present => subset (honest.known operation present), honest.nodup⟩

end Update

namespace Replica

/-- A replica that holds operations of a history, and whatever follows from these. -/
structure Sound (history : History) (replica : Replica) : Prop where
  known : ∀ operation ∈ replica.log, operation ∈ history
  causal : Causal replica.log
  version_eq : replica.version = Version.ofLog replica.log
  sequence_eq : replica.sequence = Sequence.ofLog replica.log
  waiting_known : ∀ operation ∈ replica.waiting, operation ∈ history
  waiting_new : ∀ operation ∈ replica.waiting, replica.version.covers operation.id = false
  waiting_nodup : replica.waiting.Nodup

/-- Whether nothing that waits is ready. -/
def Settled (replica : Replica) : Prop :=
  ∀ operation ∈ replica.waiting, isReady replica.version operation = false

/-- Whether a replica holds an operation, be it waiting. -/
def Holds (replica : Replica) (operation : Operation) : Prop :=
  operation ∈ replica.log ∨ operation ∈ replica.waiting

theorem sound_new (history : History) (id : ReplicaId) : Sound history { id } :=
  ⟨by simp, trivial, rfl, rfl, by simp, by simp, List.nodup_nil⟩

theorem settled_new (id : ReplicaId) : Settled { id } := by
  simp [Settled]

section

variable {history : History} {replica : Replica}

theorem Sound.mono {larger : History} (subset : history ⊆ larger) (sound : replica.Sound history) :
    replica.Sound larger :=
  ⟨fun operation present => subset (sound.known operation present), sound.causal,
    sound.version_eq, sound.sequence_eq,
    fun operation present => subset (sound.waiting_known operation present),
    sound.waiting_new, sound.waiting_nodup⟩

theorem Sound.canonical (sound : replica.Sound history) : replica.version.Canonical := by
  rw [sound.version_eq]
  exact Version.canonical_ofLog _

theorem Sound.covers_iff (sound : replica.Sound history) (id : OpId) :
    replica.version.covers id = true ↔ ∃ operation ∈ replica.log, operation.id = id := by
  rw [sound.version_eq]
  exact Version.covers_ofLog_iff sound.causal id

theorem Sound.covers_of_mem (sound : replica.Sound history) {operation : Operation}
    (present : operation ∈ replica.log) : replica.version.covers operation.id = true :=
  (sound.covers_iff _).2 ⟨operation, present, rfl⟩

/-- A sound replica holds the operations of every maker up to the one that its version counts to. -/
theorem Sound.exists_mem_of_lt_count (sound : replica.Sound history) {maker : ReplicaId}
    {number : Nat} (counted : number < replica.version.count maker) :
    ∃ operation ∈ replica.log, operation.id = ⟨maker, number⟩ :=
  (sound.covers_iff ⟨maker, number⟩).1 (Version.covers_iff.2 counted)

theorem Sound.lt_count_of_mem (sound : replica.Sound history) {operation : Operation}
    (present : operation ∈ replica.log) {maker : ReplicaId} {number : Nat}
    (named : operation.id = ⟨maker, number⟩) : number < replica.version.count maker := by
  have covered := sound.covers_of_mem present
  rwa [named, Version.covers_iff] at covered

theorem Sound.mem_log_of_covers (lawful : history.Lawful) (sound : replica.Sound history)
    {operation : Operation} (inHistory : operation ∈ history)
    (covered : replica.version.covers operation.id = true) : operation ∈ replica.log := by
  rcases (sound.covers_iff _).1 covered with ⟨other, present, same⟩
  rwa [← lawful.unique other (sound.known other present) operation inHistory same]

theorem Sound.reflects (lawful : history.Lawful) (sound : replica.Sound history) :
    Sequence.Reflects replica.log replica.sequence := by
  rw [sound.sequence_eq]
  exact Sequence.reflects_ofLog lawful sound.known sound.causal

theorem Sound.lawful_sequence (lawful : history.Lawful) (sound : replica.Sound history) :
    replica.sequence.Lawful :=
  (sound.reflects lawful).lawful

/-- Walks are of no account. -/
theorem Sound.withWalks (sound : replica.Sound history) (walks : List Walk) :
    Sound history { replica with walks } :=
  ⟨sound.known, sound.causal, sound.version_eq, sound.sequence_eq, sound.waiting_known,
    sound.waiting_new, sound.waiting_nodup⟩

/-! ## Taking up -/

/-- An operation that is ready and new extends the log. -/
theorem Sound.causal_cons (lawful : history.Lawful) (sound : replica.Sound history)
    {operation : Operation} (inHistory : operation ∈ history)
    (ready : isReady replica.version operation = true)
    (new : replica.version.covers operation.id = false) : Causal (operation :: replica.log) := by
  have below := ready
  rw [isReady, sound.version_eq] at below
  refine ⟨below, ?_, sound.causal⟩
  have atLeast := (Version.isBelow_iff (lawful.canonical operation inHistory)).1 below
    operation.id.replica
  rw [lawful.numbered operation inHistory] at atLeast
  have notCovered : ¬replica.version.covers operation.id = true := by simp [new]
  rw [Version.covers_iff, sound.version_eq] at notCovered
  omega

theorem Sound.takeUp (lawful : history.Lawful) {waiting : List Operation}
    (sound : replica.Sound history) {operation : Operation}
    (inHistory : operation ∈ history)
    (ready : isReady replica.version operation = true)
    (new : replica.version.covers operation.id = false)
    (fewer : waiting ⊆ replica.waiting) (nodup : waiting.Nodup) (taken : operation ∉ waiting) :
    Sound history (({ replica with waiting } : Replica).takeUp operation) := by
  refine ⟨?_, sound.causal_cons lawful inHistory ready new, ?_, ?_, ?_, ?_, nodup⟩
  · intro other present
    rcases List.mem_cons.1 present with rfl | old
    · exact inHistory
    · exact sound.known other old
  · simp [Replica.takeUp, Version.ofLog, sound.version_eq]
  · simp [Replica.takeUp, Sequence.ofLog, sound.sequence_eq]
  · intro other present
    exact sound.waiting_known other (fewer present)
  · intro other present
    have old := sound.waiting_new other (fewer present)
    have causal := sound.causal_cons lawful inHistory ready new
    by_contra covered
    rw [Bool.not_eq_false] at covered
    have version : (({ replica with waiting } : Replica).takeUp operation).version =
        Version.ofLog (operation :: replica.log) := by
      simp [Replica.takeUp, Version.ofLog, sound.version_eq]
    rw [version] at covered
    rcases (Version.covers_ofLog_iff causal other.id).1 covered with ⟨found, foundMem, same⟩
    rcases List.mem_cons.1 foundMem with rfl | inLog
    · have := lawful.unique found inHistory other (sound.waiting_known other (fewer present)) same
      exact taken (this ▸ present)
    · have := (sound.covers_iff other.id).2 ⟨found, inLog, same⟩
      simp [old] at this

/-! ## Settling -/

theorem perm_of_nextReady {version : Version} {waiting rest : List Operation}
    {operation : Operation} (found : nextReady version waiting = some (operation, rest)) :
    isReady version operation = true ∧ waiting.Perm (operation :: rest) := by
  induction waiting generalizing rest with
  | nil => simp [nextReady] at found
  | cons first others ih =>
      simp only [nextReady] at found
      by_cases ready : isReady version first = true
      · rw [if_pos ready] at found
        cases found
        exact ⟨ready, .refl _⟩
      · rw [if_neg ready] at found
        rcases Option.map_eq_some_iff.1 found with ⟨⟨inner, innerRest⟩, innerFound, same⟩
        cases same
        rcases ih innerFound with ⟨innerReady, perm⟩
        exact ⟨innerReady, (perm.cons first).trans (.swap _ _ _)⟩

theorem not_isReady_of_nextReady_eq_none {version : Version} {waiting : List Operation}
    (none : nextReady version waiting = none) {operation : Operation}
    (present : operation ∈ waiting) : isReady version operation = false := by
  induction waiting with
  | nil => simp at present
  | cons first others ih =>
      simp only [nextReady] at none
      by_cases ready : isReady version first = true
      · simp [ready] at none
      · rw [if_neg ready, Option.map_eq_none_iff] at none
        rcases List.mem_cons.1 present with rfl | later
        · simpa using ready
        · exact ih none later

/-- What taking up operations does: the replica stays sound, keeps what it has, and holds the same
operations as before. -/
structure Catches (history : History) (before after : Replica) : Prop where
  sound : after.Sound history
  id_eq : after.id = before.id
  walks_eq : after.walks = before.walks
  log_subset : before.log ⊆ after.log
  holds_iff : ∀ operation, after.Holds operation ↔ before.Holds operation

theorem Sound.settleUpTo (lawful : history.Lawful) (sound : replica.Sound history)
    {count : Nat} (enough : replica.waiting.length ≤ count) :
    Catches history replica (Replica.settleUpTo count replica) ∧
      (Replica.settleUpTo count replica).Settled := by
  induction count generalizing replica with
  | zero =>
      have none : replica.waiting = [] := by
        simpa using enough
      refine ⟨⟨sound, rfl, rfl, List.Subset.refl _, fun _ => Iff.rfl⟩, ?_⟩
      intro operation present
      simp [Replica.settleUpTo, none] at present
  | succ count ih =>
      simp only [Replica.settleUpTo]
      cases found : nextReady replica.version replica.waiting with
      | none =>
          refine ⟨⟨sound, rfl, rfl, List.Subset.refl _, fun _ => Iff.rfl⟩, ?_⟩
          intro operation present
          exact not_isReady_of_nextReady_eq_none found present
      | some next =>
          rcases next with ⟨operation, rest⟩
          rcases perm_of_nextReady found with ⟨ready, perm⟩
          have present : operation ∈ replica.waiting := perm.mem_iff.2 (by simp)
          have nodup := List.nodup_cons.1 (perm.nodup_iff.1 sound.waiting_nodup)
          have fewer : rest ⊆ replica.waiting := fun other otherMem =>
            perm.mem_iff.2 (List.mem_cons_of_mem _ otherMem)
          have next := sound.takeUp lawful (sound.waiting_known operation present) ready
            (sound.waiting_new operation present) fewer nodup.2 nodup.1
          have size := length_of_nextReady found
          have shorter :
              (({ replica with waiting := rest } : Replica).takeUp operation).waiting.length
              ≤ count := by
            simp only [Replica.takeUp]
            omega
          rcases ih next shorter with ⟨caught, settled⟩
          refine ⟨⟨caught.sound, caught.id_eq, caught.walks_eq, ?_, ?_⟩, settled⟩
          · exact fun other otherMem => caught.log_subset (List.mem_cons_of_mem _ otherMem)
          · intro other
            rw [caught.holds_iff]
            have := @List.Perm.mem_iff _ other _ _ perm
            simp only [Holds, Replica.takeUp, List.mem_cons] at this ⊢
            tauto

theorem Sound.settle (lawful : history.Lawful) (sound : replica.Sound history) :
    Catches history replica replica.settle ∧ replica.settle.Settled :=
  sound.settleUpTo lawful (Nat.le_refl _)

/-! ## Receiving -/

/-- What receiving operations does: the replica stays sound and settled, keeps what it has, and
holds what it was told besides. -/
structure Learns (history : History) (operations : List Operation) (before after : Replica) :
    Prop where
  sound : after.Sound history
  settled : after.Settled
  id_eq : after.id = before.id
  log_subset : before.log ⊆ after.log
  holds_iff : ∀ operation, after.Holds operation ↔
    before.Holds operation ∨ operation ∈ operations

theorem Sound.hasSeen_iff (lawful : history.Lawful) (sound : replica.Sound history)
    {operation : Operation} (inHistory : operation ∈ history) :
    replica.hasSeen operation = true ↔ replica.Holds operation := by
  rw [hasSeen, Bool.or_eq_true, List.any_eq_true, Holds]
  constructor
  · rintro (covered | ⟨other, present, same⟩)
    · exact .inl (sound.mem_log_of_covers lawful inHistory covered)
    · rw [beq_iff_eq] at same
      have := lawful.unique other (sound.waiting_known other present) operation inHistory same
      exact .inr (this ▸ present)
  · rintro (inLog | inWaiting)
    · exact .inl (sound.covers_of_mem inLog)
    · exact .inr ⟨operation, inWaiting, by simp⟩

theorem Sound.receive (lawful : history.Lawful) (sound : replica.Sound history)
    {operations : List Operation} (known : ∀ operation ∈ operations, operation ∈ history)
    (nodup : operations.Nodup) :
    Learns history operations replica (replica.receive operations) := by
  have seen_iff : ∀ operation ∈ operations, (replica.hasSeen operation = true ↔
      replica.Holds operation) := fun operation present =>
    sound.hasSeen_iff lawful (known operation present)
  have enlarged : Sound history { replica with
      waiting := replica.waiting ++ operations.filter fun operation =>
        !replica.hasSeen operation } := by
    refine ⟨sound.known, sound.causal, sound.version_eq, sound.sequence_eq, ?_, ?_, ?_⟩
    · intro operation present
      rcases List.mem_append.1 present with old | new
      · exact sound.waiting_known operation old
      · exact known operation (List.mem_of_mem_filter new)
    · intro operation present
      rcases List.mem_append.1 present with old | new
      · exact sound.waiting_new operation old
      · have unseen := (List.mem_filter.1 new).2
        simp only [hasSeen, Bool.not_eq_true', Bool.or_eq_false_iff] at unseen
        exact unseen.1
    · rw [List.nodup_append]
      refine ⟨sound.waiting_nodup, nodup.filter _, ?_⟩
      rintro operation old other new rfl
      have unseen := (List.mem_filter.1 new).2
      have := (seen_iff operation (List.mem_of_mem_filter new)).2 (.inr old)
      simp [this] at unseen
  rcases enlarged.settle lawful with ⟨caught, settled⟩
  refine ⟨caught.sound, settled, caught.id_eq, caught.log_subset, ?_⟩
  intro operation
  rw [Replica.receive, caught.holds_iff]
  simp only [Holds, List.mem_append, List.mem_filter, Bool.not_eq_true']
  constructor
  · rintro (inLog | old | ⟨new, _⟩)
    · exact .inl (.inl inLog)
    · exact .inl (.inr old)
    · exact .inr new
  · rintro ((inLog | old) | told)
    · exact .inl inLog
    · exact .inr (.inl old)
    · cases seen : replica.hasSeen operation with
      | true =>
          rcases (seen_iff operation told).1 seen with inLog | old
          · exact .inl inLog
          · exact .inr (.inl old)
      | false => exact .inr (.inr ⟨told, rfl⟩)

theorem Learns.refl (sound : replica.Sound history) (settled : replica.Settled) :
    Learns history [] replica replica :=
  ⟨sound, settled, rfl, List.Subset.refl _, by simp⟩

/-- An update of others is taken up, unless no replica understands it. -/
theorem Sound.apply (lawful : history.Lawful) (sound : replica.Sound history)
    (settled : replica.Settled) {update : Update} (honest : update.IsFrom history)
    {after : Replica} (applied : replica.apply update = .ok after) :
    Learns history update.carried replica after := by
  cases update with
  | empty =>
      cases applied
      exact .refl sound settled
  | malformed => simp [Replica.apply] at applied
  | operations operations =>
      have learns := sound.receive lawful honest.known honest.nodup
      simp only [Replica.apply, Except.ok.injEq] at applied
      subst applied
      split
      · exact learns
      · exact ⟨learns.sound.withWalks _, learns.settled, learns.id_eq, learns.log_subset,
          learns.holds_iff⟩

theorem exists_apply (replica : Replica) {update : Update} (readable : update ≠ .malformed) :
    ∃ after, replica.apply update = .ok after := by
  cases update with
  | empty => exact ⟨replica, rfl⟩
  | malformed => exact absurd rfl readable
  | operations operations => exact ⟨_, rfl⟩

/-! ## Comparing replicas -/

/-- A settled replica that has been told a causal log has taken it up. -/
theorem Sound.mem_log_of_told (lawful : history.Lawful) (sound : replica.Sound history)
    (settled : replica.Settled) {log : List Operation}
    (known : ∀ operation ∈ log, operation ∈ history) (causal : Causal log)
    (told : ∀ operation ∈ log, replica.Holds operation) : log ⊆ replica.log := by
  induction log with
  | nil => simp
  | cons operation older ih =>
      have olderTaken := ih (fun other present => known other (List.mem_cons_of_mem _ present))
        causal.2.2 (fun other present => told other (List.mem_cons_of_mem _ present))
      refine List.cons_subset.2 ⟨?_, olderTaken⟩
      rcases told operation (by simp) with taken | waits
      · exact taken
      · exfalso
        have notReady := settled operation waits
        have canonical := lawful.canonical operation (known operation (by simp))
        have ready : isReady replica.version operation = true := by
          rw [isReady, Version.isBelow_iff canonical]
          intro maker
          have below := (Version.isBelow_iff canonical).1 causal.1 maker
          by_contra more
          have covered :
              (Version.ofLog older).covers ⟨maker, replica.version.count maker⟩ = true := by
            rw [Version.covers_iff]
            show replica.version.count maker < (Version.ofLog older).count maker
            omega
          rcases (Version.covers_ofLog_iff causal.2.2 _).1 covered with ⟨other, present, same⟩
          have := sound.covers_of_mem (olderTaken present)
          rw [same, Version.covers_iff] at this
          exact Nat.lt_irrefl _ this
        simp [ready] at notReady

/-- A replica that has only what two others have counts no more than they do. -/
theorem Sound.count_le_max (sound : replica.Sound history) {left right : Replica}
    (leftSound : left.Sound history) (rightSound : right.Sound history)
    (subset : ∀ operation ∈ replica.log, operation ∈ left.log ∨ operation ∈ right.log)
    (maker : ReplicaId) :
    replica.version.count maker ≤ max (left.version.count maker) (right.version.count maker) := by
  by_contra more
  rcases sound.exists_mem_of_lt_count (Nat.lt_of_not_le more) with ⟨operation, present, named⟩
  rcases subset operation present with inLeft | inRight
  · exact Nat.not_lt_of_le (Nat.le_max_left _ _) (leftSound.lt_count_of_mem inLeft named)
  · exact Nat.not_lt_of_le (Nat.le_max_right _ _) (rightSound.lt_count_of_mem inRight named)

theorem Sound.count_le_of_log_subset (sound : replica.Sound history) {other : Replica}
    (otherSound : other.Sound history) (subset : replica.log ⊆ other.log) (maker : ReplicaId) :
    replica.version.count maker ≤ other.version.count maker := by
  simpa using sound.count_le_max otherSound otherSound
    (fun operation present => .inl (subset present)) maker

theorem Sound.version_eq_of_log_subset (sound : replica.Sound history) {other : Replica}
    (otherSound : other.Sound history) (subset : replica.log ⊆ other.log)
    (superset : other.log ⊆ replica.log) : replica.version = other.version := by
  apply Version.ext_of_count sound.canonical otherSound.canonical
  intro maker
  exact Nat.le_antisymm (sound.count_le_of_log_subset otherSound subset maker)
    (otherSound.count_le_of_log_subset sound superset maker)

/-- Replicas of one document with the same version have taken up the same operations. -/
theorem Sound.mem_log_iff_of_version_eq (lawful : history.Lawful) (sound : replica.Sound history)
    {other : Replica} (otherSound : other.Sound history) (same : replica.version = other.version)
    (operation : Operation) : operation ∈ replica.log ↔ operation ∈ other.log := by
  constructor
  · intro present
    apply otherSound.mem_log_of_covers lawful (sound.known operation present)
    rw [← same]
    exact sound.covers_of_mem present
  · intro present
    apply sound.mem_log_of_covers lawful (otherSound.known operation present)
    rw [same]
    exact otherSound.covers_of_mem present

theorem Sound.sequence_eq_of_version_eq (lawful : history.Lawful) (sound : replica.Sound history)
    {other : Replica} (otherSound : other.Sound history)
    (same : replica.version = other.version) : replica.sequence = other.sequence := by
  rw [sound.sequence_eq, otherSound.sequence_eq,
    Sequence.ofLog_eq_of_mem_iff lawful sound.known sound.causal otherSound.causal
      (sound.mem_log_iff_of_version_eq lawful otherSound same)]

/-- Replicas of one document with the same version have the same text. -/
theorem Sound.text_eq_of_version_eq (lawful : history.Lawful) (sound : replica.Sound history)
    {other : Replica} (otherSound : other.Sound history)
    (same : replica.version = other.version) : replica.text = other.text :=
  congrArg Sequence.text (sound.sequence_eq_of_version_eq lawful otherSound same)

end

end Replica

end Cowrite
