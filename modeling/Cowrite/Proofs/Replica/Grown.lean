import Cowrite.Proofs.Replica.Sound

/-!
# Replicas that have grown

Whatever a replica is told, it takes operations up one at a time, and each only after all that it
depends on. So every replica has grown from nothing (`Replica.Grown`): its version and its sequence
are those of its log, and each operation of the log was ready when it was taken up. Nothing is
assumed about those who tell it, not even that names are unique.

A new replica that is given the whole log takes the same steps again, so the full state of a
replica restores it (`Grown.restores_fullState`).

What is true of a replica at all times has to be kept up by two steps: making an operation
(`edit_induction`, `setText_induction`) and taking up one that waits (`settle_induction`). The
operations that an edit makes are new (`Makes`), and all others come from payloads
(`gathers_apply`).
-/

namespace Cowrite

namespace Replica

variable {replica : Replica}

/-! ## Steps -/

theorem deleteRun_induction {motive : Replica → Prop}
    (make : ∀ replica action, motive replica → motive (replica.make action)) (index count : Nat)
    (start : motive replica) : motive (replica.deleteRun index count) := by
  induction count generalizing replica with
  | zero => exact start
  | succ count ih =>
      apply ih
      rw [deleteAt]
      split
      · exact make _ _ start
      · exact start

theorem insertRun_induction {motive : Replica → Prop}
    (make : ∀ replica action, motive replica → motive (replica.make action)) (index : Nat)
    (text : Text) (start : motive replica) : motive (replica.insertRun index text) := by
  induction text generalizing replica index with
  | nil => exact start
  | cons char rest ih => exact ih _ (make _ _ start)

/-- What making an operation keeps up, an edit does. -/
theorem edit_induction {motive : Replica → Prop}
    (make : ∀ replica action, motive replica → motive (replica.make action)) (edit : Edit)
    (start : motive replica) : motive (replica.edit edit) :=
  insertRun_induction make _ _ (deleteRun_induction make _ _ start)

theorem setText_induction {motive : Replica → Prop}
    (make : ∀ replica action, motive replica → motive (replica.make action)) (text : Text)
    (start : motive replica) : motive (replica.setText text) := by
  rw [setText]
  split
  · exact start
  · exact edit_induction make _ start

/-- What taking up an operation that waits and is ready keeps up, settling does. -/
theorem settle_induction {motive : Replica → Prop}
    (takeUp : ∀ (replica : Replica) (operation : Operation) (rest : List Operation),
      isReady replica.version operation = true → operation ∈ replica.waiting →
        rest ⊆ replica.waiting → motive replica →
          motive (({ replica with waiting := rest } : Replica).takeUp operation))
    (start : motive replica) : motive replica.settle := by
  rw [settle]
  generalize replica.waiting.length = count
  induction count generalizing replica with
  | zero => exact start
  | succ count ih =>
      rw [settleUpTo]
      rcases found : nextReady replica.version replica.waiting with _ | ⟨operation, rest⟩
      · exact start
      · rcases perm_of_nextReady found with ⟨ready, perm⟩
        refine ih (takeUp _ _ _ ready (perm.mem_iff.2 (by simp)) ?_ start)
        exact fun other present => perm.mem_iff.2 (List.mem_cons_of_mem _ present)

/-! ## Replicas and their logs -/

/-- Whether each operation of a log, given newest first, was ready when the older ones had been
taken up. -/
def InOrder : List Operation → Prop
  | [] => True
  | operation :: older => isReady (Version.ofLog older) operation = true ∧ InOrder older

theorem InOrder.of_append {newer older : List Operation} (inOrder : InOrder (newer ++ older)) :
    InOrder older := by
  induction newer with
  | nil => exact inOrder
  | cons operation rest ih => exact ih inOrder.2

/-- A replica that holds what its log says, and took it up in the order of the log. -/
structure Grown (replica : Replica) : Prop where
  version_eq : replica.version = Version.ofLog replica.log
  sequence_eq : replica.sequence = Sequence.ofLog replica.log
  inOrder : InOrder replica.log

theorem grown_new (id : ReplicaId) : Grown { id } :=
  ⟨rfl, rfl, trivial⟩

theorem Grown.canonical (grown : replica.Grown) : replica.version.Canonical := by
  rw [grown.version_eq]
  exact Version.canonical_ofLog _

theorem Grown.takeUp (grown : replica.Grown) {operation : Operation}
    (ready : isReady replica.version operation = true) (waiting : List Operation) :
    (({ replica with waiting } : Replica).takeUp operation).Grown := by
  refine ⟨?_, ?_, ?_, grown.inOrder⟩
  · simp [Replica.takeUp, Version.ofLog, grown.version_eq]
  · simp [Replica.takeUp, Sequence.ofLog, grown.sequence_eq]
  · rwa [← grown.version_eq]

theorem Grown.make (grown : replica.Grown) (action : Action) : (replica.make action).Grown := by
  apply grown.takeUp _ replica.waiting
  show replica.version.isBelow replica.version = true
  rw [Version.isBelow_iff grown.canonical]
  exact fun maker => Nat.le_refl _

theorem Grown.receive (grown : replica.Grown) (operations : List Operation) :
    (replica.receive operations).Grown := by
  refine settle_induction ?_ ⟨grown.version_eq, grown.sequence_eq, grown.inOrder⟩
  intro other operation rest ready _ _ still
  exact still.takeUp ready rest

theorem Grown.withWalks (grown : replica.Grown) (walks : List Walk) :
    Grown { replica with walks } :=
  ⟨grown.version_eq, grown.sequence_eq, grown.inOrder⟩

theorem Grown.apply (grown : replica.Grown) {payload : Update} {after : Replica}
    (applied : replica.apply payload = .ok after) : after.Grown := by
  cases payload with
  | empty =>
      cases applied
      exact grown
  | malformed => cases applied
  | operations operations =>
      simp only [Replica.apply, Except.ok.injEq] at applied
      subst applied
      split
      · exact grown.receive operations
      · exact (grown.receive operations).withWalks _

/-- Whether a replica may have become another one by taking operations up. -/
structure Extends (before after : Replica) : Prop where
  id_eq : after.id = before.id
  log_subset : before.log ⊆ after.log
  count_le : ∀ maker, before.version.count maker ≤ after.version.count maker

theorem Extends.refl (replica : Replica) : replica.Extends replica :=
  ⟨rfl, List.Subset.refl _, fun _ => Nat.le_refl _⟩

theorem Extends.trans {first second third : Replica} (one : first.Extends second)
    (two : second.Extends third) : first.Extends third :=
  ⟨two.id_eq.trans one.id_eq, fun _ present => two.log_subset (one.log_subset present),
    fun maker => Nat.le_trans (one.count_le maker) (two.count_le maker)⟩

theorem Grown.extends_takeUp (grown : replica.Grown) (operation : Operation)
    (waiting : List Operation) :
    replica.Extends (({ replica with waiting } : Replica).takeUp operation) := by
  refine ⟨rfl, List.subset_cons_self _ _, ?_⟩
  intro maker
  show _ ≤ (replica.version.bump operation.id.replica).count maker
  rw [Version.count_bump grown.canonical]
  split
  case isTrue same =>
    rw [same]
    exact Nat.le_succ _
  case isFalse => exact Nat.le_refl _

/-- Whether a replica has become another one by making operations: they are new to the version
before, and the version after covers them. -/
structure Makes (before after : Replica) : Prop where
  grown : after.Grown
  extended : before.Extends after
  waiting_eq : after.waiting = before.waiting
  made : ∀ operation ∈ after.log, operation ∈ before.log ∨
    after.version.covers operation.id = true ∧ before.version.covers operation.id = false

theorem Makes.refl (grown : replica.Grown) : replica.Makes replica :=
  ⟨grown, .refl replica, rfl, fun _ present => .inl present⟩

theorem Makes.make {other : Replica} (makes : replica.Makes other) (action : Action) :
    replica.Makes (other.make action) := by
  have went := makes.grown.extends_takeUp
    { id := ⟨other.id, other.version.count other.id⟩, context := other.version, action }
    other.waiting
  refine ⟨makes.grown.make action, makes.extended.trans went, makes.waiting_eq, ?_⟩
  intro operation present
  rcases List.mem_cons.1 present with rfl | older
  · right
    have before := makes.extended.count_le other.id
    constructor
    · rw [Version.covers_iff]
      show _ < (other.version.bump other.id).count other.id
      rw [Version.count_bump makes.grown.canonical, if_pos rfl]
      exact Nat.lt_succ_self _
    · simpa [Version.covers] using before
  · rcases makes.made operation older with known | ⟨covered, unknown⟩
    · exact .inl known
    · rw [Version.covers_iff] at covered
      exact .inr ⟨Version.covers_iff.2 (Nat.lt_of_lt_of_le covered (went.count_le _)), unknown⟩

theorem Grown.makes_edit (grown : replica.Grown) (edit : Edit) :
    replica.Makes (replica.edit edit) :=
  edit_induction (fun _ action makes => makes.make action) edit (.refl grown)

theorem Grown.makes_setText (grown : replica.Grown) (text : Text) :
    replica.Makes (replica.setText text) :=
  setText_induction (fun _ action makes => makes.make action) text (.refl grown)

theorem Grown.extends_receive (grown : replica.Grown) (operations : List Operation) :
    replica.Extends (replica.receive operations) := by
  have both : (replica.receive operations).Grown ∧
      replica.Extends (replica.receive operations) := by
    refine settle_induction (motive := fun other => other.Grown ∧ replica.Extends other) ?_
      ⟨⟨grown.version_eq, grown.sequence_eq, grown.inOrder⟩,
        ⟨rfl, List.Subset.refl _, fun _ => Nat.le_refl _⟩⟩
    rintro other operation rest ready _ _ ⟨still, went⟩
    exact ⟨still.takeUp ready rest, went.trans (still.extends_takeUp operation rest)⟩
  exact both.2

theorem Grown.extends_apply (grown : replica.Grown) {payload : Update} {after : Replica}
    (applied : replica.apply payload = .ok after) : replica.Extends after := by
  cases payload with
  | empty =>
      cases applied
      exact .refl replica
  | malformed => cases applied
  | operations operations =>
      have went := grown.extends_receive operations
      simp only [Replica.apply, Except.ok.injEq] at applied
      subst applied
      split
      · exact went
      · exact ⟨went.id_eq, went.log_subset, went.count_le⟩

/-! ## What comes from others -/

/-- Whether all that a replica holds it held before, or was told. -/
structure Gathers (before : Replica) (operations : List Operation) (after : Replica) : Prop where
  log : ∀ operation ∈ after.log,
    operation ∈ before.log ∨ operation ∈ before.waiting ∨ operation ∈ operations
  waiting : ∀ operation ∈ after.waiting, operation ∈ before.waiting ∨ operation ∈ operations

theorem gathers_receive (replica : Replica) (operations : List Operation) :
    replica.Gathers operations (replica.receive operations) := by
  refine settle_induction (motive := replica.Gathers operations) ?_ ⟨fun _ => .inl, ?_⟩
  · intro other operation rest _ waits kept gathers
    refine ⟨?_, fun another present => gathers.waiting another (kept present)⟩
    intro another present
    rcases List.mem_cons.1 present with rfl | older
    · exact .inr (gathers.waiting another waits)
    · exact gathers.log another older
  · intro operation present
    rcases List.mem_append.1 present with waits | new
    · exact .inl waits
    · exact .inr (List.mem_of_mem_filter new)

theorem gathers_apply {payload : Update} {after : Replica}
    (applied : replica.apply payload = .ok after) : replica.Gathers payload.carried after := by
  cases payload with
  | empty =>
      cases applied
      exact ⟨fun _ => .inl, fun _ => .inl⟩
  | malformed => cases applied
  | operations operations =>
      have received := replica.gathers_receive operations
      simp only [Replica.apply, Except.ok.injEq] at applied
      subst applied
      split
      · exact received
      · exact ⟨received.log, received.waiting⟩

/-! ## Restoring a replica -/

/-- A replica with a given log, for which some operations wait. -/
def ofLog (id : ReplicaId) (log waiting : List Operation) : Replica :=
  { id, version := .ofLog log, log, waiting, sequence := .ofLog log }

/-- What waits in the order of a log is taken up in that order. -/
theorem settleUpTo_ofLog (id : ReplicaId) {log waiting : List Operation}
    (inOrder : InOrder (waiting.reverse ++ log)) :
    settleUpTo waiting.length (ofLog id log waiting) = ofLog id (waiting.reverse ++ log) [] := by
  induction waiting generalizing log with
  | nil => rfl
  | cons operation rest ih =>
      rw [List.reverse_cons, List.append_assoc, List.singleton_append] at inOrder ⊢
      have ready : isReady (Version.ofLog log) operation = true := inOrder.of_append.1
      have next : nextReady (ofLog id log (operation :: rest)).version
          (ofLog id log (operation :: rest)).waiting = some (operation, rest) := by
        simp [nextReady, ofLog, ready]
      rw [List.length_cons, settleUpTo, next]
      exact ih inOrder

theorem receive_reverse (id : ReplicaId) {log : List Operation} (inOrder : InOrder log) :
    ({ id } : Replica).receive log.reverse = ofLog id log [] := by
  have unseen : log.reverse.filter (fun operation => !({ id } : Replica).hasSeen operation) =
      log.reverse := by
    rw [List.filter_eq_self]
    intro operation _
    simp [hasSeen, Version.covers, Version.count_empty]
  rw [receive, unseen, settle]
  have whole : InOrder (log.reverse.reverse ++ []) := by
    simpa using inOrder
  have settled := settleUpTo_ofLog id whole
  rw [List.reverse_reverse, List.append_nil] at settled
  exact settled

/-- A replica with operations in its log has a full state that says so. -/
theorem Grown.fullState_eq (grown : replica.Grown) (written : replica.log ≠ []) :
    replica.fullState = .operations replica.log.reverse := by
  have differs : Version.empty.agreesWith replica.version = false := by
    rw [← Bool.not_eq_true, Version.agreesWith_iff Version.canonical_empty grown.canonical]
    intro same
    cases log : replica.log with
    | nil => exact written log
    | cons operation older =>
        have counted := same operation.id.replica
        rw [grown.version_eq, log, Version.ofLog,
          Version.count_bump (Version.canonical_ofLog older), if_pos rfl] at counted
        exact absurd counted (Nat.succ_ne_zero _).symm
  simp [fullState, updateSince, differs, Version.covers, Version.count_empty]

end Replica

/-- Whether somebody with nothing gets the whole of a document from an update. -/
def Update.Restores (update : Update) (replica : Replica) : Prop :=
  ∀ id, ∃ restored, ({ id } : Replica).apply update = .ok restored ∧
    restored.version = replica.version ∧ restored.text = replica.text

theorem Replica.Grown.restores_fullState {replica : Replica} (grown : replica.Grown) :
    replica.fullState.Restores replica := by
  intro id
  by_cases written : replica.log = []
  · have nothing : replica.fullState = .empty := by
      rw [fullState, updateSince, grown.version_eq, written]
      rfl
    refine ⟨{ id }, by rw [nothing]; rfl, ?_, ?_⟩
    · rw [grown.version_eq, written]
      rfl
    · rw [Replica.text, Replica.text, grown.sequence_eq, written]
      rfl
  · have text : (ofLog id replica.log []).text = replica.text := by
      rw [Replica.text, Replica.text, grown.sequence_eq]
      rfl
    rw [grown.fullState_eq written]
    simp only [Replica.apply, receive_reverse id grown.inOrder]
    split
    · exact ⟨_, rfl, grown.version_eq.symm, text⟩
    · exact ⟨_, rfl, grown.version_eq.symm, text⟩

end Cowrite
