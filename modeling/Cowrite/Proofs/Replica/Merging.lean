import Cowrite.Proofs.Replica.Circle

/-!
# Edits that are made apart

Two replicas with the same version write on without hearing of one another, and then each is told
what the other one did. Each of them has the operations of both logs then, and no others
(`Replica.Apart.mem_log_iff`): nothing that waited was waiting for these, as nobody can have built
on an operation before it was made (`Apart.waits`).

So all depends on the sequence of a joint log. Wherever one side has changed nothing, the joint
sequence is that of the other side (`Sequence.mem_ofLog_joint_iff`). If one side has changed
nothing behind some character, and the other one nothing before it, then the joint sequence has the
front of the one and the back of the other (`Sequence.ofLog_joint`). Edits of disjoint spans are
told apart by the first character between them, and this is how both survive in their places
(`Circle.Reachable.merge_edits`).
-/

namespace Cowrite

/-! ## Joint logs -/

namespace Sequence

theorem nodup_of_sorted {sequence : Sequence} (sorted : sequence.Pairwise Element.Before) :
    sequence.Nodup := by
  refine sorted.imp ?_
  rintro element _ before rfl
  exact Path.not_before_self _ before

/-- A sorted sequence, behind one of its characters. -/
theorem mem_back_iff {front back : Sequence} {pivot : Element}
    (sorted : (front ++ pivot :: back).Pairwise Element.Before) (element : Element) :
    element ∈ back ↔ element ∈ front ++ pivot :: back ∧ pivot.Before element := by
  rcases List.pairwise_append.1 sorted with ⟨_, tail, across⟩
  rcases List.pairwise_cons.1 tail with ⟨first, _⟩
  constructor
  · intro present
    exact ⟨by simp [present], first element present⟩
  · rintro ⟨present, behind⟩
    rcases List.mem_append.1 present with early | late
    · exact absurd behind (across element early pivot (by simp)).asymm
    · rcases List.mem_cons.1 late with rfl | later
      · exact absurd behind (Path.not_before_self _)
      · exact later

/-- A sorted sequence, up to one of its characters. -/
theorem mem_front_iff {front back : Sequence} {pivot : Element}
    (sorted : (front ++ pivot :: back).Pairwise Element.Before) (element : Element) :
    element ∈ front ++ [pivot] ↔ element ∈ front ++ pivot :: back ∧ ¬pivot.Before element := by
  have split : element ∈ front ++ pivot :: back ↔ element ∈ front ++ [pivot] ∨ element ∈ back := by
    simp [or_assoc]
  have behind := mem_back_iff sorted element
  rcases List.pairwise_append.1 sorted with ⟨_, _, across⟩
  constructor
  · intro present
    refine ⟨split.2 (.inl present), ?_⟩
    rcases List.mem_append.1 present with early | last
    · exact (across element early pivot (by simp)).asymm
    · rw [List.mem_singleton.1 last]
      exact Path.not_before_self _
  · rintro ⟨present, notBehind⟩
    rcases split.1 present with early | late
    · exact early
    · exact absurd (behind.1 late).2 notBehind

/-- Two logs that go on from the operations of an old one, and a log of what is in either. -/
structure Joint (history : History) (old left right joint : List Operation) : Prop where
  lawful : history.Lawful
  known : ∀ operation ∈ joint, operation ∈ history
  old_causal : Causal old
  left_causal : Causal left
  right_causal : Causal right
  joint_causal : Causal joint
  old_left : old ⊆ left
  old_right : old ⊆ right
  mem_iff : ∀ operation, operation ∈ joint ↔ operation ∈ left ∨ operation ∈ right

section

variable {history : History} {old left right joint : List Operation}

theorem Joint.symm (logs : Joint history old left right joint) :
    Joint history old right left joint :=
  ⟨logs.lawful, logs.known, logs.old_causal, logs.right_causal, logs.left_causal,
    logs.joint_causal, logs.old_right, logs.old_left,
    fun operation => (logs.mem_iff operation).trans or_comm⟩

theorem Joint.left_known (logs : Joint history old left right joint) :
    ∀ operation ∈ left, operation ∈ history :=
  fun operation present => logs.known operation ((logs.mem_iff operation).2 (.inl present))

theorem Joint.reflects_old (logs : Joint history old left right joint) :
    Reflects old (ofLog old) :=
  reflects_ofLog logs.lawful (fun operation present =>
    logs.left_known operation (logs.old_left present)) logs.old_causal

theorem Joint.reflects_left (logs : Joint history old left right joint) :
    Reflects left (ofLog left) :=
  reflects_ofLog logs.lawful logs.left_known logs.left_causal

theorem Joint.reflects_joint (logs : Joint history old left right joint) :
    Reflects joint (ofLog joint) :=
  reflects_ofLog logs.lawful logs.known logs.joint_causal

/-- What is deleted in a log was inserted there. -/
theorem exists_mem_of_deletes (lawful : history.Lawful)
    (known : ∀ operation ∈ left, operation ∈ history) (causal : Causal left)
    {operation : Operation} (present : operation ∈ left) {inserted : Element}
    (visible : inserted.deleted = false) (deletes : operation.deletes inserted.id = true) :
    ∃ other ∈ left, other.id = inserted.id := by
  rw [← Version.covers_ofLog_iff causal]
  by_contra uncovered
  rw [Bool.not_eq_true] at uncovered
  have kept := shown_eq_self_of_new lawful known causal visible uncovered
  have gone : (shown left inserted).deleted = true :=
    List.any_eq_true.2 ⟨operation, present, deletes⟩
  rw [kept, visible] at gone
  exact Bool.noConfusion gone

/-- Where the right log shows nothing new, it has inserted nothing. -/
theorem Joint.mem_old_of_still (logs : Joint history old left right joint) {operation : Operation}
    {inserted : Element} (inserts : operation.element? = some inserted)
    (inRight : operation ∈ right)
    (still : ∀ other ∈ ofLog right, other.path = inserted.path → other ∈ ofLog old) :
    operation ∈ old ∧ shown right inserted = shown old inserted := by
  have shows : shown right inserted ∈ ofLog right :=
    (logs.symm.reflects_left.mem_iff _).2 ⟨operation, inRight, inserted, inserts, rfl⟩
  rcases (logs.reflects_old.mem_iff _).1 (still _ shows rfl) with
    ⟨other, inOld, element, otherInserts, same⟩
  have sameId : other.id = operation.id := by
    rw [← Operation.id_of_element? otherInserts, ← Operation.id_of_element? inserts]
    exact (congrArg Element.id same).symm
  have : other = operation := logs.lawful.unique other
    (logs.left_known other (logs.old_left inOld)) operation
    (logs.symm.left_known operation inRight) sameId
  subst this
  cases inserts.symm.trans otherInserts
  exact ⟨inOld, same⟩

/-- Where the right log shows nothing new, it has deleted nothing. -/
theorem Joint.shown_joint_eq (logs : Joint history old left right joint) {operation : Operation}
    {inserted : Element} (inserts : operation.element? = some inserted)
    (inJoint : operation ∈ joint)
    (still : ∀ other ∈ ofLog right, other.path = inserted.path → other ∈ ofLog old) :
    shown joint inserted = shown left inserted := by
  have visible := Operation.deleted_of_element? inserts
  have both : joint.any (·.deletes inserted.id) = left.any (·.deletes inserted.id) := by
    rw [Bool.eq_iff_iff, List.any_eq_true, List.any_eq_true]
    constructor
    · rintro ⟨deletion, present, deletes⟩
      rcases (logs.mem_iff deletion).1 present with inLeft | inRight
      · exact ⟨deletion, inLeft, deletes⟩
      · rcases exists_mem_of_deletes logs.lawful logs.symm.left_known logs.right_causal inRight
          visible deletes with ⟨other, otherRight, sameId⟩
        have : other = operation := logs.lawful.unique other
          (logs.symm.left_known other otherRight) operation (logs.known operation inJoint)
          (sameId.trans (Operation.id_of_element? inserts))
        subst this
        have same := (logs.mem_old_of_still inserts otherRight still).2
        have gone : (shown old inserted).deleted = true := by
          rw [← same]
          exact List.any_eq_true.2 ⟨deletion, inRight, deletes⟩
        rcases List.any_eq_true.1 gone with ⟨earlier, inOld, earlierDeletes⟩
        exact ⟨earlier, logs.old_left inOld, earlierDeletes⟩
    · rintro ⟨deletion, inLeft, deletes⟩
      exact ⟨deletion, (logs.mem_iff deletion).2 (.inl inLeft), deletes⟩
  simp [shown, both]

/-- Where the right log shows nothing new, the joint log shows what the left one does. -/
theorem mem_ofLog_joint_iff (logs : Joint history old left right joint) {element : Element}
    (still : ∀ other ∈ ofLog right, other.path = element.path → other ∈ ofLog old) :
    element ∈ ofLog joint ↔ element ∈ ofLog left := by
  rw [logs.reflects_joint.mem_iff, logs.reflects_left.mem_iff]
  constructor
  · rintro ⟨operation, inJoint, inserted, inserts, rfl⟩
    have inLeft : operation ∈ left := by
      rcases (logs.mem_iff operation).1 inJoint with inLeft | inRight
      · exact inLeft
      · exact logs.old_left (logs.mem_old_of_still inserts inRight still).1
    exact ⟨operation, inLeft, inserted, inserts, logs.shown_joint_eq inserts inJoint still⟩
  · rintro ⟨operation, inLeft, inserted, inserts, rfl⟩
    have inJoint := (logs.mem_iff operation).2 (.inl inLeft)
    exact ⟨operation, inJoint, inserted, inserts, (logs.shown_joint_eq inserts inJoint still).symm⟩

/-- One side has changed nothing behind a character, the other one nothing before it. -/
theorem ofLog_joint (logs : Joint history old left right joint) {front back front' back' : Sequence}
    {pivot : Element} (oldSplit : ofLog old = front ++ pivot :: back)
    (leftSplit : ofLog left = front' ++ pivot :: back)
    (rightSplit : ofLog right = front ++ pivot :: back') :
    ofLog joint = front' ++ pivot :: back' := by
  have oldSorted := logs.reflects_old.lawful.sorted
  have leftSorted := logs.reflects_left.lawful.sorted
  have rightSorted := logs.symm.reflects_left.lawful.sorted
  have jointSorted := logs.reflects_joint.lawful.sorted
  rw [oldSplit] at oldSorted
  rw [leftSplit] at leftSorted
  rw [rightSplit] at rightSorted
  have sorted : (front' ++ pivot :: back').Pairwise Element.Before := by
    have leftParts := List.pairwise_append.1 leftSorted
    have rightParts := List.pairwise_append.1 rightSorted
    refine List.pairwise_append.2 ⟨leftParts.1, rightParts.2.1, ?_⟩
    intro early earlyMem late lateMem
    have toPivot := leftParts.2.2 early earlyMem pivot (by simp)
    rcases List.mem_cons.1 lateMem with rfl | later
    · exact toPivot
    · exact toPivot.trans ((List.pairwise_cons.1 rightParts.2.1).1 late later)
  apply eq_of_perm jointSorted sorted
  rw [List.perm_ext_iff_of_nodup (nodup_of_sorted jointSorted) (nodup_of_sorted sorted)]
  intro element
  by_cases behind : pivot.Before element
  · have still : ∀ other ∈ ofLog left, other.path = element.path → other ∈ ofLog old := by
      intro other present same
      have otherBehind : pivot.Before other := by
        rwa [Element.Before, same]
      rw [leftSplit] at present
      rw [oldSplit]
      have inBack := (mem_back_iff leftSorted other).2 ⟨present, otherBehind⟩
      exact ((mem_back_iff oldSorted other).1 inBack).1
    rw [mem_ofLog_joint_iff logs.symm still, rightSplit]
    have fromRight := mem_back_iff rightSorted element
    have fromJoint := mem_back_iff sorted element
    tauto
  · have still : ∀ other ∈ ofLog right, other.path = element.path → other ∈ ofLog old := by
      intro other present same
      have otherNot : ¬pivot.Before other := by
        rwa [Element.Before, same]
      rw [rightSplit] at present
      rw [oldSplit]
      have inFront := (mem_front_iff rightSorted other).2 ⟨present, otherNot⟩
      exact ((mem_front_iff oldSorted other).1 inFront).1
    rw [mem_ofLog_joint_iff logs still, leftSplit]
    have fromLeft := mem_front_iff leftSorted element
    have fromJoint := mem_front_iff sorted element
    tauto

end

end Sequence

/-! ## Telling one another -/

namespace Replica

/-- Whether a replica has written on, whatever others wrote meanwhile, and has heard nothing. -/
structure GoesOn (history larger : History) (before after : Replica) : Prop where
  active_before : before.Active history
  active : after.Active larger
  waiting_eq : after.waiting = before.waiting
  log_subset : before.log ⊆ after.log
  log_new : ∀ operation ∈ after.log, operation ∈ before.log ∨ operation ∉ history

/-- Two replicas of one document that had the same version and have both gone on from there. -/
structure Apart (history larger : History) (before after before' after' : Replica) : Prop where
  lawful : history.Lawful
  larger_lawful : larger.Lawful
  subset : history ⊆ larger
  one : GoesOn history larger before after
  other : GoesOn history larger before' after'
  same : before.version = before'.version

section

variable {history larger : History} {before after before' after' told : Replica}

theorem Apart.symm (apart : Apart history larger before after before' after') :
    Apart history larger before' after' before after :=
  ⟨apart.lawful, apart.larger_lawful, apart.subset, apart.other, apart.one, apart.same.symm⟩

theorem apart_of_writes {middle : History} (lawful : history.Lawful)
    (active : before.Active history) (active' : before'.Active history)
    (differ : before.id ≠ before'.id) (same : before.version = before'.version)
    (one : Writes history before middle after) (other : Writes middle before' larger after') :
    Apart history larger before after before' after' := by
  refine ⟨lawful, other.lawful, one.subset.trans other.subset, ⟨active, ?_, one.waiting_eq,
    one.log_subset, one.log_new⟩, ⟨active', other.active, other.waiting_eq, other.log_subset, ?_⟩,
    same⟩
  · apply one.active.mono other.subset
    intro operation present new made
    rw [other.own operation present new, one.id_eq] at made
    exact differ made.symm
  · intro operation present
    rcases other.log_new operation present with old | new
    · exact .inl old
    · exact .inr fun known => new (one.subset known)

/-- What waited when the two replicas parted still has to wait: it builds on something that was made
before, and that neither of them has taken up. -/
theorem Apart.waits (apart : Apart history larger before after before' after')
    {operation : Operation} (waits : operation ∈ before.waiting) {log : List Operation}
    (causal : Causal log)
    (held : ∀ other ∈ log, other ∈ after.log ∨ other ∈ after'.log) :
    operation.context.isBelow (Version.ofLog log) = false := by
  by_contra below
  rw [Bool.not_eq_false] at below
  have inHistory := apart.one.active_before.waiting_known operation waits
  have canonical := apart.lawful.canonical operation inHistory
  have ready : isReady before.version operation = true := by
    rw [isReady, Version.isBelow_iff canonical]
    intro maker
    by_contra more
    have needed : operation.context.covers ⟨maker, before.version.count maker⟩ = true := by
      rw [Version.covers_iff]
      show before.version.count maker < operation.context.count maker
      omega
    rcases apart.lawful.closed operation inHistory _ needed with ⟨found, foundMem, foundId⟩
    rcases (Version.covers_ofLog_iff causal _).1 (Version.covers_of_isBelow below needed)
      with ⟨other, inLog, otherId⟩
    have : other = found := by
      have otherMem : other ∈ larger := by
        rcases held other inLog with inOne | inOther
        · exact apart.one.active.known other inOne
        · exact apart.other.active.known other inOther
      exact apart.larger_lawful.unique other otherMem found (apart.subset foundMem)
        (otherId.trans foundId.symm)
    subst this
    have covered : before.version.covers other.id = true := by
      rcases held other inLog with inOne | inOther
      · rcases apart.one.log_new other inOne with old | new
        · exact apart.one.active_before.covers_of_mem old
        · exact absurd foundMem new
      · rw [apart.same]
        rcases apart.other.log_new other inOther with old | new
        · exact apart.other.active_before.covers_of_mem old
        · exact absurd foundMem new
    rw [otherId, Version.covers_iff] at covered
    exact Nat.lt_irrefl _ covered
  have notReady := apart.one.active_before.settled operation waits
  rw [ready] at notReady
  exact Bool.noConfusion notReady

theorem Apart.learns (apart : Apart history larger before after before' after')
    (applied : after.apply (after'.updateSince before.version) = .ok told) :
    Learns larger (after'.updateSince before.version).carried after told :=
  apart.one.active.toSound.apply apart.larger_lawful apart.one.active.settled
    ((apart.other.active.tells_updateSince before.version).isFrom apart.other.active.known) applied

/-- What an update leaves out was in the log before the two replicas parted. -/
theorem Apart.log_subset (apart : Apart history larger before after before' after')
    (applied : after.apply (after'.updateSince before.version) = .ok told) :
    after'.log ⊆ told.log := by
  have learns := apart.learns applied
  apply learns.sound.mem_log_of_told apart.larger_lawful learns.settled apart.other.active.known
    apart.other.active.causal
  intro operation present
  rw [learns.holds_iff]
  rcases apart.other.active.covers_or_mem_carried before.version present with covered | carried
  · have atFirst := apart.one.active.mem_log_of_covers apart.larger_lawful
      (apart.other.active.known operation present)
    rcases (apart.one.active_before.covers_iff _).1 covered with ⟨old, inLog, sameId⟩
    rw [← sameId] at atFirst
    exact .inl (.inl (atFirst (apart.one.active.covers_of_mem (apart.one.log_subset inLog))))
  · exact .inr carried

/-- Nothing is taken up that neither of the two replicas had. -/
theorem Apart.mem_or_mem (apart : Apart history larger before after before' after')
    (applied : after.apply (after'.updateSince before.version) = .ok told) {log : List Operation}
    (causal : Causal log) (subset : log ⊆ told.log) :
    ∀ operation ∈ log, operation ∈ after.log ∨ operation ∈ after'.log := by
  induction log with
  | nil => simp
  | cons operation older ih =>
      have olderHeld := ih causal.2.2 fun other present => subset (List.mem_cons_of_mem _ present)
      refine List.forall_mem_cons.2 ⟨?_, olderHeld⟩
      have holds : told.Holds operation := .inl (subset (by simp))
      rcases ((apart.learns applied).holds_iff operation).1 holds with (inLog | waits) | carried
      · exact .inl inLog
      · rw [apart.one.waiting_eq] at waits
        have stays := apart.waits waits causal.2.2 olderHeld
        rw [causal.1] at stays
        exact Bool.noConfusion stays
      · exact .inr ((apart.other.active.tells_updateSince before.version).subset carried)

/-- Whoever is told what the other one did has the operations of both, and no others. -/
theorem Apart.mem_log_iff (apart : Apart history larger before after before' after')
    (applied : after.apply (after'.updateSince before.version) = .ok told) (operation : Operation) :
    operation ∈ told.log ↔ operation ∈ after.log ∨ operation ∈ after'.log := by
  have learns := apart.learns applied
  constructor
  · exact apart.mem_or_mem applied learns.sound.causal (List.Subset.refl _) operation
  · rintro (inOne | inOther)
    · exact learns.log_subset inOne
    · exact apart.log_subset applied inOther

/-- A replica with the operations of both, of which one has left the back of the document alone and
the other one the front. -/
theorem Apart.sequence_eq (apart : Apart history larger before after before' after')
    (sound : told.Sound larger)
    (mem_iff : ∀ operation, operation ∈ told.log ↔ operation ∈ after.log ∨ operation ∈ after'.log)
    {front back front' back' : Sequence} {pivot : Element}
    (split : before.sequence = front ++ pivot :: back)
    (oneSplit : after.sequence = front' ++ pivot :: back)
    (otherSplit : after'.sequence = front ++ pivot :: back') :
    told.sequence = front' ++ pivot :: back' := by
  have known : before.log ⊆ after'.log := by
    intro operation present
    exact apart.other.log_subset ((apart.one.active_before.mem_log_iff_of_version_eq apart.lawful
      apart.other.active_before.toSound apart.same operation).1 present)
  have logs : Sequence.Joint larger before.log after.log after'.log told.log :=
    ⟨apart.larger_lawful, sound.known, apart.one.active_before.causal, apart.one.active.causal,
      apart.other.active.causal, sound.causal, apart.one.log_subset, known, mem_iff⟩
  rw [apart.one.active_before.sequence_eq] at split
  rw [apart.one.active.sequence_eq] at oneSplit
  rw [apart.other.active.sequence_eq] at otherSplit
  rw [sound.sequence_eq, Sequence.ofLog_joint logs split oneSplit otherSplit]

/-! ## Edits on different sides of a character -/

variable {early removed rest removed' late : Text} {char : Char} {one other : Edit}

/-- Neither of the edits reaches the character between them. -/
theorem Active.exists_apart (lawful : history.Lawful) (active : before.Active history)
    (active' : before'.Active history) (differ : before.id ≠ before'.id)
    (same : before.version = before'.version)
    (parts : before.text = early ++ (removed ++ (char :: rest ++ (removed' ++ late))))
    (start : one.start = Text.byteSize early)
    (stop : one.stop = Text.byteSize (early ++ removed))
    (start' : other.start = Text.byteSize (early ++ removed ++ char :: rest))
    (stop' : other.stop = Text.byteSize (early ++ removed ++ char :: rest ++ removed')) :
    ∃ (larger : History) (front front' back back' : Sequence) (pivot : Element),
      Apart history larger before (before.edit one) before' (before'.edit other) ∧
        before.sequence = front ++ pivot :: back ∧
          (before.edit one).sequence = front' ++ pivot :: back ∧
            (before'.edit other).sequence = front ++ pivot :: back' ∧
              Sequence.text (front' ++ pivot :: back') =
                early ++ one.text ++ char :: rest ++ other.text ++ late := by
  have atPivot : before.text = (early ++ removed) ++ char :: (rest ++ (removed' ++ late)) := by
    simp [parts]
  rcases Sequence.exists_pivot atPivot with
    ⟨front, pivot, back, split, visible, frontText, rfl, backText⟩
  have ahead : before.sequence = [] ++ (front ++ pivot :: back) := split
  have frontParts : front.text = early ++ (removed ++ []) := by
    rw [frontText, List.append_nil]
  rcases active.editInside lawful ahead (.inl rfl) frontParts (by simpa using start)
    (by simpa using stop) with ⟨half, front', writes, oneSplit, oneText⟩
  have later : before'.Active half := by
    apply active'.mono writes.subset
    intro operation present new
    rwa [writes.own operation present new]
  have behind : before'.sequence = (front ++ [pivot]) ++ (back ++ []) := by
    rw [← active.sequence_eq_of_version_eq lawful active'.toSound same, split]
    simp
  have frontPivot : Sequence.text (front ++ [pivot]) = early ++ removed ++ [pivot.char] := by
    rw [Sequence.text_append, Sequence.text_cons_of_visible visible, frontText, Sequence.text_nil]
  rcases later.editInside writes.lawful behind (.inr ⟨front, pivot, rfl, visible⟩) backText
    (by rw [start', frontPivot]; simp) (by rw [stop', frontPivot]; simp; omega) with
    ⟨larger, back', writes', otherSplit, otherText⟩
  rw [List.append_assoc, List.append_nil, List.singleton_append] at otherSplit
  refine ⟨larger, front, front', back, back', pivot,
    apart_of_writes lawful active active' differ same writes writes', split, oneSplit, otherSplit,
    ?_⟩
  rw [Sequence.text_append, Sequence.text_cons_of_visible visible, oneText, otherText]
  simp

theorem Active.exchange_edits (lawful : history.Lawful) (active : before.Active history)
    (active' : before'.Active history) (differ : before.id ≠ before'.id)
    (same : before.version = before'.version)
    (parts : before.text = early ++ (removed ++ (char :: rest ++ (removed' ++ late))))
    (start : one.start = Text.byteSize early)
    (stop : one.stop = Text.byteSize (early ++ removed))
    (start' : other.start = Text.byteSize (early ++ removed ++ char :: rest))
    (stop' : other.stop = Text.byteSize (early ++ removed ++ char :: rest ++ removed')) :
    ∃ told told', (before.edit one).apply ((before'.edit other).updateSince before.version) =
        .ok told ∧
      (before'.edit other).apply ((before.edit one).updateSince before'.version) = .ok told' ∧
        told.text = early ++ one.text ++ char :: rest ++ other.text ++ late ∧
          told'.text = early ++ one.text ++ char :: rest ++ other.text ++ late := by
  rcases active.exists_apart lawful active' differ same parts start stop start' stop' with
    ⟨larger, front, front', back, back', pivot, apart, split, oneSplit, otherSplit, merged⟩
  rcases exists_apply (before.edit one)
    (apart.other.active.tells_updateSince before.version).readable with ⟨told, applied⟩
  rcases exists_apply (before'.edit other)
    (apart.one.active.tells_updateSince before'.version).readable with ⟨told', applied'⟩
  have mem_iff := apart.mem_log_iff applied
  have mem_iff' := apart.symm.mem_log_iff applied'
  refine ⟨told, told', applied, applied', ?_, ?_⟩
  · rw [text, apart.sequence_eq (apart.learns applied).sound mem_iff split oneSplit otherSplit,
      merged]
  · rw [text, apart.sequence_eq (apart.symm.learns applied').sound
      (fun operation => (mem_iff' operation).trans or_comm) split oneSplit otherSplit, merged]

end

end Replica

namespace Circle

variable {σ : Type} [DecidableEq σ] {circle : Circle σ}

/-- Edits of disjoint spans of one text, made at different replicas without hearing of one another,
both survive in their places. -/
theorem Reachable.merge_edits (reachable : circle.Reachable) {left right : σ}
    (differ : left ≠ right)
    (same : (circle.replicas left).token = (circle.replicas right).token) {text : Text}
    (shows : (circle.replicas left).text = text) {one other : Edit}
    (boundaries : ∀ offset ∈ [one.start, one.stop, other.start, other.stop],
      Text.isBoundary text offset = true)
    (forward : one.start ≤ one.stop) (apart : one.stop < other.start)
    (forward' : other.start ≤ other.stop) :
    let edited := (circle.replicas left).edit one
    let edited' := (circle.replicas right).edit other
    let merged := Text.upTo text one.start ++ one.text ++
      Text.between text one.stop other.start ++ other.text ++ Text.after text other.stop
    ∃ update update' told told',
      edited.updateSinceToken (circle.replicas right).token = .ok update ∧
        edited'.updateSinceToken (circle.replicas left).token = .ok update' ∧
          edited.apply update' = .ok told ∧ edited'.apply update = .ok told' ∧
            told.text = merged ∧ told'.text = merged := by
  intro edited edited' merged
  rcases reachable.coherent with ⟨history, coherent⟩
  rcases Text.exists_parts_of_apart boundaries forward apart forward' with
    ⟨early, removed, middle, removed', late, parts, nonempty, start, stop, start', stop'⟩
  rcases List.exists_cons_of_ne_nil nonempty with ⟨char, rest, rfl⟩
  have upTo : Text.upTo text one.start = early := by
    rw [parts, start, Text.upTo_append]
  have between : Text.between text one.stop other.start = char :: rest := by
    rw [parts, stop, start', ← List.append_assoc early, Text.byteSize_append _ (char :: rest),
      Text.between_append]
  have after : Text.after text other.stop = late := by
    rw [parts, stop', ← List.append_assoc early, ← List.append_assoc, ← List.append_assoc,
      Text.after_append]
  have distinct : (circle.replicas left).id ≠ (circle.replicas right).id :=
    fun sameId => differ (coherent.distinct left right sameId)
  rcases (coherent.active left).exchange_edits coherent.lawful (coherent.active right) distinct
    (VersionToken.known.inj same) (shows.trans parts) start stop start' stop' with
    ⟨told, told', applied, applied', toldText, toldText'⟩
  refine ⟨_, _, told, told', rfl, rfl, applied, applied', ?_, ?_⟩
  · simp only [merged, upTo, between, after]
    exact toldText
  · simp only [merged, upTo, between, after]
    exact toldText'

/-- One replica replaces the first of three characters by two, the other one the last by one of two
bytes, and the character between them stays. -/
theorem crossing_merge_edits :
    (crossing.replicas 0).text = ['a', 'c', 'x'] ∧
      (crossing.replicas 0).token = (crossing.replicas 1).token ∧
        ∃ update update' told told',
          ((crossing.replicas 0).edit ⟨0, 1, ['u', 'v']⟩).updateSinceToken
              (crossing.replicas 1).token = .ok update ∧
            ((crossing.replicas 1).edit ⟨2, 3, ['é']⟩).updateSinceToken
                (crossing.replicas 0).token = .ok update' ∧
              ((crossing.replicas 0).edit ⟨0, 1, ['u', 'v']⟩).apply update' = .ok told ∧
                ((crossing.replicas 1).edit ⟨2, 3, ['é']⟩).apply update = .ok told' ∧
                  told.text = ['u', 'v', 'c', 'é'] ∧ told'.text = ['u', 'v', 'c', 'é'] := by
  have reachable : crossing.Reachable := (Reachable.new fun _ _ same => Fin.ext same).performAll _
  refine ⟨by decide, by decide, ?_⟩
  exact reachable.merge_edits (by decide) (by decide) rfl (by decide) (by decide) (by decide)
    (by decide)

end Circle

end Cowrite
