import Cowrite.Proofs.Replica.Sequence
import Cowrite.Proofs.Text.Span
import Cowrite.Replica.Basic

/-!
# Replicas that show only their own characters

A replica takes up whatever operations it is given, so little is known about its sequence when
others do not keep to the rules. But as long as the text is empty, and then as long as all that is
visible was typed at the replica itself, the visible characters have names of their own
(`Replica.ShowsOwn`). That is enough for the number of characters: a deletion removes one character
at most, an insertion adds one, and a text that is set does not come out shorter
(`ShowsOwn.length_setText`). And whatever such a replica writes deletes no character of another one
(`ShowsOwn.spares_edit`, `ShowsOwn.spares_setText`).
-/

namespace Cowrite

namespace Version

/-- The count of the replica that makes an operation goes up, in whatever order the counts are. -/
theorem count_bump_self (version : Version) (replica : ReplicaId) :
    (version.bump replica).count replica = version.count replica + 1 := by
  have put : ∀ (number : Nat) (counts : List (ReplicaId × Nat)),
      countIn replica (setIn replica (number + 1) counts) = number + 1 := by
    intro number counts
    induction counts with
    | nil => simp [setIn, countIn]
    | cons entry rest ih =>
        rw [setIn]
        by_cases before : entry.1 < replica
        · rw [if_pos before, countIn, if_neg (Nat.ne_of_lt before), ih]
        · rw [if_neg before]
          simp [countIn]
  exact put _ version.counts

end Version

namespace Sequence

/-- The names of the visible characters. -/
def visibleIds (sequence : Sequence) : List OpId :=
  (sequence.filter fun element => !element.deleted).map (·.id)

theorem length_visibleIds (sequence : Sequence) :
    sequence.visibleIds.length = sequence.text.length := by
  simp [visibleIds, text]

theorem perm_visibleIds_insert (sequence : Sequence) {element : Element}
    (visible : element.deleted = false) :
    (sequence.insert element).visibleIds.Perm (element.id :: sequence.visibleIds) := by
  have kept := ((perm_insert sequence element).filter fun other => !other.deleted).map
    fun other : Element => other.id
  simpa [visibleIds, visible] using kept

theorem visibleIds_delete (sequence : Sequence) (id : OpId) :
    (sequence.delete id).visibleIds = sequence.visibleIds.filter (· != id) := by
  induction sequence with
  | nil => rfl
  | cons element rest ih =>
      simp only [visibleIds, delete, List.map_cons] at ih ⊢
      by_cases same : element.id = id
      · cases hidden : element.deleted with
        | true => simpa [same, hidden] using ih
        | false => simpa [same, hidden] using ih
      · cases hidden : element.deleted with
        | true => simpa [same, hidden] using ih
        | false => simpa [same, hidden] using ih

theorem mem_visibleIds_of_visible? {sequence : Sequence} {index : Nat} {id : OpId}
    (found : sequence.visible? index = some id) : id ∈ sequence.visibleIds := by
  rw [visible?, Option.map_eq_some_iff] at found
  rcases found with ⟨element, atIndex, rfl⟩
  exact List.mem_map_of_mem (List.mem_of_getElem? atIndex)

end Sequence

namespace Replica

/-- Whether the visible characters were all typed at the replica, each under another name. -/
structure ShowsOwn (replica : Replica) : Prop where
  distinct : replica.sequence.visibleIds.Nodup
  own : ∀ id ∈ replica.sequence.visibleIds,
    id.replica = replica.id ∧ id.index < replica.version.count replica.id

variable {replica : Replica}

theorem showsOwn_of_text_eq_nil (empty : replica.text = []) : replica.ShowsOwn := by
  have none : replica.sequence.visibleIds = [] := by
    rw [← List.length_eq_zero_iff, Sequence.length_visibleIds]
    exact congrArg List.length empty
  constructor
  · simp [none]
  · simp [none]

theorem ShowsOwn.insertAt (showing : replica.ShowsOwn) (index : Nat) (char : Char) :
    (replica.insertAt index char).ShowsOwn ∧
      (replica.insertAt index char).text.length = replica.text.length + 1 := by
  let element : Element :=
    { id := ⟨replica.id, replica.version.count replica.id⟩
      parent := (replica.sequence.spotAfter index).1
      side := (replica.sequence.spotAfter index).2
      char }
  have names : (replica.insertAt index char).sequence.visibleIds.Perm
      (element.id :: replica.sequence.visibleIds) :=
    Sequence.perm_visibleIds_insert replica.sequence rfl
  have count : (replica.insertAt index char).version.count replica.id =
      replica.version.count replica.id + 1 := Version.count_bump_self _ _
  refine ⟨⟨?_, ?_⟩, ?_⟩
  · rw [names.nodup_iff, List.nodup_cons]
    refine ⟨?_, showing.distinct⟩
    intro used
    exact Nat.lt_irrefl _ (showing.own _ used).2
  · intro id present
    change id.replica = replica.id ∧
      id.index < (replica.insertAt index char).version.count replica.id
    rw [count]
    rcases List.mem_cons.1 (names.mem_iff.1 present) with rfl | old
    · exact ⟨rfl, Nat.lt_succ_self _⟩
    · exact ⟨(showing.own id old).1, Nat.lt_succ_of_lt (showing.own id old).2⟩
  · have length := names.length_eq
    rw [Sequence.length_visibleIds, List.length_cons, Sequence.length_visibleIds] at length
    exact length

theorem ShowsOwn.deleteAt (showing : replica.ShowsOwn) (index : Nat) :
    (replica.deleteAt index).ShowsOwn ∧
      replica.text.length ≤ (replica.deleteAt index).text.length + 1 := by
  rw [Replica.deleteAt]
  cases found : replica.sequence.visible? index with
  | none => exact ⟨showing, Nat.le_succ _⟩
  | some target =>
      have names : (replica.make (.delete target)).sequence.visibleIds =
          replica.sequence.visibleIds.erase target := by
        rw [showing.distinct.erase_eq_filter]
        exact Sequence.visibleIds_delete _ _
      have count : (replica.make (.delete target)).version.count replica.id =
          replica.version.count replica.id + 1 := Version.count_bump_self _ _
      refine ⟨⟨?_, ?_⟩, ?_⟩
      · rw [names]
        exact showing.distinct.erase target
      · intro id present
        change id.replica = replica.id ∧
          id.index < (replica.make (.delete target)).version.count replica.id
        rw [names] at present
        rw [count]
        have old := showing.own id (List.mem_of_mem_erase present)
        exact ⟨old.1, Nat.lt_succ_of_lt old.2⟩
      · have length := congrArg List.length names
        rw [List.length_erase_of_mem (Sequence.mem_visibleIds_of_visible? found),
          Sequence.length_visibleIds, Sequence.length_visibleIds] at length
        change replica.sequence.text.length ≤
          (replica.make (.delete target)).sequence.text.length + 1
        omega

theorem ShowsOwn.deleteRun (showing : replica.ShowsOwn) (index count : Nat) :
    (replica.deleteRun index count).ShowsOwn ∧
      replica.text.length ≤ (replica.deleteRun index count).text.length + count := by
  induction count generalizing replica with
  | zero => exact ⟨showing, Nat.le_refl _⟩
  | succ count ih =>
      rcases showing.deleteAt index with ⟨next, one⟩
      rcases ih next with ⟨last, others⟩
      refine ⟨last, ?_⟩
      change replica.text.length ≤
        ((replica.deleteAt index).deleteRun index count).text.length + (count + 1)
      omega

theorem ShowsOwn.insertRun (showing : replica.ShowsOwn) (index : Nat) (text : Text) :
    (replica.insertRun index text).ShowsOwn ∧
      (replica.insertRun index text).text.length = replica.text.length + text.length := by
  induction text generalizing replica index with
  | nil => exact ⟨showing, rfl⟩
  | cons char rest ih =>
      rcases showing.insertAt index char with ⟨next, one⟩
      rcases ih next (index + 1) with ⟨last, others⟩
      refine ⟨last, ?_⟩
      change ((replica.insertAt index char).insertRun (index + 1) rest).text.length = _
      rw [others, one, List.length_cons]
      omega

/-- An edit leaves at least as many characters as it does in a text. -/
theorem ShowsOwn.edit (showing : replica.ShowsOwn) (edit : Edit) :
    (replica.edit edit).ShowsOwn ∧
      (edit.applyTo replica.text).length ≤ (replica.edit edit).text.length := by
  rcases edit.exists_parts replica.text with ⟨front, middle, back, split, start, stop⟩
  have upTo : Text.upTo replica.text (edit.startIn replica.text) = front := by
    rw [← start, split, Text.upTo_append]
  have between : Text.between replica.text (edit.startIn replica.text)
      (edit.stopIn replica.text) = middle := by
    rw [← start, ← stop, split, Text.between_append]
  have applied : edit.applyTo replica.text = front ++ edit.text ++ back := by
    rw [Edit.applyTo, ← start, ← stop, split, Text.splice_append]
  rcases showing.deleteRun front.length middle.length with ⟨shorter, removed⟩
  rcases shorter.insertRun front.length edit.text with ⟨longer, added⟩
  have size := congrArg List.length split
  rw [Replica.edit, upTo, between, applied]
  refine ⟨longer, ?_⟩
  simp only [List.length_append] at size ⊢
  omega

/-- A text that is set does not come out shorter. -/
theorem ShowsOwn.length_setText (showing : replica.ShowsOwn) (text : Text) :
    text.length ≤ (replica.setText text).text.length := by
  have leads := Edit.leads_ofTexts replica.text text
  rw [setText]
  split
  case isTrue noop => rw [leads.eq_of_isNoop noop]
  case isFalse =>
    have edited := (showing.edit (Edit.ofTexts replica.text text)).2
    rwa [leads.applyTo_eq] at edited

theorem ShowsOwn.setText (showing : replica.ShowsOwn) (text : Text) :
    (replica.setText text).ShowsOwn := by
  rw [Replica.setText]
  split
  · exact showing
  · exact (showing.edit _).1

/-! ## What it deletes -/

/-- Whether a replica has gone on by operations of its own, and deleted no character of another
one. -/
structure Spares (before after : Replica) : Prop where
  id_eq : after.id = before.id
  exists_made : ∃ made, after.log = made ++ before.log ∧ ∀ operation ∈ made,
    operation.id.replica = before.id ∧
      ∀ target, operation.action = .delete target → target.replica = before.id

theorem Spares.refl (replica : Replica) : replica.Spares replica :=
  ⟨rfl, [], rfl, by simp⟩

theorem Spares.trans {between after : Replica} (first : replica.Spares between)
    (second : between.Spares after) : replica.Spares after := by
  rcases first.exists_made with ⟨early, logged, spared⟩
  rcases second.exists_made with ⟨late, loggedLater, sparedLater⟩
  rw [first.id_eq] at sparedLater
  refine ⟨second.id_eq.trans first.id_eq, late ++ early, ?_, ?_⟩
  · rw [loggedLater, logged, List.append_assoc]
  · intro operation present
    rcases List.mem_append.1 present with isLate | isEarly
    · exact sparedLater operation isLate
    · exact spared operation isEarly

theorem spares_make {action : Action}
    (own : ∀ target, action = .delete target → target.replica = replica.id) :
    replica.Spares (replica.make action) := by
  refine ⟨rfl, [_], rfl, ?_⟩
  intro operation isMade
  cases List.mem_singleton.1 isMade
  exact ⟨rfl, own⟩

theorem spares_insertRun (replica : Replica) (index : Nat) (text : Text) :
    replica.Spares (replica.insertRun index text) := by
  induction text generalizing replica index with
  | nil => exact .refl replica
  | cons char rest ih =>
      have inserts : replica.Spares (replica.insertAt index char) := spares_make (by simp)
      exact inserts.trans (ih (replica.insertAt index char) (index + 1))

theorem ShowsOwn.spares_deleteAt (showing : replica.ShowsOwn) (index : Nat) :
    replica.Spares (replica.deleteAt index) := by
  rw [Replica.deleteAt]
  cases found : replica.sequence.visible? index with
  | none => exact .refl replica
  | some target =>
      refine spares_make ?_
      rintro other ⟨⟩
      exact (showing.own target (Sequence.mem_visibleIds_of_visible? found)).1

theorem ShowsOwn.spares_deleteRun (showing : replica.ShowsOwn) (index count : Nat) :
    replica.Spares (replica.deleteRun index count) := by
  induction count generalizing replica with
  | zero => exact .refl replica
  | succ count ih =>
      exact (showing.spares_deleteAt index).trans (ih (showing.deleteAt index).1)

theorem ShowsOwn.spares_edit (showing : replica.ShowsOwn) (edit : Edit) :
    replica.Spares (replica.edit edit) :=
  (showing.spares_deleteRun _ _).trans (spares_insertRun _ _ _)

theorem ShowsOwn.spares_setText (showing : replica.ShowsOwn) (text : Text) :
    replica.Spares (replica.setText text) := by
  rw [Replica.setText]
  split
  · exact .refl replica
  · exact showing.spares_edit _

end Replica

end Cowrite
