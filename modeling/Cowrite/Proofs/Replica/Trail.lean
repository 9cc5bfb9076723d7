import Cowrite.Proofs.Replica.Grown
import Cowrite.Proofs.Text.Delta

/-!
# The trail of updates

An update that changes the text of a document leaves a walk behind, from the text as it was right
before to the text that came of it. So the walks that have gathered since they were last taken
belong to the changes of the text since then, one to each (`Replica.walks_offerAll`), and one after
the other they lead from the text of that time to the present one (`Replica.trail_leads`).

Nothing is asked of the updates. One that is refused changes nothing, and one that brings nothing
new, or only what has to wait, leaves the text as it is. An operation that waited becomes part of
the change that the update makes on which it waited. But nobody may have edited the document in
between, as what is typed leaves no walk.
-/

namespace Cowrite

namespace Walk

/-- Whether a walk tells a change of a text, given as the text before and the text after. -/
def Tells (walk : Walk) (change : Text × Text) : Prop :=
  ∃ edits, replay change.1 [walk] = some (edits, change.2)

theorem tells_between (change : Text × Text) : (between change.1 change.2).Tells change := by
  rcases @exists_run_between ⟨change.1, 0, []⟩ change.2 with ⟨last, ran, arrived⟩
  refine ⟨last.edits, ?_⟩
  rw [replay, List.foldlM_cons, ran]
  simp [arrived]

end Walk

namespace Replica

/-- The document once an update has been offered to it. One that it refuses changes nothing. -/
def offer (replica : Replica) (update : Update) : Replica :=
  match replica.apply update with
  | .ok after => after
  | .error _ => replica

/-- The changes that updates make of the text, oldest first: for each update that changes it, the
text before and the text after. -/
def changes (replica : Replica) : List Update → List (Text × Text)
  | [] => []
  | update :: rest =>
      let after := replica.offer update
      if after.text = replica.text then after.changes rest
      else (replica.text, after.text) :: after.changes rest

variable (replica : Replica) (updates : List Update)

theorem walks_receive (operations : List Operation) :
    (replica.receive operations).walks = replica.walks :=
  settle_induction (motive := fun other => other.walks = replica.walks)
    (fun _ _ _ _ _ _ same => same) rfl

/-- An update that changes the text leaves a walk behind, and no other one does. -/
theorem walks_offer (update : Update) :
    (replica.offer update).walks = replica.walks ++
      if (replica.offer update).text = replica.text then []
      else [Walk.between replica.text (replica.offer update).text] := by
  cases update with
  | empty => simp [offer, apply]
  | malformed => simp [offer, apply]
  | operations operations =>
      have kept := replica.walks_receive operations
      simp only [offer, apply, List.isEmpty_iff, Walk.between_eq_nil_iff]
      by_cases same : replica.text = (replica.receive operations).text
      · rw [if_pos same, if_pos same.symm, List.append_nil, kept]
      · have differs : (replica.receive operations).text ≠ replica.text := Ne.symm same
        rw [if_neg same, kept]
        exact congrArg (replica.walks ++ ·) (if_neg differs).symm

theorem walks_offerAll :
    (updates.foldl offer replica).walks = replica.walks ++
      (replica.changes updates).map fun change => Walk.between change.1 change.2 := by
  induction updates generalizing replica with
  | nil => simp [changes]
  | cons update rest ih =>
      rw [List.foldl_cons, ih, walks_offer, changes]
      split
      · rw [List.append_nil]
      · rw [List.append_assoc, List.singleton_append, List.map_cons]

theorem ne_of_mem_changes {change : Text × Text} (present : change ∈ replica.changes updates) :
    change.1 ≠ change.2 := by
  induction updates generalizing replica with
  | nil => simp [changes] at present
  | cons update rest ih =>
      rw [changes] at present
      split at present
      case isTrue => exact ih _ present
      case isFalse differs =>
        rcases List.mem_cons.1 present with rfl | later
        · exact Ne.symm differs
        · exact ih _ later

/-- The changes of a text, told as walks, lead from where they begin to where they end. -/
theorem exists_foldlM_changes (progress : Walk.Progress) (here : progress.text = replica.text) :
    ∃ last, ((replica.changes updates).map fun change =>
        Walk.between change.1 change.2).foldlM (fun progress walk => walk.run progress) progress =
      some last ∧ last.text = (updates.foldl offer replica).text := by
  induction updates generalizing replica progress with
  | nil => exact ⟨progress, rfl, here⟩
  | cons update rest ih =>
      rw [changes, List.foldl_cons]
      split
      case isTrue same => exact ih (replica.offer update) progress (here.trans same.symm)
      case isFalse =>
        rcases @Walk.exists_run_between progress (replica.offer update).text with
          ⟨next, ran, arrived⟩
        rcases ih (replica.offer update) next arrived with ⟨last, others, reached⟩
        refine ⟨last, ?_, reached⟩
        rw [List.map_cons, List.foldlM_cons, ← here, ran]
        exact others

/-- The walks that are taken after any updates lead from the text when they were last taken, or
forgotten, to the present one. There is one for each update that changed the text, oldest first,
none of them is empty, and each tells the change that its update made. When they are taken again,
there are none, and an update that is refused changes neither the text nor the walks. -/
theorem trail_leads {before start : Replica}
    (polled : start = before.takeWalks.2 ∨ start = before.clearWalks) (updates : List Update) :
    let document := updates.foldl offer start
    let walks := document.takeWalks.1
    (∀ walk ∈ walks, walk ≠ []) ∧
      (∃ edits, Walk.replay start.text walks = some (edits, document.text)) ∧
      List.Forall₂ Walk.Tells walks (start.changes updates) ∧
      document.takeWalks.2.takeWalks.1 = [] ∧
      ∀ update error, document.apply update = .error error → document.offer update = document := by
  intro document walks
  have none : start.walks = [] := by
    rcases polled with rfl | rfl <;> rfl
  have trail : walks = (start.changes updates).map fun change =>
      Walk.between change.1 change.2 := by
    have gathered := start.walks_offerAll updates
    rwa [none, List.nil_append] at gathered
  refine ⟨?_, ?_, ?_, rfl, ?_⟩
  · intro walk present
    rw [trail] at present
    rcases List.mem_map.1 present with ⟨change, made, rfl⟩
    exact fun empty => start.ne_of_mem_changes updates made (Walk.between_eq_nil_iff.1 empty)
  · rcases start.exists_foldlM_changes updates ⟨start.text, 0, []⟩ rfl with
      ⟨last, ran, reached⟩
    refine ⟨last.edits, ?_⟩
    rw [Walk.replay, trail, ran, Option.map_some, reached]
  · rw [trail, List.forall₂_map_left_iff, List.forall₂_same]
    exact fun change _ => Walk.tells_between change
  · intro update error refused
    rw [offer, refused]

/-- What is written later arrives first and waits for what was written before. An update that
cannot be read, and others that bring nothing new, come in between and afterwards. -/
theorem overtaken_trail_leads :
    let written := ({ id := 1 } : Replica).setText ['a']
    let later := written.edit ⟨1, 1, ['b']⟩
    let start := ({ id := 2 } : Replica).clearWalks
    let updates := [later.updateSince written.version, .malformed, .empty, written.fullState,
      later.fullState]
    let document := updates.foldl offer start
    let walks := document.takeWalks.1
    document.text = ['a', 'b'] ∧ walks = [[.insert ['a', 'b']]] ∧
      (∃ edits, Walk.replay start.text walks = some (edits, document.text)) ∧
      List.Forall₂ Walk.Tells walks (start.changes updates) ∧
      document.offer .malformed = document := by
  intro written later start updates document walks
  have forgotten : start = ({ id := 2 } : Replica).takeWalks.2 ∨
      start = ({ id := 2 } : Replica).clearWalks := .inr rfl
  have leads := trail_leads forgotten updates
  exact ⟨by decide, by decide, leads.2.1, leads.2.2.1,
    leads.2.2.2.2 .malformed .malformedUpdate rfl⟩

end Replica

end Cowrite
