import Cowrite.Proofs.Replica.Path
import Cowrite.Replica.Sequence
import Mathlib.Data.List.Nodup

/-!
# Sequences in reading order

A sequence is lawful if its characters stand in reading order and have names of their own
(`Sequence.Lawful`). The search by which `Sequence.insert` places a character, next to its parent
and away from it, keeps sequences lawful (`lawful_insert`). As reading order is total, a lawful
sequence is determined by its characters (`eq_of_perm`), so that there is no need to follow the
search any further: wherever a character belongs, that is where it goes (`insert_eq_of_between`).
-/

namespace Cowrite

namespace Element

/-- Whether an element comes before another one in reading order. -/
def Before (left right : Element) : Prop :=
  Path.Before left.path right.path

theorem precedes_iff (left right : Element) : left.precedes right = true ↔ left.Before right := by
  simp [precedes, Before, Path.Before]

theorem Before.trans {first second third : Element} (one : first.Before second)
    (two : second.Before third) : first.Before third :=
  Path.Before.trans one two

theorem path_ne_of_id_ne {left right : Element} (differ : left.id ≠ right.id) :
    left.path ≠ right.path := by
  intro same
  simp only [path, List.cons.injEq, Step.mk.injEq] at same
  exact differ same.1.2

theorem before_or_before {left right : Element} (differ : left.id ≠ right.id) :
    left.Before right ∨ right.Before left :=
  Path.before_or_before_of_ne (path_ne_of_id_ne differ)

end Element

namespace Sequence

/-- The names of all characters. -/
def ids (sequence : Sequence) : List OpId :=
  sequence.map (·.id)

/-- Characters in reading order, each with a name of its own. -/
structure Lawful (sequence : Sequence) : Prop where
  sorted : sequence.Pairwise Element.Before
  distinct : sequence.ids.Nodup

theorem lawful_nil : Lawful [] :=
  ⟨List.Pairwise.nil, List.nodup_nil⟩

theorem mem_ids {sequence : Sequence} {id : OpId} :
    id ∈ sequence.ids ↔ ∃ element ∈ sequence, element.id = id := by
  simp [ids]

/-- A lawful sequence is determined by its characters. -/
theorem eq_of_perm {left right : Sequence} (leftSorted : left.Pairwise Element.Before)
    (rightSorted : right.Pairwise Element.Before) (perm : left.Perm right) : left = right := by
  refine perm.eq_of_pairwise ?_ leftSorted rightSorted
  intro first second _ _ before after
  exact absurd after (Path.Before.asymm before)

/-! ## Searching for the place -/

/-- Put an element before the first one that satisfies a condition. -/
def insertBefore (condition : Element → Bool) (element : Element) (sequence : Sequence) :
    Sequence :=
  sequence.takeWhile (fun other => !condition other) ++
    element :: sequence.dropWhile (fun other => !condition other)

theorem insertForward_eq (element : Element) (sequence : Sequence) :
    insertForward element sequence = insertBefore (fun next => element.precedes next) element
      sequence := by
  induction sequence with
  | nil => rfl
  | cons next rest ih =>
      by_cases found : element.precedes next = true
      · simp [insertForward, insertBefore, found]
      · simp only [Bool.not_eq_true] at found
        simpa [insertForward, insertBefore, found] using ih

theorem insertBackward_eq (element : Element) (sequence : Sequence) :
    insertBackward element sequence = insertBefore (fun next => next.precedes element) element
      sequence := by
  induction sequence with
  | nil => rfl
  | cons next rest ih =>
      by_cases found : next.precedes element = true
      · simp [insertBackward, insertBefore, found]
      · simp only [Bool.not_eq_true] at found
        simpa [insertBackward, insertBefore, found] using ih

theorem perm_insertBefore (condition : Element → Bool) (element : Element)
    (sequence : Sequence) :
    (insertBefore condition element sequence).Perm (element :: sequence) := by
  have whole := List.takeWhile_append_dropWhile
    (p := fun other => !condition other) (l := sequence)
  calc
    (insertBefore condition element sequence).Perm
        (element :: (sequence.takeWhile (fun other => !condition other) ++
          sequence.dropWhile (fun other => !condition other))) := List.perm_middle
    _ = element :: sequence := by rw [whole]

/-- Insertion into a sorted sequence keeps it sorted, whichever way it is sorted. -/
theorem pairwise_insertBefore {order : Element → Element → Prop}
    (trans : ∀ first second third, order first second → order second third →
      order first third)
    {condition : Element → Bool} {element : Element} {sequence : Sequence}
    (sorted : sequence.Pairwise order)
    (found : ∀ other ∈ sequence, condition other = true → order element other)
    (passed : ∀ other ∈ sequence, condition other = false → order other element) :
    (insertBefore condition element sequence).Pairwise order := by
  induction sequence with
  | nil => simp [insertBefore]
  | cons next rest ih =>
      rcases List.pairwise_cons.1 sorted with ⟨nextFirst, restSorted⟩
      by_cases stop : condition next = true
      · simp only [insertBefore, stop, Bool.not_true, Bool.false_eq_true, not_false_eq_true,
          List.takeWhile_cons_of_neg, List.nil_append, List.dropWhile_cons_of_neg]
        have first := found next (by simp) stop
        refine List.pairwise_cons.2 ⟨?_, sorted⟩
        intro other present
        rcases List.mem_cons.1 present with rfl | later
        · exact first
        · exact trans _ _ _ first (nextFirst other later)
      · simp only [Bool.not_eq_true] at stop
        have tail := ih restSorted
          (fun other present => found other (List.mem_cons_of_mem _ present))
          (fun other present => passed other (List.mem_cons_of_mem _ present))
        simp only [insertBefore, stop, Bool.not_false, List.takeWhile_cons_of_pos,
          List.cons_append, List.dropWhile_cons_of_pos]
        refine List.pairwise_cons.2 ⟨?_, tail⟩
        intro other present
        rcases List.mem_cons.1 ((perm_insertBefore condition element rest).mem_iff.1 present)
          with rfl | later
        · exact passed next (by simp) stop
        · exact nextFirst other later

theorem sorted_insertForward {element : Element} {sequence : Sequence}
    (sorted : sequence.Pairwise Element.Before)
    (fresh : ∀ other ∈ sequence, other.id ≠ element.id) :
    (insertForward element sequence).Pairwise Element.Before := by
  rw [insertForward_eq]
  apply pairwise_insertBefore
  · intro first second third one two
    exact Element.Before.trans one two
  · exact sorted
  · intro other _ precedes
    exact (Element.precedes_iff _ _).1 precedes
  · intro other present passed
    rcases Element.before_or_before (fresh other present) with before | after
    · exact before
    · simp [(Element.precedes_iff _ _).2 after] at passed

theorem sorted_insertBackward {element : Element} {sequence : Sequence}
    (sorted : sequence.Pairwise Element.Before)
    (fresh : ∀ other ∈ sequence, other.id ≠ element.id) :
    (insertBackward element sequence.reverse).reverse.Pairwise Element.Before := by
  rw [insertBackward_eq, List.pairwise_reverse]
  apply pairwise_insertBefore
  · intro first second third one two
    exact two.trans one
  · rwa [List.pairwise_reverse]
  · intro other _ precedes
    exact (Element.precedes_iff _ _).1 precedes
  · intro other present passed
    rcases Element.before_or_before (fresh other (List.mem_reverse.1 present)) with before | after
    · simp [(Element.precedes_iff _ _).2 before] at passed
    · exact after

theorem perm_insertForward (element : Element) (sequence : Sequence) :
    (insertForward element sequence).Perm (element :: sequence) := by
  rw [insertForward_eq]
  exact perm_insertBefore _ _ _

theorem perm_insertBackward (element : Element) (sequence : Sequence) :
    (insertBackward element sequence).Perm (element :: sequence) := by
  rw [insertBackward_eq]
  exact perm_insertBefore _ _ _

/-! ## Inserting -/

/-- Whether a sequence has a place for an element: its parent is there, or is the root, and its
name is new. -/
structure HasPlaceFor (sequence : Sequence) (element : Element) : Prop where
  parent : element.parent = [] ∨ ∃ parent ∈ sequence, parent.path = element.parent
  fresh : element.id ∉ sequence.ids

theorem HasPlaceFor.id_ne {sequence : Sequence} {element : Element}
    (place : sequence.HasPlaceFor element) {other : Element} (present : other ∈ sequence) :
    other.id ≠ element.id := by
  intro same
  exact place.fresh (mem_ids.2 ⟨other, present, same⟩)

/-- A lawful sequence, cut at one of its characters. -/
theorem exists_split {sequence : Sequence} (lawful : sequence.Lawful) {element : Element}
    (present : element ∈ sequence) :
    ∃ front rest, sequence = front ++ element :: rest ∧
      sequence.takeWhile (·.id != element.id) = front ∧
      sequence.dropWhile (·.id != element.id) = element :: rest := by
  rcases List.append_of_mem present with ⟨front, rest, split⟩
  have apart : ∀ other ∈ front, (other.id != element.id) = true := by
    intro other frontMem
    have distinct := lawful.distinct
    simp only [split, ids, List.map_append, List.map_cons, List.nodup_append] at distinct
    have := distinct.2.2 other.id (List.mem_map_of_mem frontMem) element.id (by simp)
    simpa using this
  refine ⟨front, rest, split, ?_, ?_⟩
  · rw [split, List.takeWhile_append_of_pos apart]
    simp
  · rw [split, List.dropWhile_append_of_pos apart]
    simp

theorem insert_of_parent_eq_nil {element : Element} (root : element.parent = [])
    (sequence : Sequence) : sequence.insert element = insertForward element sequence := by
  simp [insert, root]

/-- What `insert` does at a parent: it searches on one side of it. -/
theorem insert_of_parent {sequence : Sequence} (lawful : sequence.Lawful) {element parent : Element}
    (present : parent ∈ sequence) (isParent : parent.path = element.parent) :
    ∃ front rest, sequence = front ++ parent :: rest ∧
      sequence.insert element =
        match element.side with
        | .before => (insertBackward element front.reverse).reverse ++ parent :: rest
        | .behind => front ++ parent :: insertForward element rest := by
  rcases exists_split lawful present with ⟨front, rest, split, taken, dropped⟩
  refine ⟨front, rest, split, ?_⟩
  have parentEq : element.parent = ⟨parent.side, parent.id⟩ :: parent.parent := isParent.symm
  simp only [insert, parentEq, taken, dropped]
  cases element.side <;> simp

/-- Wherever a character is placed, nothing else changes. -/
theorem perm_insert (sequence : Sequence) (element : Element) :
    (sequence.insert element).Perm (element :: sequence) := by
  cases root : element.parent with
  | nil =>
      rw [insert_of_parent_eq_nil root]
      exact perm_insertForward element sequence
  | cons parent _ =>
      let front := sequence.takeWhile (·.id != parent.id)
      let rest := sequence.dropWhile (·.id != parent.id)
      have whole : front ++ rest = sequence := List.takeWhile_append_dropWhile
      cases side : element.side with
      | before =>
          have inserted : sequence.insert element =
              (insertBackward element front.reverse).reverse ++ rest := by
            simp only [insert, root, side]
            rfl
          have placed := (List.reverse_perm _).trans
            ((perm_insertBackward element front.reverse).trans
              ((List.reverse_perm front).cons element))
          calc
            (sequence.insert element).Perm (element :: (front ++ rest)) := by
              rw [inserted]
              exact placed.append_right rest
            _ = element :: sequence := by rw [whole]
      | behind =>
          have inserted : sequence.insert element =
              front ++ rest.take 1 ++ insertForward element (rest.drop 1) := by
            simp only [insert, root, side]
            rfl
          have placed := perm_insertForward element (rest.drop 1)
          calc
            (sequence.insert element).Perm
                (front ++ rest.take 1 ++ element :: rest.drop 1) := by
              rw [inserted]
              exact placed.append_left (front ++ rest.take 1)
            _ |>.Perm (element :: (front ++ rest.take 1 ++ rest.drop 1)) := List.perm_middle
            _ = element :: sequence := by
              rw [List.append_assoc, List.take_append_drop, whole]

theorem sorted_insert {sequence : Sequence} (lawful : sequence.Lawful) {element : Element}
    (place : sequence.HasPlaceFor element) :
    (sequence.insert element).Pairwise Element.Before := by
  rcases place.parent with root | ⟨parent, present, isParent⟩
  · rw [insert_of_parent_eq_nil root]
    exact sorted_insertForward lawful.sorted fun other otherMem => place.id_ne otherMem
  · rcases insert_of_parent lawful present isParent with ⟨front, rest, split, inserted⟩
    have sorted := lawful.sorted
    rw [split, List.pairwise_append] at sorted
    rcases sorted with ⟨frontSorted, backSorted, frontFirst⟩
    rcases List.pairwise_cons.1 backSorted with ⟨parentFirst, restSorted⟩
    have path : element.path = ⟨element.side, element.id⟩ :: parent.path := by
      rw [isParent]
      rfl
    rw [inserted]
    cases side : element.side with
    | before =>
        have beforeParent : element.Before parent := by
          rw [Element.Before, path, side]
          exact Path.child_before_before _ _
        have placed := @sorted_insertBackward element front frontSorted
          fun other otherMem => place.id_ne (by simp [split, otherMem])
        refine List.pairwise_append.2 ⟨placed, backSorted, ?_⟩
        intro left leftMem right rightMem
        have toParent : left.Before parent := by
          rw [List.mem_reverse, (perm_insertBackward _ _).mem_iff, List.mem_cons,
            List.mem_reverse] at leftMem
          rcases leftMem with rfl | frontMem
          · exact beforeParent
          · exact frontFirst left frontMem parent (by simp)
        rcases List.mem_cons.1 rightMem with rfl | restMem
        · exact toParent
        · exact toParent.trans (parentFirst right restMem)
    | behind =>
        have behindParent : parent.Before element := by
          rw [Element.Before, path, side]
          exact Path.before_child_behind _ _
        have placed := @sorted_insertForward element rest restSorted
          fun other otherMem => place.id_ne (by simp [split, otherMem])
        have fromParent : ∀ other ∈ insertForward element rest, parent.Before other := by
          intro other otherMem
          rcases List.mem_cons.1 ((perm_insertForward _ _).mem_iff.1 otherMem) with rfl | restMem
          · exact behindParent
          · exact parentFirst other restMem
        refine List.pairwise_append.2 ⟨frontSorted, List.pairwise_cons.2 ⟨fromParent, placed⟩, ?_⟩
        intro left leftMem right rightMem
        have toParent := frontFirst left leftMem parent (by simp)
        rcases List.mem_cons.1 rightMem with rfl | restMem
        · exact toParent
        · exact toParent.trans (fromParent right restMem)

theorem lawful_insert {sequence : Sequence} (lawful : sequence.Lawful) {element : Element}
    (place : sequence.HasPlaceFor element) : (sequence.insert element).Lawful := by
  refine ⟨sorted_insert lawful place, ?_⟩
  have names := (perm_insert sequence element).map (fun other : Element => other.id)
  exact names.nodup_iff.2 (List.nodup_cons.2 ⟨place.fresh, lawful.distinct⟩)

/-- A character goes where it belongs. -/
theorem insert_eq_of_between {front back : Sequence} (lawful : Lawful (front ++ back))
    {element : Element} (place : HasPlaceFor (front ++ back) element)
    (afterFront : ∀ other ∈ front, other.Before element)
    (beforeBack : ∀ other ∈ back, element.Before other) :
    insert (front ++ back) element = front ++ element :: back := by
  have sorted := List.pairwise_append.1 lawful.sorted
  apply eq_of_perm (sorted_insert lawful place)
  · refine List.pairwise_append.2 ⟨sorted.1, List.pairwise_cons.2 ⟨beforeBack, sorted.2.1⟩, ?_⟩
    intro left leftMem right rightMem
    rcases List.mem_cons.1 rightMem with rfl | backMem
    · exact afterFront left leftMem
    · exact sorted.2.2 left leftMem right backMem
  · exact (perm_insert _ element).trans List.perm_middle.symm

end Sequence

end Cowrite
