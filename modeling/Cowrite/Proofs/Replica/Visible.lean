import Cowrite.Proofs.Replica.Sequence

/-!
# Typing into a sequence

The user counts visible characters only. Cutting a sequence behind so many visible ones
(`exists_cut`) gives the neighbours of whatever is typed there, and a character that is inserted
at the spot between them comes out at the cut (`exists_typed`). Deleting the visible character with
a given index removes that one from the text (`exists_deleted`).

Both are said of a part of a sequence, between a part that ends with a visible character and
whatever follows: neither of these two changes when something is typed or deleted in between.
-/

namespace Cowrite

namespace Sequence

@[simp]
theorem text_nil : text [] = [] := rfl

@[simp]
theorem text_append (left right : Sequence) : text (left ++ right) = text left ++ text right := by
  simp [text]

theorem text_cons_of_deleted {element : Element} (deleted : element.deleted = true)
    (rest : Sequence) : text (element :: rest) = text rest := by
  simp [text, deleted]

theorem text_cons_of_visible {element : Element} (visible : element.deleted = false)
    (rest : Sequence) : text (element :: rest) = element.char :: text rest := by
  simp [text, visible]

/-! ## Cutting behind visible characters -/

/-- The shortest initial part with so many visible characters, and the neighbours at its end. -/
theorem exists_cut (left : Path) {count : Nat} {sequence : Sequence}
    (enough : count ≤ sequence.text.length) (rest : Sequence) :
    ∃ front back, sequence = front ++ back ∧ front.text.length = count ∧
      neighbours left count (sequence ++ rest) =
        ((front.getLast?.map Element.path).getD left, (back ++ rest).head?.map Element.path) := by
  induction sequence generalizing left count with
  | nil =>
      simp only [text_nil, List.length_nil, Nat.le_zero_eq] at enough
      subst enough
      refine ⟨[], [], rfl, rfl, ?_⟩
      cases rest <;> rfl
  | cons next others ih =>
      cases count with
      | zero => exact ⟨[], next :: others, rfl, rfl, rfl⟩
      | succ count =>
          cases hidden : next.deleted with
          | true =>
              rw [text_cons_of_deleted hidden] at enough
              rcases ih left enough with ⟨front, back, split, size, found⟩
              refine ⟨next :: front, back, by simp [split], ?_, ?_⟩
              · rw [text_cons_of_deleted hidden, size]
              · have nonempty : front ≠ [] := by
                  rintro rfl
                  simp at size
                rw [List.cons_append, neighbours, if_pos hidden, found]
                simp [List.getLast?_cons, List.getLast?_eq_some_getLast nonempty]
          | false =>
              rw [text_cons_of_visible hidden, List.length_cons] at enough
              rcases ih next.path (Nat.le_of_succ_le_succ enough) with
                ⟨front, back, split, size, found⟩
              refine ⟨next :: front, back, by simp [split], ?_, ?_⟩
              · rw [text_cons_of_visible hidden, List.length_cons, size]
              · rw [List.cons_append, neighbours, if_neg (by simp [hidden]), found]
                cases last : front.getLast? <;> simp [List.getLast?_cons, last]

/-- Counting on behind a visible character. -/
theorem neighbours_append_cons (front : Sequence) {last : Element} (visible : last.deleted = false)
    (left : Path) (count : Nat) (rest : Sequence) :
    neighbours left (front.text.length + 1 + count) (front ++ last :: rest) =
      neighbours last.path count rest := by
  induction front generalizing left with
  | nil =>
      rw [text_nil, List.length_nil, Nat.zero_add, Nat.add_comm, List.nil_append, neighbours,
        if_neg (by simp [visible])]
  | cons next others ih =>
      cases hidden : next.deleted with
      | true =>
          rw [text_cons_of_deleted hidden, ← ih left, Nat.add_right_comm, List.cons_append,
            neighbours, if_pos hidden]
      | false =>
          rw [text_cons_of_visible hidden, List.length_cons, Nat.add_right_comm, List.cons_append,
            neighbours, if_neg (by simp [hidden]), ih next.path]

/-- Whether a sequence is empty or ends with a visible character. -/
def EndsVisibly (sequence : Sequence) : Prop :=
  sequence = [] ∨ ∃ (others : Sequence) (last : Element),
    sequence = others ++ [last] ∧ last.deleted = false

theorem EndsVisibly.neighbours_append {front : Sequence} (ends : front.EndsVisibly) (count : Nat)
    (rest : Sequence) :
    neighbours [] (front.text.length + count) (front ++ rest) =
      neighbours ((front.getLast?.map Element.path).getD []) count rest := by
  rcases ends with rfl | ⟨others, last, rfl, visible⟩
  · simp
  · have size : (others ++ [last]).text.length = others.text.length + 1 := by
      rw [text_append, text_cons_of_visible visible]
      simp
    rw [List.append_assoc, List.singleton_append]
    rw [show (text (others ++ [last])).length = _ from size, neighbours_append_cons others visible]
    simp

/-- The spot for a character between two parts of a sequence: it has a parent there, and it lies
between the two. -/
theorem spotBetween_of_cut {front back : Sequence} (lawful : Lawful (front ++ back)) (id : OpId)
    (char : Char) :
    let spot := Path.spotBetween ((front.getLast?.map Element.path).getD [])
      (back.head?.map Element.path)
    let element : Element := { id, parent := spot.1, side := spot.2, char }
    (element.parent = [] ∨ ∃ parent ∈ front ++ back, parent.path = element.parent) ∧
      (∀ other ∈ front, other.Before element) ∧ ∀ other ∈ back, element.Before other := by
  intro spot element
  have sorted := List.pairwise_append.1 lawful.sorted
  have fromLast : ∀ last, front.getLast? = some last → last.Before element →
      ∀ other ∈ front, other.Before element := by
    intro last isLast before other present
    rcases List.getLast?_eq_some_iff.1 isLast with ⟨others, split⟩
    rw [split] at sorted present
    rcases List.mem_append.1 present with early | isLast
    · have := (List.pairwise_append.1 sorted.1).2.2 other early last (by simp)
      exact this.trans before
    · rwa [List.mem_singleton.1 isLast]
  have fromHead : ∀ head, back.head? = some head → element.Before head →
      ∀ other ∈ back, element.Before other := by
    intro head isHead before other present
    rcases List.head?_eq_some_iff.1 isHead with ⟨others, split⟩
    rw [split] at sorted present
    rcases List.mem_cons.1 present with rfl | late
    · exact before
    · exact before.trans ((List.pairwise_cons.1 sorted.2.1).1 other late)
  cases last : front.getLast? with
  | none =>
      have frontNil := List.getLast?_eq_none_iff.1 last
      cases head : back.head? with
      | none =>
          have backNil := List.head?_eq_none_iff.1 head
          subst frontNil
          subst backNil
          exact ⟨.inl (by simp [element, spot, Path.spotBetween]), by simp, by simp⟩
      | some right =>
          have descends : Path.descendsFrom right.path [] = true := by
            simp [Path.descendsFrom, Element.path]
          have spotEq : spot = (right.path, .before) := by
            simp [spot, last, head, Path.spotBetween, descends]
          have present : right ∈ back := List.mem_of_head? head
          refine ⟨.inr ⟨right, by simp [present], by simp [element, spotEq]⟩, ?_, ?_⟩
          · simp [frontNil]
          · apply fromHead right head
            simpa [Element.Before, Element.path, element, spotEq] using
              Path.child_before_before right.path id
  | some left =>
      have leftMem : left ∈ front := List.mem_of_getLast? last
      cases head : back.head? with
      | none =>
          have backNil := List.head?_eq_none_iff.1 head
          have spotEq : spot = (left.path, .behind) := by
            simp [spot, last, head, Path.spotBetween]
          refine ⟨.inr ⟨left, by simp [leftMem], by simp [element, spotEq]⟩, ?_, ?_⟩
          · apply fromLast left last
            simpa [Element.Before, Element.path, element, spotEq] using
              Path.before_child_behind left.path id
          · simp [backNil]
      | some right =>
          have rightMem : right ∈ back := List.mem_of_head? head
          have before : left.Before right := sorted.2.2 left leftMem right rightMem
          have spotEq : spot = Path.spotBetween left.path (some right.path) := by
            simp [spot, last, head]
          have between := Path.before_of_spotBetween id before
          simp only [← spotEq] at between
          refine ⟨?_, fromLast left last between.1, fromHead right head between.2⟩
          right
          rcases Path.spotBetween_eq left.path right.path with isRight | isLeft
          · exact ⟨right, by simp [rightMem], by simp [element, spotEq, isRight]⟩
          · exact ⟨left, by simp [leftMem], by simp [element, spotEq, isLeft]⟩

/-! ## Typing and deleting -/

/-- What is typed behind so many visible characters. -/
def typed (sequence : Sequence) (count : Nat) (id : OpId) (char : Char) : Element :=
  { id
    parent := (sequence.spotAfter count).1
    side := (sequence.spotAfter count).2
    char }

variable {front middle back : Sequence}

/-- What is typed in the middle of a sequence has its place there, behind the characters that it
was typed behind, and changes nothing on either side. -/
theorem exists_typed (lawful : Lawful (front ++ (middle ++ back))) (ends : front.EndsVisibly)
    {count : Nat} (enough : count ≤ middle.text.length) {id : OpId}
    (fresh : id ∉ (front ++ (middle ++ back)).ids) (char : Char) :
    let typed := typed (front ++ (middle ++ back)) (front.text.length + count) id char
    HasPlaceFor (front ++ (middle ++ back)) typed ∧
      ∃ later, insert (front ++ (middle ++ back)) typed = front ++ (later ++ back) ∧
        later.text = middle.text.take count ++ char :: middle.text.drop count := by
  intro typed
  rcases exists_cut ((front.getLast?.map Element.path).getD []) enough back with
    ⟨before, after, rfl, size, found⟩
  have split : front ++ (before ++ after ++ back) = (front ++ before) ++ (after ++ back) := by
    simp
  have last : (((front ++ before).getLast?.map Element.path).getD []) =
      (before.getLast?.map Element.path).getD ((front.getLast?.map Element.path).getD []) := by
    cases last : before.getLast? <;> simp [List.getLast?_append, last]
  have spot : spotAfter (front ++ (before ++ after ++ back)) (front.text.length + count) =
      Path.spotBetween (((front ++ before).getLast?.map Element.path).getD [])
        ((after ++ back).head?.map Element.path) := by
    rw [spotAfter, ends.neighbours_append, found, last]
  have typedEq : typed =
      { id
        parent := (Path.spotBetween (((front ++ before).getLast?.map Element.path).getD [])
          ((after ++ back).head?.map Element.path)).1
        side := (Path.spotBetween (((front ++ before).getLast?.map Element.path).getD [])
          ((after ++ back).head?.map Element.path)).2
        char } := by
    rw [← spot]
    rfl
  rw [split] at lawful fresh ⊢
  rcases spotBetween_of_cut lawful id char with ⟨parent, behind, ahead⟩
  rw [← typedEq] at parent behind ahead
  have place : HasPlaceFor (front ++ before ++ (after ++ back)) typed := ⟨parent, fresh⟩
  refine ⟨place, before ++ typed :: after, ?_, ?_⟩
  · rw [insert_eq_of_between lawful place behind ahead]
    simp
  · rw [text_append, text_cons_of_visible rfl, text_append, ← size, List.take_left, List.drop_left]
    rfl

theorem exists_visible {index : Nat} {sequence : Sequence}
    (present : index < sequence.text.length) :
    ∃ (front : Sequence) (element : Element) (back : Sequence),
      sequence = front ++ element :: back ∧ element.deleted = false ∧
        front.text.length = index := by
  induction sequence generalizing index with
  | nil => simp at present
  | cons next rest ih =>
      cases hidden : next.deleted with
      | true =>
          rw [text_cons_of_deleted hidden] at present
          rcases ih present with ⟨front, element, back, split, visible, size⟩
          exact ⟨next :: front, element, back, by simp [split], visible,
            by rw [text_cons_of_deleted hidden, size]⟩
      | false =>
          cases index with
          | zero => exact ⟨[], next, rest, rfl, hidden, rfl⟩
          | succ index =>
              rw [text_cons_of_visible hidden, List.length_cons] at present
              rcases ih (Nat.lt_of_succ_lt_succ present) with
                ⟨front, element, back, split, visible, size⟩
              exact ⟨next :: front, element, back, by simp [split], visible,
                by rw [text_cons_of_visible hidden, List.length_cons, size]⟩

/-- The visible character at some place of the text, and what is on either side of it. -/
theorem exists_pivot {sequence : Sequence} {early late : Text} {char : Char}
    (split : sequence.text = early ++ char :: late) :
    ∃ (front : Sequence) (pivot : Element) (back : Sequence),
      sequence = front ++ pivot :: back ∧ pivot.deleted = false ∧ front.text = early ∧
        pivot.char = char ∧ back.text = late := by
  have present : early.length < sequence.text.length := by
    simp [split]
  rcases exists_visible present with ⟨front, pivot, back, rfl, visible, size⟩
  rw [text_append, text_cons_of_visible visible] at split
  rcases List.append_inj split size with ⟨frontEq, rest⟩
  cases rest
  exact ⟨front, pivot, back, rfl, visible, frontEq, rfl, rfl⟩

theorem visible?_append_cons (front back : Sequence) {element : Element}
    (visible : element.deleted = false) :
    visible? (front ++ element :: back) front.text.length = some element.id := by
  simp [visible?, text, List.filter_append, visible]

theorem delete_eq_self {sequence : Sequence} {id : OpId} (absent : id ∉ sequence.ids) :
    sequence.delete id = sequence := by
  conv => rhs; rw [← List.map_id sequence]
  apply List.map_congr_left
  intro element present
  have : element.id ≠ id := fun same => absent (mem_ids.2 ⟨element, present, same⟩)
  simp [this]

@[simp]
theorem ids_delete (sequence : Sequence) (id : OpId) : (sequence.delete id).ids = sequence.ids := by
  simp only [ids, delete, List.map_map]
  apply List.map_congr_left
  intro element _
  simp only [Function.comp]
  split <;> rfl

theorem lawful_delete {sequence : Sequence} (lawful : sequence.Lawful) (id : OpId) :
    (sequence.delete id).Lawful := by
  refine ⟨?_, by simpa using lawful.distinct⟩
  rw [delete, List.pairwise_map]
  refine lawful.sorted.imp ?_
  intro left right before
  split <;> split <;> exact before

theorem delete_append_cons {element : Element} (lawful : Lawful (front ++ element :: back)) :
    delete (front ++ element :: back) element.id =
      front ++ { element with deleted := true } :: back := by
  have distinct := lawful.distinct
  simp only [ids, List.map_append, List.map_cons, List.nodup_append, List.nodup_cons] at distinct
  have frontKept : front.delete element.id = front := by
    apply delete_eq_self
    intro inFront
    exact distinct.2.2 element.id inFront element.id (by simp) rfl
  have backKept : back.delete element.id = back := delete_eq_self distinct.2.1.1
  simp only [delete] at frontKept backKept ⊢
  simp [frontKept, backKept]

/-- A visible character in the middle of a sequence can be found, and deleting it takes just this
character out of the text, and changes nothing on either side. -/
theorem exists_deleted (lawful : Lawful (front ++ (middle ++ back))) {index : Nat}
    (present : index < middle.text.length) :
    ∃ element ∈ front ++ (middle ++ back),
      visible? (front ++ (middle ++ back)) (front.text.length + index) = some element.id ∧
        ∃ later, delete (front ++ (middle ++ back)) element.id = front ++ (later ++ back) ∧
          later.text = middle.text.take index ++ middle.text.drop (index + 1) := by
  rcases exists_visible present with ⟨before, element, after, rfl, visible, size⟩
  have split : front ++ (before ++ element :: after ++ back) =
      (front ++ before) ++ element :: (after ++ back) := by
    simp
  have counted : front.text.length + index = (front ++ before).text.length := by
    rw [text_append, List.length_append, size]
  rw [split] at lawful ⊢
  refine ⟨element, by simp, ?_, before ++ { element with deleted := true } :: after, ?_, ?_⟩
  · rw [counted, visible?_append_cons _ _ visible]
  · rw [delete_append_cons lawful]
    simp
  · rw [text_append, text_append, text_cons_of_deleted rfl, text_cons_of_visible visible, ← size]
    simp

end Sequence

end Cowrite
