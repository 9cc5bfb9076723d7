import Cowrite.Transport.Mailbox
import Mathlib.Tactic.Common

/-!
# Mailboxes seen one by one

What an operation on a post office does is told by two views of each address: whether the mailbox
there is open, and what waits in it. Where none was opened there is a closed and empty mailbox, and
nothing that is done to it changes it; so no equation here asks whether an address is in use.
-/

namespace Cowrite

/-- What comes directly after the first elements of a kind. -/
theorem getElem?_length_takeWhile {α : Type} (passes : α → Bool) (waiting : List α) :
    waiting[(waiting.takeWhile passes).length]? = (waiting.dropWhile passes).head? := by
  have split : waiting.takeWhile passes ++ waiting.dropWhile passes = waiting :=
    List.takeWhile_append_dropWhile
  conv => lhs; arg 1; rw [← split]
  rw [List.getElem?_append_right (Nat.le_refl _), Nat.sub_self, List.head?_eq_getElem?]

namespace PostOffice

variable {π : Type} (office : PostOffice π) (address other : Address)

theorem box_update {change : Mailbox π → Mailbox π}
    (fixes : change { isOpen := false } = { isOpen := false }) :
    (office.update address change).box other =
      if other = address then change (office.box other) else office.box other := by
  simp only [update, box, List.getD_eq_getElem?_getD, List.getElem?_modify]
  by_cases same : other = address
  · subst same
    cases office.boxes[other]? <;> simp [fixes]
  · have differ : ¬address = other := fun eq => same eq.symm
    cases office.boxes[other]? <;> simp [same, differ]

/-! ## Delivering -/

theorem box_deliver (envelope : Envelope π) :
    (office.deliver address envelope).2.box other =
      if other = address then ((office.box other).deliver envelope).2 else office.box other :=
  box_update office address other rfl

@[simp]
theorem isOpen_deliver (envelope : Envelope π) :
    ((office.deliver address envelope).2.box other).isOpen = (office.box other).isOpen := by
  rw [box_deliver, Mailbox.deliver]
  split
  · split <;> rfl
  · rfl

theorem inbox_deliver (envelope : Envelope π) :
    (office.deliver address envelope).2.inbox other =
      if other = address ∧ (office.box other).isOpen = true then
        office.inbox other ++ [envelope] else office.inbox other := by
  rw [inbox, box_deliver, Mailbox.deliver]
  by_cases same : other = address
  · by_cases isOpen : (office.box other).isOpen = true
    · rw [if_pos same, if_pos isOpen, if_pos ⟨same, isOpen⟩]
      rfl
    · rw [if_pos same, if_neg isOpen, if_neg (fun both => isOpen both.2)]
      rfl
  · rw [if_neg same, if_neg (fun both => same both.1)]
    rfl

/-! ## Taking out -/

theorem box_discard (count : Nat) :
    (office.discard address count).box other =
      if other = address then (office.box other).discard count else office.box other :=
  box_update office address other (by simp [Mailbox.discard])

@[simp]
theorem isOpen_discard (count : Nat) :
    ((office.discard address count).box other).isOpen = (office.box other).isOpen := by
  rw [box_discard]
  split <;> rfl

theorem inbox_discard (count : Nat) :
    (office.discard address count).inbox other =
      if other = address then (office.inbox other).drop count else office.inbox other := by
  rw [inbox, box_discard]
  split <;> rfl

/-! ## Opening and closing -/

theorem box_closeBox_of_ne (differ : other ≠ address) :
    (office.closeBox address).box other = office.box other := by
  rw [closeBox, box_update _ _ _ rfl, if_neg differ]

theorem box_openBox :
    office.openBox.2.box other =
      if other = office.openBox.1 then {} else office.box other := by
  simp only [openBox, box, List.getD_eq_getElem?_getD]
  by_cases same : other = office.boxes.length
  · simp [same]
  · rw [if_neg same]
    by_cases before : other < office.boxes.length
    · simp [List.getElem?_append_left before]
    · have past : office.boxes.length + 1 ≤ other :=
        Nat.lt_of_le_of_ne (Nat.le_of_not_lt before) (Ne.symm same)
      have late : office.boxes.length ≤ other := Nat.le_of_not_lt before
      rw [List.getElem?_eq_none (by simpa using past), List.getElem?_eq_none late]

/-- A new mailbox has an address at which none was open. -/
theorem isOpen_openBox_fst : (office.box office.openBox.1).isOpen = false := by
  simp [openBox, box]

end PostOffice

end Cowrite
