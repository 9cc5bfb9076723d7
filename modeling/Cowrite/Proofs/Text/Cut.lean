import Cowrite.Text.Span
import Mathlib.Tactic.Common

/-!
# Cutting texts

An offset into a text that is put together from parts is best counted in whole parts: a cut at the
end of a part gives back the part (`upTo_append`, `after_append`), and one further on goes on in
what follows (`upTo_append_add`, `after_append_add`). The boundaries of a text are exactly the
ends of its initial parts (`isBoundary_iff`), and cutting at any offset is cutting at the boundary
below it (`upTo_floor`, `after_floor`). With these, an edit is the replacement of the middle of
three parts (`Edit.applyTo_append`).
-/

namespace Cowrite

namespace Text

theorem byteSize_eq_zero_iff {text : Text} : byteSize text = 0 ↔ text = [] := by
  cases text with
  | nil => simp
  | cons c rest =>
      have := c.utf8Size_pos
      simp
      omega

theorem byteSize_pos {text : Text} (nonempty : text ≠ []) : 0 < byteSize text := by
  have : byteSize text ≠ 0 := fun zero => nonempty (byteSize_eq_zero_iff.1 zero)
  omega

@[simp]
theorem upTo_nil (offset : Nat) : upTo [] offset = [] := rfl

@[simp]
theorem after_nil (offset : Nat) : after [] offset = [] := rfl

@[simp]
theorem upTo_zero (text : Text) : upTo text 0 = [] := by
  cases text with
  | nil => rfl
  | cons c rest =>
      have := c.utf8Size_pos
      rw [upTo, if_neg (by omega)]

@[simp]
theorem after_zero (text : Text) : after text 0 = text := by
  cases text with
  | nil => rfl
  | cons c rest =>
      have := c.utf8Size_pos
      rw [after, if_neg (by omega)]

theorem upTo_append_add (front back : Text) (offset : Nat) :
    upTo (front ++ back) (byteSize front + offset) = front ++ upTo back offset := by
  induction front with
  | nil => simp
  | cons c rest ih =>
      have fits : c.utf8Size ≤ c.utf8Size + byteSize rest + offset := by omega
      have left : c.utf8Size + byteSize rest + offset - c.utf8Size = byteSize rest + offset := by
        omega
      simp [upTo, fits, left, ih]

theorem after_append_add (front back : Text) (offset : Nat) :
    after (front ++ back) (byteSize front + offset) = after back offset := by
  induction front with
  | nil => simp
  | cons c rest ih =>
      have fits : c.utf8Size ≤ c.utf8Size + byteSize rest + offset := by omega
      have left : c.utf8Size + byteSize rest + offset - c.utf8Size = byteSize rest + offset := by
        omega
      simp [after, fits, left, ih]

@[simp]
theorem upTo_append (front back : Text) : upTo (front ++ back) (byteSize front) = front := by
  simpa using upTo_append_add front back 0

@[simp]
theorem after_append (front back : Text) : after (front ++ back) (byteSize front) = back := by
  simpa using after_append_add front back 0

theorem upTo_of_byteSize_le {text : Text} {offset : Nat} (past : byteSize text ≤ offset) :
    upTo text offset = text := by
  have := upTo_append_add text [] (offset - byteSize text)
  simpa [Nat.add_sub_cancel' past] using this

theorem after_of_byteSize_le {text : Text} {offset : Nat} (past : byteSize text ≤ offset) :
    after text offset = [] := by
  have := after_append_add text [] (offset - byteSize text)
  simpa [Nat.add_sub_cancel' past] using this

/-! ## Boundaries -/

/-- The boundary below the end of an initial part, and further on. -/
theorem floor_append_add (front back : Text) (offset : Nat) :
    floor (front ++ back) (byteSize front + offset) = byteSize front + floor back offset := by
  simp [floor, upTo_append_add]

@[simp]
theorem floor_append (front back : Text) :
    floor (front ++ back) (byteSize front) = byteSize front := by
  simp [floor]

@[simp]
theorem upTo_floor (text : Text) (offset : Nat) :
    upTo text (floor text offset) = upTo text offset := by
  conv => lhs; arg 1; rw [← upTo_append_after text offset]
  exact upTo_append _ _

@[simp]
theorem after_floor (text : Text) (offset : Nat) :
    after text (floor text offset) = after text offset := by
  conv => lhs; arg 1; rw [← upTo_append_after text offset]
  exact after_append _ _

/-- Every offset past the end means the end. -/
theorem floor_min (text : Text) (offset : Nat) :
    floor text (min offset (byteSize text)) = floor text offset := by
  rcases Nat.le_total offset (byteSize text) with inside | past
  · rw [Nat.min_eq_left inside]
  · rw [Nat.min_eq_right past, floor, floor, upTo_of_byteSize_le past,
      upTo_of_byteSize_le (Nat.le_refl _)]

theorem isBoundary_iff {text : Text} {offset : Nat} :
    isBoundary text offset = true ↔
      ∃ front back, text = front ++ back ∧ byteSize front = offset := by
  simp only [isBoundary, beq_iff_eq]
  constructor
  · intro onBoundary
    exact ⟨upTo text offset, after text offset, (upTo_append_after text offset).symm, onBoundary⟩
  · rintro ⟨front, back, rfl, rfl⟩
    exact floor_append front back

theorem isBoundary_append (front back : Text) :
    isBoundary (front ++ back) (byteSize front) = true :=
  isBoundary_iff.2 ⟨front, back, rfl, rfl⟩

@[simp]
theorem floor_floor (text : Text) (offset : Nat) :
    floor text (floor text offset) = floor text offset := by
  rw [floor, upTo_floor]
  rfl

theorem isBoundary_floor (text : Text) (offset : Nat) :
    isBoundary text (floor text offset) = true := by
  simp [isBoundary, floor_floor]

theorem isBoundary_append_add (front back : Text) (offset : Nat) :
    isBoundary (front ++ back) (byteSize front + offset) = isBoundary back offset := by
  rw [Bool.eq_iff_iff]
  simp [isBoundary, floor_append_add]

/-- Two initial parts of one text, the shorter first. -/
theorem exists_middle_of_byteSize_le {front back front' back' : Text}
    (same : front ++ back = front' ++ back') (shorter : byteSize front ≤ byteSize front') :
    ∃ middle, front' = front ++ middle ∧ back = middle ++ back' := by
  rcases List.append_eq_append_iff.1 same with ⟨middle, whole, rest⟩ | ⟨middle, whole, rest⟩
  · exact ⟨middle, whole, rest⟩
  · have zero : byteSize middle = 0 := by
      rw [whole, byteSize_append] at shorter
      omega
    have none := byteSize_eq_zero_iff.1 zero
    subst none
    exact ⟨[], by simpa using whole.symm, by simpa using rest.symm⟩

theorem floor_mono (text : Text) {offset later : Nat} (le : offset ≤ later) :
    floor text offset ≤ floor text later := by
  induction text generalizing offset later with
  | nil => simp [floor]
  | cons c rest ih =>
      by_cases fits : c.utf8Size ≤ offset
      · have laterFits : c.utf8Size ≤ later := by omega
        have := @ih (offset - c.utf8Size) (later - c.utf8Size) (by omega)
        simp only [floor, upTo, fits, laterFits, if_true, byteSize_cons] at this ⊢
        omega
      · simp [floor, upTo, fits]

/-! ## Pieces -/

theorem between_append (front middle back : Text) :
    between (front ++ (middle ++ back)) (byteSize front) (byteSize front + byteSize middle) =
      middle := by
  simp [between]

theorem splice_append (front middle back replacement : Text) :
    splice (front ++ (middle ++ back)) (byteSize front) (byteSize front + byteSize middle)
      replacement = front ++ replacement ++ back := by
  simp [splice, after_append_add]

/-- The three parts into which two boundaries cut a text. -/
theorem exists_parts {text : Text} {start stop : Nat} (startBoundary : isBoundary text start = true)
    (stopBoundary : isBoundary text stop = true) (le : start ≤ stop) :
    ∃ front middle back, text = front ++ (middle ++ back) ∧ byteSize front = start ∧
      byteSize front + byteSize middle = stop := by
  rcases isBoundary_iff.1 startBoundary with ⟨front, rest, split, rfl⟩
  rcases isBoundary_iff.1 stopBoundary with ⟨front', back, split', rfl⟩
  rcases exists_middle_of_byteSize_le (split.symm.trans split') le with ⟨middle, rfl, rfl⟩
  exact ⟨front, middle, back, split, rfl, by simp⟩

/-- The five parts into which two spans cut a text that do not touch. -/
theorem exists_parts_of_apart {text : Text} {start stop start' stop' : Nat}
    (boundaries : ∀ offset ∈ [start, stop, start', stop'], isBoundary text offset = true)
    (forward : start ≤ stop) (apart : stop < start') (forward' : start' ≤ stop') :
    ∃ early removed middle removed' late,
      text = early ++ (removed ++ (middle ++ (removed' ++ late))) ∧ middle ≠ [] ∧
        start = byteSize early ∧ stop = byteSize (early ++ removed) ∧
          start' = byteSize (early ++ removed ++ middle) ∧
            stop' = byteSize (early ++ removed ++ middle ++ removed') := by
  rcases exists_parts (boundaries start (by simp)) (boundaries stop (by simp)) forward with
    ⟨early, removed, rest, parts, rfl, rfl⟩
  rcases exists_parts (boundaries start' (by simp)) (boundaries stop' (by simp)) forward' with
    ⟨front, removed', late, parts', rfl, rfl⟩
  rw [← List.append_assoc] at parts
  rw [← byteSize_append] at apart
  rcases exists_middle_of_byteSize_le (parts.symm.trans parts') (Nat.le_of_lt apart) with
    ⟨middle, rfl, rfl⟩
  refine ⟨early, removed, middle, removed', late, ?_, ?_, rfl, ?_, rfl, ?_⟩
  · rw [parts, List.append_assoc]
  · rintro rfl
    simp at apart
  · rw [byteSize_append]
  · rw [byteSize_append _ removed']

end Text

namespace Edit

theorem startIn_le_stopIn (edit : Edit) (old : Text) : edit.startIn old ≤ edit.stopIn old := by
  have := Text.floor_mono old (Nat.le_max_right edit.stop (edit.startIn old))
  rwa [startIn, Text.floor_floor] at this

theorem exists_parts (edit : Edit) (old : Text) :
    ∃ front middle back, old = front ++ (middle ++ back) ∧
      Text.byteSize front = edit.startIn old ∧
      Text.byteSize front + Text.byteSize middle = edit.stopIn old :=
  Text.exists_parts (Text.isBoundary_floor _ _) (Text.isBoundary_floor _ _)
    (edit.startIn_le_stopIn old)

theorem startIn_append (front back : Text) {edit : Edit}
    (start : edit.start = Text.byteSize front) :
    edit.startIn (front ++ back) = Text.byteSize front := by
  simp [startIn, start]

theorem stopIn_append (front middle back : Text) {edit : Edit}
    (start : edit.start = Text.byteSize front)
    (stop : edit.stop = Text.byteSize front + Text.byteSize middle) :
    edit.stopIn (front ++ (middle ++ back)) = Text.byteSize front + Text.byteSize middle := by
  rw [stopIn, startIn_append front _ start, stop, Nat.max_eq_left (Nat.le_add_right _ _),
    Text.floor_append_add, Text.floor_append]

/-- An edit replaces the middle of three parts. -/
theorem applyTo_append (front middle back : Text) {edit : Edit}
    (start : edit.start = Text.byteSize front)
    (stop : edit.stop = Text.byteSize front + Text.byteSize middle) :
    edit.applyTo (front ++ (middle ++ back)) = front ++ edit.text ++ back := by
  rw [applyTo, startIn_append front _ start, stopIn_append front middle back start stop,
    Text.splice_append]

end Edit

end Cowrite
