import Cowrite.Proofs.Text.Rows

/-!
# Splitting and joining

Texts in their compared form and lists of lines are two ways to write one thing. To split a text
and to put a separator after every line gives its compared form (`Text.joinLines_true_splitLines`);
with separators only between the lines it gives the text without a final separator
(`Text.joinLines_false_splitLines`). The other way round, lines that are put together with a
separator after each come back (`Text.splitLines_joinLines`). So what two texts have in common if
they split alike is exactly their compared form (`Text.splitting_inverts`).

Without the separator at the end not every list of lines comes back: an empty last line is lost,
because the separator before it is then taken for the one that ends the text
(`Text.splitLines_joinLines_false_iff`).
-/

namespace Cowrite

namespace Text

variable {lines : List Text} {text other : Text}

/-! ## The final separator -/

@[simp]
theorem withoutFinalSeparator_append (text : Text) :
    withoutFinalSeparator (text ++ ['\n']) = text := by
  simp [withoutFinalSeparator]

theorem withoutFinalSeparator_of_unended (unended : text.getLast? ≠ some '\n') :
    withoutFinalSeparator text = text :=
  if_neg unended

theorem getLast?_of_unended (unended : ∀ front, text ≠ front ++ ['\n']) :
    text.getLast? ≠ some '\n' := by
  intro ends
  rcases List.getLast?_eq_some_iff.1 ends with ⟨front, split⟩
  exact unended front split

/-- The compared form is the text without its final separator, and a separator. -/
theorem terminated_eq_append (text : Text) :
    terminated text = withoutFinalSeparator text ++ ['\n'] := by
  by_cases ends : text.getLast? = some '\n'
  · rcases List.getLast?_eq_some_iff.1 ends with ⟨front, rfl⟩
    rw [withoutFinalSeparator_append, terminated_of_ends]
  · rw [withoutFinalSeparator_of_unended ends, terminated, if_neg ends]

/-! ## Joining what was split -/

theorem splitLines_ne_nil (text : Text) : splitLines text ≠ [] :=
  pieces_ne_nil _

@[simp]
theorem joinLines_true_splitLines (text : Text) :
    joinLines true (splitLines text) = terminated text := by
  rw [splitLines, joinLines_pieces, terminated_eq_append]

@[simp]
theorem joinLines_false_splitLines (text : Text) :
    joinLines false (splitLines text) = withoutFinalSeparator text := by
  have ended : joinLines false (splitLines text) ++ ['\n'] =
      withoutFinalSeparator text ++ ['\n'] := by
    rw [← joinLines_eq_append_separator (splitLines_ne_nil text), joinLines_true_splitLines,
      terminated_eq_append]
  exact List.append_cancel_right ended

/-- Two texts split alike exactly if they have one compared form. -/
theorem splitLines_eq_iff :
    splitLines text = splitLines other ↔ terminated text = terminated other := by
  constructor
  · intro same
    rw [← joinLines_true_splitLines, same, joinLines_true_splitLines]
  · intro same
    rw [terminated_eq_append, terminated_eq_append] at same
    rw [splitLines, splitLines, List.append_cancel_right same]

/-! ## Splitting what was joined -/

/-- All lines but the last one are ended by separators. -/
theorem joinLines_false_concat (front : List Text) (last : Text) :
    joinLines false (front ++ [last]) = joinLines true front ++ last := by
  induction front with
  | nil => rfl
  | cons line rest ih =>
      have later : joinLines false (line :: (rest ++ [last])) =
          line ++ '\n' :: joinLines false (rest ++ [last]) := by
        cases rest with
        | nil => rfl
        | cons next rest => rfl
      rw [List.cons_append, later, ih, joinLines_cons, List.append_assoc, List.cons_append]

/-- Lines that are put together without a separator at the end come back, unless the last one of
several is empty. -/
theorem splitLines_joinLines_false_iff (nonempty : lines ≠ [])
    (plain : ∀ line ∈ lines, '\n' ∉ line) :
    splitLines (joinLines false lines) = lines ↔ (lines.getLast? = some [] → lines = [[]]) := by
  rcases List.eq_nil_or_concat' lines with none | ⟨front, last, rfl⟩
  · exact absurd none nonempty
  rw [List.getLast?_append, List.getLast?_singleton, Option.some_or, Option.some.injEq]
  by_cases blank : last = []
  · subst blank
    rw [joinLines_false_concat, List.append_nil]
    by_cases alone : front = []
    · subst alone
      exact ⟨fun _ _ => rfl, fun _ => rfl⟩
    · have early : ∀ line ∈ front, '\n' ∉ line :=
        fun line present => plain line (List.mem_append_left _ present)
      rw [splitLines_joinLines alone early]
      simp [alone]
  · have unended : (joinLines false (front ++ [last])).getLast? ≠ some '\n' := by
      rw [joinLines_false_concat, List.getLast?_append_of_ne_nil _ blank]
      intro ends
      exact plain last (by simp) (List.mem_of_getLast? ends)
    rw [splitLines, withoutFinalSeparator_of_unended unended, pieces_joinLines nonempty plain]
    simp [blank]

/-! ## Both ways -/

/-- To split and to join are inverse. Lines come back from their text; a text comes back in its
compared form, or without one final separator; and texts have the same lines exactly if they have
one compared form, which is its own. -/
theorem splitting_inverts (nonempty : lines ≠ []) (plain : ∀ line ∈ lines, '\n' ∉ line)
    (text other : Text) :
    splitLines (joinLines true lines) = lines ∧
      (splitLines (joinLines false lines) = lines ↔ (lines.getLast? = some [] → lines = [[]])) ∧
      joinLines true (splitLines text) = terminated text ∧
      joinLines false (splitLines (text ++ ['\n'])) = text ∧
      ((∀ front, text ≠ front ++ ['\n']) → joinLines false (splitLines text) = text) ∧
      terminated (terminated text) = terminated text ∧
      (splitLines text = splitLines other ↔ terminated text = terminated other) := by
  refine ⟨splitLines_joinLines nonempty plain, splitLines_joinLines_false_iff nonempty plain,
    joinLines_true_splitLines text, ?_, ?_, terminated_terminated text, splitLines_eq_iff⟩
  · rw [joinLines_false_splitLines, withoutFinalSeparator_append]
  · intro unended
    rw [joinLines_false_splitLines, withoutFinalSeparator_of_unended (getLast?_of_unended unended)]

/-- Two lines, of which the last one is empty, come back only from the text with both separators. -/
theorem splitting_inverts_blank :
    let lines : List Text := [['é'], []]
    lines ≠ [] ∧ (∀ line ∈ lines, '\n' ∉ line) ∧ (∀ front, ['é'] ≠ front ++ ['\n']) ∧
      splitLines (joinLines true lines) = lines ∧ splitLines (joinLines false lines) ≠ lines ∧
      joinLines false (splitLines ['é']) = ['é'] ∧
      splitLines ['é'] = splitLines ['é', '\n'] := by
  intro lines
  have nonempty : lines ≠ [] := by decide
  have plain : ∀ line ∈ lines, '\n' ∉ line := by decide
  have unended : ∀ front : Text, ['é'] ≠ front ++ ['\n'] := by
    intro front same
    have lasts := congrArg List.getLast? same
    simp at lasts
  rcases splitting_inverts nonempty plain ['é'] ['é', '\n'] with
    ⟨back, kept, _, _, unchanged, _, alike⟩
  refine ⟨nonempty, plain, unended, back, ?_, unchanged unended, alike.2 rfl⟩
  rw [Ne, kept]
  decide

end Text

end Cowrite
