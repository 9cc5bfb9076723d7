import Cowrite.Buffer
import Cowrite.Proofs.Text.Span
import Mathlib.Data.List.Basic

/-!
# The text of lines

With a separator after every line, lines that are put together give texts that are put together
(`joinLines_append`), so a range of lines is a piece of the text between two boundaries. A text in
its compared form differs from the text itself by at most one final separator
(`terminated_eq_iff`), and an edit that is meant for the compared form can miss its place in the
text itself only at that separator (`terminated_applyTo_iff`).
-/

namespace Cowrite

namespace Text

/-! ## Lines put together -/

@[simp]
theorem joinLines_cons (line : Text) (rest : List Text) :
    joinLines true (line :: rest) = line ++ '\n' :: joinLines true rest := by
  cases rest with
  | nil => simp [joinLines]
  | cons next rest => simp [joinLines]

@[simp]
theorem joinLines_nil (trailing : Bool) : joinLines trailing [] = [] := rfl

@[simp]
theorem joinLines_append (front back : List Text) :
    joinLines true (front ++ back) = joinLines true front ++ joinLines true back := by
  induction front with
  | nil => simp
  | cons line rest ih => simp [ih]

theorem joinLines_eq_append_separator {lines : List Text} (nonempty : lines ≠ []) :
    joinLines true lines = joinLines false lines ++ ['\n'] := by
  induction lines with
  | nil => exact absurd rfl nonempty
  | cons line rest ih =>
      cases rest with
      | nil => simp [joinLines]
      | cons next rest =>
          have shorter := ih (by simp)
          simp only [joinLines] at shorter ⊢
          simp [shorter]

@[simp]
theorem byteSize_joinLines (lines : List Text) :
    byteSize (joinLines true lines) = linesSize lines := by
  have separator : byteSize ['\n'] = 1 := by decide
  induction lines with
  | nil => rfl
  | cons line rest ih =>
      rw [joinLines_cons, ← List.singleton_append, byteSize_append, byteSize_append, separator, ih,
        linesSize]
      omega

/-! ## Lines without separators -/

theorem pieces_ne_nil (text : Text) : pieces text ≠ [] := by
  cases text with
  | nil => simp [pieces]
  | cons c rest =>
      rw [pieces]
      split
      · simp
      · split <;> simp

theorem pieces_eq_singleton {line : Text} (plain : '\n' ∉ line) : pieces line = [line] := by
  induction line with
  | nil => rfl
  | cons c rest ih =>
      simp only [List.mem_cons, not_or] at plain
      have differ : c ≠ '\n' := fun same => plain.1 same.symm
      simp [pieces, differ, ih plain.2]

theorem not_mem_of_mem_pieces {text line : Text} (present : line ∈ pieces text) : '\n' ∉ line := by
  induction text generalizing line with
  | nil =>
      rw [pieces, List.mem_singleton] at present
      simp [present]
  | cons c rest ih =>
      rw [pieces] at present
      split at present
      case isTrue =>
        rcases List.mem_cons.1 present with rfl | later
        · simp
        · exact ih later
      case isFalse differ =>
        rcases split : pieces rest with _ | ⟨first, others⟩
        · rw [split] at present
          rw [List.mem_singleton.1 present]
          simpa using fun same => differ same.symm
        · rw [split] at present ih
          rcases List.mem_cons.1 present with rfl | later
          · have inner : '\n' ∉ first := ih List.mem_cons_self
            simpa [inner] using fun same => differ same.symm
          · exact ih (List.mem_cons_of_mem _ later)

theorem flatMap_pieces {lines : List Text} (plain : ∀ line ∈ lines, '\n' ∉ line) :
    lines.flatMap pieces = lines := by
  induction lines with
  | nil => rfl
  | cons line rest ih =>
      rw [List.flatMap_cons, pieces_eq_singleton (plain line List.mem_cons_self),
        ih fun other present => plain other (List.mem_cons_of_mem _ present)]
      rfl

theorem not_mem_splice {line : Text} (plain : '\n' ∉ line) (start stop : Nat) :
    '\n' ∉ splice line start stop [] := by
  have front := fun offset => upTo_append_after line offset
  intro present
  rw [splice, List.append_nil, List.mem_append] at present
  rcases present with early | late
  · apply plain
    rw [← front start]
    exact List.mem_append_left _ early
  · apply plain
    rw [← front stop]
    exact List.mem_append_right _ late

/-! ## The compared form -/

theorem terminated_of_ends (front : Text) : terminated (front ++ ['\n']) = front ++ ['\n'] := by
  simp [terminated]

theorem exists_terminated (text : Text) : ∃ front, terminated text = front ++ ['\n'] := by
  by_cases ends : text.getLast? = some '\n'
  · rcases List.getLast?_eq_some_iff.1 ends with ⟨front, rfl⟩
    exact ⟨front, terminated_of_ends front⟩
  · exact ⟨text, by simp [terminated, ends]⟩

theorem joinLines_pieces (text : Text) : joinLines true (pieces text) = text ++ ['\n'] := by
  induction text with
  | nil => rfl
  | cons c rest ih =>
      rw [pieces]
      split
      case isTrue separator =>
        rw [joinLines_cons, ih, separator]
        rfl
      case isFalse =>
        rcases split : pieces rest with _ | ⟨line, lines⟩
        · exact absurd split (pieces_ne_nil rest)
        · rw [split, joinLines_cons] at ih
          simp only
          rw [joinLines_cons, List.cons_append, ih]
          rfl

theorem terminated_terminated (text : Text) : terminated (terminated text) = terminated text := by
  rcases exists_terminated text with ⟨front, ends⟩
  rw [ends, terminated_of_ends]

theorem terminated_joinLines {lines : List Text} (nonempty : lines ≠ []) :
    terminated (joinLines true lines) = joinLines true lines := by
  rw [joinLines_eq_append_separator nonempty, terminated_of_ends]

/-- The lines of a text in the compared form make up that text. -/
theorem joinLines_splitLines (text : Text) :
    joinLines true (splitLines (terminated text)) = terminated text := by
  rcases exists_terminated text with ⟨front, ends⟩
  have without : withoutFinalSeparator (front ++ ['\n']) = front := by
    simp [withoutFinalSeparator]
  rw [ends, splitLines, without, joinLines_pieces]

/-- The compared form is the text itself, or has one separator more. -/
theorem eq_or_of_terminated_eq {text shown : Text} (same : terminated text = shown) :
    text = shown ∨ text ≠ shown ∧ shown = text ++ ['\n'] := by
  by_cases ends : text.getLast? = some '\n'
  · left
    simpa [terminated, ends] using same
  · right
    have longer : shown = text ++ ['\n'] := by
      simpa [terminated, ends] using same.symm
    refine ⟨?_, longer⟩
    rintro rfl
    simp at longer

/-- What shows as itself with one separator more does not end in a separator. -/
theorem terminated_eq_append_iff (text : Text) :
    terminated text = text ++ ['\n'] ↔ ¬ ['\n', '\n'] <:+ text ++ ['\n'] := by
  have suffix : ['\n', '\n'] <:+ text ++ ['\n'] ↔ text.getLast? = some '\n' := by
    rw [List.getLast?_eq_some_iff]
    constructor
    · rintro ⟨front, same⟩
      have split : (front ++ ['\n']) ++ ['\n'] = text ++ ['\n'] := by
        simpa using same
      exact ⟨front, (List.append_cancel_right split).symm⟩
    · rintro ⟨front, rfl⟩
      exact ⟨front, by simp⟩
  rw [suffix, terminated]
  split
  case isTrue ends => simp [ends]
  case isFalse unfinished => simp [unfinished]

end Text

namespace Edit

/-! ## Edits of the compared form -/

/-- Whether an edit is what became of a shown text: it leads to the new one, or it deletes
everything, which leaves an empty line. -/
def Tracks (edit : Edit) (shown typed : Text) : Prop :=
  edit.Leads shown typed ∨ edit = ⟨0, Text.byteSize shown, []⟩ ∧ typed = ['\n']

/-- Whether an edit of what is shown is not the same edit of a text that shows so: the text lacks
the final separator, and the edit appends something to it or leaves an empty line before it. -/
def Misses (edit : Edit) (text shown typed : Text) : Prop :=
  text ≠ shown ∧ edit.isNoop = false ∧
    (edit.start = Text.byteSize shown ∨
      edit.stop < Text.byteSize shown ∧ ['\n', '\n'] <:+ typed)

instance (edit : Edit) (text shown typed : Text) : Decidable (edit.Misses text shown typed) :=
  inferInstanceAs (Decidable (_ ∧ _ ∧ (_ ∨ _ ∧ _)))

/-- An edit of what is shown stands between two boundaries of it. -/
theorem Tracks.exists_parts {edit : Edit} {shown typed : Text} (tracks : edit.Tracks shown typed) :
    ∃ front middle back, shown = front ++ (middle ++ back) ∧
      edit.start = Text.byteSize front ∧
      edit.stop = Text.byteSize front + Text.byteSize middle := by
  rcases tracks with ⟨front, middle, back, split, _, start, stop⟩ | ⟨rfl, _⟩
  · exact ⟨front, middle, back, split, start, stop⟩
  · exact ⟨[], shown, [], by simp, by simp, by simp⟩

theorem applyTo_of_byteSize_le_start {edit : Edit} {text : Text}
    (past : Text.byteSize text ≤ edit.start) : edit.applyTo text = text ++ edit.text := by
  have start : edit.startIn text = Text.byteSize text := by
    rw [startIn, Text.floor, Text.upTo_of_byteSize_le past]
  have stop : edit.stopIn text = Text.byteSize text := by
    have past : Text.byteSize text ≤ max edit.stop (edit.startIn text) := by
      rw [start]
      exact Nat.le_max_right _ _
    rw [stopIn, Text.floor, Text.upTo_of_byteSize_le past]
  rw [applyTo, Text.splice, start, stop, Text.upTo_of_byteSize_le (Nat.le_refl _),
    Text.after_of_byteSize_le (Nat.le_refl _), List.append_nil]

theorem applyTo_of_byteSize_le_stop (front middle : Text) {edit : Edit}
    (start : edit.start = Text.byteSize front)
    (past : Text.byteSize (front ++ middle) ≤ edit.stop) :
    edit.applyTo (front ++ middle) = front ++ edit.text := by
  have cut : edit.startIn (front ++ middle) = Text.byteSize front :=
    startIn_append front middle start
  have stop : edit.stopIn (front ++ middle) = Text.byteSize (front ++ middle) := by
    rw [stopIn, Text.floor, Text.upTo_of_byteSize_le (Nat.le_trans past (Nat.le_max_left _ _))]
  rw [applyTo, Text.splice, cut, stop, Text.upTo_append,
    Text.after_of_byteSize_le (Nat.le_refl _), List.append_nil]

/-- An edit of a text that lacks the final separator of what is shown. -/
theorem Leads.terminated_applyTo_iff {edit : Edit} {text typed : Text}
    (leads : edit.Leads (text ++ ['\n']) typed) (ends : ∃ front, typed = front ++ ['\n'])
    (changes : edit.isNoop = false) :
    Text.terminated (edit.applyTo text) = typed ↔
      ¬(edit.start = Text.byteSize (text ++ ['\n']) ∨
        edit.stop < Text.byteSize (text ++ ['\n']) ∧ ['\n', '\n'] <:+ typed) := by
  rcases leads with ⟨front, middle, back, shown, rfl, start, stop⟩
  have size := congrArg Text.byteSize shown
  rw [Text.byteSize_append _ (middle ++ back), Text.byteSize_append middle] at size
  rcases List.eq_nil_or_concat' back with rfl | ⟨rest, last, rfl⟩
  · rcases List.eq_nil_or_concat' middle with rfl | ⟨kept, last, rfl⟩
    · have appends : edit.start = Text.byteSize (text ++ ['\n']) := by
        rw [size, start]
        simp
      have nonempty : edit.text ≠ [] := by
        intro none
        simp [isNoop, start, stop, none] at changes
      have past : Text.byteSize text ≤ edit.start := by
        rw [appends, Text.byteSize_append]
        exact Nat.le_add_right _ _
      rcases List.eq_nil_or_concat' edit.text with none | ⟨added, last, isLast⟩
      · exact absurd none nonempty
      rcases ends with ⟨whole, isWhole⟩
      have separator : last = '\n' := by
        have lasts := congrArg List.getLast? isWhole
        simpa [isLast] using lasts
      rw [applyTo_of_byteSize_le_start past]
      simp only [appends, true_or, not_true, iff_false]
      intro same
      have sizes := congrArg List.length same
      rw [isLast, separator, ← List.append_assoc, Text.terminated_of_ends] at sizes
      have lengths := congrArg List.length shown
      simp at sizes lengths
      omega
    · have parts : text = front ++ kept := by
        have split : text ++ ['\n'] = (front ++ kept) ++ [last] := by
          simpa using shown
        exact (List.append_inj' split rfl).1
      have past : Text.byteSize (front ++ kept) ≤ edit.stop := by
        rw [stop, Text.byteSize_append, Text.byteSize_append]
        omega
      have inside : edit.start ≠ Text.byteSize (text ++ ['\n']) := by
        have := last.utf8Size_pos
        simp at size
        simp
        omega
      have whole : ¬edit.stop < Text.byteSize (text ++ ['\n']) := by
        simp at size stop
        simp
        omega
      rw [parts, applyTo_of_byteSize_le_stop front kept start past, ← parts]
      simp only [inside, whole, false_and, or_self, not_false_iff, iff_true]
      rcases ends with ⟨whole, isWhole⟩
      rw [List.append_nil] at isWhole ⊢
      rw [isWhole, Text.terminated_of_ends]
  · have split : text ++ ['\n'] = (front ++ (middle ++ rest)) ++ [last] := by
      simpa using shown
    rcases List.append_inj' split rfl with ⟨rfl, isLast⟩
    cases isLast
    have inside : edit.start ≠ Text.byteSize (front ++ (middle ++ rest) ++ ['\n']) := by
      have : '\n'.utf8Size = 1 := by decide
      simp
      omega
    have before : edit.stop < Text.byteSize (front ++ (middle ++ rest) ++ ['\n']) := by
      have : '\n'.utf8Size = 1 := by decide
      simp
      omega
    have typed : front ++ (edit.text ++ (rest ++ ['\n'])) =
        (front ++ edit.text ++ rest) ++ ['\n'] := by
      simp
    rw [applyTo_append front middle rest start stop]
    simp only [inside, before, true_and, false_or]
    rw [typed]
    exact Text.terminated_eq_append_iff _

theorem terminated_deleteAll {text shown : Text} (same : Text.terminated text = shown) :
    (⟨0, Text.byteSize shown, []⟩ : Edit).isNoop = false ∧
      (⟨0, Text.byteSize shown, []⟩ : Edit).applyTo text = [] := by
  have size : Text.byteSize text ≤ Text.byteSize shown := by
    rcases Text.eq_or_of_terminated_eq same with rfl | ⟨_, rfl⟩
    · exact Nat.le_refl _
    · simp
  have positive : 0 < Text.byteSize shown := by
    rcases Text.exists_terminated text with ⟨front, ends⟩
    apply Text.byteSize_pos
    rw [← same, ends]
    simp
  constructor
  · simp only [isNoop, List.isEmpty_nil, Bool.and_true, beq_eq_false_iff_ne]
    omega
  · exact applyTo_of_byteSize_le_stop [] text rfl size

/-- What is typed into what is shown of a text comes out of the text, unless the edit misses. -/
theorem Tracks.terminated_iff {edit : Edit} {text shown typed : Text}
    (tracks : edit.Tracks shown typed) (same : Text.terminated text = shown)
    (ends : ∃ front, typed = front ++ ['\n']) :
    Text.terminated (if edit.isNoop then text else edit.applyTo text) = typed ↔
      ¬edit.Misses text shown typed := by
  have stays : Text.terminated typed = typed := by
    rcases ends with ⟨front, rfl⟩
    exact Text.terminated_of_ends front
  rcases tracks with leads | ⟨rfl, rfl⟩
  · cases changes : edit.isNoop with
    | true =>
        have unchanged := leads.eq_of_isNoop changes
        simp [Misses, changes, same, unchanged]
    | false =>
        simp only [Bool.false_eq_true, if_false]
        rcases Text.eq_or_of_terminated_eq same with rfl | ⟨differ, rfl⟩
        · simp [Misses, leads.applyTo_eq, stays]
        · rw [leads.terminated_applyTo_iff ends changes]
          simp [Misses, changes]
  · rcases terminated_deleteAll same with ⟨changes, nothing⟩
    have positive : (0 : Nat) ≠ Text.byteSize shown := by
      intro zero
      simp [isNoop, ← zero] at changes
    rw [changes, if_neg (by simp), nothing]
    have blank : Text.terminated [] = ['\n'] := rfl
    simp [Misses, blank, positive]

end Edit

end Cowrite
