import Cowrite.Proofs.Session.Binding
import Cowrite.Proofs.Text.Lines

/-!
# What is typed, as the binding sees it

Whatever the user does to a buffer comes to replacing some of its lines (`Typing.exists_setLines`),
and the notification says which (`Buffer.setLines_reports`). One notification is looked at by
itself, several are not, so all that has to be known of a buffer in which somebody types is which of
the two is the case (`Buffer.Typed`). In both cases the edit that the binding comes to is what
became of the shown text (`Typed.tracks`).
-/

namespace Cowrite

/-- What a user does to a buffer. -/
inductive Typing where
  | setLines (first last : Nat) (replacement : List Text)
  | insertText (row col : Nat) (text : Text)
  | deleteText (row col count : Nat)

namespace Typing

def perform (buffer : Buffer) : Typing → Buffer
  | .setLines first last replacement => (buffer.setLines first last replacement).2
  | .insertText row col text => (buffer.insertText row col text).2
  | .deleteText row col count => (buffer.deleteText row col count).2

/-- What the editor says of something typed. -/
def notice (buffer : Buffer) : Typing → LineChange
  | .setLines first last replacement => (buffer.setLines first last replacement).1
  | .insertText row col text => (buffer.insertText row col text).1
  | .deleteText row col count => (buffer.deleteText row col count).1

/-- Whether all lines are deleted and none put in their place. -/
def Clears (buffer : Buffer) : Typing → Prop
  | .setLines first last replacement =>
      first = 0 ∧ buffer.lines.length ≤ last ∧ replacement = []
  | _ => False

/-- Whether the replacement of lines is made of lines. -/
def IsPlain : Typing → Prop
  | .setLines _ _ replacement => ∀ line ∈ replacement, '\n' ∉ line
  | _ => True

end Typing

/-- The lines that a buffer keeps: one at least. -/
def keptLines (lines : List Text) : List Text :=
  if lines.isEmpty then [[]] else lines

/-- Whether a notification says truly how the lines changed. -/
def LineChange.Reports (change : LineChange) (before now : List Text) : Prop :=
  ∃ front middle added back, before = front ++ (middle ++ back) ∧
    now = keptLines (front ++ (added ++ back)) ∧
    change =
      { first := front.length
        lastOld := front.length + middle.length
        lastNew := front.length + added.length
        oldBytes := some (Text.linesSize middle) }

namespace LineChange

theorem length_linesBetween {lines : List Text} {first last : Nat} (forward : first ≤ last)
    (inside : last ≤ lines.length) : (linesBetween lines first last).length = last - first := by
  rw [linesBetween, List.length_take, List.length_drop]
  omega

theorem take_append_linesBetween (lines : List Text) {first last : Nat} (forward : first ≤ last) :
    lines.take first ++ (linesBetween lines first last ++ lines.drop last) = lines := by
  have rest : lines.drop last = (lines.drop first).drop (last - first) := by
    rw [List.drop_drop, Nat.add_sub_cancel' forward]
  rw [rest, linesBetween, List.take_append_drop, List.take_append_drop]

theorem linesBetween_append (front middle back : List Text) :
    linesBetween (front ++ (middle ++ back)) front.length (front.length + middle.length) =
      middle := by
  simp [linesBetween]

/-- To delete all lines is to delete the whole text. -/
theorem editOfChange_deleteAll {before : List Text} (nonempty : before ≠ []) :
    Binding.editOfChange before [[]]
        { first := 0, lastOld := before.length, lastNew := 0
          oldBytes := some (Text.linesSize before) } =
      ⟨0, Text.byteSize (Text.joinLines true before), []⟩ := by
  have counts : before.length ≠ 0 := by
    simpa using nonempty
  have everything : toEdit
      { first := 0, lastOld := before.length, lastNew := 0
        oldBytes := some (Text.linesSize before) } before [[]] =
      ⟨0, Text.byteSize (Text.joinLines true before), []⟩ := by
    simp [toEdit, changesLineCount, linesBetween, Text.lineStart, Text.linesSize, counts]
  rw [Binding.editOfChange, everything, Edit.narrow_deleteAll]

/-- A notification that counts the replaced bytes truly, or not at all, stands for the replacement
of its lines. -/
theorem leads_toEdit {change : LineChange} {front middle added back : List Text}
    (first : change.first = front.length)
    (lastOld : change.lastOld = front.length + middle.length)
    (lastNew : change.lastNew = front.length + added.length)
    (counted : change.oldBytes.getD (Text.linesSize middle) = Text.linesSize middle) :
    (change.toEdit (front ++ (middle ++ back)) (front ++ (added ++ back))).Leads
      (Text.joinLines true (front ++ (middle ++ back)))
      (Text.joinLines true (front ++ (added ++ back))) := by
  have oldLines := linesBetween_append front middle back
  have newLines := linesBetween_append front added back
  have start : Text.lineStart (front ++ (middle ++ back)) front.length =
      Text.linesSize front := by
    simp [Text.lineStart]
  have old : Text.joinLines true (front ++ (middle ++ back)) =
      Text.joinLines true front ++ (Text.joinLines true middle ++ Text.joinLines true back) := by
    simp
  have new : Text.joinLines true (front ++ (added ++ back)) =
      Text.joinLines true front ++ (Text.joinLines true added ++ Text.joinLines true back) := by
    simp
  have firstInside : min front.length (front ++ (middle ++ back)).length = front.length := by
    simp
  have lastOldInside : max front.length (min (front.length + middle.length)
      (front ++ (middle ++ back)).length) = front.length + middle.length := by
    simp
  have newFirstInside : min front.length (front ++ (added ++ back)).length = front.length := by
    simp
  have lastNewInside : max front.length (min (front.length + added.length)
      (front ++ (added ++ back)).length) = front.length + added.length := by
    simp
  rw [old, new]
  simp only [toEdit, first, lastOld, lastNew, firstInside, lastOldInside, newFirstInside,
    lastNewInside, start, oldLines, newLines, counted]
  cases unchanged : change.changesLineCount with
  | true => exact ⟨_, _, _, rfl, rfl, by simp, by simp⟩
  | false =>
    have counts : middle.length = added.length := by
      simpa [changesLineCount, lastOld, lastNew] using unchanged
    by_cases none : middle = []
    · have noneAdded : added = [] := by
        simpa [none] using counts.symm
      subst none
      subst noneAdded
      exact ⟨_, [], _, rfl, rfl, by simp, by simp⟩
    · have someAdded : added ≠ [] := by
        rintro rfl
        exact none (by simpa using counts)
      rw [Text.joinLines_eq_append_separator none,
        Text.joinLines_eq_append_separator someAdded]
      exact ⟨Text.joinLines true front, Text.joinLines false middle,
        ['\n'] ++ Text.joinLines true back, by simp, by simp, by simp, by simp⟩

/-- A true notification stands for an edit that leads from the lines before to the lines now, or
deletes everything. -/
theorem Reports.tracks {change : LineChange} {before now : List Text}
    (reports : change.Reports before now) (nonempty : before ≠ []) :
    (Binding.editOfChange before now change).Tracks (Text.joinLines true before)
      (Text.joinLines true now) := by
  rcases reports with ⟨front, middle, added, back, rfl, rfl, rfl⟩
  by_cases empty : front ++ (added ++ back) = []
  · simp only [List.append_eq_nil_iff] at empty
    rcases empty with ⟨rfl, rfl, rfl⟩
    right
    refine ⟨?_, rfl⟩
    have deletes := editOfChange_deleteAll (by simpa using nonempty : middle ≠ [])
    simpa [keptLines] using deletes
  · left
    have kept : keptLines (front ++ (added ++ back)) = front ++ (added ++ back) := by
      rw [keptLines, if_neg]
      simpa using empty
    rw [kept]
    exact (leads_toEdit rfl rfl rfl rfl).narrow

end LineChange

namespace Buffer

/-- Whether a buffer is made of lines. -/
structure Tidy (buffer : Buffer) : Prop where
  nonempty : buffer.lines ≠ []
  plain : ∀ line ∈ buffer.lines, '\n' ∉ line

/-- A buffer in which was typed since it had certain lines and no notifications. -/
structure Typed (before : List Text) (buffer : Buffer) : Prop where
  tidy : buffer.Tidy
  heard : buffer.changes = [] ∧ buffer.lines = before ∨
    (∃ change, buffer.changes = [change] ∧ change.Reports before buffer.lines) ∨
    2 ≤ buffer.changes.length

variable {buffer : Buffer}

theorem Tidy.ends (tidy : buffer.Tidy) : ∃ front, buffer.content = front ++ ['\n'] :=
  ⟨_, Text.joinLines_eq_append_separator tidy.nonempty⟩

theorem ne_nil_keptLines (lines : List Text) : keptLines lines ≠ [] := by
  rw [keptLines]
  split
  case isTrue => simp
  case isFalse nonempty => simpa using nonempty

/-- To set lines is to replace some of them, and the notification says which. -/
theorem exists_parts_setLines (buffer : Buffer) {replacement : List Text}
    (plain : ∀ line ∈ replacement, '\n' ∉ line) (first last : Nat) :
    ∃ front middle back, buffer.lines = front ++ (middle ++ back) ∧
      (buffer.setLines first last replacement).2.lines =
        keptLines (front ++ (replacement ++ back)) ∧
      (buffer.setLines first last replacement).1 =
        { first := front.length
          lastOld := front.length + middle.length
          lastNew := front.length + replacement.length
          oldBytes := some (Text.linesSize middle) } := by
  let start := min first buffer.lines.length
  let stop := max start (min last buffer.lines.length)
  have starts : start ≤ buffer.lines.length := Nat.min_le_right _ _
  have stops : stop ≤ buffer.lines.length := by
    apply Nat.max_le.2
    exact ⟨starts, Nat.min_le_right _ _⟩
  have le : start ≤ stop := Nat.le_max_left _ _
  have split := (LineChange.take_append_linesBetween buffer.lines le).symm
  have lines : (buffer.setLines first last replacement).2.lines =
      keptLines (buffer.lines.take start ++ (replacement ++ buffer.lines.drop stop)) := by
    rw [setLines, Text.flatMap_pieces plain, ← List.append_assoc]
    rfl
  have startLength : (buffer.lines.take start).length = start := by
    simp [starts]
  have stopLength := LineChange.length_linesBetween le stops
  refine ⟨_, _, _, split, lines, ?_⟩
  rw [startLength, stopLength, Nat.add_sub_cancel' le]
  rfl

theorem setLines_reports (buffer : Buffer) {replacement : List Text}
    (plain : ∀ line ∈ replacement, '\n' ∉ line) (first last : Nat) :
    ∃ change, (buffer.setLines first last replacement).2.changes = buffer.changes ++ [change] ∧
      change.Reports buffer.lines (buffer.setLines first last replacement).2.lines := by
  rcases buffer.exists_parts_setLines plain first last with
    ⟨front, middle, back, split, lines, notice⟩
  exact ⟨_, rfl, front, middle, replacement, back, split, lines, notice⟩

/-- Whatever is put in the place of lines, a buffer stays one that is made of lines. -/
theorem Tidy.setLines (tidy : buffer.Tidy) (first last : Nat) (replacement : List Text) :
    (buffer.setLines first last replacement).2.Tidy := by
  constructor
  · exact ne_nil_keptLines _
  · intro line present
    simp only [Buffer.setLines] at present
    split at present
    · rw [List.mem_singleton.1 present]
      simp
    · rcases List.mem_append.1 present with early | late
      · rcases List.mem_append.1 early with old | new
        · exact tidy.plain line (List.mem_of_mem_take old)
        · rcases List.mem_flatMap.1 new with ⟨text, _, piece⟩
          exact Text.not_mem_of_mem_pieces piece
      · exact tidy.plain line (List.mem_of_mem_drop late)

end Buffer

namespace Typing

variable {buffer : Buffer}

/-- Typing is to set lines, and only to set none can clear the buffer. -/
theorem exists_setLines (tidy : buffer.Tidy) {typing : Typing} (plain : typing.IsPlain) :
    ∃ first last replacement, (∀ line ∈ replacement, '\n' ∉ line) ∧
      typing.notice buffer = (buffer.setLines first last replacement).1 ∧
      typing.perform buffer = (buffer.setLines first last replacement).2 ∧
      (typing.Clears buffer ↔ first = 0 ∧ buffer.lines.length ≤ last ∧ replacement = []) := by
  cases typing with
  | setLines first last replacement =>
      exact ⟨first, last, replacement, plain, rfl, rfl, Iff.rfl⟩
  | insertText row col text =>
      refine ⟨row, row + 1, _, fun line => Text.not_mem_of_mem_pieces, rfl, rfl, ?_⟩
      simp [Clears, Text.pieces_ne_nil]
  | deleteText row col count =>
      refine ⟨row, row + 1, [_], ?_, rfl, rfl, by simp [Clears]⟩
      intro line present
      rw [List.mem_singleton.1 present]
      apply Text.not_mem_splice
      cases found : buffer.line? row with
      | none => simp
      | some line => exact tidy.plain line (List.mem_of_getElem? found)

theorem tidy_perform (tidy : buffer.Tidy) (typing : Typing) : (typing.perform buffer).Tidy := by
  cases typing with
  | setLines first last replacement => exact tidy.setLines first last replacement
  | insertText row col text => exact tidy.setLines row (row + 1) _
  | deleteText row col count => exact tidy.setLines row (row + 1) _

end Typing

namespace Buffer

variable {buffer : Buffer} {before : List Text}

/-- One typing more is heard of. -/
theorem Typed.perform (typed : buffer.Typed before) {typing : Typing} (plain : typing.IsPlain) :
    (typing.perform buffer).Typed before := by
  rcases typing.exists_setLines typed.tidy plain with
    ⟨first, last, replacement, lines, _, same, _⟩
  rcases buffer.setLines_reports lines first last with ⟨change, changes, reports⟩
  refine ⟨Typing.tidy_perform typed.tidy typing, ?_⟩
  rw [same]
  rcases typed.heard with ⟨quiet, unchanged⟩ | ⟨other, one, _⟩ | several
  · right
    left
    rw [quiet] at changes
    exact ⟨change, changes, unchanged ▸ reports⟩
  · right
    right
    rw [changes, one]
    simp
  · right
    right
    rw [changes, List.length_append]
    omega

theorem Typed.foldl (typed : buffer.Typed before) {typings : List Typing}
    (plain : ∀ typing ∈ typings, typing.IsPlain) :
    (typings.foldl Typing.perform buffer).Typed before := by
  induction typings generalizing buffer with
  | nil => exact typed
  | cons typing rest ih =>
      apply ih (typed.perform (plain typing List.mem_cons_self))
      intro other present
      exact plain other (List.mem_cons_of_mem _ present)

/-- The edit that the binding comes to is what became of the shown text. -/
theorem Typed.tracks (typed : buffer.Typed before) (nonempty : before ≠ []) {binding : Binding}
    (shadow : binding.shadow = before) :
    (binding.editOf buffer).Tracks (Text.joinLines true before) buffer.content := by
  have whole : (Binding.editOfTexts before buffer.lines).Tracks (Text.joinLines true before)
      buffer.content := .inl (Edit.leads_ofTexts _ _)
  rcases typed.heard with ⟨quiet, _⟩ | ⟨change, one, reports⟩ | several
  · rw [Binding.editOf, shadow, quiet]
    exact whole
  · rw [Binding.editOf, shadow, one]
    exact reports.tracks nonempty
  · rw [binding.editOf_of_several buffer several, shadow]
    exact whole

end Buffer

end Cowrite
