import Cowrite.Proofs.Session.Observing

/-!
# What an editor says of typing

A notification tells the whole truth (`LineChange.Truthful`) if the lines of which it speaks were
replaced by those that it names, nothing else became different, and the replaced bytes are counted.
Then it also stands for an edit that leads from the old content to the new one.

Whatever a user does comes to putting some lines in the place of others, and the editor says so. The
one thing that it does not say is that a buffer keeps a line when all are deleted: the notification
speaks of no new line, and there is an empty one. So typing is told truthfully exactly if it does
not clear the buffer (`Typing.notice_truthful_iff`).
-/

namespace Cowrite

/-- Whether a notification says truly which lines were replaced by which, and counts their bytes. -/
structure LineChange.Truthful (change : LineChange) (before now : List Text) : Prop where
  accurate : change.Accurate before now
  counted : change.oldBytes =
    some (Text.linesSize (LineChange.linesBetween before change.first change.lastOld))

namespace LineChange

/-- The notification that one part of some lines was replaced. -/
theorem truthful_of_parts (front middle added back : List Text) :
    Truthful
      { first := front.length
        lastOld := front.length + middle.length
        lastNew := front.length + added.length
        oldBytes := some (Text.linesSize middle) }
      (front ++ (middle ++ back)) (front ++ (added ++ back)) := by
  have oldLines := linesBetween_append front middle back
  have newLines := linesBetween_append front added back
  refine ⟨⟨Nat.le_add_right _ _, by simp, Nat.le_add_right _ _, by simp, ?_, ?_⟩, ?_⟩
  · rw [newLines]
    simp
  · intro bytes counted
    cases counted
    rw [oldLines]
  · rw [oldLines]

/-- A notification that no line is left is wrong about every buffer. -/
theorem not_accurate_of_none {change : LineChange} {before now : List Text}
    (first : change.first = 0) (lastOld : change.lastOld = before.length)
    (lastNew : change.lastNew = 0) (some : now ≠ []) : ¬change.Accurate before now := by
  intro accurate
  have replaced := accurate.replaced
  simp only [first, lastOld, lastNew, linesBetween, Nat.sub_self, List.take_zero, List.drop_length,
    List.append_nil] at replaced
  exact some replaced

end LineChange

namespace Buffer

variable {buffer : Buffer} {replacement : List Text} {first last : Nat}

/-- Lines that are set are told truthfully if any are left. -/
theorem setLines_truthful (nonempty : buffer.lines ≠ [])
    (plain : ∀ line ∈ replacement, '\n' ∉ line)
    (kept : ¬(first = 0 ∧ buffer.lines.length ≤ last ∧ replacement = [])) :
    (buffer.setLines first last replacement).1.Truthful buffer.lines
      (buffer.setLines first last replacement).2.lines := by
  rcases buffer.exists_parts_setLines plain first last with
    ⟨front, middle, back, split, lines, notice⟩
  have some : front ++ (replacement ++ back) ≠ [] := by
    intro none
    simp only [List.append_eq_nil_iff] at none
    rcases none with ⟨rfl, rfl, rfl⟩
    have counts := List.length_pos_iff.2 nonempty
    have start : min first buffer.lines.length = 0 := congrArg LineChange.first notice
    have stop : max (min first buffer.lines.length) (min last buffer.lines.length) =
        0 + middle.length := congrArg LineChange.lastOld notice
    have whole : buffer.lines.length = middle.length := by
      simpa using congrArg List.length split
    exact kept ⟨by omega, by omega, rfl⟩
  rw [notice, lines, keptLines, if_neg (by simpa using some), split]
  exact LineChange.truthful_of_parts front middle replacement back

/-- What an editor says of the deletion of all lines, and what becomes of the content. -/
theorem setLines_clear (nonempty : buffer.lines ≠ []) (whole : buffer.lines.length ≤ last) :
    (buffer.setLines 0 last []).1 =
        { first := 0
          lastOld := buffer.lines.length
          lastNew := 0
          oldBytes := some (Text.linesSize buffer.lines) } ∧
      (buffer.setLines 0 last []).2.lines = [[]] ∧
      ((buffer.setLines 0 last []).1.toEdit buffer.lines [[]]).applyTo buffer.content = [] := by
  have notice : (buffer.setLines 0 last []).1 =
      { first := 0
        lastOld := buffer.lines.length
        lastNew := 0
        oldBytes := some (Text.linesSize buffer.lines) } := by
    simp [setLines, Nat.min_eq_right whole, LineChange.linesBetween]
  refine ⟨notice, ?_, ?_⟩
  · simp [setLines, Nat.min_eq_right whole]
  · have counts : buffer.lines.length ≠ 0 := by
      simpa using nonempty
    have edit : LineChange.toEdit
        { first := 0
          lastOld := buffer.lines.length
          lastNew := 0
          oldBytes := some (Text.linesSize buffer.lines) } buffer.lines [[]] =
        ⟨0, Text.linesSize buffer.lines, []⟩ := by
      simp [LineChange.toEdit, LineChange.changesLineCount, LineChange.linesBetween,
        Text.lineStart, Text.linesSize, counts]
    rw [notice, edit]
    exact Edit.applyTo_of_byteSize_le_stop [] buffer.content rfl
      (Nat.le_of_eq (Text.byteSize_joinLines buffer.lines))

end Buffer

namespace Typing

variable {buffer : Buffer} {typing : Typing}

/-- What an editor says of typing is true, and stands for an edit that leads from the old content to
the new one, exactly if the typing does not clear the buffer. If it does, the replaced bytes are
counted truly, but the edit leaves nothing at all, and the buffer has an empty line. -/
theorem notice_truthful_iff (tidy : buffer.Tidy) (plain : typing.IsPlain) :
    let change := typing.notice buffer
    let typed := typing.perform buffer
    typed.changes = buffer.changes ++ [change] ∧
      (change.Truthful buffer.lines typed.lines ∧
          (change.toEdit buffer.lines typed.lines).Leads buffer.content typed.content ↔
        ¬typing.Clears buffer) ∧
      (typing.Clears buffer →
        change = ⟨0, buffer.lines.length, 0, some (Text.linesSize buffer.lines)⟩ ∧
          (change.toEdit buffer.lines typed.lines).applyTo buffer.content = [] ∧
          typed.content = ['\n']) := by
  rcases typing.exists_setLines tidy plain with
    ⟨first, last, replacement, lines, notice, performed, clears⟩
  simp only [notice, performed, clears]
  refine ⟨rfl, ⟨?_, ?_⟩, ?_⟩
  · rintro ⟨truthful, _⟩ ⟨rfl, whole, rfl⟩
    rcases Buffer.setLines_clear tidy.nonempty whole with ⟨change, left, _⟩
    rw [change] at truthful
    exact LineChange.not_accurate_of_none rfl rfl rfl (by simp [left]) truthful.accurate
  · intro kept
    have truthful := Buffer.setLines_truthful tidy.nonempty lines kept
    exact ⟨truthful, truthful.accurate.leads⟩
  · rintro ⟨rfl, whole, rfl⟩
    rcases Buffer.setLines_clear tidy.nonempty whole with ⟨change, left, applied⟩
    refine ⟨change, ?_, ?_⟩
    · rw [left]
      exact applied
    · rw [Buffer.content, left]
      rfl

/-- A line is split in two behind its second letter. -/
theorem split_truthful :
    let buffer := Buffer.ofText ['h', 'é', 'y', '\n', 'y', 'o', 'u']
    let split := Typing.insertText 0 3 ['\n']
    buffer.Tidy ∧ split.IsPlain ∧ ¬split.Clears buffer ∧
      (split.notice buffer).Truthful buffer.lines (split.perform buffer).lines ∧
      split.notice buffer = ⟨0, 1, 2, some 5⟩ ∧
      (split.perform buffer).lines = [['h', 'é'], ['y'], ['y', 'o', 'u']] := by
  intro buffer split
  have tidy : buffer.Tidy := ⟨by decide, by decide⟩
  have kept : ¬split.Clears buffer := id
  have plain : split.IsPlain := trivial
  have truthful := (notice_truthful_iff tidy plain).2.1.2 kept
  exact ⟨tidy, plain, kept, truthful.1, by decide, by decide⟩

/-- The only line of a buffer is deleted: the editor says that no line is there now, and the edit
for it would leave a document without the empty line that the buffer shows. -/
theorem cleared_not_truthful :
    let buffer := Buffer.ofText ['o', 'n', 'l', 'y']
    let delete := Typing.setLines 0 1 []
    buffer.Tidy ∧ delete.IsPlain ∧
      delete.notice buffer = ⟨0, 1, 0, some 5⟩ ∧
      (delete.perform buffer).lines = [[]] ∧
      ¬(delete.notice buffer).Truthful buffer.lines (delete.perform buffer).lines ∧
      ((delete.notice buffer).toEdit buffer.lines (delete.perform buffer).lines).applyTo
        buffer.content ≠ (delete.perform buffer).content := by
  intro buffer delete
  have left : (delete.perform buffer).lines ≠ [] := by decide
  refine ⟨⟨by decide, by decide⟩, nofun, by decide, by decide, ?_, by decide⟩
  intro truthful
  exact LineChange.not_accurate_of_none rfl rfl rfl left truthful.accurate

end Typing

end Cowrite
