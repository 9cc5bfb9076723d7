import Cowrite.Proofs.Buffer.Notices
import Cowrite.Proofs.Text.Rows

/-!
# Ranged writes

A buffer can have a range of its bytes replaced in place, or it can be given its whole content with
the range replaced. Both are carried out under the same condition (`Buffer.Placed`), leave the same
lines and count the same (`Buffer.replaceRange_refines`), so to write in place is only gentler. What
the editor says of such a write it finds from the rows in which the range starts and stops, and
from how many lines there are before and after. That is the truth because the rows before the range
and those after it stay whole (`Buffer.exists_rows_spliced`), whether or not a final separator had
to be put back.
-/

namespace Cowrite

namespace Buffer

variable {buffer : Buffer} {start stop : Nat} {text : Text}

/-- Whether a range stands between boundaries of the content once it is brought inside. -/
def Placed (buffer : Buffer) (start stop : Nat) : Prop :=
  Text.isBoundary buffer.content (min start (min stop (Text.byteSize buffer.content))) = true ∧
    Text.isBoundary buffer.content (min stop (Text.byteSize buffer.content)) = true

instance (buffer : Buffer) (start stop : Nat) : Decidable (buffer.Placed start stop) :=
  inferInstanceAs (Decidable (_ ∧ _))

/-- The content with a range replaced that is brought inside. -/
def spliced (buffer : Buffer) (start stop : Nat) (text : Text) : Text :=
  Text.splice buffer.content (min start (min stop (Text.byteSize buffer.content)))
    (min stop (Text.byteSize buffer.content)) text

/-- The notification of a ranged write, told from the rows in which the range starts and stops and
from the number of lines. -/
def rangeNotice (buffer : Buffer) (front middle : Text) (lines : List Text) : LineChange :=
  let first := min (separators front) (buffer.lines.length - 1)
  let lastOld := min (separators (front ++ middle) + 1) buffer.lines.length
  { first
    lastOld
    lastNew := max (lastOld + lines.length - buffer.lines.length) first
    oldBytes := some (Text.linesSize (LineChange.linesBetween buffer.lines first lastOld)) }

/-! ## When a write is carried out -/

theorem replaceRange_of_misplaced (accepts : buffer.refusal? = none)
    (misplaced : ¬buffer.Placed start stop) :
    buffer.replaceRange start stop text =
      (.error (.splitCharacter (min start (min stop (Text.byteSize buffer.content)))
        (min stop (Text.byteSize buffer.content))), buffer) := by
  rw [Placed, ← Bool.and_eq_true] at misplaced
  simp only [replaceRange, accepts, if_neg misplaced]

theorem writeRangeAsContent_of_misplaced (misplaced : ¬buffer.Placed start stop) :
    buffer.writeRangeAsContent start stop text =
      (.error (.splitCharacter (min start (min stop (Text.byteSize buffer.content)))
        (min stop (Text.byteSize buffer.content))), buffer) := by
  rw [Placed, ← Bool.and_eq_true] at misplaced
  simp only [writeRangeAsContent, if_neg misplaced]

/-- A ranged write replaces the middle one of three parts of the content. -/
theorem replaceRange_of_parts (accepts : buffer.refusal? = none) {front middle back : Text}
    (whole : buffer.content = front ++ (middle ++ back))
    (starts : Text.byteSize front = min start (min stop (Text.byteSize buffer.content)))
    (stops : Text.byteSize front + Text.byteSize middle =
      min stop (Text.byteSize buffer.content)) (text : Text) :
    buffer.replaceRange start stop text =
      (.ok (), buffer.carryOut (Text.splitLines (Text.terminated (front ++ (text ++ back))))
        (buffer.rangeNotice front middle
          (Text.splitLines (Text.terminated (front ++ (text ++ back)))))) := by
  have spliced : Text.splice buffer.content (min start (min stop (Text.byteSize buffer.content)))
      (min stop (Text.byteSize buffer.content)) text = front ++ (text ++ back) := by
    rw [← starts, ← stops, whole, Text.splice_append, List.append_assoc]
  have before : Text.upTo buffer.content
      (min start (min stop (Text.byteSize buffer.content))) = front := by
    rw [← starts, whole, Text.upTo_append]
  have within : Text.upTo buffer.content (min stop (Text.byteSize buffer.content)) =
      front ++ middle := by
    rw [← stops, whole, ← List.append_assoc, ← Text.byteSize_append, Text.upTo_append]
  have startBoundary : Text.isBoundary buffer.content
      (min start (min stop (Text.byteSize buffer.content))) = true := by
    rw [← starts, whole]
    exact Text.isBoundary_append _ _
  have stopBoundary : Text.isBoundary buffer.content
      (min stop (Text.byteSize buffer.content)) = true := by
    rw [← stops, whole, ← List.append_assoc, ← Text.byteSize_append]
    exact Text.isBoundary_append _ _
  simp only [replaceRange, accepts, startBoundary, stopBoundary, Bool.and_self, if_true, before,
    within, spliced]
  rfl

/-- The three parts of the content, of which a ranged write replaces the middle one. -/
theorem exists_replaceRange (accepts : buffer.refusal? = none) (placed : buffer.Placed start stop)
    (text : Text) :
    ∃ front middle back, buffer.content = front ++ (middle ++ back) ∧
      buffer.spliced start stop text = front ++ (text ++ back) ∧
      buffer.replaceRange start stop text =
        (.ok (), buffer.carryOut (Text.splitLines (Text.terminated (front ++ (text ++ back))))
          (buffer.rangeNotice front middle
            (Text.splitLines (Text.terminated (front ++ (text ++ back)))))) := by
  rcases Text.exists_parts placed.1 placed.2 (Nat.min_le_right _ _) with
    ⟨front, middle, back, whole, starts, stops⟩
  have spliced : buffer.spliced start stop text = front ++ (text ++ back) := by
    rw [Buffer.spliced, ← starts, ← stops, whole, Text.splice_append, List.append_assoc]
  exact ⟨front, middle, back, whole, spliced, replaceRange_of_parts accepts whole starts stops text⟩

theorem writeRangeAsContent_of_placed (accepts : buffer.refusal? = none)
    (placed : buffer.Placed start stop) (text : Text) :
    ∃ change, buffer.writeRangeAsContent start stop text =
      (.ok (), (buffer.noteRequest (.content (buffer.spliced start stop text))).carryOut
        (Text.splitLines (Text.terminated (buffer.spliced start stop text))) change) := by
  have still : (buffer.noteRequest (.content (buffer.spliced start stop text))).refusal? = none :=
    accepts
  simp only [writeRangeAsContent, placed.1, placed.2, Bool.and_self, if_true]
  change ∃ change, buffer.writeContent (buffer.spliced start stop text) = _
  rw [writeContent, replaceContent, still]
  exact ⟨_, rfl⟩

/-! ## What a write leaves of the rows -/

/-- The rows before a range and those after it stay whole. -/
theorem exists_rows_spliced (tidy : buffer.Tidy) {front middle back : Text}
    (whole : buffer.content = front ++ (middle ++ back)) (text : Text) :
    ∃ added, Text.splitLines (Text.terminated (front ++ (text ++ back))) =
      buffer.lines.take (min (separators front) (buffer.lines.length - 1)) ++
        (added ++ buffer.lines.drop (min (separators (front ++ middle) + 1)
          buffer.lines.length)) := by
  have further : buffer.content = (front ++ middle) ++ back := by
    rw [whole, List.append_assoc]
  rcases Text.exists_stub tidy.nonempty tidy.plain whole with ⟨stub, early⟩
  rcases Text.exists_tail tidy.plain further with ⟨tail, late, ends⟩
  have ended : buffer.lines.drop (min (separators (front ++ middle) + 1) buffer.lines.length) ≠ [] →
      ∃ start, stub ++ (text ++ tail) = start ++ ['\n'] := by
    intro some
    rcases ends some with ⟨start, rfl⟩
    exact ⟨stub ++ (text ++ start), by simp⟩
  rcases Text.exists_rows_terminated
    (buffer.lines.take (min (separators front) (buffer.lines.length - 1)))
    _ (stub ++ (text ++ tail)) ended with ⟨added, plain, nonempty, terminated⟩
  refine ⟨added, ?_⟩
  have content : front ++ (text ++ back) =
      Text.joinLines true
          (buffer.lines.take (min (separators front) (buffer.lines.length - 1))) ++
        (stub ++ (text ++ tail) ++ Text.joinLines true
          (buffer.lines.drop (min (separators (front ++ middle) + 1) buffer.lines.length))) := by
    conv => lhs; rw [early, late]
    simp
  rw [content, terminated]
  apply Text.splitLines_joinLines nonempty
  intro line present
  rcases List.mem_append.1 present with old | later
  · exact tidy.plain line (List.mem_of_mem_take old)
  · rcases List.mem_append.1 later with new | old
    · exact plain line new
    · exact tidy.plain line (List.mem_of_mem_drop old)

/-- What the editor says of a ranged write is true. -/
theorem rangeNotice_truthful (tidy : buffer.Tidy) {front middle back : Text}
    (whole : buffer.content = front ++ (middle ++ back)) (text : Text) :
    (buffer.rangeNotice front middle
        (Text.splitLines (Text.terminated (front ++ (text ++ back))))).Truthful buffer.lines
      (Text.splitLines (Text.terminated (front ++ (text ++ back)))) := by
  let first := min (separators front) (buffer.lines.length - 1)
  let last := min (separators (front ++ middle) + 1) buffer.lines.length
  have spliced : ∃ added, Text.splitLines (Text.terminated (front ++ (text ++ back))) =
      buffer.lines.take first ++ (added ++ buffer.lines.drop last) :=
    exists_rows_spliced tidy whole text
  rcases spliced with ⟨added, rows⟩
  have inside : last ≤ buffer.lines.length := Nat.min_le_right _ _
  have forward : first ≤ last := by
    have further := separators_append front middle
    omega
  have firstLength : (buffer.lines.take first).length = first :=
    List.length_take_of_le (Nat.le_trans forward inside)
  have lastLength := LineChange.length_linesBetween forward inside
  have count : (Text.splitLines (Text.terminated (front ++ (text ++ back)))).length =
      first + (added.length + (buffer.lines.length - last)) := by
    rw [rows, List.length_append, firstLength, List.length_append, List.length_drop]
  have lastNew : max (last + (Text.splitLines (Text.terminated (front ++ (text ++ back)))).length -
      buffer.lines.length) first = first + added.length := by
    rw [count]
    omega
  have told := LineChange.truthful_of_parts (buffer.lines.take first)
    (LineChange.linesBetween buffer.lines first last) added (buffer.lines.drop last)
  rw [firstLength, lastLength, Nat.add_sub_cancel' forward,
    LineChange.take_append_linesBetween _ forward] at told
  have notice : buffer.rangeNotice front middle
      (Text.splitLines (Text.terminated (front ++ (text ++ back)))) =
      { first
        lastOld := last
        lastNew := first + added.length
        oldBytes := some (Text.linesSize (LineChange.linesBetween buffer.lines first last)) } := by
    rw [← lastNew]
    rfl
  rw [notice, rows]
  exact told

/-! ## The two ways to write -/

/-- To replace a range in place does what it does to write the whole content with the range
replaced: both are carried out exactly if the range stands between boundaries, leave the same lines
and count the same, or they change nothing. What the editor says of the write in place is true. -/
theorem replaceRange_refines (tidy : buffer.Tidy) (accepts : buffer.refusal? = none)
    (start stop : Nat) (text : Text) :
    let ranged := buffer.replaceRange start stop text
    let anew := buffer.writeRangeAsContent start stop text
    ranged.1 = anew.1 ∧ (ranged.1 = .ok () ↔ buffer.Placed start stop) ∧
      ranged.2.lines = anew.2.lines ∧ ranged.2.content = anew.2.content ∧
      ranged.2.writes = anew.2.writes ∧ ranged.2.suspendedWrites = anew.2.suspendedWrites ∧
      (∀ error, ranged.1 = .error error → ranged.2 = buffer ∧ anew.2 = buffer) ∧
      (ranged.1 = .ok () →
        ranged.2.content = Text.terminated (buffer.spliced start stop text) ∧
          ranged.2.writes = buffer.writes + 1 ∧
          ∃ change, ranged.2.changes = buffer.changes ++ [change] ∧
            change.Truthful buffer.lines ranged.2.lines) := by
  intro ranged anew
  by_cases placed : buffer.Placed start stop
  · rcases exists_replaceRange accepts placed text with ⟨front, middle, back, whole, parts, wrote⟩
    rcases writeRangeAsContent_of_placed accepts placed text with ⟨_, wroteAnew⟩
    rw [parts] at wroteAnew ⊢
    rw [show ranged = _ from wrote, show anew = _ from wroteAnew]
    refine ⟨rfl, ?_, rfl, rfl, rfl, rfl, nofun, fun _ => ⟨?_, rfl, _, rfl, ?_⟩⟩
    · simp [placed]
    · exact Text.joinLines_splitLines _
    · exact rangeNotice_truthful tidy whole text
  · rw [show ranged = _ from replaceRange_of_misplaced accepts placed,
      show anew = _ from writeRangeAsContent_of_misplaced placed]
    refine ⟨rfl, ?_, rfl, rfl, rfl, rfl, fun _ _ => ⟨rfl, rfl⟩, nofun⟩
    simp [placed]

/-- The end of the last line is replaced by two lines, its separator included. -/
theorem lastLine_refines :
    let buffer := Buffer.ofText ['o', 'n', 'e', '\n', 'é']
    buffer.Tidy ∧ buffer.refusal? = none ∧ buffer.Placed 4 99 ∧
      (buffer.replaceRange 4 99 ['a', '\n', 'b']).1 = .ok () ∧
      (buffer.replaceRange 4 99 ['a', '\n', 'b']).2.lines =
        (buffer.writeRangeAsContent 4 99 ['a', '\n', 'b']).2.lines ∧
      (buffer.replaceRange 4 99 ['a', '\n', 'b']).2.lines =
        [['o', 'n', 'e'], ['a'], ['b']] ∧
      (buffer.replaceRange 4 99 ['a', '\n', 'b']).2.changes = [⟨1, 2, 3, some 3⟩] := by
  intro buffer
  have tidy : buffer.Tidy := ⟨by decide, by decide⟩
  have placed : buffer.Placed 4 99 := by decide
  rcases replaceRange_refines tidy rfl 4 99 ['a', '\n', 'b'] with ⟨_, done, lines, _⟩
  exact ⟨tidy, rfl, placed, done.2 placed, lines, by decide, by decide⟩

end Buffer

end Cowrite
