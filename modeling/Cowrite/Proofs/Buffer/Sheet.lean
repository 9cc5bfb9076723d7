import Cowrite.Proofs.Buffer.Ranges
import Cowrite.Proofs.Text.Places

/-!
# A buffer as one text

An editor need not keep lines. It can keep the content as one text and look for a row in it by
counting separators, as `Sheet` does. Such a buffer relies on its text at each step. A row that is
not there, a place past the end or an end before a start are nothing that it could go on with, so
what is done to a sheet may give nothing at all; and without the separator at the end it would take
the last line for no line.

For the content of a buffer that is made of lines none of this happens. Whatever is done to it gives
the sheet of what becomes of the lines, and the editor says the same of it (`Sheet.setLines?_sheet`,
`Sheet.replaceContent_sheet`, `Sheet.replaceRange?_sheet`), and the rows that are read off the text
are the lines (`Sheet.lines?_sheet`).
-/

namespace Cowrite

/-- A buffer that keeps its content as one text. -/
structure Sheet where
  /-- The content, with a separator at its end. -/
  text : Text
  changes : List LineChange := []
  valid : Bool := true
  suspensions : Nat := 0
  readOnly : Bool := false
  writes : Nat := 0
  suspendedWrites : Nat := 0
  deriving DecidableEq, Repr

/-- The sheet that says what a buffer says. -/
def Buffer.sheet (buffer : Buffer) : Sheet :=
  { text := buffer.content
    changes := buffer.changes
    valid := buffer.valid
    suspensions := buffer.suspensions
    readOnly := buffer.readOnly
    writes := buffer.writes
    suspendedWrites := buffer.suspendedWrites }

namespace Buffer

/-- The text of lines that are set: those before, the new ones and those after, or a separator if
nothing is left. -/
theorem joinLines_keptLines (front replacement back : List Text) :
    Text.joinLines true (keptLines (front ++ replacement.flatMap Text.pieces ++ back)) =
      if (Text.joinLines true front ++ Text.joinLines true replacement ++
          Text.joinLines true back).isEmpty then ['\n']
      else Text.joinLines true front ++ Text.joinLines true replacement ++
        Text.joinLines true back := by
  have joined : Text.joinLines true (front ++ replacement.flatMap Text.pieces ++ back) =
      Text.joinLines true front ++ Text.joinLines true replacement ++
        Text.joinLines true back := by
    rw [Text.joinLines_append, Text.joinLines_append, Text.joinLines_flatMap_pieces]
  rw [← joined, keptLines]
  simp only [List.isEmpty_iff, Text.joinLines_eq_nil_iff]
  split
  · rfl
  · rfl

end Buffer

namespace Sheet

/-! ## What is done to a sheet -/

/-- A sheet with the given content; a missing final separator is added. -/
def ofText (text : Text) : Sheet :=
  { text := Text.terminated text }

/-- One line, if the sheet has the row. -/
def line? (sheet : Sheet) (row : Nat) : Option (Option Text) :=
  if row < Text.rowCount sheet.text then (Text.row? sheet.text row).map some else some none

/-- All lines, row by row. -/
def lines? (sheet : Sheet) : Option (List Text) :=
  (List.range (Text.rowCount sheet.text)).mapM (Text.row? sheet.text)

/-- Cut the rows from `first` to `last` out and put others in. A sheet that would be left blank gets
a separator. -/
def setLines? (sheet : Sheet) (first last : Nat) (replacement : List Text) :
    Option (LineChange × Sheet) := do
  let count := Text.rowCount sheet.text
  let first := min first count
  let last := max first (min last count)
  let start ← Text.rowStart? sheet.text first
  let stop ← Text.rowStart? sheet.text last
  let bytes ← Text.rowsSize? sheet.text first last
  let text ← Text.exchange? sheet.text start stop (Text.joinLines true replacement)
  let change : LineChange :=
    { first
      lastOld := last
      lastNew := first + replacement.length
      oldBytes := some bytes }
  return (change,
    { sheet with
      text := if text.isEmpty then ['\n'] else text
      changes := sheet.changes ++ [change] })

/-- Insert a text at a byte column of a row, or at the end of everything. -/
def insertText? (sheet : Sheet) (row col : Nat) (text : Text) : Option (LineChange × Sheet) := do
  let line := (← sheet.line? row).getD []
  let col := Text.floor line col
  sheet.setLines? row (row + 1) (Text.pieces (Text.splice line col col text))

/-- Delete bytes of a row. -/
def deleteText? (sheet : Sheet) (row col count : Nat) : Option (LineChange × Sheet) := do
  let line := (← sheet.line? row).getD []
  let start := Text.floor line col
  let stop := Text.floor line (start + count)
  sheet.setLines? row (row + 1) [Text.splice line start stop []]

/-- Change the text without a notification. -/
def replaceSilently (sheet : Sheet) (text : Text) : Sheet :=
  { sheet with text := Text.terminated text }

/-- Why no write at all is accepted at the moment, if that is so. -/
def refusal? (sheet : Sheet) : Option WriteError :=
  if !sheet.valid then some .invalid
  else if sheet.readOnly then some .notModifiable
  else none

/-- Put a text in place of the other one, notify of the change and count the write. -/
def carryOut (sheet : Sheet) (text : Text) (change : LineChange) : Sheet :=
  { sheet with
    text
    changes := sheet.changes ++ [change]
    writes := sheet.writes + 1
    suspendedWrites :=
      if sheet.suspensions > 0 then sheet.suspendedWrites + 1 else sheet.suspendedWrites }

/-- Replace the whole text. -/
def replaceContent (sheet : Sheet) (text : Text) : Except WriteError Unit × Sheet :=
  match sheet.refusal? with
  | some error => (.error error, sheet)
  | none =>
      let change : LineChange :=
        { first := 0
          lastOld := Text.rowCount sheet.text
          lastNew := Text.rowCount (Text.terminated text)
          oldBytes := some (Text.byteSize sheet.text) }
      (.ok (), sheet.carryOut (Text.terminated text) change)

/-- Replace the characters between two places. The rows in which these are, and how many rows there
are before and after, tell what changed. -/
def exchange? (sheet : Sheet) (start stop : Nat) (text : Text) : Option Sheet := do
  let count := Text.rowCount sheet.text
  let first := min (Buffer.separators (sheet.text.take start)) (count - 1)
  let lastOld := min (Buffer.separators (sheet.text.take stop) + 1) count
  let bytes ← Text.rowsSize? sheet.text first lastOld
  let exchanged ← Text.exchange? sheet.text start stop text
  let whole := Text.terminated exchanged
  let change : LineChange :=
    { first
      lastOld
      lastNew := max (lastOld + Text.rowCount whole - count) first
      oldBytes := some bytes }
  return sheet.carryOut whole change

/-- Replace the bytes between two offsets, which have to be where characters start or end. -/
def replaceRange? (sheet : Sheet) (start stop : Nat) (text : Text) :
    Option (Except WriteError Unit × Sheet) :=
  match sheet.refusal? with
  | some error => some (.error error, sheet)
  | none =>
      let stop := min stop (Text.byteSize sheet.text)
      let start := min start stop
      let startPlace := Text.placeOf sheet.text start
      let stopPlace := Text.placeOf sheet.text stop
      if Text.byteSize (sheet.text.take startPlace) = start ∧
          Text.byteSize (sheet.text.take stopPlace) = stop then
        (sheet.exchange? startPlace stopPlace text).map (.ok (), ·)
      else some (.error (.splitCharacter start stop), sheet)

/-! ## The sheet of a buffer -/

variable {buffer : Buffer}

theorem sheet_ofText (text : Text) : (Buffer.ofText text).sheet = ofText text := by
  have content : (Buffer.ofText text).content = Text.terminated text :=
    Text.joinLines_splitLines text
  rw [Buffer.sheet, content]
  rfl

theorem refusal?_sheet (buffer : Buffer) : buffer.sheet.refusal? = buffer.refusal? := rfl

theorem rowCount_sheet (tidy : buffer.Tidy) :
    Text.rowCount buffer.sheet.text = buffer.lines.length :=
  Text.rowCount_joinLines tidy.nonempty tidy.plain

theorem sheet_carryOut (buffer : Buffer) (lines : List Text) (change : LineChange) :
    (buffer.carryOut lines change).sheet =
      buffer.sheet.carryOut (Text.joinLines true lines) change := by
  simp [Buffer.sheet, Buffer.carryOut, carryOut, Buffer.content, Buffer.isSuspended]

theorem line?_sheet (tidy : buffer.Tidy) (row : Nat) :
    buffer.sheet.line? row = some (buffer.line? row) := by
  rw [line?, rowCount_sheet tidy, Buffer.line?]
  split
  case isTrue inside =>
    have read : Text.row? buffer.sheet.text row = buffer.lines[row]? :=
      Text.row?_joinLines tidy.plain inside
    rw [read, List.getElem?_eq_getElem inside, Option.map_some]
  case isFalse outside => rw [List.getElem?_eq_none (Nat.le_of_not_lt outside)]

/-- The rows that are read off the text are the lines. -/
theorem lines?_sheet (tidy : buffer.Tidy) : buffer.sheet.lines? = some buffer.lines := by
  have read : (List.range buffer.lines.length).mapM (Text.row? buffer.sheet.text) =
      some (buffer.lines.take buffer.lines.length) :=
    Text.mapM_row?_joinLines tidy.plain (Nat.le_refl _)
  rw [lines?, rowCount_sheet tidy, read, List.take_length]

/-- Without a separator at the end the last line is lost. -/
example : ({ text := ['a', '\n', 'b'] } : Sheet).lines? = some [['a']] := by decide

theorem setLines?_sheet (tidy : buffer.Tidy) (first last : Nat) (replacement : List Text) :
    buffer.sheet.setLines? first last replacement =
      some ((buffer.setLines first last replacement).1,
        (buffer.setLines first last replacement).2.sheet) := by
  let start := min first buffer.lines.length
  let stop := max start (min last buffer.lines.length)
  have startInside : start ≤ buffer.lines.length := Nat.min_le_right _ _
  have forward : start ≤ stop := Nat.le_max_left _ _
  have inside : stop ≤ buffer.lines.length := Nat.max_le.2 ⟨startInside, Nat.min_le_right _ _⟩
  let before := Text.joinLines true (buffer.lines.take start)
  let behind := Text.joinLines true (buffer.lines.drop stop)
  have startRow : Text.rowStart? buffer.sheet.text (min first buffer.lines.length) =
      some before.length := Text.rowStart?_joinLines tidy.plain startInside
  have stopRow : Text.rowStart? buffer.sheet.text
      (max (min first buffer.lines.length) (min last buffer.lines.length)) =
      some (Text.joinLines true (buffer.lines.take stop)).length :=
    Text.rowStart?_joinLines tidy.plain inside
  have bytes : Text.rowsSize? buffer.sheet.text (min first buffer.lines.length)
      (max (min first buffer.lines.length) (min last buffer.lines.length)) =
      some (Text.linesSize (LineChange.linesBetween buffer.lines start stop)) :=
    Text.rowsSize?_joinLines tidy.plain forward inside
  have exchanged : Text.exchange? buffer.sheet.text before.length
      (Text.joinLines true (buffer.lines.take stop)).length (Text.joinLines true replacement) =
      some (before ++ Text.joinLines true replacement ++ behind) :=
    Text.exchange?_joinLines buffer.lines forward _
  have content : (buffer.setLines first last replacement).2.content =
      if (before ++ Text.joinLines true replacement ++ behind).isEmpty then ['\n']
      else before ++ Text.joinLines true replacement ++ behind :=
    Buffer.joinLines_keptLines _ replacement _
  rw [setLines?, rowCount_sheet tidy]
  simp only [startRow, stopRow, bytes, exchanged, Option.bind_eq_bind, Option.bind_some]
  rw [← content]
  rfl

theorem insertText?_sheet (tidy : buffer.Tidy) (row col : Nat) (text : Text) :
    buffer.sheet.insertText? row col text =
      some ((buffer.insertText row col text).1, (buffer.insertText row col text).2.sheet) := by
  rw [insertText?, line?_sheet tidy]
  exact setLines?_sheet tidy row (row + 1) _

theorem deleteText?_sheet (tidy : buffer.Tidy) (row col count : Nat) :
    buffer.sheet.deleteText? row col count =
      some ((buffer.deleteText row col count).1, (buffer.deleteText row col count).2.sheet) := by
  rw [deleteText?, line?_sheet tidy]
  exact setLines?_sheet tidy row (row + 1) _

theorem sheet_replaceSilently (buffer : Buffer) (text : Text) :
    (buffer.replaceSilently text).sheet = buffer.sheet.replaceSilently text := by
  have content : (buffer.replaceSilently text).content = Text.terminated text :=
    Text.joinLines_splitLines text
  rw [Buffer.sheet, content]
  rfl

theorem replaceContent_sheet (tidy : buffer.Tidy) (text : Text) :
    buffer.sheet.replaceContent text =
      ((buffer.replaceContent text).1, (buffer.replaceContent text).2.sheet) := by
  have bytes : Text.byteSize buffer.sheet.text = Text.linesSize buffer.lines :=
    Text.byteSize_joinLines buffer.lines
  rw [replaceContent, refusal?_sheet, Buffer.replaceContent]
  cases buffer.refusal? with
  | some error => rfl
  | none =>
      simp only [rowCount_sheet tidy, bytes, Text.rowCount_terminated]
      rw [sheet_carryOut, Text.joinLines_splitLines]

/-- Characters that are exchanged are the middle one of three parts of the content. -/
theorem exchange?_sheet (tidy : buffer.Tidy) {front middle back : Text}
    (whole : buffer.content = front ++ (middle ++ back)) (text : Text) :
    buffer.sheet.exchange? front.length (front ++ middle).length text =
      some (buffer.carryOut (Text.splitLines (Text.terminated (front ++ (text ++ back))))
        (buffer.rangeNotice front middle
          (Text.splitLines (Text.terminated (front ++ (text ++ back)))))).sheet := by
  have parts : buffer.sheet.text = front ++ (middle ++ back) := whole
  have before : buffer.sheet.text.take front.length = front := by
    rw [parts, List.take_left]
  have within : buffer.sheet.text.take (front ++ middle).length = front ++ middle := by
    rw [parts, ← List.append_assoc, List.take_left]
  have exchanged : Text.exchange? buffer.sheet.text front.length (front ++ middle).length text =
      some (front ++ (text ++ back)) := by
    rw [parts, Text.exchange?_append, List.append_assoc]
  have forward : min (Buffer.separators front) (buffer.lines.length - 1) ≤
      min (Buffer.separators (front ++ middle) + 1) buffer.lines.length := by
    rw [Buffer.separators_append]
    omega
  have bytes : Text.rowsSize? buffer.sheet.text
      (min (Buffer.separators front) (buffer.lines.length - 1))
      (min (Buffer.separators (front ++ middle) + 1) buffer.lines.length) =
      some (Text.linesSize (LineChange.linesBetween buffer.lines
        (min (Buffer.separators front) (buffer.lines.length - 1))
        (min (Buffer.separators (front ++ middle) + 1) buffer.lines.length))) :=
    Text.rowsSize?_joinLines tidy.plain forward (Nat.min_le_right _ _)
  rw [exchange?, before, within, rowCount_sheet tidy]
  simp only [bytes, exchanged, Option.bind_eq_bind, Option.bind_some, Text.rowCount_terminated]
  rw [sheet_carryOut, Text.joinLines_splitLines]
  rfl

theorem replaceRange?_sheet (tidy : buffer.Tidy) (start stop : Nat) (text : Text) :
    buffer.sheet.replaceRange? start stop text =
      some ((buffer.replaceRange start stop text).1,
        (buffer.replaceRange start stop text).2.sheet) := by
  cases accepts : buffer.refusal? with
  | some error => rw [replaceRange?, refusal?_sheet, accepts, Buffer.replaceRange, accepts]
  | none =>
      rw [replaceRange?, refusal?_sheet, accepts]
      simp only [Text.byteSize_take_placeOf_iff]
      by_cases placed : buffer.Placed start stop
      · rcases Text.exists_parts placed.1 placed.2 (Nat.min_le_right _ _) with
          ⟨front, middle, back, whole, starts, stops⟩
        have parts : buffer.sheet.text = front ++ (middle ++ back) := whole
        have startPlace : Text.placeOf buffer.sheet.text
            (min start (min stop (Text.byteSize buffer.content))) = front.length := by
          rw [← starts, parts, Text.placeOf_append]
        have stopPlace : Text.placeOf buffer.sheet.text
            (min stop (Text.byteSize buffer.content)) = (front ++ middle).length := by
          rw [← stops, parts, ← List.append_assoc, ← Text.byteSize_append, Text.placeOf_append]
        rw [Buffer.replaceRange_of_parts accepts whole starts stops]
        refine (if_pos placed).trans ?_
        change (buffer.sheet.exchange? (Text.placeOf buffer.sheet.text
            (min start (min stop (Text.byteSize buffer.content))))
          (Text.placeOf buffer.sheet.text (min stop (Text.byteSize buffer.content))) text).map _ = _
        rw [startPlace, stopPlace, exchange?_sheet tidy whole]
        rfl
      · rw [Buffer.replaceRange_of_misplaced accepts placed]
        exact if_neg placed

end Sheet

end Cowrite
