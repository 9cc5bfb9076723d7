import Cowrite.Text.Lines
import Mathlib.Tactic.Common

/-!
# Offsets and positions

The offsets of a text of lines and the places in its lines are two names for the same things: going
from an offset to its position and back gives the offset, and going from a place to its offset and
back gives the place, in reading order both ways (`Text.addressed_of_ne_nil`). What is past an end
is brought to that end first: offsets to the end of the last line, rows to the last row, and columns
to the end of their line.

All of this follows the lines from the first one on. What a position in the later lines means among
all lines is its meaning among the later ones, moved by the first line and its separator
(`Text.offsetOf_cons_succ`, `Text.locate_cons_of_lt`).
-/

namespace Cowrite

namespace Position

/-- Whether a position is a place in some lines: its row is one of them, and its column is not past
the end of that line. -/
def IsPlaceIn (position : Position) (lines : List Text) : Prop :=
  ∃ line, lines[position.row]? = some line ∧ position.col ≤ Text.byteSize line

/-- The position with a row past the last one brought to the last one, and then a column past the
end of the line brought to that end. -/
def clamped (position : Position) (lines : List Text) : Position :=
  let row := min position.row (lines.length - 1)
  ⟨row, min position.col (Text.byteSize (lines.getD row []))⟩

variable {line : Text} {rest lines : List Text} {row col : Nat}

@[simp]
theorem isPlaceIn_cons_zero :
    (⟨0, col⟩ : Position).IsPlaceIn (line :: rest) ↔ col ≤ Text.byteSize line := by
  simp [IsPlaceIn]

@[simp]
theorem isPlaceIn_cons_succ :
    (⟨row + 1, col⟩ : Position).IsPlaceIn (line :: rest) ↔
      (⟨row, col⟩ : Position).IsPlaceIn rest := by
  simp [IsPlaceIn]

theorem not_isPlaceIn_nil (position : Position) : ¬position.IsPlaceIn [] := by
  simp [IsPlaceIn]

theorem isPlaceIn_clamped (nonempty : lines ≠ []) (position : Position) :
    (position.clamped lines).IsPlaceIn lines := by
  have inside : min position.row (lines.length - 1) < lines.length := by
    have := List.length_pos_iff.2 nonempty
    omega
  refine ⟨lines[min position.row (lines.length - 1)], List.getElem?_eq_getElem inside, ?_⟩
  simp only [clamped, List.getD_eq_getElem?_getD, List.getElem?_eq_getElem inside]
  exact Nat.min_le_right _ _

/-- A place is where it is. -/
theorem IsPlaceIn.clamped_eq {position : Position} (place : position.IsPlaceIn lines) :
    position.clamped lines = position := by
  rcases place with ⟨line, found, fits⟩
  have inside := (List.getElem?_eq_some_iff.1 found).1
  have row : min position.row (lines.length - 1) = position.row := by omega
  have col : min position.col (Text.byteSize line) = position.col := Nat.min_eq_left fits
  simp only [clamped, row, List.getD_eq_getElem?_getD, found, Option.getD_some, col]

theorem order_succ_succ (left right leftCol rightCol : Nat) :
    (⟨left + 1, leftCol⟩ : Position).order ⟨right + 1, rightCol⟩ =
      (⟨left, leftCol⟩ : Position).order ⟨right, rightCol⟩ := by
  simp [order, Nat.compare_eq_ite_lt]

end Position

namespace Text

open Position

variable {line : Text} {rest lines : List Text} {offset row col : Nat}

/-! ## From the first line on -/

theorem lineStart_length (lines : List Text) : lineStart lines lines.length = linesSize lines := by
  rw [lineStart, List.take_length]

theorem offsetOf_cons_zero (line : Text) (rest : List Text) (col : Nat) :
    offsetOf (line :: rest) ⟨0, col⟩ = min col (byteSize line) := by
  simp [offsetOf, lineStart, linesSize]

theorem offsetOf_cons_succ (nonempty : rest ≠ []) (line : Text) (row col : Nat) :
    offsetOf (line :: rest) ⟨row + 1, col⟩ = byteSize line + 1 + offsetOf rest ⟨row, col⟩ := by
  have some := List.length_pos_iff.2 nonempty
  have last : min (row + 1) rest.length = min row (rest.length - 1) + 1 := by omega
  simp [offsetOf, nonempty, last, lineStart, linesSize, Nat.add_assoc]

theorem locate_cons_of_le (fits : offset ≤ byteSize line) (rest : List Text) :
    locate (line :: rest) offset = ⟨0, offset⟩ := by
  cases rest with
  | nil => rw [locate, Nat.min_eq_left fits]
  | cons next rest => rw [locate, if_pos (Nat.lt_succ_of_le fits)]

theorem locate_cons_of_lt (past : byteSize line < offset) (nonempty : rest ≠ []) :
    locate (line :: rest) offset =
      ⟨(locate rest (offset - (byteSize line + 1))).row + 1,
        (locate rest (offset - (byteSize line + 1))).col⟩ := by
  cases rest with
  | nil => exact absurd rfl nonempty
  | cons next rest => rw [locate, if_neg (by omega)]

/-! ## There and back -/

theorem isPlaceIn_locate (nonempty : lines ≠ []) (offset : Nat) :
    (locate lines offset).IsPlaceIn lines := by
  induction lines generalizing offset with
  | nil => exact absurd rfl nonempty
  | cons line rest ih =>
      by_cases fits : offset ≤ byteSize line
      · rw [locate_cons_of_le fits]
        exact isPlaceIn_cons_zero.2 fits
      · by_cases last : rest = []
        · subst last
          exact isPlaceIn_cons_zero.2 (Nat.min_le_right _ _)
        · rw [locate_cons_of_lt (Nat.lt_of_not_le fits) last]
          exact isPlaceIn_cons_succ.2 (ih last _)

/-- The position of an offset has that offset, unless the offset is past the end of the last
line. -/
theorem offsetOf_locate (nonempty : lines ≠ []) (offset : Nat) :
    offsetOf lines (locate lines offset) = min offset (linesSize lines - 1) := by
  induction lines generalizing offset with
  | nil => exact absurd rfl nonempty
  | cons line rest ih =>
      by_cases fits : offset ≤ byteSize line
      · rw [locate_cons_of_le fits, offsetOf_cons_zero, linesSize]
        omega
      · by_cases last : rest = []
        · subst last
          rw [locate, offsetOf_cons_zero]
          simp only [linesSize]
          omega
        · have later := ih last (offset - (byteSize line + 1))
          have some : 0 < linesSize rest := by
            cases rest with
            | nil => exact absurd rfl last
            | cons next rest =>
                rw [linesSize]
                omega
          rw [locate_cons_of_lt (Nat.lt_of_not_le fits) last, offsetOf_cons_succ last, later,
            linesSize]
          omega

/-- The offset of a place has that place as its position. -/
theorem locate_offsetOf {position : Position} (place : position.IsPlaceIn lines) :
    locate lines (offsetOf lines position) = position := by
  induction lines generalizing position with
  | nil => exact absurd place position.not_isPlaceIn_nil
  | cons line rest ih =>
      rcases position with ⟨row, col⟩
      cases row with
      | zero =>
          have fits := isPlaceIn_cons_zero.1 place
          rw [offsetOf_cons_zero, Nat.min_eq_left fits, locate_cons_of_le fits]
      | succ row =>
          have later := isPlaceIn_cons_succ.1 place
          have nonempty : rest ≠ [] := by
            rintro rfl
            exact not_isPlaceIn_nil _ later
          have past : byteSize line < byteSize line + 1 + offsetOf rest ⟨row, col⟩ := by omega
          rw [offsetOf_cons_succ nonempty, locate_cons_of_lt past nonempty, Nat.add_sub_cancel_left,
            ih later]

/-- Places are in reading order as their offsets are. -/
theorem compare_offsetOf {left right : Position} (leftPlace : left.IsPlaceIn lines)
    (rightPlace : right.IsPlaceIn lines) :
    compare (offsetOf lines left) (offsetOf lines right) = left.order right := by
  induction lines generalizing left right with
  | nil => exact absurd leftPlace left.not_isPlaceIn_nil
  | cons line rest ih =>
      rcases left with ⟨leftRow, leftCol⟩
      rcases right with ⟨rightRow, rightCol⟩
      have nonempty {row col : Nat} (later : (⟨row, col⟩ : Position).IsPlaceIn rest) :
          rest ≠ [] := by
        rintro rfl
        exact not_isPlaceIn_nil _ later
      cases leftRow with
      | zero =>
          have leftFits := isPlaceIn_cons_zero.1 leftPlace
          cases rightRow with
          | zero =>
              have rightFits := isPlaceIn_cons_zero.1 rightPlace
              rw [offsetOf_cons_zero, offsetOf_cons_zero, Nat.min_eq_left leftFits,
                Nat.min_eq_left rightFits]
              simp [order]
          | succ rightRow =>
              have later := isPlaceIn_cons_succ.1 rightPlace
              have before : leftCol < byteSize line + 1 + offsetOf rest ⟨rightRow, rightCol⟩ := by
                omega
              rw [offsetOf_cons_zero, offsetOf_cons_succ (nonempty later),
                Nat.min_eq_left leftFits, Nat.compare_eq_lt.2 before]
              simp [order, Nat.compare_eq_ite_lt]
      | succ leftRow =>
          have leftLater := isPlaceIn_cons_succ.1 leftPlace
          rw [offsetOf_cons_succ (nonempty leftLater)]
          cases rightRow with
          | zero =>
              have rightFits := isPlaceIn_cons_zero.1 rightPlace
              have behind : rightCol < byteSize line + 1 + offsetOf rest ⟨leftRow, leftCol⟩ := by
                omega
              rw [offsetOf_cons_zero, Nat.min_eq_left rightFits, Nat.compare_eq_gt.2 behind]
              simp [order, Nat.compare_eq_ite_lt]
          | succ rightRow =>
              have rightLater := isPlaceIn_cons_succ.1 rightPlace
              rw [offsetOf_cons_succ (nonempty rightLater), order_succ_succ,
                ← ih leftLater rightLater]
              simp [Nat.compare_eq_ite_lt]

theorem offsetOf_clamped (nonempty : lines ≠ []) (position : Position) :
    offsetOf lines (position.clamped lines) = offsetOf lines position := by
  have place := (isPlaceIn_clamped nonempty position).clamped_eq
  have some : lines.isEmpty = false := by simpa using nonempty
  have meaning (other : Position) : offsetOf lines other =
      lineStart lines (other.clamped lines).row + (other.clamped lines).col := by
    simp [offsetOf, some, clamped]
  rw [meaning, meaning, place]

/-! ## Lines that are addressed both ways -/

/-- Whether the offsets of a text of lines and the places in the lines stand for each other. -/
structure Addressed (lines : List Text) : Prop where
  /-- The position of an offset is a place. -/
  located : ∀ offset, (locate lines offset).IsPlaceIn lines
  /-- The way from an offset to its position and back, which an offset past the end leaves at the
  end of the last line. -/
  offset : ∀ offset,
    offsetOf lines (locate lines offset) = min offset (lineStart lines lines.length - 1)
  /-- The way from a place to its offset and back. -/
  place : ∀ position : Position, position.IsPlaceIn lines →
    locate lines (offsetOf lines position) = position
  /-- Offsets are in the order of their places. -/
  order : ∀ left right : Position, left.IsPlaceIn lines → right.IsPlaceIn lines →
    compare (offsetOf lines left) (offsetOf lines right) = left.order right
  /-- Any other position stands for the place that it is brought to. -/
  clamped : ∀ position : Position, (position.clamped lines).IsPlaceIn lines ∧
    offsetOf lines position = offsetOf lines (position.clamped lines)

/-- Offsets and places stand for each other as soon as there is a line. -/
theorem addressed_of_ne_nil (nonempty : lines ≠ []) : Addressed lines where
  located := isPlaceIn_locate nonempty
  offset offset := by rw [lineStart_length, offsetOf_locate nonempty]
  place _ := locate_offsetOf
  order _ _ := compare_offsetOf
  clamped position :=
    ⟨isPlaceIn_clamped nonempty position, (offsetOf_clamped nonempty position).symm⟩

/-- Lines with an empty one among them, and with characters of two and of four bytes. -/
theorem addressed_mixedLines :
    let lines := ["ab", "", "hé🌍"].map String.toList
    lines ≠ [] ∧ Addressed lines ∧ locate lines 3 = ⟨1, 0⟩ ∧ locate lines 100 = ⟨2, 7⟩ ∧
      offsetOf lines ⟨7, 9⟩ = 11 := by
  intro lines
  have nonempty : lines ≠ [] := by simp [lines]
  exact ⟨nonempty, addressed_of_ne_nil nonempty, by decide, by decide, by decide⟩

end Text

end Cowrite
