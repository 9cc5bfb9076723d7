import Cowrite.Buffer
import Cowrite.Proofs.Text.Splitting

/-!
# Rows and places of one text

A text that is not taken apart into lines has rows all the same: each starts after as many
separators as there are rows before it (`Text.rowStart?`). What is cut out between two rows, or
between any two places, is counted in characters then, and there may be no such row or place.

For the text of some lines the rows are where the lines are: a row starts after the text of the
lines before it (`Text.rowStart?_joinLines`), there are as many rows as lines
(`Text.rowCount_joinLines`), what is read at them are the lines (`Text.mapM_row?_joinLines`), and to
cut between two rows is to take the lines between out (`Text.exchange?_joinLines`).
-/

namespace Cowrite

namespace Text

/-! ## Rows of a text -/

/-- The number of characters before a row, which is the one after as many separators. -/
def rowStart? : Text → Nat → Option Nat
  | _, 0 => some 0
  | [], _ + 1 => none
  | c :: rest, row + 1 =>
      (rowStart? rest (if c = '\n' then row else row + 1)).map (· + 1)

/-- How many rows there are, not counting what comes after the last separator; at least one. -/
def rowCount (text : Text) : Nat :=
  max (Buffer.separators text) 1

/-- The characters of a row up to its separator. -/
def row? (text : Text) (row : Nat) : Option Text :=
  (rowStart? text row).map fun start => (text.drop start).takeWhile (· != '\n')

/-- The bytes from the start of one row to the start of another one that is not before it. -/
def rowsSize? (text : Text) (first last : Nat) : Option Nat := do
  let start ← rowStart? text first
  let stop ← rowStart? text last
  if start ≤ stop then some (byteSize (text.take stop) - byteSize (text.take start)) else none

/-- The text with the characters between two places replaced, if these are places in the text and
the second one is not before the first. -/
def exchange? (text : Text) (start stop : Nat) (replacement : Text) : Option Text :=
  if start ≤ stop ∧ stop ≤ text.length then
    some (text.take start ++ replacement ++ text.drop stop)
  else none

/-- The number of whole characters before an offset. -/
def placeOf (text : Text) (offset : Nat) : Nat :=
  (upTo text offset).length

variable {lines : List Text} {row first last : Nat}

/-! ## The text of some lines -/

theorem joinLines_eq_nil_iff : joinLines true lines = [] ↔ lines = [] := by
  cases lines with
  | nil => simp
  | cons line rest => simp

/-- Lines with separators in them make up the text of the pieces. -/
theorem joinLines_flatMap_pieces (lines : List Text) :
    joinLines true (lines.flatMap pieces) = joinLines true lines := by
  induction lines with
  | nil => rfl
  | cons line rest ih =>
      rw [List.flatMap_cons, joinLines_append, joinLines_pieces, ih, joinLines_cons,
        List.append_assoc, List.singleton_append]

theorem joinLines_take_append_drop (lines : List Text) (row : Nat) :
    joinLines true (lines.take row) ++ joinLines true (lines.drop row) = joinLines true lines := by
  rw [← joinLines_append, List.take_append_drop]

theorem joinLines_take_eq_append (lines : List Text) (forward : first ≤ last) :
    joinLines true (lines.take last) = joinLines true (lines.take first) ++
      joinLines true (LineChange.linesBetween lines first last) := by
  rw [← joinLines_append, LineChange.linesBetween, ← List.take_add, Nat.add_sub_cancel' forward]

theorem take_joinLines (lines : List Text) (row : Nat) :
    (joinLines true lines).take (joinLines true (lines.take row)).length =
      joinLines true (lines.take row) := by
  conv => lhs; arg 2; rw [← joinLines_take_append_drop lines row]
  exact List.take_left

theorem drop_joinLines (lines : List Text) (row : Nat) :
    (joinLines true lines).drop (joinLines true (lines.take row)).length =
      joinLines true (lines.drop row) := by
  conv => lhs; arg 2; rw [← joinLines_take_append_drop lines row]
  exact List.drop_left

theorem separators_joinLines (plain : ∀ line ∈ lines, '\n' ∉ line) :
    Buffer.separators (joinLines true lines) = lines.length := by
  rcases exists_row plain (List.append_nil _).symm with ⟨_, count⟩ | ⟨_, stub, tail, _, after⟩
  · exact count
  · simp at after

/-! ## Where rows start -/

@[simp]
theorem rowStart?_zero (text : Text) : rowStart? text 0 = some 0 := by
  cases text <;> rfl

theorem rowStart?_append_separator {line : Text} (plain : '\n' ∉ line) (rest : Text) (row : Nat) :
    rowStart? (line ++ '\n' :: rest) (row + 1) =
      (rowStart? rest row).map (· + (line.length + 1)) := by
  induction line with
  | nil => rfl
  | cons c line ih =>
      simp only [List.mem_cons, not_or] at plain
      have differ : c ≠ '\n' := fun same => plain.1 same.symm
      rw [List.cons_append, rowStart?, if_neg differ, ih plain.2, Option.map_map]
      rfl

/-- A row starts where the rows before it end. -/
theorem rowStart?_joinLines_append {front : List Text} (plain : ∀ line ∈ front, '\n' ∉ line)
    (rest : Text) :
    rowStart? (joinLines true front ++ rest) front.length = some (joinLines true front).length := by
  induction front with
  | nil => simp
  | cons line front ih =>
      have later : ∀ other ∈ front, '\n' ∉ other :=
        fun other present => plain other (List.mem_cons_of_mem _ present)
      rw [joinLines_cons, List.append_assoc, List.cons_append, List.length_cons,
        rowStart?_append_separator (plain line List.mem_cons_self), ih later, Option.map_some,
        List.length_append, List.length_cons]
      congr 1
      omega

theorem rowStart?_joinLines (plain : ∀ line ∈ lines, '\n' ∉ line) (inside : row ≤ lines.length) :
    rowStart? (joinLines true lines) row = some (joinLines true (lines.take row)).length := by
  have early : ∀ line ∈ lines.take row, '\n' ∉ line :=
    fun line present => plain line (List.mem_of_mem_take present)
  have found := rowStart?_joinLines_append early (joinLines true (lines.drop row))
  rwa [joinLines_take_append_drop, List.length_take_of_le inside] at found

/-! ## Reading rows -/

/-- The separators of a text of lines tell how many lines there are. -/
theorem rowCount_joinLines (nonempty : lines ≠ []) (plain : ∀ line ∈ lines, '\n' ∉ line) :
    rowCount (joinLines true lines) = lines.length := by
  have some := List.length_pos_iff.2 nonempty
  rw [rowCount, separators_joinLines plain]
  omega

theorem rowCount_terminated (text : Text) :
    rowCount (terminated text) = (splitLines (terminated text)).length := by
  have count := rowCount_joinLines (splitLines_ne_nil (terminated text))
    fun line => not_mem_of_mem_pieces
  rwa [joinLines_splitLines] at count

theorem row?_joinLines (plain : ∀ line ∈ lines, '\n' ∉ line) (inside : row < lines.length) :
    row? (joinLines true lines) row = lines[row]? := by
  have here : '\n' ∉ lines[row] := plain _ (List.getElem_mem inside)
  have kept : ∀ c ∈ lines[row], (c != '\n') = true := by
    intro c present
    rw [bne_iff_ne]
    rintro rfl
    exact here present
  rw [row?, rowStart?_joinLines plain (Nat.le_of_lt inside), Option.map_some, drop_joinLines,
    List.drop_eq_getElem_cons inside, joinLines_cons, List.takeWhile_append_of_pos kept,
    List.getElem?_eq_getElem inside]
  simp

/-- The first rows are the first lines. -/
theorem mapM_row?_joinLines (plain : ∀ line ∈ lines, '\n' ∉ line) {count : Nat}
    (inside : count ≤ lines.length) :
    (List.range count).mapM (row? (joinLines true lines)) = some (lines.take count) := by
  induction count with
  | zero => rfl
  | succ count ih =>
      have next := row?_joinLines plain inside
      rw [List.getElem?_eq_getElem inside] at next
      rw [List.range_succ, List.mapM_append, ih (Nat.le_of_succ_le inside), List.take_add_one,
        List.getElem?_eq_getElem inside]
      simp [next]

/-! ## Cutting between rows -/

/-- The bytes between the starts of two rows are those of the lines between. -/
theorem rowsSize?_joinLines (plain : ∀ line ∈ lines, '\n' ∉ line) (forward : first ≤ last)
    (inside : last ≤ lines.length) :
    rowsSize? (joinLines true lines) first last =
      some (linesSize (LineChange.linesBetween lines first last)) := by
  have between := joinLines_take_eq_append lines forward
  have le : (joinLines true (lines.take first)).length ≤
      (joinLines true (lines.take last)).length := by
    rw [between, List.length_append]
    exact Nat.le_add_right _ _
  rw [rowsSize?, rowStart?_joinLines plain (Nat.le_trans forward inside),
    rowStart?_joinLines plain inside]
  simp only [Option.bind_eq_bind, Option.bind_some, if_pos le, take_joinLines]
  rw [between, byteSize_append, Nat.add_sub_cancel_left, byteSize_joinLines]

theorem exchange?_append (front middle back replacement : Text) :
    exchange? (front ++ (middle ++ back)) front.length (front ++ middle).length replacement =
      some (front ++ replacement ++ back) := by
  have places : front.length ≤ (front ++ middle).length ∧
      (front ++ middle).length ≤ (front ++ (middle ++ back)).length := by
    simp
  rw [exchange?, if_pos places, List.take_left, ← List.append_assoc front middle, List.drop_left]

/-- Lines that are replaced are cut out at the characters at which their rows start. -/
theorem exchange?_joinLines (lines : List Text) (forward : first ≤ last) (replacement : Text) :
    exchange? (joinLines true lines) (joinLines true (lines.take first)).length
        (joinLines true (lines.take last)).length replacement =
      some (joinLines true (lines.take first) ++ replacement ++
        joinLines true (lines.drop last)) := by
  have cut := exchange?_append (joinLines true (lines.take first))
    (joinLines true (LineChange.linesBetween lines first last)) (joinLines true (lines.drop last))
    replacement
  rwa [← List.append_assoc, ← joinLines_take_eq_append lines forward,
    joinLines_take_append_drop] at cut

/-! ## Cutting at offsets -/

theorem take_placeOf (text : Text) (offset : Nat) :
    text.take (placeOf text offset) = upTo text offset := by
  conv => lhs; arg 2; rw [← upTo_append_after text offset]
  exact List.take_left

theorem placeOf_append (front back : Text) :
    placeOf (front ++ back) (byteSize front) = front.length := by
  rw [placeOf, upTo_append]

theorem byteSize_take_placeOf_iff {text : Text} {offset : Nat} :
    byteSize (text.take (placeOf text offset)) = offset ↔ isBoundary text offset = true := by
  rw [take_placeOf, isBoundary, beq_iff_eq]
  rfl

end Text

end Cowrite
