import Cowrite.Proofs.Text.Span
import Cowrite.Proofs.Wire.Reading

/-!
# Comparing texts byte by byte

The span in which two texts differ can be found without reading characters (`Scan.span?`): count the
bytes in which the texts agree from the start on, and step back from there to a boundary of both;
then count the bytes in which what follows agrees from the end on, and step back again. A count that
would go below zero is no count, so the scan says `none` where it would.

The bytes of a text spell no other text (`utf8_injective`), so two initial parts of whole characters
with the same bytes are the same. Therefore the first boundary that both texts share, at or below
the place where their bytes begin to differ, is the end of the longest initial part of whole
characters that they have in common, although the characters that come next may share bytes as well.
The same is true from the end on. So the scan arrives (`span?_utf8`), at the span between the two
longest common parts (`changedSpan_isTight`).
-/

namespace Cowrite

namespace Text

/-! ## Bytes of a text -/

/-- The bytes of the UTF-8 form. -/
def utf8 (text : Text) : Bytes :=
  Wire.utf8 (String.ofList text)

theorem utf8_eq_flatMap (text : Text) : utf8 text = text.flatMap String.utf8EncodeChar := by
  show (String.ofList text).toByteArray.data.toList = _
  rw [String.toByteArray_ofList, List.utf8Encode, List.toList_data_toByteArray]

@[simp]
theorem utf8_nil : utf8 [] = [] := by
  rw [utf8_eq_flatMap, List.flatMap_nil]

theorem utf8_cons (c : Char) (rest : Text) :
    utf8 (c :: rest) = String.utf8EncodeChar c ++ utf8 rest := by
  rw [utf8_eq_flatMap, utf8_eq_flatMap, List.flatMap_cons]

theorem utf8_append (front back : Text) : utf8 (front ++ back) = utf8 front ++ utf8 back := by
  rw [utf8_eq_flatMap, utf8_eq_flatMap, utf8_eq_flatMap, List.flatMap_append]

@[simp]
theorem length_utf8 (text : Text) : (utf8 text).length = byteSize text := by
  induction text with
  | nil => simp
  | cons c rest ih =>
      rw [utf8_cons, List.length_append, ih, String.length_utf8EncodeChar, byteSize_cons]

/-- The bytes of a text spell no other text. -/
theorem utf8_injective {left right : Text} (same : utf8 left = utf8 right) : left = right := by
  have read : some (String.ofList left) = some (String.ofList right) := by
    rw [← Wire.ofUtf8?_utf8, ← Wire.ofUtf8?_utf8]
    exact congrArg Wire.ofUtf8? same
  exact String.ofList_injective (Option.some.inj read)

theorem take_utf8 (front back : Text) : (utf8 (front ++ back)).take (byteSize front) =
    utf8 front := by
  rw [utf8_append, ← length_utf8, List.take_left]

/-- The last bytes of a text are those of a final part of the same size. -/
theorem take_reverse_utf8 (front back : Text) {count : Nat} (inside : count ≤ byteSize back) :
    (utf8 (front ++ back)).reverse.take count = (utf8 back).reverse.take count := by
  rw [utf8_append, List.reverse_append, List.take_append_of_le_length (by simpa using inside)]

/-! ## Common parts -/

/-- Where both texts have a boundary and the same bytes before it, they have it in common. -/
theorem le_byteSize_commonPrefix {left right : Text} {offset : Nat}
    (leftBoundary : isBoundary left offset = true) (rightBoundary : isBoundary right offset = true)
    (same : (utf8 left).take offset = (utf8 right).take offset) :
    offset ≤ byteSize (commonPrefix left right) := by
  rcases isBoundary_iff.1 leftBoundary with ⟨head, leftRest, rfl, rfl⟩
  rcases isBoundary_iff.1 rightBoundary with ⟨head', rightRest, rfl, size⟩
  rw [take_utf8, ← size, take_utf8] at same
  rw [← utf8_injective same, commonPrefix_append, byteSize_append]
  exact Nat.le_add_right _ _

/-- Where both texts have a boundary so many bytes before their ends, and the same bytes from there
on, they have these in common. -/
theorem le_byteSize_commonSuffix {left right : Text} {count : Nat}
    (inLeft : count ≤ byteSize left) (inRight : count ≤ byteSize right)
    (leftBoundary : isBoundary left (byteSize left - count) = true)
    (rightBoundary : isBoundary right (byteSize right - count) = true)
    (same : (utf8 left).reverse.take count = (utf8 right).reverse.take count) :
    count ≤ byteSize (commonSuffix left right) := by
  rcases isBoundary_iff.1 leftBoundary with ⟨front, tail, rfl, size⟩
  rcases isBoundary_iff.1 rightBoundary with ⟨front', tail', rfl, size'⟩
  rw [byteSize_append] at size size' inLeft inRight
  have tailSize : byteSize tail = count := by omega
  have tailSize' : byteSize tail' = count := by omega
  rw [take_reverse_utf8 _ _ (Nat.le_of_eq tailSize.symm),
    take_reverse_utf8 _ _ (Nat.le_of_eq tailSize'.symm),
    List.take_of_length_le (by simp [tailSize]),
    List.take_of_length_le (by simp [tailSize'])] at same
  rw [← utf8_injective (List.reverse_inj.1 same), commonSuffix_append, byteSize_append]
  omega

end Text

/-! ## The scan -/

namespace Scan

/-- Whether a character begins at an offset, or the bytes end there. -/
def isBoundary (bytes : Bytes) (offset : Nat) : Bool :=
  match bytes[offset]? with
  | some byte => decide byte.IsUTF8FirstByte
  | none => offset == bytes.length

/-- The number of bytes before the first place where two sequences differ or one ends. -/
def agreement (left right : Bytes) : Nat :=
  ((left.zip right).takeWhile fun pair => pair.1 == pair.2).length

/-- The difference of two numbers, unless it is below zero. -/
def minus? (number less : Nat) : Option Nat :=
  if less ≤ number then some (number - less) else none

/-- The first number that fits, going down from a given one. -/
def stepBack (fits : Nat → Option Bool) : Nat → Option Nat
  | 0 => do
      if ← fits 0 then some 0 else none
  | count + 1 => do
      if ← fits (count + 1) then some (count + 1) else stepBack fits count

/-- Whether both sequences have a boundary at an offset. -/
def fitsAt (old new : Bytes) (offset : Nat) : Option Bool :=
  some (isBoundary old offset && isBoundary new offset)

/-- Whether both sequences have a boundary so many bytes before their ends. -/
def fitsBefore (old new : Bytes) (count : Nat) : Option Bool := do
  return isBoundary old (← minus? old.length count) && isBoundary new (← minus? new.length count)

/-- The span in which two texts differ, as it is found in their bytes. -/
def span? (old new : Bytes) : Option Text.Span := do
  let start ← stepBack (fitsAt old new) (agreement old new)
  let room := min (← minus? old.length start) (← minus? new.length start)
  let count ← stepBack (fitsBefore old new)
    (agreement (old.reverse.take room) (new.reverse.take room))
  return {
    start
    oldEnd := ← minus? old.length count
    newEnd := ← minus? new.length count }

theorem isBoundary_utf8 (text : Text) (offset : Nat) :
    isBoundary (Text.utf8 text) offset = Text.isBoundary text offset := by
  induction text generalizing offset with
  | nil =>
      simp [isBoundary, Text.isBoundary, Text.floor, eq_comm]
  | cons c rest ih =>
      rw [Text.utf8_cons]
      by_cases inside : offset < c.utf8Size
      · have within : offset < (String.utf8EncodeChar c).length := by simpa using inside
        have below : Text.floor (c :: rest) offset = 0 := by
          simp [Text.floor, Text.upTo, Nat.not_le.2 inside]
        rw [isBoundary, List.getElem?_append_left within, List.getElem?_eq_getElem within,
          Text.isBoundary, below, Bool.eq_iff_iff]
        simp only [decide_eq_true_eq, UInt8.isUTF8FirstByte_getElem_utf8EncodeChar, beq_iff_eq]
        exact eq_comm
      · obtain ⟨later, rfl⟩ := Nat.exists_eq_add_of_le (Nat.le_of_not_lt inside)
        have floor := Text.floor_append_add [c] rest later
        simp only [List.singleton_append, Text.byteSize_cons, Text.byteSize_nil,
          Nat.add_zero] at floor
        have skip : (String.utf8EncodeChar c ++ Text.utf8 rest)[c.utf8Size + later]? =
            (Text.utf8 rest)[later]? := by
          rw [List.getElem?_append_right (by simp)]
          simp
        have here := ih later
        rw [Bool.eq_iff_iff] at here ⊢
        simp only [isBoundary, Text.isBoundary, skip, floor] at here ⊢
        cases found : (Text.utf8 rest)[later]? with
        | some byte => simpa [found] using here
        | none => simpa [found] using here

theorem agreement_le (left right : Bytes) :
    agreement left right ≤ left.length ∧ agreement left right ≤ right.length := by
  have taken := (List.takeWhile_prefix (fun pair : UInt8 × UInt8 => pair.1 == pair.2)
    (l := left.zip right)).length_le
  rw [List.length_zip] at taken
  exact Nat.le_min.1 taken

theorem le_agreement_iff {left right : Bytes} {count : Nat} (inLeft : count ≤ left.length)
    (inRight : count ≤ right.length) :
    count ≤ agreement left right ↔ left.take count = right.take count := by
  induction count generalizing left right with
  | zero => simp
  | succ count ih =>
      rcases left with _ | ⟨a, left⟩
      · simp at inLeft
      · rcases right with _ | ⟨b, right⟩
        · simp at inRight
        · have rest := @ih left right (by simpa using inLeft) (by simpa using inRight)
          by_cases same : a = b
          · simp [agreement, same] at rest ⊢
            exact rest
          · simp [agreement, same]

theorem minus?_eq {number less rest : Nat} (sum : number = rest + less) :
    minus? number less = some rest := by
  rw [minus?, if_pos (by omega), Option.some_inj]
  omega

theorem stepBack_eq {fits : Nat → Option Bool} {count target : Nat} (reached : target ≤ count)
    (stops : fits target = some true)
    (passes : ∀ number, target < number → number ≤ count → fits number = some false) :
    stepBack fits count = some target := by
  induction count with
  | zero =>
      obtain rfl := Nat.le_zero.1 reached
      simp [stepBack, stops]
  | succ count ih =>
      rcases Nat.eq_or_lt_of_le reached with rfl | above
      · simp [stepBack, stops]
      · have skipped := passes (count + 1) above (Nat.le_refl _)
        have rest := ih (Nat.le_of_lt_succ above)
          fun number later below => passes number later (Nat.le_succ_of_le below)
        simpa [stepBack, skipped] using rest

section

variable {left right : Text}

/-- Going back from where the bytes begin to differ, the scan stops behind the common head. -/
theorem stepBack_fitsAt (head : Text) (apart : Text.commonPrefix left right = []) :
    stepBack (fitsAt (Text.utf8 (head ++ left)) (Text.utf8 (head ++ right)))
        (agreement (Text.utf8 (head ++ left)) (Text.utf8 (head ++ right))) =
      some (Text.byteSize head) := by
  have lengths := agreement_le (Text.utf8 (head ++ left)) (Text.utf8 (head ++ right))
  apply stepBack_eq
  · rw [le_agreement_iff (by simp) (by simp), Text.take_utf8, Text.take_utf8]
  · simp [fitsAt, isBoundary_utf8, Text.isBoundary_append]
  · intro offset above below
    have inLeft := Nat.le_trans below lengths.1
    have same := (le_agreement_iff inLeft (Nat.le_trans below lengths.2)).1 below
    rw [fitsAt, isBoundary_utf8, isBoundary_utf8, Option.some_inj, Bool.and_eq_false_imp]
    intro leftBoundary
    by_contra rightBoundary
    rw [Bool.not_eq_false] at rightBoundary
    have common := Text.le_byteSize_commonPrefix leftBoundary rightBoundary same
    rw [Text.commonPrefix_append, apart, List.append_nil] at common
    omega

theorem fitsBefore_eq (head left right : Text) {count : Nat} (inLeft : count ≤ Text.byteSize left)
    (inRight : count ≤ Text.byteSize right) :
    fitsBefore (Text.utf8 (head ++ left)) (Text.utf8 (head ++ right)) count =
      some (Text.isBoundary left (Text.byteSize left - count) &&
        Text.isBoundary right (Text.byteSize right - count)) := by
  have place : ∀ text, count ≤ Text.byteSize text →
      minus? (Text.utf8 (head ++ text)).length count =
        some (Text.byteSize head + (Text.byteSize text - count)) := by
    intro text inside
    apply minus?_eq
    rw [Text.length_utf8, Text.byteSize_append]
    omega
  simp only [fitsBefore, place left inLeft, place right inRight, isBoundary_utf8,
    Text.isBoundary_append_add, Option.bind_eq_bind, Option.bind_some]
  rfl

/-- Going back from where the bytes begin to differ at the end, the scan stops before the common
tail. -/
theorem stepBack_fitsBefore (head tail : Text) (apart : Text.commonSuffix left right = []) :
    let old := Text.utf8 (head ++ (left ++ tail))
    let new := Text.utf8 (head ++ (right ++ tail))
    let room := min (Text.byteSize (left ++ tail)) (Text.byteSize (right ++ tail))
    stepBack (fitsBefore old new)
        (agreement (old.reverse.take room) (new.reverse.take room)) =
      some (Text.byteSize tail) := by
  intro old new room
  have inOld : room ≤ old.length := by
    simp only [room, old, Text.length_utf8, Text.byteSize_append]
    omega
  have inNew : room ≤ new.length := by
    simp only [room, new, Text.length_utf8, Text.byteSize_append]
    omega
  have lengths := agreement_le (old.reverse.take room) (new.reverse.take room)
  have agrees : ∀ count ≤ room,
      count ≤ agreement (old.reverse.take room) (new.reverse.take room) ↔
        old.reverse.take count = new.reverse.take count := by
    intro count inside
    rw [le_agreement_iff (by simp; omega) (by simp; omega), List.take_take, List.take_take,
      Nat.min_eq_left inside]
  have tailInside : Text.byteSize tail ≤ room := by
    simp only [room, Text.byteSize_append]
    omega
  apply stepBack_eq
  · rw [agrees _ tailInside]
    simp only [old, new]
    rw [← List.append_assoc, ← List.append_assoc, Text.take_reverse_utf8 _ _ (Nat.le_refl _),
      Text.take_reverse_utf8 _ _ (Nat.le_refl _)]
  · rw [fitsBefore_eq _ _ _ (by simp) (by simp)]
    simp [Text.isBoundary_append]
  · intro count above below
    have inside : count ≤ room := by
      have := Nat.le_trans below lengths.1
      simp at this
      omega
    have inLeft : count ≤ Text.byteSize (left ++ tail) := Nat.le_trans inside (Nat.min_le_left _ _)
    have inRight : count ≤ Text.byteSize (right ++ tail) :=
      Nat.le_trans inside (Nat.min_le_right _ _)
    have same := (agrees count inside).1 below
    simp only [old, new] at same
    rw [Text.take_reverse_utf8 _ _ inLeft, Text.take_reverse_utf8 _ _ inRight] at same
    rw [fitsBefore_eq _ _ _ inLeft inRight, Option.some_inj, Bool.and_eq_false_imp]
    intro leftBoundary
    by_contra rightBoundary
    rw [Bool.not_eq_false] at rightBoundary
    have common := Text.le_byteSize_commonSuffix inLeft inRight leftBoundary rightBoundary same
    rw [Text.commonSuffix_append, apart, List.nil_append] at common
    omega

end

/-- In the bytes of two texts the scan finds the span in which the texts differ. -/
theorem span?_utf8 (old new : Text) :
    span? (Text.utf8 old) (Text.utf8 new) = some (Text.changedSpan old new) := by
  rcases Text.exists_changedSpan old new with
    ⟨head, left, right, tail, rfl, rfl, apart, apart', span⟩
  have behind : ∀ text, minus? (Text.utf8 (head ++ text)).length (Text.byteSize head) =
      some (Text.byteSize text) := by
    intro text
    apply minus?_eq
    rw [Text.length_utf8, Text.byteSize_append, Nat.add_comm]
  have before : ∀ middle, minus? (Text.utf8 (head ++ (middle ++ tail))).length
      (Text.byteSize tail) = some (Text.byteSize head + Text.byteSize middle) := by
    intro middle
    apply minus?_eq
    rw [Text.length_utf8, Text.byteSize_append, Text.byteSize_append, Nat.add_assoc]
  have second := stepBack_fitsBefore head tail apart'
  simp only [span?, stepBack_fitsAt head apart, Option.bind_eq_bind, Option.bind_some, behind,
    second, before, span]
  rfl

end Scan

namespace Text

/-- The scan of the bytes of two texts arrives, at the smallest span whose replacement leads from
the one to the other: it stands on boundaries of both, before it is the longest initial part of
whole characters that they have in common, behind it the longest final part of what follows, and it
is empty for equal texts only. -/
theorem changedSpan_isTight (old new : Text) :
    let span := changedSpan old new
    Scan.span? (utf8 old) (utf8 new) = some span ∧
      (span.start ≤ span.oldEnd ∧ span.oldEnd ≤ byteSize old) ∧
      (span.start ≤ span.newEnd ∧ span.newEnd ≤ byteSize new) ∧
      (isBoundary old span.start = true ∧ isBoundary old span.oldEnd = true) ∧
      (isBoundary new span.start = true ∧ isBoundary new span.newEnd = true) ∧
      upTo old span.start = upTo new span.start ∧
      after old span.oldEnd = after new span.newEnd ∧
      splice old span.start span.oldEnd (between new span.start span.newEnd) = new ∧
      (∀ head, head <+: upTo old span.start ↔ head <+: old ∧ head <+: new) ∧
      (∀ tail, tail <:+ after old span.oldEnd ↔
        tail <:+ after old span.start ∧ tail <:+ after new span.start) ∧
      (span.isEmpty = true ↔ old = new) := by
  intro span
  have scanned : Scan.span? (utf8 old) (utf8 new) = some span := Scan.span?_utf8 old new
  have empty : span.isEmpty = true ↔ old = new := isEmpty_changedSpan_iff
  rcases exists_changedSpan old new with
    ⟨front, left, right, back, rfl, rfl, headApart, tailApart, ends⟩
  have longestHead : commonPrefix (front ++ (left ++ back)) (front ++ (right ++ back)) = front := by
    rw [commonPrefix_append, headApart, List.append_nil]
  have longestTail : commonSuffix (left ++ back) (right ++ back) = back := by
    rw [commonSuffix_append, tailApart, List.nil_append]
  refine ⟨scanned, ?_, ?_, ?_, ?_, ?_, ?_, ?_, ?_, ?_, empty⟩
  · simp [span, ends]
  · simp [span, ends]
  · simp [span, ends, isBoundary_append, isBoundary_append_add]
  · simp [span, ends, isBoundary_append, isBoundary_append_add]
  · simp [span, ends]
  · simp [span, ends, after_append_add]
  · simp [span, ends, splice_append, between_append]
  · intro head
    rw [← isPrefix_commonPrefix_iff, longestHead]
    simp [span, ends]
  · intro tail
    simp only [span, ends, after_append, after_append_add]
    rw [← isSuffix_commonSuffix_iff, longestTail]

end Text

end Cowrite
