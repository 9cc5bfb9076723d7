import Cowrite.Text.Basic

/-!
# Blank texts

The white space of Unicode, and the two things asked about it: whether a text is nothing else
(`isBlank`), and what is left between the white space at its two ends (`trimmed`). What stands
around a text without white space is trimmed away whole (`trimmed_between`).
-/

namespace Cowrite.Text

/-- The code points that have the Unicode property `White_Space`, as closed ranges in order. -/
def whiteSpaceRanges : List (Nat × Nat) :=
  [(0x9, 0xd), (0x20, 0x20), (0x85, 0x85), (0xa0, 0xa0), (0x1680, 0x1680), (0x2000, 0x200a),
   (0x2028, 0x2029), (0x202f, 0x202f), (0x205f, 0x205f), (0x3000, 0x3000)]

/-- Whether a character has the Unicode property `White_Space`. -/
def isWhiteSpace (c : Char) : Bool :=
  whiteSpaceRanges.any fun range => range.1 ≤ c.toNat && c.toNat ≤ range.2

/-- Whether the text is empty or has white space only. -/
def isBlank (text : Text) : Bool :=
  text.all isWhiteSpace

/-- The text without the white space at its start and at its end. -/
def trimmed (text : Text) : Text :=
  ((text.dropWhile isWhiteSpace).reverse.dropWhile isWhiteSpace).reverse

theorem dropWhile_of_forall {text : Text} (solid : ∀ c ∈ text, isWhiteSpace c = false) :
    text.dropWhile isWhiteSpace = text := by
  cases text with
  | nil => rfl
  | cons first rest =>
      have stops : isWhiteSpace first ≠ true := by simp [solid first List.mem_cons_self]
      exact List.dropWhile_cons_of_neg stops

/-- What is trimmed from around a text without white space is the white space. -/
theorem trimmed_between {before text after : Text} (blankBefore : isBlank before = true)
    (blankAfter : isBlank after = true) (solid : ∀ c ∈ text, isWhiteSpace c = false) :
    trimmed (before ++ text ++ after) = text := by
  have turned : ∀ c ∈ text.reverse, isWhiteSpace c = false := fun c present =>
    solid c (List.mem_reverse.1 present)
  have blankTurned : ∀ c ∈ after.reverse, isWhiteSpace c = true := fun c present =>
    List.all_eq_true.1 blankAfter c (List.mem_reverse.1 present)
  have start : (before ++ text ++ after).dropWhile isWhiteSpace =
      (text ++ after).dropWhile isWhiteSpace := by
    rw [List.append_assoc, List.dropWhile_append_of_pos (List.all_eq_true.1 blankBefore)]
  rw [trimmed, start]
  cases text with
  | nil =>
      have nothing : after.dropWhile isWhiteSpace = [] := by
        rw [← List.append_nil after, List.dropWhile_append_of_pos (List.all_eq_true.1 blankAfter)]
        rfl
      rw [List.nil_append, nothing]
      rfl
  | cons first rest =>
      have stops : isWhiteSpace first ≠ true := by simp [solid first List.mem_cons_self]
      rw [List.cons_append, List.dropWhile_cons_of_neg stops, ← List.cons_append,
        List.reverse_append, List.dropWhile_append_of_pos blankTurned, dropWhile_of_forall turned,
        List.reverse_reverse]

end Cowrite.Text
