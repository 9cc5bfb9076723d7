/-!
# Texts measured in bytes

A text is a list of Unicode scalars, and everything that points into it (the offsets of an edit,
the columns of a position, the lengths in a walk of deltas) counts the bytes of its UTF-8 form.
An offset is a *boundary* when it does not fall inside a character.

Instead of indexing bytes, the whole library cuts a text with two functions, `upTo` and `after`,
which split it at the last boundary that is not past an offset. All other notions come from them:
the boundary below an offset (`floor`), boundaries themselves (`isBoundary`), the piece between
two offsets (`between`) and the replacement of such a piece (`splice`). The main facts are that
the two parts of a cut always make up the text again (`upTo_append_after`) and that the size of
a text is additive (`byteSize_append`).
-/

namespace Cowrite

/-- A sequence of Unicode scalars. -/
abbrev Text := List Char

namespace Text

/-- Number of bytes of the UTF-8 form. -/
def byteSize : Text → Nat
  | [] => 0
  | c :: rest => c.utf8Size + byteSize rest

/-- The longest initial part of whole characters that has at most `offset` bytes. -/
def upTo : Text → Nat → Text
  | [], _ => []
  | c :: rest, offset =>
      if c.utf8Size ≤ offset then c :: upTo rest (offset - c.utf8Size) else []

/-- What `upTo` leaves behind. -/
def after : Text → Nat → Text
  | [], _ => []
  | c :: rest, offset =>
      if c.utf8Size ≤ offset then after rest (offset - c.utf8Size) else c :: rest

/-- The last boundary that is not past `offset`. -/
def floor (text : Text) (offset : Nat) : Nat :=
  byteSize (upTo text offset)

/-- Whether `offset` lies in the text and not inside one of its characters. -/
def isBoundary (text : Text) (offset : Nat) : Bool :=
  floor text offset == offset

/-- The characters between two boundaries. -/
def between (text : Text) (start stop : Nat) : Text :=
  upTo (after text start) (stop - start)

/-- The text with the bytes from `start` to `stop` replaced. -/
def splice (text : Text) (start stop : Nat) (replacement : Text) : Text :=
  upTo text start ++ replacement ++ after text stop

@[simp]
theorem byteSize_nil : byteSize [] = 0 := rfl

@[simp]
theorem byteSize_cons (c : Char) (rest : Text) :
    byteSize (c :: rest) = c.utf8Size + byteSize rest := rfl

@[simp]
theorem byteSize_append (left right : Text) :
    byteSize (left ++ right) = byteSize left + byteSize right := by
  induction left with
  | nil => simp
  | cons c rest ih => simp [ih, Nat.add_assoc]

theorem upTo_append_after (text : Text) (offset : Nat) :
    upTo text offset ++ after text offset = text := by
  induction text generalizing offset with
  | nil => rfl
  | cons c rest ih =>
      by_cases fits : c.utf8Size ≤ offset
      · simp [upTo, after, fits, ih]
      · simp [upTo, after, fits]

theorem floor_le (text : Text) (offset : Nat) : floor text offset ≤ offset := by
  induction text generalizing offset with
  | nil => simp [floor, upTo]
  | cons c rest ih =>
      by_cases fits : c.utf8Size ≤ offset
      · have := ih (offset - c.utf8Size)
        simp only [floor] at this
        simp only [floor, upTo, fits, if_true, byteSize_cons]
        omega
      · simp [floor, upTo, fits]

theorem floor_le_byteSize (text : Text) (offset : Nat) : floor text offset ≤ byteSize text := by
  have whole := congrArg byteSize (upTo_append_after text offset)
  rw [byteSize_append] at whole
  simp only [floor]
  omega

end Text

end Cowrite
