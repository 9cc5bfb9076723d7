import Cowrite.Wire.Field
import Mathlib.Algebra.Group.Nat.Defs
import Mathlib.Tactic.Common

/-!
# Reading what was written

Everything that is written can be read again, and the reader leaves alone what follows it. The one
exception is a number with more bits than its reader accepts (`decodeNumber_encodeNumber`), so a
text is read again if its length has at most 64 bits (`decodeText_encodeText`). What was read fits
in turn (`lt_of_decodeNumber`, `lt_of_decodeText`).
-/

namespace Cowrite.Wire

/-! ## Numbers -/

theorem toNat_toUInt8_of_lt {number : Nat} (small : number < 256) :
    number.toUInt8.toNat = number := by
  simp [Nat.toUInt8, Nat.mod_eq_of_lt small]

theorem pow_eq_mul_of_wide {bits : Nat} (wide : ¬bits ≤ 7) :
    2 ^ bits = 2 ^ (bits - 7) * 128 := by
  rw [← Nat.pow_add 2 (bits - 7) 7]
  congr 1
  omega

/-- A number is read again if it does not have more bits than it may. -/
theorem decodeNumber_encodeNumber (bits number : Nat) (rest : Bytes) :
    decodeNumber bits (encodeNumber number ++ rest) =
      if number < 2 ^ bits then .ok (number, rest) else .error .badNumber := by
  fun_induction encodeNumber number generalizing bits with
  | case1 number small =>
      have digit := toNat_toUInt8_of_lt (show number < 256 by omega)
      simp only [List.singleton_append, decodeNumber, digit, Nat.one_shiftLeft, small, if_true]
      split
      case isTrue => rfl
      case isFalse wide =>
        have room : 2 ^ 7 ≤ 2 ^ bits := Nat.pow_le_pow_right (by omega) (by omega)
        rw [if_pos (by omega)]
  | case2 number large ih =>
      have digit := toNat_toUInt8_of_lt (show number % 128 + 128 < 256 by omega)
      simp only [List.cons_append, decodeNumber, digit, Nat.one_shiftLeft]
      split
      case isTrue narrow =>
        have room : 2 ^ bits ≤ 2 ^ 7 := Nat.pow_le_pow_right (by omega) narrow
        rw [if_neg (by omega), if_neg (by omega)]
      case isFalse wide =>
        have split := pow_eq_mul_of_wide wide
        rw [if_neg (by omega), ih (bits - 7)]
        by_cases fits : number / 128 < 2 ^ (bits - 7)
        · rw [if_pos fits, if_pos (by omega)]
          simp only [Except.ok.injEq, Prod.mk.injEq, and_true]
          omega
        · rw [if_neg fits, if_neg (by omega)]

/-- A number that was read has no more bits than it may. -/
theorem lt_of_decodeNumber {bits number : Nat} {bytes rest : Bytes}
    (reads : decodeNumber bits bytes = .ok (number, rest)) : number < 2 ^ bits := by
  fun_induction decodeNumber bits bytes generalizing number rest
  case case1 | case3 | case6 => cases reads
  case case2 bits byte tail digit narrow small =>
    cases reads
    rwa [Nat.one_shiftLeft] at small
  case case4 bits byte tail digit wide small =>
    cases reads
    have room : 2 ^ 7 ≤ 2 ^ bits := Nat.pow_le_pow_right (by omega) (by omega)
    omega
  case case5 bits byte tail digit wide large high after found below =>
    cases reads
    have bound := below found
    have split := pow_eq_mul_of_wide wide
    have whole : digit < 256 := byte.toNat_lt
    omega

/-! ## Fields -/

/-- A reader that reads two parts one after the other has read both. -/
theorem bind_eq_ok {α β : Type} {first : Except DecodeError α} {second : α → Except DecodeError β}
    {result : β} (reads : first >>= second = .ok result) :
    ∃ part, first = .ok part ∧ second part = .ok result := by
  cases first with
  | error error => cases reads
  | ok part => exact ⟨part, rfl, reads⟩

theorem takeBytes_append (bytes rest : Bytes) :
    takeBytes bytes.length (bytes ++ rest) = .ok (bytes, rest) := by
  simp [takeBytes]

theorem length_of_takeBytes {count : Nat} {bytes part rest : Bytes}
    (taken : takeBytes count bytes = .ok (part, rest)) : part.length = count := by
  rw [takeBytes] at taken
  split at taken
  case isTrue enough =>
    cases taken
    exact List.length_take_of_le enough
  case isFalse => cases taken

theorem decodeBytes_encodeBytes (bytes rest : Bytes) :
    decodeBytes (encodeBytes bytes ++ rest) =
      if bytes.length < 2 ^ 64 then .ok (bytes, rest) else .error .badNumber := by
  rw [decodeBytes, encodeBytes, List.append_assoc, decodeNumber_encodeNumber]
  split
  · exact takeBytes_append bytes rest
  · rfl

theorem ofUtf8?_utf8 (text : String) : ofUtf8? (utf8 text) = some text := by
  have same : (⟨(utf8 text).toArray⟩ : ByteArray) = text.toByteArray := by
    rw [utf8, Array.toArray_toList]
    rfl
  rw [ofUtf8?, same]
  exact dif_pos text.isValidUTF8

theorem utf8_of_ofUtf8? {bytes : Bytes} {text : String} (spells : ofUtf8? bytes = some text) :
    utf8 text = bytes := by
  rw [ofUtf8?, String.fromUTF8?] at spells
  split at spells
  · cases spells
    exact List.toList_toArray
  · cases spells

/-- A text is read again if its length has at most 64 bits. -/
theorem decodeText_encodeText (text : String) (rest : Bytes) :
    decodeText (encodeText text ++ rest) =
      if (utf8 text).length < 2 ^ 64 then .ok (text, rest) else .error .badNumber := by
  rw [decodeText, encodeText, decodeBytes_encodeBytes]
  split
  · simp only [bind, Except.bind, ofUtf8?_utf8]
  · rfl

/-- Reading a text first either goes on with it or fails. -/
theorem decodeText_bind {α : Type} (text : String) (rest : Bytes)
    (next : String × Bytes → Except DecodeError α) :
    decodeText (encodeText text ++ rest) >>= next =
      if (utf8 text).length < 2 ^ 64 then next (text, rest) else .error .badNumber := by
  rw [decodeText_encodeText]
  split
  · rfl
  · rfl

theorem decodeVariant_bind {α : Type} {number : Nat} (small : number < 2 ^ 32) (rest : Bytes)
    (next : Nat × Bytes → Except DecodeError α) :
    decodeVariant (encodeVariant number ++ rest) >>= next = next (number, rest) := by
  rw [decodeVariant, encodeVariant, decodeNumber_encodeNumber, if_pos small]
  rfl

theorem decodeOption_encodeOption {α : Type} {encode : α → Bytes}
    {decode : Bytes → Except DecodeError (α × Bytes)}
    (reads : ∀ value rest, decode (encode value ++ rest) = .ok (value, rest)) (value : Option α)
    (rest : Bytes) :
    decodeOption decode (encodeOption encode value ++ rest) = .ok (value, rest) := by
  cases value with
  | none => rfl
  | some value =>
      simp only [encodeOption, List.cons_append, decodeOption, reads]
      rfl

/-- The length of a text that was read has at most 64 bits. -/
theorem lt_of_decodeText {bytes rest : Bytes} {text : String}
    (reads : decodeText bytes = .ok (text, rest)) : (utf8 text).length < 2 ^ 64 := by
  rw [decodeText] at reads
  rcases bind_eq_ok reads with ⟨⟨spelling, after⟩, spelled, found⟩
  rw [decodeBytes] at spelled
  rcases bind_eq_ok spelled with ⟨⟨length, tail⟩, counted, taken⟩
  have size : spelling.length = length := length_of_takeBytes taken
  rcases spells : ofUtf8? spelling with _ | read
  · simp [spells] at found
  · simp only [spells] at found
    cases found
    rw [utf8_of_ofUtf8? spells, size]
    exact lt_of_decodeNumber counted

end Cowrite.Wire
