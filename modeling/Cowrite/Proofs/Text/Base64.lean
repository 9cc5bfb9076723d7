import Cowrite.Text.Blank
import Cowrite.Text.Spelling
import Mathlib.Tactic.Common

/-!
# Bytes through symbols

What is written in base 64 is read back as the same bytes (`decode_encode`). Symbols stand for
numbers one by one, so it is enough that the numbers make up the bytes (`exists_encode`). None of
the symbols is white space, so a written word has nothing at its ends that a reader would trim.
-/

namespace Cowrite.Base64

theorem value?_symbol : ∀ number < 64, value? (symbol number) = some number := by
  decide +kernel

/-- A symbol is never white space, also the one for no number at all. -/
theorem isWhiteSpace_symbol (number : Nat) : Text.isWhiteSpace (symbol number) = false := by
  have digits : ∀ digit < 64, Text.isWhiteSpace (symbol digit) = false := by decide +kernel
  by_cases small : number < 64
  · exact digits number small
  · have other : symbol number = 'A' := by
      rw [symbol, List.getD_eq_getElem?_getD, List.getElem?_eq_none (Nat.le_of_not_lt small)]
      rfl
    rw [other]
    rfl

theorem mapM_value?_symbol {numbers : List Nat} (small : ∀ number ∈ numbers, number < 64) :
    (numbers.map symbol).mapM value? = some numbers := by
  induction numbers with
  | nil => rfl
  | cons number rest ih =>
      have first := value?_symbol number (small number List.mem_cons_self)
      have others := ih fun other present => small other (List.mem_cons_of_mem _ present)
      simp [first, others]

/-- A byte is what a number leaves below the next power of 256. -/
theorem toUInt8_eq {number : Nat} (byte : UInt8) (same : number % 256 = byte.toNat) :
    number.toUInt8 = byte := by
  apply UInt8.toNat_inj.1
  rw [← same]
  rfl

/-- The symbols stand for numbers that make up the bytes. -/
theorem exists_encode (bytes : Bytes) :
    ∃ numbers, encode bytes = numbers.map symbol ∧ (∀ number ∈ numbers, number < 64) ∧
      decodeValues numbers = some bytes := by
  fun_induction encode bytes with
  | case1 => exact ⟨[], rfl, by simp, rfl⟩
  | case2 a bits =>
      have whole : a.toNat < 256 := a.toNat_lt
      have whichBits : bits = a.toNat * 16 := rfl
      refine ⟨[bits / 64, bits % 64], rfl, ?_, ?_⟩
      · simp only [List.forall_mem_cons, List.not_mem_nil, false_implies, implies_true, and_true]
        omega
      · simp only [decodeValues]
        rw [if_pos (by omega), toUInt8_eq a (by omega)]
  | case3 a b bits =>
      have whole : a.toNat < 256 ∧ b.toNat < 256 := ⟨a.toNat_lt, b.toNat_lt⟩
      have whichBits : bits = (a.toNat * 256 + b.toNat) * 4 := rfl
      refine ⟨[bits / 4096, bits / 64 % 64, bits % 64], rfl, ?_, ?_⟩
      · simp only [List.forall_mem_cons, List.not_mem_nil, false_implies, implies_true, and_true]
        omega
      · simp only [decodeValues]
        rw [if_pos (by omega), toUInt8_eq a (by omega),
          toUInt8_eq b (by omega)]
  | case4 a b c rest bits ih =>
      have whole : a.toNat < 256 ∧ b.toNat < 256 ∧ c.toNat < 256 :=
        ⟨a.toNat_lt, b.toNat_lt, c.toNat_lt⟩
      have whichBits : bits = (a.toNat * 256 + b.toNat) * 256 + c.toNat := rfl
      rcases ih with ⟨numbers, writes, small, reads⟩
      refine ⟨bits / 262144 :: bits / 4096 % 64 :: bits / 64 % 64 :: bits % 64 :: numbers,
        by rw [writes]; rfl, ?_, ?_⟩
      · simp only [List.forall_mem_cons]
        exact ⟨by omega, by omega, by omega, by omega, small⟩
      · simp only [decodeValues, reads, Option.map_some]
        rw [toUInt8_eq a (by omega), toUInt8_eq b (by omega),
          toUInt8_eq c (by omega)]

/-- What was written can be read. -/
theorem decode_encode (bytes : Bytes) : decode (encode bytes) = some bytes := by
  rcases exists_encode bytes with ⟨numbers, writes, small, reads⟩
  rw [decode, writes, mapM_value?_symbol small]
  exact reads

/-- A written word is made of letters, digits, hyphens and underscores. -/
theorem isAlphanum_of_mem_encode (bytes : Bytes) {c : Char} (present : c ∈ encode bytes) :
    c.isAlphanum = true ∨ c = '-' ∨ c = '_' := by
  have symbols : ∀ number < 64, (symbol number).isAlphanum = true ∨ symbol number = '-' ∨
      symbol number = '_' := by
    decide +kernel
  rcases exists_encode bytes with ⟨numbers, writes, small, _⟩
  rw [writes] at present
  rcases List.mem_map.1 present with ⟨number, among, rfl⟩
  exact symbols number (small number among)

/-- Nothing of a written word is white space. -/
theorem isWhiteSpace_of_mem_encode (bytes : Bytes) {c : Char} (present : c ∈ encode bytes) :
    Text.isWhiteSpace c = false := by
  rcases exists_encode bytes with ⟨numbers, writes, _, _⟩
  rw [writes] at present
  rcases List.mem_map.1 present with ⟨number, _, rfl⟩
  exact isWhiteSpace_symbol number

end Cowrite.Base64
