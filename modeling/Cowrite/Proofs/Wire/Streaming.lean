import Cowrite.Proofs.Wire.Reading

/-!
# Bytes that are cut off

A reader goes through the bytes from the front and looks no further than what it reads. So what it
has come to does not depend on the bytes that follow, with one exception: that the input ends is
no longer true if there is more. Readers of this kind are streaming (`IsStreaming`), a sequence of
two streaming readers is streaming (`IsStreaming.bind`), and so all readers of fields are.

This is what makes a cut noticeable. A streaming reader that reads something back which was
written finds every front part of it too short (`IsStreaming.endOfInput_of_prefix`): any other
answer would have been its answer to the whole as well. For a whole family of messages both
directions together make up `IsSelfDelimiting`.
-/

namespace Cowrite.Wire

variable {α β : Type}

/-- What a reader has come to, if more bytes stand behind those that it left over. -/
def followedBy (more : Bytes) : Except DecodeError (α × Bytes) → Except DecodeError (α × Bytes)
  | .ok (value, rest) => .ok (value, rest ++ more)
  | .error error => .error error

/-- Whether more bytes never change what a reader has come to, unless it missed them. -/
def IsStreaming (read : Bytes → Except DecodeError (α × Bytes)) : Prop :=
  ∀ bytes more,
    read bytes = .error .endOfInput ∨ read (bytes ++ more) = followedBy more (read bytes)

theorem isStreaming_ok (value : α) : IsStreaming fun rest => .ok (value, rest) :=
  fun _ _ => .inr rfl

theorem isStreaming_error (error : DecodeError) :
    IsStreaming fun _ => (.error error : Except DecodeError (α × Bytes)) :=
  fun _ _ => .inr rfl

theorem IsStreaming.bind {first : Bytes → Except DecodeError (α × Bytes)}
    {next : α → Bytes → Except DecodeError (β × Bytes)} (starts : IsStreaming first)
    (goesOn : ∀ value, IsStreaming (next value)) :
    IsStreaming fun bytes => first bytes >>= fun part => next part.1 part.2 := by
  intro bytes more
  rcases starts bytes more with ended | same
  · left
    simp only [ended]
    rfl
  · simp only [same]
    cases first bytes with
    | error error => exact .inr rfl
    | ok part => exact goesOn part.1 part.2 more

/-! ## Numbers and fields -/

theorem isStreaming_decodeNumber (bits : Nat) : IsStreaming (decodeNumber bits) := by
  intro bytes more
  fun_induction decodeNumber bits bytes with
  | case1 => exact .inl rfl
  | case2 bits byte rest digit narrow small =>
      right
      simp only [List.cons_append, decodeNumber]
      rw [if_pos narrow, if_pos small]
      rfl
  | case3 bits byte rest digit narrow large =>
      right
      simp only [List.cons_append, decodeNumber]
      rw [if_pos narrow, if_neg large]
      rfl
  | case4 bits byte rest digit wide last =>
      right
      simp only [List.cons_append, decodeNumber]
      rw [if_neg wide, if_pos last]
      rfl
  | case5 bits byte rest digit wide goesOn high after found ih =>
      right
      rw [found] at ih
      rcases ih with ended | same
      · cases ended
      · simp only [List.cons_append, decodeNumber]
        rw [if_neg wide, if_neg goesOn, same]
        rfl
  | case6 bits byte rest digit wide goesOn error found ih =>
      rw [found] at ih
      rcases ih with ended | same
      · exact .inl ended
      · right
        simp only [List.cons_append, decodeNumber]
        rw [if_neg wide, if_neg goesOn, same]
        rfl

theorem isStreaming_takeBytes (count : Nat) : IsStreaming (takeBytes count) := by
  intro bytes more
  by_cases enough : count ≤ bytes.length
  · right
    have still : count ≤ (bytes ++ more).length := by
      rw [List.length_append]
      omega
    simp only [takeBytes, if_pos enough, if_pos still, followedBy,
      List.take_append_of_le_length enough, List.drop_append_of_le_length enough]
  · left
    rw [takeBytes, if_neg enough]

theorem isStreaming_decodeBytes : IsStreaming decodeBytes :=
  (isStreaming_decodeNumber 64).bind isStreaming_takeBytes

/-- Whether the bytes are a text is judged once they are all there, so no cut can disguise itself
as a bad text. -/
theorem isStreaming_decodeText : IsStreaming decodeText := by
  have judges (spelling : Bytes) : IsStreaming fun rest =>
      (ofUtf8? spelling).elim (.error .badText) fun text => .ok (text, rest) := by
    cases ofUtf8? spelling with
    | none => exact isStreaming_error .badText
    | some text => exact isStreaming_ok text
  have sequence : decodeText = fun bytes => decodeBytes bytes >>= fun part =>
      (ofUtf8? part.1).elim (.error .badText) fun text => .ok (text, part.2) := by
    funext bytes
    refine bind_congr fun ⟨spelling, rest⟩ => ?_
    cases found : ofUtf8? spelling <;> simp only [found, Option.elim]
  rw [sequence]
  exact isStreaming_decodeBytes.bind judges

/-! ## Messages -/

/-- A front part of something written that is read back is found too short. -/
theorem IsStreaming.endOfInput_of_prefix {read : Bytes → Except DecodeError (α × Bytes)}
    (streams : IsStreaming read) {front written : Bytes} {value : α} (begins : front <+: written)
    (cut : front ≠ written) (reads : read written = .ok (value, [])) :
    read front = .error .endOfInput := by
  rcases begins with ⟨missing, rfl⟩
  rcases streams front missing with ended | same
  · exact ended
  · rw [reads] at same
    cases found : read front with
    | error error =>
        rw [found] at same
        cases same
    | ok part =>
        rw [found, followedBy] at same
        have nothing : part.2 ++ missing = [] := (Prod.mk.inj (Except.ok.inj same)).2.symm
        rw [(List.append_eq_nil_iff.1 nothing).2, List.append_nil] at cut
        exact absurd rfl cut

/-- A front part of something written that is not read back is refused as well. -/
theorem IsStreaming.error_of_prefix {read : Bytes → Except DecodeError (α × Bytes)}
    (streams : IsStreaming read) {front written : Bytes} {error : DecodeError}
    (begins : front <+: written) (refuses : read written = .error error) :
    ∃ error, read front = .error error := by
  rcases begins with ⟨missing, rfl⟩
  rcases streams front missing with ended | same
  · exact ⟨_, ended⟩
  · rw [refuses] at same
    cases found : read front with
    | error error => exact ⟨error, rfl⟩
    | ok part =>
        rw [found] at same
        cases same

/-- Whether messages are read back as they were written, whatever follows them, and each one that
is cut off is noticed. The short messages are those whose lengths can be told. -/
structure IsSelfDelimiting {μ : Type} (encode : μ → Bytes)
    (decode : Bytes → Except DecodeError μ) (short : μ → Prop) [DecidablePred short] : Prop where
  decode_append : ∀ message rest,
    decode (encode message ++ rest) = if short message then .ok message else .error .badNumber
  error_of_prefix : ∀ message front, front <+: encode message → front ≠ encode message →
    ∃ error, decode front = .error error ∧ (short message → error = .endOfInput)

theorem IsSelfDelimiting.decode_encode {μ : Type} {encode : μ → Bytes}
    {decode : Bytes → Except DecodeError μ} {short : μ → Prop} [DecidablePred short]
    (delimits : IsSelfDelimiting encode decode short) (message : μ) :
    decode (encode message) = if short message then .ok message else .error .badNumber := by
  simpa using delimits.decode_append message []

/-- Messages are self-delimiting if they are read off the front of the bytes. -/
theorem IsSelfDelimiting.of_front {μ : Type} {encode : μ → Bytes}
    {decode : Bytes → Except DecodeError μ} {short : μ → Prop} [DecidablePred short]
    {front : Bytes → Except DecodeError (μ × Bytes)} (streams : IsStreaming front)
    (whole : ∀ bytes, decode bytes = Prod.fst <$> front bytes)
    (reads : ∀ message rest, front (encode message ++ rest) =
      if short message then .ok (message, rest) else .error .badNumber) :
    IsSelfDelimiting encode decode short where
  decode_append := by
    intro message rest
    rw [whole, reads]
    split
    · rfl
    · rfl
  error_of_prefix := by
    intro message part begins cut
    have all := reads message []
    rw [List.append_nil] at all
    by_cases fits : short message
    · rw [if_pos fits] at all
      have ended := streams.endOfInput_of_prefix begins cut all
      exact ⟨.endOfInput, by rw [whole, ended]; rfl, fun _ => rfl⟩
    · rw [if_neg fits] at all
      rcases streams.error_of_prefix begins all with ⟨error, refused⟩
      exact ⟨error, by rw [whole, refused]; rfl, fun short => absurd short fits⟩

end Cowrite.Wire
