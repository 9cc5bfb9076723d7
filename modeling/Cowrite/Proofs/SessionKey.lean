import Cowrite.SessionKey
import Mathlib.Tactic.Common

/-!
# Sealed texts

The stream that a key and a nonce determine is added to a text byte by byte, so adding it twice
gives the text back, and the tag depends on the nonce and the ciphertext alone. Hence what was
sealed opens (`SessionKey.openText_sealText`), and nothing opens but what was sealed
(`SessionKey.openText_eq_ok_iff`): the nonce is the one that the sealed text starts with
(`SessionKey.openText_eq_ok_iff_take`). Of what does not open, only what has no room for a nonce
and a tag is told apart from the rest.
-/

namespace Cowrite

namespace Gcm

theorem length_addStream (text stream : Bytes) : (addStream text stream).length = text.length := by
  fun_induction addStream text stream with
  | case1 => rfl
  | case2 => rfl
  | case3 byte text mask stream ih => simp [ih]

theorem addStream_addStream (text stream : Bytes) :
    addStream (addStream text stream) stream = text := by
  fun_induction addStream text stream with
  | case1 => rfl
  | case2 text nonempty => cases text <;> rfl
  | case3 byte text mask stream ih =>
      rw [addStream, ih, UInt8.xor_assoc, UInt8.xor_self, UInt8.xor_zero]

theorem length_applyStream (keys : List Bytes) (nonce text : Bytes) :
    (applyStream keys nonce text).length = text.length :=
  length_addStream text _

/-- Encrypting and decrypting are the same operation. -/
theorem applyStream_applyStream (keys : List Bytes) (nonce text : Bytes) :
    applyStream keys nonce (applyStream keys nonce text) = text := by
  simp only [applyStream, length_addStream]
  exact addStream_addStream text _

theorem length_tag (keys : List Bytes) (nonce ciphertext : Bytes) :
    (tag keys nonce ciphertext).length = tagSize := by
  simp [tag, bytesOf, tagSize]

theorem openText_append {nonce mark : Bytes} (key ciphertext : Bytes)
    (sized : nonce.length = nonceSize) (marked : mark.length = tagSize) :
    openText key (nonce ++ (ciphertext ++ mark)) =
      if mark = tag (Aes.roundKeys key) nonce ciphertext then
        some (applyStream (Aes.roundKeys key) nonce ciphertext)
      else none := by
  simp [openText, ← sized, ← marked]

theorem openText_sealText {nonce : Bytes} (key text : Bytes) (sized : nonce.length = nonceSize) :
    openText key (sealText key nonce text) = some text := by
  rw [sealText, List.append_assoc, openText_append key _ sized (length_tag _ _ _), if_pos rfl,
    applyStream_applyStream]

/-- What opens was sealed with the nonce that it starts with. -/
theorem eq_sealText_of_openText {key sealed text : Bytes}
    (long : nonceSize + tagSize ≤ sealed.length) (opens : openText key sealed = some text) :
    sealed = sealText key (sealed.take nonceSize) text := by
  let body := sealed.drop nonceSize
  let nonce := sealed.take nonceSize
  let ciphertext := body.take (body.length - tagSize)
  let mark := body.drop (body.length - tagSize)
  have parts : sealed = nonce ++ (ciphertext ++ mark) := by
    rw [List.take_append_drop, List.take_append_drop]
  have sized : nonce.length = nonceSize := by
    apply List.length_take_of_le
    omega
  have marked : mark.length = tagSize := by
    simp only [mark, body, List.length_drop]
    omega
  rw [parts, openText_append key ciphertext sized marked] at opens
  split at opens
  case isTrue carries =>
    have plain : applyStream (Aes.roundKeys key) nonce ciphertext = text := Option.some.inj opens
    rw [sealText, ← plain, applyStream_applyStream, ← carries, List.append_assoc]
    exact parts
  case isFalse => cases opens

end Gcm

namespace SessionKey

variable {key : SessionKey} {nonce sealed text : Bytes}

theorem length_sealText (key : SessionKey) (nonce text : Bytes) :
    (key.sealText nonce text).length = nonce.length + text.length + Gcm.tagSize := by
  simp [sealText, Gcm.sealText, Gcm.length_applyStream, Gcm.length_tag, Nat.add_assoc]

theorem openText_sealText (key : SessionKey) (text : Bytes) (sized : nonce.length = Gcm.nonceSize) :
    key.openText (key.sealText nonce text) = .ok text := by
  have opens := Gcm.openText_sealText key.bytes text sized
  rw [openText, length_sealText, sized, if_neg (by omega), sealText, opens]

/-- A text that opens was sealed under the key. -/
theorem exists_sealText_of_openText (opens : key.openText sealed = .ok text) :
    ∃ nonce, nonce.length = Gcm.nonceSize ∧ sealed = key.sealText nonce text := by
  rw [openText] at opens
  split at opens
  case isTrue => cases opens
  case isFalse long =>
    rcases found : Gcm.openText key.bytes sealed with _ | read
    · simp [found] at opens
    · simp only [found, Except.ok.injEq] at opens
      subst opens
      refine ⟨sealed.take Gcm.nonceSize, ?_, ?_⟩
      · apply List.length_take_of_le
        omega
      · exact Gcm.eq_sealText_of_openText (by omega) found

theorem openText_eq_ok_iff : key.openText sealed = .ok text ↔
    ∃ nonce, nonce.length = Gcm.nonceSize ∧ sealed = key.sealText nonce text := by
  constructor
  · exact exists_sealText_of_openText
  · rintro ⟨nonce, sized, rfl⟩
    exact key.openText_sealText text sized

/-- A sealed text is its nonce, as many bytes as the text has, and a tag. -/
theorem exists_layout (key : SessionKey) (nonce text : Bytes) :
    ∃ ciphertext mark, key.sealText nonce text = nonce ++ (ciphertext ++ mark) ∧
      ciphertext.length = text.length ∧ mark.length = Gcm.tagSize :=
  ⟨_, _, List.append_assoc _ _ _, Gcm.length_applyStream _ _ _, Gcm.length_tag _ _ _⟩

theorem take_sealText (key : SessionKey) (text : Bytes) (sized : nonce.length = Gcm.nonceSize) :
    (key.sealText nonce text).take Gcm.nonceSize = nonce := by
  rcases key.exists_layout nonce text with ⟨ciphertext, mark, layout, _⟩
  rw [layout, ← sized, List.take_left]

/-- What is sealed under its own first bytes has room for a nonce. -/
theorem length_take_of_eq_sealText
    (same : sealed = key.sealText (sealed.take Gcm.nonceSize) text) :
    (sealed.take Gcm.nonceSize).length = Gcm.nonceSize := by
  have size := congrArg List.length same
  rw [length_sealText, List.length_take] at size
  have : 0 < Gcm.tagSize := by decide
  rw [List.length_take]
  omega

/-- What opens was sealed with its own first bytes as the nonce. -/
theorem openText_eq_ok_iff_take : key.openText sealed = .ok text ↔
    sealed = key.sealText (sealed.take Gcm.nonceSize) text := by
  rw [openText_eq_ok_iff]
  constructor
  · rintro ⟨nonce, sized, rfl⟩
    rw [key.take_sealText text sized]
  · exact fun same => ⟨_, length_take_of_eq_sealText same, same⟩

theorem openText_of_short (short : sealed.length < Gcm.nonceSize + Gcm.tagSize) :
    key.openText sealed = .error (.truncated sealed.length) := by
  rw [openText, if_pos short]

/-- What has room for a nonce and a tag opens, or it is refused without further distinction. -/
theorem openText_of_long (key : SessionKey) (long : Gcm.nonceSize + Gcm.tagSize ≤ sealed.length) :
    (∃ text, key.openText sealed = .ok text) ∨ key.openText sealed = .error .cannotOpen := by
  rw [openText, if_neg (by omega)]
  cases Gcm.openText key.bytes sealed with
  | some text => exact .inl ⟨text, rfl⟩
  | none => exact .inr rfl

/-- Exactly what sealing gives opens, and opens to what was sealed. A text shorter than 28 bytes is
refused as such, any other that was not sealed under the key as one that does not open. A sealed
text has 28 bytes more than what was sealed, in the order nonce, ciphertext and tag. -/
theorem opens_exactly_sealed (key : SessionKey) (sealed text : Bytes) :
    (key.openText sealed = .ok text ↔
        sealed = key.sealText (sealed.take Gcm.nonceSize) text) ∧
      (sealed.length < 28 → key.openText sealed = .error (.truncated sealed.length)) ∧
      (28 ≤ sealed.length →
        (∀ plain, sealed ≠ key.sealText (sealed.take Gcm.nonceSize) plain) →
          key.openText sealed = .error .cannotOpen) ∧
      ∀ nonce : Bytes, nonce.length = Gcm.nonceSize →
        (key.sealText nonce text).length = text.length + 28 ∧
          (∃ ciphertext mark, key.sealText nonce text = nonce ++ (ciphertext ++ mark) ∧
            ciphertext.length = text.length ∧ mark.length = Gcm.tagSize) ∧
          key.openText (key.sealText nonce text) = .ok text := by
  have overhead : Gcm.nonceSize + Gcm.tagSize = 28 := rfl
  refine ⟨openText_eq_ok_iff_take, ?_, ?_, ?_⟩
  · intro short
    exact openText_of_short (overhead ▸ short)
  · intro long unsealed
    rcases key.openText_of_long (overhead ▸ long) with ⟨plain, opens⟩ | refused
    · exact absurd (openText_eq_ok_iff_take.1 opens) (unsealed plain)
    · exact refused
  · intro nonce sized
    refine ⟨?_, key.exists_layout nonce text, key.openText_sealText text sized⟩
    rw [length_sealText, sized, Nat.add_right_comm, overhead, Nat.add_comm]

end SessionKey

end Cowrite
