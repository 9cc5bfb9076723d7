import Cowrite.Proofs.SessionKey
import Cowrite.Proofs.Wire.Message
import Cowrite.Transport.Framing

/-!
# Updates through a server

A server passes the updates of a client on to the others: the bytes that a message carries come
back in the server's message of the same kind (`relayed?`). The two kinds of messages are numbered
apart, so that this has to be followed through both of them. With or without a key, what arrives
at the other end is the update that was sent, as long as its length can be told
(`Framing.update_arrives`). A frame is dropped exactly if it is no message or if nobody here can
open it (`Framing.decodeInbound?_eq_none_iff`).
-/

namespace Cowrite

namespace Framing

open Wire (ClientMessage ServerMessage)

variable {key : Option SessionKey} {nonce payload frame : Bytes} {message : OutboundMessage Bytes}

/-- What a server says to the others about what it was told. -/
def repeated? : ClientMessage → Option ServerMessage
  | .syncRequest => none
  | .update data => some (.update data)
  | .encryptedUpdate data => some (.encryptedUpdate data)

/-- The frame for the others that a server makes of the frame of a client. -/
def relayed? (frame : Bytes) : Option Bytes :=
  match ClientMessage.decode frame with
  | .ok message => (repeated? message).map ServerMessage.encode
  | .error _ => none

/-- How many bytes are added to a payload. -/
def overhead : Option SessionKey → Nat
  | none => 0
  | some _ => Gcm.nonceSize + Gcm.tagSize

theorem outbound_of_payload (carries : message.payload? = some payload) :
    outbound key nonce message = updateMessage key nonce payload := by
  cases message with
  | syncRequest => cases carries
  | update sent =>
      cases carries
      rfl
  | fullState sent =>
      cases carries
      rfl

theorem isShort_updateMessage (sized : nonce.length = Gcm.nonceSize) :
    (updateMessage key nonce payload).IsShort ↔ payload.length + overhead key < 2 ^ 64 := by
  cases key with
  | none => simp [updateMessage, ClientMessage.IsShort, ClientMessage.fields, overhead]
  | some key =>
      simp only [updateMessage, ClientMessage.IsShort, ClientMessage.fields, overhead,
        List.forall_mem_singleton, SessionKey.length_sealText, sized]
      omega

theorem isShort_of_repeated {sent : ClientMessage} {said : ServerMessage}
    (repeats : repeated? sent = some said) : said.IsShort ↔ sent.IsShort := by
  cases sent with
  | syncRequest => cases repeats
  | update data =>
      cases repeats
      rfl
  | encryptedUpdate data =>
      cases repeats
      rfl

/-- What is said about an update is the update. -/
theorem exists_repeated_updateMessage (key : Option SessionKey) (payload : Bytes)
    (sized : nonce.length = Gcm.nonceSize) :
    ∃ said, repeated? (updateMessage key nonce payload) = some said ∧
      inbound? key said = some (.update payload) := by
  cases key with
  | none => exact ⟨.update payload, rfl, rfl⟩
  | some key =>
      refine ⟨.encryptedUpdate (key.sealText nonce payload), rfl, ?_⟩
      simp [inbound?, key.openText_sealText payload sized]

theorem decodeInbound?_encode (key : Option SessionKey) (said : ServerMessage) :
    decodeInbound? key said.encode = if said.IsShort then inbound? key said else none := by
  rw [decodeInbound?, ServerMessage.isSelfDelimiting.decode_encode]
  by_cases short : said.IsShort
  · simp only [if_pos short]
  · simp only [if_neg short]

theorem relayed?_encode (sent : ClientMessage) :
    relayed? sent.encode =
      if sent.IsShort then (repeated? sent).map ServerMessage.encode else none := by
  rw [relayed?, ClientMessage.isSelfDelimiting.decode_encode]
  by_cases short : sent.IsShort
  · simp only [if_pos short]
  · simp only [if_neg short]

theorem decodeInbound?_relayed? (sized : nonce.length = Gcm.nonceSize) :
    (relayed? (updateMessage key nonce payload).encode).bind (decodeInbound? key) =
      if payload.length + overhead key < 2 ^ 64 then some (.update payload) else none := by
  rcases exists_repeated_updateMessage key payload sized with ⟨said, repeats, means⟩
  rw [relayed?_encode, repeats]
  by_cases short : (updateMessage key nonce payload).IsShort
  · have fits := (isShort_updateMessage sized).1 short
    have saysShort := (isShort_of_repeated repeats).2 short
    rw [if_pos short, if_pos fits, Option.map_some, Option.bind_some, decodeInbound?_encode,
      if_pos saysShort, means]
  · have long := mt (isShort_updateMessage sized).2 short
    rw [if_neg short, if_neg long]
    rfl

/-- The frames that are dropped. -/
theorem decodeInbound?_eq_none_iff : decodeInbound? key frame = none ↔
    (∃ error, ServerMessage.decode frame = .error error) ∨
      ∃ sealed, ServerMessage.decode frame = .ok (.encryptedUpdate sealed) ∧
        ∀ holder, key = some holder → ∃ error, holder.openText sealed = .error error := by
  rw [decodeInbound?]
  cases ServerMessage.decode frame with
  | error error => simp
  | ok said =>
      cases said with
      | syncResponse state => simp [inbound?]
      | update payload => simp [inbound?]
      | error code text => simp [inbound?]
      | encryptedUpdate sealed =>
          cases key with
          | none => simp [inbound?]
          | some holder => cases opened : holder.openText sealed <;> simp [inbound?, opened]

theorem encodeOutbound_none (carries : message.payload? = some payload) :
    encodeOutbound none nonce message = (ClientMessage.update payload).encode := by
  rw [encodeOutbound, outbound_of_payload carries]
  rfl

/-- Under a key, the server is told a sealed update and nothing that it would take for a plain
one. -/
theorem encodeOutbound_some (holder : SessionKey) (sized : nonce.length = Gcm.nonceSize)
    (carries : message.payload? = some payload) :
    (∃ sealed, encodeOutbound (some holder) nonce message =
        (ClientMessage.encryptedUpdate sealed).encode ∧ holder.openText sealed = .ok payload) ∧
      ∀ data, ClientMessage.decode (encodeOutbound (some holder) nonce message) ≠
        .ok (.update data) := by
  have frames : encodeOutbound (some holder) nonce message =
      (ClientMessage.encryptedUpdate (holder.sealText nonce payload)).encode := by
    rw [encodeOutbound, outbound_of_payload carries]
    rfl
  constructor
  · exact ⟨_, frames, holder.openText_sealText payload sized⟩
  · intro data reads
    rw [frames, ClientMessage.isSelfDelimiting.decode_encode] at reads
    split at reads
    · cases reads
    · cases reads

/-- An update arrives as it was sent, sealed on its way exactly if there is a key. -/
theorem update_arrives (key : Option SessionKey) (nonce : Bytes) (message : OutboundMessage Bytes)
    (sized : nonce.length = Gcm.nonceSize) (carries : message.payload? = some payload) :
    (key = none → encodeOutbound key nonce message = (ClientMessage.update payload).encode) ∧
      (∀ holder, key = some holder →
        (∃ sealed, encodeOutbound key nonce message =
            (ClientMessage.encryptedUpdate sealed).encode ∧
          holder.openText sealed = .ok payload) ∧
        ∀ data, ClientMessage.decode (encodeOutbound key nonce message) ≠ .ok (.update data)) ∧
      ((relayed? (encodeOutbound key nonce message)).bind (decodeInbound? key) =
        if payload.length + overhead key < 2 ^ 64 then some (.update payload) else none) ∧
      ∀ frame, decodeInbound? key frame = none ↔
        (∃ error, ServerMessage.decode frame = .error error) ∨
          ∃ sealed, ServerMessage.decode frame = .ok (.encryptedUpdate sealed) ∧
            ∀ holder, key = some holder → ∃ error, holder.openText sealed = .error error := by
  refine ⟨?_, ?_, ?_, fun frame => decodeInbound?_eq_none_iff⟩
  · rintro rfl
    exact encodeOutbound_none carries
  · rintro holder rfl
    exact encodeOutbound_some holder sized carries
  · rw [encodeOutbound, outbound_of_payload carries]
    exact decodeInbound?_relayed? sized

/-- The whole document "doc" under a key. -/
theorem fullState_arrives :
    let key : SessionKey := ⟨List.replicate 32 5, List.length_replicate⟩
    let nonce : Bytes := List.replicate 12 0
    let message : OutboundMessage Bytes := .fullState [100, 111, 99]
    nonce.length = Gcm.nonceSize ∧ message.payload? = some [100, 111, 99] ∧
      (relayed? (encodeOutbound (some key) nonce message)).bind (decodeInbound? (some key)) =
        some (.update [100, 111, 99]) := by
  intro key nonce message
  have arrives := update_arrives (some key) nonce message (by decide) rfl
  exact ⟨by decide, rfl, arrives.2.2.1.trans (if_pos (by decide))⟩

end Framing

end Cowrite
