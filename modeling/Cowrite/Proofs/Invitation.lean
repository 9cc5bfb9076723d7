import Cowrite.Invitation
import Cowrite.Proofs.Text.Base64
import Cowrite.Proofs.Wire.Reading

/-!
# Invitations in writing

Writing an invitation always works, but reading it again is stricter: nothing essential may be
empty, and the lengths of its texts have to fit the numbers that tell them. An invitation that
passes is whole (`Invitation.IsWhole`), and the whole ones are exactly those that can be read again
(`Invitation.decode_encode_iff`). Whatever was read is whole (`Invitation.isWhole_of_decode`).

A user copies a code from somewhere, with whatever stands around it. White space around it does
not matter, as no symbol of the code is white space (`Invitation.decode_between`). Codes that are
spelled in another way than they are written are read too; what they say is whole all the same, so
it can be shared in turn (`Invitation.shared_arrives`).
-/

namespace Cowrite

namespace Invitation

theorem decodeKey_bytes (key : SessionKey) (rest : Bytes) :
    decodeKey (key.bytes ++ rest) = .ok (key, rest) := by
  have taken := Wire.takeBytes_append key.bytes rest
  rw [key.length_bytes] at taken
  have known : SessionKey.ofBytes? key.bytes = some key := dif_pos key.length_bytes
  simp only [decodeKey, taken, bind, Except.bind, known]

def texts : Invitation → List String
  | .relay server session _ => [server, session]
  | .peer endpointId relayUrl => [endpointId, relayUrl]

/-- Whether the length of every text has at most 64 bits. -/
def IsShort (invitation : Invitation) : Prop :=
  ∀ text ∈ invitation.texts, (Wire.utf8 text).length < 2 ^ 64

instance (invitation : Invitation) : Decidable invitation.IsShort :=
  inferInstanceAs (Decidable (∀ text ∈ invitation.texts, _))

theorem isShort_relay {server session : String} {key : Option SessionKey} :
    (relay server session key).IsShort ↔
      (Wire.utf8 server).length < 2 ^ 64 ∧ (Wire.utf8 session).length < 2 ^ 64 := by
  simp [IsShort, texts]

theorem isShort_peer {endpointId relayUrl : String} :
    (peer endpointId relayUrl).IsShort ↔
      (Wire.utf8 endpointId).length < 2 ^ 64 ∧ (Wire.utf8 relayUrl).length < 2 ^ 64 := by
  simp [IsShort, texts]

/-- Whether an invitation tells everything that somebody needs in order to join. -/
structure IsWhole (invitation : Invitation) : Prop where
  named : invitation.missingField? = none
  short : invitation.IsShort

theorem ofPayload_payload (invitation : Invitation) :
    ofPayload invitation.payload =
      if invitation.IsShort then .ok invitation else .error .badNumber := by
  cases invitation with
  | relay server session key =>
      have ends := Wire.decodeOption_encodeOption decodeKey_bytes key []
      rw [List.append_nil] at ends
      simp only [ofPayload, payload, List.append_assoc,
        Wire.decodeVariant_bind (by decide : 0 < 2 ^ 32), Wire.decodeText_bind, ends,
        isShort_relay, ite_and]
      rfl
  | peer endpointId relayUrl =>
      rw [payload, ← List.append_nil (Wire.encodeText relayUrl)]
      simp only [ofPayload, List.append_assoc, Wire.decodeVariant_bind (by decide : 1 < 2 ^ 32),
        Wire.decodeText_bind, isShort_peer, ite_and]
      rfl

theorem payload_ne_nil (invitation : Invitation) : invitation.payload ≠ [] := by
  have starts (number : Nat) : Wire.encodeVariant number ≠ [] := by
    rw [Wire.encodeVariant, Wire.encodeNumber]
    split
    · exact List.cons_ne_nil _ _
    · exact List.cons_ne_nil _ _
  cases invitation with
  | relay server session key => simp [payload, starts]
  | peer endpointId relayUrl => simp [payload, starts]

/-- The bytes of an invitation arrive as they were written, also with white space around them. -/
theorem decode_between (invitation : Invitation) {before after : String}
    (blankBefore : Text.isBlank before.toList = true)
    (blankAfter : Text.isBlank after.toList = true) :
    decode (before ++ invitation.encode ++ after) =
      match ofPayload invitation.payload with
      | .error error => .error (.badPayload error)
      | .ok invitation =>
          match invitation.missingField? with
          | some name => .error (.missingField name)
          | none => .ok invitation := by
  let symbols := Base64.encode invitation.payload
  have spelled : (before ++ invitation.encode ++ after).toList =
      before.toList ++ symbols ++ after.toList := by
    simp [encode, symbols]
  have trims : Text.trimmed (before.toList ++ symbols ++ after.toList) = symbols :=
    Text.trimmed_between blankBefore blankAfter fun c =>
      Base64.isWhiteSpace_of_mem_encode invitation.payload
  have reads : Base64.decode symbols = some invitation.payload :=
    Base64.decode_encode invitation.payload
  have something : symbols.isEmpty = false := by
    cases none : symbols with
    | nil =>
        rw [none] at reads
        exact absurd (Option.some.inj reads).symm invitation.payload_ne_nil
    | cons first rest => rfl
  simp only [decode]
  rw [spelled, trims, something, reads]
  rfl

theorem decode_encode (invitation : Invitation) :
    decode invitation.encode =
      match ofPayload invitation.payload with
      | .error error => .error (.badPayload error)
      | .ok invitation =>
          match invitation.missingField? with
          | some name => .error (.missingField name)
          | none => .ok invitation := by
  have alone := @invitation.decode_between "" "" rfl rfl
  simpa using alone

/-- The invitations that can be read again are the whole ones. -/
theorem decode_encode_iff {invitation other : Invitation} :
    decode invitation.encode = .ok other ↔ invitation.IsWhole ∧ other = invitation := by
  rw [decode_encode, ofPayload_payload]
  by_cases short : invitation.IsShort
  · rw [if_pos short]
    cases missing : invitation.missingField? with
    | none =>
        simp only [missing, Except.ok.injEq]
        exact ⟨fun same => ⟨⟨missing, short⟩, same.symm⟩, fun both => both.2.symm⟩
    | some name =>
        simp only [missing, reduceCtorEq, false_iff]
        intro both
        cases missing.symm.trans both.1.named
  · rw [if_neg short]
    simp only [reduceCtorEq, false_iff]
    exact fun both => short both.1.short

theorem isShort_of_ofPayload {bytes : Bytes} {invitation : Invitation}
    (reads : ofPayload bytes = .ok invitation) : invitation.IsShort := by
  rw [ofPayload] at reads
  rcases Wire.bind_eq_ok reads with ⟨⟨variant, fields⟩, _, rest⟩
  simp only at rest
  split at rest
  · rcases Wire.bind_eq_ok rest with ⟨⟨server, afterServer⟩, first, rest⟩
    rcases Wire.bind_eq_ok rest with ⟨⟨session, afterSession⟩, second, rest⟩
    rcases Wire.bind_eq_ok rest with ⟨⟨key, _⟩, _, same⟩
    cases same
    exact isShort_relay.2 ⟨Wire.lt_of_decodeText first, Wire.lt_of_decodeText second⟩
  · rcases Wire.bind_eq_ok rest with ⟨⟨endpointId, afterId⟩, first, rest⟩
    rcases Wire.bind_eq_ok rest with ⟨⟨relayUrl, _⟩, second, same⟩
    cases same
    exact isShort_peer.2 ⟨Wire.lt_of_decodeText first, Wire.lt_of_decodeText second⟩
  · cases rest

/-- Whatever was read is whole. -/
theorem isWhole_of_decode {code : String} {invitation : Invitation}
    (reads : decode code = .ok invitation) : invitation.IsWhole := by
  simp only [decode] at reads
  split at reads
  · cases reads
  · rcases decoded : Base64.decode (Text.trimmed code.toList) with _ | bytes
    · simp [decoded] at reads
    · rcases spelled : ofPayload bytes with error | read
      · simp [decoded, spelled] at reads
      · rcases named : read.missingField? with _ | name
        · simp only [decoded, spelled, named, Except.ok.injEq] at reads
          rw [← reads]
          exact ⟨named, isShort_of_ofPayload spelled⟩
        · simp [decoded, spelled, named] at reads

/-- The parts that must not be empty, with their names. -/
def essentials : Invitation → List (String × String)
  | .relay server session _ => [("server", server), ("session", session)]
  | .peer endpointId _ => [("endpoint id", endpointId)]

theorem missingField?_eq (invitation : Invitation) :
    invitation.missingField? =
      (invitation.essentials.find? fun part => part.2.isEmpty).map Prod.fst := by
  cases invitation with
  | relay server session key =>
      by_cases anonymous : server.isEmpty
      · simp [missingField?, essentials, anonymous]
      · by_cases nameless : session.isEmpty <;>
          simp [missingField?, essentials, anonymous, nameless]
  | peer endpointId relayUrl =>
      by_cases nameless : endpointId.isEmpty <;> simp [missingField?, essentials, nameless]

theorem missingField?_eq_none_iff {invitation : Invitation} :
    invitation.missingField? = none ↔ ∀ part ∈ invitation.essentials, part.2 ≠ "" := by
  simp [missingField?_eq]

/-- An invitation is shared as one word of symbols that nothing around it can spoil. Whoever reads
it gets the invitation, or is told which essential part is the first that it lacks; and an
invitation that was read, from whatever word, can be shared in turn. -/
theorem shared_arrives :
    (∀ (invitation : Invitation) (before after : String),
      Text.isBlank before.toList = true → Text.isBlank after.toList = true →
        (∀ symbol ∈ invitation.encode.toList,
          symbol.isAlphanum = true ∨ symbol = '-' ∨ symbol = '_') ∧
        decode (before ++ invitation.encode ++ after) =
          if invitation.IsShort then
            match invitation.essentials.find? fun part => part.2.isEmpty with
            | some part => .error (.missingField part.1)
            | none => .ok invitation
          else .error (.badPayload .badNumber)) ∧
      ∀ (code : String) (invitation : Invitation), decode code = .ok invitation →
        (∀ part ∈ invitation.essentials, part.2 ≠ "") ∧
          decode invitation.encode = .ok invitation := by
  constructor
  · intro invitation before after blankBefore blankAfter
    constructor
    · intro symbol present
      rw [encode, String.toList_ofList] at present
      exact Base64.isAlphanum_of_mem_encode invitation.payload present
    · rw [decode_between invitation blankBefore blankAfter, ofPayload_payload]
      by_cases short : invitation.IsShort
      · rw [if_pos short, if_pos short]
        simp only [missingField?_eq]
        cases invitation.essentials.find? fun part => part.2.isEmpty <;> rfl
      · rw [if_neg short, if_neg short]
  · intro code invitation reads
    have whole := isWhole_of_decode reads
    exact ⟨missingField?_eq_none_iff.1 whole.named, decode_encode_iff.2 ⟨whole, rfl⟩⟩

/-- The code of an encrypted room, copied with a blank before it and a line break behind it. -/
theorem encryptedRoom_arrives :
    let key : SessionKey := ⟨List.replicate 32 3, List.length_replicate⟩
    let room := relay "wss://relay.example.com" "f00d" (some key)
    Text.isBlank " ".toList = true ∧ Text.isBlank "\n".toList = true ∧
      decode (" " ++ room.encode ++ "\n") = .ok room ∧ decode room.encode = .ok room := by
  intro key room
  have short : room.IsShort := isShort_relay.2 (by decide)
  have reads := (shared_arrives.1 room " " "\n" (by decide) (by decide)).2
  rw [if_pos short] at reads
  have again := shared_arrives.2 _ room reads
  exact ⟨by decide, by decide, reads, again.2⟩

end Invitation

end Cowrite
