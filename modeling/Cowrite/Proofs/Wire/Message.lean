import Cowrite.Proofs.Wire.Streaming
import Cowrite.Wire.Message

/-!
# Messages in writing

A message is the number of its kind and then its fields, which tell their lengths. It can be read
off the front of its bytes (`decodeByKind`), so that all that is known about readers of fields
applies to messages of both sides. Lengths can be told up to 64 bits, which no byte string that
anybody has exceeds; a message whose fields keep within that is short. The main statement is
`messages_selfDelimiting`: the short messages are read back whatever follows them, and no message
that is cut off, be it inside a number, a length or a field, is taken for another one.
-/

namespace Cowrite.Wire

/-- Read the number of a kind, and then what there is to a value of that kind. -/
def decodeByKind {μ : Type} (fields : Nat → Bytes → Except DecodeError (μ × Bytes))
    (bytes : Bytes) : Except DecodeError (μ × Bytes) :=
  decodeVariant bytes >>= fun kind => fields kind.1 kind.2

theorem decodeByKind_append {μ : Type} {fields : Nat → Bytes → Except DecodeError (μ × Bytes)}
    {kind : Nat} (small : kind < 2 ^ 32) (rest : Bytes) :
    decodeByKind fields (encodeVariant kind ++ rest) = fields kind rest :=
  decodeVariant_bind small rest _

theorem isStreaming_decodeByKind {μ : Type}
    {fields : Nat → Bytes → Except DecodeError (μ × Bytes)}
    (streams : ∀ kind, IsStreaming (fields kind)) : IsStreaming (decodeByKind fields) :=
  (isStreaming_decodeNumber 32).bind streams

theorem decodeBytes_bind {α : Type} (data rest : Bytes)
    (next : Bytes × Bytes → Except DecodeError α) :
    decodeBytes (encodeBytes data ++ rest) >>= next =
      if data.length < 2 ^ 64 then next (data, rest) else .error .badNumber := by
  rw [decodeBytes_encodeBytes]
  split
  · rfl
  · rfl

/-- A value that is made of one byte string, with or without the bytes after it. -/
theorem decodeBytes_map_fst {μ : Type} (make : Bytes → μ) (bytes : Bytes) :
    Prod.fst <$> (decodeBytes bytes >>= fun data => .ok (make data.1, data.2)) =
      decodeBytes bytes >>= fun data => .ok (make data.1) := by
  rw [map_bind]
  rfl

namespace ClientMessage

def fields : ClientMessage → List Bytes
  | .syncRequest => []
  | .update data => [data]
  | .encryptedUpdate data => [data]

/-- Whether the length of every field has at most 64 bits. -/
def IsShort (message : ClientMessage) : Prop :=
  ∀ field ∈ message.fields, field.length < 2 ^ 64

instance : DecidablePred IsShort := fun message =>
  inferInstanceAs (Decidable (∀ field ∈ message.fields, _))

/-- Read the fields of a message of the given kind. -/
def decodeFields (kind : Nat) (bytes : Bytes) : Except DecodeError (ClientMessage × Bytes) :=
  match kind with
  | 0 => .ok (.syncRequest, bytes)
  | 1 => decodeBytes bytes >>= fun data => .ok (.update data.1, data.2)
  | 2 => decodeBytes bytes >>= fun data => .ok (.encryptedUpdate data.1, data.2)
  | _ => .error .unknownVariant

theorem isStreaming_decodeFields (kind : Nat) : IsStreaming (decodeFields kind) := by
  rcases kind with _ | _ | _ | kind
  · exact isStreaming_ok syncRequest
  · exact isStreaming_decodeBytes.bind fun data => isStreaming_ok (update data)
  · exact isStreaming_decodeBytes.bind fun data => isStreaming_ok (encryptedUpdate data)
  · exact isStreaming_error .unknownVariant

/-- Reading a message is reading it off the front and leaving the rest alone. -/
theorem decode_eq_map (bytes : Bytes) :
    decode bytes = Prod.fst <$> decodeByKind decodeFields bytes := by
  rw [decode, decodeByKind]
  cases decodeVariant bytes with
  | error error => rfl
  | ok part =>
      rcases part with ⟨_ | _ | _ | kind, rest⟩
      · rfl
      · exact (decodeBytes_map_fst update rest).symm
      · exact (decodeBytes_map_fst encryptedUpdate rest).symm
      · rfl

theorem decodeByKind_encode (message : ClientMessage) (rest : Bytes) :
    decodeByKind decodeFields (message.encode ++ rest) =
      if message.IsShort then .ok (message, rest) else .error .badNumber := by
  cases message with
  | syncRequest =>
      rw [encode, decodeByKind_append (by decide)]
      rfl
  | update data =>
      rw [encode, List.append_assoc, decodeByKind_append (by decide)]
      simp [decodeFields, decodeBytes_bind, IsShort, fields]
  | encryptedUpdate data =>
      rw [encode, List.append_assoc, decodeByKind_append (by decide)]
      simp [decodeFields, decodeBytes_bind, IsShort, fields]

theorem isSelfDelimiting : IsSelfDelimiting encode decode IsShort :=
  .of_front (isStreaming_decodeByKind isStreaming_decodeFields) decode_eq_map decodeByKind_encode

end ClientMessage

namespace ServerMessage

def fields : ServerMessage → List Bytes
  | .syncResponse data => [data]
  | .update data => [data]
  | .encryptedUpdate data => [data]
  | .error code message => [utf8 code, utf8 message]

/-- Whether the length of every field has at most 64 bits. -/
def IsShort (message : ServerMessage) : Prop :=
  ∀ field ∈ message.fields, field.length < 2 ^ 64

instance : DecidablePred IsShort := fun message =>
  inferInstanceAs (Decidable (∀ field ∈ message.fields, _))

/-- Read the fields of a message of the given kind. -/
def decodeFields (kind : Nat) (bytes : Bytes) : Except DecodeError (ServerMessage × Bytes) :=
  match kind with
  | 0 => decodeBytes bytes >>= fun data => .ok (.syncResponse data.1, data.2)
  | 1 => decodeBytes bytes >>= fun data => .ok (.update data.1, data.2)
  | 2 => decodeBytes bytes >>= fun data => .ok (.encryptedUpdate data.1, data.2)
  | 3 =>
      decodeText bytes >>= fun code =>
        decodeText code.2 >>= fun message => .ok (.error code.1 message.1, message.2)
  | _ => .error .unknownVariant

theorem isStreaming_decodeFields (kind : Nat) : IsStreaming (decodeFields kind) := by
  rcases kind with _ | _ | _ | _ | kind
  · exact isStreaming_decodeBytes.bind fun data => isStreaming_ok (syncResponse data)
  · exact isStreaming_decodeBytes.bind fun data => isStreaming_ok (update data)
  · exact isStreaming_decodeBytes.bind fun data => isStreaming_ok (encryptedUpdate data)
  · exact isStreaming_decodeText.bind fun code =>
      isStreaming_decodeText.bind fun message => isStreaming_ok (error code message)
  · exact isStreaming_error .unknownVariant

theorem decode_eq_map (bytes : Bytes) :
    decode bytes = Prod.fst <$> decodeByKind decodeFields bytes := by
  rw [decode, decodeByKind]
  cases decodeVariant bytes with
  | error error => rfl
  | ok part =>
      rcases part with ⟨_ | _ | _ | _ | kind, rest⟩
      · exact (decodeBytes_map_fst syncResponse rest).symm
      · exact (decodeBytes_map_fst update rest).symm
      · exact (decodeBytes_map_fst encryptedUpdate rest).symm
      · change (decodeText rest >>= _) = Prod.fst <$> (decodeText rest >>= _)
        simp only [map_bind]
        rfl
      · rfl

theorem decodeByKind_encode (message : ServerMessage) (rest : Bytes) :
    decodeByKind decodeFields (message.encode ++ rest) =
      if message.IsShort then .ok (message, rest) else .error .badNumber := by
  cases message with
  | syncResponse data =>
      rw [encode, List.append_assoc, decodeByKind_append (by decide)]
      simp [decodeFields, decodeBytes_bind, IsShort, fields]
  | update data =>
      rw [encode, List.append_assoc, decodeByKind_append (by decide)]
      simp [decodeFields, decodeBytes_bind, IsShort, fields]
  | encryptedUpdate data =>
      rw [encode, List.append_assoc, decodeByKind_append (by decide)]
      simp [decodeFields, decodeBytes_bind, IsShort, fields]
  | error code message =>
      rw [encode, List.append_assoc, List.append_assoc, decodeByKind_append (by decide)]
      simp [decodeFields, decodeText_bind, IsShort, fields, ite_and]

theorem isSelfDelimiting : IsSelfDelimiting encode decode IsShort :=
  .of_front (isStreaming_decodeByKind isStreaming_decodeFields) decode_eq_map decodeByKind_encode

end ServerMessage

/-- Messages arrive as they were written, and a message that is cut off is no message. -/
theorem messages_selfDelimiting :
    IsSelfDelimiting ClientMessage.encode ClientMessage.decode ClientMessage.IsShort ∧
      IsSelfDelimiting ServerMessage.encode ServerMessage.decode ServerMessage.IsShort :=
  ⟨ClientMessage.isSelfDelimiting, ServerMessage.isSelfDelimiting⟩

end Cowrite.Wire
