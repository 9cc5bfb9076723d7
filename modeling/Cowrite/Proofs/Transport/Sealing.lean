import Cowrite.Proofs.SessionKey
import Cowrite.Proofs.Wire.Message
import Cowrite.Transport.Socket

/-!
# What a keyed session is handed

A server that does not know the key of a session cannot make up anything that opens: what opens was
sealed under the key (`Framing.seals_iff`). But not all document bytes that a session is handed have
been opened. Plain states and plain updates are passed on under a key as well, so a frame is safe
exactly if it carries none (`Framing.guards_iff`), and so is all that a socket hears, from its
handshake to its end, if it hears no such frame while it is open (`Socket.guards_iff`).
-/

namespace Cowrite

/-- The document bytes that an event carries. -/
def TransportEvent.documentBytes? {π : Type} : TransportEvent π → Option π
  | .syncResponse payload => some payload
  | .update payload => some payload
  | .fullState payload => some payload
  | _ => none

namespace Framing

open Wire (ServerMessage)

variable {key : SessionKey} {frame bytes : Bytes}

/-- Whether the bytes are what a sealed payload in the frame opens to. -/
def Seals (key : SessionKey) (frame bytes : Bytes) : Prop :=
  ∃ sealed, ServerMessage.decode frame = .ok (.encryptedUpdate sealed) ∧
    key.openText sealed = .ok bytes

/-- Whether the bytes are in the frame as they are, as a state or as an update. -/
def Shows (frame bytes : Bytes) : Prop :=
  ServerMessage.decode frame = .ok (.syncResponse bytes) ∨
    ServerMessage.decode frame = .ok (.update bytes)

/-- Whether a session under the key gets the bytes from the frame. -/
def Brings (key : SessionKey) (frame bytes : Bytes) : Prop :=
  ∃ event, decodeInbound? (some key) frame = some event ∧ event.documentBytes? = some bytes

/-- Whether the document bytes that a session under the key gets from the frame, if any, are sealed
in it. -/
def Guards (key : SessionKey) (frame : Bytes) : Prop :=
  ∀ bytes, Brings key frame bytes → bytes ≠ [] → Seals key frame bytes

def IsPlain (frame : Bytes) : Prop :=
  ∃ bytes, Shows frame bytes ∧ bytes ≠ []

theorem seals_iff : Seals key frame bytes ↔ ∃ nonce, nonce.length = Gcm.nonceSize ∧
    ServerMessage.decode frame = .ok (.encryptedUpdate (key.sealText nonce bytes)) := by
  constructor
  · rintro ⟨sealed, spells, opens⟩
    rcases SessionKey.exists_sealText_of_openText opens with ⟨nonce, sized, rfl⟩
    exact ⟨nonce, sized, spells⟩
  · rintro ⟨nonce, sized, spells⟩
    exact ⟨_, spells, key.openText_sealText bytes sized⟩

theorem brings_iff : Brings key frame bytes ↔ Shows frame bytes ∨ Seals key frame bytes := by
  simp only [Brings, Shows, Seals, decodeInbound?]
  cases ServerMessage.decode frame with
  | error error => simp
  | ok said =>
      cases said with
      | syncResponse state => simp [inbound?, TransportEvent.documentBytes?]
      | update payload => simp [inbound?, TransportEvent.documentBytes?]
      | error code text => simp [inbound?, TransportEvent.documentBytes?]
      | encryptedUpdate sealed =>
          cases opened : key.openText sealed <;>
            simp [inbound?, opened, TransportEvent.documentBytes?]

theorem not_shows_of_seals {sealed : Bytes} (seals : Seals key frame sealed) :
    ¬Shows frame bytes := by
  rcases seals with ⟨payload, spells, _⟩
  simp [Shows, spells]

theorem guards_iff : Guards key frame ↔ ¬IsPlain frame := by
  constructor
  · rintro guards ⟨bytes, shows, something⟩
    exact not_shows_of_seals (guards bytes (brings_iff.2 (.inl shows)) something) shows
  · intro sealed bytes brings something
    rcases brings_iff.1 brings with shows | seals
    · exact absurd ⟨bytes, shows, something⟩ sealed
    · exact seals

end Framing

namespace Socket

variable {socket : Socket} {key : SessionKey} {report : SocketReport} {bytes : Bytes}

/-- The socket when it has heard some reports. -/
def after (socket : Socket) (reports : List SocketReport) : Socket :=
  reports.foldl (fun socket report => (socket.hear report).2) socket

/-- Whether the session is handed the bytes on a report. -/
def Hands (socket : Socket) (report : SocketReport) (bytes : Bytes) : Prop :=
  ∃ event, (socket.hear report).1 = some event ∧ event.documentBytes? = some bytes

/-- Whether the document bytes that the session is ever handed are sealed in the frame that they
come with. -/
def Guards (socket : Socket) (key : SessionKey) (reports : List SocketReport) : Prop :=
  ∀ before report later, reports = before ++ report :: later →
    ∀ bytes, (socket.after before).Hands report bytes → bytes ≠ [] →
      ∃ frame, report = .frame frame ∧ Framing.Seals key frame bytes

/-- Whether a plain frame comes while the socket is open. -/
def HearsPlain (socket : Socket) (reports : List SocketReport) : Prop :=
  ∃ before frame later, reports = before ++ .frame frame :: later ∧
    (socket.after before).phase = .opened ∧ Framing.IsPlain frame

theorem key_hear (socket : Socket) (report : SocketReport) :
    (socket.hear report).2.key = socket.key := by
  unfold hear
  split <;> rfl

theorem key_after (socket : Socket) (reports : List SocketReport) :
    (socket.after reports).key = socket.key := by
  induction reports generalizing socket with
  | nil => rfl
  | cons report rest ih =>
      rw [after, List.foldl_cons]
      exact (ih _).trans (socket.key_hear report)

theorem hands_iff (keyed : socket.key = some key) : socket.Hands report bytes ↔
    ∃ frame, report = .frame frame ∧ socket.phase = .opened ∧ Framing.Brings key frame bytes := by
  unfold Hands hear
  cases report with
  | frame spelling => cases socket.phase <;> simp [Framing.Brings, keyed]
  | accepted => cases socket.phase <;> simp [TransportEvent.documentBytes?]
  | refused reason => cases socket.phase <;> simp [TransportEvent.documentBytes?]
  | otherFrame => cases socket.phase <;> simp [TransportEvent.documentBytes?]
  | closed => cases socket.phase <;> simp [TransportEvent.documentBytes?]
  | broken reason => cases socket.phase <;> simp [TransportEvent.documentBytes?]

theorem guards_iff {reports : List SocketReport} (keyed : socket.key = some key) :
    socket.Guards key reports ↔ ¬socket.HearsPlain reports := by
  have stays (before : List SocketReport) : (socket.after before).key = some key :=
    (socket.key_after before).trans keyed
  constructor
  · rintro guards ⟨before, frame, later, rfl, opened, bytes, shows, something⟩
    have hands := (hands_iff (stays before)).2
      ⟨frame, rfl, opened, Framing.brings_iff.2 (.inl shows)⟩
    rcases guards before _ later rfl bytes hands something with ⟨same, matched, seals⟩
    cases matched
    exact Framing.not_shows_of_seals seals shows
  · intro sealed before report later split bytes hands something
    rcases (hands_iff (stays before)).1 hands with ⟨frame, rfl, opened, brings⟩
    have safe : ¬Framing.IsPlain frame := fun plain =>
      sealed ⟨before, frame, later, split, opened, plain⟩
    exact ⟨frame, rfl, Framing.guards_iff.2 safe bytes brings something⟩

end Socket

/-- All that a keyed session is handed was sealed under its key, unless the server says it
plainly. -/
theorem guards_iff_not_plain (key : SessionKey) :
    (∀ frame, Framing.Guards key frame ↔ ¬Framing.IsPlain frame) ∧
      (∀ (socket : Socket) reports, socket.key = some key →
        (socket.Guards key reports ↔ ¬socket.HearsPlain reports)) ∧
      ∀ frame bytes, Framing.Seals key frame bytes ↔ ∃ nonce, nonce.length = Gcm.nonceSize ∧
        Wire.ServerMessage.decode frame = .ok (.encryptedUpdate (key.sealText nonce bytes)) :=
  ⟨fun _ => Framing.guards_iff, fun _ _ keyed => Socket.guards_iff keyed,
    fun _ _ => Framing.seals_iff⟩

/-- A sealed update and the end of the connection. -/
theorem sealedUpdate_guarded :
    let key : SessionKey := ⟨List.replicate 32 5, List.length_replicate⟩
    let frame := (Wire.ServerMessage.encryptedUpdate
      (key.sealText (List.replicate 12 0) [100, 111, 99])).encode
    let socket : Socket := ⟨⟨"c1"⟩, "ws://relay/ws/room", some key, 0, .opened, []⟩
    socket.key = some key ∧ Framing.Guards key frame ∧
      socket.Guards key [.frame frame, .closed] := by
  intro key frame socket
  have short : (Wire.ServerMessage.encryptedUpdate
      (key.sealText (List.replicate 12 0) [100, 111, 99])).IsShort := by
    simp [Wire.ServerMessage.IsShort, Wire.ServerMessage.fields, SessionKey.length_sealText,
      Gcm.tagSize]
  have seals : Framing.Seals key frame [100, 111, 99] := by
    refine Framing.seals_iff.2 ⟨List.replicate 12 0, rfl, ?_⟩
    rw [Wire.ServerMessage.isSelfDelimiting.decode_encode, if_pos short]
  have hidden : ¬Framing.IsPlain frame := by
    rintro ⟨bytes, shows, _⟩
    exact Framing.not_shows_of_seals seals shows
  refine ⟨rfl, ((guards_iff_not_plain key).1 frame).2 hidden,
    ((guards_iff_not_plain key).2.1 socket _ rfl).2 ?_⟩
  rintro ⟨before, other, later, split, _, plain⟩
  have heard : SocketReport.frame other ∈ [SocketReport.frame frame, .closed] := by
    rw [split]
    simp
  simp only [List.mem_cons, SocketReport.frame.injEq, reduceCtorEq, List.not_mem_nil,
    or_false] at heard
  rw [heard] at plain
  exact hidden plain

/-- A plain update of the server's own is handed on under a key. -/
theorem plainUpdate_not_guarded :
    ¬Framing.Guards ⟨List.replicate 32 5, List.length_replicate⟩ [1, 1, 0x70] := by
  have shows : Framing.Shows [1, 1, 0x70] [0x70] := .inr rfl
  intro guards
  have seals := guards [0x70] (Framing.brings_iff.2 (.inl shows)) (by decide)
  exact Framing.not_shows_of_seals seals shows

end Cowrite
