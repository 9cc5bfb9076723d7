import Cowrite.Proofs.Session.Binding
import Cowrite.Proofs.Session.Isolation

/-!
# Repairs

A session looks from time to time whether its buffer still shows the document, and writes the
document's text into it if not. Two texts are compared twice on the way, each time in their
terminated form: what the buffer shows with what the document says, and once more before the write.
As a buffer ends in a separator and a terminated text stays as it is, both comparisons come to the
question whether the content is the terminated text of the document, and a write makes it so
(`Binding.exists_reconcile_of_accepted`). So a buffer that was repaired needs no further repair
until it or the document changes (`Session.reconcile_repairs_once`).

An editor that refuses the write keeps its content, and the repair is not counted
(`Binding.exists_reconcile_of_refused`). The walks are forgotten all the same.
-/

namespace Cowrite

/-- One write is counted if the editor accepts it, and none if it refuses. -/
theorem Buffer.writes_writeContent (buffer : Buffer) (text : Text) :
    (buffer.writeContent text).2.writes =
      buffer.writes + if buffer.refusal? = none then 1 else 0 := by
  have same : (buffer.noteRequest (.content text)).refusal? = buffer.refusal? := rfl
  rw [writeContent, replaceContent, same]
  cases buffer.refusal? with
  | none => rfl
  | some error => rfl

namespace Binding

variable {buffer : Buffer} {text : Text} {replica : Replica}

theorem writes_display (binding : Binding) (differs : shownText buffer ≠ Text.terminated text)
    (now : Nat) : (binding.display buffer text now).2.2.writes =
      buffer.writes + if buffer.refusal? = none then 1 else 0 := by
  rw [display, if_neg differs]
  exact buffer.suspend.writes_writeContent (Text.terminated text)

theorem exists_display_of_refused (binding : Binding) (refuses : buffer.refusal? ≠ none)
    (differs : shownText buffer ≠ Text.terminated text) (now : Nat) :
    ∃ error, (binding.display buffer text now).1 = .error error := by
  have still : buffer.suspend.refusal? ≠ none := refuses
  rcases Buffer.exists_writeContent_of_refusal still (Text.terminated text) with
    ⟨error, after, refused, _⟩
  refine ⟨error, ?_⟩
  simp only [display, if_neg differs, guardedly, refused, didWrite]

/-! ## What a check comes to -/

theorem exists_reconcile_of_accepted (binding : Binding) (nonempty : buffer.lines ≠ [])
    (accepts : buffer.refusal? = none) (differs : shownText buffer ≠ Text.terminated replica.text)
    (now : Nat) :
    ∃ after shown,
      binding.reconcile buffer replica now = (.repaired, after, shown, replica.clearWalks) ∧
        shown.content = Text.terminated replica.text ∧ shown.writes = buffer.writes + 1 := by
  have still : shownText buffer ≠ Text.terminated (Text.terminated replica.text) := by
    rwa [Text.terminated_terminated]
  rcases display_shows nonempty accepts (binding.lockOut now) (Text.terminated replica.text) now
    with ⟨wrote, holds⟩
  have counted := (binding.lockOut now).writes_display still now
  rw [Text.terminated_terminated] at holds
  rw [if_pos accepts] at counted
  rw [binding.reconcile_of_differs now differs, wrote]
  exact ⟨_, _, rfl, holds.content_eq, counted⟩

theorem exists_reconcile_of_refused (binding : Binding) (refuses : buffer.refusal? ≠ none)
    (differs : shownText buffer ≠ Text.terminated replica.text) (now : Nat) :
    ∃ after shown,
      binding.reconcile buffer replica now = (.failed, after, shown, replica.clearWalks) ∧
        shown.content = buffer.content ∧ shown.writes = buffer.writes := by
  have still : shownText buffer ≠ Text.terminated (Text.terminated replica.text) := by
    rwa [Text.terminated_terminated]
  rcases (binding.lockOut now).exists_display_of_refused refuses still now with ⟨error, failed⟩
  have kept := (Bench.isolated_display (binding.lockOut now) replica now still).2.refused refuses
  have counted := (binding.lockOut now).writes_display still now
  rw [if_neg refuses] at counted
  rw [binding.reconcile_of_differs now differs, failed]
  exact ⟨_, _, rfl, congrArg (Text.joinLines true) kept, counted⟩

end Binding

namespace Session

/-- Where the document's text is shown, a check does nothing. -/
theorem reconcile_of_shown (session : Session) {buffer : Buffer}
    (same : Binding.shownText buffer = Text.terminated session.replica.text) (now : Nat) :
    session.reconcile buffer now = (session, buffer) := by
  rw [reconcile, session.binding.reconcile_of_shown now same]
  rfl

/-- A buffer that holds the text of a document is in step with it, whatever else has happened. -/
theorem settled_of_shown {text : Text} {shown : Buffer}
    (holds : shown.content = Text.terminated text) (later : Session) (still : Buffer) (time : Nat)
    (sameText : later.replica.text = text) (sameContent : still.content = shown.content) :
    (later.binding.reconcile still later.replica time).1 = .inSync ∧
      later.reconcile still time = (later, still) := by
  have same : Binding.shownText still = Text.terminated later.replica.text := by
    rw [Binding.shownText, sameContent, holds, Text.terminated_terminated, sameText]
  exact ⟨by rw [later.binding.reconcile_of_shown time same], later.reconcile_of_shown same time⟩

/-- A check of the buffer leaves the text and the version of the document as they are, and does one
of three things. If the content is the terminated text of the document, nothing changes. If not, and
the editor accepts writes, one write makes it so, and one repair more is counted and no walks are
left. If the editor refuses writes, the content and the count stay as they are. Unless it was
refused, any check that comes before the text of the document or the content of the buffer changes
does nothing. -/
theorem reconcile_repairs_once (session : Session) {buffer : Buffer} (nonempty : buffer.lines ≠ [])
    (now : Nat) :
    let wanted := Text.terminated session.replica.text
    let outcome := (session.binding.reconcile buffer session.replica now).1
    let after := (session.reconcile buffer now).1
    let shown := (session.reconcile buffer now).2
    (after.replica.text = session.replica.text ∧
      after.replica.version = session.replica.version) ∧
    (buffer.content = wanted ∧ outcome = .inSync ∧ after = session ∧ shown = buffer ∨
      buffer.content ≠ wanted ∧ buffer.refusal? = none ∧ outcome = .repaired ∧
        shown.content = wanted ∧ shown.writes = buffer.writes + 1 ∧
        after.repairs = session.repairs + 1 ∧ after.replica.walks = [] ∨
      buffer.content ≠ wanted ∧ buffer.refusal? ≠ none ∧ outcome = .failed ∧
        shown.content = buffer.content ∧ shown.writes = buffer.writes ∧
        after.repairs = session.repairs) ∧
    (outcome ≠ .failed → ∀ (later : Session) (still : Buffer) (time : Nat),
      later.replica.text = session.replica.text → still.content = shown.content →
        (later.binding.reconcile still later.replica time).1 = .inSync ∧
          later.reconcile still time = (later, still)) := by
  intro wanted outcome after shown
  have content := Binding.shownText_eq_content nonempty
  have document : after.replica.text = session.replica.text ∧
      after.replica.version = session.replica.version := by
    rcases session.binding.replica_reconcile buffer session.replica now with ⟨walks, same⟩
    have replica : after.replica = { session.replica with walks } := same
    rw [replica]
    exact ⟨rfl, rfl⟩
  refine ⟨document, ?_⟩
  by_cases same : buffer.content = wanted
  · have reconciled := session.reconcile_of_shown (content.trans same) now
    have inSync := session.binding.reconcile_of_shown now (content.trans same)
    have left : shown = buffer := congrArg Prod.snd reconciled
    exact ⟨.inl ⟨same, congrArg Prod.fst inSync, congrArg Prod.fst reconciled, left⟩,
      fun _ => settled_of_shown (left ▸ same)⟩
  · have differs : Binding.shownText buffer ≠ wanted :=
      fun equal => same (content.symm.trans equal)
    by_cases accepts : buffer.refusal? = none
    · rcases session.binding.exists_reconcile_of_accepted nonempty accepts differs now with
        ⟨binding, repaired, reconciled, reached, counted⟩
      have pair : session.reconcile buffer now =
          ({ session with
              binding, replica := session.replica.clearWalks, repairs := session.repairs + 1 },
            repaired) := by
        simp only [reconcile, reconciled, if_true]
      have left : shown = repaired := congrArg Prod.snd pair
      have later : after = _ := congrArg Prod.fst pair
      rw [left, later]
      exact ⟨.inr (.inl ⟨same, accepts, congrArg Prod.fst reconciled, reached, counted, rfl, rfl⟩),
        fun _ => settled_of_shown reached⟩
    · rcases session.binding.exists_reconcile_of_refused accepts differs now with
        ⟨binding, refused, reconciled, kept, counted⟩
      have pair : session.reconcile buffer now =
          ({ session with binding, replica := session.replica.clearWalks }, refused) := by
        simp only [reconcile, reconciled, reduceCtorEq, if_false]
      have left : shown = refused := congrArg Prod.snd pair
      have later : after = _ := congrArg Prod.fst pair
      have failed : outcome = .failed := congrArg Prod.fst reconciled
      rw [left, later]
      exact ⟨.inr (.inr ⟨same, accepts, failed, kept, counted, rfl⟩),
        fun unfailed => absurd failed unfailed⟩

/-- The document ends in an empty line, which is removed from the buffer behind its back. The
session puts it back once, but not into a buffer that must not be changed. -/
theorem trimmed_repairs_once :
    let session : Session := {
      role := .host, mode := .peerToPeer
      replica := ({ id := 1 } : Replica).setText ['a', '\n', '\n']
      binding := ⟨[['a'], []], .idle, 50⟩
      outbox := ⟨50, none, false, none⟩
      connection := ⟨0, .listen, none, ⟨1, 1, 1⟩, 1, none, .disconnected, 0, false⟩
      startedAt := 0 }
    let trimmed := (Buffer.ofText ['a', '\n', '\n']).replaceSilently ['a']
    let closed := trimmed.setReadOnly true
    let repaired := session.reconcile trimmed 7
    trimmed.lines ≠ [] ∧ trimmed.content = ['a', '\n'] ∧
      repaired.2.content = ['a', '\n', '\n'] ∧ repaired.2.writes = 1 ∧ repaired.1.repairs = 1 ∧
      repaired.1.reconcile repaired.2 8 = repaired ∧ closed.lines ≠ [] ∧
      (session.reconcile closed 7).2.content = ['a', '\n'] ∧
      (session.reconcile closed 7).1.repairs = 0 := by
  intro session trimmed closed repaired
  have nonempty : trimmed.lines ≠ [] := by decide
  have still : closed.lines ≠ [] := nonempty
  have differs : trimmed.content ≠ Text.terminated session.replica.text := by decide
  have document : Text.terminated session.replica.text = ['a', '\n', '\n'] := by decide
  rcases session.reconcile_repairs_once nonempty 7 with ⟨⟨text, _⟩, opened, settled⟩
  rcases session.reconcile_repairs_once still 7 with ⟨_, refused, _⟩
  rcases opened with ⟨same, _⟩ | ⟨_, _, outcome, reached, written, counted, _⟩ | ⟨_, refuses, _⟩
  · exact absurd same differs
  · rcases refused with ⟨same, _⟩ | ⟨_, accepts, _⟩ | ⟨_, _, _, kept, _, uncounted⟩
    · exact absurd same differs
    · cases accepts
    · refine ⟨nonempty, by decide, reached.trans document, written, counted, ?_, still,
        kept.trans (by decide), uncounted⟩
      exact (settled (by simp [outcome]) repaired.1 repaired.2 8 text rfl).2
  · exact absurd rfl refuses

end Session

end Cowrite
