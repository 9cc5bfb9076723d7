import Cowrite.Proofs.Session.Binding
import Cowrite.Proofs.Text.Delta
import Cowrite.Proofs.Text.Lines
import Cowrite.Session.Basic
import Cowrite.Text.Blank

/-!
# When a session writes

A buffer lists the writes that were asked of it. To look at a buffer asks for none
(`Session.requests_observe`), and to show the document asks for some exactly if the buffer shows
something else (`Session.requests_display_of_eq`, `Session.length_requests_display`). Walks that
lead to the document make edits of it, of which the first always reaches the editor.
-/

namespace Cowrite

namespace Walk

/-- Walks that lead to another text begin with an edit of the text that they start from. -/
theorem exists_first_of_replay {base : Text} {walks : List Walk} {edits : List Edit} {text : Text}
    (replayed : replay base walks = some (edits, text)) (moved : text ≠ base) :
    ∃ edit rest, edits = edit :: rest ∧ edit.start ≤ edit.stop ∧
      Text.isBoundary base edit.start = true ∧ Text.isBoundary base edit.stop = true := by
  have along := leadAlong_replay replayed
  cases edits with
  | nil => exact absurd (Eq.symm along) moved
  | cons edit rest =>
      rcases along.1.placed with ⟨forward, _, start, stop, _⟩
      exact ⟨edit, rest, rfl, forward, start, stop⟩

end Walk

namespace Buffer

variable (buffer : Buffer)

theorem requests_replaceContent (text : Text) :
    (buffer.replaceContent text).2.requests = buffer.requests := by
  rw [replaceContent]
  split <;> rfl

theorem requests_replaceRange (start stop : Nat) (text : Text) :
    (buffer.replaceRange start stop text).2.requests = buffer.requests := by
  simp only [replaceRange]
  split
  · rfl
  · split <;> rfl

/-- A write that the editor accepts makes the buffer hold the text. -/
theorem content_writeContent {buffer : Buffer} (accepts : buffer.refusal? = none) (text : Text) :
    (buffer.writeContent text).2.content = Text.terminated text := by
  have still : (buffer.noteRequest (.content text)).refusal? = none := accepts
  rw [writeContent, replaceContent, still]
  exact Text.joinLines_splitLines text

theorem length_requests_writeContent (text : Text) :
    (buffer.writeContent text).2.requests.length = buffer.requests.length + 1 := by
  rw [writeContent, requests_replaceContent]
  simp [noteRequest]

/-- A ranged write is asked for if it stands between boundaries. -/
theorem length_requests_writeRange {start stop : Nat} (ordered : start ≤ stop)
    (startBoundary : Text.isBoundary buffer.content start = true)
    (stopBoundary : Text.isBoundary buffer.content stop = true) (text : Text) :
    (buffer.writeRange start stop text).2.requests.length = buffer.requests.length + 1 := by
  rw [writeRange]
  split
  · rw [requests_replaceRange]
    simp [noteRequest]
  · have inside : stop ≤ Text.byteSize buffer.content := by
      rcases Text.isBoundary_iff.1 stopBoundary with ⟨front, back, whole, size⟩
      rw [whole, Text.byteSize_append]
      omega
    simp only [writeRangeAsContent, Nat.min_eq_left inside, Nat.min_eq_left ordered, startBoundary,
      stopBoundary, Bool.and_self, if_true]
    exact length_requests_writeContent _ _

theorem length_requests_le_writeRange (start stop : Nat) (text : Text) :
    buffer.requests.length ≤ (buffer.writeRange start stop text).2.requests.length := by
  rw [writeRange]
  split
  · rw [requests_replaceRange]
    simp [noteRequest]
  · simp only [writeRangeAsContent]
    split
    · rw [length_requests_writeContent]
      omega
    · exact Nat.le_refl _

end Buffer

namespace Binding

theorem shownText_eq_content {buffer : Buffer} (nonempty : buffer.lines ≠ []) :
    shownText buffer = buffer.content :=
  Text.terminated_joinLines nonempty

variable (binding : Binding) {buffer : Buffer}

theorem length_requests_le_writeEdits (edits : List Edit) (buffer : Buffer) :
    buffer.requests.length ≤ (writeEdits edits buffer).2.requests.length := by
  induction edits generalizing buffer with
  | nil => exact Nat.le_refl _
  | cons edit rest ih =>
      have one := buffer.length_requests_le_writeRange edit.start edit.stop edit.text
      rw [writeEdits]
      rcases result : buffer.writeRange edit.start edit.stop edit.text with ⟨_ | ⟨⟩, written⟩
      · rw [result] at one
        exact one
      · rw [result] at one
        exact Nat.le_trans one (ih written)

theorem length_requests_writeEdits {edit : Edit} (ordered : edit.start ≤ edit.stop)
    (start : Text.isBoundary buffer.content edit.start = true)
    (stop : Text.isBoundary buffer.content edit.stop = true) (rest : List Edit) :
    buffer.requests.length < (writeEdits (edit :: rest) buffer).2.requests.length := by
  have one := buffer.length_requests_writeRange ordered start stop edit.text
  rw [writeEdits]
  rcases result : buffer.writeRange edit.start edit.stop edit.text with ⟨_ | ⟨⟩, written⟩
  · rw [result] at one
    exact Nat.lt_of_succ_le (Nat.le_of_eq one.symm)
  · rw [result] at one
    have others := length_requests_le_writeEdits rest written
    exact Nat.lt_of_lt_of_le (Nat.lt_of_succ_le (Nat.le_of_eq one.symm)) others

theorem requests_observe (buffer : Buffer) (replica : Replica) (now : Nat) :
    (binding.observe buffer replica now).2.2.1.requests = buffer.requests := by
  simp only [observe]
  split
  · rfl
  · split <;> rfl

theorem length_requests_display {text : Text} (differs : shownText buffer ≠ Text.terminated text)
    (now : Nat) :
    buffer.requests.length < (binding.display buffer text now).2.2.requests.length := by
  simp only [display, if_neg differs]
  have asked := buffer.suspend.length_requests_writeContent (Text.terminated text)
  change _ < (buffer.suspend.writeContent (Text.terminated text)).2.requests.length
  rw [asked]
  exact Nat.lt_succ_self _

theorem requests_displayAlong_of_eq {text : Text} (same : shownText buffer = Text.terminated text)
    (walks : List Walk) (now : Nat) :
    (binding.displayAlong buffer walks text now).2.2 = buffer := by
  simp only [displayAlong, if_pos same]

theorem length_requests_displayAlong (nonempty : buffer.lines ≠ []) {text : Text}
    (differs : shownText buffer ≠ Text.terminated text) (walks : List Walk) (now : Nat) :
    buffer.requests.length <
      (binding.displayAlong buffer walks text now).2.2.requests.length := by
  simp only [displayAlong, if_neg differs]
  cases along : editsAlong? walks (shownText buffer) text.terminated with
  | none => exact binding.length_requests_display differs now
  | some edits =>
      have shown := shownText_eq_content nonempty
      have first : ∃ edit rest, edits = edit :: rest ∧ edit.start ≤ edit.stop ∧
          Text.isBoundary buffer.content edit.start = true ∧
          Text.isBoundary buffer.content edit.stop = true := by
        rw [← shown]
        rw [editsAlong?] at along
        rcases replayed : Walk.replay (shownText buffer) walks with _ | ⟨found, patched⟩
        · simp [replayed] at along
        · simp only [replayed, Option.ite_none_right_eq_some, Option.some.injEq] at along
          rcases along with ⟨rfl, rfl⟩
          apply Walk.exists_first_of_replay replayed
          exact fun same => differs same.symm
      rcases first with ⟨edit, rest, rfl, ordered, start, stop⟩
      exact @length_requests_writeEdits buffer.suspend edit ordered start stop rest

end Binding

namespace Session

variable (session : Session) {buffer : Buffer}

theorem requests_observe (buffer : Buffer) (now : Nat) :
    (session.observe buffer now).2.requests = buffer.requests :=
  session.binding.requests_observe buffer session.replica now

theorem lines_observe (buffer : Buffer) (now : Nat) :
    (session.observe buffer now).2.lines = buffer.lines := by
  simp only [observe, Binding.observe]
  split
  · rfl
  · split <;> rfl

theorem requests_display_of_eq
    (same : Binding.shownText buffer = Text.terminated session.replica.text) (now : Nat) :
    (session.display buffer now).2 = buffer :=
  session.binding.requests_displayAlong_of_eq same _ now

theorem length_requests_display (nonempty : buffer.lines ≠ [])
    (differs : Binding.shownText buffer ≠ Text.terminated session.replica.text) (now : Nat) :
    buffer.requests.length < (session.display buffer now).2.requests.length :=
  session.binding.length_requests_displayAlong nonempty differs _ now

end Session

end Cowrite
