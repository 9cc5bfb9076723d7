import Cowrite.Proofs.Session.Writing

/-!
# Walks replayed on a buffer

The walks that updates have left behind are tried on a plain text first. If they lead to the text
that is to be shown, they are replayed on the buffer, which puts its final separator back whenever a
write has removed it. As long as every text on the way ends in a separator, buffer and text go
together. But where a text on the way lacks the separator, the buffer is one separator ahead of it
from there on, as the edits that follow are made in front of it (`Binding.writeEdits_of_ahead`). So
a replay shows the text exactly if no text on its way lacks the final separator
(`Binding.writeEdits_of_leadAlong`), and otherwise there is an empty line at the end.

To replace the whole content always shows the text, so the two ways of showing a text agree unless
the walks stray from the texts that a buffer can hold (`Binding.displayAlong_agrees_iff`).
-/

namespace Cowrite

namespace Buffer

/-- Whether a buffer that can be written to holds a text. -/
structure Holds (buffer : Buffer) (text : Text) : Prop where
  content_eq : buffer.content = text
  accepts : buffer.refusal? = none

variable {buffer : Buffer}

theorem Holds.writeContent {held : Text} (holds : buffer.Holds held) (text : Text) :
    ∃ after, buffer.writeContent text = (.ok (), after) ∧ after.Holds (Text.terminated text) := by
  have still : (buffer.noteRequest (.content text)).refusal? = none := holds.accepts
  rw [Buffer.writeContent, replaceContent, still]
  exact ⟨_, rfl, Text.joinLines_splitLines text, still⟩

/-- A ranged write between boundaries makes the buffer hold the new text in its terminated form,
whether the editor can write ranges or not. -/
theorem Holds.writeRange {old new : Text} {edit : Edit} (holds : buffer.Holds old)
    (leads : edit.Leads old new) :
    ∃ after, buffer.writeRange edit.start edit.stop edit.text = (.ok (), after) ∧
      after.Holds (Text.terminated new) := by
  rcases leads.placed with ⟨forward, inside, start, stop, spliced⟩
  rw [← holds.content_eq] at inside start stop spliced
  rw [Buffer.writeRange]
  split
  · have still : (buffer.noteRequest (.range edit.start edit.stop edit.text)).refusal? = none :=
      holds.accepts
    have same : (buffer.noteRequest (.range edit.start edit.stop edit.text)).content =
      buffer.content := rfl
    simp only [replaceRange, still, same, Nat.min_eq_left inside, Nat.min_eq_left forward, start,
      stop, Bool.and_self, if_true, spliced]
    exact ⟨_, rfl, Text.joinLines_splitLines new, still⟩
  · simp only [writeRangeAsContent, Nat.min_eq_left inside, Nat.min_eq_left forward, start, stop,
      Bool.and_self, if_true, spliced]
    exact holds.writeContent new

end Buffer

namespace Binding

variable {binding : Binding} {buffer : Buffer} {edits : List Edit}

/-- A buffer that is a separator ahead of the text stays so. -/
theorem writeEdits_of_ahead {text target : Text} (along : Edit.LeadAlong edits text target)
    (holds : buffer.Holds (text ++ ['\n'])) :
    ∃ after, writeEdits edits buffer = (.ok (), after) ∧ after.Holds (target ++ ['\n']) := by
  induction edits generalizing text buffer with
  | nil =>
      cases along
      exact ⟨buffer, rfl, holds⟩
  | cons edit rest ih =>
      rcases holds.writeRange (along.1.append ['\n']) with ⟨next, wrote, holdsNext⟩
      rw [Text.terminated_of_ends] at holdsNext
      rw [writeEdits, wrote]
      exact ih along.2 holdsNext

/-- Edits that are told of a text lead a buffer that holds the text to the same end, unless one of
them leaves a text without the final separator. -/
theorem writeEdits_of_leadAlong {text target : Text} (along : Edit.LeadAlong edits text target)
    (holds : buffer.Holds text) :
    ∃ after, writeEdits edits buffer = (.ok (), after) ∧
      after.Holds (if ∀ between ∈ Edit.textsAlong edits text, Text.terminated between = between
        then target else target ++ ['\n']) := by
  induction edits generalizing text buffer with
  | nil =>
      cases along
      refine ⟨buffer, rfl, ?_⟩
      rw [if_pos (by simp [Edit.textsAlong])]
      exact holds
  | cons edit rest ih =>
      rcases holds.writeRange along.1 with ⟨next, wrote, holdsNext⟩
      rw [writeEdits, wrote]
      simp only [Edit.textsAlong, List.forall_mem_cons]
      by_cases ends : Text.terminated (edit.applyTo text) = edit.applyTo text
      · rw [ends] at holdsNext
        simp only [ends, true_and]
        exact ih along.2 holdsNext
      · have ahead := (Text.eq_or_of_terminated_eq rfl).resolve_left (Ne.symm ends)
        rw [ahead.2] at holdsNext
        rw [if_neg fun all => ends all.1]
        exact writeEdits_of_ahead along.2 holdsNext

/-! ## Showing a text -/

/-- The texts that walks pass on the way from what a buffer shows to a text, if they lead there. -/
def textsPassed (buffer : Buffer) (walks : List Walk) (text : Text) : List Text :=
  match editsAlong? walks (shownText buffer) (Text.terminated text) with
  | some edits => Edit.textsAlong edits (shownText buffer)
  | none => []

/-- Whether a buffer has to be changed to show a text, and walks lead there by way of a text that no
buffer can hold, as it lacks the final separator. -/
def Strays (buffer : Buffer) (walks : List Walk) (text : Text) : Prop :=
  shownText buffer ≠ Text.terminated text ∧
    ∃ between ∈ textsPassed buffer walks text, Text.terminated between ≠ between

instance (buffer : Buffer) (walks : List Walk) (text : Text) :
    Decidable (Strays buffer walks text) :=
  inferInstanceAs (Decidable (_ ∧ _))

variable {walks : List Walk} {text : Text}

theorem holds_shownText (nonempty : buffer.lines ≠ []) (accepts : buffer.refusal? = none) :
    buffer.Holds (shownText buffer) :=
  ⟨(shownText_eq_content nonempty).symm, accepts⟩

theorem leadAlong_editsAlong {current target : Text}
    (found : editsAlong? walks current target = some edits) :
    Edit.LeadAlong edits current target := by
  rw [editsAlong?] at found
  rcases replayed : Walk.replay current walks with _ | ⟨along, patched⟩
  · simp [replayed] at found
  · simp only [replayed, Option.ite_none_right_eq_some, Option.some.injEq] at found
    rcases found with ⟨rfl, rfl⟩
    exact Walk.leadAlong_replay replayed

/-- What a write under guard leaves in the buffer is what the write left. -/
theorem holds_guardedly (binding : Binding) {held : Text}
    (write : Buffer → Except WriteError Unit × Buffer) {after : Buffer}
    (wrote : write buffer.suspend = (.ok (), after)) (holds : after.Holds held) (now : Nat) :
    (binding.guardedly buffer now write).1 = .ok () ∧
      (binding.guardedly buffer now write).2.2.Holds held := by
  rw [guardedly, wrote]
  exact ⟨rfl, holds.content_eq, holds.accepts⟩

/-- To replace the content shows any text. -/
theorem display_shows (nonempty : buffer.lines ≠ []) (accepts : buffer.refusal? = none)
    (binding : Binding) (text : Text) (now : Nat) :
    (binding.display buffer text now).1 = .ok (shownText buffer != Text.terminated text) ∧
      (binding.display buffer text now).2.2.Holds (Text.terminated text) := by
  have shown := holds_shownText nonempty accepts
  simp only [display]
  by_cases same : shownText buffer = Text.terminated text
  · rw [if_pos same, same, bne_self_eq_false]
    exact ⟨rfl, same ▸ shown⟩
  · have suspended : buffer.suspend.Holds (shownText buffer) := ⟨shown.content_eq, accepts⟩
    rcases suspended.writeContent (Text.terminated text) with ⟨after, wrote, holds⟩
    rw [Text.terminated_terminated] at holds
    rcases binding.holds_guardedly (·.writeContent _) wrote holds now with ⟨done, written⟩
    rw [if_neg same, done]
    exact ⟨by simp [didWrite, same], written⟩

/-- To replay walks shows a text, or the text and an empty line. -/
theorem displayAlong_shows (nonempty : buffer.lines ≠ []) (accepts : buffer.refusal? = none)
    (binding : Binding) (walks : List Walk) (text : Text) (now : Nat) :
    (binding.displayAlong buffer walks text now).1 =
        .ok (shownText buffer != Text.terminated text) ∧
      (binding.displayAlong buffer walks text now).2.2.Holds
        (if Strays buffer walks text then Text.terminated text ++ ['\n']
          else Text.terminated text) := by
  have shown := holds_shownText nonempty accepts
  simp only [displayAlong]
  by_cases same : shownText buffer = Text.terminated text
  · rw [if_pos same, same, bne_self_eq_false, if_neg fun strays => strays.1 same]
    exact ⟨rfl, same ▸ shown⟩
  · rw [if_neg same]
    cases found : editsAlong? walks (shownText buffer) (Text.terminated text) with
    | none =>
        have straight : ¬Strays buffer walks text := by
          simp [Strays, textsPassed, found]
        rw [if_neg straight]
        exact display_shows nonempty accepts binding text now
    | some edits =>
        have suspended : buffer.suspend.Holds (shownText buffer) := ⟨shown.content_eq, accepts⟩
        rcases writeEdits_of_leadAlong (leadAlong_editsAlong found) suspended with
          ⟨after, wrote, holds⟩
        rcases binding.holds_guardedly (writeEdits edits) wrote holds now with ⟨done, written⟩
        have strays : Strays buffer walks text ↔
            ¬∀ between ∈ Edit.textsAlong edits (shownText buffer),
              Text.terminated between = between := by
          simp [Strays, textsPassed, found, same]
        simp only [done, strays, ite_not]
        refine ⟨by simp [didWrite, same], ?_⟩
        exact written

/-- Both ways to show a text, by replaying walks and by replacing the content, write if and only if
something else is shown. They leave the same content, the text in its terminated form, exactly if
the walks do not stray; if they do, an empty line is left at the end. -/
theorem displayAlong_agrees_iff (nonempty : buffer.lines ≠ []) (accepts : buffer.refusal? = none)
    (binding : Binding) (walks : List Walk) (text : Text) (now : Nat) :
    let along := binding.displayAlong buffer walks text now
    let anew := binding.display buffer text now
    along.1 = .ok (shownText buffer != Text.terminated text) ∧ along.1 = anew.1 ∧
      anew.2.2.content = Text.terminated text ∧
      (along.2.2.content = Text.terminated text ∧ along.2.2.content = anew.2.2.content ↔
        ¬Strays buffer walks text) ∧
      (Strays buffer walks text → along.2.2.content = Text.terminated text ++ ['\n']) := by
  intro along anew
  rcases display_shows nonempty accepts binding text now with ⟨wrote, shows⟩
  rcases displayAlong_shows nonempty accepts binding walks text now with ⟨wroteAlong, holds⟩
  refine ⟨wroteAlong, wroteAlong.trans wrote.symm, shows.content_eq, ?_, ?_⟩
  · rw [show anew.2.2.content = Text.terminated text from shows.content_eq, and_self,
      show along.2.2.content = _ from holds.content_eq]
    split <;> simp_all
  · intro strays
    rw [show along.2.2.content = _ from holds.content_eq, if_pos strays]

/-- Two letters are typed, the second one before the first. -/
theorem typed_agrees :
    let buffer := Buffer.ofText ['a']
    let walks : List Walk := [[.retain 1, .insert ['c']], [.retain 1, .insert ['b']]]
    let binding : Binding := { shadow := buffer.lines, lockout := 50 }
    buffer.lines ≠ [] ∧ buffer.refusal? = none ∧
      (binding.displayAlong buffer walks ['a', 'b', 'c'] 0).1 = .ok true ∧
      (binding.displayAlong buffer walks ['a', 'b', 'c'] 0).2.2.content =
        Text.terminated ['a', 'b', 'c'] ∧
      (binding.displayAlong buffer walks ['a', 'b', 'c'] 0).2.2.content =
        (binding.display buffer ['a', 'b', 'c'] 0).2.2.content := by
  intro buffer walks binding
  have nonempty : buffer.lines ≠ [] := by decide
  have accepts : buffer.refusal? = none := rfl
  have differs : (shownText buffer != Text.terminated ['a', 'b', 'c']) = true := by decide
  have straight : ¬Strays buffer walks ['a', 'b', 'c'] := by decide
  rcases displayAlong_agrees_iff nonempty accepts binding walks ['a', 'b', 'c'] 0 with
    ⟨wrote, _, _, agrees, _⟩
  rw [differs] at wrote
  exact ⟨nonempty, accepts, wrote, agrees.2 straight⟩

/-- The whole text is deleted, the final separator included, and then a line is written anew. -/
theorem emptied_not_agrees :
    let buffer := Buffer.ofText ['a']
    let walks := [Walk.between ['a', '\n'] [], Walk.between [] ['b', '\n']]
    let binding : Binding := { shadow := buffer.lines, lockout := 50 }
    buffer.refusal? = none ∧
      (binding.displayAlong buffer walks ['b', '\n'] 0).1 = .ok true ∧
      (binding.displayAlong buffer walks ['b', '\n'] 0).2.2.content = ['b', '\n', '\n'] ∧
      (binding.displayAlong buffer walks ['b', '\n'] 0).2.2.content ≠
        Text.terminated ['b', '\n'] ∧
      (binding.display buffer ['b', '\n'] 0).2.2.content = Text.terminated ['b', '\n'] := by
  decide

end Binding

end Cowrite
