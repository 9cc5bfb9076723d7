import Cowrite.Proofs.Session.Bound
import Cowrite.Proofs.Session.Isolation

/-!
# Shadows that are out of date

A buffer may change without a notification, and then the shadow of its binding shows other lines
than the buffer (`Bench.Outdated`). Nothing but such a change brings this about
(`Arises.shadow_eq`), and the next notification that is taken or the next write puts an end to it.

What does not put an end to it is to be asked for the very text that the buffer has come to show:
the answer is that it is shown, and nothing is done, so the shadow stays as it is
(`Arises.shadow_answer_iff`). What is typed next is then told of lines that the buffer did not show,
and is made at a wrong place of the document (`Bench.reformatted_not_shadow_eq`).
-/

namespace Cowrite

namespace Bench

/-- Whether the shadow shows other lines than the buffer. -/
def Outdated (bench : Bench) : Prop :=
  bench.binding.shadow ≠ bench.buffer.lines

instance (bench : Bench) : Decidable bench.Outdated :=
  inferInstanceAs (Decidable (_ ≠ _))

namespace Happening

/-- Whether what happens to a buffer leaves it a buffer that is made of lines. -/
def IsTidy : Happening → Prop
  | .altered buffer => buffer.Tidy
  | _ => True

/-- Whether the lines were changed, or notifications taken away, behind the binding's back since it
last looked at them, given whether it was so before something happens. -/
def unheard (happening : Happening) (bench : Bench) (before : Bool) : Bool :=
  match happening with
  | .altered buffer =>
      before || decide (buffer.lines ≠ bench.buffer.lines ∨ buffer.changes ≠ bench.buffer.changes)
  | .observed _ => before && decide (bench.buffer.changes = [])
  | .asked showing _ => before && decide (Binding.shownText bench.buffer = bench.wanted showing)
  | _ => before

end Happening

/-- The benches that can come about, and whether anything happened behind the binding's back since
it last looked at the lines. -/
inductive Arises : Bench → Bool → Prop where
  | attached {buffer : Buffer} (tidy : buffer.Tidy) (lockout : Nat) (replica : Replica) :
      Arises (attach buffer lockout replica) false
  | happens {bench : Bench} {before : Bool} (arises : Arises bench before) {happening : Happening}
      (tidy : happening.IsTidy) :
      Arises (bench.undergo happening) (happening.unheard bench before)

variable {bench : Bench} {unheard : Bool}

theorem changes_perform_ne_nil (buffer : Buffer) (typing : Typing) :
    (typing.perform buffer).changes ≠ [] := by
  cases typing <;> simp [Typing.perform, Buffer.insertText, Buffer.deleteText, Buffer.setLines]

theorem buffer_observe (bench : Bench) (now : Nat) :
    (bench.observe now).buffer = bench.buffer.takeChanges.2 := by
  simp only [observe, Binding.observe]
  split
  · rfl
  · split <;> rfl

/-- Notifications are taken together with the lines. -/
theorem shadow_observe (noisy : bench.buffer.changes ≠ []) (now : Nat) :
    (bench.observe now).binding.shadow = bench.buffer.lines := by
  cases heard : bench.binding.suppression.suppresses now with
  | true => rw [observe, Binding.observe_of_suppressed _ _ _ _ noisy heard]
  | false => rw [observe, Binding.observe_of_edited _ _ _ _ noisy heard]

theorem tidy_answer (tidy : bench.buffer.Tidy) (showing : Showing) (now : Nat) :
    (bench.answer showing now).2.buffer.Tidy := by
  have displayed (binding : Binding) (text : Text) :
      (binding.display bench.buffer text now).2.2.Tidy := by
    simp only [Binding.display]
    split
    · exact tidy
    · exact (tidy.suspend.writeContent _).of_lines_eq rfl
  cases showing with
  | anew text => exact displayed bench.binding text
  | along walks text =>
      simp only [answer, Binding.displayAlong]
      split
      · exact tidy
      · split
        · exact (Binding.tidy_writeEdits tidy.suspend _).of_lines_eq rfl
        · exact displayed bench.binding text
  | repair =>
      rw [answer]
      by_cases same : Binding.shownText bench.buffer = Text.terminated bench.replica.text
      · rw [bench.binding.reconcile_of_shown now same]
        exact tidy
      · rw [bench.binding.reconcile_of_differs now same]
        exact displayed (bench.binding.lockOut now) (Text.terminated bench.replica.text)

theorem Arises.tidy (arises : bench.Arises unheard) : bench.buffer.Tidy := by
  induction arises with
  | attached tidy lockout replica => exact tidy.of_lines_eq rfl
  | @happens bench before arises happening fits ih =>
      cases happening with
      | typed typing => exact Typing.tidy_perform ih typing
      | altered buffer => exact fits
      | merged replica => exact ih
      | observed now =>
          rw [undergo, buffer_observe]
          exact ih.of_lines_eq rfl
      | asked showing now => exact tidy_answer ih showing now
      | lockedOut now => exact ih

/-- Nothing outdates a shadow but what happens behind the binding's back. -/
theorem Arises.shadow_eq (arises : bench.Arises unheard) (heard : unheard = false)
    (quiet : bench.buffer.changes = []) : bench.binding.shadow = bench.buffer.lines := by
  induction arises with
  | attached tidy lockout replica => rfl
  | @happens bench before arises happening fits ih =>
      cases happening with
      | typed typing => exact absurd quiet (changes_perform_ne_nil bench.buffer typing)
      | altered buffer =>
          simp only [Happening.unheard, Bool.or_eq_false_iff, decide_eq_false_iff_not, not_or,
            not_not] at heard
          rcases heard with ⟨heard, lines, changes⟩
          have same := ih heard (changes.symm.trans quiet)
          exact same.trans lines.symm
      | merged replica => exact ih heard quiet
      | observed now =>
          by_cases silent : bench.buffer.changes = []
          · have same := ih (by simpa [Happening.unheard, silent] using heard) silent
            rw [undergo, observe, Binding.observe_of_quiet _ _ _ _ silent]
            exact same
          · rw [undergo, shadow_observe silent, buffer_observe]
            rfl
      | asked showing now =>
          by_cases shown : Binding.shownText bench.buffer = bench.wanted showing
          · rw [undergo, answer_of_shown shown] at quiet ⊢
            exact ih (by simpa [Happening.unheard, shown] using heard) quiet
          · exact (isolated_answer shown now).2.shadow
      | lockedOut now => exact ih heard quiet

/-- After a text was asked for, the shadow shows the lines of the buffer, unless it was out of date
before and the text is shown already. Then nothing is done at all. A shadow is out of date only if
something happened behind the binding's back, and if it is not, the next edit is what becomes of the
content by typing. -/
theorem Arises.shadow_answer_iff (arises : bench.Arises unheard)
    (quiet : bench.buffer.changes = []) (showing : Showing) (now : Nat) :
    let after := (bench.answer showing now).2
    (after.binding.shadow = after.buffer.lines ↔
        ¬(bench.Outdated ∧ (bench.answer showing now).1 = .shown)) ∧
      ((bench.answer showing now).1 = .shown → after = bench) ∧
      (bench.Outdated → unheard = true) ∧
      (after.binding.shadow = after.buffer.lines → ∀ typings : List Typing,
        (∀ typing ∈ typings, typing.IsPlain) →
          (after.binding.editOf (after.type typings).buffer).Tracks after.buffer.content
            (after.type typings).buffer.content) := by
  intro after
  have silent : after.buffer.changes = [] := by
    by_cases shown : Binding.shownText bench.buffer = bench.wanted showing
    · rw [show after = bench from congrArg Prod.snd (answer_of_shown shown)]
      exact quiet
    · exact (isolated_answer shown now).2.quiet
  refine ⟨?_, ?_, ?_, ?_⟩
  · rw [answer_eq_shown_iff]
    by_cases shown : Binding.shownText bench.buffer = bench.wanted showing
    · rw [show after = bench from congrArg Prod.snd (answer_of_shown shown)]
      simp [Outdated, shown]
    · have shadow : after.binding.shadow = after.buffer.lines :=
        (isolated_answer shown now).2.shadow
      simp [shadow, shown]
  · intro shown
    exact congrArg Prod.snd (answer_of_shown (answer_eq_shown_iff.1 shown))
  · intro outdated
    by_contra heard
    exact outdated (arises.shadow_eq (eq_false_of_ne_true heard) quiet)
  · intro shadow typings plain
    have tidy : after.buffer.Tidy := tidy_answer arises.tidy showing now
    have knows : after.binding.Knows after.buffer :=
      Binding.knows_of_shadow_eq tidy silent shadow
    rw [Buffer.content, ← shadow]
    exact (Buffer.Typed.foldl knows plain).tracks (shadow ▸ tidy.nonempty) rfl

/-- A buffer with two letters, in which a formatter has left another one. -/
def reformatted : Bench :=
  (attach (Buffer.ofText ['a', 'a']) 50 (Replica.edit { id := 1 } ⟨0, 0, ['b', '\n']⟩)).undergo
    (.altered ((Buffer.ofText ['a', 'a']).replaceSilently ['b']))

theorem arises_reformatted : reformatted.Arises true :=
  .happens (.attached ⟨by decide, by decide⟩ 50 _) ⟨by decide, by decide⟩

/-- Another text is asked for, and the shadow is what the buffer shows then. -/
theorem reformatted_shadow_eq :
    reformatted.Arises true ∧ reformatted.buffer.changes = [] ∧ reformatted.Outdated ∧
      (reformatted.answer (.anew ['c']) 0).1 = .wrote ∧
      (reformatted.answer (.anew ['c']) 0).2.binding.shadow =
        (reformatted.answer (.anew ['c']) 0).2.buffer.lines := by
  have wrote : (reformatted.answer (.anew ['c']) 0).1 = .wrote := by decide
  refine ⟨arises_reformatted, rfl, by decide, wrote, ?_⟩
  apply (arises_reformatted.shadow_answer_iff rfl (.anew ['c']) 0).1.2
  rintro ⟨_, shown⟩
  rw [wrote] at shown
  cases shown

/-- The document is asked for, which the formatter has brought about already. It is answered that it
is shown, but the shadow still has the two letters, and what is typed next takes the line separator
out of the document. -/
theorem reformatted_not_shadow_eq :
    let after := (reformatted.answer .repair 0).2
    let typed := (after.undergo (.typed (.insertText 0 0 ['x']))).observe 10
    reformatted.Arises true ∧ reformatted.buffer.changes = [] ∧
      (reformatted.answer .repair 0).1 = .shown ∧
      after.binding.shadow = [['a', 'a']] ∧ after.buffer.lines = [['b']] ∧
      after.replica.text = ['b', '\n'] ∧
      typed.buffer.lines = [['x', 'b']] ∧ typed.replica.text = ['x', 'b'] := by
  refine ⟨arises_reformatted, rfl, ?_⟩
  decide

end Bench

end Cowrite
