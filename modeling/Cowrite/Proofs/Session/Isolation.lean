import Cowrite.Proofs.Session.InStep
import Cowrite.Proofs.Session.Replaying

/-!
# Writes that are not taken for typing

A binding is asked in three ways to make its buffer show a text: by replacing the content, along
walks, or as a repair that shows the document (`Bench.Showing`). If something else was shown, the
answer is that it wrote or that it was refused, and either way it leaves no trace that could be
taken for typing (`Bench.Isolated`): what was written was written under suspension, automatic
processing is as it was, no notification is left, the shadow is what is shown, and notifications are
locked out for a while from now on. A refused write leaves the content as it was.

The lockout ends by itself. Until then no notification reaches the document whatever becomes of the
buffer, and from then on all do, unless the session writes again
(`Bench.answer_isolated`).
-/

namespace Cowrite

/-! ## Writing under suspension -/

namespace Buffer

variable {buffer between after : Buffer}

/-- Whether all that was written between two states of a buffer was counted as written under
suspension, and there are as many suspensions as before. -/
structure Under (buffer after : Buffer) : Prop where
  suspensions : after.suspensions = buffer.suspensions
  counted : ∃ count, after.writes = buffer.writes + count ∧
    after.suspendedWrites = buffer.suspendedWrites + count

theorem Under.refl (buffer : Buffer) : buffer.Under buffer :=
  ⟨rfl, 0, rfl, rfl⟩

theorem Under.trans (first : buffer.Under between) (second : between.Under after) :
    buffer.Under after := by
  rcases first with ⟨suspensions, count, writes, suspended⟩
  rcases second with ⟨suspensions', count', writes', suspended'⟩
  refine ⟨suspensions'.trans suspensions, count + count', ?_, ?_⟩
  · rw [writes', writes, Nat.add_assoc]
  · rw [suspended', suspended, Nat.add_assoc]

theorem Under.isSuspended (under : buffer.Under after) (suspended : buffer.isSuspended = true) :
    after.isSuspended = true := by
  rw [Buffer.isSuspended, under.suspensions]
  exact suspended

theorem under_carryOut (suspended : buffer.isSuspended = true) (lines : List Text)
    (change : LineChange) : buffer.Under (buffer.carryOut lines change) := by
  refine ⟨rfl, 1, rfl, ?_⟩
  rw [carryOut, suspended]
  rfl

theorem under_writeContent (suspended : buffer.isSuspended = true) (text : Text) :
    buffer.Under (buffer.writeContent text).2 := by
  have noted : buffer.Under (buffer.noteRequest (.content text)) := ⟨rfl, 0, rfl, rfl⟩
  rw [writeContent, replaceContent]
  split
  · exact noted
  · exact noted.trans (under_carryOut (noted.isSuspended suspended) _ _)

theorem under_writeRange (suspended : buffer.isSuspended = true) (start stop : Nat) (text : Text) :
    buffer.Under (buffer.writeRange start stop text).2 := by
  have noted : buffer.Under (buffer.noteRequest (.range start stop text)) := ⟨rfl, 0, rfl, rfl⟩
  rw [writeRange]
  split
  · simp only [replaceRange]
    split
    · exact noted
    · split
      · exact noted.trans (under_carryOut (noted.isSuspended suspended) _ _)
      · exact noted
  · simp only [writeRangeAsContent]
    split
    · exact under_writeContent suspended _
    · exact .refl buffer

theorem isSuspended_suspend (buffer : Buffer) : buffer.suspend.isSuspended = true := by
  simp [isSuspended, suspend]

/-- An editor that refuses writes leaves the lines as they are. -/
theorem exists_writeContent_of_refusal (refuses : buffer.refusal? ≠ none) (text : Text) :
    ∃ error after, buffer.writeContent text = (.error error, after) ∧
      after.lines = buffer.lines := by
  rcases Option.ne_none_iff_exists'.1 refuses with ⟨error, found⟩
  have still : (buffer.noteRequest (.content text)).refusal? = some error := found
  rw [writeContent, replaceContent, still]
  exact ⟨_, _, rfl, rfl⟩

theorem exists_writeRange_of_refusal (refuses : buffer.refusal? ≠ none) (start stop : Nat)
    (text : Text) :
    ∃ error after, buffer.writeRange start stop text = (.error error, after) ∧
      after.lines = buffer.lines := by
  rw [writeRange]
  split
  · rcases Option.ne_none_iff_exists'.1 refuses with ⟨error, found⟩
    have still : (buffer.noteRequest (.range start stop text)).refusal? = some error := found
    rw [replaceRange, still]
    exact ⟨_, _, rfl, rfl⟩
  · simp only [writeRangeAsContent]
    split
    · exact exists_writeContent_of_refusal refuses _
    · exact ⟨_, _, rfl, rfl⟩

end Buffer

namespace Binding

variable {binding : Binding} {buffer : Buffer}

theorem under_writeEdits (suspended : buffer.isSuspended = true) (edits : List Edit) :
    buffer.Under (writeEdits edits buffer).2 := by
  induction edits generalizing buffer with
  | nil => exact .refl buffer
  | cons edit rest ih =>
      have one := Buffer.under_writeRange suspended edit.start edit.stop edit.text
      rw [writeEdits]
      rcases result : buffer.writeRange edit.start edit.stop edit.text with ⟨_ | ⟨⟩, later⟩
      · rw [result] at one
        exact one
      · rw [result] at one
        exact one.trans (ih (one.isSuspended suspended))

theorem lines_writeEdits_of_refusal (refuses : buffer.refusal? ≠ none) (edits : List Edit) :
    (writeEdits edits buffer).2.lines = buffer.lines := by
  cases edits with
  | nil => rfl
  | cons edit rest =>
      rcases Buffer.exists_writeRange_of_refusal refuses edit.start edit.stop edit.text with
        ⟨error, after, failed, lines⟩
      rw [writeEdits, failed]
      exact lines

end Binding

/-! ## Asking for a text to be shown -/

namespace Bench

/-- How a binding is asked to make its buffer show a text. -/
inductive Showing where
  /-- By replacing the content. -/
  | anew (text : Text)
  /-- Along walks that lead to the text. -/
  | along (walks : List Walk) (text : Text)
  /-- As a repair, which shows the document. -/
  | repair

/-- What is answered to that. -/
inductive Answer where
  /-- The text is shown already. -/
  | shown
  | wrote
  /-- The editor refused a write. -/
  | refused
  deriving DecidableEq

namespace Answer

def ofResult : Except WriteError Bool → Answer
  | .ok true => .wrote
  | .ok false => .shown
  | .error _ => .refused

def ofReconciliation : Reconciliation → Answer
  | .inSync => .shown
  | .repaired => .wrote
  | .failed => .refused

end Answer

/-- Ask for a text to be shown. -/
def answer (bench : Bench) (showing : Showing) (now : Nat) : Answer × Bench :=
  match showing with
  | .anew text =>
      let (result, binding, buffer) := bench.binding.display bench.buffer text now
      (.ofResult result, { bench with binding, buffer })
  | .along walks text =>
      let (result, binding, buffer) := bench.binding.displayAlong bench.buffer walks text now
      (.ofResult result, { bench with binding, buffer })
  | .repair =>
      let (outcome, binding, buffer, replica) :=
        bench.binding.reconcile bench.buffer bench.replica now
      (.ofReconciliation outcome, { binding, buffer, replica })

/-- The text that is asked for, in the form in which texts are compared. -/
def wanted (bench : Bench) : Showing → Text
  | .anew text => Text.terminated text
  | .along _ text => Text.terminated text
  | .repair => Text.terminated bench.replica.text

/-- Whether a write left no trace that could be taken for typing, and locks notifications out for a
while from a time on. -/
structure Isolated (bench after : Bench) (now : Nat) : Prop where
  under : bench.buffer.Under after.buffer
  quiet : after.buffer.changes = []
  shadow : after.binding.shadow = after.buffer.lines
  locked : after.binding.suppression = .lockedUntil (now + bench.binding.lockout)
  lockout : after.binding.lockout = bench.binding.lockout
  refused : bench.buffer.refusal? ≠ none → after.buffer.lines = bench.buffer.lines

section Writing

variable {buffer : Buffer} (binding : Binding) (replica : Replica) (now : Nat)

theorem isolated_guardedly (write : Buffer → Except WriteError Unit × Buffer)
    (under : buffer.suspend.Under (write buffer.suspend).2)
    (refused : buffer.refusal? ≠ none → (write buffer.suspend).2.lines = buffer.lines) :
    Isolated ⟨binding, buffer, replica⟩
      ⟨(binding.guardedly buffer now write).2.1, (binding.guardedly buffer now write).2.2,
        replica⟩
      now := by
  refine ⟨⟨?_, under.counted⟩, rfl, rfl, rfl, rfl, refused⟩
  have suspensions := under.suspensions
  change (write buffer.suspend).2.suspensions - 1 = buffer.suspensions
  rw [suspensions]
  rfl

theorem didWrite_ne (result : Except WriteError Unit) : Binding.didWrite result ≠ .ok false := by
  rcases result with error | ⟨⟩ <;> simp [Binding.didWrite]

theorem isolated_display {text : Text}
    (differs : Binding.shownText buffer ≠ Text.terminated text) :
    (binding.display buffer text now).1 ≠ .ok false ∧
      Isolated ⟨binding, buffer, replica⟩
        ⟨(binding.display buffer text now).2.1, (binding.display buffer text now).2.2, replica⟩
        now := by
  simp only [Binding.display, if_neg differs]
  refine ⟨didWrite_ne _, isolated_guardedly binding replica now (·.writeContent _)
    (Buffer.under_writeContent buffer.isSuspended_suspend _) ?_⟩
  intro refuses
  have still : buffer.suspend.refusal? ≠ none := refuses
  rcases Buffer.exists_writeContent_of_refusal still (Text.terminated text) with
    ⟨error, after, failed, lines⟩
  rw [failed]
  exact lines

theorem isolated_displayAlong {text : Text}
    (differs : Binding.shownText buffer ≠ Text.terminated text) (walks : List Walk) :
    (binding.displayAlong buffer walks text now).1 ≠ .ok false ∧
      Isolated ⟨binding, buffer, replica⟩
        ⟨(binding.displayAlong buffer walks text now).2.1,
          (binding.displayAlong buffer walks text now).2.2, replica⟩
        now := by
  simp only [Binding.displayAlong, if_neg differs]
  split
  · refine ⟨didWrite_ne _, isolated_guardedly binding replica now (Binding.writeEdits _)
      (Binding.under_writeEdits buffer.isSuspended_suspend _) ?_⟩
    intro refuses
    have still : buffer.suspend.refusal? ≠ none := refuses
    exact Binding.lines_writeEdits_of_refusal still _
  · exact isolated_display binding replica now differs

end Writing

variable {bench : Bench} {showing : Showing} {now : Nat}

theorem ofResult_ne_shown {result : Except WriteError Bool} (wrote : result ≠ .ok false) :
    Answer.ofResult result ≠ .shown := by
  rcases result with error | _ | _
  · simp [Answer.ofResult]
  · exact absurd rfl wrote
  · simp [Answer.ofResult]

theorem ofResult_ne_refused (written : Bool) : Answer.ofResult (.ok written) ≠ .refused := by
  cases written <;> simp [Answer.ofResult]

theorem ofReconciliation_ofResult_ne_shown (result : Except WriteError Bool) :
    Answer.ofReconciliation (.ofResult result) ≠ .shown := by
  cases result <;> simp [Reconciliation.ofResult, Answer.ofReconciliation]

/-- If the text is shown, nothing is done. -/
theorem answer_of_shown (same : Binding.shownText bench.buffer = bench.wanted showing) :
    bench.answer showing now = (.shown, bench) := by
  cases showing with
  | anew text =>
      have shown : Binding.shownText bench.buffer = Text.terminated text := same
      simp only [answer, Binding.display, if_pos shown]
      rfl
  | along walks text =>
      have shown : Binding.shownText bench.buffer = Text.terminated text := same
      simp only [answer, Binding.displayAlong, if_pos shown]
      rfl
  | repair =>
      rw [answer, bench.binding.reconcile_of_shown now same]
      rfl

/-- If it is not, the buffer is written to in isolation. -/
theorem isolated_answer (differs : Binding.shownText bench.buffer ≠ bench.wanted showing)
    (now : Nat) :
    (bench.answer showing now).1 ≠ .shown ∧
      bench.Isolated (bench.answer showing now).2 now := by
  cases showing with
  | anew text =>
      rcases isolated_display bench.binding bench.replica now differs with ⟨wrote, isolated⟩
      exact ⟨ofResult_ne_shown wrote, isolated⟩
  | along walks text =>
      rcases isolated_displayAlong bench.binding bench.replica now differs walks with
        ⟨wrote, isolated⟩
      exact ⟨ofResult_ne_shown wrote, isolated⟩
  | repair =>
      have still : Binding.shownText bench.buffer ≠
          Text.terminated (Text.terminated bench.replica.text) := by
        rw [Text.terminated_terminated]
        exact differs
      rcases (isolated_display (bench.binding.lockOut now) bench.replica.clearWalks now still).2
        with ⟨under, quiet, shadow, locked, lockout, refused⟩
      rw [answer, bench.binding.reconcile_of_differs now differs]
      exact ⟨ofReconciliation_ofResult_ne_shown _, under, quiet, shadow, locked, lockout, refused⟩

theorem answer_eq_shown_iff :
    (bench.answer showing now).1 = .shown ↔
      Binding.shownText bench.buffer = bench.wanted showing := by
  constructor
  · intro shown
    by_contra differs
    exact (isolated_answer differs now).1 shown
  · intro same
    rw [answer_of_shown same]

/-- Only an editor that refuses writes refuses one. -/
theorem refusal_of_answer_eq_refused (nonempty : bench.buffer.lines ≠ [])
    (refused : (bench.answer showing now).1 = .refused) : bench.buffer.refusal? ≠ none := by
  intro accepts
  cases showing with
  | anew text =>
      have wrote := (Binding.display_shows nonempty accepts bench.binding text now).1
      simp only [answer, wrote] at refused
      exact ofResult_ne_refused _ refused
  | along walks text =>
      have wrote := (Binding.displayAlong_shows nonempty accepts bench.binding walks text now).1
      simp only [answer, wrote] at refused
      exact ofResult_ne_refused _ refused
  | repair =>
      have wrote := (Binding.display_shows nonempty accepts (bench.binding.lockOut now)
        (Text.terminated bench.replica.text) now).1
      rw [answer] at refused
      by_cases same : Binding.shownText bench.buffer = Text.terminated bench.replica.text
      · rw [bench.binding.reconcile_of_shown now same] at refused
        cases refused
      · rw [bench.binding.reconcile_of_differs now same, wrote] at refused
        cases refused

/-! ## What happens afterwards -/

/-- What happens at a bench. -/
inductive Happening where
  | typed (typing : Typing)
  /-- Anything else becomes of the buffer. -/
  | altered (buffer : Buffer)
  /-- Anything becomes of the document. -/
  | merged (replica : Replica)
  | observed (now : Nat)
  | asked (showing : Showing) (now : Nat)
  | lockedOut (now : Nat)

namespace Happening

/-- Whether notifications are locked out from then on. -/
def Locks : Happening → Prop
  | .asked _ _ => True
  | .lockedOut _ => True
  | _ => False

/-- Whether notifications are locked out from an earlier time on. -/
def LocksBefore (happening : Happening) (start : Nat) : Prop :=
  match happening with
  | .asked _ now => now < start
  | .lockedOut now => now < start
  | _ => False

end Happening

/-- Bind a buffer to a document. -/
def attach (buffer : Buffer) (lockout : Nat) (replica : Replica) : Bench :=
  let (binding, buffer) := Binding.attach buffer lockout
  { binding, buffer, replica }

def undergo (bench : Bench) : Happening → Bench
  | .typed typing => { bench with buffer := typing.perform bench.buffer }
  | .altered buffer => { bench with buffer }
  | .merged replica => { bench with replica }
  | .observed now => bench.observe now
  | .asked showing now => (bench.answer showing now).2
  | .lockedOut now => { bench with binding := bench.binding.lockOut now }

def undergoAll (bench : Bench) (happenings : List Happening) : Bench :=
  happenings.foldl undergo bench

/-- Whether notifications that are taken at a time leave the document as it is. -/
structure Ignores (bench : Bench) (time : Nat) : Prop where
  outcome : (bench.binding.observe bench.buffer bench.replica time).1 ≠ .edited
  replica : (bench.observe time).replica = bench.replica

/-- Whether notifications that are taken at a time become an edit of the document. -/
structure Heeds (bench : Bench) (time : Nat) : Prop where
  outcome : (bench.binding.observe bench.buffer bench.replica time).1 = .edited
  replica : (bench.observe time).replica =
    if (bench.binding.editOf bench.buffer).isNoop then bench.replica
    else bench.replica.edit (bench.binding.editOf bench.buffer)

theorem ignores_of_suppresses {time : Nat}
    (suppressed : bench.binding.suppression.suppresses time = true) : bench.Ignores time := by
  by_cases quiet : bench.buffer.changes = []
  · have taken := bench.binding.observe_of_quiet bench.buffer bench.replica time quiet
    refine ⟨by simp [taken], ?_⟩
    rw [observe, taken]
  · have taken :=
      bench.binding.observe_of_suppressed bench.buffer bench.replica time quiet suppressed
    refine ⟨by simp [taken], ?_⟩
    rw [observe, taken]

theorem heeds_of_not_suppresses {time : Nat} (noisy : bench.buffer.changes ≠ [])
    (heard : bench.binding.suppression.suppresses time = false) : bench.Heeds time := by
  have taken := bench.binding.observe_of_edited bench.buffer bench.replica time noisy heard
  refine ⟨by rw [taken], ?_⟩
  rw [observe, taken]

/-- To take notifications renews at most the shadow. -/
theorem exists_shadow_observe (bench : Bench) (now : Nat) :
    ∃ shadow, (bench.observe now).binding = { bench.binding with shadow } := by
  simp only [observe, Binding.observe]
  split
  · exact ⟨bench.binding.shadow, rfl⟩
  · split <;> exact ⟨bench.buffer.lines, rfl⟩

/-! ### Until the lockout ends -/

/-- Whether a binding locks notifications out until a time, or longer. -/
structure LockedTo (bench : Bench) (start lockout : Nat) : Prop where
  lockout_eq : bench.binding.lockout = lockout
  locked : ∃ limit, bench.binding.suppression = .lockedUntil limit ∧ start + lockout ≤ limit

variable {start lockout : Nat}

theorem LockedTo.ignores (lockedTo : bench.LockedTo start lockout) {time : Nat}
    (early : time < start + lockout) : bench.Ignores time := by
  rcases lockedTo.locked with ⟨limit, locked, late⟩
  apply ignores_of_suppresses
  rw [locked]
  exact decide_eq_true (Nat.lt_of_lt_of_le early late)

/-- Whatever happens, a lockout is not shortened. -/
theorem LockedTo.undergo (lockedTo : bench.LockedTo start lockout) {happening : Happening}
    (timely : ¬happening.LocksBefore start) : (bench.undergo happening).LockedTo start lockout := by
  rcases lockedTo with ⟨rfl, limit, locked, late⟩
  cases happening with
  | typed typing => exact ⟨rfl, limit, locked, late⟩
  | altered buffer => exact ⟨rfl, limit, locked, late⟩
  | merged replica => exact ⟨rfl, limit, locked, late⟩
  | observed now =>
      rcases bench.exists_shadow_observe now with ⟨shadow, same⟩
      refine ⟨?_, limit, ?_, late⟩
      · rw [Bench.undergo, same]
      · rw [Bench.undergo, same]
        exact locked
  | asked showing now =>
      have later : start ≤ now := Nat.le_of_not_lt timely
      by_cases same : Binding.shownText bench.buffer = bench.wanted showing
      · rw [Bench.undergo, answer_of_shown same]
        exact ⟨rfl, limit, locked, late⟩
      · have isolated := (isolated_answer same now).2
        exact ⟨isolated.lockout, _, isolated.locked, Nat.add_le_add_right later _⟩
  | lockedOut now =>
      have longer := Nat.le_max_left limit (now + bench.binding.lockout)
      refine ⟨rfl, max limit (now + bench.binding.lockout), ?_, Nat.le_trans late longer⟩
      simp only [Bench.undergo, Binding.lockOut, locked, Suppression.lockOut]

theorem LockedTo.undergoAll (lockedTo : bench.LockedTo start lockout) {happenings : List Happening}
    (timely : ∀ happening ∈ happenings, ¬happening.LocksBefore start) :
    (bench.undergoAll happenings).LockedTo start lockout :=
  List.foldlRecOn (motive := fun later => later.LockedTo start lockout) happenings Bench.undergo
    lockedTo fun _ still happening present => still.undergo (timely happening present)

/-! ### Once it has ended -/

/-- Unless notifications are locked out anew, it stays the same which of them are ignored. -/
theorem suppression_undergo (bench : Bench) {happening : Happening} (free : ¬happening.Locks) :
    (bench.undergo happening).binding.suppression = bench.binding.suppression := by
  cases happening with
  | typed typing => rfl
  | altered buffer => rfl
  | merged replica => rfl
  | observed now =>
      rcases bench.exists_shadow_observe now with ⟨shadow, same⟩
      rw [undergo, same]
  | asked showing now => exact absurd trivial free
  | lockedOut now => exact absurd trivial free

theorem suppression_undergoAll (bench : Bench) {happenings : List Happening}
    (free : ∀ happening ∈ happenings, ¬happening.Locks) :
    (bench.undergoAll happenings).binding.suppression = bench.binding.suppression :=
  List.foldlRecOn
    (motive := fun later => later.binding.suppression = bench.binding.suppression)
    happenings undergo rfl fun later same happening present =>
      (later.suppression_undergo (free happening present)).trans same

/-- A write that is carried out or refused is isolated, and a refused one leaves the content as it
was. Whatever happens then, notifications that are taken before the lockout ends leave the document
as it is; and unless notifications are locked out anew, those that are taken from its end on become
edits of the document. -/
theorem answer_isolated (nonempty : bench.buffer.lines ≠ [])
    (wrote : (bench.answer showing now).1 ≠ .shown) :
    let after := (bench.answer showing now).2
    let limit := now + bench.binding.lockout
    bench.Isolated after now ∧
      ((bench.answer showing now).1 = .refused → after.buffer.content = bench.buffer.content) ∧
      (∀ happenings, (∀ happening ∈ happenings, ¬happening.LocksBefore now) →
        ∀ time < limit, (after.undergoAll happenings).Ignores time) ∧
      ∀ happenings, (∀ happening ∈ happenings, ¬happening.Locks) → ∀ time ≥ limit,
        (after.undergoAll happenings).buffer.changes ≠ [] →
          (after.undergoAll happenings).Heeds time := by
  intro after limit
  have differs : Binding.shownText bench.buffer ≠ bench.wanted showing :=
    fun same => wrote (answer_eq_shown_iff.2 same)
  have isolated : bench.Isolated after now := (isolated_answer differs now).2
  refine ⟨isolated, ?_, ?_, ?_⟩
  · intro refused
    have refuses := refusal_of_answer_eq_refused nonempty refused
    rw [Buffer.content, Buffer.content, isolated.refused refuses]
  · intro happenings timely time early
    have locked : after.LockedTo now bench.binding.lockout :=
      ⟨isolated.lockout, _, isolated.locked, Nat.le_refl _⟩
    exact (locked.undergoAll timely).ignores early
  · intro happenings free time late noisy
    apply heeds_of_not_suppresses noisy
    rw [after.suppression_undergoAll free, isolated.locked]
    exact decide_eq_false (Nat.not_lt_of_ge late)

/-- A text is written over another one, and somebody types. -/
theorem overwritten_isolated :
    let bench := attach (Buffer.ofText ['a']) 50 { id := 1 }
    let after := (bench.answer (.anew ['b']) 7).2
    let typed := after.undergoAll [.typed (.insertText 0 0 ['x'])]
    bench.buffer.lines ≠ [] ∧ (bench.answer (.anew ['b']) 7).1 = .wrote ∧
      bench.Isolated after 7 ∧ typed.Ignores 56 ∧ typed.buffer.changes ≠ [] ∧ typed.Heeds 57 := by
  intro bench after typed
  have nonempty : bench.buffer.lines ≠ [] := by decide
  have wrote : (bench.answer (.anew ['b']) 7).1 = .wrote := by decide
  have unshown : (bench.answer (.anew ['b']) 7).1 ≠ .shown := by simp [wrote]
  have noisy : typed.buffer.changes ≠ [] := by decide
  rcases answer_isolated nonempty unshown with ⟨isolated, _, ignored, heeded⟩
  refine ⟨nonempty, wrote, isolated, ?_, noisy, ?_⟩
  · exact ignored [.typed (.insertText 0 0 ['x'])] (by simp [Happening.LocksBefore]) 56 (by decide)
  · exact heeded [.typed (.insertText 0 0 ['x'])] (by simp [Happening.Locks]) 57 (by decide) noisy

end Bench

end Cowrite
