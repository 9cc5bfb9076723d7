import Cowrite.Proofs.Replica.Editing
import Cowrite.Proofs.Session.Typing

/-!
# Documents and buffers in step

A document and the buffer that shows it are in step if the buffer shows the document's text with
a final separator (`Bench.Shows`). What was typed is found as an edit of the shown text, but it is
made in the document, which may lack the final separator. So a spell of typing takes the two out of
step exactly if its edit misses (`Ready.shows_after_iff`): the document lacks the separator, and
something is appended after it or an empty line is left before it. A run of spells keeps them in
step exactly if no spell of it misses (`Ready.keepsStep_iff`).
-/

namespace Cowrite

/-- A document and a buffer that are bound to each other. -/
structure Bench where
  binding : Binding
  buffer : Buffer
  replica : Replica

/-- Something typed, and the time at which its notifications are taken. -/
structure Spell where
  typings : List Typing
  now : Nat

namespace Bench

def type (bench : Bench) (typings : List Typing) : Bench :=
  { bench with buffer := typings.foldl Typing.perform bench.buffer }

/-- Take the notifications. -/
def observe (bench : Bench) (now : Nat) : Bench :=
  let (_, binding, buffer, replica) := bench.binding.observe bench.buffer bench.replica now
  { binding, buffer, replica }

def after (bench : Bench) (spell : Spell) : Bench :=
  (bench.type spell.typings).observe spell.now

/-- Whether the buffer shows the document. -/
def Shows (bench : Bench) : Prop :=
  Text.terminated bench.replica.text = bench.buffer.content

instance (bench : Bench) : Decidable bench.Shows :=
  inferInstanceAs (Decidable (_ = _))

/-- Whether what is typed misses the document. -/
def Misses (bench : Bench) (spell : Spell) : Prop :=
  let typed := bench.type spell.typings
  (typed.binding.editOf typed.buffer).Misses bench.replica.text bench.buffer.content
    typed.buffer.content

instance (bench : Bench) (spell : Spell) : Decidable (bench.Misses spell) :=
  inferInstanceAs (Decidable (Edit.Misses _ _ _ _))

/-- Whether the buffer shows the document after every spell. -/
def KeepsStep (bench : Bench) : List Spell → Prop
  | [] => True
  | spell :: rest => (bench.after spell).Shows ∧ (bench.after spell).KeepsStep rest

/-- Whether no spell misses the document. -/
def NeverMisses (bench : Bench) : List Spell → Prop
  | [] => True
  | spell :: rest => ¬bench.Misses spell ∧ (bench.after spell).NeverMisses rest

/-- A bench at which all notifications have been taken. -/
structure Ready (history : History) (bench : Bench) : Prop where
  lawful : history.Lawful
  active : bench.replica.Active history
  tidy : bench.buffer.Tidy
  quiet : bench.buffer.changes = []
  shadow : bench.binding.shadow = bench.buffer.lines

/-- Whether a run of spells is typed line by line, and no notification is ignored. -/
def Hears (bench : Bench) (spells : List Spell) : Prop :=
  ∀ spell ∈ spells, (∀ typing ∈ spell.typings, typing.IsPlain) ∧
    bench.binding.suppression.suppresses spell.now = false

variable {history : History} {bench : Bench} {spell : Spell}

theorem Ready.typed (ready : bench.Ready history)
    (plain : ∀ typing ∈ spell.typings, typing.IsPlain) :
    (bench.type spell.typings).buffer.Typed bench.buffer.lines := by
  apply Buffer.Typed.foldl _ plain
  exact ⟨ready.tidy, .inl ⟨ready.quiet, rfl⟩⟩

/-- The edit of a spell is what became of the shown text. -/
theorem Ready.tracks (ready : bench.Ready history)
    (plain : ∀ typing ∈ spell.typings, typing.IsPlain) :
    ((bench.type spell.typings).binding.editOf (bench.type spell.typings).buffer).Tracks
      bench.buffer.content (bench.type spell.typings).buffer.content :=
  (ready.typed plain).tracks ready.tidy.nonempty ready.shadow

/-- What a spell leaves: the typed lines are shown, and their edit is made in the document. -/
theorem Ready.after_eq (ready : bench.Ready history)
    (plain : ∀ typing ∈ spell.typings, typing.IsPlain)
    (heard : bench.binding.suppression.suppresses spell.now = false) :
    bench.after spell =
      { binding := { bench.binding with shadow := (bench.type spell.typings).buffer.lines }
        buffer := (bench.type spell.typings).buffer.takeChanges.2
        replica :=
          if ((bench.type spell.typings).binding.editOf
              (bench.type spell.typings).buffer).isNoop then bench.replica
          else bench.replica.edit ((bench.type spell.typings).binding.editOf
            (bench.type spell.typings).buffer) } := by
  have typed := ready.typed plain
  by_cases quiet : (bench.type spell.typings).buffer.changes = []
  · have lines : (bench.type spell.typings).buffer.lines = bench.buffer.lines := by
      rcases typed.heard with ⟨_, same⟩ | ⟨change, one, _⟩ | several
      · exact same
      · simp [one] at quiet
      · simp [quiet] at several
    have noop : ((bench.type spell.typings).binding.editOf
        (bench.type spell.typings).buffer).isNoop = true := by
      have shadow : (bench.type spell.typings).binding.shadow = bench.buffer.lines := ready.shadow
      rw [Binding.editOf, quiet, lines, shadow]
      exact Edit.isNoop_ofTexts_self _
    have unchanged : bench.binding =
        { bench.binding with shadow := (bench.type spell.typings).buffer.lines } := by
      rw [lines, ← ready.shadow]
    rw [after, observe, Binding.observe_of_quiet _ _ _ _ quiet, noop, if_pos rfl, ← unchanged]
    rfl
  · have noticed : (bench.type spell.typings).binding.suppression.suppresses spell.now = false :=
      heard
    rw [after, observe, Binding.observe_of_edited _ _ _ _ quiet noticed]
    rfl

/-- After a spell the bench is ready for the next one. -/
theorem Ready.after (ready : bench.Ready history)
    (plain : ∀ typing ∈ spell.typings, typing.IsPlain)
    (heard : bench.binding.suppression.suppresses spell.now = false) :
    ∃ larger, (bench.after spell).Ready larger ∧
      (bench.after spell).replica.text =
        if ((bench.type spell.typings).binding.editOf
            (bench.type spell.typings).buffer).isNoop then bench.replica.text
        else ((bench.type spell.typings).binding.editOf
          (bench.type spell.typings).buffer).applyTo bench.replica.text := by
  have tidy := (ready.typed plain).tidy
  rw [ready.after_eq plain heard]
  split
  · exact ⟨history, ⟨ready.lawful, ready.active, ⟨tidy.nonempty, tidy.plain⟩, rfl, rfl⟩, rfl⟩
  · rcases ready.active.edit ready.lawful ((bench.type spell.typings).binding.editOf
      (bench.type spell.typings).buffer) with ⟨larger, writes, text⟩
    exact ⟨larger, ⟨writes.lawful, writes.active, ⟨tidy.nonempty, tidy.plain⟩, rfl, rfl⟩, text⟩

/-- A spell takes document and buffer out of step exactly if it misses. -/
theorem Ready.shows_after_iff (ready : bench.Ready history) (showing : bench.Shows)
    (plain : ∀ typing ∈ spell.typings, typing.IsPlain)
    (heard : bench.binding.suppression.suppresses spell.now = false) :
    (bench.after spell).Shows ↔ ¬bench.Misses spell := by
  rcases ready.after plain heard with ⟨larger, _, text⟩
  have content : (bench.after spell).buffer.content =
      (bench.type spell.typings).buffer.content := by
    rw [ready.after_eq plain heard]
    rfl
  rw [Shows, text, content]
  exact (ready.tracks plain).terminated_iff showing (ready.typed plain).tidy.ends

/-! ## Runs -/

theorem Hears.tail {rest : List Spell} (hears : bench.Hears (spell :: rest))
    (ready : bench.Ready history) : (bench.after spell).Hears rest := by
  rcases hears spell List.mem_cons_self with ⟨plain, heard⟩
  have same : (bench.after spell).binding.suppression = bench.binding.suppression := by
    rw [ready.after_eq plain heard]
  intro other present
  rw [same]
  exact hears other (List.mem_cons_of_mem _ present)

/-- Document and buffer stay in step exactly as long as no spell misses. -/
theorem Ready.keepsStep_iff (ready : bench.Ready history) (showing : bench.Shows)
    {spells : List Spell} (hears : bench.Hears spells) :
    bench.KeepsStep spells ↔ bench.NeverMisses spells := by
  induction spells generalizing bench history with
  | nil => exact Iff.rfl
  | cons spell rest ih =>
      rcases hears spell List.mem_cons_self with ⟨plain, heard⟩
      rcases ready.after plain heard with ⟨larger, next, _⟩
      have step := ready.shows_after_iff showing plain heard
      constructor
      · rintro ⟨here, later⟩
        exact ⟨step.1 here, (ih next here (hears.tail ready)).1 later⟩
      · rintro ⟨hits, later⟩
        have here := step.2 hits
        exact ⟨here, (ih next here (hears.tail ready)).2 later⟩

/-- A host on an empty buffer, whose document begins without any text. -/
def blank : Bench :=
  let (binding, buffer) := Binding.attach (Buffer.ofText []) 50
  { binding, buffer, replica := { id := 1 } }

theorem ready_blank : blank.Ready ∅ :=
  ⟨History.lawful_empty, Replica.active_new nofun, ⟨by decide, by decide⟩, rfl, rfl⟩

theorem blank_keepsStep :
    blank.KeepsStep [⟨[.insertText 0 0 ['a'], .insertText 0 1 ['b']], 0⟩,
      ⟨[.deleteText 0 0 1], 10⟩] := by
  refine (ready_blank.keepsStep_iff (by decide) ?_).2 ?_
  · intro spell present
    refine ⟨?_, rfl⟩
    intro typing typed
    simp only [List.mem_cons, List.not_mem_nil, or_false] at present
    rcases present with rfl | rfl
    · simp only [List.mem_cons, List.not_mem_nil, or_false] at typed
      rcases typed with rfl | rfl <;> trivial
    · rw [List.mem_singleton.1 typed]
      trivial
  · exact ⟨by decide, by decide, trivial⟩

/-- Somebody types a letter and begins a new line. -/
theorem blank_not_keepsStep :
    blank.Shows ∧ ¬blank.KeepsStep [⟨[.insertText 0 0 ['a']], 0⟩,
      ⟨[.insertText 0 1 ['\n']], 10⟩] := by
  refine ⟨by decide, ?_⟩
  rintro ⟨_, showing, _⟩
  revert showing
  decide

end Bench

end Cowrite
