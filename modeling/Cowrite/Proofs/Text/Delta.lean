import Cowrite.Proofs.Text.Span
import Cowrite.Text.Delta

/-!
# Edits one after the other

Edits that are told in a row each refer to the text that the ones before have left
(`Edit.LeadAlong`). The edits that a replay of walks reports lead in this sense from the text that
it began with to the text that it arrived at (`Walk.leadAlong_replay`): every step that leaves an
edit behind stands between boundaries of the text as it is then.

The walk that tells the difference of two texts leads from the one to the other, wherever the cursor
of the walk before it was left (`Walk.exists_run_between`). So the walks from text to text along a
sequence can be replayed, and the replay arrives at the last text.
-/

namespace Cowrite

namespace Edit

/-- The texts that edits leave, one after the other. -/
def textsAlong : List Edit → Text → List Text
  | [], _ => []
  | edit :: rest, text => edit.applyTo text :: textsAlong rest (edit.applyTo text)

/-- Whether edits lead from one text to another, each from what the ones before have left. -/
def LeadAlong : List Edit → Text → Text → Prop
  | [], old, new => old = new
  | edit :: rest, old, new =>
      edit.Leads old (edit.applyTo old) ∧ LeadAlong rest (edit.applyTo old) new

/-- The text that edits leave in the end. -/
def applyAll (edits : List Edit) (base : Text) : Text :=
  edits.foldl (fun text edit => edit.applyTo text) base

theorem LeadAlong.applyAll_eq {edits : List Edit} {old new : Text}
    (along : LeadAlong edits old new) : applyAll edits old = new := by
  induction edits generalizing old with
  | nil => exact along
  | cons edit rest ih => exact ih along.2

/-- Each of the edits stands in the text that the ones before it have left. -/
theorem LeadAlong.leads_of_eq_append {edits earlier later : List Edit} {edit : Edit}
    {old new : Text} (along : LeadAlong edits old new) (split : edits = earlier ++ edit :: later) :
    edit.Leads (applyAll earlier old) (edit.applyTo (applyAll earlier old)) := by
  subst split
  induction earlier generalizing old with
  | nil => exact along.1
  | cons first rest ih => exact ih along.2

theorem LeadAlong.concat {edits : List Edit} {edit : Edit} {old between new : Text}
    (along : LeadAlong edits old between) (leads : edit.Leads between new) :
    LeadAlong (edits ++ [edit]) old new := by
  induction edits generalizing old with
  | nil =>
      cases along
      have applied := leads.applyTo_eq
      exact ⟨applied ▸ leads, applied⟩
  | cons first rest ih => exact ⟨along.1, ih along.2⟩

end Edit

namespace Walk

variable {base : Text} {progress last : Progress}

/-- Whether the edits of a walk under way lead from a text to the one where it is now. -/
def Progress.HasLed (progress : Progress) (base : Text) : Prop :=
  Edit.LeadAlong progress.edits base progress.text

theorem Progress.HasLed.step (led : progress.HasLed base) {delta : Delta}
    (taken : step progress delta = some last) : last.HasLed base := by
  cases delta with
  | retain count =>
      cases taken
      exact led
  | delete count =>
      simp only [Walk.step, Bool.and_eq_true] at taken
      split at taken
      case isTrue boundaries =>
        cases taken
        exact Edit.LeadAlong.concat led
          (Edit.leads_splice (Nat.le_add_right _ _) boundaries.1 boundaries.2 [])
      case isFalse => cases taken
  | insert inserted =>
      simp only [Walk.step] at taken
      split at taken
      case isTrue boundary =>
        cases taken
        exact Edit.LeadAlong.concat led
          (Edit.leads_splice (Nat.le_refl _) boundary boundary inserted)
      case isFalse => cases taken

/-- What every step keeps a run of steps keeps, be they deltas or whole walks. -/
theorem hasLed_foldlM {α : Type} {change : Progress → α → Option Progress}
    (keeps : ∀ {progress last : Progress} {item : α}, progress.HasLed base →
      change progress item = some last → last.HasLed base)
    (led : progress.HasLed base) {items : List α}
    (done : items.foldlM change progress = some last) : last.HasLed base := by
  induction items generalizing progress with
  | nil =>
      cases done
      exact led
  | cons item rest ih =>
      rw [List.foldlM_cons, Option.bind_eq_bind, Option.bind_eq_some_iff] at done
      rcases done with ⟨next, taken, others⟩
      exact ih (keeps led taken) others

theorem leadAlong_replay {walks : List Walk} {edits : List Edit} {text : Text}
    (replayed : replay base walks = some (edits, text)) : Edit.LeadAlong edits base text := by
  rw [replay, Option.map_eq_some_iff] at replayed
  rcases replayed with ⟨last, done, same⟩
  rcases Prod.mk.inj same with ⟨rfl, rfl⟩
  have start : Progress.HasLed ⟨base, 0, []⟩ base := rfl
  apply hasLed_foldlM _ start done
  intro progress last walk led taken
  have rewound : Progress.HasLed { progress with cursor := 0 } base := led
  exact hasLed_foldlM (fun led taken => led.step taken) rewound taken

/-! ## Walks that tell a difference -/

/-- The walks from each text of a sequence to the next one. -/
def along : Text → List Text → List Walk
  | _, [] => []
  | text, next :: rest => between text next :: along next rest

section

variable (front back : Text) (edits : List Edit)

theorem foldlM_retain (text : Text) (count : Nat) :
    (if count > 0 then [Delta.retain count] else []).foldlM step ⟨text, 0, edits⟩ =
      some ⟨text, count, edits⟩ := by
  split
  case isTrue => simp [step]
  case isFalse none =>
    obtain rfl : count = 0 := by omega
    rfl

theorem exists_foldlM_delete (removed : Text) :
    ∃ later, (if Text.byteSize removed > 0 then [Delta.delete (Text.byteSize removed)]
        else []).foldlM step ⟨front ++ (removed ++ back), Text.byteSize front, edits⟩ =
      some ⟨front ++ back, Text.byteSize front, later⟩ := by
  split
  case isTrue => simp [step, Text.isBoundary_append, Text.isBoundary_append_add, Text.splice_append]
  case isFalse none =>
    obtain rfl : removed = [] := Text.byteSize_eq_zero_iff.1 (by omega)
    exact ⟨edits, rfl⟩

theorem exists_foldlM_insert (added : Text) :
    ∃ cursor later, (if Text.byteSize added > 0 then [Delta.insert added] else []).foldlM step
        ⟨front ++ back, Text.byteSize front, edits⟩ =
      some ⟨front ++ (added ++ back), cursor, later⟩ := by
  split
  case isTrue =>
    have inserted := Text.splice_append front [] back added
    simp only [List.nil_append, Text.byteSize_nil, Nat.add_zero] at inserted
    simp [step, Text.isBoundary_append, inserted]
  case isFalse none =>
    obtain rfl : added = [] := Text.byteSize_eq_zero_iff.1 (by omega)
    exact ⟨_, _, rfl⟩

end

/-- The walk between two texts leads from the one to the other, wherever the last one ended. -/
theorem exists_run_between {progress : Progress} (new : Text) :
    ∃ last, run (between progress.text new) progress = some last ∧ last.text = new := by
  rcases progress with ⟨old, cursor, edits⟩
  rw [run, between]
  split
  case isTrue empty => exact ⟨_, rfl, Text.isEmpty_changedSpan_iff.1 empty⟩
  case isFalse =>
    rcases Text.exists_changedSpan old new with
      ⟨front, removed, added, back, rfl, rfl, _, _, span⟩
    rcases exists_foldlM_delete front back edits removed with ⟨cut, deletes⟩
    rcases exists_foldlM_insert front back cut added with ⟨place, later, inserts⟩
    have longer : ∀ middle, Text.byteSize front + Text.byteSize middle > Text.byteSize front ↔
        Text.byteSize middle > 0 := by
      intro middle
      omega
    refine ⟨⟨front ++ (added ++ back), place, later⟩, ?_, rfl⟩
    simp only [span, longer, Nat.add_sub_cancel_left, Text.between_append]
    rw [List.foldlM_append, List.foldlM_append, foldlM_retain, Option.bind_eq_bind,
      Option.bind_some, deletes, Option.bind_some, inserts]

theorem between_eq_nil_iff {old new : Text} : between old new = [] ↔ old = new := by
  constructor
  · intro none
    rcases @exists_run_between ⟨old, 0, []⟩ new with ⟨last, ran, arrived⟩
    rw [none] at ran
    cases ran
    exact arrived
  · rintro rfl
    simp [between, Text.changedSpan_self, Text.Span.isEmpty]

theorem exists_foldlM_along (progress : Progress) (texts : List Text) :
    ∃ last, (along progress.text texts).foldlM (fun progress walk => run walk progress) progress =
      some last ∧ last.text = texts.getLastD progress.text := by
  induction texts generalizing progress with
  | nil => exact ⟨progress, rfl, rfl⟩
  | cons next rest ih =>
      rcases exists_run_between next with ⟨between, ran, reached⟩
      rcases ih between with ⟨last, others, arrived⟩
      rw [reached] at others arrived
      refine ⟨last, ?_, by rw [arrived, List.getLastD_cons]⟩
      rw [along, List.foldlM_cons, ran]
      exact others

/-- The walks between the texts of a sequence lead from the first to the last. And wherever walks
lead, the edits that come of them lead too: each replaces a piece between two boundaries of the text
that the ones before it have left. -/
theorem replay_faithful :
    (∀ (base : Text) (texts : List Text), ∃ edits,
      replay base (along base texts) = some (edits, texts.getLastD base)) ∧
    ∀ (base : Text) (walks : List Walk) (edits : List Edit) (text : Text),
      replay base walks = some (edits, text) →
        (∀ (earlier : List Edit) (edit : Edit) (later : List Edit),
          edits = earlier ++ edit :: later →
            let reached := Edit.applyAll earlier base
            edit.start ≤ edit.stop ∧ edit.stop ≤ Text.byteSize reached ∧
              Text.isBoundary reached edit.start = true ∧
              Text.isBoundary reached edit.stop = true ∧
              edit.applyTo reached = Text.splice reached edit.start edit.stop edit.text) ∧
        Edit.applyAll edits base = text := by
  refine ⟨?_, ?_⟩
  · intro base texts
    rcases exists_foldlM_along ⟨base, 0, []⟩ texts with ⟨last, ran, arrived⟩
    refine ⟨last.edits, ?_⟩
    rw [replay, ran, Option.map_some, arrived]
  · intro base walks edits text replayed
    have along := leadAlong_replay replayed
    refine ⟨?_, along.applyAll_eq⟩
    intro earlier edit later split reached
    rcases (along.leads_of_eq_append split).placed with ⟨forward, inside, start, stop, spliced⟩
    exact ⟨forward, inside, start, stop, spliced.symm⟩

/-- Texts with characters of several bytes, and walks that retain, delete and insert. -/
theorem retold_faithful :
    let texts : List Text := [['a', 'é'], [], ['é', 'x']]
    let walks : List Walk :=
      [[.retain 1, .delete 2, .insert ['y', 'é']], [.insert ['z'], .retain 2, .delete 2]]
    (∃ edits, replay ['a'] (along ['a'] texts) = some (edits, ['é', 'x'])) ∧
      ∃ edits, replay ['a', 'é'] walks = some (edits, ['z', 'a', 'y']) ∧ edits.length = 4 ∧
        Edit.applyAll edits ['a', 'é'] = ['z', 'a', 'y'] := by
  intro texts walks
  refine ⟨replay_faithful.1 ['a'] texts, _, rfl, rfl, ?_⟩
  exact (replay_faithful.2 ['a', 'é'] walks _ _ rfl).2

end Walk

end Cowrite
