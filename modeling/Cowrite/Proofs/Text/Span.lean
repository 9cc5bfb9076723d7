import Cowrite.Proofs.Text.Cut

/-!
# Edits that lead from one text to another

An edit leads from an old text to a new one (`Edit.Leads`) if it replaces a piece between two
boundaries of the old text and the result is the new one. That is more than `Edit.applyTo` says,
which also gives a meaning to misplaced edits: an edit that leads somewhere says where in the old
text it stands.

The span in which two texts differ cuts both into a common initial part, what differs, and a common
final part (`exists_changedSpan`). So the edit of that span leads from the one to the other
(`leads_ofTexts`), and an edit that leads somewhere still does when it is made as small as it can be
(`Leads.narrow`).

An edit that reaches past the end of a text means the same once its bounds are brought inside
(`applyTo_clamped`), and from there it leads where it should if these bounds are boundaries
(`leads_clamped`). An edit that cuts through a character is not made smaller. So an edit means the
same after it was made smaller, wherever it stands (`applyTo_narrow`).
-/

namespace Cowrite

namespace Text

theorem commonPrefix_append (front left right : Text) :
    commonPrefix (front ++ left) (front ++ right) = front ++ commonPrefix left right := by
  induction front with
  | nil => rfl
  | cons c rest ih => simp [commonPrefix, ih]

theorem commonSuffix_append (left right back : Text) :
    commonSuffix (left ++ back) (right ++ back) = commonSuffix left right ++ back := by
  simp [commonSuffix, commonPrefix_append]

theorem commonPrefix_append_drop (left right : Text) :
    left = commonPrefix left right ++ left.drop (commonPrefix left right).length ∧
      right = commonPrefix left right ++ right.drop (commonPrefix left right).length := by
  induction left generalizing right with
  | nil => simp [commonPrefix]
  | cons c left ih =>
      cases right with
      | nil => simp [commonPrefix]
      | cons d right =>
          by_cases same : c = d
          · have rest := ih right
            subst same
            simpa [commonPrefix] using rest
          · simp [commonPrefix, same]

theorem isPrefix_commonPrefix_iff {head left right : Text} :
    head <+: commonPrefix left right ↔ head <+: left ∧ head <+: right := by
  have split := commonPrefix_append_drop left right
  constructor
  · intro within
    exact ⟨within.trans ⟨_, split.1.symm⟩, within.trans ⟨_, split.2.symm⟩⟩
  · rintro ⟨⟨leftRest, rfl⟩, ⟨rightRest, rfl⟩⟩
    rw [commonPrefix_append]
    exact List.prefix_append _ _

theorem isSuffix_commonSuffix_iff {tail left right : Text} :
    tail <:+ commonSuffix left right ↔ tail <:+ left ∧ tail <:+ right := by
  rw [commonSuffix, ← List.reverse_prefix, List.reverse_reverse, isPrefix_commonPrefix_iff,
    List.reverse_prefix, List.reverse_prefix]

/-- Behind the common initial part nothing more is in common. -/
theorem commonPrefix_drop (left right : Text) :
    commonPrefix (left.drop (commonPrefix left right).length)
      (right.drop (commonPrefix left right).length) = [] := by
  have split := commonPrefix_append_drop left right
  have again := commonPrefix_append (commonPrefix left right)
    (left.drop (commonPrefix left right).length) (right.drop (commonPrefix left right).length)
  rw [← split.1, ← split.2] at again
  exact List.self_eq_append_right.1 again

theorem exists_commonSuffix (left right : Text) :
    ∃ leftFront rightFront, left = leftFront ++ commonSuffix left right ∧
      right = rightFront ++ commonSuffix left right ∧ commonSuffix leftFront rightFront = [] := by
  have split := commonPrefix_append_drop left.reverse right.reverse
  refine ⟨(left.reverse.drop (commonPrefix left.reverse right.reverse).length).reverse,
    (right.reverse.drop (commonPrefix left.reverse right.reverse).length).reverse, ?_, ?_, ?_⟩
  · rw [commonSuffix, ← List.reverse_append, ← split.1, List.reverse_reverse]
  · rw [commonSuffix, ← List.reverse_append, ← split.2, List.reverse_reverse]
  · simp [commonSuffix, commonPrefix_drop]

/-- What differs in two texts stands between a common initial and a common final part, and its ends
have nothing in common. -/
theorem exists_changedSpan (old new : Text) :
    ∃ front oldMiddle newMiddle back,
      old = front ++ (oldMiddle ++ back) ∧ new = front ++ (newMiddle ++ back) ∧
        commonPrefix (oldMiddle ++ back) (newMiddle ++ back) = [] ∧
          commonSuffix oldMiddle newMiddle = [] ∧
            changedSpan old new =
              { start := byteSize front
                oldEnd := byteSize front + byteSize oldMiddle
                newEnd := byteSize front + byteSize newMiddle } := by
  have head := commonPrefix_append_drop old new
  have apart := commonPrefix_drop old new
  rcases exists_commonSuffix (old.drop (commonPrefix old new).length)
    (new.drop (commonPrefix old new).length) with ⟨oldMiddle, newMiddle, oldRest, newRest, apart'⟩
  refine ⟨commonPrefix old new, oldMiddle, newMiddle,
    commonSuffix (old.drop (commonPrefix old new).length)
      (new.drop (commonPrefix old new).length), ?_, ?_, ?_, apart', ?_⟩
  · rw [← oldRest]
    exact head.1
  · rw [← newRest]
    exact head.2
  · rwa [← oldRest, ← newRest]
  · have oldSize := congrArg byteSize head.1
    have newSize := congrArg byteSize head.2
    rw [oldRest] at oldSize
    rw [newRest] at newSize
    simp only [byteSize_append] at oldSize newSize
    simp only [changedSpan, Span.mk.injEq, true_and]
    omega

theorem commonPrefix_self (text : Text) : commonPrefix text text = text := by
  induction text with
  | nil => rfl
  | cons c rest ih => simp [commonPrefix, ih]

theorem changedSpan_self (text : Text) :
    changedSpan text text = ⟨byteSize text, byteSize text, byteSize text⟩ := by
  simp [changedSpan, commonPrefix_self, commonSuffix]

theorem isEmpty_changedSpan_iff {old new : Text} :
    (changedSpan old new).isEmpty = true ↔ old = new := by
  constructor
  · intro empty
    rcases exists_changedSpan old new with
      ⟨front, oldMiddle, newMiddle, back, rfl, rfl, _, _, span⟩
    simp only [span, Span.isEmpty, Bool.and_eq_true, beq_iff_eq] at empty
    have oldNone : oldMiddle = [] := byteSize_eq_zero_iff.1 (by omega)
    have newNone : newMiddle = [] := byteSize_eq_zero_iff.1 (by omega)
    rw [oldNone, newNone]
  · rintro rfl
    simp [changedSpan_self, Span.isEmpty]

end Text

namespace Edit

/-- Whether an edit replaces a piece between two boundaries of the old text, so that the new one
comes out. -/
def Leads (edit : Edit) (old new : Text) : Prop :=
  ∃ front middle back, old = front ++ (middle ++ back) ∧ new = front ++ (edit.text ++ back) ∧
    edit.start = Text.byteSize front ∧ edit.stop = Text.byteSize front + Text.byteSize middle

theorem Leads.applyTo_eq {edit : Edit} {old new : Text} (leads : edit.Leads old new) :
    edit.applyTo old = new := by
  rcases leads with ⟨front, middle, back, rfl, rfl, start, stop⟩
  rw [applyTo_append front middle back start stop, List.append_assoc]

/-- Where an edit that leads somewhere stands. -/
theorem Leads.placed {edit : Edit} {old new : Text} (leads : edit.Leads old new) :
    edit.start ≤ edit.stop ∧ edit.stop ≤ Text.byteSize old ∧
      Text.isBoundary old edit.start = true ∧ Text.isBoundary old edit.stop = true ∧
      Text.splice old edit.start edit.stop edit.text = new := by
  rcases leads with ⟨front, middle, back, rfl, rfl, start, stop⟩
  have stopBoundary := Text.isBoundary_append (front ++ middle) back
  rw [Text.byteSize_append, List.append_assoc] at stopBoundary
  rw [start, stop]
  refine ⟨Nat.le_add_right _ _, ?_, Text.isBoundary_append front _, stopBoundary, ?_⟩
  · simp only [Text.byteSize_append]
    omega
  · rw [Text.splice_append, List.append_assoc]

/-- A replacement between two boundaries leads to what it makes of the text. -/
theorem leads_splice {text : Text} {start stop : Nat} (forward : start ≤ stop)
    (startBoundary : Text.isBoundary text start = true)
    (stopBoundary : Text.isBoundary text stop = true) (replacement : Text) :
    (⟨start, stop, replacement⟩ : Edit).Leads text (Text.splice text start stop replacement) := by
  rcases Text.exists_parts startBoundary stopBoundary forward with
    ⟨front, middle, back, rfl, rfl, rfl⟩
  exact ⟨front, middle, back, rfl, by rw [Text.splice_append, List.append_assoc], rfl, rfl⟩

theorem Leads.eq_of_isNoop {edit : Edit} {old new : Text} (leads : edit.Leads old new)
    (noop : edit.isNoop = true) : old = new := by
  rcases leads with ⟨front, middle, back, rfl, rfl, start, stop⟩
  simp only [isNoop, Bool.and_eq_true, beq_iff_eq, List.isEmpty_iff] at noop
  have none : Text.byteSize middle = 0 := by omega
  rw [Text.byteSize_eq_zero_iff.1 none, noop.2]

theorem leads_ofTexts (old new : Text) : (ofTexts old new).Leads old new := by
  rcases Text.exists_changedSpan old new with
    ⟨front, oldMiddle, newMiddle, back, rfl, rfl, _, _, span⟩
  refine ⟨front, oldMiddle, back, rfl, ?_, ?_, ?_⟩
  · simp [ofTexts, span, Text.between_append]
  · simp [ofTexts, span]
  · simp [ofTexts, span]

theorem isNoop_ofTexts_self (text : Text) : (ofTexts text text).isNoop = true := by
  have past := Text.after_of_byteSize_le (Nat.le_refl (Text.byteSize text))
  simp [ofTexts, isNoop, Text.changedSpan_self, Text.between, past]

/-- The same edit of a text that has so many bytes more in front. -/
def shift (edit : Edit) (offset : Nat) : Edit :=
  { edit with start := offset + edit.start, stop := offset + edit.stop }

theorem isNoop_shift (edit : Edit) (offset : Nat) : (edit.shift offset).isNoop = edit.isNoop := by
  rw [Bool.eq_iff_iff]
  simp [isNoop, shift]

theorem Leads.shift {edit : Edit} {old new : Text} (leads : edit.Leads old new) (front : Text) :
    (edit.shift (Text.byteSize front)).Leads (front ++ old) (front ++ new) := by
  rcases leads with ⟨early, middle, late, rfl, rfl, start, stop⟩
  refine ⟨front ++ early, middle, late, ?_, ?_, ?_, ?_⟩
  · simp
  · simp [Edit.shift]
  · simp [Edit.shift, start]
  · simp [Edit.shift, stop, Nat.add_assoc]

/-- What follows a text does not matter to an edit of it. -/
theorem Leads.append {edit : Edit} {old new : Text} (leads : edit.Leads old new) (back : Text) :
    edit.Leads (old ++ back) (new ++ back) := by
  rcases leads with ⟨front, middle, late, rfl, rfl, start, stop⟩
  exact ⟨front, middle, late ++ back, by simp, by simp, start, stop⟩

/-- To make an edit smaller is to compare what it replaces with what it puts there. -/
theorem narrow_append (front middle back : Text) {edit : Edit}
    (start : edit.start = Text.byteSize front)
    (stop : edit.stop = Text.byteSize front + Text.byteSize middle) :
    edit.narrow (front ++ (middle ++ back)) =
      (ofTexts middle edit.text).shift (Text.byteSize front) := by
  have inside : min (Text.byteSize front + Text.byteSize middle)
      (Text.byteSize (front ++ (middle ++ back))) =
        Text.byteSize front + Text.byteSize middle := by
    simp only [Text.byteSize_append]
    omega
  have before : min (Text.byteSize front) (Text.byteSize front + Text.byteSize middle) =
      Text.byteSize front := by
    omega
  have startBoundary := Text.isBoundary_append front (middle ++ back)
  have stopBoundary : Text.isBoundary (front ++ (middle ++ back))
      (Text.byteSize front + Text.byteSize middle) = true := by
    simpa using Text.isBoundary_append (front ++ middle) back
  simp only [Edit.narrow, start, stop, inside, before, startBoundary, stopBoundary,
    Bool.and_self, if_true, Text.between_append]
  rfl

/-- An edit is made smaller by dropping what both its sides have in common. -/
theorem Leads.narrow {edit : Edit} {old new : Text} (leads : edit.Leads old new) :
    (edit.narrow old).Leads old new := by
  rcases leads with ⟨front, middle, back, rfl, rfl, start, stop⟩
  rw [narrow_append front middle back start stop]
  exact ((leads_ofTexts middle edit.text).append back).shift front

/-- Of an edit that leads back to the same text nothing remains. -/
theorem Leads.isNoop_narrow {edit : Edit} {old : Text} (leads : edit.Leads old old) :
    (edit.narrow old).isNoop = true := by
  rcases leads with ⟨front, middle, back, split, same, start, stop⟩
  have unchanged : middle = edit.text :=
    List.append_cancel_right (List.append_cancel_left (split.symm.trans same))
  rw [split, narrow_append front middle back start stop, isNoop_shift, unchanged]
  exact isNoop_ofTexts_self _

/-- What is made smaller stays inside. -/
theorem Leads.narrow_inside {edit : Edit} {old new : Text} (leads : edit.Leads old new) :
    edit.start ≤ (edit.narrow old).start ∧ (edit.narrow old).start ≤ (edit.narrow old).stop ∧
      (edit.narrow old).stop ≤ edit.stop := by
  rcases leads with ⟨front, middle, back, rfl, rfl, start, stop⟩
  have placed := (leads_ofTexts middle edit.text).placed
  rw [narrow_append front middle back start stop, start, stop]
  simp only [Edit.shift]
  omega

/-- The edit with its bounds brought inside a text. -/
def clamped (edit : Edit) (old : Text) : Edit :=
  { edit with
    start := min edit.start (Text.byteSize old)
    stop := min edit.stop (Text.byteSize old) }

theorem applyTo_clamped (edit : Edit) (old : Text) :
    (edit.clamped old).applyTo old = edit.applyTo old := by
  have start : (edit.clamped old).startIn old = edit.startIn old := Text.floor_min old edit.start
  have inside : edit.startIn old ≤ Text.byteSize old := Text.floor_le_byteSize old edit.start
  have bounds : max (edit.clamped old).stop (edit.startIn old) =
      min (max edit.stop (edit.startIn old)) (Text.byteSize old) := by
    simp only [clamped]
    omega
  have stop : (edit.clamped old).stopIn old = edit.stopIn old := by
    rw [stopIn, start, bounds, Text.floor_min]
    rfl
  rw [applyTo, applyTo, start, stop]
  rfl

theorem clamped_clamped (edit : Edit) (old : Text) :
    (edit.clamped old).clamped old = edit.clamped old := by
  simp [clamped]

theorem clamped_le (edit : Edit) (old : Text) (forward : edit.start ≤ edit.stop) :
    (edit.clamped old).start ≤ (edit.clamped old).stop := by
  simp only [clamped]
  omega

/-- To make an edit smaller begins with bringing its bounds inside. -/
theorem narrow_eq {edit : Edit} (forward : edit.start ≤ edit.stop) (old : Text) :
    edit.narrow old =
      if Text.isBoundary old (edit.clamped old).start &&
          Text.isBoundary old (edit.clamped old).stop then
        (ofTexts (Text.between old (edit.clamped old).start (edit.clamped old).stop)
          edit.text).shift (edit.clamped old).start
      else edit := by
  have start : min edit.start (min edit.stop (Text.byteSize old)) = (edit.clamped old).start := by
    simp only [clamped]
    omega
  rw [← start]
  rfl

section

variable {edit : Edit} {old : Text} (forward : edit.start ≤ edit.stop)
  (startBoundary : Text.isBoundary old (edit.clamped old).start = true)
  (stopBoundary : Text.isBoundary old (edit.clamped old).stop = true)

include forward startBoundary stopBoundary

theorem leads_clamped : (edit.clamped old).Leads old (edit.applyTo old) := by
  have leads : (edit.clamped old).Leads old _ :=
    leads_splice (edit.clamped_le old forward) startBoundary stopBoundary edit.text
  rw [← applyTo_clamped, leads.applyTo_eq]
  exact leads

theorem narrow_clamped : (edit.clamped old).narrow old = edit.narrow old := by
  rw [narrow_eq forward, narrow_eq (edit.clamped_le old forward), clamped_clamped, startBoundary,
    stopBoundary]
  rfl

/-- An edit whose bounds are boundaries, once they are brought inside, is made smaller without
changing where it leads. -/
theorem leads_narrow : (edit.narrow old).Leads old (edit.applyTo old) := by
  rw [← narrow_clamped forward startBoundary stopBoundary]
  exact (leads_clamped forward startBoundary stopBoundary).narrow

theorem isNoop_narrow_iff : (edit.narrow old).isNoop = true ↔ edit.applyTo old = old := by
  constructor
  · intro noop
    exact ((leads_narrow forward startBoundary stopBoundary).eq_of_isNoop noop).symm
  · intro same
    have leads := leads_clamped forward startBoundary stopBoundary
    rw [same] at leads
    rw [← narrow_clamped forward startBoundary stopBoundary]
    exact leads.isNoop_narrow

end

/-- An edit means the same after it was made smaller. -/
theorem applyTo_narrow {edit : Edit} {old : Text} (forward : edit.start ≤ edit.stop) :
    (edit.narrow old).applyTo old = edit.applyTo old := by
  cases startBoundary : Text.isBoundary old (edit.clamped old).start with
  | true =>
      cases stopBoundary : Text.isBoundary old (edit.clamped old).stop with
      | true => exact (leads_narrow forward startBoundary stopBoundary).applyTo_eq
      | false => simp [narrow_eq forward, stopBoundary]
  | false => simp [narrow_eq forward, startBoundary]

/-- To delete everything is as small as it can be. -/
theorem narrow_deleteAll (old : Text) :
    narrow ⟨0, Text.byteSize old, []⟩ old = ⟨0, Text.byteSize old, []⟩ := by
  have stopBoundary : Text.isBoundary old (Text.byteSize old) = true := by
    simpa using Text.isBoundary_append old []
  have startBoundary : Text.isBoundary old 0 = true := by
    simpa using Text.isBoundary_append [] old
  have whole := Text.upTo_of_byteSize_le (Nat.le_refl (Text.byteSize old))
  simp [narrow, startBoundary, stopBoundary, Text.changedSpan, Text.commonPrefix,
    Text.commonSuffix, Text.between, whole]

end Edit

end Cowrite
