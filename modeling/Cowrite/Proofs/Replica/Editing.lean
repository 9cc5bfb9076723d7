import Cowrite.Proofs.Replica.Sound
import Cowrite.Proofs.Text.Span

/-!
# Writing into a replica

A replica may write if nobody else uses its number: then every operation under its number is one
that it has taken up itself (`Replica.Active`). What such a replica writes (`Writes`) makes the
history larger, by operations of its own alone, and leaves both lawful: the new names are new
(`not_mem_history_made`), and nothing that waited becomes ready, as nobody can have built on an
operation before it was made (`isReady_bump`).

Whatever is written into a part of the document stays in that part: the sequence changes nowhere
else, and each way of writing has an equation for the text there (`Active.editWithin`). So a replica
does to its text what an edit means for texts (`Active.edit`), and `setText` sets the text
(`Active.setText`).
-/

namespace Cowrite

namespace Replica

/-- A replica that writes under a number of its own. -/
structure Active (history : History) (replica : Replica) : Prop extends
    Sound history replica where
  settled : replica.Settled
  /-- Everything under its number is its own work. -/
  owns : ∀ operation ∈ history, operation.id.replica = replica.id →
    replica.version.covers operation.id = true

/-- What writing does: the replica and the history grow by operations of the replica, and what
waits keeps waiting. -/
structure Writes (history : History) (before : Replica) (larger : History) (after : Replica) :
    Prop where
  lawful : larger.Lawful
  subset : history ⊆ larger
  own : ∀ operation ∈ larger, operation ∉ history → operation.id.replica = before.id
  active : after.Active larger
  id_eq : after.id = before.id
  waiting_eq : after.waiting = before.waiting
  log_subset : before.log ⊆ after.log
  log_new : ∀ operation ∈ after.log, operation ∈ before.log ∨ operation ∉ history

section

variable {history : History} {replica : Replica}

theorem active_new {id : ReplicaId} (unused : ∀ operation ∈ history, operation.id.replica ≠ id) :
    Active history { id } :=
  { sound_new history id with
    settled := settled_new id
    owns := fun operation present same => absurd same (unused operation present) }

theorem Active.withWalks (active : replica.Active history) (walks : List Walk) :
    Active history { replica with walks } :=
  { active.toSound.withWalks walks with
    settled := active.settled
    owns := active.owns }

/-- A replica need not know what others write. -/
theorem Active.mono {larger : History} (subset : history ⊆ larger)
    (others : ∀ operation ∈ larger, operation ∉ history → operation.id.replica ≠ replica.id)
    (active : replica.Active history) : replica.Active larger := by
  refine { active.toSound.mono subset with settled := active.settled, owns := ?_ }
  intro operation present same
  by_cases old : operation ∈ history
  · exact active.owns operation old same
  · exact absurd same (others operation present old)

/-- What a replica hears of others leaves its own work to it. -/
theorem Active.apply (lawful : history.Lawful) (active : replica.Active history) {update : Update}
    (honest : update.IsFrom history) {after : Replica}
    (applied : replica.apply update = .ok after) :
    after.Active history := by
  have learns := active.toSound.apply lawful active.settled honest applied
  refine { learns.sound with settled := learns.settled, owns := ?_ }
  intro operation present same
  rw [learns.id_eq] at same
  have covered := active.owns operation present same
  rcases (active.covers_iff _).1 covered with ⟨other, inLog, sameId⟩
  rw [← sameId]
  exact learns.sound.covers_of_mem (learns.log_subset inLog)

theorem Writes.refl (lawful : history.Lawful) (active : replica.Active history) :
    Writes history replica history replica :=
  ⟨lawful, subset_rfl, fun _ present new => absurd present new, active, rfl, rfl,
    List.Subset.refl _, fun _ => .inl⟩

theorem Writes.trans {middle larger : History} {between after : Replica}
    (first : Writes history replica middle between)
    (second : Writes middle between larger after) : Writes history replica larger after := by
  refine ⟨second.lawful, first.subset.trans second.subset, ?_, second.active,
    second.id_eq.trans first.id_eq, second.waiting_eq.trans first.waiting_eq,
    fun _ present => second.log_subset (first.log_subset present), ?_⟩
  · intro operation present new
    by_cases early : operation ∈ middle
    · exact first.own operation early new
    · rw [← first.id_eq]
      exact second.own operation present early
  · intro operation present
    rcases second.log_new operation present with early | late
    · exact first.log_new operation early
    · exact .inr fun old => late (first.subset old)

/-! ## Making an operation -/

/-- The operation that a replica makes next. -/
def made (replica : Replica) (action : Action) : Operation :=
  { id := ⟨replica.id, replica.version.count replica.id⟩
    context := replica.version
    action }

theorem not_covers_made (replica : Replica) (action : Action) :
    replica.version.covers (replica.made action).id = false := by
  simp [Version.covers, made]

theorem Active.not_mem_history_made (active : replica.Active history) {action : Action}
    {operation : Operation} (present : operation ∈ history) :
    operation.id ≠ (replica.made action).id := by
  intro same
  have covered := active.owns operation present (by rw [same]; rfl)
  rw [same, not_covers_made] at covered
  exact Bool.noConfusion covered

theorem Active.lawful_insert_made (lawful : history.Lawful) (active : replica.Active history)
    {action : Action} (placed : (replica.made action).IsPlaced history) :
    History.Lawful (insert (replica.made action) history) := by
  have subset : history ⊆ insert (replica.made action) history := Set.subset_insert _ _
  refine ⟨?_, ?_, ?_, ?_, ?_⟩
  · rintro left (rfl | leftOld) right (rfl | rightOld) same
    · rfl
    · exact absurd same.symm (active.not_mem_history_made rightOld)
    · exact absurd same (active.not_mem_history_made leftOld)
    · exact lawful.unique left leftOld right rightOld same
  · rintro operation (rfl | old)
    · exact active.canonical
    · exact lawful.canonical operation old
  · rintro operation (rfl | old)
    · rfl
    · exact lawful.numbered operation old
  · rintro operation (rfl | old) id covered
    · rcases (active.covers_iff id).1 covered with ⟨other, inLog, same⟩
      exact ⟨other, subset (active.known other inLog), same⟩
    · rcases lawful.closed operation old id covered with ⟨other, present, same⟩
      exact ⟨other, subset present, same⟩
  · rintro operation (rfl | old)
    · exact placed.mono subset
    · exact (lawful.placed operation old).mono subset

/-- Nobody has built on an operation before it was made. -/
theorem Active.isReady_bump (lawful : history.Lawful) (active : replica.Active history)
    {operation : Operation} (present : operation ∈ history)
    (waits : isReady replica.version operation = false) :
    isReady (replica.version.bump replica.id) operation = false := by
  by_contra ready
  rw [Bool.not_eq_false, isReady,
    Version.isBelow_iff (lawful.canonical operation present)] at ready
  have below : operation.context.isBelow replica.version = true := by
    rw [Version.isBelow_iff (lawful.canonical operation present)]
    intro maker
    have bumped := ready maker
    rw [Version.count_bump active.canonical] at bumped
    by_cases own : maker = replica.id
    · rw [if_pos own] at bumped
      by_contra more
      have covered : operation.context.covers ⟨maker, replica.version.count maker⟩ = true := by
        rw [Version.covers_iff]
        show replica.version.count maker < operation.context.count maker
        omega
      rcases lawful.closed operation present _ covered with ⟨other, otherMem, same⟩
      have known := active.owns other otherMem (by rw [same]; exact own)
      rw [same, Version.covers_iff] at known
      exact Nat.lt_irrefl _ known
    · rwa [if_neg own] at bumped
  rw [isReady, below] at waits
  exact Bool.noConfusion waits

theorem Active.make (lawful : history.Lawful) (active : replica.Active history) {action : Action}
    (placed : (replica.made action).IsPlaced history) :
    Writes history replica (insert (replica.made action) history) (replica.make action) := by
  have larger := active.lawful_insert_made lawful placed
  have subset : history ⊆ insert (replica.made action) history := Set.subset_insert _ _
  have ready : isReady replica.version (replica.made action) = true := by
    show replica.version.isBelow replica.version = true
    rw [Version.isBelow_iff active.canonical]
    exact fun maker => Nat.le_refl _
  have absent : replica.made action ∉ replica.waiting := by
    intro waits
    exact active.not_mem_history_made (active.waiting_known _ waits) rfl
  have sound := (active.toSound.mono subset).takeUp larger (Set.mem_insert _ _) ready
    (replica.not_covers_made action) (List.Subset.refl _) active.waiting_nodup absent
  refine ⟨larger, subset, ?_, { sound with settled := ?_, owns := ?_ }, rfl, rfl,
    List.subset_cons_self _ _, ?_⟩
  · rintro operation (rfl | old) new
    · rfl
    · exact absurd old new
  · intro operation waits
    exact active.isReady_bump lawful (active.waiting_known operation waits)
      (active.settled operation waits)
  · rintro operation (rfl | old) same
    · exact sound.covers_of_mem (List.mem_cons_self)
    · have covered := active.owns operation old same
      rcases (active.covers_iff _).1 covered with ⟨other, inLog, sameId⟩
      rw [← sameId]
      exact sound.covers_of_mem (List.mem_cons_of_mem _ inLog)
  · intro operation present
    rcases List.mem_cons.1 present with rfl | old
    · exact .inr fun known => active.not_mem_history_made known rfl
    · exact .inl old

/-! ## Single characters -/

/-- A character of the sequence is one that the maker of the next operation knows. -/
theorem Active.knows_of_mem (lawful : history.Lawful) (active : replica.Active history)
    {element : Element} (present : element ∈ replica.sequence) (action : Action) :
    ∃ inserted, (replica.made action).Knows history inserted ∧ inserted.id = element.id ∧
      inserted.path = element.path := by
  rcases ((active.reflects lawful).mem_iff element).1 present with
    ⟨operation, inLog, inserted, inserts, rfl⟩
  exact ⟨inserted, ⟨operation, active.known operation inLog, inserts,
    active.covers_of_mem inLog⟩, rfl, rfl⟩

section

variable {front middle back : Sequence}

theorem Active.insertAt (lawful : history.Lawful) (active : replica.Active history)
    (split : replica.sequence = front ++ (middle ++ back)) (ends : front.EndsVisibly) {index : Nat}
    (inside : index ≤ middle.text.length) (char : Char) :
    ∃ larger later, Writes history replica larger
        (replica.insertAt (front.text.length + index) char) ∧
      (replica.insertAt (front.text.length + index) char).sequence = front ++ (later ++ back) ∧
      later.text = middle.text.take index ++ char :: middle.text.drop index := by
  have sequenceLawful := active.lawful_sequence lawful
  have fresh : (⟨replica.id, replica.version.count replica.id⟩ : OpId) ∉
      replica.sequence.ids := by
    apply (active.reflects lawful).id_not_mem active.causal
    rw [← active.version_eq]
    simp [Version.covers]
  rw [split] at sequenceLawful fresh
  rcases Sequence.exists_typed sequenceLawful ends inside fresh char with
    ⟨place, later, inserted, text⟩
  rw [← split] at place inserted
  have placed : (replica.made (.insert
      (replica.sequence.spotAfter (front.text.length + index)).1
      (replica.sequence.spotAfter (front.text.length + index)).2 char)).IsPlaced history := by
    rcases place.parent with root | ⟨parent, present, isParent⟩
    · exact .inl root
    · rcases active.knows_of_mem lawful present _ with ⟨inserted, knows, _, path⟩
      exact .inr ⟨inserted, knows, path.trans isParent⟩
  exact ⟨_, later, active.make lawful placed, inserted, text⟩

theorem Active.deleteAt (lawful : history.Lawful) (active : replica.Active history)
    (split : replica.sequence = front ++ (middle ++ back)) {index : Nat}
    (inside : index < middle.text.length) :
    ∃ larger later, Writes history replica larger
        (replica.deleteAt (front.text.length + index)) ∧
      (replica.deleteAt (front.text.length + index)).sequence = front ++ (later ++ back) ∧
      later.text = middle.text.take index ++ middle.text.drop (index + 1) := by
  have sequenceLawful := active.lawful_sequence lawful
  rw [split] at sequenceLawful
  rcases Sequence.exists_deleted sequenceLawful inside with
    ⟨element, present, found, later, removed, text⟩
  rw [← split] at present found removed
  have placed : (replica.made (.delete element.id)).IsPlaced history := by
    rcases active.knows_of_mem lawful present _ with ⟨inserted, knows, id, _⟩
    exact ⟨inserted, knows, id⟩
  have deleted : replica.deleteAt (front.text.length + index) =
      replica.make (.delete element.id) := by
    simp [Replica.deleteAt, found]
  rw [deleted]
  exact ⟨_, later, active.make lawful placed, removed, text⟩

/-! ## Runs of characters -/

theorem Active.deleteRun (lawful : history.Lawful) (active : replica.Active history)
    (split : replica.sequence = front ++ (middle ++ back)) {index count : Nat}
    (inside : index + count ≤ middle.text.length) :
    ∃ larger later, Writes history replica larger
        (replica.deleteRun (front.text.length + index) count) ∧
      (replica.deleteRun (front.text.length + index) count).sequence =
        front ++ (later ++ back) ∧
      later.text = middle.text.take index ++ middle.text.drop (index + count) := by
  induction count generalizing history replica middle with
  | zero => exact ⟨history, middle, .refl lawful active, split, by simp⟩
  | succ count ih =>
      have next : index < middle.text.length := by omega
      rcases active.deleteAt lawful split next with ⟨larger, shorter, first, cut, text⟩
      have size : shorter.text.length = middle.text.length - 1 := by
        rw [text]
        simp
        omega
      rcases ih first.lawful first.active cut (by omega) with ⟨largest, later, second, rest, left⟩
      refine ⟨largest, later, first.trans second, rest, ?_⟩
      have early : (middle.text.take index).length = index := by
        simp
        omega
      rw [left, text, List.take_append_of_le_length (by omega),
        List.take_of_length_le (by omega), List.drop_append, List.drop_of_length_le (by omega),
        early, List.nil_append, List.drop_drop]
      congr 2
      omega

theorem Active.insertRun (lawful : history.Lawful) (active : replica.Active history)
    (split : replica.sequence = front ++ (middle ++ back)) (ends : front.EndsVisibly) {index : Nat}
    (inserted : Text) (inside : index ≤ middle.text.length) :
    ∃ larger later, Writes history replica larger
        (replica.insertRun (front.text.length + index) inserted) ∧
      (replica.insertRun (front.text.length + index) inserted).sequence =
        front ++ (later ++ back) ∧
      later.text = middle.text.take index ++ inserted ++ middle.text.drop index := by
  induction inserted generalizing history replica middle index with
  | nil => exact ⟨history, middle, .refl lawful active, split, by simp⟩
  | cons char rest ih =>
      rcases active.insertAt lawful split ends inside char with
        ⟨larger, longer, first, grown, text⟩
      have early : (middle.text.take index).length = index := by
        simp
        omega
      have size : index + 1 ≤ longer.text.length := by
        rw [text, List.length_append, early, List.length_cons]
        omega
      rcases ih first.lawful first.active grown size with ⟨largest, later, second, whole, typed⟩
      refine ⟨largest, later, first.trans second, whole, ?_⟩
      have length : (middle.text.take index ++ [char]).length = index + 1 := by
        rw [List.length_append, early, List.length_singleton]
      have longerText : longer.text =
          (middle.text.take index ++ [char]) ++ middle.text.drop index := by
        rw [text, List.append_assoc, List.singleton_append]
      rw [typed, longerText, ← length, List.take_left, List.drop_left]
      simp

/-! ## Edits -/

/-- An edit within a part of the document changes nothing else of it. -/
theorem Active.editWithin (lawful : history.Lawful) (active : replica.Active history)
    (split : replica.sequence = front ++ (middle ++ back)) (ends : front.EndsVisibly) {edit : Edit}
    {before removed after : Text} (parts : middle.text = before ++ (removed ++ after))
    (start : edit.startIn replica.text = Text.byteSize (front.text ++ before))
    (stop : edit.stopIn replica.text =
      Text.byteSize (front.text ++ before) + Text.byteSize removed) :
    ∃ larger later, Writes history replica larger (replica.edit edit) ∧
      (replica.edit edit).sequence = front ++ (later ++ back) ∧
        later.text = before ++ edit.text ++ after := by
  have whole : replica.text = (front.text ++ before) ++ (removed ++ (after ++ back.text)) := by
    rw [text, split, Sequence.text_append, Sequence.text_append, parts]
    simp
  have upTo : (Text.upTo replica.text (edit.startIn replica.text)).length =
      front.text.length + before.length := by
    rw [start, whole, Text.upTo_append, List.length_append]
  have between : Text.between replica.text (edit.startIn replica.text)
      (edit.stopIn replica.text) = removed := by
    rw [start, stop, whole, Text.between_append]
  have inside : before.length + removed.length ≤ middle.text.length := by
    rw [parts]
    simp
  rcases active.deleteRun lawful split inside with ⟨larger, shorter, removes, cut, rest⟩
  have left : shorter.text = before ++ after := by
    rw [rest, parts, ← List.length_append, ← List.append_assoc before removed after,
      List.drop_left, List.append_assoc, List.take_left]
  have still : before.length ≤ shorter.text.length := by
    simp [left]
  rcases removes.active.insertRun removes.lawful cut ends edit.text still with
    ⟨largest, later, adds, grown, typed⟩
  refine ⟨largest, later, ?_, ?_, ?_⟩
  · simpa [Replica.edit, upTo, between] using removes.trans adds
  · simpa [Replica.edit, upTo, between] using grown
  · rw [typed, left]
    simp

/-- An edit between two boundaries of a part of the document. -/
theorem Active.editInside (lawful : history.Lawful) (active : replica.Active history)
    (split : replica.sequence = front ++ (middle ++ back)) (ends : front.EndsVisibly) {edit : Edit}
    {before removed after : Text} (parts : middle.text = before ++ (removed ++ after))
    (start : edit.start = Text.byteSize (front.text ++ before))
    (stop : edit.stop = Text.byteSize (front.text ++ before) + Text.byteSize removed) :
    ∃ larger later, Writes history replica larger (replica.edit edit) ∧
      (replica.edit edit).sequence = front ++ (later ++ back) ∧
        later.text = before ++ edit.text ++ after := by
  have whole : replica.text = (front.text ++ before) ++ (removed ++ (after ++ back.text)) := by
    rw [text, split, Sequence.text_append, Sequence.text_append, parts]
    simp
  apply active.editWithin lawful split ends parts
  · rw [whole, Edit.startIn_append _ _ start]
  · rw [whole, Edit.stopIn_append _ _ _ start stop]

end

/-- A replica does to its text what an edit means for texts. -/
theorem Active.edit (lawful : history.Lawful) (active : replica.Active history) (edit : Edit) :
    ∃ larger, Writes history replica larger (replica.edit edit) ∧
      (replica.edit edit).text = edit.applyTo replica.text := by
  rcases edit.exists_parts replica.text with ⟨before, removed, after, parts, start, stop⟩
  have split : replica.sequence = [] ++ (replica.sequence ++ []) := by simp
  rcases active.editWithin lawful split (.inl rfl) parts start.symm stop.symm with
    ⟨larger, later, writes, sequence, text⟩
  refine ⟨larger, writes, ?_⟩
  have applied : edit.applyTo replica.text = before ++ edit.text ++ after := by
    rw [Edit.applyTo, ← start, ← stop, parts, Text.splice_append]
  rw [applied, ← text, Replica.text, sequence]
  simp

theorem Active.setText (lawful : history.Lawful) (active : replica.Active history) (text : Text) :
    ∃ larger, Writes history replica larger (replica.setText text) ∧
      (replica.setText text).text = text := by
  have leads := Edit.leads_ofTexts replica.text text
  rw [Replica.setText]
  by_cases noop : (Edit.ofTexts replica.text text).isNoop = true
  · rw [if_pos noop]
    exact ⟨history, .refl lawful active, leads.eq_of_isNoop noop⟩
  · rw [if_neg noop]
    rcases active.edit lawful (Edit.ofTexts replica.text text) with ⟨larger, writes, edited⟩
    exact ⟨larger, writes, edited.trans leads.applyTo_eq⟩

end

end Replica

end Cowrite
