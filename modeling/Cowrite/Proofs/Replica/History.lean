import Cowrite.Proofs.Replica.Version
import Cowrite.Proofs.Replica.Visible
import Cowrite.Replica.Basic
import Mathlib.Data.Set.Insert

/-!
# Histories of a document

A history is the set of all operations that the replicas of one document have made, wherever they
are known. In a lawful history (`History.Lawful`) names are unique, every replica numbers its own
operations without gaps, and an operation builds only on characters that its maker knew.

What a replica holds depends on its log alone: the version counts the log (`Version.ofLog`), and
the sequence performs it from the oldest operation on (`Sequence.ofLog`). A log is causal if every
operation in it comes after all that it may depend on (`Causal`). For causal logs the version says
exactly which operations are in the log (`covers_ofLog_iff`), and the sequence consists of the
inserted characters in reading order, deleted if some operation deletes them (`reflects_ofLog`). So
two logs with the same operations have the same sequence, in whatever order they took them up
(`ofLog_eq_of_mem_iff`).
-/

namespace Cowrite

/-- All operations that the replicas of a document have made. -/
abbrev History := Set Operation

namespace Operation

/-- The character that an operation inserts, as it first stands in a sequence. -/
def element? (operation : Operation) : Option Element :=
  match operation.action with
  | .insert parent side char => some { id := operation.id, parent, side, char }
  | .delete _ => none

/-- Whether an operation deletes the character with a name. -/
def deletes (operation : Operation) (id : OpId) : Bool :=
  match operation.action with
  | .insert _ _ _ => false
  | .delete target => target == id

/-- Whether an operation was made by somebody who knew a character. -/
def Knows (history : History) (operation : Operation) (element : Element) : Prop :=
  ∃ other ∈ history, other.element? = some element ∧ operation.context.covers other.id = true

/-- Whether the characters on which an operation builds were known to its maker. -/
def IsPlaced (history : History) (operation : Operation) : Prop :=
  match operation.action with
  | .insert parent _ _ => parent = [] ∨ ∃ element, operation.Knows history element ∧
      element.path = parent
  | .delete target => ∃ element, operation.Knows history element ∧ element.id = target

theorem id_of_element? {operation : Operation} {element : Element}
    (inserts : operation.element? = some element) : element.id = operation.id := by
  rcases operation with ⟨id, context, action⟩
  cases action with
  | insert parent side char =>
      simp only [element?, Option.some.injEq] at inserts
      rw [← inserts]
  | delete target => simp [element?] at inserts

theorem deleted_of_element? {operation : Operation} {element : Element}
    (inserts : operation.element? = some element) : element.deleted = false := by
  rcases operation with ⟨id, context, action⟩
  cases action with
  | insert parent side char =>
      simp only [element?, Option.some.injEq] at inserts
      rw [← inserts]
  | delete target => simp [element?] at inserts

theorem IsPlaced.mono {history larger : History} (subset : history ⊆ larger)
    {operation : Operation} (placed : operation.IsPlaced history) :
    operation.IsPlaced larger := by
  rcases operation with ⟨id, context, action⟩
  cases action with
  | insert parent side char =>
      rcases placed with root | ⟨element, ⟨other, known, inserts, covered⟩, isParent⟩
      · exact .inl root
      · exact .inr ⟨element, ⟨other, subset known, inserts, covered⟩, isParent⟩
  | delete target =>
      rcases placed with ⟨element, ⟨other, known, inserts, covered⟩, isTarget⟩
      exact ⟨element, ⟨other, subset known, inserts, covered⟩, isTarget⟩

end Operation

/-- A history as replicas make it. -/
structure History.Lawful (history : History) : Prop where
  /-- A name stands for one operation. -/
  unique : ∀ left ∈ history, ∀ right ∈ history, left.id = right.id → left = right
  canonical : ∀ operation ∈ history, operation.context.Canonical
  /-- A replica numbers its operations without gaps. -/
  numbered : ∀ operation ∈ history,
    operation.context.count operation.id.replica = operation.id.index
  /-- Whatever an operation may depend on was made. -/
  closed : ∀ operation ∈ history, ∀ id, operation.context.covers id = true →
    ∃ other ∈ history, other.id = id
  placed : ∀ operation ∈ history, operation.IsPlaced history

theorem History.lawful_empty : History.Lawful ∅ :=
  ⟨by simp, by simp, by simp, by simp, by simp⟩

/-! ## Versions of logs -/

/-- The version that counts a log, given newest first. -/
def Version.ofLog : List Operation → Version
  | [] => .empty
  | operation :: older => (ofLog older).bump operation.id.replica

/-- Whether every operation of a log, given newest first, comes after what it may depend on. -/
def Causal : List Operation → Prop
  | [] => True
  | operation :: older =>
      operation.context.isBelow (Version.ofLog older) = true ∧
        operation.id.index = (Version.ofLog older).count operation.id.replica ∧ Causal older

namespace Version

theorem canonical_ofLog (log : List Operation) : (ofLog log).Canonical := by
  induction log with
  | nil => exact canonical_empty
  | cons operation older ih => exact canonical_bump ih _

theorem covers_ofLog_iff {log : List Operation} (causal : Causal log) (id : OpId) :
    (ofLog log).covers id = true ↔ ∃ operation ∈ log, operation.id = id := by
  induction log with
  | nil => simp [ofLog, covers]
  | cons operation older ih =>
      rcases causal with ⟨_, numbered, olderCausal⟩
      have older_iff := ih olderCausal
      rw [covers_iff] at older_iff
      rw [covers_iff, ofLog, count_bump (canonical_ofLog older)]
      simp only [List.mem_cons, exists_eq_or_imp]
      rw [← older_iff]
      by_cases own : id.replica = operation.id.replica
      · have same : operation.id = id ↔ id.index = operation.id.index := by
          constructor
          · rintro rfl
            rfl
          · intro sameIndex
            cases id
            cases eq : operation.id
            simp_all
        rw [if_pos own, same, numbered, own]
        omega
      · have differ : operation.id ≠ id := by
          rintro rfl
          exact own rfl
        rw [if_neg own]
        simp [differ]

end Version

theorem Causal.not_covers_head {operation : Operation} {older : List Operation}
    (causal : Causal (operation :: older)) :
    (Version.ofLog older).covers operation.id = false := by
  have := causal.2.1
  simp [Version.covers, this]

theorem Causal.ids_nodup {log : List Operation} (causal : Causal log) :
    (log.map (·.id)).Nodup := by
  induction log with
  | nil => simp
  | cons operation older ih =>
      rw [List.map_cons, List.nodup_cons]
      refine ⟨?_, ih causal.2.2⟩
      intro repeated
      rcases List.mem_map.1 repeated with ⟨other, present, same⟩
      have covered := (Version.covers_ofLog_iff causal.2.2 operation.id).2 ⟨other, present, same⟩
      simp [causal.not_covers_head] at covered

theorem Causal.nodup {log : List Operation} (causal : Causal log) : log.Nodup :=
  causal.ids_nodup.of_map

/-! ## Sequences of logs -/

namespace Sequence

/-- The sequence that performs a log, given newest first. -/
def ofLog : List Operation → Sequence
  | [] => []
  | operation :: older => Replica.perform (ofLog older) operation

/-- A character as it stands after a log: deleted if an operation there deletes it. -/
def shown (log : List Operation) (element : Element) : Element :=
  { element with deleted := log.any (·.deletes element.id) }

@[simp]
theorem id_shown (log : List Operation) (element : Element) : (shown log element).id = element.id :=
  rfl

@[simp]
theorem path_shown (log : List Operation) (element : Element) :
    (shown log element).path = element.path := rfl

theorem shown_cons_of_insert {operation : Operation} {inserted : Element}
    (inserts : operation.element? = some inserted) (older : List Operation) (element : Element) :
    shown (operation :: older) element = shown older element := by
  have keeps : operation.deletes element.id = false := by
    rcases operation with ⟨id, context, action⟩
    cases action with
    | insert parent side char => rfl
    | delete target => simp [Operation.element?] at inserts
  simp [shown, keeps]

/-- What is known of the sequence of a log. -/
structure Reflects (log : List Operation) (sequence : Sequence) : Prop where
  lawful : sequence.Lawful
  mem_iff : ∀ element, element ∈ sequence ↔
    ∃ operation ∈ log, ∃ inserted, operation.element? = some inserted ∧
      element = shown log inserted

theorem Reflects.mem_of_covers {history : History} (lawful : history.Lawful)
    {log : List Operation} (known : ∀ operation ∈ log, operation ∈ history)
    (causal : Causal log) {sequence : Sequence} (reflects : Reflects log sequence)
    {operation : Operation} {element : Element} (knows : operation.Knows history element)
    (below : operation.context.isBelow (Version.ofLog log) = true) :
    shown log element ∈ sequence := by
  rcases knows with ⟨other, otherMem, inserts, covered⟩
  have taken := Version.covers_of_isBelow below covered
  rcases (Version.covers_ofLog_iff causal other.id).1 taken with ⟨found, foundMem, same⟩
  have : found = other := lawful.unique found (known found foundMem) other otherMem same
  subst this
  exact (reflects.mem_iff _).2 ⟨found, foundMem, element, inserts, rfl⟩

theorem Reflects.id_not_mem {log : List Operation} (causal : Causal log) {sequence : Sequence}
    (reflects : Reflects log sequence) {id : OpId}
    (uncovered : (Version.ofLog log).covers id = false) : id ∉ sequence.ids := by
  intro present
  rcases mem_ids.1 present with ⟨element, elementMem, same⟩
  rcases (reflects.mem_iff element).1 elementMem with ⟨operation, inLog, inserted, inserts, rfl⟩
  have covered := (Version.covers_ofLog_iff causal id).2
    ⟨operation, inLog, by rw [← Operation.id_of_element? inserts, ← same]; rfl⟩
  simp [uncovered] at covered

/-- A character whose name is new to a log has not been deleted there. -/
theorem shown_eq_self_of_new {history : History} (lawful : history.Lawful)
    {log : List Operation} (known : ∀ operation ∈ log, operation ∈ history) (causal : Causal log)
    {element : Element} (visible : element.deleted = false)
    (uncovered : (Version.ofLog log).covers element.id = false) : shown log element = element := by
  have kept : log.any (·.deletes element.id) = false := by
    rw [List.any_eq_false]
    intro operation present deleted
    induction log with
    | nil => simp at present
    | cons newest older ih =>
        have olderUncovered : (Version.ofLog older).covers element.id = false := by
          by_contra covered
          rw [Bool.not_eq_false] at covered
          rcases (Version.covers_ofLog_iff causal.2.2 element.id).1 covered with
            ⟨other, otherMem, same⟩
          have := (Version.covers_ofLog_iff causal element.id).2
            ⟨other, List.mem_cons_of_mem _ otherMem, same⟩
          simp [uncovered] at this
        rcases List.mem_cons.1 present with rfl | earlier
        · have inHistory := known operation (by simp)
          have placed := lawful.placed operation inHistory
          rcases operation with ⟨id, context, action⟩
          cases action with
          | insert parent side char => simp [Operation.deletes] at deleted
          | delete target =>
              rcases placed with ⟨target', ⟨other, _, inserts, covered⟩, isTarget⟩
              simp only [Operation.deletes, beq_iff_eq] at deleted
              have taken := Version.covers_of_isBelow causal.1 covered
              rw [← Operation.id_of_element? inserts, isTarget, deleted] at taken
              simp [olderUncovered] at taken
        · exact ih (fun other otherMem => known other (List.mem_cons_of_mem _ otherMem))
            causal.2.2 olderUncovered earlier
  cases element
  simp_all [shown]

theorem reflects_insert {history : History} (lawful : history.Lawful) {operation : Operation}
    {older : List Operation}
    (known : ∀ other ∈ operation :: older, other ∈ history)
    (causal : Causal (operation :: older)) {sequence : Sequence}
    (reflects : Reflects older sequence) {element : Element}
    (inserts : operation.element? = some element) :
    Reflects (operation :: older) (sequence.insert element) := by
  have inHistory := known operation (by simp)
  have olderKnown : ∀ other ∈ older, other ∈ history := fun other present =>
    known other (List.mem_cons_of_mem _ present)
  have named := Operation.id_of_element? inserts
  have fresh : element.id ∉ sequence.ids := by
    rw [named]
    exact reflects.id_not_mem causal.2.2 causal.not_covers_head
  have place : sequence.HasPlaceFor element := by
    refine ⟨?_, fresh⟩
    have placed := lawful.placed operation inHistory
    rcases operation with ⟨id, context, action⟩
    cases action with
    | insert parent side char =>
        simp only [Operation.element?, Option.some.injEq] at inserts
        subst inserts
        rcases placed with root | ⟨other, knows, isParent⟩
        · exact .inl root
        · refine .inr ⟨shown older other, ?_, isParent⟩
          exact reflects.mem_of_covers lawful olderKnown causal.2.2 knows causal.1
    | delete target => simp [Operation.element?] at inserts
  refine ⟨lawful_insert reflects.lawful place, ?_⟩
  intro other
  rw [(perm_insert sequence element).mem_iff, List.mem_cons, reflects.mem_iff]
  have whole : shown (operation :: older) element = element := by
    rw [shown_cons_of_insert inserts]
    apply shown_eq_self_of_new lawful olderKnown causal.2.2 (Operation.deleted_of_element? inserts)
    rw [named]
    exact causal.not_covers_head
  simp only [shown_cons_of_insert inserts, List.mem_cons, exists_eq_or_imp, inserts,
    Option.some.injEq, exists_eq_left']
  rw [← shown_cons_of_insert inserts older element, whole]

theorem reflects_delete {operation : Operation} {older : List Operation} {target : OpId}
    (deletes : operation.action = .delete target) {sequence : Sequence}
    (reflects : Reflects older sequence) :
    Reflects (operation :: older) (sequence.delete target) := by
  refine ⟨lawful_delete reflects.lawful target, ?_⟩
  have none : operation.element? = none := by simp [Operation.element?, deletes]
  have shown_eq : ∀ inserted : Element, shown (operation :: older) inserted =
      if (shown older inserted).id = target then
        { shown older inserted with deleted := true } else shown older inserted := by
    intro inserted
    by_cases hit : inserted.id = target
    · simp [shown, Operation.deletes, deletes, hit]
    · have : ¬target = inserted.id := fun same => hit same.symm
      simp [shown, Operation.deletes, deletes, hit, this]
  intro element
  simp only [delete, List.mem_map, List.mem_cons, exists_eq_or_imp, none]
  constructor
  · rintro ⟨other, present, rfl⟩
    rcases (reflects.mem_iff other).1 present with ⟨made, inLog, inserted, inserts, rfl⟩
    exact .inr ⟨made, inLog, inserted, inserts, (shown_eq inserted).symm⟩
  · rintro (⟨inserted, impossible, _⟩ | ⟨made, inLog, inserted, inserts, rfl⟩)
    · simp at impossible
    · refine ⟨shown older inserted, ?_, ?_⟩
      · exact (reflects.mem_iff _).2 ⟨made, inLog, inserted, inserts, rfl⟩
      · exact (shown_eq inserted).symm

/-- The sequence of a causal log consists of its characters in reading order. -/
theorem reflects_ofLog {history : History} (lawful : history.Lawful) {log : List Operation}
    (known : ∀ operation ∈ log, operation ∈ history) (causal : Causal log) :
    Reflects log (ofLog log) := by
  induction log with
  | nil => exact ⟨lawful_nil, by simp [ofLog]⟩
  | cons operation older ih =>
      have reflects := ih (fun other present => known other (List.mem_cons_of_mem _ present))
        causal.2.2
      cases action : operation.action with
      | insert parent side char =>
          have inserts : operation.element? = some { id := operation.id, parent, side, char } := by
            simp [Operation.element?, action]
          simpa [ofLog, Replica.perform, action] using
            reflects_insert lawful known causal reflects inserts
      | delete target =>
          simpa [ofLog, Replica.perform, action] using reflects_delete action reflects

/-- Logs with the same operations have the same sequence. -/
theorem ofLog_eq_of_mem_iff {history : History} (lawful : history.Lawful)
    {left right : List Operation} (leftKnown : ∀ operation ∈ left, operation ∈ history)
    (leftCausal : Causal left) (rightCausal : Causal right)
    (same : ∀ operation, operation ∈ left ↔ operation ∈ right) : ofLog left = ofLog right := by
  have leftReflects := reflects_ofLog lawful leftKnown leftCausal
  have rightReflects := reflects_ofLog lawful
    (fun operation present => leftKnown operation ((same operation).2 present)) rightCausal
  have shown_eq : ∀ element, shown left element = shown right element := by
    intro element
    have : left.any (·.deletes element.id) = right.any (·.deletes element.id) := by
      rw [Bool.eq_iff_iff, List.any_eq_true, List.any_eq_true]
      simp only [same]
    simp [shown, this]
  have nodup : ∀ sequence : Sequence, sequence.Lawful → sequence.Nodup := fun _ ok =>
    ok.distinct.of_map
  apply eq_of_perm leftReflects.lawful.sorted rightReflects.lawful.sorted
  rw [List.perm_ext_iff_of_nodup (nodup _ leftReflects.lawful) (nodup _ rightReflects.lawful)]
  intro element
  rw [leftReflects.mem_iff, rightReflects.mem_iff]
  simp only [same, shown_eq]

end Sequence

end Cowrite
