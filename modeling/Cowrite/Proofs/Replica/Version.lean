import Cowrite.Replica.Version
import Mathlib.Tactic.Common

/-!
# The order of versions

A version is compared and changed through its counts, but it is kept as a list. This file shows
that the list does not matter: on canonical versions (`Version.Canonical`), which are the only
ones that replicas make, setting a count does what it says (`count_set`), one version is below
another exactly if all of its counts are (`isBelow_iff`), and two versions with the same counts
are the same (`ext_of_count`).
-/

namespace Cowrite

namespace Version

/-- Counts in the order of their replicas, none of them zero. -/
def CanonicalCounts (counts : List (ReplicaId × Nat)) : Prop :=
  counts.Pairwise (fun left right => left.1 < right.1) ∧ ∀ entry ∈ counts, entry.2 ≠ 0

/-- A version in the form in which replicas keep versions. -/
def Canonical (version : Version) : Prop :=
  CanonicalCounts version.counts

theorem canonicalCounts_of_cons {entry : ReplicaId × Nat} {rest : List (ReplicaId × Nat)}
    (canonical : CanonicalCounts (entry :: rest)) : CanonicalCounts rest := by
  rcases canonical with ⟨sorted, positive⟩
  refine ⟨(List.pairwise_cons.1 sorted).2, ?_⟩
  intro other present
  exact positive other (List.mem_cons_of_mem _ present)

theorem lt_of_canonicalCounts_cons {entry : ReplicaId × Nat} {rest : List (ReplicaId × Nat)}
    (canonical : CanonicalCounts (entry :: rest)) {other : ReplicaId × Nat}
    (present : other ∈ rest) : entry.1 < other.1 :=
  (List.pairwise_cons.1 canonical.1).1 other present

/-! ## Counts -/

theorem countIn_eq_zero_of_forall_ne {replica : ReplicaId} {counts : List (ReplicaId × Nat)}
    (absent : ∀ entry ∈ counts, entry.1 ≠ replica) : countIn replica counts = 0 := by
  induction counts with
  | nil => rfl
  | cons entry rest ih =>
      have differs : entry.1 ≠ replica := absent entry (by simp)
      rw [countIn, if_neg differs]
      exact ih fun other present => absent other (List.mem_cons_of_mem _ present)

theorem countIn_eq_zero_of_lt {replica : ReplicaId} {entry : ReplicaId × Nat}
    {rest : List (ReplicaId × Nat)} (canonical : CanonicalCounts (entry :: rest))
    (before : replica ≤ entry.1) : countIn replica rest = 0 := by
  apply countIn_eq_zero_of_forall_ne
  intro other present
  exact Nat.ne_of_gt (Nat.lt_of_le_of_lt before (lt_of_canonicalCounts_cons canonical present))

theorem countIn_eq_of_mem {counts : List (ReplicaId × Nat)} (canonical : CanonicalCounts counts)
    {entry : ReplicaId × Nat} (present : entry ∈ counts) :
    countIn entry.1 counts = entry.2 := by
  induction counts with
  | nil => simp at present
  | cons first rest ih =>
      rcases List.mem_cons.1 present with rfl | later
      · simp [countIn]
      · have before := lt_of_canonicalCounts_cons canonical later
        rw [countIn, if_neg (Nat.ne_of_lt before)]
        exact ih (canonicalCounts_of_cons canonical) later

theorem mem_of_countIn_ne_zero {replica : ReplicaId} {counts : List (ReplicaId × Nat)}
    (known : countIn replica counts ≠ 0) : (replica, countIn replica counts) ∈ counts := by
  induction counts with
  | nil => simp [countIn] at known
  | cons entry rest ih =>
      by_cases same : entry.1 = replica
      · subst same
        simp [countIn]
      · rw [countIn, if_neg same] at known ⊢
        exact List.mem_cons_of_mem _ (ih known)

@[simp]
theorem count_empty (replica : ReplicaId) : empty.count replica = 0 := rfl

theorem canonical_empty : empty.Canonical :=
  ⟨List.Pairwise.nil, by simp [empty]⟩

/-! ## Setting a count -/

theorem mem_setIn {replica : ReplicaId} {number : Nat} {counts : List (ReplicaId × Nat)}
    {entry : ReplicaId × Nat} (present : entry ∈ setIn replica number counts) :
    (entry = (replica, number) ∧ number ≠ 0) ∨ entry ∈ counts := by
  induction counts with
  | nil =>
      rw [setIn] at present
      split at present <;> simp_all
  | cons first rest ih =>
      simp only [setIn] at present
      split at present
      · rcases List.mem_cons.1 present with rfl | later
        · simp
        · rcases ih later with new | old
          · exact .inl new
          · exact .inr (List.mem_cons_of_mem _ old)
      · split at present <;> split at present <;> simp_all
        tauto

theorem canonicalCounts_setIn (replica : ReplicaId) (number : Nat)
    {counts : List (ReplicaId × Nat)} (canonical : CanonicalCounts counts) :
    CanonicalCounts (setIn replica number counts) := by
  refine ⟨?_, ?_⟩
  · induction counts with
    | nil =>
        rw [setIn]
        split <;> simp
    | cons first rest ih =>
        have tail := canonicalCounts_of_cons canonical
        have later : ∀ other ∈ rest, first.1 < other.1 := fun _ =>
          lt_of_canonicalCounts_cons canonical
        simp only [setIn]
        by_cases before : first.1 < replica
        · rw [if_pos before]
          refine List.pairwise_cons.2 ⟨?_, ih tail⟩
          intro other present
          rcases mem_setIn present with ⟨rfl, _⟩ | old
          · exact before
          · exact later other old
        · rw [if_neg before]
          by_cases same : first.1 = replica
          · rw [if_pos same]
            split
            · exact tail.1
            · refine List.pairwise_cons.2 ⟨?_, tail.1⟩
              intro other present
              have := later other present
              simpa [← same] using this
          · rw [if_neg same]
            split
            · exact canonical.1
            · refine List.pairwise_cons.2 ⟨?_, canonical.1⟩
              have after : replica < first.1 :=
                Nat.lt_of_le_of_ne (Nat.le_of_not_lt before) (Ne.symm same)
              intro other present
              rcases List.mem_cons.1 present with rfl | old
              · exact after
              · exact Nat.lt_trans after (later other old)
  · intro entry present
    rcases mem_setIn present with ⟨rfl, positive⟩ | old
    · exact positive
    · exact canonical.2 entry old

theorem canonical_set {version : Version} (canonical : version.Canonical) (replica : ReplicaId)
    (number : Nat) : (version.set replica number).Canonical :=
  canonicalCounts_setIn replica number canonical

theorem canonical_bump {version : Version} (canonical : version.Canonical)
    (replica : ReplicaId) : (version.bump replica).Canonical :=
  canonical_set canonical replica _

theorem countIn_setIn (replica : ReplicaId) (number : Nat) (other : ReplicaId)
    {counts : List (ReplicaId × Nat)} (canonical : CanonicalCounts counts) :
    countIn other (setIn replica number counts) =
      if other = replica then number else countIn other counts := by
  induction counts with
  | nil =>
      by_cases zero : number = 0
      · simp [setIn, countIn, zero]
      · simp [setIn, countIn, zero, eq_comm]
  | cons first rest ih =>
      have tail := canonicalCounts_of_cons canonical
      simp only [setIn]
      by_cases before : first.1 < replica
      · rw [if_pos before, countIn, ih tail, countIn]
        by_cases asked : first.1 = other
        · have : other ≠ replica := by
            subst asked
            exact Nat.ne_of_lt before
          simp [asked, this]
        · simp [asked]
      · have absent : countIn replica rest = 0 :=
          countIn_eq_zero_of_lt canonical (Nat.le_of_not_lt before)
        rw [if_neg before]
        by_cases same : first.1 = replica
        · by_cases asked : other = replica
          · subst asked
            by_cases zero : number = 0 <;> simp [same, zero, countIn, absent]
          · have : ¬replica = other := fun eq => asked eq.symm
            by_cases zero : number = 0 <;> simp [same, zero, countIn, asked, this]
        · by_cases asked : other = replica
          · subst asked
            by_cases zero : number = 0 <;> simp [same, zero, countIn, absent]
          · have : ¬replica = other := fun eq => asked eq.symm
            by_cases zero : number = 0 <;> simp [same, zero, countIn, asked, this]

theorem count_set {version : Version} (canonical : version.Canonical) (replica : ReplicaId)
    (number : Nat) (other : ReplicaId) :
    (version.set replica number).count other =
      if other = replica then number else version.count other :=
  countIn_setIn replica number other canonical

theorem count_bump {version : Version} (canonical : version.Canonical)
    (replica other : ReplicaId) :
    (version.bump replica).count other =
      if other = replica then version.count replica + 1 else version.count other :=
  count_set canonical replica _ other

/-! ## Comparing -/

theorem count_le_of_isBelow {left right : Version} (below : left.isBelow right = true)
    (replica : ReplicaId) : left.count replica ≤ right.count replica := by
  simp only [isBelow, List.all_eq_true, decide_eq_true_eq] at below
  by_cases known : left.count replica = 0
  · omega
  · exact below _ (mem_of_countIn_ne_zero known)

theorem isBelow_iff {left right : Version} (canonical : left.Canonical) :
    left.isBelow right = true ↔ ∀ replica, left.count replica ≤ right.count replica := by
  constructor
  · exact count_le_of_isBelow
  · intro below
    simp only [isBelow, List.all_eq_true, decide_eq_true_eq]
    intro entry present
    have := below entry.1
    rwa [count, countIn_eq_of_mem canonical present] at this

theorem count_eq_of_agreesWith {left right : Version} (agrees : left.agreesWith right = true)
    (replica : ReplicaId) : left.count replica = right.count replica := by
  rw [agreesWith, Bool.and_eq_true] at agrees
  exact Nat.le_antisymm (count_le_of_isBelow agrees.1 replica)
    (count_le_of_isBelow agrees.2 replica)

theorem agreesWith_iff {left right : Version} (leftCanonical : left.Canonical)
    (rightCanonical : right.Canonical) :
    left.agreesWith right = true ↔ ∀ replica, left.count replica = right.count replica := by
  constructor
  · exact count_eq_of_agreesWith
  · intro same
    rw [agreesWith, Bool.and_eq_true, isBelow_iff leftCanonical, isBelow_iff rightCanonical]
    exact ⟨fun replica => Nat.le_of_eq (same replica),
      fun replica => Nat.le_of_eq (same replica).symm⟩

theorem covers_iff {version : Version} {id : OpId} :
    version.covers id = true ↔ id.index < version.count id.replica := by
  simp [covers]

theorem covers_of_isBelow {left right : Version} (below : left.isBelow right = true) {id : OpId}
    (covered : left.covers id = true) : right.covers id = true := by
  have := count_le_of_isBelow below id.replica
  rw [covers_iff] at covered ⊢
  omega

/-- Two lists of counts in canonical form that count the same are the same. -/
theorem canonicalCounts_ext {left right : List (ReplicaId × Nat)}
    (leftCanonical : CanonicalCounts left) (rightCanonical : CanonicalCounts right)
    (same : ∀ replica, countIn replica left = countIn replica right) : left = right := by
  have mem_iff : ∀ entry, entry ∈ left ↔ entry ∈ right := by
    intro entry
    constructor
    · intro present
      have counted := countIn_eq_of_mem leftCanonical present
      have known := leftCanonical.2 entry present
      have := @mem_of_countIn_ne_zero entry.1 right (by
        rw [← same, counted]
        exact known)
      rwa [← same, counted] at this
    · intro present
      have counted := countIn_eq_of_mem rightCanonical present
      have known := rightCanonical.2 entry present
      have := @mem_of_countIn_ne_zero entry.1 left (by
        rw [same, counted]
        exact known)
      rwa [same, counted] at this
  have nodup : ∀ counts, CanonicalCounts counts → counts.Nodup := by
    intro counts canonical
    exact canonical.1.imp (fun lt eq => by simp [eq] at lt)
  have perm := (List.perm_ext_iff_of_nodup (nodup left leftCanonical)
    (nodup right rightCanonical)).2 mem_iff
  refine perm.eq_of_pairwise ?_ leftCanonical.1 rightCanonical.1
  intro first second _ _ before after
  exact absurd after (Nat.lt_asymm before)

theorem ext_of_count {left right : Version} (leftCanonical : left.Canonical)
    (rightCanonical : right.Canonical)
    (same : ∀ replica, left.count replica = right.count replica) : left = right := by
  cases left
  cases right
  congr 1
  exact canonicalCounts_ext leftCanonical rightCanonical same

end Version

end Cowrite
