import Cowrite.Replica.Path
import Mathlib.Data.List.Lex
import Mathlib.Data.Prod.Lex
import Mathlib.Tactic.Common

/-!
# The reading order of places

`Path.order` compares two paths from the root. To see that this is a strict total order, every
step is turned into a key, and the end of a path into a key of its own that lies between the keys
of the two sides (`Path.code`): the comparison is then the lexicographic one of lists of keys
(`orderFromRoot_eq_lt_iff`), and the laws of an order come from there.

The other facts are about the tree. A child stands on its side of its parent, and nothing that
does not descend from the parent stands between the two. So a new character that becomes the child
of one of its two neighbours, as `Path.spotBetween` has it, stands between the two
(`before_of_spotBetween`), whatever its name is.
-/

namespace Cowrite

/-- A step as a number for its side and the name of the character. -/
abbrev Step.Key := ℕ ×ₗ ℕ ×ₗ ℕ

namespace OpId

theorem order_eq_lt_iff (left right : OpId) :
    left.order right = .lt ↔
      toLex (left.replica, left.index) < toLex (right.replica, right.index) := by
  simp only [order, Ordering.then_eq_lt, Nat.compare_eq_lt, Nat.compare_eq_eq,
    Prod.Lex.toLex_lt_toLex]

theorem order_eq_eq_iff (left right : OpId) : left.order right = .eq ↔ left = right := by
  cases left
  cases right
  simp [order, Ordering.then_eq_eq]

end OpId

namespace Step

/-- The place of a step among all steps and the end of a path. -/
def key (step : Step) : Key :=
  toLex (match step.side with
    | .before => 0
    | .behind => 2, toLex (step.id.replica, step.id.index))

/-- The key of the end of a path: behind what is before it, and before what is behind it. -/
def endKey : Key :=
  toLex (1, toLex (0, 0))

theorem order_eq_lt_iff (left right : Step) :
    left.order right = .lt ↔ left.key < right.key := by
  rcases left with ⟨leftSide, leftId⟩
  rcases right with ⟨rightSide, rightId⟩
  cases leftSide <;> cases rightSide <;>
    simp [order, key, Prod.Lex.toLex_lt_toLex, OpId.order_eq_lt_iff]

theorem order_eq_eq_iff (left right : Step) : left.order right = .eq ↔ left = right := by
  rcases left with ⟨leftSide, leftId⟩
  rcases right with ⟨rightSide, rightId⟩
  cases leftSide <;> cases rightSide <;> simp [order, OpId.order_eq_eq_iff]

theorem key_injective : Function.Injective key := by
  intro left right same
  rcases left with ⟨leftSide, leftReplica, leftIndex⟩
  rcases right with ⟨rightSide, rightReplica, rightIndex⟩
  cases leftSide <;> cases rightSide <;> simp_all [key]

theorem key_ne_endKey (step : Step) : step.key ≠ endKey := by
  rcases step with ⟨side, id⟩
  cases side <;> simp [key, endKey]

theorem orderOfEnd_eq_lt_iff (step : Step) : step.orderOfEnd = .lt ↔ endKey < step.key := by
  rcases step with ⟨side, id⟩
  cases side <;> simp [orderOfEnd, key, endKey, Prod.Lex.toLex_lt_toLex]

theorem swap_orderOfEnd_eq_lt_iff (step : Step) :
    step.orderOfEnd.swap = .lt ↔ step.key < endKey := by
  rcases step with ⟨side, id⟩
  cases side <;> simp [orderOfEnd, key, endKey, Prod.Lex.toLex_lt_toLex]

end Step

namespace Path

/-- The keys of a path, given from the root on, and that of its end. -/
def code : List Step → List Step.Key
  | [] => [Step.endKey]
  | step :: rest => step.key :: code rest

theorem orderFromRoot_eq_lt_iff (left right : List Step) :
    orderFromRoot left right = .lt ↔ code left < code right := by
  induction left generalizing right with
  | nil =>
      cases right with
      | nil => simp [orderFromRoot, code]
      | cons step rest =>
          simp only [orderFromRoot, code, Step.orderOfEnd_eq_lt_iff, List.cons_lt_cons_iff]
          have := step.key_ne_endKey
          simp [this.symm]
  | cons step rest ih =>
      cases right with
      | nil =>
          simp only [orderFromRoot, code, Step.swap_orderOfEnd_eq_lt_iff, List.cons_lt_cons_iff]
          have := step.key_ne_endKey
          simp [this]
      | cons other others =>
          simp only [orderFromRoot, code, List.cons_lt_cons_iff]
          have lt_iff := Step.order_eq_lt_iff step other
          have eq_iff := Step.order_eq_eq_iff step other
          cases decided : step.order other with
          | lt =>
              have := lt_iff.1 decided
              simp [this]
          | eq =>
              have same := eq_iff.1 decided
              subst same
              simp [ih]
          | gt =>
              have notLt : ¬step.key < other.key := fun lt => by simp [lt_iff.2 lt] at decided
              have notSame : step.key ≠ other.key := fun same => by
                simp [eq_iff.2 (Step.key_injective same)] at decided
              simp [notLt, notSame]

theorem code_injective : Function.Injective code := by
  intro left right same
  induction left generalizing right with
  | nil =>
      cases right with
      | nil => rfl
      | cons step rest =>
          simp only [code, List.cons.injEq] at same
          exact absurd same.1.symm step.key_ne_endKey
  | cons step rest ih =>
      cases right with
      | nil =>
          simp only [code, List.cons.injEq] at same
          exact absurd same.1 step.key_ne_endKey
      | cons other others =>
          simp only [code, List.cons.injEq] at same
          rw [Step.key_injective same.1, ih same.2]

/-! ## The order of paths -/

/-- Whether the one path comes before the other in reading order. -/
def Before (left right : Path) : Prop :=
  left.order right = .lt

theorem before_iff (left right : Path) :
    Before left right ↔ code left.reverse < code right.reverse :=
  orderFromRoot_eq_lt_iff _ _

theorem Before.trans {first second third : Path} (one : Before first second)
    (two : Before second third) : Before first third := by
  rw [before_iff] at *
  exact lt_trans one two

theorem not_before_self (path : Path) : ¬Before path path := by
  rw [before_iff]
  exact lt_irrefl _

theorem Before.asymm {left right : Path} (before : Before left right) : ¬Before right left :=
  fun after => not_before_self left (before.trans after)

theorem before_or_before_of_ne {left right : Path} (differ : left ≠ right) :
    Before left right ∨ Before right left := by
  rw [before_iff, before_iff]
  apply lt_or_gt_of_ne
  intro same
  exact differ (List.reverse_injective (code_injective same))

/-! ## Parents and children -/

theorem orderFromRoot_append_behind (path : List Step) (id : OpId) :
    orderFromRoot path (path ++ [⟨.behind, id⟩]) = .lt := by
  induction path with
  | nil => rfl
  | cons step rest ih =>
      have same := (Step.order_eq_eq_iff step step).2 rfl
      simp [orderFromRoot, same, ih]

theorem orderFromRoot_append_before (path : List Step) (id : OpId) :
    orderFromRoot (path ++ [⟨.before, id⟩]) path = .lt := by
  induction path with
  | nil => rfl
  | cons step rest ih =>
      have same := (Step.order_eq_eq_iff step step).2 rfl
      simp [orderFromRoot, same, ih]

/-- A child behind its parent comes after it. -/
theorem before_child_behind (parent : Path) (id : OpId) :
    Before parent (⟨.behind, id⟩ :: parent) := by
  simpa [Before, order] using orderFromRoot_append_behind parent.reverse id

/-- A child before its parent precedes it. -/
theorem child_before_before (parent : Path) (id : OpId) :
    Before (⟨.before, id⟩ :: parent) parent := by
  simpa [Before, order] using orderFromRoot_append_before parent.reverse id

theorem orderFromRoot_append_lt_of_not_prefix {left right : List Step} (last : Step)
    (lt : orderFromRoot left right = .lt) (apart : ¬left <+: right) :
    orderFromRoot (left ++ [last]) right = .lt := by
  induction left generalizing right with
  | nil => exact absurd right.nil_prefix apart
  | cons step rest ih =>
      cases right with
      | nil => simpa [orderFromRoot] using lt
      | cons other others =>
          simp only [List.cons_append, orderFromRoot] at lt ⊢
          cases decided : step.order other with
          | lt => rfl
          | eq =>
              have same := (Step.order_eq_eq_iff step other).1 decided
              subst same
              simp only [decided] at lt ⊢
              apply ih lt
              intro isPrefix
              exact apart (List.cons_prefix_cons.2 ⟨rfl, isPrefix⟩)
          | gt => simp [decided] at lt

theorem orderFromRoot_append_right_lt {left right : List Step} (last : Step)
    (lt : orderFromRoot left right = .lt) (inside : left <+: right) :
    orderFromRoot left (right ++ [last]) = .lt := by
  induction left generalizing right with
  | nil =>
      cases right with
      | nil => simp [orderFromRoot] at lt
      | cons other others => simpa [orderFromRoot] using lt
  | cons step rest ih =>
      cases right with
      | nil => simp at inside
      | cons other others =>
          rcases List.cons_prefix_cons.1 inside with ⟨same, within⟩
          subst same
          have equal := (Step.order_eq_eq_iff step step).2 rfl
          simp only [orderFromRoot, equal, List.cons_append] at lt ⊢
          exact ih lt within

theorem isSuffixOf_of_descendsFrom {path ancestor : Path}
    (descends : descendsFrom path ancestor = true) : ancestor <:+ path := by
  simp only [descendsFrom, Bool.and_eq_true, decide_eq_true_eq, List.isSuffixOf_iff_suffix]
    at descends
  exact descends.2

theorem descendsFrom_of_isSuffixOf {path ancestor : Path} (suffix : ancestor <:+ path)
    (differ : ancestor ≠ path) : descendsFrom path ancestor = true := by
  simp only [descendsFrom, Bool.and_eq_true, decide_eq_true_eq, List.isSuffixOf_iff_suffix]
  refine ⟨lt_of_le_of_ne suffix.length_le ?_, suffix⟩
  intro same
  exact differ (suffix.eq_of_length same)

theorem spotBetween_eq (left right : Path) :
    spotBetween left (some right) = (right, .before) ∨
      spotBetween left (some right) = (left, .behind) := by
  by_cases descends : descendsFrom right left = true <;> simp [spotBetween, descends]

/-- The place of a new character between two neighbours: behind the left one, and before the right
one if there is one. -/
theorem before_of_spotBetween {left right : Path} (id : OpId) (before : Before left right) :
    let spot := spotBetween left (some right)
    Before left (⟨spot.2, id⟩ :: spot.1) ∧ Before (⟨spot.2, id⟩ :: spot.1) right := by
  simp only [spotBetween]
  by_cases descends : descendsFrom right left = true
  · rw [if_pos descends]
    refine ⟨?_, child_before_before right id⟩
    have inside := List.reverse_prefix.2 (isSuffixOf_of_descendsFrom descends)
    simpa [Before, order] using orderFromRoot_append_right_lt ⟨.before, id⟩ before inside
  · rw [if_neg descends]
    refine ⟨before_child_behind left id, ?_⟩
    have apart : ¬left.reverse <+: right.reverse := by
      intro inside
      apply descends
      apply descendsFrom_of_isSuffixOf (List.reverse_prefix.1 inside)
      intro same
      exact not_before_self left (same ▸ before)
    simpa [Before, order] using orderFromRoot_append_lt_of_not_prefix ⟨.behind, id⟩ before apart

end Path

end Cowrite
