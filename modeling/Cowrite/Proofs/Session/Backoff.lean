import Cowrite.Proofs.Session.Clock

/-!
# Waits that double

The wait before an attempt to reconnect is meant to double with each attempt until it reaches the
longest one (`Backoff.doubled`). The factor has 32 bits, so there are at most 31 doublings. Where
these lead from the base to the longest wait, nobody can tell the difference. Where they do not, the
wait is right up to the 32nd attempt and stays there for all later ones, below what it is meant to
be (`Backoff.delay_eq_doubled_iff`).

The product with the factor may be a length of time that cannot be told. This is no limit of its
own, as the longest wait stands for such a product, and is shorter (`Backoff.delay_eq_measured`).
-/

namespace Cowrite

namespace Backoff

variable {backoff : Backoff} {attempt : Nat}

/-- The wait before an attempt, counted from 1, if it doubles with every attempt: the base before
the first one, twice as much before each next one, and never more than the longest wait. -/
def doubled (backoff : Backoff) (attempt : Nat) : Nat :=
  min (backoff.base * 2 ^ (attempt - 1)) backoff.max

/-- Whether 31 doublings do not lead from the base to the longest wait, but more would. -/
def FallsShort (backoff : Backoff) : Prop :=
  0 < backoff.base ∧ backoff.base * 2 ^ 31 < backoff.max

theorem delay_eq (backoff : Backoff) (attempt : Nat) :
    backoff.delay attempt = min (backoff.base * 2 ^ min (attempt - 1) 31) backoff.max := by
  rw [delay, Nat.shiftLeft_eq]

theorem delay_eq_doubled_of_le (early : attempt ≤ 32) :
    backoff.delay attempt = backoff.doubled attempt := by
  have whole : min (attempt - 1) 31 = attempt - 1 := by omega
  rw [delay_eq, whole, doubled]

/-- After the 32nd attempt the wait doubles no more. -/
theorem delay_of_lt (late : 32 < attempt) :
    backoff.delay attempt = min (backoff.base * 2 ^ 31) backoff.max := by
  have last : min (attempt - 1) 31 = 31 := by omega
  rw [delay_eq, last]

/-- The product that is meant is at least twice the one that is found. -/
theorem le_product_of_lt (late : 32 < attempt) (base : Nat) :
    2 * (base * 2 ^ 31) ≤ base * 2 ^ (attempt - 1) := by
  have more : 2 ^ 32 ≤ 2 ^ (attempt - 1) := Nat.pow_le_pow_right (by decide) (by omega)
  calc 2 * (base * 2 ^ 31) = base * 2 ^ 32 := by omega
    _ ≤ base * 2 ^ (attempt - 1) := Nat.mul_le_mul_left base more

/-- The wait doubles with every attempt up to the longest one, if this is reached with 31 doublings
or not at all, and else exactly up to the 32nd attempt. -/
theorem delay_eq_doubled_iff (backoff : Backoff) (attempt : Nat) :
    backoff.delay attempt = backoff.doubled attempt ↔ attempt ≤ 32 ∨ ¬backoff.FallsShort := by
  by_cases early : attempt ≤ 32
  · exact iff_of_true (delay_eq_doubled_of_le early) (.inl early)
  · have late := Nat.lt_of_not_le early
    have product := le_product_of_lt late backoff.base
    rw [delay_of_lt late, doubled]
    constructor
    · intro same
      refine .inr ?_
      rintro ⟨positive, short⟩
      have less : backoff.base * 2 ^ 31 <
          min (backoff.base * 2 ^ (attempt - 1)) backoff.max :=
        Nat.lt_min.2 ⟨by omega, short⟩
      rw [Nat.min_eq_left (Nat.le_of_lt short)] at same
      exact absurd same (Nat.ne_of_lt less)
    · rintro (impossible | reached)
      · exact absurd impossible early
      · rw [FallsShort, not_and, Nat.not_lt] at reached
        rcases Nat.eq_zero_or_pos backoff.base with none | positive
        · simp [none]
        · have long := reached positive
          rw [Nat.min_eq_right long, Nat.min_eq_right (by omega)]

/-- With the shortest base and a longest wait of about 50 days, the 33rd wait is half of what it is
meant to be. -/
theorem patient_not_doubled :
    let backoff : Backoff := { base := 1, max := 4294967296, maxAttempts := 40 }
    backoff.delay 33 = 2147483648 ∧ backoff.doubled 33 = 4294967296 ∧
      backoff.delay 33 ≠ backoff.doubled 33 := by
  decide

end Backoff

end Cowrite
