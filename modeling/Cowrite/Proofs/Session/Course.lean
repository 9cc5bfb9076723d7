import Cowrite.Proofs.Session.Call
import Cowrite.Proofs.Session.Rounds

/-!
# The course of things at a desk

What can happen at a desk is an `Occasion`: a call, a round of polling, or a change of the transport
or the buffer by others. A course is any number of them, each at a time of its own
(`Desk.course`), and something may be true all along one (`Desk.Throughout`). A poll is a course of
rounds (`Desk.poll_eq_course`).
-/

namespace Cowrite

/-- What can happen at a desk. Others may change the transport and the buffer as they like. -/
inductive Occasion (ν : Type) where
  | network (change : ν → ν)
  | buffer (change : Buffer → Buffer)
  | call (call : Call) (single : call ≠ .poll)
  | round

/-- Whether something is done by the session itself. -/
def Occasion.isOwn {ν : Type} : Occasion ν → Bool
  | .call _ _ => true
  | .round => true
  | _ => false

namespace Desk

variable {ν : Type} [Transport ν]

/-- The desk after something has happened. -/
def meets (desk : Desk ν) (occasion : Occasion ν) (now : Nat) : Desk ν :=
  match occasion with
  | .network change => { desk with network := change desk.network }
  | .buffer change => { desk with buffer := change desk.buffer }
  | .call call _ => call.perform desk now
  | .round => (desk.pollOnce now).2

/-- What a desk has to deal with. -/
def matter? (desk : Desk ν) (occasion : Occasion ν) (now : Nat) : Option Matter :=
  match occasion with
  | .round => (desk.takeMatter now).1
  | _ => none

def course (desk : Desk ν) (occasions : List (Occasion ν × Nat)) : Desk ν :=
  occasions.foldl (fun desk occasion => desk.meets occasion.1 occasion.2) desk

/-- Whether something is true of everything that happens in a course. -/
def Throughout (holds : Desk ν → Occasion ν → Nat → Prop) (desk : Desk ν) :
    List (Occasion ν × Nat) → Prop
  | [] => True
  | (occasion, now) :: rest =>
      holds desk occasion now ∧ (desk.meets occasion now).Throughout holds rest

theorem throughout_of_forall {holds : Desk ν → Occasion ν → Nat → Prop}
    (always : ∀ desk occasion now, holds desk occasion now) (desk : Desk ν)
    (occasions : List (Occasion ν × Nat)) : desk.Throughout holds occasions := by
  induction occasions generalizing desk with
  | nil => trivial
  | cons first rest ih => exact ⟨always desk first.1 first.2, ih _⟩

theorem course_rounds (desk : Desk ν) (rounds now : Nat) :
    desk.course (List.replicate rounds (.round, now)) =
      (fun desk : Desk ν => (desk.pollOnce now).2)^[rounds] desk := by
  induction rounds generalizing desk with
  | zero => rfl
  | succ rounds ih => exact ih (desk.meets .round now)

/-- A poll is so many rounds. -/
theorem poll_eq_course (desk : Desk ν) (now : Nat) :
    ∃ rounds, desk.poll now = desk.course (List.replicate rounds (.round, now)) := by
  rcases desk.exists_poll_eq_iterate now with ⟨rounds, polled⟩
  exact ⟨rounds, polled.trans (desk.course_rounds rounds now).symm⟩

end Desk

end Cowrite
