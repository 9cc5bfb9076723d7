import Cowrite.Proofs.Text.Lines

/-!
# Where a cut falls among lines

A cut of the text of some lines falls into one of the lines, before its separator, or it leaves
nothing behind. The separators in front of it count the lines that are whole there, so they tell the
row (`Text.exists_row`). If what stands between two cuts is replaced, the rows before the first cut
and those after the second one stay as they are, and between them come new ones
(`Text.exists_rows_terminated`).
-/

namespace Cowrite

namespace Text

variable {lines : List Text}

/-! ## Lines that are put together and taken apart -/

theorem pieces_append_separator {line : Text} (plain : '\n' ∉ line) (rest : Text) :
    pieces (line ++ '\n' :: rest) = line :: pieces rest := by
  induction line with
  | nil => simp [pieces]
  | cons c line ih =>
      simp only [List.mem_cons, not_or] at plain
      have differ : c ≠ '\n' := fun same => plain.1 same.symm
      simp [pieces, differ, ih plain.2]

theorem pieces_joinLines (nonempty : lines ≠ []) (plain : ∀ line ∈ lines, '\n' ∉ line) :
    pieces (joinLines false lines) = lines := by
  induction lines with
  | nil => exact absurd rfl nonempty
  | cons line rest ih =>
      have here : '\n' ∉ line := plain line List.mem_cons_self
      cases rest with
      | nil => exact pieces_eq_singleton here
      | cons next rest =>
          have later : ∀ other ∈ next :: rest, '\n' ∉ other :=
            fun other present => plain other (List.mem_cons_of_mem _ present)
          rw [joinLines, pieces_append_separator here, ih (by simp) later]

/-- The lines of a text that was put together from lines. -/
theorem splitLines_joinLines (nonempty : lines ≠ []) (plain : ∀ line ∈ lines, '\n' ∉ line) :
    splitLines (joinLines true lines) = lines := by
  have without : withoutFinalSeparator (joinLines false lines ++ ['\n']) =
      joinLines false lines := by
    simp [withoutFinalSeparator]
  rw [joinLines_eq_append_separator nonempty, splitLines, without, pieces_joinLines nonempty plain]

end Text

/-! ## Counting separators -/

namespace Buffer

theorem separators_append (front back : Text) :
    separators (front ++ back) = separators front + separators back :=
  List.countP_append

theorem separators_of_plain {line : Text} (plain : '\n' ∉ line) : separators line = 0 := by
  rw [separators, List.countP_eq_zero]
  rintro c present same
  rw [beq_iff_eq] at same
  exact plain (same ▸ present)

end Buffer

namespace Text

open Buffer

variable {lines : List Text} {front back : Text}

/-- A cut of a text of lines leaves nothing behind, or it falls into the row of which the separators
before it tell. -/
theorem exists_row (plain : ∀ line ∈ lines, '\n' ∉ line)
    (split : joinLines true lines = front ++ back) :
    (back = [] ∧ separators front = lines.length) ∨
      separators front < lines.length ∧
        ∃ stub tail, front = joinLines true (lines.take (separators front)) ++ stub ∧
          back = tail ++ '\n' :: joinLines true (lines.drop (separators front + 1)) := by
  induction lines generalizing front with
  | nil =>
      rw [joinLines_nil, eq_comm, List.append_eq_nil_iff] at split
      rcases split with ⟨rfl, rfl⟩
      exact .inl ⟨rfl, rfl⟩
  | cons line rest ih =>
      have here : '\n' ∉ line := plain line List.mem_cons_self
      have later : ∀ other ∈ rest, '\n' ∉ other :=
        fun other present => plain other (List.mem_cons_of_mem _ present)
      rw [joinLines_cons] at split
      rcases List.append_eq_append_iff.1 split with ⟨more, whole, onward⟩ | ⟨tail, whole, onward⟩
      · cases more with
        | nil =>
            have none : separators front = 0 := by
              rw [whole, List.append_nil, separators_of_plain here]
            refine .inr ⟨by simp [none], line, [], ?_, ?_⟩
            · rw [none, whole]
              simp
            · simpa [none] using onward.symm
        | cons c more =>
            rw [List.cons_append, List.cons.injEq] at onward
            rcases onward with ⟨rfl, onward⟩
            have one : separators front = separators more + 1 := by
              have separator : separators ['\n'] = 1 := by decide
              rw [whole, ← List.singleton_append, separators_append, separators_append,
                separators_of_plain here, separator]
              omega
            rcases ih later onward with ⟨nothing, count⟩ | ⟨inside, stub, tail, before, after⟩
            · exact .inl ⟨nothing, by rw [one, count, List.length_cons]⟩
            · refine .inr ⟨by rw [one, List.length_cons]; omega, stub, tail, ?_, ?_⟩
              · rw [one, List.take_succ_cons, joinLines_cons, whole, List.append_assoc,
                  List.cons_append, ← before]
              · rw [one, List.drop_succ_cons, ← after]
      · have none : separators front = 0 := by
          apply separators_of_plain
          intro present
          apply here
          rw [whole]
          exact List.mem_append_left _ present
        refine .inr ⟨by simp [none], front, tail, by simp [none], ?_⟩
        simpa [none] using onward

/-- The rows before a cut are whole in front of it. -/
theorem exists_stub (nonempty : lines ≠ []) (plain : ∀ line ∈ lines, '\n' ∉ line)
    (split : joinLines true lines = front ++ back) :
    ∃ stub, front =
      joinLines true (lines.take (min (separators front) (lines.length - 1))) ++ stub := by
  have some := List.length_pos_iff.2 nonempty
  rcases exists_row plain split with ⟨rfl, count⟩ | ⟨inside, stub, tail, before, _⟩
  · refine ⟨joinLines true (lines.drop (lines.length - 1)), ?_⟩
    rw [count, Nat.min_eq_right (Nat.sub_le _ _), ← joinLines_append, List.take_append_drop, split,
      List.append_nil]
  · refine ⟨stub, ?_⟩
    rwa [Nat.min_eq_left (by omega)]

/-- The rows after a cut are whole behind it, and what stands between is ended by a separator if
there are any. -/
theorem exists_tail (plain : ∀ line ∈ lines, '\n' ∉ line)
    (split : joinLines true lines = front ++ back) :
    ∃ tail, back =
        tail ++ joinLines true (lines.drop (min (separators front + 1) lines.length)) ∧
      (lines.drop (min (separators front + 1) lines.length) ≠ [] →
        ∃ start, tail = start ++ ['\n']) := by
  rcases exists_row plain split with ⟨rfl, count⟩ | ⟨inside, stub, tail, _, after⟩
  · refine ⟨[], ?_, ?_⟩
    · simp [count]
    · simp [count]
  · refine ⟨tail ++ ['\n'], ?_, fun _ => ⟨tail, rfl⟩⟩
    rw [Nat.min_eq_left (by omega), List.append_assoc, List.singleton_append]
    exact after

/-- Between rows that stay as they are, any text makes rows. -/
theorem exists_rows_terminated (early late : List Text) (middle : Text)
    (ends : late ≠ [] → ∃ start, middle = start ++ ['\n']) :
    ∃ added, (∀ line ∈ added, '\n' ∉ line) ∧ early ++ (added ++ late) ≠ [] ∧
      terminated (joinLines true early ++ (middle ++ joinLines true late)) =
        joinLines true (early ++ (added ++ late)) := by
  by_cases ended : ∃ start, middle = start ++ ['\n']
  · rcases ended with ⟨start, rfl⟩
    have nonempty : early ++ (pieces start ++ late) ≠ [] := by
      simp [pieces_ne_nil]
    refine ⟨pieces start, fun line => not_mem_of_mem_pieces, nonempty, ?_⟩
    rw [← joinLines_pieces, ← joinLines_append, ← joinLines_append, terminated_joinLines nonempty]
  · have none : late = [] := by
      by_contra some
      exact ended (ends some)
    subst none
    by_cases blank : middle = [] ∧ early ≠ []
    · rcases blank with ⟨rfl, some⟩
      refine ⟨[], by simp, by simpa using some, ?_⟩
      simpa using terminated_joinLines some
    · refine ⟨pieces middle, fun line => not_mem_of_mem_pieces, by simp [pieces_ne_nil], ?_⟩
      have unfinished : (joinLines true early ++ middle).getLast? ≠ some '\n' := by
        rcases List.eq_nil_or_concat' middle with rfl | ⟨start, last, rfl⟩
        · have none : early = [] := by
            by_contra some
            exact blank ⟨rfl, some⟩
          simp [none]
        · intro same
          have separator : last = '\n' := by
            simpa [← List.append_assoc] using same
          exact ended ⟨start, by rw [separator]⟩
      rw [joinLines_nil, List.append_nil, List.append_nil, joinLines_append, joinLines_pieces,
        terminated, if_neg unfinished, List.append_assoc]

end Text

end Cowrite
