import Cowrite.Proofs.Replica.News

/-!
# What a flush sends is enough

A flush waits until it is time, does nothing more if there is nothing to send, and else sends what
it has made once and goes by the answer (`Outbox.flush_eq`, `Outbox.answered`).

An update of an outbox leaves out only what the outbox believes the others to hold. So it is enough
for everybody who does hold that much, whatever else they have heard or written by the time when it
reaches them (`Circle.Completes`). And it is nothing at all only if the outbox believes the others
to hold just what the document holds, or if that is nothing (`Replica.Sound.matches_of_isEmpty`).
-/

namespace Cowrite

namespace Outbox

/-- What a flush comes to, and what it leaves of the outbox, once the transport has answered. -/
def answered (outbox : Outbox) (replica : Replica) :
    Except TransportError Unit → FlushOutcome × Outbox
  | .ok () => (.sent, { outbox with pending := false, lastSent := some replica.token })
  | .error _ => (.failed, outbox)

section

variable {τ : Type} (outbox : Outbox) (replica : Replica) (now : Nat) (force : Bool)
  (send : Update → τ → Except TransportError Unit × τ) (state : τ)

/-- A flush waits until it is time, does nothing more if there is nothing to send, and else depends
on the answer of the transport. -/
theorem flush_eq :
    outbox.flush replica now force send state =
      if outbox.shouldFlush now force then
        if (outbox.updateFor replica).isEmpty then
          (.nothingChanged, { outbox with pending := false }, state)
        else
          ((outbox.answered replica (send (outbox.updateFor replica) state).1).1,
            (outbox.answered replica (send (outbox.updateFor replica) state).1).2,
            (send (outbox.updateFor replica) state).2)
      else (if outbox.pending then .waiting else .idle, outbox, state) := by
  cases pending : outbox.pending with
  | false => simp [flush, shouldFlush, pending]
  | true =>
      cases due : outbox.shouldFlush now force with
      | false => simp [flush, pending, due]
      | true =>
          rcases sent : send (outbox.updateFor replica) state with ⟨answer, after⟩
          cases answer with
          | ok done => simp [flush, pending, due, sent, answered]
          | error error => simp [flush, pending, due, sent, answered]

end

/-- Whether an outbox believes the others to hold just what a replica holds. -/
def Matches (outbox : Outbox) (replica : Replica) : Prop :=
  ∃ version, outbox.lastSent = some (.known version) ∧
    ∀ maker, version.count maker = replica.version.count maker

end Outbox

/-- There is nothing to send only if the others are believed to hold just what the document holds,
or if the document holds nothing. -/
theorem Replica.Sound.matches_of_isEmpty {history : History} {replica : Replica}
    (sound : replica.Sound history) {outbox : Outbox}
    (nothing : (outbox.updateFor replica).isEmpty = true) :
    outbox.Matches replica ∨ replica.log = [] := by
  rw [outbox.updateFor_eq, isEmpty_updateSince] at nothing
  have same := Version.count_eq_of_agreesWith nothing
  have unheard (none : ∀ id, Version.count Version.empty id = replica.version.count id) :
      replica.log = [] := by
    rw [List.eq_nil_iff_forall_not_mem]
    intro operation present
    have counted := sound.lt_count_of_mem present rfl
    rw [← none, Version.count_empty] at counted
    exact Nat.not_lt_zero _ counted
  rcases held : outbox.lastSent with _ | (version | _)
  · rw [Outbox.believed, held] at same
    exact .inr (unheard same)
  · rw [Outbox.believed, held] at same
    exact .inl ⟨version, held, same⟩
  · rw [Outbox.believed, held] at same
    exact .inr (unheard same)

namespace Circle

variable {σ : Type} [DecidableEq σ] {circle : Circle σ}

theorem Coherent.completes_updateFor {history : History} (coherent : circle.Coherent history)
    (site : σ) (outbox : Outbox) :
    circle.Completes site outbox.believed (outbox.updateFor (circle.replicas site)) := by
  rw [outbox.updateFor_eq]
  exact coherent.completes_updateSince site outbox.believed

/-- A flush does one of three things, however what it sends is sent. If it is not time to send,
nothing changes. If the others are believed to hold just what the document holds, or if that is
nothing, then nothing is pending any more. Otherwise it sends something, once, and that is enough
for all who hold what the outbox believes the others to hold: if it is refused, the outbox stays as
it is, and if it is accepted, nothing is pending any more and the others are believed to hold what
the document holds. -/
theorem Reachable.flush_suffices (reachable : circle.Reachable) (site : σ) (outbox : Outbox)
    (now : Nat) (force : Bool) :
    let document := circle.replicas site
    (outbox.shouldFlush now force = false ∧
        ∀ {τ : Type} (send : Update → τ → Except TransportError Unit × τ) (state : τ),
          ∃ outcome, (outcome = .idle ∨ outcome = .waiting) ∧
            outbox.flush document now force send state = (outcome, outbox, state)) ∨
      ((outbox.Matches document ∨ document.log = []) ∧
        ∀ {τ : Type} (send : Update → τ → Except TransportError Unit × τ) (state : τ),
          outbox.flush document now force send state =
            (.nothingChanged, { outbox with pending := false }, state)) ∨
      ∃ update, update.isEmpty = false ∧ circle.Completes site outbox.believed update ∧
        ∀ {τ : Type} (send : Update → τ → Except TransportError Unit × τ) (state : τ),
          (∃ error after, send update state = (.error error, after) ∧
            outbox.flush document now force send state = (.failed, outbox, after)) ∨
          ∃ after, send update state = (.ok (), after) ∧
            outbox.flush document now force send state =
              (.sent, { outbox with pending := false, lastSent := some document.token },
                after) := by
  intro document
  rcases reachable.coherent with ⟨history, coherent⟩
  cases due : outbox.shouldFlush now force with
  | false =>
      refine .inl ⟨rfl, fun send state => ⟨_, ?_, by rw [Outbox.flush_eq, due]; rfl⟩⟩
      cases outbox.pending <;> simp
  | true =>
      right
      cases nothing : (outbox.updateFor document).isEmpty with
      | true =>
          refine .inl ⟨?_, fun send state => by simp [Outbox.flush_eq, due, nothing]⟩
          exact (coherent.active site).toSound.matches_of_isEmpty nothing
      | false =>
          refine .inr ⟨_, nothing, coherent.completes_updateFor site outbox, ?_⟩
          intro τ send state
          rcases sent : send (outbox.updateFor document) state with ⟨answer, after⟩
          have flushed := outbox.flush_eq document now force send state
          simp only [due, nothing, sent, if_true, Bool.false_eq_true, if_false] at flushed
          cases answer with
          | ok done => exact .inr ⟨after, rfl, flushed⟩
          | error error => exact .inl ⟨error, after, rfl, flushed⟩

/-- The third replica of the crossing circle holds only what the second one wrote. An outbox that
believes so sends it all that the first one holds besides. -/
theorem crossing_flush_suffices :
    let outbox : Outbox := ⟨50, some 0, true, some (.known ⟨[(1, 1)]⟩)⟩
    ∃ update told,
      outbox.flush (crossing.replicas 0) 60 false (fun update sent => (.ok (), update :: sent)) [] =
          (.sent, ⟨50, some 0, false, some (crossing.replicas 0).token⟩, [update]) ∧
        update.isEmpty = false ∧ (crossing.replicas 2).apply update = .ok told ∧
          (crossing.replicas 0).log ⊆ told.log := by
  intro outbox
  have reachable : crossing.Reachable := (Reachable.new fun _ _ same => Fin.ext same).performAll _
  have held : ∀ operation ∈ (crossing.replicas 0).log,
      outbox.believed.covers operation.id = true →
        operation ∈ (crossing.replicas 2).log := by decide
  rcases reachable.flush_suffices 0 outbox 60 false with
    ⟨early, _⟩ | ⟨⟨version, known, same⟩ | blank, _⟩ | ⟨update, something, completes, sends⟩
  · exact absurd early (by decide)
  · rw [← VersionToken.known.inj (Option.some.inj known)] at same
    exact absurd (same 0) (by decide)
  · exact absurd blank (by decide)
  · rcases completes [] 2 fun operation present covers => .inl (held operation present covers) with
      ⟨told, applied, caughtUp⟩
    refine ⟨update, told, ?_, something, applied, caughtUp⟩
    rcases sends (fun update sent => (.ok (), update :: sent)) [] with
      ⟨error, after, refused, _⟩ | ⟨after, accepted, flushed⟩
    · cases refused
    · rw [flushed, ← (Prod.mk.inj accepted).2]

end Circle

end Cowrite
