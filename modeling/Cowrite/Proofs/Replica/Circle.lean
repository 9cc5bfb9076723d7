import Cowrite.Proofs.Replica.Editing
import Cowrite.Proofs.Replica.Exchange

/-!
# Replicas that exchange updates

A circle has any number of replicas of one document, each under a number of its own. Every one is
written in and asked for updates, since any version or for everything, and is given updates that
some replica of the circle has made: in any order, again and again, or before those on which they
build (`Turn`).

The replicas of a circle have one lawful history, and whatever has been made for others is from it
(`Circle.Coherent`). No turn changes that (`Coherent.perform`), so it holds of every circle that
comes about. There the version of a replica stands for its text, and an update since the version of
somebody else brings exactly what is missing there.
-/

namespace Cowrite

namespace Replica

variable {history : History} {replica : Replica}

/-- A replica that has nothing ready stays as it is. -/
theorem Settled.settle_eq (settled : replica.Settled) : replica.settle = replica := by
  have none : nextReady replica.version replica.waiting = none := by
    cases found : nextReady replica.version replica.waiting with
    | none => rfl
    | some next =>
        rcases perm_of_nextReady found with ⟨ready, perm⟩
        have waits : next.1 ∈ replica.waiting := perm.mem_iff.2 (by simp)
        simp [settled next.1 waits] at ready
  rw [settle]
  cases replica.waiting.length with
  | zero => rfl
  | succ count => simp [settleUpTo, none]

/-- A replica that holds all that an update carries is not changed by it. -/
theorem Sound.apply_eq_self (lawful : history.Lawful) (sound : replica.Sound history)
    (settled : replica.Settled) {update : Update} (readable : update ≠ .malformed)
    (honest : update.IsFrom history)
    (held : ∀ operation ∈ update.carried, replica.Holds operation) :
    replica.apply update = .ok replica := by
  cases update with
  | empty => rfl
  | malformed => exact absurd rfl readable
  | operations operations =>
      have nothingNew : operations.filter (fun operation => !replica.hasSeen operation) = [] := by
        rw [List.filter_eq_nil_iff]
        intro operation present
        have seen := (sound.hasSeen_iff lawful (honest.known operation present)).2
          (held operation present)
        simp [seen]
      have received : replica.receive operations = replica := by
        simp [Replica.receive, nothingNew, settled.settle_eq]
      have noWalk : Walk.between replica.text replica.text = [] := by
        simp [Walk.between, Text.changedSpan_self, Text.Span.isEmpty]
      simp [Replica.apply, received, noWalk]

end Replica

/-- Replicas of one document, named by some type, and the updates that they have made. -/
structure Circle (σ : Type) where
  replicas : σ → Replica
  made : List Update

/-- Something that happens to a replica of a circle. -/
inductive Turn where
  | edit (edit : Edit)
  | setText (text : Text)
  /-- An update since some version is made. -/
  | tell (token : VersionToken)
  /-- An update with everything is made. -/
  | tellAll
  /-- One of the updates arrives, the one that was made after so many others. -/
  | hear (index : Nat)
  /-- The walks that updates have left behind are taken. -/
  | takeWalks

namespace Circle

variable {σ : Type} [DecidableEq σ]

/-- The circle with one replica replaced. -/
def put (circle : Circle σ) (site : σ) (replica : Replica) : Circle σ :=
  { circle with replicas := fun other => if other = site then replica else circle.replicas other }

/-- The circle with one more update made. -/
def tell (circle : Circle σ) (update : Update) : Circle σ :=
  { circle with made := circle.made ++ [update] }

/-- What becomes of a circle when something happens to one of its replicas. A token that nobody can
read brings no update, and an update that cannot be read changes nothing. -/
def perform (circle : Circle σ) (site : σ) : Turn → Circle σ
  | .edit edit => circle.put site ((circle.replicas site).edit edit)
  | .setText text => circle.put site ((circle.replicas site).setText text)
  | .tell token =>
      match (circle.replicas site).updateSinceToken token with
      | .ok update => circle.tell update
      | .error _ => circle
  | .tellAll => circle.tell (circle.replicas site).fullState
  | .hear index =>
      match circle.made[index]? with
      | none => circle
      | some update =>
          match (circle.replicas site).apply update with
          | .ok after => circle.put site after
          | .error _ => circle
  | .takeWalks => circle.put site (circle.replicas site).takeWalks.2

/-- What becomes of a circle when one thing after the other happens. -/
def performAll (circle : Circle σ) (turns : List (σ × Turn)) : Circle σ :=
  turns.foldl (fun circle turn => circle.perform turn.1 turn.2) circle

/-- The circles that come about among new replicas with different numbers. -/
inductive Reachable : Circle σ → Prop where
  | new {ids : σ → ReplicaId} (distinct : ids.Injective) :
      Reachable ⟨fun site => { id := ids site }, []⟩
  | perform {circle : Circle σ} (reachable : circle.Reachable) (site : σ) (turn : Turn) :
      Reachable (circle.perform site turn)

/-- A circle with one history, in which every replica writes under a number of its own. -/
structure Coherent (history : History) (circle : Circle σ) : Prop where
  lawful : history.Lawful
  active : ∀ site, (circle.replicas site).Active history
  distinct : ∀ left right, (circle.replicas left).id = (circle.replicas right).id → left = right
  honest : ∀ update ∈ circle.made, update.IsFrom history

section

variable {history : History} {circle : Circle σ}

/-- A replica changes, and what it writes is its own. -/
theorem Coherent.put (coherent : circle.Coherent history) {site : σ} {larger : History}
    {replica : Replica} (lawful : larger.Lawful) (subset : history ⊆ larger)
    (own : ∀ operation ∈ larger, operation ∉ history →
      operation.id.replica = (circle.replicas site).id)
    (active : replica.Active larger) (id_eq : replica.id = (circle.replicas site).id) :
    (circle.put site replica).Coherent larger := by
  have ids : ∀ other, ((circle.put site replica).replicas other).id =
      (circle.replicas other).id := by
    intro other
    by_cases here : other = site
    · simp [Circle.put, here, id_eq]
    · simp [Circle.put, here]
  refine ⟨lawful, ?_, ?_, fun update present => (coherent.honest update present).mono subset⟩
  · intro other
    by_cases here : other = site
    · simpa [Circle.put, here] using active
    · have stays : (circle.replicas other).Active larger := by
        apply (coherent.active other).mono subset
        intro operation present new isOther
        rw [own operation present new] at isOther
        exact here (coherent.distinct site other isOther).symm
      simpa [Circle.put, here] using stays
  · intro left right same
    rw [ids, ids] at same
    exact coherent.distinct left right same

theorem Coherent.write (coherent : circle.Coherent history) {site : σ} {larger : History}
    {replica : Replica} (writes : (circle.replicas site).Writes history larger replica) :
    (circle.put site replica).Coherent larger :=
  coherent.put writes.lawful writes.subset writes.own writes.active writes.id_eq

/-- A replica changes without writing. -/
theorem Coherent.replace (coherent : circle.Coherent history) {site : σ} {replica : Replica}
    (active : replica.Active history) (id_eq : replica.id = (circle.replicas site).id) :
    (circle.put site replica).Coherent history :=
  coherent.put coherent.lawful subset_rfl (fun _ present new => absurd present new) active id_eq

omit [DecidableEq σ] in
/-- A replica makes an update of what it has. -/
theorem Coherent.tell (coherent : circle.Coherent history) (site : σ) {update : Update}
    (tells : update.Tells (circle.replicas site).log) : (circle.tell update).Coherent history := by
  refine ⟨coherent.lawful, coherent.active, coherent.distinct, ?_⟩
  intro other present
  rcases List.mem_append.1 present with old | new
  · exact coherent.honest other old
  · rw [List.mem_singleton.1 new]
    exact tells.isFrom (coherent.active site).known

theorem Coherent.perform (coherent : circle.Coherent history) (site : σ) (turn : Turn) :
    ∃ larger, history ⊆ larger ∧ (circle.perform site turn).Coherent larger := by
  have active := coherent.active site
  cases turn with
  | edit edit =>
      rcases active.edit coherent.lawful edit with ⟨larger, writes, _⟩
      exact ⟨larger, writes.subset, coherent.write writes⟩
  | setText text =>
      rcases active.setText coherent.lawful text with ⟨larger, writes, _⟩
      exact ⟨larger, writes.subset, coherent.write writes⟩
  | tell token =>
      refine ⟨history, subset_rfl, ?_⟩
      cases token with
      | known version => exact coherent.tell site (active.toSound.tells_updateSince version)
      | unreadable => exact coherent
  | tellAll => exact ⟨history, subset_rfl, coherent.tell site active.toSound.tells_fullState⟩
  | hear index =>
      refine ⟨history, subset_rfl, ?_⟩
      rw [Circle.perform]
      cases found : circle.made[index]? with
      | none => exact coherent
      | some update =>
          simp only
          cases applied : (circle.replicas site).apply update with
          | error _ => exact coherent
          | ok after =>
              have honest := coherent.honest update (List.mem_of_getElem? found)
              have learns := active.toSound.apply coherent.lawful active.settled honest applied
              exact coherent.replace (active.apply coherent.lawful honest applied) learns.id_eq
  | takeWalks => exact ⟨history, subset_rfl, coherent.replace (active.withWalks []) rfl⟩

theorem Coherent.performAll (coherent : circle.Coherent history) (turns : List (σ × Turn)) :
    ∃ larger, history ⊆ larger ∧ (circle.performAll turns).Coherent larger := by
  induction turns generalizing circle history with
  | nil => exact ⟨history, subset_rfl, coherent⟩
  | cons turn rest ih =>
      rcases coherent.perform turn.1 turn.2 with ⟨larger, subset, next⟩
      rcases ih next with ⟨largest, others, last⟩
      exact ⟨largest, subset.trans others, last⟩

theorem Reachable.coherent (reachable : circle.Reachable) :
    ∃ history, circle.Coherent history := by
  induction reachable with
  | new distinct =>
      refine ⟨∅, History.lawful_empty, ?_, fun left right same => distinct same, ?_⟩
      · exact fun site => Replica.active_new (by simp)
      · simp
  | perform reachable site turn ih =>
      rcases ih with ⟨history, coherent⟩
      rcases coherent.perform site turn with ⟨larger, _, later⟩
      exact ⟨larger, later⟩

omit [DecidableEq σ] in
theorem Coherent.text_eq_of_token_eq (coherent : circle.Coherent history) {left right : σ}
    (same : (circle.replicas left).token = (circle.replicas right).token) :
    (circle.replicas left).text = (circle.replicas right).text :=
  (coherent.active left).toSound.text_eq_of_version_eq coherent.lawful
    (coherent.active right).toSound (VersionToken.known.inj same)

omit [DecidableEq σ] in
/-- An update since the version of another replica brings it what it lacks and nothing else, and
brings it once: taken up again, it changes nothing. -/
theorem Coherent.exists_exchange (coherent : circle.Coherent history) (left right : σ) :
    ∃ update after,
      (circle.replicas left).updateSinceToken (circle.replicas right).token = .ok update ∧
        (circle.replicas right).apply update = .ok after ∧ after.apply update = .ok after ∧
          ((circle.replicas right).waiting = [] → ∀ maker, after.version.count maker =
            max ((circle.replicas left).version.count maker)
              ((circle.replicas right).version.count maker)) := by
  have giver := coherent.active left
  have taker := coherent.active right
  have tells := giver.toSound.tells_updateSince (circle.replicas right).version
  have honest := tells.isFrom giver.known
  rcases Replica.exists_apply (circle.replicas right) tells.readable with ⟨after, applied⟩
  have learns := taker.toSound.apply coherent.lawful taker.settled honest applied
  refine ⟨_, after, rfl, applied, ?_, ?_⟩
  · apply learns.sound.apply_eq_self coherent.lawful learns.settled tells.readable honest
    exact fun operation carried => (learns.holds_iff operation).2 (.inr carried)
  · intro idle maker
    have trusts := taker.toSound.trusts_recordVersion ⟨0, none, false, none⟩
      (List.Subset.refl (circle.replicas right).log)
    rcases giver.toSound.apply_updateFor coherent.lawful taker.toSound idle trusts with
      ⟨later, appliedLater, sound, _, keeps, brings, nothingElse⟩
    have same : later = after := by
      have : (circle.replicas right).apply _ = .ok later := appliedLater
      exact Except.ok.inj (this.symm.trans applied)
    subst same
    apply Nat.le_antisymm
    · apply sound.count_le_max giver.toSound taker.toSound
      intro operation present
      rcases nothingElse operation present with old | carried
      · exact .inr old
      · exact .inl (tells.subset carried)
    · exact Nat.max_le.2 ⟨giver.toSound.count_le_of_log_subset sound brings maker,
        taker.toSound.count_le_of_log_subset sound keeps maker⟩

theorem Reachable.performAll (reachable : circle.Reachable) (turns : List (σ × Turn)) :
    (circle.performAll turns).Reachable := by
  induction turns generalizing circle with
  | nil => exact reachable
  | cons turn rest ih => exact ih (reachable.perform turn.1 turn.2)

/-- Replicas of one document that hold the same version have the same text, and each can bring any
other up to date, whatever has happened before. -/
theorem Reachable.text_eq_and_exchange (reachable : circle.Reachable) (left right : σ) :
    ((circle.replicas left).token = (circle.replicas right).token →
      (circle.replicas left).text = (circle.replicas right).text) ∧
    ∃ update after,
      (circle.replicas left).updateSinceToken (circle.replicas right).token = .ok update ∧
        (circle.replicas right).apply update = .ok after ∧ after.apply update = .ok after ∧
          ((circle.replicas right).waiting = [] → ∀ maker, after.version.count maker =
            max ((circle.replicas left).version.count maker)
              ((circle.replicas right).version.count maker)) := by
  rcases reachable.coherent with ⟨history, coherent⟩
  exact ⟨coherent.text_eq_of_token_eq, coherent.exists_exchange left right⟩

end

/-- The first two replicas write at the same place. The second one hears of what the first one
wrote last before it hears of what that builds on, and the third one knows little. -/
def crossing : Circle (Fin 3) :=
  performAll ⟨fun site => { id := site }, []⟩
    [ (0, .setText ['a', 'b']), (0, .tellAll), (0, .edit ⟨1, 2, ['c']⟩),
      (0, .tell (.known ⟨[(0, 2)]⟩)), (1, .setText ['x']), (1, .tellAll), (1, .hear 1),
      (1, .hear 0), (1, .hear 1), (0, .hear 2), (2, .hear 2) ]

theorem reachable_crossing : crossing.Reachable :=
  (Reachable.new fun _ _ same => Fin.ext same).performAll _

theorem crossing_text_eq_and_exchange :
    crossing.Reachable ∧ (crossing.replicas 0).text = (crossing.replicas 1).text ∧
      (crossing.replicas 0).text = ['a', 'c', 'x'] ∧ (crossing.replicas 2).text = ['x'] ∧
        ∃ update after,
          (crossing.replicas 0).updateSinceToken (crossing.replicas 2).token = .ok update ∧
            (crossing.replicas 2).apply update = .ok after ∧ after.apply update = .ok after ∧
              ∀ maker, after.version.count maker =
                max ((crossing.replicas 0).version.count maker)
                  ((crossing.replicas 2).version.count maker) := by
  have reachable : crossing.Reachable := (Reachable.new fun _ _ same => Fin.ext same).performAll _
  rcases (reachable.text_eq_and_exchange 0 2).2 with ⟨update, after, made, applied, again, counts⟩
  refine ⟨reachable, ?_, by decide, by decide, update, after, made, applied, again, ?_⟩
  · exact (reachable.text_eq_and_exchange 0 1).1 (by decide)
  · exact counts (by decide)

end Circle

end Cowrite
