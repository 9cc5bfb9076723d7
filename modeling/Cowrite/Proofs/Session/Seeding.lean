import Cowrite.Proofs.Replica.Editing
import Cowrite.Proofs.Session.Drafts
import Cowrite.Transport.Scripted

/-!
# Sharing the buffer in an empty session

A guest to which nothing comes shares its own buffer after a while: it sets the text of its document
to that of the buffer. That deletes no character of anybody else, in whatever order things happen,
because as long as no content of others has come to a session, all that its document shows was typed
at it (`Draft.Reserved`). Content counts as having come as soon as an update leaves any text; an
update that leaves none shows nothing of others either.

What the text is afterwards depends on the others too. If they keep to the rules (`Desk.Among`), it
is that of the buffer (`Desk.seeding_spares`).
-/

namespace Cowrite

/-! ## Drafts -/

namespace Draft

variable {heard : Option Update} {before after : Draft} {history larger : History}

/-- Whether a draft shows nothing of others, unless content of others has come to it. -/
def Reserved (draft : Draft) : Prop :=
  draft.contentReceived = false → draft.replica.ShowsOwn

theorem reserved_fresh (id : ReplicaId) : (fresh id).Reserved :=
  fun _ => Replica.showsOwn_of_text_eq_nil rfl

theorem Reserved.step (reserved : before.Reserved) (step : Step heard before after) :
    after.Reserved := by
  intro nothing
  cases step with
  | types edit => exact ((reserved nothing).edit edit).1
  | shares text => exact (reserved nothing).setText text
  | hears isHeard applied =>
      have empty := (Bool.or_eq_false_iff.1 nothing).2
      rw [Bool.not_eq_false', Replica.isEmpty, List.isEmpty_iff] at empty
      exact Replica.showsOwn_of_text_eq_nil empty
  | walks walks => exact ⟨(reserved nothing).distinct, (reserved nothing).own⟩

theorem Reserved.steps (reserved : before.Reserved) (steps : Steps heard before after) :
    after.Reserved := by
  induction steps with
  | refl => exact reserved
  | tail _ step ih => exact ih.step step

/-- A draft that hears nothing and shows nothing of others deletes nothing of them either. -/
theorem Steps.spares (steps : Steps none before after) (showing : before.replica.ShowsOwn) :
    after.replica.ShowsOwn ∧ before.replica.Spares after.replica := by
  induction steps with
  | refl => exact ⟨showing, .refl _⟩
  | tail _ step ih =>
      rcases ih with ⟨shows, spares⟩
      cases step with
      | types edit => exact ⟨(shows.edit edit).1, spares.trans (shows.spares_edit edit)⟩
      | shares text => exact ⟨shows.setText text, spares.trans (shows.spares_setText text)⟩
      | hears isHeard => cases isHeard
      | walks walks => exact ⟨⟨shows.distinct, shows.own⟩, ⟨spares.id_eq, spares.exists_made⟩⟩

/-- A history that a draft makes larger, by operations of its own replica. -/
structure Grows (history : History) (before : Draft) (larger : History) (after : Draft) :
    Prop where
  lawful : larger.Lawful
  subset : history ⊆ larger
  own : ∀ operation ∈ larger, operation ∉ history → operation.id.replica = before.replica.id
  id_eq : after.replica.id = before.replica.id
  active : after.replica.Active larger

theorem Grows.refl (lawful : history.Lawful) (active : before.replica.Active history) :
    Grows history before history before :=
  ⟨lawful, subset_rfl, fun _ present new => absurd present new, rfl, active⟩

theorem Grows.writes (grows : Grows history before larger after) {last : History}
    {later : Draft} (writes : Replica.Writes larger after.replica last later.replica) :
    Grows history before last later := by
  refine ⟨writes.lawful, grows.subset.trans writes.subset, ?_, writes.id_eq.trans grows.id_eq,
    writes.active⟩
  intro operation present new
  by_cases early : operation ∈ larger
  · exact grows.own operation early new
  · exact (writes.own operation present early).trans grows.id_eq

theorem Grows.step (honest : ∀ payload ∈ heard, payload.IsFrom history)
    (grows : Grows history before larger after) {later : Draft} (step : Step heard after later) :
    ∃ last, Grows history before last later := by
  cases step with
  | types edit =>
      rcases grows.active.edit grows.lawful edit with ⟨last, writes, _⟩
      exact ⟨last, grows.writes writes⟩
  | shares text =>
      rcases grows.active.setText grows.lawful text with ⟨last, writes, _⟩
      exact ⟨last, grows.writes writes⟩
  | hears isHeard applied =>
      have known := (honest _ isHeard).mono grows.subset
      exact ⟨larger, grows.lawful, grows.subset, grows.own,
        (grows.active.toSound.apply grows.lawful grows.active.settled known applied).id_eq.trans
          grows.id_eq,
        grows.active.apply grows.lawful known applied⟩
  | walks walks =>
      exact ⟨larger, grows.lawful, grows.subset, grows.own, grows.id_eq,
        grows.active.withWalks walks⟩

theorem Steps.grows (honest : ∀ payload ∈ heard, payload.IsFrom history)
    (lawful : history.Lawful) (active : before.replica.Active history)
    (steps : Steps heard before after) : ∃ larger, Grows history before larger after := by
  induction steps with
  | refl => exact ⟨history, .refl lawful active⟩
  | tail _ step ih =>
      rcases ih with ⟨larger, grows⟩
      exact grows.step honest step

/-- Everything that is new in the history is in the log. -/
theorem Grows.eq_union (grows : Grows history before larger after) :
    larger = history ∪ {operation | operation ∈ after.replica.log} := by
  apply Set.Subset.antisymm
  · intro operation present
    by_cases old : operation ∈ history
    · exact .inl old
    · have own := (grows.own operation present old).trans grows.id_eq.symm
      exact .inr (grows.active.mem_log_of_covers grows.lawful present
        (grows.active.owns operation present own))
  · exact Set.union_subset grows.subset grows.active.known

end Draft

open Draft (Step Steps Reserved Grows)

/-! ## Desks -/

namespace Desk

variable {ν : Type} {heard : Option Update} {desk after : Desk ν} {session : Session} {now : Nat}
  {history : History}

/-- Whether the document of the session shows nothing of others, unless content of others has
come. -/
def IsReserved (desk : Desk ν) : Prop :=
  ∀ session, desk.session = some session → session.draft.Reserved

theorem IsReserved.redrafts (reserved : desk.IsReserved) (redrafts : desk.Redrafts heard after) :
    after.IsReserved := by
  intro other same
  rcases redrafts with ended | ⟨session, later, present, next, steps⟩
  · cases ended.symm.trans same
  · cases next.symm.trans same
    exact (reserved session present).steps steps

/-- The operations that the session at a desk has taken up. -/
def written (desk : Desk ν) : History :=
  {operation | ∃ session, desk.session = some session ∧ operation ∈ session.replica.log}

/-- Whether a history is lawful, and the session at a desk writes in it under a number of its
own. -/
structure Keeps (history : History) (desk : Desk ν) : Prop where
  lawful : history.Lawful
  active : ∀ session, desk.session = some session → session.replica.Active history

theorem keeps_of_grows (lawful : history.Lawful)
    (grows : ∀ later, after.session = some later →
      ∃ before larger, Grows history before larger later.draft) :
    after.Keeps (history ∪ after.written) := by
  cases present : after.session with
  | none =>
      have nothing : after.written = ∅ := by simp [written, present]
      rw [nothing, Set.union_empty]
      exact ⟨lawful, fun session same => by cases present.symm.trans same⟩
  | some later =>
      rcases grows later present with ⟨before, larger, grown⟩
      have same : history ∪ after.written = larger := by
        rw [grown.eq_union]
        simp [written, present, Session.draft]
      rw [same]
      refine ⟨grown.lawful, fun session isLater => ?_⟩
      cases present.symm.trans isLater
      exact grown.active

theorem Keeps.redrafts (keeps : desk.Keeps history)
    (honest : ∀ payload ∈ heard, payload.IsFrom history) (redrafts : desk.Redrafts heard after) :
    after.Keeps (history ∪ after.written) := by
  refine keeps_of_grows keeps.lawful fun other same => ?_
  rcases redrafts with ended | ⟨session, later, present, next, steps⟩
  · cases ended.symm.trans same
  · cases next.symm.trans same
    exact ⟨_, steps.grows honest keeps.lawful (keeps.active session present)⟩

variable [Transport ν]

theorem IsReserved.perform (reserved : desk.IsReserved) (call : Call) (now : Nat) :
    (call.perform desk now).IsReserved := by
  cases begins : call.number? with
  | some id =>
      rcases desk.draft_of_begins begins now with same | ⟨_, began⟩
      · rw [same]
        exact reserved
      · exact fun session present => (Draft.reserved_fresh id).steps (began session present)
  | none =>
      by_cases polls : call = .poll
      · subst polls
        exact pollUpTo_induction
          (fun desk reserved => reserved.redrafts (desk.redrafts_pollOnce now)) _ reserved
      · exact reserved.redrafts (desk.redrafts_perform begins polls now)

theorem Lives.isReserved (lives : desk.Lives) : desk.IsReserved := by
  induction lives with
  | fresh ended =>
      intro session present
      cases ended.symm.trans present
  | carries lives buffer network ih => exact ih
  | calls lives call now ih => exact ih.perform call now
  | @turns desk lives now ih => exact ih.redrafts (desk.redrafts_pollOnce now)

/-! ## Others who keep to the rules -/

/-- The desks that can come about, with the history of the document, when everybody else keeps to
the rules: nobody uses the number of the session, and what it is told are operations that somebody
has made, or nothing that could be read. -/
inductive Among : History → Desk ν → Prop where
  | fresh {history : History} {desk : Desk ν} (lawful : history.Lawful)
      (ended : desk.session = none) (empty : desk.agenda = {}) : Among history desk
  /-- Others write. -/
  | others {history larger : History} {desk : Desk ν} (among : Among history desk)
      (lawful : larger.Lawful) (subset : history ⊆ larger)
      (elsewhere : ∀ operation ∈ larger, operation ∉ history →
        ∀ session, desk.session = some session → operation.id.replica ≠ session.replica.id) :
      Among larger desk
  | carries {history : History} {desk : Desk ν} (among : Among history desk) (buffer : Buffer)
      (network : ν) : Among history { desk with buffer, network }
  | calls {history : History} {desk : Desk ν} (among : Among history desk) (call : Call)
      (single : call ≠ .poll)
      (unused : ∀ id, call.number? = some id → ∀ operation ∈ history, operation.id.replica ≠ id)
      (now : Nat) : Among (history ∪ (call.perform desk now).written) (call.perform desk now)
  | turns {history : History} {desk : Desk ν} (among : Among history desk) (now : Nat)
      (honest : ∀ payload ∈ (desk.takeMatter now).1.bind Matter.payload?,
        payload.IsFrom history) :
      Among (history ∪ (desk.pollOnce now).2.written) (desk.pollOnce now).2

theorem Among.lives (among : desk.Among history) : desk.Lives := by
  induction among with
  | fresh lawful ended empty => exact .fresh ended empty
  | others among lawful subset elsewhere ih => exact ih
  | carries among buffer network ih => exact ih.carries buffer network
  | calls among call single unused now ih => exact ih.calls call now
  | turns among now honest ih => exact ih.turns now

theorem Among.keeps (among : desk.Among history) : desk.Keeps history := by
  induction among with
  | fresh lawful ended empty =>
      exact ⟨lawful, fun session present => by cases ended.symm.trans present⟩
  | others among lawful subset elsewhere ih =>
      refine ⟨lawful, fun session present => ?_⟩
      exact (ih.active session present).mono subset
        fun operation known new => elsewhere operation known new session present
  | carries among buffer network ih => exact ⟨ih.lawful, ih.active⟩
  | @calls history desk among call single unused now ih =>
      have silent : ∀ payload ∈ (none : Option Update), payload.IsFrom history := by simp
      cases begins : call.number? with
      | none => exact ih.redrafts silent (desk.redrafts_perform begins single now)
      | some id =>
          refine keeps_of_grows ih.lawful fun later present => ?_
          rcases desk.draft_of_begins begins now with same | ⟨_, began⟩
          · rw [same] at present
            exact ⟨_, _, .refl ih.lawful (ih.active later present)⟩
          · exact ⟨_, (began later present).grows silent ih.lawful
              (Replica.active_new (unused id begins))⟩
  | @turns history desk among now honest ih => exact ih.redrafts honest (desk.redrafts_pollOnce now)

/-! ## Seeding -/

/-- Whether a session sets the text of its document to that of the buffer in a round: the wait is
over, nothing has come, and the buffer has a text. -/
structure Seeds (desk : Desk ν) (session : Session) (now : Nat) : Prop where
  present : desk.session = some session
  waited : (desk.takeMatter now).1 = some (.task .emptySyncFallback)
  guest : session.isHost = false
  nothing : session.contentReceived = false
  text : desk.HasText

/-- What the round comes to. -/
theorem Seeds.exists_pollOnce (seeds : desk.Seeds session now) :
    ∃ later, (desk.pollOnce now).2.session = some later ∧ later.outbox.pending = true ∧
      later.replica = (session.observe desk.buffer now).1.replica.setText desk.buffer.content ∧
        (desk.pollOnce now).2.buffer.content = desk.buffer.content := by
  let taken := (desk.takeMatter now).2
  have present : taken.session = some session := session_takeMatter seeds.present now
  have buffer : taken.buffer = desk.buffer := desk.buffer_takeMatter now
  have text : taken.HasText := by
    rw [HasText, buffer]
    exact seeds.text
  have content : (taken.observe session now).2.buffer.content = desk.buffer.content := by
    rw [Buffer.content, Buffer.content, ← buffer]
    exact congrArg (Text.joinLines true) (session.lines_observe taken.buffer now)
  have shown : Binding.shownText (taken.observe session now).2.buffer = desk.buffer.content := by
    rw [Binding.shownText, content]
    exact Binding.shownText_eq_content (Binding.lines_ne_nil_of_text seeds.text)
  have polled : (desk.pollOnce now).2 = taken.runEmptySyncFallback now :=
    congrArg Prod.snd (pollOnce_of_matter seeds.waited)
  rw [polled, runEmptySyncFallback_of_guest present seeds.guest seeds.nothing text, shown]
  refine ⟨_, rfl, rfl, ?_, content⟩
  rw [← buffer]
  rfl

/-- When a session sets the text of its document to that of the buffer, it only adds operations of
its own, and none of them deletes a character of another replica. Afterwards there is something to
send, and if the others keep to the rules, the document has the text of the buffer. -/
theorem seeding_spares (lives : desk.Lives) (seeds : desk.Seeds session now) :
    ∃ later, (desk.pollOnce now).2.session = some later ∧
      session.replica.Spares later.replica ∧ later.outbox.pending = true ∧
        ∀ history, desk.Among history →
          later.replica.text = (desk.pollOnce now).2.buffer.content := by
  rcases seeds.exists_pollOnce with ⟨later, next, pending, replica, content⟩
  refine ⟨later, next, ?_, pending, fun history among => ?_⟩
  · have redrafts := desk.redrafts_pollOnce now
    rw [seeds.waited] at redrafts
    rcases redrafts with ended | ⟨before, after, isBefore, isAfter, steps⟩
    · cases ended.symm.trans next
    · cases seeds.present.symm.trans isBefore
      cases next.symm.trans isAfter
      exact (steps.spares (lives.isReserved session seeds.present seeds.nothing)).2
  · have keeps := among.keeps
    have silent : ∀ payload ∈ (none : Option Update), payload.IsFrom history := by simp
    rcases (session.writes_observe desk.buffer now none).grows silent keeps.lawful
      (keeps.active session seeds.present) with ⟨larger, grows⟩
    rcases grows.active.setText grows.lawful desk.buffer.content with ⟨last, _, text⟩
    rw [replica, content]
    exact text

/-- Somebody with a word in the buffer, who does not wait long. -/
def impatient : Desk Scripted :=
  { settings := { emptySyncWait := 10 }
    buffer := Buffer.ofText "mine".toList
    network := { serves := .relay } }

/-- An event arrives over the newest connection. -/
def arriving (desk : Desk Scripted) (event : TransportEvent Update) : Desk Scripted :=
  { desk with network := (desk.network.emit none event).2 }

/-- The room turns out to be empty. -/
def alone : Desk Scripted :=
  let connected := (impatient.join "AAt3c3M6Ly9yZWxheRAwMDAwMDAwMDAwMDAwMDA1AA" 1 0).2
  ((((connected.arriving .connected).pollOnce 0).2.arriving (.syncResponse .empty)).pollOnce 0).2

theorem exists_among_alone : ∃ history, alone.Among history := by
  let joined := Call.join "AAt3c3M6Ly9yZWxheRAwMDAwMDAwMDAwMDAwMDA1AA" 1
  let told := (((joined.perform impatient 0).arriving .connected).pollOnce 0).2.arriving
    (.syncResponse .empty)
  have first : (((joined.perform impatient 0).arriving .connected).takeMatter 0).1.bind
      Matter.payload? = none := by
    decide +kernel
  have second : (told.takeMatter 0).1.bind Matter.payload? = some .empty := by
    decide +kernel
  refine ⟨_, .turns (.carries (.turns (.carries (.calls (.fresh History.lawful_empty rfl rfl) joined
    (by simp [joined]) (by simp) 0) _ _) 0 ?_) _ _) 0 ?_⟩
  · intro payload isHeard
    cases first.symm.trans isHeard
  · intro payload isHeard
    cases second.symm.trans isHeard
    exact ⟨by simp [Update.carried], List.nodup_nil⟩

theorem alone_spares :
    ∃ session, alone.Seeds session 10 ∧ ∃ later, (alone.pollOnce 10).2.session = some later ∧
      session.replica.Spares later.replica ∧ later.outbox.pending = true ∧
        later.replica.text = "mine\n".toList := by
  have stands : (alone.session.any fun session =>
      !session.isHost && !session.contentReceived) = true := by
    decide +kernel
  rcases (Option.any_eq_true _ _).1 stands with ⟨session, present, waits⟩
  simp only [Bool.and_eq_true, Bool.not_eq_true'] at waits
  have seeds : alone.Seeds session 10 :=
    ⟨present, by decide +kernel, waits.1, waits.2, by decide +kernel⟩
  rcases exists_among_alone with ⟨history, among⟩
  rcases seeding_spares among.lives seeds with ⟨later, next, spares, pending, text⟩
  refine ⟨session, seeds, later, next, spares, pending, (text history among).trans ?_⟩
  decide +kernel

end Desk

end Cowrite
