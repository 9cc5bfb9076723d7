import Cowrite.Proofs.Session.Call
import Cowrite.Proofs.Session.Waiting
import Cowrite.Transport.Scripted

/-!
# Runs of a waiting guest

Somebody who joins a session has a text in the buffer that nobody else has. A run of such a guest
(`Guest`) is made of rounds of polling, of notifications and flushes, and of changes of the
transport and the buffer by others. While the guest waits, the run keeps its text exactly if no
round of it reveals that there is nothing (`Guest.keepsText_joined_iff`).

That can happen: after a first attempt to connect that came too late, an empty state is shown
(`late_not_keepsText`).
-/

namespace Cowrite

/-- A desk at which somebody has joined, and whether a first state has come to it. -/
structure Guest (ν : Type) where
  desk : Desk ν
  informed : Bool := false

/-- What can happen at a desk. Others may change the transport and the buffer as they like. -/
inductive Stir (ν : Type) where
  | network (change : ν → ν)
  | buffer (change : Buffer → Buffer)
  | bufferChanged
  | flushNow
  | round

namespace Guest

variable {ν : Type} [Transport ν]

def joined (desk : Desk ν) (code : String) (replica : ReplicaId) (now : Nat) : Guest ν :=
  { desk := (desk.join code replica now).2 }

/-- What the session has to deal with. -/
def matter? (guest : Guest ν) (stir : Stir ν) (now : Nat) : Option Matter :=
  match stir with
  | .round => (guest.desk.takeMatter now).1
  | _ => none

/-- The desk after something has happened. Only the session itself asks for writes. -/
def stirred (guest : Guest ν) (stir : Stir ν) (now : Nat) : Desk ν :=
  match stir with
  | .network change => { guest.desk with network := change guest.desk.network }
  | .buffer change =>
      { guest.desk with
        buffer := { change guest.desk.buffer with requests := guest.desk.buffer.requests } }
  | .bufferChanged => guest.desk.bufferChanged now
  | .flushNow => (guest.desk.flushNow now).2
  | .round => (guest.desk.pollOnce now).2

def after (guest : Guest ν) (stir : Stir ν) (now : Nat) : Guest ν :=
  { desk := guest.stirred stir now
    informed := guest.informed ||
      (guest.matter? stir now).any fun matter => matter.state?.isSome }

/-- Whether nothing is written over the text of a guest that has nothing, and a very first state
that is empty makes it plan to share its text. -/
def Keeps (guest : Guest ν) (stir : Stir ν) (now : Nat) : Prop :=
  ¬guest.desk.Overwrites (guest.stirred stir now) ∧
    ∀ matter ∈ guest.matter? stir now, ¬(guest.stirred stir now).Forgets guest.informed matter

instance (guest : Guest ν) (stir : Stir ν) (now : Nat) : Decidable (guest.Keeps stir now) :=
  inferInstanceAs (Decidable (_ ∧ ∀ matter ∈ guest.matter? stir now,
    ¬(guest.stirred stir now).Forgets guest.informed matter))

def reveals (guest : Guest ν) (stir : Stir ν) (now : Nat) : Bool :=
  (guest.matter? stir now).any fun matter =>
    (guest.desk.takeMatter now).2.reveals guest.informed matter now

/-- The guest after a run. -/
def run (guest : Guest ν) (stirs : List (Stir ν × Nat)) : Guest ν :=
  stirs.foldl (fun guest stir => guest.after stir.1 stir.2) guest

/-- Whether something is true of everything that happens in a run. -/
def Throughout (holds : Guest ν → Stir ν → Nat → Prop) (guest : Guest ν) :
    List (Stir ν × Nat) → Prop
  | [] => True
  | (stir, now) :: rest => holds guest stir now ∧ Throughout holds (guest.after stir now) rest

def decidableThroughout (holds : Guest ν → Stir ν → Nat → Prop)
    [∀ guest stir now, Decidable (holds guest stir now)] :
    (guest : Guest ν) → (stirs : List (Stir ν × Nat)) → Decidable (guest.Throughout holds stirs)
  | _, [] => .isTrue trivial
  | guest, (stir, now) :: rest =>
      have := decidableThroughout holds (guest.after stir now) rest
      inferInstanceAs (Decidable (_ ∧ _))

/-- Whether a guest waits, with a text in the buffer, whenever something happens. -/
def Waits (guest : Guest ν) (stirs : List (Stir ν × Nat)) : Prop :=
  guest.Throughout (fun guest _ _ => guest.desk.Waits guest.informed ∧ guest.desk.HasText) stirs

instance (guest : Guest ν) (stirs : List (Stir ν × Nat)) : Decidable (guest.Waits stirs) :=
  decidableThroughout _ guest stirs

/-- Whether a run keeps the text of a guest. -/
def KeepsText (guest : Guest ν) (stirs : List (Stir ν × Nat)) : Prop :=
  guest.Throughout Keeps stirs

instance (guest : Guest ν) (stirs : List (Stir ν × Nat)) : Decidable (guest.KeepsText stirs) :=
  decidableThroughout _ guest stirs

/-- Whether a run reveals nowhere that there is nothing. -/
def NeverReveals (guest : Guest ν) (stirs : List (Stir ν × Nat)) : Prop :=
  guest.Throughout (fun guest stir now => guest.reveals stir now = false) stirs

instance (guest : Guest ν) (stirs : List (Stir ν × Nat)) : Decidable (guest.NeverReveals stirs) :=
  decidableThroughout _ guest stirs

def Sheltered (guest : Guest ν) : Prop :=
  guest.desk.Sheltered guest.informed

end Guest

/-! ## Joining -/

namespace Desk

variable {ν : Type}

theorem has_of_periodic {settings : Settings} {clock : Clock} {agenda later : Agenda} {now : Nat}
    {task : Task}
    (noFlush : task ≠ .flush) (noReconcile : task ≠ .reconcile)
    (planned : periodic settings clock agenda now = .ok later) :
    later.has task = agenda.has task := by
  rcases exists_of_periodic planned with ⟨interval, _, rfl⟩
  have unlikeFlush : (Task.flush == task) = false := beq_false_of_ne noFlush.symm
  have unlikeReconcile : (Task.reconcile == task) = false := beq_false_of_ne noReconcile.symm
  rw [Agenda.every, Agenda.has_put, Agenda.every, Agenda.has_put, unlikeFlush, unlikeReconcile]
  rfl

variable [Transport ν] {desk : Desk ν} {session : Session}

theorem sheltered_start (unplanned : desk.agenda.has .emptySyncFallback = false)
    (apart : session.connection.state.isSynced = false) (now : Nat) :
    (desk.start session now).2.Sheltered false := by
  have connects := (desk.line session).aside_connect now
  rw [start]
  rcases connected : (desk.line session).connect now with ⟨_ | ⟨⟩, line⟩
  · exact sheltered_of_ended rfl
  · simp only
    rw [connected] at connects
    cases planned : periodic desk.settings desk.clock line.agenda now with
    | error _ => exact sheltered_of_ended rfl
    | ok agenda =>
        apply sheltered_of_present rfl
        refine ⟨?_, fun late => absurd late Bool.false_ne_true⟩
        intro _
        constructor
        · cases synced : line.connection.state.isSynced with
          | false => rfl
          | true => exact (connects.synced synced).symm.trans apart
        · have fallback : line.agenda.has .emptySyncFallback = desk.agenda.has .emptySyncFallback :=
            connects.fallback
          change agenda.has .emptySyncFallback = false
          have kept : agenda.has .emptySyncFallback = line.agenda.has .emptySyncFallback :=
            has_of_periodic (by simp) (by simp) planned
          rw [kept, fallback]
          exact unplanned

theorem sheltered_join (ended : desk.session = none) (idle : desk.agenda = {}) (code : String)
    (replica : ReplicaId) (now : Nat) : (desk.join code replica now).2.Sheltered false := by
  have apart : desk.Sheltered false := sheltered_of_ended ended
  rw [join]
  split
  · exact apart
  · cases Invitation.decode code with
    | error error => exact apart
    | ok invitation =>
      simp only
      split
      · exact apart
      · let prepared := desk.prepare .joiner invitation.target invitation.key? (some invitation)
          { id := replica } { window := desk.settings.debounce } now
        have unplanned : prepared.2.agenda.has .emptySyncFallback = false := by
          change desk.agenda.has .emptySyncFallback = false
          rw [idle]
          rfl
        have apart : prepared.1.connection.state.isSynced = false := rfl
        have started := sheltered_start unplanned apart now
        rcases result : prepared.2.start prepared.1 now with ⟨_ | ⟨⟩, after⟩
        · rwa [result] at started
        · rwa [result] at started

variable {informed : Bool} {now : Nat}

/-! ## Notifications and flushes -/

theorem bufferChanged_cases (desk : Desk ν) (now : Nat) :
    desk.Aside (desk.bufferChanged now) ∨
      ∃ session, desk.session = some session ∧
        desk.bufferChanged now = (desk.observe session now).2 := by
  rw [bufferChanged]
  cases present : desk.session with
  | none => exact .inl (.refl desk)
  | some session =>
      simp only
      split
      · exact .inl desk.aside_closeForInvalidBuffer
      · exact .inr ⟨session, rfl, rfl⟩

theorem requests_bufferChanged (desk : Desk ν) (now : Nat) :
    (desk.bufferChanged now).buffer.requests = desk.buffer.requests := by
  rcases desk.bufferChanged_cases now with aside | ⟨session, _, result⟩
  · rw [aside.1]
  · rw [result]
    exact desk.requests_observe session now

theorem Sheltered.bufferChanged (sheltered : desk.Sheltered informed) (now : Nat) :
    (desk.bufferChanged now).Sheltered informed := by
  rcases desk.bufferChanged_cases now with aside | ⟨session, present, result⟩
  · exact sheltered.aside aside
  · rw [result]
    exact sheltered_observe present sheltered now

theorem requests_flushNow (desk : Desk ν) (now : Nat) :
    (desk.flushNow now).2.buffer.requests = desk.buffer.requests := by
  rw [flushNow]
  cases present : desk.session with
  | none => rfl
  | some session =>
      simp only
      split
      · exact desk.requests_observe session now
      · exact desk.requests_observe session now

theorem Sheltered.flushNow (sheltered : desk.Sheltered informed) (now : Nat) :
    (desk.flushNow now).2.Sheltered informed := by
  rw [Desk.flushNow]
  cases present : desk.session with
  | none => exact sheltered
  | some session =>
      have shelters := sheltered session present
      simp only
      split
      · exact sheltered_of_present rfl ⟨shelters.early, shelters.late⟩
      · exact sheltered_of_present rfl ⟨shelters.early, shelters.late⟩

end Desk

/-! ## Runs -/

namespace Guest

variable {ν : Type} [Transport ν] {guest : Guest ν} {stir : Stir ν} {now : Nat}

theorem keeps_of_requests_eq (idle : guest.matter? stir now = none)
    (same : (guest.stirred stir now).buffer.requests = guest.desk.buffer.requests) :
    guest.Keeps stir now ↔ guest.reveals stir now = false := by
  constructor
  · intro _
    rw [reveals, idle]
    rfl
  · intro _
    refine ⟨Desk.not_overwrites_of_requests_eq same, ?_⟩
    intro matter present
    rw [idle] at present
    cases present

/-- What is known when a matter has been taken, and not yet dealt with. -/
theorem Sheltered.take (sheltered : guest.Sheltered) (waits : guest.desk.Waits guest.informed)
    (text : guest.desk.HasText) {matter : Matter}
    (found : (guest.desk.takeMatter now).1 = some matter) :
    (guest.desk.takeMatter now).2.Waits guest.informed ∧ (guest.desk.takeMatter now).2.HasText ∧
      (matter ≠ .task .emptySyncFallback →
        (guest.desk.takeMatter now).2.Sheltered guest.informed) ∧
      (matter = .task .emptySyncFallback → guest.informed = true) := by
  rcases waits with ⟨session, present, isGuest, nothing, none⟩
  refine ⟨⟨session, Desk.session_takeMatter present now, isGuest, nothing, none⟩, ?_, ?_, ?_⟩
  · rw [Desk.HasText, Desk.buffer_takeMatter]
    exact text
  · intro differs
    apply Desk.sheltered_takeMatter sheltered
    rw [found]
    exact fun same => differs (Option.some.inj same)
  · rintro rfl
    exact Desk.informed_of_takeMatter sheltered present found

theorem stirred_of_matter {matter : Matter}
    (found : (guest.desk.takeMatter now).1 = some matter) :
    guest.stirred .round now = (guest.desk.takeMatter now).2.deal matter now := by
  rw [stirred, Desk.pollOnce_of_matter found]

/-- Whatever happens to a sheltered guest keeps its text exactly if it reveals nothing. -/
theorem Sheltered.keeps_iff (sheltered : guest.Sheltered)
    (waits : guest.desk.Waits guest.informed) (text : guest.desk.HasText) (stir : Stir ν)
    (now : Nat) : guest.Keeps stir now ↔ guest.reveals stir now = false := by
  cases stir with
  | network change => exact keeps_of_requests_eq rfl rfl
  | buffer change => exact keeps_of_requests_eq rfl rfl
  | bufferChanged => exact keeps_of_requests_eq rfl (guest.desk.requests_bufferChanged now)
  | flushNow => exact keeps_of_requests_eq rfl (guest.desk.requests_flushNow now)
  | round =>
      cases found : (guest.desk.takeMatter now).1 with
      | none =>
          have idle : guest.matter? .round now = none := found
          apply keeps_of_requests_eq idle
          rw [stirred, Desk.pollOnce_of_none found, Desk.buffer_takeMatter]
      | some matter =>
          rcases sheltered.take waits text found with ⟨still, shown, apart, _⟩
          have breaks : (guest.desk.takeMatter now).2.Overwrites (guest.stirred .round now) ∨
              (guest.stirred .round now).Forgets guest.informed matter ↔
              (guest.desk.takeMatter now).2.reveals guest.informed matter now = true := by
            rw [stirred_of_matter found]
            exact Desk.breaks_deal_iff apart still shown
          have matters : guest.matter? .round now = some matter := found
          rw [Desk.Overwrites, Desk.buffer_takeMatter] at breaks
          rw [Keeps, reveals, matters, Option.any_some, ← Bool.not_eq_true, ← breaks, not_or]
          simp [Desk.Overwrites]

/-- A guest that waits on is sheltered as long as nothing was revealed. -/
theorem Sheltered.after (sheltered : guest.Sheltered) (waits : guest.desk.Waits guest.informed)
    (text : guest.desk.HasText) (hidden : guest.reveals stir now = false)
    (still : (guest.after stir now).desk.Waits (guest.after stir now).informed) :
    (guest.after stir now).Sheltered := by
  have informed_of_idle (idle : guest.matter? stir now = none) :
      (guest.after stir now).informed = guest.informed := by
    rw [Guest.after, idle]
    exact Bool.or_false _
  cases stir with
  | network change =>
      rw [Sheltered, informed_of_idle rfl]
      exact sheltered
  | buffer change =>
      rw [Sheltered, informed_of_idle rfl]
      exact sheltered
  | bufferChanged =>
      rw [Sheltered, informed_of_idle rfl]
      exact Desk.Sheltered.bufferChanged sheltered now
  | flushNow =>
      rw [Sheltered, informed_of_idle rfl]
      exact Desk.Sheltered.flushNow sheltered now
  | round =>
      cases found : (guest.desk.takeMatter now).1 with
      | none =>
          have idle : guest.matter? .round now = none := found
          rw [Sheltered, informed_of_idle idle, Guest.after, stirred, Desk.pollOnce_of_none found]
          apply Desk.sheltered_takeMatter sheltered
          rw [found]
          simp
      | some matter =>
          rcases sheltered.take waits text found with ⟨taken, shown, apart, late⟩
          have matters : guest.matter? .round now = some matter := found
          have result : guest.after .round now =
              { desk := (guest.desk.takeMatter now).2.deal matter now
                informed := guest.informed || matter.state?.isSome } := by
            rw [Guest.after, stirred_of_matter found, matters]
            rfl
          rw [reveals, matters, Option.any_some] at hidden
          rw [result] at still ⊢
          exact Desk.sheltered_deal apart late taken shown hidden still

theorem desk_run_rounds (guest : Guest ν) (rounds now : Nat) :
    (guest.run (List.replicate rounds (.round, now))).desk =
      (fun desk : Desk ν => (desk.pollOnce now).2)^[rounds] guest.desk := by
  induction rounds generalizing guest with
  | zero => rfl
  | succ rounds ih => exact ih (guest.after .round now)

/-- A poll is so many rounds. -/
theorem poll_eq_run (guest : Guest ν) (now : Nat) :
    ∃ rounds, guest.desk.poll now = (guest.run (List.replicate rounds (.round, now))).desk := by
  rcases guest.desk.exists_poll_eq_iterate now with ⟨rounds, polled⟩
  exact ⟨rounds, polled.trans (guest.desk_run_rounds rounds now).symm⟩

/-- While a guest waits, a run keeps its text exactly if it never reveals that there is nothing. -/
theorem Sheltered.keepsText_iff (sheltered : guest.Sheltered) {stirs : List (Stir ν × Nat)}
    (waits : guest.Waits stirs) : guest.KeepsText stirs ↔ guest.NeverReveals stirs := by
  induction stirs generalizing guest with
  | nil => exact Iff.rfl
  | cons first rest ih =>
      rcases first with ⟨stir, now⟩
      rcases waits with ⟨⟨here, text⟩, later⟩
      have step := sheltered.keeps_iff here text stir now
      have others (hidden : guest.reveals stir now = false) :
          (guest.after stir now).KeepsText rest ↔ (guest.after stir now).NeverReveals rest := by
        cases rest with
        | nil => exact Iff.rfl
        | cons next others => exact ih (sheltered.after here text hidden later.1.1) later
      constructor
      · rintro ⟨keeps, keepsRest⟩
        have hidden := step.1 keeps
        exact ⟨hidden, (others hidden).1 keepsRest⟩
      · rintro ⟨hidden, hiddenRest⟩
        exact ⟨step.2 hidden, (others hidden).2 hiddenRest⟩

/-- Somebody who joins keeps its text, as long as it waits, exactly if nothing reveals that there is
nothing. -/
theorem keepsText_joined_iff {desk : Desk ν} (ended : desk.session = none)
    (idle : desk.agenda = {}) (code : String) (replica : ReplicaId) (now : Nat)
    {stirs : List (Stir ν × Nat)} (waits : (joined desk code replica now).Waits stirs) :
    (joined desk code replica now).KeepsText stirs ↔
      (joined desk code replica now).NeverReveals stirs := by
  have sheltered : (joined desk code replica now).Sheltered :=
    Desk.sheltered_join ended idle code replica now
  exact sheltered.keepsText_iff waits

/-- Somebody with a word in the buffer, and a transport that follows a script. -/
def mine : Desk Scripted :=
  { buffer := Buffer.ofText "mine".toList, network := { serves := .relay } }

/-- The code of a room. -/
def room : String :=
  "AAt3c3M6Ly9yZWxheRAwMDAwMDAwMDAwMDAwMDA1AA"

def arrives (event : TransportEvent Update) : Stir Scripted :=
  .network fun network => (network.emit none event).2

/-- An empty state comes over the first connection, and then an update that is refused. -/
def inTime : List (Stir Scripted × Nat) :=
  [(arrives .connected, 0), (.round, 10), (arrives (.syncResponse .empty), 10), (.round, 20),
    (arrives (.update .malformed), 30), (.round, 40)]

theorem inTime_keepsText : (joined mine room 1 0).KeepsText inTime :=
  (keepsText_joined_iff rfl rfl room 1 0 (by decide +kernel)).2 (by decide +kernel)

/-- The first attempt to connect takes too long, and an empty state comes over the second one. -/
def late : List (Stir Scripted × Nat) :=
  List.replicate 3 (.round, 10000) ++ List.replicate 3 (.round, 11000) ++
    [(arrives .connected, 11000), (.round, 11010), (arrives (.syncResponse .empty), 11010),
      (.round, 11020)]

theorem late_not_keepsText :
    (joined mine room 1 0).Waits late ∧ ¬(joined mine room 1 0).KeepsText late ∧
      ((joined mine room 1 0).run late).desk.buffer.content = "\n".toList := by
  decide +kernel

end Guest

end Cowrite
