import Cowrite.Proofs.Session.Aside
import Cowrite.Proofs.Session.Call
import Cowrite.Proofs.Session.FirstState
import Cowrite.Proofs.Session.Typing

/-!
# Bindings that know their buffer

The binding of a session has to know which lines the user saw when something was typed. If the
buffer changes only as somebody types or the session writes, it does at all times: the shadow is
what the buffer showed when its notifications were last taken, and what is typed since then is
heard of (`Desk.Bound`). Every call keeps this up over any transport (`Bound.perform`), so it is
true of every desk that can come about (`Roams.bound`).
-/

namespace Cowrite

/-! ## Writing -/

namespace Buffer

variable {buffer : Buffer}

theorem Tidy.of_lines_eq (tidy : buffer.Tidy) {other : Buffer} (same : other.lines = buffer.lines) :
    other.Tidy :=
  ⟨same ▸ tidy.nonempty, same ▸ tidy.plain⟩

theorem Tidy.suspend (tidy : buffer.Tidy) : buffer.suspend.Tidy :=
  tidy.of_lines_eq rfl

theorem Tidy.noteRequest (tidy : buffer.Tidy) (request : WriteRequest) :
    (buffer.noteRequest request).Tidy :=
  tidy.of_lines_eq rfl

theorem tidy_of_splitLines {text : Text} (lines : buffer.lines = Text.splitLines text) :
    buffer.Tidy := by
  constructor
  · rw [lines]
    exact Text.pieces_ne_nil _
  · rw [lines]
    exact fun line present => Text.not_mem_of_mem_pieces present

theorem Tidy.replaceContent (tidy : buffer.Tidy) (text : Text) :
    (buffer.replaceContent text).2.Tidy := by
  rw [Buffer.replaceContent]
  split
  · exact tidy
  · exact tidy_of_splitLines rfl

theorem Tidy.writeContent (tidy : buffer.Tidy) (text : Text) : (buffer.writeContent text).2.Tidy :=
  (tidy.noteRequest _).replaceContent text

theorem Tidy.replaceRange (tidy : buffer.Tidy) (start stop : Nat) (text : Text) :
    (buffer.replaceRange start stop text).2.Tidy := by
  simp only [Buffer.replaceRange]
  split
  · exact tidy
  · split
    · exact tidy_of_splitLines rfl
    · exact tidy

theorem Tidy.writeRange (tidy : buffer.Tidy) (start stop : Nat) (text : Text) :
    (buffer.writeRange start stop text).2.Tidy := by
  rw [Buffer.writeRange]
  split
  · exact (tidy.noteRequest _).replaceRange start stop text
  · simp only [writeRangeAsContent]
    split
    · exact tidy.writeContent _
    · exact tidy

end Buffer

namespace Binding

variable {binding : Binding} {buffer : Buffer}

theorem tidy_writeEdits (tidy : buffer.Tidy) (edits : List Edit) :
    (writeEdits edits buffer).2.Tidy := by
  induction edits generalizing buffer with
  | nil => exact tidy
  | cons edit rest ih =>
      have written := tidy.writeRange edit.start edit.stop edit.text
      rw [writeEdits]
      rcases result : buffer.writeRange edit.start edit.stop edit.text with ⟨_ | ⟨⟩, later⟩
      · rw [result] at written
        exact written
      · rw [result] at written
        exact ih written

/-- Whether a binding knows which lines were shown, and has heard of what was typed since. -/
def Knows (binding : Binding) (buffer : Buffer) : Prop :=
  buffer.Typed binding.shadow

theorem Knows.tidy (knows : binding.Knows buffer) : buffer.Tidy :=
  Buffer.Typed.tidy knows

theorem knows_of_shadow_eq (tidy : buffer.Tidy) (quiet : buffer.changes = [])
    (shadow : binding.shadow = buffer.lines) : binding.Knows buffer :=
  ⟨tidy, .inl ⟨quiet, shadow.symm⟩⟩

theorem knows_attach (tidy : buffer.Tidy) (lockout : Nat) :
    (attach buffer lockout).1.Knows (attach buffer lockout).2 :=
  knows_of_shadow_eq (tidy.of_lines_eq rfl) rfl rfl

theorem Knows.observe (knows : binding.Knows buffer) (replica : Replica) (now : Nat) :
    (binding.observe buffer replica now).2.1.Knows (binding.observe buffer replica now).2.2.1 := by
  have tidy : buffer.takeChanges.2.Tidy := knows.tidy.of_lines_eq rfl
  by_cases quiet : buffer.changes = []
  · rw [observe_of_quiet _ _ _ _ quiet]
    refine knows_of_shadow_eq tidy rfl ?_
    rcases Buffer.Typed.heard knows with ⟨_, same⟩ | ⟨change, one, _⟩ | several
    · exact same.symm
    · simp [one] at quiet
    · simp [quiet] at several
  · cases heard : binding.suppression.suppresses now with
    | true =>
        rw [observe_of_suppressed _ _ _ _ quiet heard]
        exact knows_of_shadow_eq tidy rfl rfl
    | false =>
        rw [observe_of_edited _ _ _ _ quiet heard]
        exact knows_of_shadow_eq tidy rfl rfl

theorem knows_guardedly (write : Buffer → Except WriteError Unit × Buffer)
    (tidy : (write buffer.suspend).2.Tidy) (now : Nat) :
    (binding.guardedly buffer now write).2.1.Knows (binding.guardedly buffer now write).2.2 :=
  knows_of_shadow_eq (tidy.of_lines_eq rfl) rfl rfl

theorem Knows.display (knows : binding.Knows buffer) (text : Text) (now : Nat) :
    (binding.display buffer text now).2.1.Knows (binding.display buffer text now).2.2 := by
  simp only [Binding.display]
  split
  · exact knows
  · exact knows_guardedly (·.writeContent _) (knows.tidy.suspend.writeContent _) now

theorem Knows.displayAlong (knows : binding.Knows buffer) (walks : List Walk) (text : Text)
    (now : Nat) :
    (binding.displayAlong buffer walks text now).2.1.Knows
      (binding.displayAlong buffer walks text now).2.2 := by
  simp only [Binding.displayAlong]
  split
  · exact knows
  · cases editsAlong? walks (shownText buffer) text.terminated with
    | none => exact knows.display text now
    | some edits =>
        exact knows_guardedly (writeEdits edits) (tidy_writeEdits knows.tidy.suspend edits) now

theorem Knows.reconcile (knows : binding.Knows buffer) (replica : Replica) (now : Nat) :
    (binding.reconcile buffer replica now).2.1.Knows
      (binding.reconcile buffer replica now).2.2.1 := by
  have locked : (binding.lockOut now).Knows buffer := knows
  by_cases same : shownText buffer = Text.terminated replica.text
  · rw [binding.reconcile_of_shown now same]
    exact knows
  · rw [binding.reconcile_of_differs now same]
    exact locked.display (Text.terminated replica.text) now

end Binding

/-! ## Sessions -/

namespace Session

variable {session : Session} {buffer : Buffer}

theorem knows_observe (knows : session.binding.Knows buffer) (now : Nat) :
    (session.observe buffer now).1.binding.Knows (session.observe buffer now).2 :=
  knows.observe session.replica now

theorem knows_display (knows : session.binding.Knows buffer) (now : Nat) :
    (session.display buffer now).1.binding.Knows (session.display buffer now).2 :=
  knows.displayAlong _ _ now

theorem knows_displayOrDefer (knows : session.binding.Knows buffer) (now : Nat) :
    (session.displayOrDefer buffer now).1.binding.Knows (session.displayOrDefer buffer now).2 := by
  rw [displayOrDefer]
  split
  · exact knows
  · exact knows_display knows now

theorem knows_reconcile (knows : session.binding.Knows buffer) (now : Nat) :
    (session.reconcile buffer now).1.binding.Knows (session.reconcile buffer now).2 :=
  knows.reconcile session.replica now

end Session

/-! ## Desks -/

namespace Desk

variable {ν : Type} {desk after : Desk ν} {session later : Session}

/-- A desk with a buffer of lines, which the session knows if there is one. -/
structure Bound (desk : Desk ν) : Prop where
  tidy : desk.buffer.Tidy
  knows : ∀ session, desk.session = some session → session.binding.Knows desk.buffer

theorem bound_of_present (present : after.session = some later)
    (knows : later.binding.Knows after.buffer) : after.Bound := by
  refine ⟨knows.tidy, ?_⟩
  intro other same
  cases present.symm.trans same
  exact knows

theorem bound_of_ended (ended : after.session = none) (tidy : after.buffer.Tidy) :
    after.Bound := by
  refine ⟨tidy, ?_⟩
  intro other same
  cases ended.symm.trans same

/-- What leaves the document aside leaves the binding alone. -/
theorem Bound.aside (bound : desk.Bound) (aside : desk.Aside after) : after.Bound := by
  rcases aside with ⟨buffer, ended | ⟨session, later, present, next, same, _⟩⟩
  · exact bound_of_ended ended (buffer ▸ bound.tidy)
  · refine bound_of_present next ?_
    rw [same.binding, buffer]
    exact bound.knows session present

theorem Bound.notify (bound : desk.Bound) (notice : Notice) : (desk.notify notice).Bound :=
  ⟨bound.tidy, bound.knows⟩

theorem bound_ite {condition : Prop} [Decidable condition] {left right : Desk ν}
    (holds : left.Bound) (fails : right.Bound) : (if condition then left else right).Bound := by
  split
  · exact holds
  · exact fails

theorem Bound.onInitialState (bound : desk.Bound) (payload : Update) (now : Nat) :
    (desk.onInitialState payload now).Bound := by
  cases present : desk.session with
  | none => simpa [Desk.onInitialState, present] using bound
  | some session =>
      have knows : (desk.observe session now).1.binding.Knows (desk.observe session now).2.buffer :=
        Session.knows_observe (bound.knows session present) now
      have still : (informed (desk.observe session now).1 payload).binding.Knows
          (desk.observe session now).2.buffer := by
        rw [binding_informed]
        exact knows
      rw [onInitialState_of_present present]
      refine Bound.notify ?_ _
      split
      · exact bound_of_present rfl still
      · exact bound_of_present rfl (Session.knows_displayOrDefer still now)

theorem Bound.bufferChanged [Transport ν] (bound : desk.Bound) (now : Nat) :
    (desk.bufferChanged now).Bound := by
  rw [Desk.bufferChanged]
  cases present : desk.session with
  | none => exact bound
  | some session =>
      simp only
      split
      · exact bound.aside desk.aside_closeForInvalidBuffer
      · exact bound_of_present rfl (Session.knows_observe (bound.knows session present) now)

theorem Bound.runReconcile (bound : desk.Bound) (now : Nat) : (desk.runReconcile now).Bound := by
  rw [Desk.runReconcile]
  cases present : desk.session with
  | none => exact bound
  | some session =>
      simp only
      split
      · exact bound
      · have knows := Session.knows_observe (bound.knows session present) now
        exact bound_ite (bound_of_present rfl (Session.knows_reconcile knows now))
          (bound_of_present rfl knows)

theorem Bound.runEmptySyncFallback (bound : desk.Bound) (now : Nat) :
    (desk.runEmptySyncFallback now).Bound := by
  rw [Desk.runEmptySyncFallback]
  cases present : desk.session with
  | none => exact bound
  | some session =>
      simp only
      split
      · exact bound
      · have knows := Session.knows_observe (bound.knows session present) now
        exact bound_ite (bound_of_present rfl knows) (bound_of_present rfl knows)

variable [Transport ν]

theorem Bound.onRemoteUpdate (bound : desk.Bound) (payload : Update) (now : Nat) :
    (desk.onRemoteUpdate payload now).Bound := by
  rw [Desk.onRemoteUpdate]
  cases present : desk.session with
  | none => exact bound
  | some session =>
      have knows := Session.knows_observe (bound.knows session present) now
      simp only [Desk.observe]
      split
      · exact bound_of_present rfl knows
      · refine bound_of_present rfl (Session.knows_displayOrDefer ?_ now)
        exact knows

theorem Bound.welcomePeer (knows : session.binding.Knows desk.buffer) (now : Nat) :
    (desk.welcomePeer session now).Bound := by
  have watched : (desk.observe session now).1.binding.Knows (desk.observe session now).2.buffer :=
    Session.knows_observe knows now
  rw [Desk.welcomePeer]
  simp only
  split
  · split
    · exact bound_of_present rfl watched
    · refine Bound.notify ?_ _
      exact bound_of_present rfl watched
  · split
    · exact bound_of_present rfl watched
    · refine Bound.notify ?_ _
      exact bound_of_present rfl watched

theorem Bound.onPeerConnected (bound : desk.Bound) (peer : String) (now : Nat) :
    (desk.onPeerConnected peer now).Bound := by
  rw [Desk.onPeerConnected]
  cases present : desk.session with
  | none => exact bound
  | some session =>
      have knows := bound.knows session present
      simp only
      split
      · refine Bound.welcomePeer ?_ now
        exact knows
      · exact bound_of_present rfl knows

theorem Bound.handle (bound : desk.Bound) (event : TransportEvent Update) (now : Nat) :
    (desk.handle event now).Bound := by
  cases event with
  | connected => exact bound.aside (desk.aside_onConnected now)
  | disconnected => exact bound.aside (desk.aside_onConnectionLost now)
  | syncResponse payload => exact bound.onInitialState payload now
  | update payload => exact bound.onRemoteUpdate payload now
  | fullState payload =>
      rw [Desk.handle]
      split
      · exact bound.onRemoteUpdate payload now
      · exact bound.onInitialState payload now
  | error message => exact bound.aside (desk.aside_onConnectionLost now)
  | peerConnected peer => exact bound.onPeerConnected peer now
  | peerDisconnected peer => exact bound.aside (desk.aside_onPeerDisconnected peer)
  | ready endpointId relayUrl => exact bound.aside (desk.aside_onReady endpointId relayUrl)

theorem Bound.runFlush (bound : desk.Bound) (now : Nat) : (desk.runFlush now).Bound := by
  rw [Desk.runFlush]
  cases present : desk.session with
  | none => exact bound
  | some session =>
      simp only
      split
      · exact bound.aside desk.aside_closeForInvalidBuffer
      · let looked := (desk.observe session now).2
        let sent := if (desk.observe session now).1.connection.state.isSynced = true then
          ((desk.observe session now).1.flush looked.network now false).2
          else ((desk.observe session now).1, looked.network)
        have watched : (desk.observe session now).1.binding.Knows looked.buffer :=
          Session.knows_observe (bound.knows session present) now
        have still : sent.1.binding.Knows looked.buffer := by
          show (if (desk.observe session now).1.connection.state.isSynced = true then
            ((desk.observe session now).1.flush looked.network now false).2
            else ((desk.observe session now).1, looked.network)).1.binding.Knows looked.buffer
          split
          · exact watched
          · exact watched
        have shown : (if (sent.1.deferred && sent.1.outbox.isIdle now) = true then
            sent.1.display looked.buffer now else (sent.1, looked.buffer)).1.binding.Knows
            (if (sent.1.deferred && sent.1.outbox.isIdle now) = true then
              sent.1.display looked.buffer now else (sent.1, looked.buffer)).2 := by
          split
          · exact Session.knows_display still now
          · exact still
        exact bound_of_present rfl shown

theorem Bound.run (bound : desk.Bound) (task : Task) (now : Nat) : (desk.run task now).Bound := by
  cases task with
  | flush => exact bound.runFlush now
  | reconcile => exact bound.runReconcile now
  | connectTimeout => exact bound.aside (desk.aside_onConnectionLost now)
  | reconnect => exact bound.aside (desk.aside_runReconnect now)
  | emptySyncFallback => exact bound.runEmptySyncFallback now

/-! ## Calls -/

theorem Bound.pollOnce (bound : desk.Bound) (now : Nat) : (desk.pollOnce now).2.Bound := by
  have next := bound.aside desk.aside_nextEvent
  rw [Desk.pollOnce]
  rcases taken : desk.nextEvent with ⟨_ | event, after⟩
  · simp only
    rw [taken] at next
    rcases after.agenda.pop now with _ | ⟨task, agenda⟩
    · exact next
    · have due : ({ after with agenda } : Desk ν).Bound := ⟨next.tidy, next.knows⟩
      exact due.run task now
  · rw [taken] at next
    exact next.handle event now

theorem Bound.pollUpTo (bound : desk.Bound) (count now : Nat) :
    (Desk.pollUpTo count desk now).Bound :=
  pollUpTo_induction (fun _ still => still.pollOnce now) count bound

theorem Bound.flushNow (bound : desk.Bound) (now : Nat) : (desk.flushNow now).2.Bound := by
  rw [Desk.flushNow]
  cases present : desk.session with
  | none => exact bound
  | some session =>
      have knows := Session.knows_observe (bound.knows session present) now
      simp only
      split
      · exact bound_of_present rfl knows
      · exact bound_of_present rfl knows

/-- A session that begins knows its buffer, which is there still if none begins. -/
theorem bound_start (tidy : desk.buffer.Tidy) (knows : session.binding.Knows desk.buffer)
    (now : Nat) : (desk.start session now).2.Bound := by
  rw [start]
  split
  · exact bound_of_ended rfl tidy
  · split
    · exact bound_of_ended rfl tidy
    · exact bound_of_present rfl knows

theorem bound_opened (tidy : desk.buffer.Tidy) (role : Role) (target : ConnectTarget)
    (key : Option SessionKey) (invitation : Option Invitation) (document : Replica × Outbox)
    (now : Nat) : (desk.opened role target key invitation document now).Bound := by
  apply bound_start
  · exact tidy.of_lines_eq rfl
  · exact Binding.knows_attach tidy desk.settings.lockout

theorem Bound.host (bound : desk.Bound) (target : HostTarget) (draws : Draws) (now : Nat) :
    (desk.host target draws now).2.Bound := by
  rcases desk.host_cases target draws now with
    same | ⟨_, connectTarget, key, invitation, notices, opens⟩
  · rw [same]
    exact bound
  · have opened := bound_opened bound.tidy .host connectTarget key invitation
      (seed draws.replica desk.buffer { window := desk.settings.debounce }) now
    rw [opens]
    exact ⟨opened.tidy, opened.knows⟩

theorem Bound.join (bound : desk.Bound) (code : String) (replica : ReplicaId) (now : Nat) :
    (desk.join code replica now).2.Bound := by
  rcases desk.join_cases code replica now with
    same | ⟨_, connectTarget, key, invitation, notices, opens⟩
  · rw [same]
    exact bound
  · have opened := bound_opened bound.tidy .joiner connectTarget key invitation
      ({ id := replica }, { window := desk.settings.debounce }) now
    rw [opens]
    exact ⟨opened.tidy, opened.knows⟩

theorem Bound.perform (bound : desk.Bound) (call : Call) (now : Nat) :
    (call.perform desk now).Bound := by
  cases call with
  | takeNotices => exact ⟨bound.tidy, bound.knows⟩
  | host target draws => exact bound.host target draws now
  | join code replica => exact bound.join code replica now
  | bufferChanged => exact bound.bufferChanged now
  | flushNow => exact bound.flushNow now
  | poll => exact bound.pollUpTo _ now
  | leave => exact bound.aside desk.aside_leave
  | vanish => exact bound.aside desk.aside_vanish

/-- The desks that can come about when the text of the buffer changes only as somebody types or the
session writes. The transport may do anything, and the editor may close the buffer or refuse
writes. -/
inductive Roams : Desk ν → Prop where
  | fresh {desk : Desk ν} (ended : desk.session = none) (tidy : desk.buffer.Tidy) : Roams desk
  | carries {desk : Desk ν} (roams : Roams desk) (network : ν) : Roams { desk with network }
  | treats {desk : Desk ν} (roams : Roams desk) {buffer : Buffer}
      (lines : buffer.lines = desk.buffer.lines) (changes : buffer.changes = desk.buffer.changes) :
      Roams { desk with buffer }
  | types {desk : Desk ν} (roams : Roams desk) {typing : Typing} (plain : typing.IsPlain) :
      Roams { desk with buffer := typing.perform desk.buffer }
  | calls {desk : Desk ν} (roams : Roams desk) (call : Call) (now : Nat) :
      Roams (call.perform desk now)

theorem Roams.bound (roams : desk.Roams) : desk.Bound := by
  induction roams with
  | fresh ended tidy => exact bound_of_ended ended tidy
  | carries _ network ih => exact ⟨ih.tidy, ih.knows⟩
  | treats _ lines changes ih =>
      refine ⟨ih.tidy.of_lines_eq lines, ?_⟩
      intro session present
      have typed : Buffer.Typed session.binding.shadow _ := ih.knows session present
      refine ⟨typed.tidy.of_lines_eq lines, ?_⟩
      rw [lines, changes]
      exact typed.heard
  | types _ plain ih =>
      refine ⟨Typing.tidy_perform ih.tidy _, ?_⟩
      intro session present
      exact Buffer.Typed.perform (ih.knows session present) plain
  | calls _ call now ih => exact ih.perform call now

end Desk

end Cowrite
