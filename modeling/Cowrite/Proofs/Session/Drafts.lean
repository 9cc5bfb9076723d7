import Cowrite.Proofs.Session.Call
import Cowrite.Proofs.Session.Waiting

/-!
# What becomes of a document in a session

The draft of a session is its document, together with whether content of others has come to it.
However a session goes on, its draft changes in four ways only (`Draft.Step`): by what is typed, by
the text of the buffer that is shared, by an update that is heard, and in its walks. This holds over
any transport (`Desk.redrafts_pollOnce`, `Desk.redrafts_perform`).
-/

namespace Cowrite

/-- The document of a session, and whether content of others has come to it. -/
structure Draft where
  replica : Replica
  contentReceived : Bool

namespace Draft

/-- The draft of a replica that is new. -/
def fresh (id : ReplicaId) : Draft :=
  ⟨{ id }, false⟩

/-- One change of a draft, in a session that hears of at most one payload. -/
inductive Step (heard : Option Update) : Draft → Draft → Prop where
  | types (draft : Draft) (edit : Edit) :
      Step heard draft { draft with replica := draft.replica.edit edit }
  /-- The text of the buffer is shared. -/
  | shares (draft : Draft) (text : Text) :
      Step heard draft { draft with replica := draft.replica.setText text }
  | hears {draft : Draft} {payload : Update} (isHeard : heard = some payload) {updated : Replica}
      (applied : draft.replica.apply payload = .ok updated) :
      Step heard draft
        { replica := updated
          contentReceived := draft.contentReceived || !updated.isEmpty }
  | walks (draft : Draft) (walks : List Walk) :
      Step heard draft { draft with replica := { draft.replica with walks } }

/-- Any number of changes. -/
abbrev Steps (heard : Option Update) : Draft → Draft → Prop :=
  Relation.ReflTransGen (Step heard)

end Draft

open Draft (Step Steps)

/-! ## Sessions -/

namespace Session

variable (session : Session) (buffer : Buffer) (now : Nat) (heard : Option Update)

def draft : Draft :=
  ⟨session.replica, session.contentReceived⟩

theorem writes_observe : Steps heard session.draft (session.observe buffer now).1.draft := by
  rcases Binding.replica_observe session.binding buffer session.replica now with
    ⟨_, same⟩ | ⟨_, same | ⟨edit, isEdit⟩⟩
  · simp only [draft, observe, same]
    exact .refl
  · simp only [draft, observe, same]
    exact .refl
  · simp only [draft, observe, isEdit]
    exact .single (.types _ edit)

theorem writes_displayOrDefer :
    Steps heard session.draft (session.displayOrDefer buffer now).1.draft := by
  rw [displayOrDefer]
  split
  · exact .refl
  · exact .single (.walks _ [])

theorem writes_reconcile : Steps heard session.draft (session.reconcile buffer now).1.draft := by
  rcases Binding.replica_reconcile session.binding buffer session.replica now with ⟨walks, same⟩
  simp only [draft, reconcile, same]
  exact .single (.walks _ walks)

theorem writes_informed (payload : Update) :
    Steps (some payload) session.draft (Desk.informed session payload).draft := by
  have settled : (Desk.informed session payload).draft =
      (Desk.receiveState session payload).draft := by
    rw [Desk.informed, Desk.settleOutbox_eq]
    rfl
  rw [settled, Desk.receiveState]
  split
  · exact .refl
  · cases applied : session.replica.apply payload with
    | error _ => exact .refl
    | ok updated => exact .single (.hears rfl applied)

end Session

/-! ## Desks -/

namespace Desk

variable {ν : Type} {heard : Option Update} {desk after : Desk ν} {session later : Session}
  {now : Nat}

/-- Whether a session goes on, and its draft has changed step by step, or is over. -/
def Redrafts (heard : Option Update) (desk after : Desk ν) : Prop :=
  after.session = none ∨ ∃ session later, desk.session = some session ∧
    after.session = some later ∧ Steps heard session.draft later.draft

theorem redrafts_of_aside (aside : desk.Aside after) (heard : Option Update) :
    desk.Redrafts heard after := by
  rcases aside.2 with ended | ⟨session, later, present, next, same, _⟩
  · exact .inl ended
  · refine .inr ⟨session, later, present, next, ?_⟩
    simp only [Session.draft, same.replica, same.contentReceived]
    exact .refl

theorem Redrafts.refl (heard : Option Update) (desk : Desk ν) : desk.Redrafts heard desk :=
  redrafts_of_aside (.refl desk) heard

theorem Redrafts.trans {last : Desk ν} (one : desk.Redrafts heard after)
    (two : after.Redrafts heard last) : desk.Redrafts heard last := by
  rcases two with ended | ⟨middle, later, between, next, steps⟩
  · exact .inl ended
  · rcases one with ended | ⟨session, other, present, there, first⟩
    · cases ended.symm.trans between
    · cases there.symm.trans between
      exact .inr ⟨session, later, present, next, first.trans steps⟩

theorem redrafts_onInitialState (present : desk.session = some session) (payload : Update)
    (now : Nat) : desk.Redrafts (some payload) (desk.onInitialState payload now) := by
  have told := (session.writes_observe desk.buffer now (some payload)).trans
    ((desk.observe session now).1.writes_informed payload)
  rw [onInitialState_of_present present]
  split
  · exact .inr ⟨session, _, present, rfl, told⟩
  · exact .inr ⟨session, _, present, rfl,
      told.trans (Session.writes_displayOrDefer _ _ now _)⟩

theorem redrafts_runReconcile (present : desk.session = some session) (heard : Option Update)
    (now : Nat) : desk.Redrafts heard (desk.runReconcile now) := by
  have observes := session.writes_observe desk.buffer now heard
  rw [runReconcile, present]
  simp only
  split
  · exact .refl heard desk
  · split
    · exact .inr ⟨session, _, present, rfl,
        observes.trans (Session.writes_reconcile _ _ now heard)⟩
    · exact .inr ⟨session, _, present, rfl, observes⟩

theorem redrafts_runEmptySyncFallback (present : desk.session = some session)
    (heard : Option Update) (now : Nat) :
    desk.Redrafts heard (desk.runEmptySyncFallback now) := by
  have observes := session.writes_observe desk.buffer now heard
  rw [runEmptySyncFallback, present]
  simp only
  split
  · exact .refl heard desk
  · split
    · exact .inr ⟨session, _, present, rfl, observes⟩
    · exact .inr ⟨session, _, present, rfl, observes.tail (.shares _ _)⟩

variable [Transport ν]

theorem redrafts_onRemoteUpdate (present : desk.session = some session) (payload : Update)
    (now : Nat) : desk.Redrafts (some payload) (desk.onRemoteUpdate payload now) := by
  have observes := session.writes_observe desk.buffer now (some payload)
  cases applied : (desk.observe session now).1.replica.apply payload with
  | error error =>
      rw [onRemoteUpdate_of_refused present applied]
      exact .inr ⟨session, _, present, rfl, observes⟩
  | ok replica =>
      rw [onRemoteUpdate_of_taken present applied]
      have hears : Steps (some payload) session.draft
          (updated (desk.sentOff session now true).1 replica).draft :=
        observes.tail (.hears rfl applied)
      exact .inr ⟨session, _, present, rfl,
        hears.trans (Session.writes_displayOrDefer _ _ now _)⟩

theorem redrafts_welcomePeer (present : desk.session = some session) (heard : Option Update)
    (now : Nat) : desk.Redrafts heard (desk.welcomePeer session now) := by
  have observes := session.writes_observe desk.buffer now heard
  rcases Line.exists_send ((desk.observe session now).2.line (desk.observe session now).1)
    (.fullState (desk.observe session now).1.replica.fullState) with ⟨result, network, sends⟩
  rw [welcomePeer]
  simp only [sends]
  cases result with
  | ok done =>
      simp only
      split
      · exact .inr ⟨session, _, present, rfl, observes⟩
      · exact .inr ⟨session, _, present, rfl, observes⟩
  | error error =>
      simp only
      split
      · exact .inr ⟨session, _, present, rfl, observes⟩
      · exact .inr ⟨session, _, present, rfl, observes⟩

theorem redrafts_onPeerConnected (present : desk.session = some session) (heard : Option Update)
    (peer : String) (now : Nat) : desk.Redrafts heard (desk.onPeerConnected peer now) := by
  let joined : Session := { session with peers := Session.insertPeer peer session.peers }
  let told : Desk ν := (desk.withSession joined).notify (.peerJoined peer)
  have joins : desk.Redrafts heard told := .inr ⟨session, joined, present, rfl, .refl⟩
  rw [onPeerConnected, present]
  simp only
  split
  · exact joins.trans (redrafts_welcomePeer rfl heard now)
  · exact joins

theorem redrafts_runFlush (present : desk.session = some session) (heard : Option Update)
    (now : Nat) : desk.Redrafts heard (desk.runFlush now) := by
  cases valid : desk.buffer.valid with
  | false =>
      have closes : desk.runFlush now = desk.closeForInvalidBuffer := by
        simp [runFlush, present, valid]
      rw [closes]
      exact redrafts_of_aside desk.aside_closeForInvalidBuffer heard
  | true =>
      have observes := session.writes_observe desk.buffer now heard
      have sent : (desk.flushed session now).1.draft = (desk.observe session now).1.draft := by
        rw [flushed_eq]
        rfl
      have flushed : Steps heard session.draft (desk.flushed session now).1.draft := by
        rw [sent]
        exact observes
      rw [runFlush_of_valid present valid]
      refine .inr ⟨session, _, present, rfl, flushed.trans ?_⟩
      split
      · exact .single (.walks _ [])
      · exact .refl

/-- Whatever a session deals with, its draft changes by what it hears of at most. -/
theorem redrafts_deal (desk : Desk ν) (matter : Matter) (now : Nat) :
    desk.Redrafts matter.payload? (desk.deal matter now) := by
  rcases Option.eq_none_or_eq_some desk.session with ended | ⟨session, present⟩
  · rw [deal_of_ended ended]
    exact .refl _ desk
  · cases matter with
    | event event =>
        cases event with
        | connected => exact redrafts_of_aside (desk.aside_onConnected now) _
        | disconnected => exact redrafts_of_aside (desk.aside_onConnectionLost now) _
        | error message => exact redrafts_of_aside (desk.aside_onConnectionLost now) _
        | syncResponse payload => exact redrafts_onInitialState present payload now
        | update payload => exact redrafts_onRemoteUpdate present payload now
        | fullState payload =>
            rw [deal, handle]
            split
            · exact redrafts_onRemoteUpdate present payload now
            · exact redrafts_onInitialState present payload now
        | peerConnected peer => exact redrafts_onPeerConnected present _ peer now
        | peerDisconnected peer => exact redrafts_of_aside (desk.aside_onPeerDisconnected peer) _
        | ready endpointId relayUrl =>
            exact redrafts_of_aside (desk.aside_onReady endpointId relayUrl) _
    | task task =>
        cases task with
        | flush => exact redrafts_runFlush present _ now
        | reconcile => exact redrafts_runReconcile present _ now
        | connectTimeout => exact redrafts_of_aside (desk.aside_onConnectionLost now) _
        | reconnect => exact redrafts_of_aside (desk.aside_runReconnect now) _
        | emptySyncFallback => exact redrafts_runEmptySyncFallback present _ now

/-! ## Rounds and calls -/

/-- A session hears what its round deals with. -/
theorem redrafts_pollOnce (desk : Desk ν) (now : Nat) :
    desk.Redrafts ((desk.takeMatter now).1.bind Matter.payload?) (desk.pollOnce now).2 := by
  have takes (heard : Option Update) : desk.Redrafts heard (desk.takeMatter now).2 := by
    rcases Option.eq_none_or_eq_some desk.session with ended | ⟨session, present⟩
    · exact .inl ((desk.session_takeMatter_eq now).trans ended)
    · exact .inr ⟨session, session, present, session_takeMatter present now, .refl⟩
  cases found : (desk.takeMatter now).1 with
  | none =>
      rw [pollOnce_of_none found]
      exact takes none
  | some matter =>
      rw [pollOnce_of_matter found]
      exact (takes _).trans ((desk.takeMatter now).2.redrafts_deal matter now)

/-- A session that is called hears nothing. -/
theorem redrafts_perform (desk : Desk ν) {call : Call} (begins : call.number? = none)
    (single : call ≠ .poll) (now : Nat) : desk.Redrafts none (call.perform desk now) := by
  cases call with
  | takeNotices => exact redrafts_of_aside ⟨rfl, (Aside.refl desk).2⟩ none
  | host target draws => cases begins
  | join code replica => cases begins
  | bufferChanged =>
      rw [Call.perform, bufferChanged]
      cases present : desk.session with
      | none => exact .refl none desk
      | some session =>
          simp only
          split
          · exact redrafts_of_aside desk.aside_closeForInvalidBuffer none
          · exact .inr ⟨session, _, present, rfl, session.writes_observe desk.buffer now none⟩
  | flushNow =>
      rw [Call.perform, flushNow]
      cases present : desk.session with
      | none => exact .refl none desk
      | some session =>
          have observes := session.writes_observe desk.buffer now none
          simp only
          split
          · exact .inr ⟨session, _, present, rfl, observes⟩
          · exact .inr ⟨session, _, present, rfl, observes⟩
  | poll => exact absurd rfl single
  | leave => exact redrafts_of_aside desk.aside_leave none
  | vanish => exact redrafts_of_aside desk.aside_vanish none

/-! ## Sessions that begin -/

theorem draft_opened {role : Role} {target : ConnectTarget} {key : Option SessionKey}
    {invitation : Option Invitation} {document : Replica × Outbox}
    (present : (desk.opened role target key invitation document now).session = some session) :
    session.draft = ⟨document.1, false⟩ := by
  simp only [opened, start] at present
  split at present
  · cases present
  · split at present
    · cases present
    · cases present
      rfl

theorem draft_seed (id : ReplicaId) (buffer : Buffer) (outbox : Outbox) :
    Steps none (.fresh id) ⟨(seed id buffer outbox).1, false⟩ := by
  rw [seed]
  split
  · exact .refl
  · exact .single (.shares (.fresh id) _)

/-- A session that begins has a new replica, and at most shares the text of the buffer. -/
theorem draft_of_begins (desk : Desk ν) {call : Call} {id : ReplicaId}
    (begins : call.number? = some id) (now : Nat) :
    call.perform desk now = desk ∨ desk.session = none ∧
      ∀ session, (call.perform desk now).session = some session →
        Steps none (.fresh id) session.draft := by
  cases call with
  | host target draws =>
      cases begins
      rcases desk.host_cases target draws now with same | ⟨ended, _, _, _, _, began⟩
      · exact .inl same
      · refine .inr ⟨ended, fun session present => ?_⟩
        rw [Call.perform, began] at present
        rw [draft_opened present]
        exact draft_seed _ _ _
  | join code =>
      cases begins
      rcases desk.join_cases code id now with same | ⟨ended, _, _, _, _, began⟩
      · exact .inl same
      · refine .inr ⟨ended, fun session present => ?_⟩
        rw [Call.perform, began] at present
        rw [draft_opened present]
        exact .refl
  | _ => cases begins

end Desk

end Cowrite
