import Cowrite.Proofs.Session.Retries

/-!
# Retrying in rounds and calls

What a round of polling does to the account of retrying is told by what it deals with
(`Desk.Tended.account_pollOnce`): the connection may be confirmed, the planned attempt made, and a
connection lost. An event counts only if it is about the present client
(`Desk.client_of_takeMatter`). A call can end a session or open one, and has nothing else to do with
retrying (`Desk.Tended.account_perform`).
-/

namespace Cowrite

namespace Desk

variable {ν : Type} [Transport ν] {desk after : Desk (Dialed ν)} {session : Session} {now : Nat}

/-! ## Rounds -/

/-- An event about the present client. -/
theorem Tended.account_handle (tended : desk.Tended) (present : desk.session = some session)
    (client : session.connection.client ≠ none) (event : TransportEvent Update) (now : Nat) :
    (desk.handle event now).account =
      desk.account.next (desk.confirms (.event event) && desk.awaits) false
        (desk.losesBy (.event event) now) now := by
  cases event with
  | connected => exact tended.account_onConnected present client now
  | disconnected => exact (tended.loses present client).account_onConnectionLost present now
  | syncResponse payload => exact desk.account_onInitialState payload now
  | update payload => exact desk.account_onRemoteUpdate payload now
  | fullState payload =>
      rw [Desk.handle]
      split
      · exact desk.account_onRemoteUpdate payload now
      · exact desk.account_onInitialState payload now
  | error message => exact (tended.loses present client).account_onConnectionLost present now
  | peerConnected peer => exact desk.account_onPeerConnected peer now
  | peerDisconnected peer => exact desk.account_onPeerDisconnected peer
  | ready endpointId relayUrl => exact desk.account_onReady endpointId relayUrl now

/-- A task that has been taken from the agenda. Only a flush can end the session otherwise than by a
loss. -/
theorem Tended.account_run (tended : desk.Tended) {task : Task} {agenda : Agenda}
    (popped : desk.agenda.pop now = some (task, agenda)) :
    (({ desk with agenda } : Desk (Dialed ν)).run task now).account =
        desk.account.next false (task = .reconnect)
          (({ desk with agenda } : Desk (Dialed ν)).losesBy (.task task) now) now ∨
      task = .flush ∧
        (({ desk with agenda } : Desk (Dialed ν)).run task now).account = desk.account.ended := by
  rcases Option.eq_none_or_eq_some desk.session with ended | ⟨session, present⟩
  · rw [tended.idle ended] at popped
    cases popped
  · have there : ({ desk with agenda } : Desk (Dialed ν)).session = some session := present
    have kept (differ : task ≠ .reconnect) :
        ({ desk with agenda } : Desk (Dialed ν)).account = desk.account :=
      account_of_same present there rfl (Agenda.plans_pop popped differ) rfl rfl rfl
    cases task with
    | flush =>
        rw [← kept (by simp)]
        exact (account_runFlush _ now).imp id fun ended => ⟨rfl, ended⟩
    | reconcile =>
        rw [← kept (by simp)]
        exact .inl (account_runReconcile _ now)
    | connectTimeout =>
        rw [← kept (by simp)]
        have loses := tended.loses_of_pop present popped (.inr rfl)
        exact .inl (loses.account_onConnectionLost there now)
    | reconnect =>
        have loses := tended.loses_of_pop present popped (.inl rfl)
        exact .inl (loses.account_runReconnect there now)
    | emptySyncFallback =>
        rw [← kept (by simp)]
        exact .inl (account_runEmptySyncFallback _ now)

theorem account_nextEvent (desk : Desk (Dialed ν)) : desk.nextEvent.2.account = desk.account := by
  rcases Option.eq_none_or_eq_some desk.session with ended | ⟨session, present⟩
  · rw [nextEvent, ended]
  · rw [nextEvent, present]
    exact account_of_same present rfl rfl rfl rfl rfl rfl

/-- What a round of polling has to do with retrying. -/
theorem Tended.account_pollOnce (tended : desk.Tended) (now : Nat) :
    (desk.pollOnce now).2.account =
        desk.account.next
          ((desk.takeMatter now).1.any fun matter =>
            (desk.takeMatter now).2.confirms matter && (desk.takeMatter now).2.awaits)
          ((desk.takeMatter now).1 = some (.task .reconnect))
          ((desk.takeMatter now).1.any fun matter => (desk.takeMatter now).2.losesBy matter now)
          now ∨
      (desk.takeMatter now).1 = some (.task .flush) ∧
        (desk.pollOnce now).2.account = desk.account.ended := by
  rcases Option.eq_none_or_eq_some desk.session with ended | ⟨session, present⟩
  · have taken := takeMatter_of_ended ended (tended.idle ended) now
    rw [pollOnce_of_none (congrArg Prod.fst taken), taken]
    exact .inl rfl
  · have looked : desk.nextEvent.2.Tended := by
      rw [nextEvent, present]
      exact tended.of_same present rfl rfl rfl rfl
    have there : desk.nextEvent.2.session = some session := session_nextEvent present
    rcases desk.takeMatter_cases now with
      ⟨event, taken, polled⟩ | ⟨task, agenda, popped, taken, polled⟩ | ⟨taken, polled⟩
    · rcases client_of_takeMatter (congrArg Prod.fst taken) with ⟨_, same, client⟩
      cases present.symm.trans same
      rw [polled, taken, ← desk.account_nextEvent]
      exact .inl (looked.account_handle there client event now)
    · rw [polled, taken, ← desk.account_nextEvent]
      rcases looked.account_run popped with kept | ⟨rfl, ended⟩
      · left
        rw [kept]
        simp [confirms]
      · exact .inr ⟨rfl, ended⟩
    · rw [polled, taken, ← desk.account_nextEvent]
      exact .inl rfl

/-! ## Calls -/

/-- To open a session asks the transport once, and nothing is planned for it. -/
theorem account_opened (desk : Desk (Dialed ν)) (empty : desk.agenda = {}) (role : Role)
    (target : ConnectTarget) (key : Option SessionKey) (invitation : Option Invitation)
    (document : Replica × Outbox) {notices : List Notice}
    (told : notices.filter Notice.isRetry = desk.account.told) (now : Nat) :
    ∃ contact, (contact = none ∨ contact = some (0, desk.settings.backoff)) ∧
      ({ desk.opened role target key invitation document now with notices } : Desk (Dialed ν)
        ).account = { desk.account.dialed with contact } := by
  let session := (desk.prepare role target key invitation document.1 document.2 now).1
  let prepared := (desk.prepare role target key invitation document.1 document.2 now).2
  have agenda : (prepared.line session).agenda = {} := empty
  have opens : desk.opened role target key invitation document now =
      (prepared.start session now).2 := rfl
  rw [opens, start]
  rcases (prepared.line session).connect_cases now with
    ⟨line, connects, attempts, backoff, plans, dials⟩ | ⟨error, network, refused, dials⟩
  · rw [connects]
    rw [agenda] at plans
    simp only
    cases periodic : periodic prepared.settings prepared.clock line.agenda now with
    | error _ =>
        refine ⟨none, .inl rfl, ?_⟩
        ext1
        · rfl
        · rfl
        · rfl
        · exact told
        · exact line.dials_shutDown.trans dials
    | ok _ =>
        rcases exists_of_periodic periodic with ⟨interval, _, rfl⟩
        refine ⟨some (0, desk.settings.backoff), .inr rfl, ?_⟩
        ext1
        · rfl
        · exact congrArg some (Prod.ext attempts backoff)
        · exact ((Agenda.plans_put _ (by simp)).trans (Agenda.plans_put _ (by simp))).trans plans
        · exact told
        · exact dials
  · rw [refused]
    refine ⟨none, .inl rfl, ?_⟩
    ext1
    · rfl
    · rfl
    · rfl
    · exact told
    · exact dials

theorem told_of_start {prepared : Desk (Dialed ν)} {result : Except SessionError Unit}
    (started : prepared.start session now = (result, after)) :
    after.account.told = prepared.account.told := by
  rw [start] at started
  split at started
  · cases started
    rfl
  · split at started
    · cases started
      rfl
    · cases started
      rfl

theorem told_host (desk : Desk (Dialed ν)) (target : HostTarget) (draws : Draws) (now : Nat) :
    (desk.host target draws now).2.account.told = desk.account.told := by
  rw [host]
  split
  · rfl
  · split
    · rfl
    · split
      · rfl
      · simp only
        rcases started : Desk.start _ _ now with ⟨_ | ⟨⟩, after⟩
        · have told := told_of_start started
          exact told
        · have told := told_of_start started
          simp only
          rw [account_notify _ rfl]
          exact told

theorem told_join (desk : Desk (Dialed ν)) (code : String) (replica : ReplicaId) (now : Nat) :
    (desk.join code replica now).2.account.told = desk.account.told := by
  rw [join]
  split
  · rfl
  · split
    · rfl
    · split
      · rfl
      · simp only
        rcases started : Desk.start _ _ now with ⟨_ | ⟨⟩, after⟩
        · have told := told_of_start started
          exact told
        · have told := told_of_start started
          simp only
          rw [account_notify _ rfl]
          exact told

/-- What a call has to do with retrying. -/
theorem Tended.account_perform (tended : desk.Tended) {call : Call} (single : call ≠ .poll)
    (now : Nat) :
    (call.perform desk now).account = desk.account ∨
      (call.perform desk now).account = desk.account.ended ∨
      call = .takeNotices ∧ (call.perform desk now).account = { desk.account with told := [] } ∨
      call.number? ≠ none ∧ desk.session = none ∧
        ∃ contact, (contact = none ∨ contact = some (0, desk.settings.backoff)) ∧
          (call.perform desk now).account = { desk.account.dialed with contact } := by
  cases call with
  | takeNotices => exact .inr (.inr (.inl ⟨rfl, rfl⟩))
  | host target draws =>
      have told := desk.told_host target draws now
      rcases desk.host_cases target draws now with
        same | ⟨ended, connectTarget, key, invitation, _, opens⟩
      · rw [Call.perform, same]
        exact .inl rfl
      · rw [opens] at told
        rcases desk.account_opened (tended.idle ended) .host connectTarget key invitation
          (seed draws.replica desk.buffer { window := desk.settings.debounce }) told now with
          ⟨contact, begins, account⟩
        refine .inr (.inr (.inr ⟨by simp [Call.number?], ended, contact, begins, ?_⟩))
        rw [Call.perform, opens]
        exact account
  | join code replica =>
      have told := desk.told_join code replica now
      rcases desk.join_cases code replica now with
        same | ⟨ended, connectTarget, key, invitation, _, opens⟩
      · rw [Call.perform, same]
        exact .inl rfl
      · rw [opens] at told
        rcases desk.account_opened (tended.idle ended) .joiner connectTarget key invitation
          ({ id := replica }, { window := desk.settings.debounce }) told now with
          ⟨contact, begins, account⟩
        refine .inr (.inr (.inr ⟨by simp [Call.number?], ended, contact, begins, ?_⟩))
        rw [Call.perform, opens]
        exact account
  | bufferChanged =>
      rw [Call.perform, Desk.bufferChanged]
      cases present : desk.session with
      | none => exact .inl rfl
      | some session =>
          simp only
          split
          · rw [Desk.closeForInvalidBuffer, account_notify _ rfl, account_tearDown present]
            exact .inr (.inl rfl)
          · exact .inl (account_of_same present rfl rfl rfl rfl rfl rfl)
  | flushNow =>
      rw [Call.perform, Desk.flushNow]
      cases present : desk.session with
      | none => exact .inl rfl
      | some session =>
          simp only
          split
          · exact .inl
              (account_of_same present rfl rfl rfl rfl rfl (Session.dials_flush _ _ now true))
          · exact .inl (account_of_same present rfl rfl rfl rfl rfl rfl)
  | poll => exact absurd rfl single
  | leave =>
      rw [Call.perform, leave]
      split
      case isTrue active =>
        rcases Option.isSome_iff_exists.1 active with ⟨session, present⟩
        rw [account_notify _ rfl, account_tearDown present]
        exact .inr (.inl rfl)
      case isFalse => exact .inl rfl
  | vanish =>
      rw [Call.perform, vanish]
      split
      · exact .inl rfl
      · exact .inr (.inl rfl)

end Desk

end Cowrite
