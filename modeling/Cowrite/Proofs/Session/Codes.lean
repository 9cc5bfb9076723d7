import Cowrite.Proofs.Invitation
import Cowrite.Proofs.Session.Course
import Cowrite.Proofs.Session.Waiting
import Cowrite.Transport.Scripted
import Mathlib.Data.Nat.Digits.Defs
import Mathlib.Data.String.Basic

/-!
# The codes that a session hands out

A user sees the code of a session in notices and in the overview (`Participant.codes`). No code
comes up there but by a host that begins, by a guest that joins, and when the transport tells a host
its address (`Desk.codes_meets`). The guest's code has been read already, so it can be read again.
The other two are written without a look at what they say, so all codes of a course lead into the
session if and only if the invitations that come up in it are whole (`Desk.shares_iff`).
-/

namespace Cowrite

/-- The code that a notice shows. -/
def Notice.code? : Notice → Option String
  | .started _ code => code
  | .codeReady code => some code
  | _ => none

/-- Whether a code can be read as the invitation that it was written for. -/
def Invitation.IsCode (code : String) : Prop :=
  ∃ invitation : Invitation, invitation.encode = code ∧ decode code = .ok invitation

theorem Invitation.isCode_encode_iff {invitation : Invitation} :
    IsCode invitation.encode ↔ invitation.IsWhole := by
  constructor
  · rintro ⟨other, _, reads⟩
    exact (decode_encode_iff.1 reads).1
  · intro whole
    exact ⟨invitation, rfl, decode_encode_iff.2 ⟨whole, rfl⟩⟩

/-- Every character takes four bytes at most. -/
theorem length_utf8_le (text : Text) :
    (Wire.utf8 (String.ofList text)).length ≤ 4 * text.length := by
  have size : (Wire.utf8 (String.ofList text)).length = (String.ofList text).utf8ByteSize :=
    Array.length_toList
  rw [size, String.utf8ByteSize_ofList]
  clear size
  induction text with
  | nil => simp
  | cons c rest ih =>
      have small := c.utf8Size_le_four
      rw [String.utf8Len_cons, List.length_cons]
      omega

/-- The invitation to a new room is whole if it names a server. -/
theorem Invitation.isWhole_newRoom_iff {server : String} {room : Nat} {key : Option SessionKey}
    (small : room < 2 ^ 64) :
    (newRoom server room key).IsWhole ↔
      server.isEmpty = false ∧ (Wire.utf8 server).length < 2 ^ 64 := by
  have count : (Nat.toDigits 16 room).length ≤ 16 :=
    (Nat.length_toDigits_le_iff (by omega) (by omega)).2 (small.trans_le (by decide))
  have digits : (Hex.ofNat 16 room).toList.length = 16 := by
    simp [Hex.ofNat]
    omega
  have named : (Hex.ofNat 16 room).isEmpty = false := by
    apply eq_false_of_ne_true
    intro empty
    rw [String.isEmpty_iff.1 empty] at digits
    cases digits
  have short : (Wire.utf8 (Hex.ofNat 16 room)).length < 2 ^ 64 := by
    have bound := length_utf8_le (Hex.ofNat 16 room).toList
    rw [String.ofList_toList, digits] at bound
    omega
  constructor
  · intro whole
    refine ⟨?_, (isShort_relay.1 whole.short).1⟩
    have names := whole.named
    simp only [newRoom, missingField?] at names
    split at names
    · cases names
    · exact eq_false_of_ne_true ‹_›
  · rintro ⟨server, fits⟩
    refine ⟨?_, isShort_relay.2 ⟨fits, short⟩⟩
    simp [newRoom, missingField?, server, named]

/-- The codes that a user can see. -/
def Participant.codes (participant : Participant) : List String :=
  participant.notices.filterMap Notice.code? ++ participant.info.code.toList

theorem Participant.codes_eq (participant : Participant) :
    participant.codes = participant.notices.filterMap Notice.code? ++
      (participant.session.bind Session.code?).toList := by
  rw [codes, info]
  cases participant.session with
  | none => rfl
  | some session => rfl

namespace Desk

variable {ν : Type} {desk after : Desk ν} {session later : Session} {now : Nat}

theorem codes_notify (desk : Desk ν) {notice : Notice} (silent : notice.code? = none) :
    (desk.notify notice).codes = desk.codes := by
  simp [Participant.codes_eq, notify, List.filterMap_append, silent]

theorem codes_of_present (present : desk.session = some session) (next : after.session = some later)
    (invitation : later.invitation = session.invitation) (notices : after.notices = desk.notices) :
    after.codes = desk.codes := by
  simp only [Participant.codes_eq, present, next, notices, Option.bind_some, Session.code?,
    invitation]

theorem subset_of_present (present : desk.session = some session)
    (next : after.session = some later) (invitation : later.invitation = session.invitation)
    (notices : after.notices = desk.notices) : after.codes ⊆ desk.codes := by
  rw [codes_of_present present next invitation notices]
  exact List.Subset.refl _

/-- Without a session there is no overview. -/
theorem codes_of_ended (ended : after.session = none) (notices : after.notices = desk.notices) :
    after.codes ⊆ desk.codes := by
  rw [Participant.codes_eq, Participant.codes_eq, ended, notices]
  simp

/-! ## What shows no new code -/

theorem invitation_displayOrDefer (session : Session) (buffer : Buffer) (now : Nat) :
    (session.displayOrDefer buffer now).1.invitation = session.invitation := by
  rw [Session.displayOrDefer]
  split
  · rfl
  · rfl

theorem codes_onInitialState (present : desk.session = some session) (payload : Update)
    (now : Nat) : (desk.onInitialState payload now).codes = desk.codes := by
  have kept : (informed (desk.observe session now).1 payload).invitation = session.invitation := by
    rw [informed, settleOutbox_eq, receiveState_eq]
    rfl
  rw [onInitialState_of_present present, codes_notify _ rfl]
  split
  · exact codes_of_present present rfl kept rfl
  · exact codes_of_present present rfl ((invitation_displayOrDefer _ _ _).trans kept) rfl

theorem codes_onPeerDisconnected (present : desk.session = some session) (peer : String) :
    (desk.onPeerDisconnected peer).codes = desk.codes := by
  rw [onPeerDisconnected, present]
  simp only
  rw [codes_notify _ rfl]
  split
  · exact codes_of_present present rfl rfl rfl
  · exact codes_of_present present rfl rfl rfl

theorem codes_runReconcile (present : desk.session = some session) (now : Nat) :
    (desk.runReconcile now).codes = desk.codes := by
  rw [runReconcile, present]
  simp only
  split
  · rfl
  · split
    · exact codes_of_present present rfl rfl rfl
    · exact codes_of_present present rfl rfl rfl

theorem codes_runEmptySyncFallback (present : desk.session = some session) (now : Nat) :
    (desk.runEmptySyncFallback now).codes = desk.codes := by
  rw [runEmptySyncFallback, present]
  simp only
  split
  · rfl
  · split
    · exact codes_of_present present rfl rfl rfl
    · rw [codes_notify _ rfl]
      exact codes_of_present present rfl rfl rfl

/-- A host that learns its address is shown the code, in place of an earlier one. -/
theorem codes_onReady (present : desk.session = some session) (endpointId relayUrl : String) :
    (desk.onReady endpointId relayUrl).codes =
      desk.notices.filterMap Notice.code? ++
        [(Invitation.peer endpointId relayUrl).encode,
          (Invitation.peer endpointId relayUrl).encode] := by
  rw [onReady, present]
  simp only
  split
  · split
    · simp [Participant.codes_eq, notify, withLine, Session.code?, Notice.code?]
      rfl
    · simp [Participant.codes_eq, notify, withLine, Session.code?, Notice.code?]
  · simp [Participant.codes_eq, notify, withSession, Session.code?, Notice.code?]

theorem codes_begun {role : Role} {code : Option String} {invitation : Option Invitation}
    (notices : after.notices = desk.notices) (next : after.session = some later)
    (invited : later.invitation = invitation)
    (told : ∀ text ∈ code, text ∈ invitation.map Invitation.encode) :
    ∀ text ∈ (after.notify (.started role code)).codes,
      text ∈ desk.codes ∨ text ∈ invitation.map Invitation.encode := by
  intro text present
  simp only [Participant.codes_eq, notify, next, notices, List.filterMap_append, List.mem_append,
    Option.bind_some, Session.code?, invited, Option.mem_toList] at present
  rcases present with (shown | started) | overview
  · left
    rw [Participant.codes_eq]
    exact List.mem_append_left _ shown
  · right
    apply told
    simpa [Notice.code?] using started
  · exact .inr overview

variable [Transport ν]

theorem codes_tearDown (desk : Desk ν) : desk.tearDown.codes ⊆ desk.codes := by
  rw [tearDown]
  split
  · exact List.Subset.refl _
  · exact codes_of_ended rfl rfl

theorem codes_afterLoss (desk : Desk ν) (outcome : LossOutcome) :
    (desk.afterLoss outcome).codes ⊆ desk.codes := by
  cases outcome with
  | ignored => exact List.Subset.refl _
  | scheduled attempt delay =>
      rw [afterLoss, codes_notify _ rfl]
      exact List.Subset.refl _
  | exhausted attempts =>
      rw [afterLoss, codes_notify _ rfl]
      exact desk.codes_tearDown

theorem codes_onConnectionLost (desk : Desk ν) (now : Nat) :
    (desk.onConnectionLost now).codes ⊆ desk.codes := by
  rw [onConnectionLost]
  cases present : desk.session with
  | none => exact List.Subset.refl _
  | some session =>
      exact List.Subset.trans (codes_afterLoss _ _) (subset_of_present present rfl rfl rfl)

theorem codes_requestState (present : desk.session = some session) (now : Nat) :
    (desk.requestState session now).codes ⊆ desk.codes := by
  rw [requestState]
  split
  · split
    · exact subset_of_present present rfl rfl rfl
    · exact List.Subset.trans (codes_onConnectionLost _ now)
        (subset_of_present present rfl rfl rfl)
  · split
    · exact List.Subset.refl _
    · exact subset_of_present present rfl rfl rfl

theorem codes_onConnected (present : desk.session = some session) (now : Nat) :
    (desk.onConnected now).codes ⊆ desk.codes := by
  rw [onConnected, present]
  simp only
  split
  · let kept : Session := { session with
      connection := (desk.line session).confirm.2.connection
      resync := session.resync || (desk.line session).confirm.1 }
    have same : (desk.withLine kept (desk.line session).confirm.2).codes = desk.codes :=
      codes_of_present present rfl rfl rfl
    cases (desk.line session).confirm.1 with
    | true =>
        refine List.Subset.trans (codes_requestState rfl now) ?_
        rw [if_pos rfl, codes_notify _ rfl]
        exact subset_of_present present rfl rfl rfl
    | false =>
        refine List.Subset.trans (codes_requestState rfl now) ?_
        exact subset_of_present present rfl rfl rfl
  · exact List.Subset.refl _

theorem codes_onRemoteUpdate (present : desk.session = some session) (payload : Update)
    (now : Nat) : (desk.onRemoteUpdate payload now).codes = desk.codes := by
  cases applied : (desk.observe session now).1.replica.apply payload with
  | error error =>
      rw [onRemoteUpdate_of_refused present applied]
      exact codes_of_present present rfl rfl rfl
  | ok replica =>
      rw [onRemoteUpdate_of_taken present applied]
      exact codes_of_present present rfl (invitation_displayOrDefer _ _ _) rfl

theorem codes_welcomePeer (present : desk.session = some session) (now : Nat) :
    (desk.welcomePeer session now).codes = desk.codes := by
  rcases Line.exists_send ((desk.observe session now).2.line (desk.observe session now).1)
    (.fullState (desk.observe session now).1.replica.fullState) with ⟨result, network, sends⟩
  have kept (outbox : Outbox) (line : Line ν) :
      ((desk.observe session now).2.withLine { (desk.observe session now).1 with outbox }
        line).codes = desk.codes :=
    codes_of_present present rfl rfl rfl
  rw [welcomePeer]
  simp only [sends]
  cases result with
  | ok done =>
      simp only
      split
      · exact kept _ _
      · exact (codes_notify _ rfl).trans (kept _ _)
  | error error =>
      simp only
      split
      · exact kept _ _
      · exact (codes_notify _ rfl).trans (kept _ _)

theorem codes_runFlush (present : desk.session = some session) (now : Nat) :
    (desk.runFlush now).codes ⊆ desk.codes := by
  cases valid : desk.buffer.valid with
  | false =>
      rw [runFlush, present]
      simp only [valid, Bool.not_false, if_true, closeForInvalidBuffer]
      rw [codes_notify _ rfl]
      exact desk.codes_tearDown
  | true =>
      rw [runFlush_of_valid present valid]
      refine subset_of_present present rfl ?_ rfl
      split
      · rw [flushed_eq]
        rfl
      · rw [flushed_eq]
        rfl

theorem codes_runReconnect (present : desk.session = some session) (now : Nat) :
    (desk.runReconnect now).codes ⊆ desk.codes := by
  rw [runReconnect, present]
  simp only
  split
  · exact subset_of_present present rfl rfl rfl
  · exact List.Subset.trans (codes_afterLoss _ _) (subset_of_present present rfl rfl rfl)

theorem codes_onPeerConnected (present : desk.session = some session) (peer : String) (now : Nat) :
    (desk.onPeerConnected peer now).codes = desk.codes := by
  let joined : Session := { session with peers := Session.insertPeer peer session.peers }
  have told : ((desk.withSession joined).notify (.peerJoined peer)).codes = desk.codes :=
    (codes_notify _ rfl).trans (codes_of_present present rfl rfl rfl)
  rw [onPeerConnected, present]
  simp only
  split
  · exact (codes_welcomePeer rfl now).trans told
  · exact told

/-- Nothing that a session deals with shows a new code, but for its own address. -/
theorem codes_deal (present : desk.session = some session) {matter : Matter}
    (other : ∀ endpointId relayUrl, matter ≠ .event (.ready endpointId relayUrl)) (now : Nat) :
    (desk.deal matter now).codes ⊆ desk.codes := by
  have equal {shown codes : List String} (same : shown = codes) : shown ⊆ codes :=
    same ▸ List.Subset.refl _
  cases matter with
  | event event =>
      cases event with
      | connected => exact codes_onConnected present now
      | disconnected => exact desk.codes_onConnectionLost now
      | syncResponse payload => exact equal (codes_onInitialState present payload now)
      | update payload => exact equal (codes_onRemoteUpdate present payload now)
      | fullState payload =>
          rw [deal, handle]
          split
          · exact equal (codes_onRemoteUpdate present payload now)
          · exact equal (codes_onInitialState present payload now)
      | error message => exact desk.codes_onConnectionLost now
      | peerConnected peer => exact equal (codes_onPeerConnected present peer now)
      | peerDisconnected peer => exact equal (codes_onPeerDisconnected present peer)
      | ready endpointId relayUrl => exact absurd rfl (other endpointId relayUrl)
  | task task =>
      cases task with
      | flush => exact codes_runFlush present now
      | reconcile => exact equal (codes_runReconcile present now)
      | connectTimeout => exact desk.codes_onConnectionLost now
      | reconnect => exact codes_runReconnect present now
      | emptySyncFallback => exact equal (codes_runEmptySyncFallback present now)

theorem notices_takeMatter (desk : Desk ν) (now : Nat) :
    (desk.takeMatter now).2.notices = desk.notices := by
  rcases desk.exists_takeMatter_snd now with ⟨agenda, taken⟩
  rw [taken, nextEvent]
  split
  · rfl
  · rfl

theorem codes_takeMatter (desk : Desk ν) (now : Nat) :
    (desk.takeMatter now).2.codes = desk.codes := by
  rw [Participant.codes_eq, Participant.codes_eq, desk.session_takeMatter_eq now,
    desk.notices_takeMatter now]

/-! ## What shows a new code -/

/-- The invitation that comes up when something happens: that of a host that begins, or its address
once the transport tells it. -/
def brings? (desk : Desk ν) (occasion : Occasion ν) (now : Nat) : Option Invitation :=
  match occasion with
  | .call (.host target draws) _ => (desk.host target draws now).1.toOption.join
  | .round =>
      match (desk.takeMatter now).1 with
      | some (.event (.ready endpointId relayUrl)) => some (.peer endpointId relayUrl)
      | _ => none
  | _ => none

/-- A session that was started has its invitation, and one that was not is gone. -/
theorem start_cases (desk : Desk ν) (session : Session) (now : Nat) :
    (desk.start session now).2.notices = desk.notices ∧
      (((desk.start session now).1 ≠ .ok () ∧ (desk.start session now).2.session = none) ∨
        ((desk.start session now).1 = .ok () ∧ ∃ later,
          (desk.start session now).2.session = some later ∧
            later.invitation = session.invitation)) := by
  rw [start]
  split
  · exact ⟨rfl, .inl ⟨by simp, rfl⟩⟩
  · split
    · exact ⟨rfl, .inl ⟨by simp, rfl⟩⟩
    · exact ⟨rfl, .inr ⟨rfl, _, rfl, rfl⟩⟩

/-- A session that begins shows the code of its invitation, if it has one. -/
theorem codes_start {α : Type} (desk : Desk ν) (role : Role)
    (target : ConnectTarget) (key : Option SessionKey) (invitation : Option Invitation)
    (replica : Replica) (outbox : Outbox) (now : Nat) (done : α) {code : Option String}
    (told : ∀ text ∈ code, text ∈ invitation.map Invitation.encode) :
    let opening := desk.prepare role target key invitation replica outbox now
    let result := match opening.2.start opening.1 now with
      | (.error error, desk) => (Except.error error, desk)
      | (.ok (), desk) => (.ok done, desk.notify (.started role code))
    ∀ text ∈ result.2.codes, text ∈ desk.codes ∨
      result.1 = .ok done ∧ text ∈ invitation.map Invitation.encode := by
  intro opening result text present
  have starts := opening.2.start_cases opening.1 now
  simp only [result] at present ⊢
  rcases begun : opening.2.start opening.1 now with ⟨outcome, after⟩
  simp only [begun] at starts present ⊢
  cases outcome with
  | error error =>
      rcases starts.2 with ⟨_, ended⟩ | ⟨done, _⟩
      · exact .inl (codes_of_ended ended starts.1 present)
      · cases done
  | ok done =>
      rcases starts.2 with ⟨failed, _⟩ | ⟨_, later, next, invited⟩
      · exact absurd rfl failed
      · rcases codes_begun starts.1 next invited told text present with before | shown
        · exact .inl before
        · exact .inr ⟨rfl, shown⟩

/-- A host shows the code of the invitation that it returns, and no other. -/
theorem codes_host (desk : Desk ν) (target : HostTarget) (draws : Draws) (now : Nat) :
    ∀ text ∈ (desk.host target draws now).2.codes, text ∈ desk.codes ∨
      text ∈ (desk.host target draws now).1.toOption.join.map Invitation.encode := by
  rw [host]
  split
  · exact fun text present => .inl present
  · split
    · exact fun text present => .inl present
    · rcases hostPlan desk.settings target draws with _ | ⟨connectTarget, invitation, key⟩
      · exact fun text present => .inl present
      · intro text present
        have starts := codes_start desk .host connectTarget key invitation _ _ now invitation
          (fun _ told => told) text present
        rcases starts with before | ⟨done, shown⟩
        · exact .inl before
        · right
          exact (congrArg (fun result : Except SessionError (Option Invitation) =>
            text ∈ result.toOption.join.map Invitation.encode) done).mpr shown

/-- A guest shows no code but the one it was given. -/
theorem codes_join (desk : Desk ν) (code : String) (replica : ReplicaId) (now : Nat) :
    ∀ text ∈ (desk.join code replica now).2.codes, text ∈ desk.codes ∨
      ∃ invitation, Invitation.decode code = .ok invitation ∧ text = invitation.encode := by
  rw [join]
  split
  · exact fun text present => .inl present
  · cases Invitation.decode code with
    | error error => exact fun text present => .inl present
    | ok invitation =>
        simp only
        split
        · exact fun text present => .inl present
        · intro text present
          have starts := codes_start desk .joiner invitation.target invitation.key?
            (some invitation) _ _ now () (by simp) text present
          rcases starts with before | ⟨_, shown⟩
          · exact .inl before
          · exact .inr ⟨invitation, rfl, (Option.mem_some.1 shown).symm⟩

theorem codes_leave (desk : Desk ν) : desk.leave.2.codes ⊆ desk.codes := by
  rw [leave]
  split
  · simp only
    rw [codes_notify _ rfl]
    exact desk.codes_tearDown
  · exact List.Subset.refl _

/-- Calls other than for a new session show no new code. -/
theorem codes_perform (desk : Desk ν) {call : Call} (begins : call.number? = none)
    (single : call ≠ .poll) (now : Nat) : (call.perform desk now).codes ⊆ desk.codes := by
  cases call with
  | takeNotices =>
      simp only [Call.perform, Participant.takeNotices, Participant.codes_eq, List.filterMap_nil,
        List.nil_append]
      exact List.subset_append_right _ _
  | host target draws => cases begins
  | join code replica => cases begins
  | bufferChanged =>
      rw [Call.perform, bufferChanged]
      cases present : desk.session with
      | none => exact List.Subset.refl _
      | some session =>
          simp only
          split
          · rw [closeForInvalidBuffer, codes_notify _ rfl]
            exact desk.codes_tearDown
          · exact subset_of_present present rfl rfl rfl
  | flushNow =>
      rw [Call.perform, flushNow]
      cases present : desk.session with
      | none => exact List.Subset.refl _
      | some session =>
          simp only
          split
          · exact subset_of_present present rfl rfl rfl
          · exact subset_of_present present rfl rfl rfl
  | poll => exact absurd rfl single
  | leave => exact desk.codes_leave
  | vanish =>
      rw [Call.perform, vanish]
      split
      · exact List.Subset.refl _
      · exact codes_of_ended rfl rfl

theorem codes_round_of_ready {endpointId relayUrl : String}
    (found : (desk.takeMatter now).1 = some (.event (.ready endpointId relayUrl))) :
    (desk.pollOnce now).2.codes = desk.notices.filterMap Notice.code? ++
      [(Invitation.peer endpointId relayUrl).encode,
        (Invitation.peer endpointId relayUrl).encode] := by
  rcases client_of_takeMatter found with ⟨session, present, _⟩
  rw [pollOnce_of_matter found, ← desk.notices_takeMatter now]
  exact codes_onReady (session_takeMatter present now) endpointId relayUrl

/-- A round shows the code that it brings up, and no other. -/
theorem codes_round (desk : Desk ν) (now : Nat) :
    ∀ text ∈ (desk.pollOnce now).2.codes,
      text ∈ desk.codes ∨ text ∈ (desk.brings? .round now).map Invitation.encode := by
  intro text present
  have before : (desk.takeMatter now).2.codes = desk.codes := desk.codes_takeMatter now
  cases found : (desk.takeMatter now).1 with
  | none =>
      rw [pollOnce_of_none found] at present
      exact .inl (before ▸ present)
  | some matter =>
      by_cases ready : ∃ endpointId relayUrl, matter = .event (.ready endpointId relayUrl)
      · rcases ready with ⟨endpointId, relayUrl, rfl⟩
        have brought : desk.brings? .round now = some (.peer endpointId relayUrl) := by
          simp only [brings?, found]
        rw [codes_round_of_ready found] at present
        rcases List.mem_append.1 present with told | shown
        · left
          rw [Participant.codes_eq]
          exact List.mem_append_left _ told
        · right
          rw [brought]
          simpa [eq_comm] using shown
      · have other (endpointId relayUrl : String) :
            matter ≠ .event (.ready endpointId relayUrl) := fun same =>
          ready ⟨endpointId, relayUrl, same⟩
        left
        rw [pollOnce_of_matter found] at present
        rw [← before]
        rcases Option.eq_none_or_eq_some (desk.takeMatter now).2.session with
          ended | ⟨session, there⟩
        · rwa [deal_of_ended ended] at present
        · exact codes_deal there other now present

/-- Whatever happens, a code that comes up is that of an invitation that is brought, or a guest
has read it. -/
theorem codes_meets (desk : Desk ν) (occasion : Occasion ν) (now : Nat) :
    ∀ text ∈ (desk.meets occasion now).codes,
      text ∈ desk.codes ∨ text ∈ (desk.brings? occasion now).map Invitation.encode ∨
        ∃ code invitation, Invitation.decode code = .ok invitation ∧ text = invitation.encode := by
  intro text present
  cases occasion with
  | network change => exact .inl present
  | buffer change => exact .inl present
  | round =>
      rcases desk.codes_round now text present with before | brought
      · exact .inl before
      · exact .inr (.inl brought)
  | call call single =>
      cases begins : call.number? with
      | none => exact .inl (desk.codes_perform begins single now present)
      | some number =>
          cases call with
          | host target draws =>
              rcases desk.codes_host target draws now text present with before | brought
              · exact .inl before
              · exact .inr (.inl brought)
          | join code replica =>
              rcases desk.codes_join code replica now text present with before | ⟨guest, reads⟩
              · exact .inl before
              · exact .inr (.inr ⟨code, guest, reads⟩)
          | _ => cases begins

/-! ## Courses -/

/-- Whether all codes lead into the session: the one of the invitation that a host returns, and all
that can be seen after something has happened. -/
structure Shares (desk : Desk ν) (occasion : Occasion ν) (now : Nat) : Prop where
  returned : ∀ target draws single invitation, occasion = .call (.host target draws) single →
    (desk.host target draws now).1 = .ok (some invitation) →
      Invitation.decode invitation.encode = .ok invitation
  shown : ∀ code ∈ (desk.meets occasion now).codes, Invitation.IsCode code

/-- Whether an invitation that comes up is whole. -/
def InvitesWhole (desk : Desk ν) (occasion : Occasion ν) (now : Nat) : Prop :=
  ∀ invitation ∈ desk.brings? occasion now, invitation.IsWhole

theorem brings?_round {invitation : Invitation} :
    desk.brings? .round now = some invitation ↔ ∃ endpointId relayUrl,
      (desk.takeMatter now).1 = some (.event (.ready endpointId relayUrl)) ∧
        invitation = .peer endpointId relayUrl := by
  rw [brings?]
  constructor
  · intro brought
    split at brought
    case h_1 endpointId relayUrl found =>
      exact ⟨endpointId, relayUrl, found, (Option.some.inj brought).symm⟩
    case h_2 => cases brought
  · rintro ⟨endpointId, relayUrl, found, rfl⟩
    simp only [found]

theorem brings?_host {target : HostTarget} {draws : Draws} {single : Call.host target draws ≠ .poll}
    {invitation : Invitation} :
    desk.brings? (.call (.host target draws) single) now = some invitation ↔
      (desk.host target draws now).1 = .ok (some invitation) := by
  rw [brings?]
  rcases (desk.host target draws now).1 with error | invited
  · simp [Except.toOption]
  · simp [Except.toOption]

theorem shares_of_invitesWhole (shown : ∀ code ∈ desk.codes, Invitation.IsCode code)
    {occasion : Occasion ν} (invites : desk.InvitesWhole occasion now) :
    desk.Shares occasion now := by
  constructor
  · rintro target draws single invitation rfl hosted
    have whole := invites invitation (brings?_host.2 hosted)
    exact Invitation.decode_encode_iff.2 ⟨whole, rfl⟩
  · intro code present
    rcases desk.codes_meets occasion now code present with before | brought | ⟨text, guest, reads⟩
    · exact shown code before
    · rcases Option.map_eq_some_iff.1 brought with ⟨invitation, comes, rfl⟩
      exact Invitation.isCode_encode_iff.2 (invites invitation comes)
    · rw [reads.2]
      exact Invitation.isCode_encode_iff.2 (Invitation.isWhole_of_decode reads.1)

theorem invitesWhole_of_shares {occasion : Occasion ν} (shares : desk.Shares occasion now) :
    desk.InvitesWhole occasion now := by
  intro invitation brought
  cases occasion with
  | network change => cases brought
  | buffer change => cases brought
  | call call single =>
      cases call with
      | host target draws =>
          have reads := shares.returned target draws single invitation rfl (brings?_host.1 brought)
          exact (Invitation.decode_encode_iff.1 reads).1
      | _ => cases brought
  | round =>
      rcases brings?_round.1 brought with ⟨endpointId, relayUrl, found, rfl⟩
      apply Invitation.isCode_encode_iff.1
      apply shares.shown
      rw [meets, codes_round_of_ready found]
      exact List.mem_append_right _ List.mem_cons_self

/-- All codes of a course lead into the session if and only if the invitations that come up in it
are whole. -/
theorem shares_iff (unseen : desk.codes = []) (occasions : List (Occasion ν × Nat)) :
    desk.Throughout Shares occasions ↔ desk.Throughout InvitesWhole occasions := by
  have shown : ∀ code ∈ desk.codes, Invitation.IsCode code := by
    rw [unseen]
    exact nofun
  clear unseen
  induction occasions generalizing desk with
  | nil => exact Iff.rfl
  | cons first rest ih =>
      constructor
      · rintro ⟨shares, later⟩
        exact ⟨invitesWhole_of_shares shares, (ih shares.shown).1 later⟩
      · rintro ⟨invites, later⟩
        have shares := shares_of_invitesWhole shown invites
        exact ⟨shares, (ih shares.shown).2 later⟩

/-- A host that waits for peers and hears where it can be reached. -/
def reachable : List (Occasion Scripted × Nat) :=
  [(.call (.host .peerToPeer ⟨1, 7, ⟨.replicate 32 0, SessionKey.length_zeros⟩⟩) nofun, 0),
    (.network fun network => (network.emit none (.ready "ep-1" "https://relay.test")).2, 5),
    (.round, 10)]

/-- Somebody with something to share. -/
def announcer (serves : TransportMode) : Desk Scripted :=
  { buffer := Buffer.ofText ['a'], network := { serves } }

theorem announcer_shares :
    (announcer .peerToPeer).codes = [] ∧ (announcer .peerToPeer).Throughout Shares reachable ∧
      ((announcer .peerToPeer).course reachable).codes ≠ [] := by
  have address : (Invitation.peer "ep-1" "https://relay.test").IsWhole :=
    ⟨rfl, Invitation.isShort_peer.2 ⟨by decide, by decide⟩⟩
  refine ⟨rfl, (shares_iff rfl reachable).2 ⟨?_, nofun, ?_, trivial⟩, by decide +kernel⟩
  · intro invitation brought
    have nothing : (announcer .peerToPeer).brings? (reachable.head nofun).1 0 = none := by
      decide +kernel
    cases nothing.symm.trans brought
  · intro invitation brought
    have ready : ((announcer .peerToPeer).course (reachable.take 2)).brings? .round 10 =
        some (.peer "ep-1" "https://relay.test") := by
      decide +kernel
    cases ready.symm.trans brought
    exact address

/-- The invitation of a host that names no server cannot be read. -/
theorem nameless_not_shares :
    ¬(announcer .relay).Throughout Shares
      [(.call (.host (.relay (some "")) ⟨1, 7, ⟨.replicate 32 0, SessionKey.length_zeros⟩⟩) nofun,
        0)] := by
  rintro ⟨shares, _⟩
  have hosted : ((announcer .relay).host (.relay (some ""))
      ⟨1, 7, ⟨.replicate 32 0, SessionKey.length_zeros⟩⟩ 0).1 =
        .ok (some (Invitation.newRoom "" 7 none)) := by
    decide +kernel
  have reads := shares.returned _ _ _ _ rfl hosted
  have whole := (Invitation.decode_encode_iff.1 reads).1
  exact Bool.noConfusion ((Invitation.isWhole_newRoom_iff (by decide)).1 whole).1

end Desk

end Cowrite
