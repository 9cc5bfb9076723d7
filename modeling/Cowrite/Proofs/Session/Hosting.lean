import Cowrite.Proofs.Session.Carries
import Cowrite.Proofs.Session.Course
import Cowrite.Proofs.Session.Reckoning
import Cowrite.Proofs.Session.Typing
import Cowrite.Transport.Scripted

/-!
# Runs of a host with peers

A host that peers connect to directly sends each of them everything when it connects, and every
update to all of them. So accounts can be kept of what each peer was told since it connected
(`Hosting`): whatever the host has made should have been told to every peer, or still go out with
the next update (`Hosting.Accounts`).

Whatever happens at the desk keeps these accounts, with one exception. What a newcomer is sent is
sent to nobody else, but the outbox takes it that everybody has it. So the accounts are kept exactly
as long as no newcomer is welcomed while another peer lacks something
(`Hosting.keepsAccounts_iff`). While the host types, a peer that connects is enough
(`Hosting.crowded_loses`).
-/

namespace Cowrite

/-- Who comes by a matter, if anybody does. -/
def Matter.newcomer? : Matter → Option String
  | .event (.peerConnected peer) => some peer
  | _ => none

theorem Matter.eq_of_newcomer? {matter : Matter} {peer : String}
    (comes : matter.newcomer? = some peer) : matter = .event (.peerConnected peer) := by
  cases matter with
  | task task => cases comes
  | event event =>
      cases event with
      | peerConnected other =>
          cases comes
          rfl
      | _ => cases comes

/-- A desk, with what its session has made and what each peer was told since it connected. -/
structure Hosting (ν : Type) where
  desk : Desk (Recorded ν)
  made : List Operation := []
  told : String → List Operation := fun _ => []

theorem Session.mem_insertPeer {peer other : String} {peers : List String} :
    other ∈ insertPeer peer peers ↔ other = peer ∨ other ∈ peers := by
  induction peers with
  | nil => simp [insertPeer]
  | cons first rest ih =>
      rw [insertPeer]
      split
      · simp
      · split
        case isTrue same => simp [same]
        case isFalse =>
          simp only [List.mem_cons, ih]
          tauto

namespace Hosting

variable {ν : Type}

/-- Whether every peer of a host was told all that the host has made, or it goes out with the next
update. -/
def Accounts (hosting : Hosting ν) : Prop :=
  ∀ session ∈ hosting.desk.session, session.isHost = true → session.mode = .peerToPeer →
    ∀ peer ∈ session.peers, ∀ operation ∈ hosting.made,
      operation ∈ hosting.told peer ∨ (session.ledger hosting.desk.network).Owed operation

/-- While nothing is pending, every peer was told everything. -/
theorem Accounts.mem_told_of_idle {hosting : Hosting ν} {session : Session}
    (accounts : hosting.Accounts) (present : hosting.desk.session = some session)
    (host : session.isHost = true)
    (mode : session.mode = .peerToPeer) (idle : session.outbox.pending = false) {peer : String}
    (member : peer ∈ session.peers) {operation : Operation}
    (made : operation ∈ hosting.made) : operation ∈ hosting.told peer := by
  rcases accounts session present host mode peer member operation made with told | ⟨pending, _⟩
  · exact told
  · cases idle.symm.trans pending

variable [Transport ν]

/-! ## What happens -/

/-- What the session has to deal with. -/
def matter? (hosting : Hosting ν) (occasion : Occasion ν) (now : Nat) : Option Matter :=
  match occasion with
  | .round => (hosting.desk.takeMatter now).1
  | _ => none

/-- What the session hears. -/
def heard (hosting : Hosting ν) (occasion : Occasion ν) (now : Nat) : Option Update :=
  (hosting.matter? occasion now).bind Matter.payload?

/-- The peer that comes, if one does. -/
def newcomer? (hosting : Hosting ν) (occasion : Occasion ν) (now : Nat) : Option String :=
  (hosting.matter? occasion now).bind Matter.newcomer?

/-- The desk after something has happened. -/
def next (hosting : Hosting ν) (occasion : Occasion ν) (now : Nat) : Desk (Recorded ν) :=
  match occasion with
  | .network change =>
      { hosting.desk with network := { hosting.desk.network with
          transport := change hosting.desk.network.transport } }
  | .buffer change => { hosting.desk with buffer := change hosting.desk.buffer }
  | .call call _ => call.perform hosting.desk now
  | .round => (hosting.desk.pollOnce now).2

/-- The messages that are accepted as it happens. -/
def messages (hosting : Hosting ν) (occasion : Occasion ν) (now : Nat) :
    List (OutboundMessage Update) :=
  (hosting.next occasion now).network.accepted.drop hosting.desk.network.accepted.length

/-- What the session has made by then: whatever is in the log and comes from nobody else. -/
def madeBy (hosting : Hosting ν) (occasion : Occasion ν) (now : Nat) : List Operation :=
  match hosting.desk.session, (hosting.next occasion now).session with
  | _, none => []
  | none, some later => later.replica.log
  | some session, some later =>
      hosting.made ++ later.replica.log.filter fun operation =>
        operation ∉ session.replica.log ∧ operation ∉ session.replica.waiting ∧
          operation ∉ heardOperations (hosting.heard occasion now)

/-- A newcomer has been told what it was sent, and everybody else what was sent to all. -/
def after (hosting : Hosting ν) (occasion : Occasion ν) (now : Nat) : Hosting ν :=
  { desk := hosting.next occasion now
    made := hosting.madeBy occasion now
    told := fun peer =>
      (if hosting.newcomer? occasion now = some peer then
        (hosting.messages occasion now).flatMap OutboundMessage.greeting
      else hosting.told peer) ++
        (hosting.messages occasion now).flatMap OutboundMessage.broadcast }

def run (hosting : Hosting ν) (occasions : List (Occasion ν × Nat)) : Hosting ν :=
  occasions.foldl (fun hosting occasion => hosting.after occasion.1 occasion.2) hosting

/-- Whether what happens does no harm to the accounts. Only a newcomer can do any. If it is sent
everything, every other peer must have been told all that was made. If it cannot be sent anything,
all that was made must go out with the next update. -/
def Harmless (hosting : Hosting ν) (occasion : Occasion ν) (now : Nat) : Prop :=
  ∀ newcomer ∈ hosting.newcomer? occasion now, ∀ session ∈ hosting.desk.session,
    session.isHost = true → session.mode = .peerToPeer →
      if hosting.messages occasion now = [] then
        ∀ later ∈ (hosting.next occasion now).session,
          ∀ operation ∈ hosting.madeBy occasion now,
            (later.ledger (hosting.next occasion now).network).Owed operation
      else
        ∀ peer ∈ session.peers, peer ≠ newcomer → ∀ operation ∈ hosting.madeBy occasion now,
          operation ∈ hosting.told peer

/-- Whether the accounts are kept all along. -/
def KeepsAccounts (hosting : Hosting ν) : List (Occasion ν × Nat) → Prop
  | [] => hosting.Accounts
  | (occasion, now) :: rest => hosting.Accounts ∧ (hosting.after occasion now).KeepsAccounts rest

/-- Whether no newcomer is welcomed while another peer lacks something. -/
def NeverHarms (hosting : Hosting ν) : List (Occasion ν × Nat) → Prop
  | [] => True
  | (occasion, now) :: rest =>
      hosting.Harmless occasion now ∧ (hosting.after occasion now).NeverHarms rest

theorem desk_run_rounds (hosting : Hosting ν) (rounds now : Nat) :
    (hosting.run (List.replicate rounds (.round, now))).desk =
      (fun desk : Desk (Recorded ν) => (desk.pollOnce now).2)^[rounds] hosting.desk := by
  induction rounds generalizing hosting with
  | zero => rfl
  | succ rounds ih => exact ih (hosting.after .round now)

/-- A poll is so many rounds. -/
theorem poll_eq_run (hosting : Hosting ν) (now : Nat) :
    ∃ rounds, hosting.desk.poll now =
      (hosting.run (List.replicate rounds (.round, now))).desk := by
  rcases hosting.desk.exists_poll_eq_iterate now with ⟨rounds, polled⟩
  exact ⟨rounds, polled.trans (hosting.desk_run_rounds rounds now).symm⟩

/-! ## How it goes on -/

variable {hosting : Hosting ν} {session later : Session}

/-- A session that has been opened has no peers, and has made all that is in its document. -/
theorem begins_of_opened {desk : Desk (Recorded ν)} {network : Recorded ν} {role : Role}
    {target : ConnectTarget} {key : Option SessionKey} {invitation : Option Invitation}
    {document : Replica × Outbox} {id : ReplicaId} {now : Nat}
    (opened : (desk.opened role target key invitation document now).session = some later)
    (makes : ({ id } : Replica).Makes document.1) (unknown : document.2.lastSent = none) :
    later.peers = [] ∧ (later.ledger network).Lawful ∧
      ∀ operation ∈ later.replica.log, later.replica.Has operation := by
  rcases Desk.session_opened opened with ⟨replica, outbox, peers⟩
  refine ⟨peers, ⟨?_, ?_⟩, ?_⟩
  · rw [Session.ledger, replica]
    exact makes.grown
  · intro version held
    rw [Session.ledger, outbox, unknown] at held
    cases held
  · intro operation present
    rw [replica] at present ⊢
    rcases makes.made operation present with held | ⟨covered, _⟩
    · cases held
    · exact ⟨present, covered⟩

/-- A session begins with a call to host or to join, and with nothing else. -/
theorem next_of_ended (ended : hosting.desk.session = none) {occasion : Occasion ν} {now : Nat}
    (began : (hosting.next occasion now).session = some later) :
    later.peers = [] ∧ (later.ledger (hosting.next occasion now).network).Lawful ∧
      ∀ operation ∈ later.replica.log, later.replica.Has operation := by
  cases occasion with
  | network change => cases ended.symm.trans began
  | buffer change => cases ended.symm.trans began
  | round =>
      rcases Desk.exists_of_pollOnce began with ⟨session, _, _, present, _⟩
      cases ended.symm.trans present
  | call call single =>
      cases call with
      | host target draws =>
          rcases hosting.desk.host_cases target draws now with
            same | ⟨_, _, _, _, _, opened⟩
          · rw [next, Call.perform, same] at began
            cases ended.symm.trans began
          · rw [next, Call.perform, opened] at began
            exact begins_of_opened began (Desk.makes_seed draws.replica hosting.desk.buffer _)
              (Desk.lastSent_seed draws.replica hosting.desk.buffer _)
      | join code replica =>
          rcases hosting.desk.join_cases code replica now with same | ⟨_, _, _, _, _, opened⟩
          · rw [next, Call.perform, same] at began
            cases ended.symm.trans began
          · rw [next, Call.perform, opened] at began
            exact begins_of_opened began (.refl (Replica.grown_new replica)) rfl
      | _ =>
          have gone := (hosting.desk.carries_perform rfl single now).ended ended
          cases gone.symm.trans began

/-- A session goes on step by step, unless a peer connects. -/
theorem next_of_present (present : hosting.desk.session = some session) (occasion : Occasion ν)
    (now : Nat) :
    hosting.newcomer? occasion now = none ∧
        hosting.desk.Carries (hosting.heard occasion now) (hosting.next occasion now) ∨
      ∃ peer, hosting.newcomer? occasion now = some peer ∧ hosting.heard occasion now = none ∧
        hosting.next occasion now = (hosting.desk.takeMatter now).2.onPeerConnected peer now := by
  cases occasion with
  | network change =>
      exact .inl ⟨rfl, Desk.carries_of_steps present present rfl rfl rfl .refl⟩
  | buffer change =>
      exact .inl ⟨rfl, Desk.carries_of_steps present present rfl rfl rfl .refl⟩
  | call call single =>
      left
      refine ⟨rfl, ?_⟩
      by_cases begins : call.number? = none
      · exact hosting.desk.carries_perform begins single now
      · rw [next, Desk.perform_of_present present begins]
        exact .refl _ hosting.desk
  | round =>
      rcases found : (hosting.desk.takeMatter now).1 with _ | matter
      · left
        refine ⟨by rw [newcomer?, matter?, found]; rfl, ?_⟩
        rw [next, Desk.pollOnce_of_none found]
        exact Desk.carries_takeMatter _ hosting.desk now
      · rcases comes : matter.newcomer? with _ | peer
        · left
          have noPeer : ∀ peer, matter ≠ .event (.peerConnected peer) := by
            rintro peer rfl
            cases comes
          refine ⟨by rw [newcomer?, matter?, found]; exact comes, ?_⟩
          rw [next, heard, matter?, found, Desk.pollOnce_of_matter found]
          exact (Desk.carries_takeMatter _ hosting.desk now).trans (Desk.carries_deal _ noPeer now)
        · right
          cases Matter.eq_of_newcomer? comes
          refine ⟨peer, by rw [newcomer?, matter?, found]; rfl,
            by rw [heard, matter?, found]; rfl, ?_⟩
          rw [next, Desk.pollOnce_of_matter found]
          rfl

/-- A ledger changes step by step, and then somebody may be sent everything. -/
theorem exists_of_next (present : hosting.desk.session = some session) {occasion : Occasion ν}
    {now : Nat} (goesOn : (hosting.next occasion now).session = some later) :
    ∃ middle,
      Ledger.Steps (hosting.heard occasion now) (session.ledger hosting.desk.network) middle ∧
        (later.ledger (hosting.next occasion now).network = middle ∨
          later.ledger (hosting.next occasion now).network = middle.welcomed) := by
  rcases next_of_present present occasion now with ⟨_, carries⟩ | ⟨peer, _, unheard, comes⟩
  · rcases carries with ended | ⟨_, other, same, next, _, steps⟩
    · cases ended.symm.trans goesOn
    · cases present.symm.trans same
      cases next.symm.trans goesOn
      exact ⟨_, steps, .inl rfl⟩
  · have taken := Desk.session_takeMatter present now
    rcases Desk.exists_onPeerConnected taken peer now with ⟨other, middle, same, steps, ledger⟩
    rw [comes] at goesOn ⊢
    cases same.symm.trans goesOn
    rw [Desk.ledger_takeMatter] at steps
    exact ⟨middle, unheard ▸ steps, ledger⟩

theorem mem_madeBy (present : hosting.desk.session = some session) {occasion : Occasion ν}
    {now : Nat} (goesOn : (hosting.next occasion now).session = some later)
    (operation : Operation) :
    operation ∈ hosting.madeBy occasion now ↔ operation ∈ hosting.made ∨
      operation ∈ later.replica.log ∧ operation ∉ session.replica.log ∧
        operation ∉ session.replica.waiting ∧
          operation ∉ heardOperations (hosting.heard occasion now) := by
  simp [madeBy, present, goesOn]

/-! ## Keeping accounts -/

/-- Whether the session is lawful, and what it has made is in its document. -/
structure Lawful (hosting : Hosting ν) : Prop where
  ledger : ∀ session, hosting.desk.session = some session →
    (session.ledger hosting.desk.network).Lawful
  has : ∀ session, hosting.desk.session = some session →
    ∀ operation ∈ hosting.made, session.replica.Has operation

/-- What comes from nobody else is owed or was told everybody. -/
theorem settles_madeBy {before after : Ledger} {heard : Option Update} {operation : Operation}
    (reckons : Ledger.Reckons heard before after)
    (new : operation ∈ after.replica.log ∧ operation ∉ before.replica.log ∧
      operation ∉ before.replica.waiting ∧ operation ∉ heardOperations heard) :
    after.replica.Has operation ∧ (after.Owed operation ∨ Ledger.Sent before after operation) := by
  rcases new with ⟨present, notHeld, notWaiting, notHeard⟩
  rcases reckons.made operation present with held | waits | isHeard | settled
  · exact absurd held notHeld
  · exact absurd waits notWaiting
  · exact absurd isHeard notHeard
  · exact settled

theorem Lawful.after (lawful : hosting.Lawful) (occasion : Occasion ν) (now : Nat) :
    (hosting.after occasion now).Lawful := by
  rcases Option.eq_none_or_eq_some hosting.desk.session with ended | ⟨session, present⟩
  · constructor
    · intro later began
      exact (next_of_ended ended began).2.1
    · intro later began operation made
      have all : (hosting.after occasion now).made = later.replica.log := by
        show hosting.madeBy occasion now = _
        simp only [madeBy, ended, show (hosting.next occasion now).session = some later from began]
      exact (next_of_ended ended began).2.2 operation (all ▸ made)
  · have reckons {later : Session} (goesOn : (hosting.next occasion now).session = some later) :
        ∃ middle, Ledger.Reckons (hosting.heard occasion now)
          (session.ledger hosting.desk.network) middle ∧
            (later.ledger (hosting.next occasion now).network = middle ∨
              later.ledger (hosting.next occasion now).network = middle.welcomed) := by
      rcases exists_of_next present goesOn with ⟨middle, steps, ledger⟩
      exact ⟨middle, steps.reckons (lawful.ledger session present), ledger⟩
    constructor
    · intro later goesOn
      rcases reckons goesOn with ⟨middle, reckons, same | welcomed⟩
      · exact same ▸ reckons.lawful
      · exact welcomed ▸ reckons.lawful.welcomed
    · intro later goesOn operation made
      rcases reckons goesOn with ⟨middle, reckons, ledger⟩
      have same : middle.replica = later.replica := by
        rcases ledger with same | welcomed
        · exact (congrArg Ledger.replica same).symm
        · exact (congrArg Ledger.replica welcomed).symm
      rw [← same]
      rcases (mem_madeBy present goesOn operation).1 made with before | new
      · exact (lawful.has session present operation before).mono reckons.extended.replica
      · exact (settles_madeBy reckons (same ▸ new)).1

/-- Nothing but a newcomer can do any harm. -/
theorem accounts_after_of_carries (lawful : hosting.Lawful) (accounts : hosting.Accounts)
    {occasion : Occasion ν} {now : Nat} (nobody : hosting.newcomer? occasion now = none)
    (carries : hosting.desk.Carries (hosting.heard occasion now) (hosting.next occasion now)) :
    (hosting.after occasion now).Accounts := by
  intro later goesOn host mode peer member operation made
  rcases carries with ended | ⟨session, other, present, same, continues, steps⟩
  · cases ended.symm.trans goesOn
  cases goesOn.symm.trans same
  have reckons := steps.reckons (lawful.ledger session present)
  have told : (hosting.after occasion now).told peer = hosting.told peer ++
      (hosting.messages occasion now).flatMap OutboundMessage.broadcast := by
    simp [after, nobody]
  have settles : (later.ledger (hosting.next occasion now).network).Owed operation ∨
      Ledger.Sent (session.ledger hosting.desk.network)
        (later.ledger (hosting.next occasion now).network) operation →
      operation ∈ (hosting.after occasion now).told peer ∨
        (later.ledger (hosting.next occasion now).network).Owed operation := by
    rintro (owed | sent)
    · exact .inr owed
    · rw [told]
      exact .inl (List.mem_append_right _ sent)
  rcases (mem_madeBy present goesOn operation).1 made with before | new
  · have was : session.isHost = true ∧ session.mode = .peerToPeer := by
      rw [Session.isHost, continues.role] at host
      exact ⟨host, continues.mode ▸ mode⟩
    rcases accounts session present was.1 was.2 peer (continues.peers member) operation before with
      known | owed
    · rw [told]
      exact .inl (List.mem_append_left _ known)
    · exact settles (reckons.owed operation (lawful.has session present operation before) owed)
  · exact settles (settles_madeBy reckons new).2

/-- A newcomer is sent nothing, or everything, and nothing is owed to anybody from then on. -/
theorem welcome_cases (lawful : hosting.Lawful) (present : hosting.desk.session = some session)
    (host : session.isHost = true ∧ session.mode = .peerToPeer) {occasion : Occasion ν}
    {now : Nat} {peer : String} (comes : hosting.next occasion now =
      (hosting.desk.takeMatter now).2.onPeerConnected peer now) :
    ∃ later, (hosting.next occasion now).session = some later ∧
      (later.isHost = true ∧ later.mode = .peerToPeer) ∧
        later.peers = Session.insertPeer peer session.peers ∧
          (hosting.messages occasion now = [] ∨
            hosting.messages occasion now = [.fullState later.replica.fullState] ∧
              ∀ operation, later.replica.Has operation →
                ¬(later.ledger (hosting.next occasion now).network).Owed operation) := by
  let taken := (hosting.desk.takeMatter now).2
  let seen := (taken.observe session now).1.ledger taken.network
  have there : taken.session = some session := Desk.session_takeMatter present now
  have steps : Ledger.Steps none (session.ledger hosting.desk.network) seen := by
    rw [← hosting.desk.ledger_takeMatter session now]
    exact session.steps_observe taken.network taken.buffer now none
  have lawfulSeen := (steps.reckons (lawful.ledger session present)).lawful
  have accepted : seen.accepted = hosting.desk.network.accepted :=
    hosting.desk.accepted_takeMatter now
  rcases Desk.exists_onPeerConnected_of_host there host peer now with
    ⟨later, next, role, mode, peers, ledger⟩
  rw [← comes] at next ledger
  have still : later.isHost = true ∧ later.mode = .peerToPeer := by
    rw [Session.isHost, role, mode]
    exact host
  refine ⟨later, next, still, peers, ?_⟩
  rcases ledger with welcomed | same
  · right
    have replica : later.replica = seen.replica := congrArg Ledger.replica welcomed
    have messages : (hosting.next occasion now).network.accepted =
        seen.accepted ++ [.fullState seen.replica.fullState] := congrArg Ledger.accepted welcomed
    refine ⟨by rw [Hosting.messages, messages, accepted, List.drop_left, replica], ?_⟩
    intro operation has
    rw [welcomed]
    exact Ledger.not_owed_welcomed (replica ▸ has)
  · left
    have messages : (hosting.next occasion now).network.accepted = seen.accepted :=
      congrArg Ledger.accepted same
    rw [Hosting.messages, messages, accepted, List.drop_length]

section

variable {occasion : Occasion ν} {now : Nat} {newcomer : String}

/-- A newcomer that is sent nothing is told nothing, so all that was made must still go out. -/
theorem accounts_after_iff_of_refused
    (present : hosting.desk.session = some session)
    (host : session.isHost = true ∧ session.mode = .peerToPeer)
    (isNew : hosting.newcomer? occasion now = some newcomer)
    (next : (hosting.next occasion now).session = some later)
    (still : later.isHost = true ∧ later.mode = .peerToPeer) (member : newcomer ∈ later.peers)
    (refused : hosting.messages occasion now = []) :
    (hosting.after occasion now).Accounts ↔ hosting.Harmless occasion now := by
  have nothing : (hosting.after occasion now).told newcomer = [] := by
    simp [after, isNew, refused]
  constructor
  · rintro accounts _ _ _ _ _ _
    rw [if_pos refused]
    intro other same operation made
    cases next.symm.trans same
    rcases accounts later next still.1 still.2 newcomer member operation made with told | owed
    · simp [nothing] at told
    · exact owed
  · intro harmless other same _ _ peer _ operation made
    have owed := harmless newcomer isNew session present host.1 host.2
    rw [if_pos refused] at owed
    exact .inr (owed other same operation made)

/-- A newcomer that is sent everything has it, and nothing is owed from then on, so everybody else
must have been told before. -/
theorem accounts_after_iff_of_welcomed (lawful : (hosting.after occasion now).Lawful)
    (present : hosting.desk.session = some session)
    (host : session.isHost = true ∧ session.mode = .peerToPeer)
    (isNew : hosting.newcomer? occasion now = some newcomer)
    (next : (hosting.next occasion now).session = some later)
    (still : later.isHost = true ∧ later.mode = .peerToPeer)
    (peers : later.peers = Session.insertPeer newcomer session.peers)
    (welcomed : hosting.messages occasion now = [.fullState later.replica.fullState])
    (notOwed : ∀ operation, later.replica.Has operation →
      ¬(later.ledger (hosting.next occasion now).network).Owed operation) :
    (hosting.after occasion now).Accounts ↔ hosting.Harmless occasion now := by
  have has := lawful.has later next
  have some_message : hosting.messages occasion now ≠ [] := by simp [welcomed]
  have greeted : (hosting.after occasion now).told newcomer =
      later.replica.fullState.carried := by
    simp [after, isNew, welcomed, OutboundMessage.greeting, OutboundMessage.broadcast]
  have others {peer : String} (differs : peer ≠ newcomer) :
      (hosting.after occasion now).told peer = hosting.told peer := by
    simp [after, isNew, welcomed, OutboundMessage.broadcast, differs.symm]
  constructor
  · rintro accounts new same session' present' _ _
    cases isNew.symm.trans same
    cases present.symm.trans present'
    rw [if_neg some_message]
    intro peer member differs operation made
    have stays : peer ∈ later.peers := peers ▸ Session.mem_insertPeer.2 (.inr member)
    rcases accounts later next still.1 still.2 peer stays operation made with told | owed
    · exact others differs ▸ told
    · exact absurd owed (notOwed operation (has operation made))
  · intro harmless other same _ _ peer member operation made
    cases next.symm.trans same
    left
    have told := harmless newcomer isNew session present host.1 host.2
    rw [if_neg some_message] at told
    by_cases isNewcomer : peer = newcomer
    · rw [isNewcomer, greeted]
      exact (has operation made).mem_carried_fullState
    · rw [others isNewcomer]
      rw [peers, Session.mem_insertPeer] at member
      exact told peer (member.resolve_left isNewcomer) isNewcomer operation made

/-- To welcome a newcomer keeps the accounts exactly if it does no harm. -/
theorem accounts_after_iff_of_welcome (lawful : hosting.Lawful)
    (present : hosting.desk.session = some session)
    (host : session.isHost = true ∧ session.mode = .peerToPeer)
    (isNew : hosting.newcomer? occasion now = some newcomer)
    (comes : hosting.next occasion now =
      (hosting.desk.takeMatter now).2.onPeerConnected newcomer now) :
    (hosting.after occasion now).Accounts ↔ hosting.Harmless occasion now := by
  rcases welcome_cases lawful present host comes with
    ⟨later, next, still, peers, refused | ⟨welcomed, notOwed⟩⟩
  · have member : newcomer ∈ later.peers := by simp [peers, Session.mem_insertPeer]
    exact accounts_after_iff_of_refused present host isNew next still member refused
  · exact accounts_after_iff_of_welcomed (lawful.after occasion now) present host isNew next still
      peers welcomed notOwed

end

theorem Lawful.accounts_after_iff (lawful : hosting.Lawful) (accounts : hosting.Accounts)
    (occasion : Occasion ν) (now : Nat) :
    (hosting.after occasion now).Accounts ↔ hosting.Harmless occasion now := by
  rcases Option.eq_none_or_eq_some hosting.desk.session with ended | ⟨session, present⟩
  · have keeps : (hosting.after occasion now).Accounts := by
      intro later began _ _ peer member
      simp [(next_of_ended ended began).1] at member
    have harmless : hosting.Harmless occasion now := by
      intro _ _ session present
      cases ended.symm.trans present
    exact iff_of_true keeps harmless
  · rcases next_of_present present occasion now with ⟨nobody, carries⟩ | ⟨peer, isNew, _, comes⟩
    · have harmless : hosting.Harmless occasion now := by
        intro newcomer isNew
        cases nobody.symm.trans isNew
      exact iff_of_true (accounts_after_of_carries lawful accounts nobody carries) harmless
    · by_cases host : session.isHost = true ∧ session.mode = .peerToPeer
      · exact accounts_after_iff_of_welcome lawful present host isNew comes
      · have taken := Desk.session_takeMatter present now
        rcases Desk.exists_onPeerConnected_of_other taken host peer now with
          ⟨other, next, role, mode, _⟩
        have keeps : (hosting.after occasion now).Accounts := by
          intro later same isHost peerToPeer
          rw [← comes] at next
          cases next.symm.trans same
          rw [Session.isHost, role] at isHost
          exact absurd ⟨isHost, mode.symm.trans peerToPeer⟩ host
        have harmless : hosting.Harmless occasion now := by
          intro _ _ other same isHost peerToPeer
          cases present.symm.trans same
          exact absurd ⟨isHost, peerToPeer⟩ host
        exact iff_of_true keeps harmless

theorem Lawful.keeps_iff (lawful : hosting.Lawful) (accounts : hosting.Accounts)
    (occasions : List (Occasion ν × Nat)) :
    hosting.KeepsAccounts occasions ↔ hosting.NeverHarms occasions := by
  induction occasions generalizing hosting with
  | nil => exact iff_of_true accounts trivial
  | cons first rest ih =>
      have step := lawful.accounts_after_iff accounts first.1 first.2
      constructor
      · rintro ⟨_, keeps⟩
        have next : (hosting.after first.1 first.2).Accounts := by
          cases rest with
          | nil => exact keeps
          | cons second others => exact keeps.1
        exact ⟨step.1 next, (ih (lawful.after first.1 first.2) next).1 keeps⟩
      · rintro ⟨harmless, never⟩
        have next := step.2 harmless
        exact ⟨accounts, (ih (lawful.after first.1 first.2) next).2 never⟩

/-- Whatever happens from before a session on, the accounts are kept if and only if nothing that
happens does any harm. -/
theorem keepsAccounts_iff {desk : Desk (Recorded ν)} (ended : desk.session = none)
    (occasions : List (Occasion ν × Nat)) :
    ({ desk } : Hosting ν).KeepsAccounts occasions ↔
      ({ desk } : Hosting ν).NeverHarms occasions := by
  have nothing {holds : Session → Prop} :
      ∀ session, desk.session = some session → holds session := by
    intro session present
    cases ended.symm.trans present
  have lawful : ({ desk } : Hosting ν).Lawful := ⟨nothing, nothing⟩
  have accounts : ({ desk } : Hosting ν).Accounts := nothing
  exact lawful.keeps_iff accounts occasions

instance (hosting : Hosting ν) (occasion : Occasion ν) (now : Nat) :
    Decidable (hosting.Harmless occasion now) :=
  inferInstanceAs (Decidable (∀ newcomer ∈ hosting.newcomer? occasion now,
    ∀ session ∈ hosting.desk.session, session.isHost = true → session.mode = .peerToPeer →
      if hosting.messages occasion now = [] then _ else _))

def decidableNeverHarms : (hosting : Hosting ν) → (occasions : List (Occasion ν × Nat)) →
    Decidable (hosting.NeverHarms occasions)
  | _, [] => .isTrue trivial
  | hosting, (occasion, now) :: rest =>
      have := decidableNeverHarms (hosting.after occasion now) rest
      inferInstanceAs (Decidable (_ ∧ _))

instance (hosting : Hosting ν) (occasions : List (Occasion ν × Nat)) :
    Decidable (hosting.NeverHarms occasions) :=
  decidableNeverHarms hosting occasions

/-- Somebody who hosts a session that peers connect to, over a transport that follows a script. -/
def quiet : Desk (Recorded Scripted) :=
  { buffer := Buffer.ofText [], network := { transport := { serves := .peerToPeer } } }

def arrives (event : TransportEvent Update) : Occasion Scripted :=
  .network fun network => (network.emit none event).2

/-- A peer connects, and then the host types a letter. -/
def typed : List (Occasion Scripted × Nat) :=
  [(.call (.host .peerToPeer ⟨1, 5, ⟨.replicate 32 (.ofNat 0), SessionKey.length_zeros⟩⟩) nofun, 0),
    (arrives (.peerConnected "a"), 0), (.round, 10),
    (.buffer (Typing.insertText 0 0 "x".toList).perform, 1000),
    (.call .bufferChanged nofun, 1000)]

/-- Another peer connects before the letter was sent. -/
def crowded : List (Occasion Scripted × Nat) :=
  typed ++ [(arrives (.peerConnected "b"), 1000), (.round, 1010)] ++ .replicate 3 (.round, 2000)

/-- Another peer connects when the letter has been sent. -/
def orderly : List (Occasion Scripted × Nat) :=
  typed ++ .replicate 3 (.round, 2000) ++ [(arrives (.peerConnected "b"), 2000), (.round, 2010)]

/-- Both peers are there in the end, and there was something to tell them. -/
theorem orderly_keepsAccounts :
    quiet.session = none ∧ ({ desk := quiet } : Hosting Scripted).KeepsAccounts orderly ∧
      (({ desk := quiet } : Hosting Scripted).run orderly).made ≠ [] ∧
        ∃ session ∈ (({ desk := quiet } : Hosting Scripted).run orderly).desk.session,
          session.peers = ["a", "b"] :=
  ⟨rfl, (keepsAccounts_iff rfl orderly).2 (by decide +kernel), by decide +kernel,
    by decide +kernel⟩

/-- The first peer is not told the letter, and nothing is pending any more. -/
theorem crowded_loses :
    ∃ session ∈ (({ desk := quiet } : Hosting Scripted).run crowded).desk.session,
      session.isHost = true ∧ session.mode = .peerToPeer ∧ session.outbox.pending = false ∧
        ∃ peer ∈ session.peers,
          ∃ operation ∈ (({ desk := quiet } : Hosting Scripted).run crowded).made,
            operation ∉ (({ desk := quiet } : Hosting Scripted).run crowded).told peer := by
  decide +kernel

end Hosting

end Cowrite
