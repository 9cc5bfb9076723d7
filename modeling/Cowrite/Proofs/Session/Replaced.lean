import Cowrite.Proofs.Session.Quiescence
import Cowrite.Proofs.Session.Tandem

/-!
# Connections that were replaced

A session looks at envelopes about its present client only, and a name that was replaced does not
come back if the transport makes no name twice. So two runs that differ in envelopes about clients
that were replaced, however many and wherever in the mailbox (`Desk.Twins`), are the same to the
user, to the editor and to the transport (`Desk.unmoved_by_replaced`).

What is read at which step differs, as the present client changes in the middle of a poll. The two
runs stay in tandem all the same, because clients that are replaced meanwhile only add to what may
differ (`Desk.isReplaced_of_renames`).
-/

namespace Cowrite

/-! ## Names -/

namespace Outline

variable {ν : Type} {before between after outline : Outline (Logged ν)} {contact : Contact}

/-- The name under which a session calls. -/
def caller (outline : Outline (Logged ν)) : Option ClientId :=
  outline.contact.bind (·.connection.client)

/-- Whether the present name is the one before, or one that was made since. -/
def Renames (before after : Outline (Logged ν)) : Prop :=
  ∃ new, after.network.minted = before.network.minted ++ new ∧
    ∀ client, after.caller = some client → before.caller = some client ∨ client ∈ new

theorem renames_of_same (minted : after.network.minted = before.network.minted)
    (caller : ∀ client, after.caller = some client → before.caller = some client) :
    before.Renames after :=
  ⟨[], by rw [minted, List.append_nil], fun client present => .inl (caller client present)⟩

theorem renames_of_nameless {new : List ClientId}
    (minted : after.network.minted = before.network.minted ++ new)
    (nameless : after.caller = none) : before.Renames after := by
  refine ⟨new, minted, fun client isCaller => ?_⟩
  cases nameless.symm.trans isCaller

theorem Renames.refl (outline : Outline (Logged ν)) : outline.Renames outline :=
  renames_of_same rfl fun _ => id

theorem Renames.trans (first : before.Renames between) (second : between.Renames after) :
    before.Renames after := by
  rcases first with ⟨early, mintedEarly, callerEarly⟩
  rcases second with ⟨late, mintedLate, callerLate⟩
  refine ⟨early ++ late, by rw [mintedLate, mintedEarly, List.append_assoc], ?_⟩
  intro client present
  rcases callerLate client present with old | new
  · rcases callerEarly client old with older | new
    · exact .inl older
    · exact .inr (List.mem_append_left _ new)
  · exact .inr (List.mem_append_right _ new)

theorem Renames.onLine (outline : Outline (Logged ν))
    (change : Line (Logged ν) → Line (Logged ν))
    (minted : ∀ line, (change line).network.minted = line.network.minted)
    (client : ∀ line, (change line).connection.client = line.connection.client) :
    outline.Renames (outline.onLine change) := by
  rw [Outline.onLine]
  cases present : outline.contact with
  | none => exact .refl outline
  | some contact =>
      refine renames_of_same (minted _) fun name isCaller => ?_
      rw [caller, present]
      exact (client _).symm.trans isCaller

variable [Transport ν] (now : Nat)

theorem minted_hangUp (line : Line (Logged ν)) :
    line.hangUp.network.minted = line.network.minted := by
  rw [Line.hangUp]
  split
  · rfl
  · simp [Logged.minted, Transport.disconnect, Request.minted?]

theorem minted_shutDown (line : Line (Logged ν)) :
    line.shutDown.network.minted = line.network.minted :=
  minted_hangUp line.beginLeave

theorem renames_close (outline : Outline (Logged ν)) (notice : Notice) :
    outline.Renames (outline.close notice) := by
  rw [close]
  split
  · exact .refl outline
  · exact renames_of_nameless ((minted_shutDown _).trans (List.append_nil _).symm) rfl

theorem renames_lose (outline : Outline (Logged ν)) : outline.Renames (outline.lose now) := by
  cases present : outline.contact with
  | none =>
      rw [lose, present]
      exact .refl outline
  | some contact =>
      cases ignored : outline.ignores contact with
      | true =>
          rw [lose_of_ignores present ignored]
          exact .refl outline
      | false =>
          have hangs (state : ConnectionState) : outline.Renames (outline.hungUp contact state) :=
            renames_of_nameless ((minted_hangUp _).trans (List.append_nil _).symm) rfl
          rw [lose_of_counts present ignored]
          split
          · exact hangs _
          · exact (hangs _).trans (renames_close _ _)

theorem minted_answer (outline : Outline (Logged ν)) (contact : Contact) :
    (outline.answer contact).2.minted =
      outline.network.minted ++ [(Transport.mintClient outline.network).1] := by
  simp [answer, Logged.minted, Transport.connect, Transport.mintClient, Request.minted?]

theorem renames_dial (outline : Outline (Logged ν)) : outline.Renames (outline.dial now) := by
  cases present : outline.contact with
  | none =>
      rw [dial, present]
      exact .refl outline
  | some contact =>
      cases leaving : contact.connection.leaving with
      | true =>
          rw [dial_of_leaving present leaving]
          exact .refl outline
      | false =>
          have minted := outline.minted_answer contact
          rw [dial_of_staying present leaving]
          rcases answers : outline.answer contact with ⟨result, network⟩
          rw [answers] at minted
          cases result with
          | ok done =>
              refine ⟨_, minted, fun client isCaller => ?_⟩
              exact .inr (List.mem_singleton.2 (Option.some.inj isCaller).symm)
          | error error =>
              have asked : outline.Renames { outline with network } :=
                ⟨_, minted, fun client isCaller => .inl isCaller⟩
              exact asked.trans (renames_lose now _)

theorem renames_act (outline : Outline (Logged ν)) (effect : Effect) :
    outline.Renames (outline.act now effect) := by
  cases effect with
  | tell notice => exact .refl outline
  | resync isDue =>
      refine renames_of_same rfl fun client isCaller => ?_
      simp only [act, caller, Option.bind_map] at isCaller ⊢
      exact isCaller
  | reach state => exact .onLine outline _ (fun _ => rfl) fun _ => rfl
  | confirm => exact .onLine outline _ (fun _ => rfl) fun _ => rfl
  | send message =>
      refine .onLine outline _ (fun line => ?_) fun line => ?_
      · rw [Line.send]
        split
        · rfl
        · simp [Logged.minted, Transport.send, Request.minted?]
      · rcases line.exists_send message with ⟨result, network, sends⟩
        rw [sends]
  | await => exact .refl outline
  | lose => exact renames_lose now outline
  | dial => exact renames_dial now outline
  | close notice => exact renames_close outline notice

theorem renames_run (outline : Outline (Logged ν)) (effects : List Effect) :
    outline.Renames (outline.run now effects) := by
  induction effects generalizing outline with
  | nil => exact .refl outline
  | cons effect rest ih => exact (renames_act now outline effect).trans (ih _)

theorem renames_of_takes {matter : Option Matter} (takes : outline.Takes contact now matter after) :
    outline.Renames after := by
  cases takes with
  | event event client count => exact renames_of_same rfl fun _ => id
  | task task agenda popped count => exact renames_of_same rfl fun _ => id
  | nothing count => exact renames_of_same rfl fun _ => id

theorem renames_of_does {call : Call} (does : outline.Does now call after)
    (stays : call ≠ .vanish) : outline.Renames after := by
  cases does with
  | nothing => exact .refl _
  | bufferClosed => exact renames_close _ _
  | flushNow sends => exact renames_run now _ _
  | leave => exact renames_close _ _
  | takeNotices => exact renames_of_same rfl fun _ => id
  | vanish network => exact absurd rfl stays

/-- A new session makes one name at most. -/
theorem renames_of_opens (opens : outline.Opens now after) (ended : outline.contact = none) :
    outline.Renames after := by
  have named {contact : Contact} {result : Except TransportError Unit} {network : Logged ν}
      (answers : (outline.prepared contact).answer contact = (result, network)) :
      network.minted = outline.network.minted ++
        [(Transport.mintClient (outline.prepared contact).network).1] := by
    have minted := (outline.prepared contact).minted_answer contact
    rw [answers] at minted
    exact minted
  cases opens with
  | declined => exact .refl _
  | refused isNew answers =>
      have minted := named answers
      exact renames_of_nameless minted rfl
  | abandoned isNew answers present =>
      exact renames_of_nameless ((minted_shutDown _).trans (named answers)) rfl
  | begun isNew answers plans role code =>
      refine ⟨_, named answers, fun client isCaller => ?_⟩
      exact .inr (List.mem_singleton.2 (Option.some.inj isCaller).symm)

end Outline

namespace Desk

variable {ν : Type} {desk after : Desk (Logged ν)} {session : Session} {now : Nat}

/-- The present client of the session, if it has one. -/
def caller (desk : Desk ν) : Option ClientId :=
  desk.session.bind (·.connection.client)

/-- Whether a name was made, but is not that of the present client. -/
def isReplaced (desk : Desk (Logged ν)) (client : ClientId) : Bool :=
  desk.network.minted.contains client && desk.caller != some client

theorem caller_outline (desk : Desk (Logged ν)) : desk.outline.caller = desk.caller := by
  rw [Outline.caller, outline, caller]
  cases desk.session <;> rfl

theorem caller_not_replaced (desk : Desk (Logged ν)) {client : ClientId}
    (present : desk.caller = some client) : desk.isReplaced client = false := by
  simp [isReplaced, present]

/-- Whoever is replaced stays so if no name is made twice. -/
theorem isReplaced_of_renames (renames : desk.outline.Renames after.outline)
    (unique : after.network.minted.Nodup) {client : ClientId}
    (replaced : desk.isReplaced client = true) : after.isReplaced client = true := by
  rcases renames with ⟨new, minted, callers⟩
  have minted : after.network.minted = desk.network.minted ++ new := minted
  simp only [isReplaced, Bool.and_eq_true, List.contains_iff_mem, bne_iff_ne] at replaced ⊢
  refine ⟨by rw [minted]; exact List.mem_append_left _ replaced.1, fun isCaller => ?_⟩
  rw [← caller_outline] at isCaller
  rcases callers client isCaller with old | again
  · exact replaced.2 (desk.caller_outline ▸ old)
  · rw [minted] at unique
    exact (List.nodup_append.1 unique).2.2 client replaced.1 client again rfl

theorem minted_nodup_of_renames (renames : desk.outline.Renames after.outline)
    (unique : after.network.minted.Nodup) : desk.network.minted.Nodup := by
  rcases renames with ⟨new, minted, _⟩
  have minted : after.network.minted = desk.network.minted ++ new := minted
  rw [minted] at unique
  exact (List.nodup_append.1 unique).1

variable [Transport ν]

theorem renames_pollOnce (desk : Desk (Logged ν)) (now : Nat) :
    desk.outline.Renames (desk.pollOnce now).2.outline := by
  rcases Option.eq_none_or_eq_some desk.session with ended | ⟨session, present⟩
  · rcases desk.exists_takeMatter_snd now with ⟨agenda, taken⟩
    have looked : desk.nextEvent.2 = desk := by rw [nextEvent, ended]
    have still : (desk.takeMatter now).2 = { desk with agenda } := by rw [taken, looked]
    have polled : (desk.pollOnce now).2 = (desk.takeMatter now).2 := by
      cases found : (desk.takeMatter now).1 with
      | none => rw [pollOnce_of_none found]
      | some matter =>
          rw [pollOnce_of_matter found]
          exact deal_of_ended (by rw [still]; exact ended) matter now
    rw [polled, still]
    exact Outline.renames_of_same rfl fun _ => id
  · have takes := Outline.renames_of_takes now (outline_takeMatter present now)
    rcases outline_pollOnce present now with ⟨_, polled⟩ | ⟨matter, effects, _, _, polled⟩
    · rw [polled]
      exact takes
    · rw [polled]
      exact takes.trans (Outline.renames_run now _ effects)

theorem renames_perform (lives : desk.Lives) {call : Call} (single : call ≠ .poll) (now : Nat) :
    desk.outline.Renames (call.perform desk now).outline := by
  rcases Option.eq_none_or_eq_some desk.session with ended | ⟨session, present⟩
  · have alone : desk.outline.contact = none := congrArg (Option.map _) ended
    cases begins : call.number? with
    | some id =>
        exact Outline.renames_of_opens now (opens_perform (by simp [begins]) desk now) alone
    | none =>
        rcases perform_of_ended ended (lives.tended.idle ended) begins now with
          ⟨nobody, _, network, _⟩
        have minted := congrArg Logged.minted network
        refine Outline.renames_of_nameless (minted.trans (List.append_nil _).symm) ?_
        rw [caller_outline, caller, nobody]
        rfl
  · by_cases vanishes : call = .vanish
    · subst vanishes
      rw [Call.perform, vanish, present]
      exact Outline.renames_of_nameless (List.append_nil _).symm rfl
    · exact Outline.renames_of_does now (does_perform present single now) vanishes

end Desk

/-! ## Reading -/

/-- Up to the first envelope about the present client there is nothing but what may be hidden. -/
theorem visible_eq_of_split {hidden : ClientId → Bool} {present : Option ClientId}
    (shown : ∀ client, present = some client → hidden client = false)
    {stale rest : List (Envelope Update)}
    (foreign : ∀ envelope ∈ stale, present ≠ some envelope.client)
    (own : ∀ envelope, rest.head? = some envelope → present = some envelope.client) :
    (visible hidden (stale ++ rest)).dropWhile (fun envelope => present != some envelope.client) =
      visible hidden rest := by
  have passed : ∀ envelope ∈ visible hidden stale, (present != some envelope.client) = true := by
    intro envelope seen
    simpa using foreign envelope (List.mem_filter.1 seen).1
  rw [visible_append, List.dropWhile_append_of_pos passed]
  cases rest with
  | nil => rfl
  | cons first others =>
      have isOwn := own first rfl
      have stays : visible hidden (first :: others) = first :: visible hidden others :=
        List.filter_cons_of_pos (by simp [shown _ isOwn])
      rw [stays, List.dropWhile_cons_of_neg (by simp [isOwn])]

theorem visible_cons_of_shown {hidden : ClientId → Bool} {envelope : Envelope Update}
    (shown : hidden envelope.client = false) (rest : List (Envelope Update)) :
    visible hidden (envelope :: rest) = envelope :: visible hidden rest :=
  List.filter_cons_of_pos (by simp [shown])

namespace Line

variable {ν : Type} [Transport ν] {alike : ν → ν → Prop} {hidden : ClientId → Bool}
  {left right : Line (Logged ν)}

/-- The same event comes next, whatever is hidden of others. -/
theorem Tandem.nextEvent (blind : Transport.Blind alike)
    (tandem : Tandem (Logged.Like alike hidden) left right)
    (shown : ∀ client, left.connection.client = some client → hidden client = false) :
    Agree (Tandem (Logged.Like alike hidden)) left.nextEvent right.nextEvent := by
  rcases tandem with ⟨network, rfl, like⟩
  let other : Line (Logged ν) := { left with network }
  rcases left.exists_nextEvent with ⟨stale, rest, count, inbox, foreign, own, taken, remains⟩
  rcases other.exists_nextEvent with
    ⟨staleToo, restToo, countToo, inboxToo, foreignToo, ownToo, takenToo, remainsToo⟩
  have waits := like.waits left.connection.mailbox
  rw [inbox, show Transport.inbox network left.connection.mailbox = _ from inboxToo] at waits
  have same : visible hidden rest = visible hidden restToo := by
    rw [← visible_eq_of_split shown foreign own, waits]
    exact visible_eq_of_split shown foreignToo ownToo
  have rests : rest.head? = restToo.head? ∧ visible hidden rest.tail =
      visible hidden restToo.tail := by
    cases rest with
    | nil =>
        cases restToo with
        | nil => exact ⟨rfl, rfl⟩
        | cons first others =>
            rw [visible_cons_of_shown (shown _ (ownToo first rfl))] at same
            cases same
    | cons first others =>
        rw [visible_cons_of_shown (shown _ (own first rfl))] at same
        cases restToo with
        | nil => cases same
        | cons second more =>
            rw [visible_cons_of_shown (shown _ (ownToo second rfl))] at same
            rcases List.cons.inj same with ⟨rfl, tails⟩
            exact ⟨rfl, tails⟩
  rw [taken, show ({ left with network } : Line (Logged ν)).nextEvent = _ from takenToo]
  refine ⟨rests.1, _, rfl, like.discard blind ?_⟩
  rw [inbox, show Transport.inbox network left.connection.mailbox = _ from inboxToo, remains,
    remainsToo]
  exact rests.2

end Line

namespace Desk

variable {ν : Type} [Transport ν] {alike : ν → ν → Prop} {hidden : ClientId → Bool}
  {left right : Desk (Logged ν)} {now : Nat}

theorem Tandem.nextEvent (blind : Transport.Blind alike)
    (tandem : Tandem (Logged.Like alike hidden) left right)
    (shown : ∀ client, left.caller = some client → hidden client = false) :
    Agree (Tandem (Logged.Like alike hidden)) left.nextEvent right.nextEvent := by
  simp only [Desk.nextEvent, tandem.session_eq]
  cases present : left.session with
  | none => exact ⟨rfl, tandem⟩
  | some session =>
      have visible : ∀ client, (left.line session).connection.client = some client →
          hidden client = false := by
        intro client isClient
        exact shown client (by rw [caller, present]; exact isClient)
      rcases ((tandem.line session).nextEvent blind visible).exists_eq with
        ⟨envelope, one, two, first, second, taken⟩
      simp only [first, second]
      exact ⟨rfl, tandem.withLine session taken⟩

theorem Tandem.takeMatter (blind : Transport.Blind alike)
    (tandem : Tandem (Logged.Like alike hidden) left right)
    (shown : ∀ client, left.caller = some client → hidden client = false) (now : Nat) :
    Agree (Tandem (Logged.Like alike hidden)) (left.takeMatter now) (right.takeMatter now) := by
  rcases (tandem.nextEvent blind shown).exists_eq with ⟨event, one, two, first, second, looked⟩
  simp only [Desk.takeMatter, first, second]
  cases event with
  | some event => exact ⟨rfl, looked⟩
  | none =>
      rcases looked with ⟨network, rfl, like⟩
      simp only
      split
      · exact ⟨rfl, network, rfl, like⟩
      · exact ⟨rfl, network, rfl, like⟩

/-- Desks in tandem are as busy as each other, and stay in tandem. -/
theorem Tandem.pollOnce (blind : Transport.Blind alike)
    (tandem : Tandem (Logged.Like alike hidden) left right)
    (shown : ∀ client, left.caller = some client → hidden client = false) (now : Nat) :
    Agree (Tandem (Logged.Like alike hidden)) (left.pollOnce now) (right.pollOnce now) := by
  have takes := tandem.takeMatter blind shown now
  have found := takes.answer
  cases isLeft : (left.takeMatter now).1 with
  | none =>
      rw [isLeft] at found
      rw [pollOnce_of_none isLeft, pollOnce_of_none found.symm]
      exact ⟨rfl, takes.like⟩
  | some matter =>
      rw [isLeft] at found
      rw [pollOnce_of_matter isLeft, pollOnce_of_matter found.symm]
      exact ⟨rfl, takes.like.deal (Logged.steady blind hidden) matter now⟩

/-! ## Runs that differ in what was replaced -/

/-- Two runs that differ only in envelopes about clients that were replaced. Between any two rounds
of a poll others may change the buffer and the transport as they like, as long as they change both
alike but for such envelopes. -/
inductive Twins (alike : ν → ν → Prop) : Desk (Logged ν) → Desk (Logged ν) → Prop where
  | fresh {desk : Desk (Logged ν)} (ended : desk.session = none) (empty : desk.agenda = {}) :
      Twins alike desk desk
  | buffer {left right : Desk (Logged ν)} (twins : Twins alike left right) (buffer : Buffer) :
      Twins alike { left with buffer } { right with buffer }
  | networks {left right : Desk (Logged ν)} (twins : Twins alike left right) {one two : ν}
      (same : alike one two)
      (waits : ∀ address, visible left.isReplaced (Transport.inbox one address) =
        visible left.isReplaced (Transport.inbox two address)) :
      Twins alike { left with network := { left.network with transport := one } }
        { right with network := { right.network with transport := two } }
  | calls {left right : Desk (Logged ν)} (twins : Twins alike left right) (call : Call)
      (single : call ≠ .poll) (now : Nat) :
      Twins alike (call.perform left now) (call.perform right now)
  | rounds {left right : Desk (Logged ν)} (twins : Twins alike left right) (now : Nat) :
      Twins alike (left.pollOnce now).2 (right.pollOnce now).2
  /-- Both are polled until there is nothing to do. -/
  | polls {left right leftAfter rightAfter : Desk (Logged ν)} (twins : Twins alike left right)
      {now : Nat} {matters others : List Matter} (first : Polls now left matters leftAfter)
      (second : Polls now right others rightAfter) : Twins alike leftAfter rightAfter

theorem Polls.lives {desk after : Desk ν} {matters : List Matter}
    (polls : Polls now desk matters after) (lives : desk.Lives) : after.Lives := by
  induction polls with
  | rests nothing =>
      have rests := lives.turns now
      rw [pollOnce_of_none nothing] at rests
      exact rests
  | deals found further ih =>
      have deals := lives.turns now
      rw [pollOnce_of_matter found] at deals
      exact ih deals

theorem Twins.lives (twins : Twins alike left right) : left.Lives ∧ right.Lives := by
  induction twins with
  | fresh ended empty => exact ⟨.fresh ended empty, .fresh ended empty⟩
  | @buffer left right twins buffer ih =>
      exact ⟨ih.1.carries buffer left.network, ih.2.carries buffer right.network⟩
  | @networks left right twins one two same waits ih =>
      exact ⟨ih.1.carries left.buffer _, ih.2.carries right.buffer _⟩
  | calls twins call single now ih => exact ⟨ih.1.calls call now, ih.2.calls call now⟩
  | rounds twins now ih => exact ⟨ih.1.turns now, ih.2.turns now⟩
  | polls twins first second ih => exact ⟨first.lives ih.1, second.lives ih.2⟩

/-- Over a transport that answers little, both runs can be polled until there is nothing to do. -/
theorem Twins.poll (modest : Transport.Modest ν) (twins : Twins alike left right) (now : Nat) :
    Twins alike (left.poll now) (right.poll now) := by
  rcases (twins.lives.1.quiesces (Logged.modest modest) now).ends with ⟨matters, first, _⟩
  rcases (twins.lives.2.quiesces (Logged.modest modest) now).ends with ⟨others, second, _⟩
  exact .polls twins first second

/-- Whether two desks are in tandem, but for envelopes about clients that one has replaced. -/
def Matched (alike : ν → ν → Prop) (left right : Desk (Logged ν)) : Prop :=
  Tandem (Logged.Like alike left.isReplaced) left right

/-- What was in tandem stays matched, whoever is replaced meanwhile. -/
theorem Matched.of_tandem {leftAfter rightAfter : Desk (Logged ν)}
    (tandem : Tandem (Logged.Like alike left.isReplaced) leftAfter rightAfter)
    (renames : left.outline.Renames leftAfter.outline)
    (unique : leftAfter.network.minted.Nodup) : Matched alike leftAfter rightAfter := by
  rcases tandem with ⟨network, rfl, like⟩
  exact ⟨network, rfl, like.mono fun _ => isReplaced_of_renames renames unique⟩

theorem Matched.pollOnce (blind : Transport.Blind alike) (matched : Matched alike left right)
    (now : Nat) (unique : (left.pollOnce now).2.network.minted.Nodup) :
    Matched alike (left.pollOnce now).2 (right.pollOnce now).2 :=
  .of_tandem (Tandem.pollOnce blind matched (fun _ => left.caller_not_replaced) now).like
    (left.renames_pollOnce now) unique

theorem Polls.renames {desk after : Desk (Logged ν)} {matters : List Matter}
    (polls : Polls now desk matters after) : desk.outline.Renames after.outline := by
  induction polls with
  | @rests desk nothing =>
      have rests := desk.renames_pollOnce now
      rw [pollOnce_of_none nothing] at rests
      exact rests
  | @deals desk after matter matters found further ih =>
      have deals := desk.renames_pollOnce now
      rw [pollOnce_of_matter found] at deals
      exact deals.trans ih

/-- Matched desks deal with the same until there is nothing to do. -/
theorem Matched.polls (blind : Transport.Blind alike) (matched : Matched alike left right)
    {leftAfter rightAfter : Desk (Logged ν)} {matters others : List Matter}
    (first : Polls now left matters leftAfter) (second : Polls now right others rightAfter)
    (unique : leftAfter.network.minted.Nodup) : Matched alike leftAfter rightAfter := by
  induction first generalizing right others with
  | @rests left nothing =>
      have rests := matched.pollOnce blind now
      have found := (Tandem.takeMatter blind matched (fun _ => left.caller_not_replaced) now).answer
      cases second with
      | rests nothingToo =>
          rw [pollOnce_of_none nothing, pollOnce_of_none nothingToo] at rests
          exact rests unique
      | deals foundToo further => cases nothing.symm.trans (found.trans foundToo)
  | @deals left leftAfter matter matters dealt further ih =>
      have deals := matched.pollOnce blind now
      have found := (Tandem.takeMatter blind matched (fun _ => left.caller_not_replaced) now).answer
      cases second with
      | rests nothing => cases dealt.symm.trans (found.trans nothing)
      | deals dealtToo furtherToo =>
          cases dealt.symm.trans (found.trans dealtToo)
          rw [pollOnce_of_matter dealt, pollOnce_of_matter dealtToo] at deals
          exact ih (deals (minted_nodup_of_renames further.renames unique)) furtherToo unique

theorem Twins.matched (blind : Transport.Blind alike) (twins : Twins alike left right)
    (unique : left.network.minted.Nodup) : Matched alike left right := by
  induction twins with
  | @fresh desk ended empty =>
      exact ⟨desk.network, rfl, rfl, blind.refl _, fun _ => rfl⟩
  | @buffer left right twins buffer ih =>
      rcases ih unique with ⟨network, rfl, like⟩
      exact ⟨network, rfl, like⟩
  | @networks left right twins one two same waits ih =>
      rcases ih unique with ⟨network, rfl, like⟩
      exact ⟨_, rfl, like.requests, same, waits⟩
  | @calls left right twins call single now ih =>
      have renames := renames_perform twins.lives.1 single now
      have before := ih (minted_nodup_of_renames renames unique)
      exact .of_tandem (Tandem.perform (Logged.steady blind _) before single now) renames unique
  | @rounds left right twins now ih =>
      have before := ih (minted_nodup_of_renames (left.renames_pollOnce now) unique)
      exact before.pollOnce blind now unique
  | polls twins first second ih =>
      exact (ih (minted_nodup_of_renames first.renames unique)).polls blind first second unique

/-- What comes from connections that were replaced changes nothing: as long as the transport makes
no name twice, the participant with its session and its notices, the buffer with all that was
written to it, and everything that was asked of the transport are the same, and the same is to be
dealt with next. -/
theorem unmoved_by_replaced (blind : Transport.Blind alike) (twins : Twins alike left right)
    (unique : left.network.minted.Nodup) :
    left.toParticipant = right.toParticipant ∧ left.buffer = right.buffer ∧
      left.network.requests = right.network.requests ∧
        ∀ now, (left.takeMatter now).1 = (right.takeMatter now).1 := by
  have matched := twins.matched blind unique
  have next (now : Nat) :=
    (Tandem.takeMatter blind matched (fun _ => left.caller_not_replaced) now).answer
  rcases matched with ⟨network, rfl, like⟩
  exact ⟨rfl, rfl, like.requests, next⟩

/-- Somebody with a word in the buffer. -/
def wary : Desk (Logged Scripted) :=
  { buffer := Buffer.ofText "mine".toList, network := { transport := { serves := .relay } } }

/-- An event arrives over the newest connection. -/
def meeting (desk : Desk (Logged Scripted)) (event : TransportEvent Update) :
    Desk (Logged Scripted) :=
  { desk with network := { desk.network with
      transport := (desk.network.transport.emit none event).2 } }

/-- The first connection is lost, and a second one is being made. -/
def rejoined : Desk (Logged Scripted) :=
  let joined := (Call.join "AAt3c3M6Ly9yZWxheRAwMDAwMDAwMDAwMDAwMDA1AA" 1).perform wary 0
  (((((joined.meeting .connected).poll 0).meeting .disconnected).poll 10).poll 1010)

/-- A state comes over the first connection after all. -/
def haunted : Desk (Logged Scripted) :=
  let ghost := (({ id := 9 } : Replica).setText "ghost".toList).fullState
  let transport := rejoined.network.transport
  { rejoined with network := { rejoined.network with
      transport := { transport with
        mail := (transport.mail.deliver 0 ⟨⟨"mock-1"⟩, .syncResponse ghost⟩).2 } } }

theorem twins_meeting {desk : Desk (Logged Scripted)}
    (twins : Twins Scripted.Alike desk desk) (event : TransportEvent Update) :
    Twins Scripted.Alike (desk.meeting event) (desk.meeting event) :=
  twins.networks (Scripted.blind.refl _) fun _ => rfl

theorem twins_haunted : Twins Scripted.Alike haunted rejoined := by
  have modest := Scripted.silent.modest
  have start : Twins Scripted.Alike wary wary := .fresh rfl rfl
  have joined := start.calls (.join "AAt3c3M6Ly9yZWxheRAwMDAwMDAwMDAwMDAwMDA1AA" 1) nofun 0
  have linked := (twins_meeting joined .connected).poll modest 0
  have same : Twins Scripted.Alike rejoined rejoined :=
    ((twins_meeting linked .disconnected).poll modest 10).poll modest 1010
  let mail := rejoined.network.transport.mail
  have replaced : rejoined.isReplaced ⟨"mock-1"⟩ = true := by decide +kernel
  have alike : Scripted.Alike haunted.network.transport rejoined.network.transport := by
    refine ⟨mail, rfl, ?_, fun other => mail.isOpen_deliver 0 other _⟩
    simp [haunted, mail, PostOffice.deliver, PostOffice.update]
  have hidden (address : Address) :
      visible rejoined.isReplaced (Transport.inbox haunted.network address) =
        visible rejoined.isReplaced (Transport.inbox rejoined.network address) := by
    refine (congrArg (visible _) (mail.inbox_deliver 0 address _)).trans ?_
    split
    · rw [visible_append]
      simp [visible, replaced, mail, Transport.inbox]
    · rfl
  exact same.networks alike hidden

/-- The state of a ghost waits for the one, nothing for the other, and the two go on the same. -/
theorem haunted_unmoved :
    (Transport.inbox haunted.network 0).length = 1 ∧ Transport.inbox rejoined.network 0 = [] ∧
      (haunted.poll 1020).network.minted = [⟨"mock-1"⟩, ⟨"mock-2"⟩] ∧
      (haunted.poll 1020).toParticipant = (rejoined.poll 1020).toParticipant ∧
      (haunted.poll 1020).buffer = (rejoined.poll 1020).buffer ∧
      (haunted.poll 1020).network.requests = (rejoined.poll 1020).network.requests := by
  have twins := twins_haunted.poll Scripted.silent.modest 1020
  have minted : (haunted.poll 1020).network.minted = [⟨"mock-1"⟩, ⟨"mock-2"⟩] := by
    decide +kernel
  have unique : (haunted.poll 1020).network.minted.Nodup := by
    rw [minted]
    decide
  rcases unmoved_by_replaced Scripted.blind twins unique with
    ⟨participant, buffer, requests, _⟩
  exact ⟨by decide +kernel, by decide +kernel, minted, participant, buffer, requests⟩

end Desk

end Cowrite
