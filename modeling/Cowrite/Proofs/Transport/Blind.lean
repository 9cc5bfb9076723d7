import Cowrite.Proofs.Transport.Logged
import Cowrite.Proofs.Transport.Modest

/-!
# Transports that do not look into mailboxes

A transport puts events into mailboxes, and it is the session that takes them out. So two transports
that differ in nothing but what waits in their mailboxes do and answer the same, and whatever comes
into a mailbox of the one comes into that of the other (`Transport.Blind`).
-/

namespace Cowrite

/-- Two answers that are the same, and come with things that are like each other. -/
structure Agree {α σ : Type} (like : σ → σ → Prop) (left right : α × σ) : Prop where
  answer : left.1 = right.1
  like : like left.2 right.2

theorem Agree.exists_eq {α σ : Type} {like : σ → σ → Prop} {left right : α × σ}
    (agree : Agree like left right) :
    ∃ answer one two, left = (answer, one) ∧ right = (answer, two) ∧ like one two :=
  ⟨left.1, left.2, right.2, rfl, by rw [agree.answer], agree.like⟩

namespace Transport

variable {ν : Type} [Transport ν]

/-- Two transports that go on alike: what comes into a mailbox of one comes into that of the
other. -/
structure Together (alike : ν → ν → Prop) (left right leftAfter rightAfter : ν) : Prop where
  alike : alike leftAfter rightAfter
  comes : ∀ address, ∃ new,
    Transport.inbox leftAfter address = Transport.inbox left address ++ new ∧
      Transport.inbox rightAfter address = Transport.inbox right address ++ new

theorem Together.of_inbox_eq {alike : ν → ν → Prop} {left right leftAfter rightAfter : ν}
    (same : alike leftAfter rightAfter)
    (first : ∀ address, Transport.inbox leftAfter address = Transport.inbox left address)
    (second : ∀ address, Transport.inbox rightAfter address = Transport.inbox right address) :
    Together alike left right leftAfter rightAfter :=
  ⟨same, fun address => ⟨[], by rw [first, List.append_nil], by rw [second, List.append_nil]⟩⟩

theorem Together.refl {alike : ν → ν → Prop} {left right : ν} (same : alike left right) :
    Together alike left right left right :=
  .of_inbox_eq same (fun _ => rfl) fun _ => rfl

theorem Together.trans {alike : ν → ν → Prop} {left right one two leftAfter rightAfter : ν}
    (first : Together alike left right one two)
    (second : Together alike one two leftAfter rightAfter) :
    Together alike left right leftAfter rightAfter := by
  refine ⟨second.alike, fun address => ?_⟩
  rcases first.comes address with ⟨early, leftEarly, rightEarly⟩
  rcases second.comes address with ⟨late, leftLate, rightLate⟩
  exact ⟨early ++ late, by rw [leftLate, leftEarly, List.append_assoc],
    by rw [rightLate, rightEarly, List.append_assoc]⟩

/-- Whether transports that are alike but for what waits in their mailboxes stay so, and answer the
same. -/
structure Blind (alike : ν → ν → Prop) : Prop where
  refl : ∀ network, alike network network
  mode : ∀ {left right}, alike left right → Transport.mode left = Transport.mode right
  openBox : ∀ {left right}, alike left right →
    (Transport.openBox left).1 = (Transport.openBox right).1 ∧
      Together alike left right (Transport.openBox left).2 (Transport.openBox right).2
  mintClient : ∀ {left right}, alike left right →
    (Transport.mintClient left).1 = (Transport.mintClient right).1 ∧
      Together alike left right (Transport.mintClient left).2 (Transport.mintClient right).2
  connect : ∀ {left right}, alike left right → ∀ client target key address,
    (Transport.connect left client target key address).1 =
        (Transport.connect right client target key address).1 ∧
      Together alike left right (Transport.connect left client target key address).2
        (Transport.connect right client target key address).2
  disconnect : ∀ {left right}, alike left right → ∀ client,
    Together alike left right (Transport.disconnect left client)
      (Transport.disconnect right client)
  send : ∀ {left right}, alike left right → ∀ client message,
    (Transport.send left client message).1 = (Transport.send right client message).1 ∧
      Together alike left right (Transport.send left client message).2
        (Transport.send right client message).2
  /-- However many events are taken out. -/
  discard : ∀ {left right}, alike left right → ∀ address first second,
    alike (Transport.discard left address first) (Transport.discard right address second)
  closeBox : ∀ {left right}, alike left right → ∀ address,
    alike (Transport.closeBox left address) (Transport.closeBox right address)
  inbox_discard : ∀ (network : ν) address count other,
    Transport.inbox (Transport.discard network address count) other =
      if other = address then (Transport.inbox network other).drop count
      else Transport.inbox network other
  inbox_closeBox : ∀ (network : ν) address other,
    Transport.inbox (Transport.closeBox network address) other =
      if other = address then [] else Transport.inbox network other

/-- Whether transports that are like each other answer the same, and stay like each other. -/
structure Steady (like : ν → ν → Prop) : Prop where
  mode : ∀ {left right}, like left right → Transport.mode left = Transport.mode right
  openBox : ∀ {left right}, like left right →
    Agree like (Transport.openBox left) (Transport.openBox right)
  mintClient : ∀ {left right}, like left right →
    Agree like (Transport.mintClient left) (Transport.mintClient right)
  connect : ∀ {left right}, like left right → ∀ client target key address,
    Agree like (Transport.connect left client target key address)
      (Transport.connect right client target key address)
  disconnect : ∀ {left right}, like left right → ∀ client,
    like (Transport.disconnect left client) (Transport.disconnect right client)
  send : ∀ {left right}, like left right → ∀ client message,
    Agree like (Transport.send left client message) (Transport.send right client message)
  /-- Everything that waits is thrown away. -/
  clear : ∀ {left right}, like left right → ∀ address,
    like (Transport.discard left address (Transport.inbox left address).length)
      (Transport.discard right address (Transport.inbox right address).length)
  closeBox : ∀ {left right}, like left right → ∀ address,
    like (Transport.closeBox left address) (Transport.closeBox right address)

end Transport

/-! ## Transports that are alike but for some envelopes -/

/-- The envelopes that are not about hidden clients. -/
def visible (hidden : ClientId → Bool) (waiting : List (Envelope Update)) :
    List (Envelope Update) :=
  waiting.filter fun envelope => !hidden envelope.client

theorem visible_append (hidden : ClientId → Bool) (front back : List (Envelope Update)) :
    visible hidden (front ++ back) = visible hidden front ++ visible hidden back :=
  List.filter_append front back

/-- What is hidden with more clients is hidden. -/
theorem visible_eq_of_forall {hidden more : ClientId → Bool}
    (wider : ∀ client, hidden client = true → more client = true)
    {left right : List (Envelope Update)} (same : visible hidden left = visible hidden right) :
    visible more left = visible more right := by
  have narrowed (waiting : List (Envelope Update)) :
      visible more (visible hidden waiting) = visible more waiting := by
    rw [visible, visible, visible, List.filter_filter]
    apply List.filter_congr
    intro envelope _
    cases covered : hidden envelope.client with
    | false => simp
    | true => simp [wider _ covered]
  rw [← narrowed left, same, narrowed]

namespace Logged

variable {ν : Type} [Transport ν] {alike : ν → ν → Prop} {hidden : ClientId → Bool}

/-- Whether two transports were asked the same, and are alike but for envelopes about hidden
clients. -/
structure Like (alike : ν → ν → Prop) (hidden : ClientId → Bool) (left right : Logged ν) :
    Prop where
  requests : left.requests = right.requests
  alike : alike left.transport right.transport
  waits : ∀ address, visible hidden (Transport.inbox left address) =
    visible hidden (Transport.inbox right address)

variable {left right : Logged ν}

theorem Like.mono {more : ClientId → Bool}
    (wider : ∀ client, hidden client = true → more client = true)
    (like : Like alike hidden left right) : Like alike more left right :=
  ⟨like.requests, like.alike, fun address => visible_eq_of_forall wider (like.waits address)⟩

theorem Like.together (like : Like alike hidden left right) {one two : ν}
    (together : Transport.Together alike left.transport right.transport one two)
    {requests more : List Request} (same : requests = more) :
    Like alike hidden ⟨one, requests⟩ ⟨two, more⟩ := by
  refine ⟨same, together.alike, fun address => ?_⟩
  rcases together.comes address with ⟨new, first, second⟩
  have before := like.waits address
  change visible hidden (Transport.inbox one address) = visible hidden (Transport.inbox two address)
  rw [first, second, visible_append, visible_append]
  exact congrArg (· ++ visible hidden new) before

theorem Like.discard (blind : Transport.Blind alike) (like : Like alike hidden left right)
    {address : Address} {first second : Nat}
    (same : visible hidden ((Transport.inbox left address).drop first) =
      visible hidden ((Transport.inbox right address).drop second)) :
    Like alike hidden (Transport.discard left address first)
      (Transport.discard right address second) := by
  refine ⟨like.requests, blind.discard like.alike address first second, fun other => ?_⟩
  change visible hidden (Transport.inbox (Transport.discard left.transport address first) other) =
    visible hidden (Transport.inbox (Transport.discard right.transport address second) other)
  rw [blind.inbox_discard, blind.inbox_discard]
  by_cases isAddress : other = address
  · subst isAddress
    rw [if_pos rfl, if_pos rfl]
    exact same
  · rw [if_neg isAddress, if_neg isAddress]
    exact like.waits other

theorem steady (blind : Transport.Blind alike) (hidden : ClientId → Bool) :
    Transport.Steady (Like alike hidden) where
  mode like := blind.mode like.alike
  openBox like :=
    have opens := blind.openBox like.alike
    ⟨opens.1, like.together opens.2 like.requests⟩
  mintClient {left right} like := by
    have mints := blind.mintClient like.alike
    have logged : left.requests ++ [.name (Transport.mintClient left.transport).1] =
        right.requests ++ [.name (Transport.mintClient right.transport).1] := by
      rw [like.requests, mints.1]
    exact ⟨mints.1, like.together mints.2 logged⟩
  connect like client target key address :=
    have connects := blind.connect like.alike client target key address
    ⟨connects.1, like.together connects.2 (congrArg (· ++ _) like.requests)⟩
  disconnect like client :=
    like.together (blind.disconnect like.alike client) (congrArg (· ++ _) like.requests)
  send like client message :=
    have sends := blind.send like.alike client message
    ⟨sends.1, like.together sends.2 (congrArg (· ++ _) like.requests)⟩
  clear like address := like.discard blind (by rw [List.drop_length, List.drop_length])
  closeBox {left right} like address := by
    refine ⟨like.requests, blind.closeBox like.alike address, fun other => ?_⟩
    change visible hidden (Transport.inbox (Transport.closeBox left.transport address) other) =
      visible hidden (Transport.inbox (Transport.closeBox right.transport address) other)
    rw [blind.inbox_closeBox, blind.inbox_closeBox]
    by_cases isAddress : other = address
    · rw [if_pos isAddress, if_pos isAddress]
    · rw [if_neg isAddress, if_neg isAddress]
      exact like.waits other

theorem modest (modest : Transport.Modest ν) : Transport.Modest (Logged ν) where
  discard_zero network address :=
    congrArg (fun transport => { network with transport }) (modest.discard_zero _ address)
  inbox_discard network := modest.inbox_discard network.transport
  mints network := modest.mints network.transport
  connects network := modest.connects network.transport
  sends network := modest.sends network.transport

end Logged

/-! ## Post offices -/

namespace PostOffice

variable {π : Type} {left right : PostOffice π}

theorem inbox_openBox (office : PostOffice π) (address : Address) :
    office.openBox.2.inbox address = office.inbox address := by
  rw [inbox, inbox, box_openBox]
  split
  case isTrue isNew =>
    rw [isNew]
    simp [openBox, box]
  case isFalse => rfl

theorem inbox_closeBox (office : PostOffice π) (address other : Address) :
    (office.closeBox address).inbox other =
      if other = address then [] else office.inbox other := by
  rw [inbox, closeBox, box_update _ _ _ rfl]
  split
  · rfl
  · rfl

/-- Whether two post offices have opened the same mailboxes, and closed the same. -/
structure SameDoors (left right : PostOffice π) : Prop where
  length : left.boxes.length = right.boxes.length
  isOpen : ∀ address, (left.box address).isOpen = (right.box address).isOpen

theorem SameDoors.openBox (same : left.SameDoors right) :
    left.openBox.1 = right.openBox.1 ∧ left.openBox.2.SameDoors right.openBox.2 := by
  refine ⟨same.length, ?_, fun address => ?_⟩
  · simp [PostOffice.openBox, same.length]
  · have first : left.openBox.1 = right.openBox.1 := same.length
    rw [box_openBox, box_openBox, first]
    split
    · rfl
    · exact same.isOpen address

theorem SameDoors.deliver (same : left.SameDoors right) (address : Address)
    (envelope : Envelope π) :
    (left.deliver address envelope).2.SameDoors (right.deliver address envelope).2 := by
  refine ⟨?_, fun other => ?_⟩
  · simpa [PostOffice.deliver, update] using same.length
  · rw [isOpen_deliver, isOpen_deliver]
    exact same.isOpen other

theorem SameDoors.discard (same : left.SameDoors right) (address : Address)
    (first second : Nat) :
    (left.discard address first).SameDoors (right.discard address second) := by
  refine ⟨?_, fun other => ?_⟩
  · simpa [PostOffice.discard, update] using same.length
  · rw [isOpen_discard, isOpen_discard]
    exact same.isOpen other

theorem SameDoors.closeBox (same : left.SameDoors right) (address : Address) :
    (left.closeBox address).SameDoors (right.closeBox address) := by
  refine ⟨?_, fun other => ?_⟩
  · simpa [PostOffice.closeBox, update] using same.length
  · rw [PostOffice.closeBox, PostOffice.closeBox, box_update _ _ _ rfl, box_update _ _ _ rfl]
    split
    · rfl
    · exact same.isOpen other

end PostOffice

/-! ## The transport that follows a script -/

namespace Scripted

/-- Whether two scripts are alike but for what waits in the mailboxes. -/
def Alike (left right : Scripted) : Prop :=
  ∃ mail, right = { left with mail } ∧ left.mail.SameDoors mail

variable {left right : Scripted}

theorem overhear_withMail (scripted : Scripted) (mail : PostOffice Update) (update : Update) :
    ({ scripted with mail } : Scripted).overhear update =
      { scripted.overhear update with mail } := by
  rw [overhear, overhear]
  cases scripted.listener.apply update with
  | error error => rfl
  | ok listener => rfl

theorem overhearMessage_withMail (scripted : Scripted) (mail : PostOffice Update)
    (message : OutboundMessage Update) :
    ({ scripted with mail } : Scripted).overhearMessage message =
      { scripted.overhearMessage message with mail } := by
  cases message with
  | syncRequest => rfl
  | update update => exact scripted.overhear_withMail mail update
  | fullState update => exact scripted.overhear_withMail mail update

theorem blind : Transport.Blind Alike where
  refl network := ⟨network.mail, rfl, rfl, fun _ => rfl⟩
  mode := by
    rintro left right ⟨mail, rfl, doors⟩
    rfl
  openBox := by
    rintro left right ⟨mail, rfl, doors⟩
    exact ⟨doors.openBox.1, .of_inbox_eq ⟨_, rfl, doors.openBox.2⟩ left.mail.inbox_openBox
      mail.inbox_openBox⟩
  mintClient := by
    rintro left right ⟨mail, rfl, doors⟩
    exact ⟨rfl, .of_inbox_eq ⟨mail, rfl, doors⟩ (fun _ => rfl) fun _ => rfl⟩
  connect := by
    rintro left right ⟨mail, rfl, doors⟩ client target key address
    simp only [Transport.connect, connect]
    split
    · exact ⟨rfl, .of_inbox_eq ⟨mail, rfl, doors⟩ (fun _ => rfl) fun _ => rfl⟩
    · exact ⟨rfl, .of_inbox_eq ⟨mail, rfl, doors⟩ (fun _ => rfl) fun _ => rfl⟩
  disconnect := by
    rintro left right ⟨mail, rfl, doors⟩ client
    exact .of_inbox_eq ⟨mail, rfl, doors⟩ (fun _ => rfl) fun _ => rfl
  send := by
    rintro left right ⟨mail, rfl, doors⟩ client message
    have kept := left.mail_overhearMessage message
    simp only [Transport.send, send, overhearMessage_withMail]
    split
    · exact ⟨rfl, .of_inbox_eq ⟨mail, rfl, doors⟩ (fun _ => rfl) fun _ => rfl⟩
    · refine ⟨rfl, .of_inbox_eq ⟨mail, rfl, ?_⟩ (fun address => ?_) fun _ => rfl⟩
      · show (left.overhearMessage message).mail.SameDoors mail
        rw [kept]
        exact doors
      · exact congrArg (·.inbox address) kept
  discard := by
    rintro left right ⟨mail, rfl, doors⟩ address first second
    exact ⟨_, rfl, doors.discard address first second⟩
  closeBox := by
    rintro left right ⟨mail, rfl, doors⟩ address
    exact ⟨_, rfl, doors.closeBox address⟩
  inbox_discard network address count other := network.mail.inbox_discard address other count
  inbox_closeBox network address other := network.mail.inbox_closeBox address other

end Scripted

/-! ## The relay within the process -/

namespace Relay

/-- Whether two relays are alike but for what waits in the mailboxes. -/
def Alike (left right : Relay) : Prop :=
  ∃ mail, right = { left with mail } ∧ left.mail.SameDoors mail

variable {left right : Relay}

theorem Alike.deliver (alike : left.Alike right) (member : ClientId × Address)
    (event : TransportEvent Update) :
    Transport.Together Alike left right (left.deliver member event)
      (right.deliver member event) := by
  rcases alike with ⟨mail, rfl, doors⟩
  refine ⟨⟨_, rfl, doors.deliver member.2 ⟨member.1, event⟩⟩, fun address => ?_⟩
  simp only [Transport.inbox, Relay.deliver, PostOffice.inbox_deliver, doors.isOpen address]
  split
  · exact ⟨_, rfl, rfl⟩
  · exact ⟨[], by simp, by simp⟩

theorem Alike.deliverAll (alike : left.Alike right) (members : List (ClientId × Address))
    (event : TransportEvent Update) :
    Transport.Together Alike left right (left.deliverAll members event)
      (right.deliverAll members event) := by
  induction members generalizing left right with
  | nil => exact .refl alike
  | cons member rest ih =>
      have first := alike.deliver member event
      exact first.trans (ih first.alike)

theorem Alike.putRoom (alike : left.Alike right) (room : Room) :
    Transport.Together Alike left right (left.putRoom room) (right.putRoom room) := by
  rcases alike with ⟨mail, rfl, doors⟩
  rw [Relay.putRoom, Relay.putRoom]
  split
  · exact .of_inbox_eq ⟨mail, rfl, doors⟩ (fun _ => rfl) fun _ => rfl
  · exact .of_inbox_eq ⟨mail, rfl, doors⟩ (fun _ => rfl) fun _ => rfl

theorem Alike.enter (alike : left.Alike right) (room : Room) (member : ClientId × Address)
    (event : TransportEvent Update) :
    Transport.Together Alike left right ((left.putRoom room).deliver member event)
      ((right.putRoom room).deliver member event) :=
  have puts := alike.putRoom room
  puts.trans (puts.alike.deliver member event)

theorem Alike.merge (alike : left.Alike right) (room : Room) (client : ClientId)
    (update : Update) :
    Transport.Together Alike left right (left.merge room client update)
      (right.merge room client update) := by
  rw [Relay.merge, Relay.merge]
  cases room.replica.apply update with
  | error _ => exact .refl alike
  | ok replica =>
      have puts := alike.putRoom { room with replica := replica.clearWalks }
      exact puts.trans (puts.alike.deliverAll _ _)

theorem blind : Transport.Blind Alike where
  refl network := ⟨network.mail, rfl, rfl, fun _ => rfl⟩
  mode _ := rfl
  openBox := by
    rintro left right ⟨mail, rfl, doors⟩
    exact ⟨doors.openBox.1, .of_inbox_eq ⟨_, rfl, doors.openBox.2⟩ left.mail.inbox_openBox
      mail.inbox_openBox⟩
  mintClient := by
    rintro left right ⟨mail, rfl, doors⟩
    exact ⟨rfl, .of_inbox_eq ⟨mail, rfl, doors⟩ (fun _ => rfl) fun _ => rfl⟩
  connect := by
    intro left right alike client target key address
    have quiet : Transport.Together Alike left right left right := .refl alike
    rcases alike with ⟨mail, rfl, doors⟩
    simp only [Transport.connect, connect]
    split
    · split
      · exact ⟨rfl, Alike.enter ⟨mail, rfl, doors⟩ _ _ _⟩
      · exact ⟨rfl, quiet⟩
    · exact ⟨rfl, quiet⟩
  disconnect := by
    rintro left right ⟨mail, rfl, doors⟩ client
    exact .of_inbox_eq ⟨mail, rfl, doors⟩ (fun _ => rfl) fun _ => rfl
  send := by
    intro left right alike client message
    have quiet : Transport.Together Alike left right left right := .refl alike
    have asked : right.roomOf? client = left.roomOf? client := by
      rcases alike with ⟨mail, rfl, doors⟩
      rfl
    have online : right.isOnline = left.isOnline := by
      rcases alike with ⟨mail, rfl, doors⟩
      rfl
    simp only [Transport.send, send, asked, online]
    split
    · exact ⟨rfl, quiet⟩
    · split
      · exact ⟨rfl, quiet⟩
      · cases message with
        | syncRequest => exact ⟨rfl, alike.deliverAll _ _⟩
        | update update => exact ⟨rfl, alike.merge _ client update⟩
        | fullState update => exact ⟨rfl, alike.merge _ client update⟩
  discard := by
    rintro left right ⟨mail, rfl, doors⟩ address first second
    exact ⟨_, rfl, doors.discard address first second⟩
  closeBox := by
    rintro left right ⟨mail, rfl, doors⟩ address
    exact ⟨_, rfl, doors.closeBox address⟩
  inbox_discard network address count other := network.mail.inbox_discard address other count
  inbox_closeBox network address other := network.mail.inbox_closeBox address other

end Relay

end Cowrite
