import MailHost.Proofs.Questions

/-!
# Stored mail

A message goes into an inbox once for each answer that says so, and never
otherwise.  A store call that succeeds adds its message to one user; every
other call of the mail store, and every call that fails, adds nothing.  So the
messages of a user can be read off the answers of a run, in order.
-/

namespace MailHost

/-! ## The mail store -/

/-- What is added to the messages of a user when one for some user was stored, or was not. -/
def credit (stored : Bool) (name : String) (message : ByteArray) (user : String) :
    Option ByteArray :=
  if name = user ∧ stored = true then some message else none

@[simp]
theorem credit_false (name : String) (message : ByteArray) (user : String) :
    credit false name message user = none := by
  simp [credit]

@[simp]
theorem credit_error {ε α : Type} (cause : ε) (name : String) (message : ByteArray)
    (user : String) : credit (Except.error cause : Except ε α).isOk name message user = none :=
  credit_false name message user

namespace Mailboxes

/-- An inbox that is made is empty, and one that was there keeps its messages. -/
theorem messages_createInbox (boxes : Mailboxes) (name user : String) :
    (boxes.createInbox name).2.messages user = boxes.messages user := by
  by_cases same : user = name
  · rw [same]
    exact messages_set_same boxes name (boxes.messages name)
  · exact messages_set_other boxes (boxes.messages name) same

theorem messages_append (boxes : Mailboxes) (name : String) (message : ByteArray)
    (user : String) :
    (boxes.append name message).2.messages user =
      boxes.messages user ++
        (credit (boxes.append name message).1.isOk name message user).toList := by
  rw [append]
  cases inbox : boxes.inbox? name with
  | none => simp
  | some held =>
      have before : boxes.messages name = held := by rw [messages, inbox]; rfl
      by_cases same : name = user
      · simp [credit, same, ← before, Except.isOk, Except.toBool]
      · simp [credit, same, messages_set_other boxes _ (Ne.symm same)]

end Mailboxes

namespace Faulty

/-- Making an inbox adds no message, also when it fails. -/
theorem messages_createInbox (mail : Faulty Mailboxes) (name user : String) :
    (MailStore.createInbox mail name).2.inner.messages user = mail.inner.messages user := by
  rw [createInbox_eq]
  split
  · rfl
  · exact mail.inner.messages_createInbox name user

theorem messages_append (mail : Faulty Mailboxes) (name : String) (message : ByteArray)
    (user : String) :
    (MailStore.append mail name message).2.inner.messages user =
      mail.inner.messages user ++
        (credit (MailStore.append mail name message).1.isOk name message user).toList := by
  rw [append_eq]
  split
  · simp
  · exact mail.inner.messages_append name message user

end Faulty

/-! ## Delivery -/

namespace Delivery

/-- A message is added when it is said to be stored, and at no earlier step. -/
theorem messages_store (mail : Faulty Mailboxes) (name : String) (message : ByteArray)
    (user : String) :
    (store mail name message).value.2.inner.messages user =
      mail.inner.messages user ++
        (credit (store mail name message).value.1.isOk name message user).toList := by
  rw [store, Traced.value_bind]
  simp only [MailStore.askHasInbox, Traced.value_ask]
  match MailStore.hasInbox mail name with
  | .error cause => simp
  | .ok true => exact Faulty.messages_append mail name message user
  | .ok false =>
      have made := Faulty.messages_createInbox mail name user
      simp only [MailStore.askCreateInbox, Traced.value_bind, Traced.value_ask]
      generalize MailStore.createInbox mail name = creation at made ⊢
      obtain ⟨result, created⟩ := creation
      rw [← made]
      match result with
      | .error cause => simp
      | .ok () => exact Faulty.messages_append created name message user

variable {σ : Type} [Registry σ] (domains : LocalDomains σ) (resolver : Resolver)
  (mail : Faulty Mailboxes) (virtualHosting : Bool) (recipient : Recipient)
  (message : ByteArray)

/-- Without a yes from the domains the mail store is left alone, and not even asked. -/
theorem deliver_of_not_accepted
    (unaccepted : (domains.accepts resolver recipient.domain).value ≠ .ok true) :
    let delivered := deliver domains resolver mail virtualHosting recipient message
    delivered.value.1.code ≠ .accepted ∧ delivered.value.2 = mail ∧
      delivered.calls = (domains.accepts resolver recipient.domain).calls := by
  intro delivered
  simp only [delivered, deliver, Traced.value_bind, Traced.calls_bind]
  match answer : (domains.accepts resolver recipient.domain).value with
  | .error cause => exact ⟨nofun, rfl, List.append_nil _⟩
  | .ok false => exact ⟨nofun, rfl, List.append_nil _⟩
  | .ok true => exact absurd answer unaccepted

theorem deliver_of_accepted
    (accepted : (domains.accepts resolver recipient.domain).value = .ok true) :
    let stored := (store mail (username virtualHosting recipient) message).value
    (deliver domains resolver mail virtualHosting recipient message).value =
      (match stored.1 with
        | .ok () => received
        | .error _ => notStored recipient,
        stored.2) := by
  intro stored
  rw [deliver, Traced.value_bind, accepted]
  simp only [Traced.value_bind, stored]
  generalize (store mail (username virtualHosting recipient) message).value = ending
  obtain ⟨result, after⟩ := ending
  cases result <;> rfl

theorem deliver_rejected_iff :
    (deliver domains resolver mail virtualHosting recipient message).value.1.code = .rejected ↔
      (domains.accepts resolver recipient.domain).value = .ok false := by
  match answer : (domains.accepts resolver recipient.domain).value with
  | .error cause =>
      rw [deliver, Traced.value_bind, answer]
      exact ⟨nofun, nofun⟩
  | .ok false =>
      rw [deliver, Traced.value_bind, answer]
      exact ⟨fun _ => rfl, fun _ => rfl⟩
  | .ok true =>
      rw [deliver_of_accepted domains resolver mail virtualHosting recipient message answer]
      cases (store mail (username virtualHosting recipient) message).value.1 <;>
        exact ⟨nofun, nofun⟩

/-- A delivery adds its message to its user's when the reply says so, and nothing otherwise. -/
theorem messages_deliver (user : String) :
    let delivered := (deliver domains resolver mail virtualHosting recipient message).value
    delivered.2.inner.messages user =
      mail.inner.messages user ++
        (credit (delivered.1.code = .accepted) (username virtualHosting recipient) message
          user).toList := by
  intro delivered
  by_cases accepted : (domains.accepts resolver recipient.domain).value = .ok true
  · have outcome : delivered = _ :=
      deliver_of_accepted domains resolver mail virtualHosting recipient message accepted
    have added := messages_store mail (username virtualHosting recipient) message user
    generalize (store mail (username virtualHosting recipient) message).value = stored
      at outcome added
    obtain ⟨result, after⟩ := stored
    rw [outcome]
    cases result <;> exact added
  · obtain ⟨refused, same, _⟩ :=
      deliver_of_not_accepted domains resolver mail virtualHosting recipient message accepted
    have outcome : delivered.2 = mail := same
    rw [outcome, decide_eq_false refused, credit_false]
    exact (List.append_nil _).symm

end Delivery

/-! ## Requests that are to store a message -/

structure Parcel where
  virtualHosting : Bool
  recipient : Recipient
  message : ByteArray

def Parcel.user (parcel : Parcel) : String :=
  Delivery.username parcel.virtualHosting parcel.recipient

/-- What a request is to deliver; an address that names no recipient gives nothing to deliver. -/
def Request.parcel? : Request → Option Parcel
  | .mail (.deliver virtualHosting recipient message) => some ⟨virtualHosting, recipient, message⟩
  | .mail (.deliverTo virtualHosting address message) =>
      (Recipient.parse address).toOption.map (⟨virtualHosting, ·, message⟩)
  | _ => none

/-- The user and the message of a request to store one, by delivery or directly. -/
def Request.posting? (request : Request) : Option (String × ByteArray) :=
  match request.parcel?, request with
  | some parcel, _ => some (parcel.user, parcel.message)
  | none, .mail (.append user message) => some (user, message)
  | none, _ => none

def Answer.saysStored : Answer → Bool
  | .done => true
  | .delivered reply _ => reply.code = .accepted
  | _ => false

/-- The message that a turn stored for a user, by what was asked and answered. -/
def Session.Turn.stored? (turn : Session.Turn) (user : String) : Option ByteArray :=
  match turn.request.posting? with
  | some (name, message) => credit turn.answer.saysStored name message user
  | none => none

theorem Request.posting?_eq_some {request : Request} {name : String} {message : ByteArray}
    (asked : request.posting? = some (name, message)) :
    (∃ parcel, request.parcel? = some parcel ∧ parcel.user = name ∧ parcel.message = message) ∨
      request = .mail (.append name message) := by
  unfold posting? at asked
  split at asked
  · rename_i parcel carried
    cases asked
    exact Or.inl ⟨parcel, carried, rfl, rfl⟩
  · cases asked
    exact Or.inr rfl
  · cases asked

theorem Session.Turn.stored?_of_posting {turn : Session.Turn} {name : String}
    {message : ByteArray} (asked : turn.request.posting? = some (name, message))
    (user : String) :
    turn.stored? user = credit turn.answer.saysStored name message user := by
  rw [stored?, asked]

theorem Session.Turn.stored?_of_no_posting {turn : Session.Turn}
    (unasked : turn.request.posting? = none) (user : String) : turn.stored? user = none := by
  rw [stored?, unasked]

/-! ## Calls of the mail store -/

def Call.asksMail : Call → Bool
  | .hasInbox _ => true
  | .createInbox _ => true
  | .append _ => true
  | _ => false

namespace LocalDomains

variable {σ : Type} [Registry σ]

theorem listing_leaves_mail (domains : LocalDomains σ) (resolver : Resolver) :
    ∀ call ∈ (domains.listing resolver).calls, call.asksMail = false := by
  have machine : ∀ call ∈ resolver.machineCalls, call.asksMail = false := by
    unfold Resolver.machineCalls
    cases resolver.localAddress <;> simp [Call.asksMail]
  have named : ∀ call ∈ nameCalls domains.policy resolver, call.asksMail = false := by
    unfold nameCalls
    split
    · exact machine
    · exact nofun
  have addressed : ∀ hosts, ∀ call ∈ addressCalls domains.policy hosts,
      call.asksMail = false := by
    intro hosts
    unfold addressCalls
    split <;> simp [Call.asksMail]
  rw [listing_calls, List.forall_mem_cons]
  refine ⟨rfl, ?_⟩
  cases Registry.list domains.store with
  | error cause => exact nofun
  | ok registered => exact List.forall_mem_append.mpr ⟨named, addressed _⟩

/-- To know whether mail is accepted for a domain, no inbox is looked at. -/
theorem accepts_leaves_mail (domains : LocalDomains σ) (resolver : Resolver) (domain : String) :
    ∀ call ∈ (domains.accepts resolver domain).calls, call.asksMail = false := by
  rw [accepts_calls, List.forall_mem_cons]
  refine ⟨rfl, ?_⟩
  split
  · exact domains.listing_leaves_mail resolver
  · exact nofun

end LocalDomains

/-! ## Turns -/

namespace Session

/-- A request that carries a parcel delivers it. -/
theorem turn_of_parcel (session : Session) {request : Request} {parcel : Parcel}
    (carried : request.parcel? = some parcel) :
    let delivered := Delivery.deliver session.domains session.resolver session.mail
      parcel.virtualHosting parcel.recipient parcel.message
    (session.turn request).answer = .delivered delivered.value.1 parcel.user ∧
      (session.turn request).session = session.withMail delivered.value.2 ∧
      (session.turn request).calls = delivered.calls := by
  intro delivered
  have answered : session.answer request =
      session.deliver parcel.virtualHosting parcel.recipient parcel.message := by
    cases request with
    | mail mail =>
        cases mail with
        | deliver virtualHosting recipient message =>
            cases carried
            rfl
        | deliverTo virtualHosting address message =>
            rw [Request.parcel?] at carried
            rw [answer, answerMail]
            cases parsed : Recipient.parse address with
            | error cause => rw [parsed] at carried; cases carried
            | ok recipient =>
                rw [parsed] at carried
                cases carried
                rfl
        | _ => cases carried
    | _ => cases carried
  simp only [turn, answered]
  exact ⟨rfl, rfl, List.append_nil _⟩

/-- A request that is to store nothing changes the messages of no user. -/
theorem messages_of_no_posting (session : Session) {request : Request}
    (unasked : request.posting? = none) (user : String) :
    (session.turn request).session.boxes.messages user = session.boxes.messages user := by
  cases request with
  | domains request =>
      cases request with
      | configureFrom text =>
          simp only [turn, answer, answerDomains]
          split
          · rfl
          · rfl
          · split <;> rfl
      | _ => rfl
  | registry request => cases request <;> rfl
  | mail request =>
      cases request with
      | deliver virtualHosting recipient message => cases unasked
      | deliverTo virtualHosting address message =>
          simp only [Request.posting?, Request.parcel?] at unasked
          simp only [turn, answer, answerMail]
          cases parsed : Recipient.parse address with
          | error cause => rfl
          | ok recipient => rw [parsed] at unasked; cases unasked
      | createInbox name => exact session.mail.messages_createInbox name user
      | append name message => cases unasked
      | _ => rfl
  | files request => cases request <;> rfl
  | _ => rfl

/-- A turn adds to the messages of a user what it stored for that user. -/
theorem messages_turn (session : Session) (request : Request) (user : String) :
    (session.turn request).session.boxes.messages user =
      session.boxes.messages user ++ ((session.turn request).stored? user).toList := by
  cases asked : request.posting? with
  | none =>
      have nothing : (session.turn request).stored? user = none :=
        Turn.stored?_of_no_posting asked user
      rw [nothing, messages_of_no_posting session asked]
      exact (List.append_nil _).symm
  | some posting =>
      obtain ⟨name, message⟩ := posting
      have credited : (session.turn request).stored? user =
          credit (session.turn request).answer.saysStored name message user :=
        Turn.stored?_of_posting asked user
      rw [credited]
      rcases Request.posting?_eq_some asked with ⟨parcel, carried, rfl, rfl⟩ | rfl
      · obtain ⟨answered, kept, _⟩ := session.turn_of_parcel carried
        rw [answered, kept]
        exact Delivery.messages_deliver session.domains session.resolver session.mail
          parcel.virtualHosting parcel.recipient parcel.message user
      · have added := session.mail.messages_append name message user
        have said : (session.turn (.mail (.append name message))).answer.saysStored =
            (MailStore.append session.mail name message).1.isOk := by
          change (Answer.ofExcept Failure.mailbox (fun _ => Answer.done)
            (MailStore.append session.mail name message).1).saysStored = _
          cases (MailStore.append session.mail name message).1 <;> rfl
        rw [said]
        exact added

theorem messages_after (session : Session) (requests : List Request) (user : String) :
    (session.after requests).boxes.messages user =
      session.boxes.messages user ++ (session.run requests).filterMap (·.stored? user) := by
  induction requests generalizing session with
  | nil => exact (List.append_nil _).symm
  | cons request rest ih =>
      rw [after, run, ih, messages_turn, List.append_assoc]
      cases stored : (session.turn request).stored? user <;> simp [stored]

/--
The messages of a user are, in order, those of the deliveries to that user
that were answered with an acceptance and those put directly into the inbox,
whatever else was asked and whatever failed.  A delivery that is answered
otherwise changes the messages of nobody.  One whose domain is not the host's,
or cannot be checked, does not call the mail store.
-/
theorem mail_stored_once_accepted (storage : Storage) (environment : Environment)
    (requests : List Request) :
    let start := Session.start storage environment
    (∀ user, (start.after requests).boxes.messages user =
      (start.run requests).filterMap (·.stored? user)) ∧
    (∀ before request parcel, request.parcel? = some parcel →
      let session := start.after before
      let turn := session.turn request
      let checked := (session.domains.accepts session.resolver parcel.recipient.domain).value
      ∃ reply, turn.answer = .delivered reply parcel.user ∧
        (reply.code = .rejected ↔ checked = .ok false) ∧
        (reply.code ≠ .accepted → ∀ user,
          turn.session.boxes.messages user = session.boxes.messages user) ∧
        (checked ≠ .ok true → ∀ call ∈ turn.calls, call.asksMail = false)) := by
  intro start
  refine ⟨fun user => messages_after start requests user, ?_⟩
  intro before request parcel carried session turn checked
  obtain ⟨answered, kept, calls⟩ := session.turn_of_parcel carried
  refine ⟨_, answered, Delivery.deliver_rejected_iff .., ?_, ?_⟩
  · intro refused user
    have added := Delivery.messages_deliver session.domains session.resolver session.mail
      parcel.virtualHosting parcel.recipient parcel.message user
    simp only [decide_eq_false refused, credit_false, Option.toList_none, List.append_nil]
      at added
    have after : turn.session = _ := kept
    rw [after]
    exact added
  · intro unaccepted
    obtain ⟨_, _, asked⟩ := Delivery.deliver_of_not_accepted session.domains session.resolver
      session.mail parcel.virtualHosting parcel.recipient parcel.message unaccepted
    have made : turn.calls = _ := calls.trans asked
    rw [made]
    exact session.domains.accepts_leaves_mail session.resolver parcel.recipient.domain

def nybleSession : Session :=
  .start ⟨.memory ⟨["nyble.dev"]⟩, .empty []⟩ .empty

/-- A first message is stored, and then no inbox takes any more. -/
def fullInboxes : List Request :=
  [.mail (.deliver false ⟨"gen", "nyble.dev"⟩ "hello".toUTF8),
    .fault [.append] .always,
    .mail (.deliver false ⟨"gen", "nyble.dev"⟩ "again".toUTF8)]

theorem mail_stored_once_accepted_full_inboxes :
    let session := nybleSession.after fullInboxes
    let request : Request := .mail (.deliverTo true "<devon@nove.dev>" "hi".toUTF8)
    (session.boxes.messages "gen" = ["hello".toUTF8]) ∧
      request.parcel? = some ⟨true, ⟨"devon", "nove.dev"⟩, "hi".toUTF8⟩ ∧
      (session.domains.accepts session.resolver "nove.dev").value = .ok false ∧
      ∃ reply, (session.turn request).answer = .delivered reply "devon@nove.dev" ∧
        reply.code = .rejected ∧
        (∀ user, (session.turn request).session.boxes.messages user =
          session.boxes.messages user) ∧
        ∀ call ∈ (session.turn request).calls, call.asksMail = false := by
  have kept : (nybleSession.run fullInboxes).filterMap (·.stored? "gen") =
      ["hello".toUTF8] := by
    decide +kernel
  have carried : Request.parcel? (.mail (.deliverTo true "<devon@nove.dev>" "hi".toUTF8)) =
      some ⟨true, ⟨"devon", "nove.dev"⟩, "hi".toUTF8⟩ := by rfl
  have foreign : ((nybleSession.after fullInboxes).domains.accepts
      (nybleSession.after fullInboxes).resolver "nove.dev").value = .ok false := by rfl
  obtain ⟨stored, replied⟩ :=
    mail_stored_once_accepted ⟨.memory ⟨["nyble.dev"]⟩, .empty []⟩ .empty fullInboxes
  obtain ⟨reply, answered, rejected, same, quiet⟩ := replied fullInboxes _ _ carried
  have code : reply.code = .rejected := rejected.mpr foreign
  have refused : reply.code ≠ .accepted := by rw [code]; exact nofun
  have unaccepted : ((nybleSession.after fullInboxes).domains.accepts
      (nybleSession.after fullInboxes).resolver "nove.dev").value ≠ .ok true := by
    rw [foreign]
    exact nofun
  exact ⟨(stored "gen").trans kept, carried, foreign, reply, answered, code, same refused,
    quiet unaccepted⟩

end Session

end MailHost
