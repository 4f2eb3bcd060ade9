import MailHost.Proofs.Recipient
import MailHost.Proofs.RegisteredDomains
import MailHost.Proofs.StoredMail

/-!
# Inboxes of virtual hosts

With virtual hosting a user goes by the whole address, in which nothing marks
where the local part ends but the last at sign.  So two recipients whose domain
has no at sign are never the same user, and a delivery to the one leaves the
inbox of the other alone, whatever comes of it.
-/

namespace MailHost

/-! ## Users -/

namespace Recipient

variable {first second : Recipient}

/-- The written form has all of a recipient whose domain has no at sign. -/
theorem render_inj (plainFirst : '@' ∉ first.domain.toList)
    (plainSecond : '@' ∉ second.domain.toList) :
    first.render = second.render ↔ first = second := by
  constructor
  · intro same
    rw [← String.toList_inj, toList_render, toList_render] at same
    obtain ⟨sameLocal, sameDomain⟩ := parts_unique same plainFirst plainSecond
    obtain ⟨firstLocal, firstDomain⟩ := first
    obtain ⟨secondLocal, secondDomain⟩ := second
    rw [Recipient.mk.injEq]
    exact ⟨String.toList_inj.mp sameLocal, String.toList_inj.mp sameDomain⟩
  · rintro rfl
    rfl

end Recipient

/-! ## Inboxes that are left alone -/

namespace Mailboxes

variable (boxes : Mailboxes) {name user : String} (apart : user ≠ name)

include apart

theorem inbox?_set_other (messages : List ByteArray) :
    (boxes.set name messages).inbox? user = boxes.inbox? user := by
  simp [set, apart]

theorem inbox?_append_other (message : ByteArray) :
    (boxes.append name message).2.inbox? user = boxes.inbox? user := by
  rw [append]
  cases boxes.inbox? name with
  | none => rfl
  | some messages => exact boxes.inbox?_set_other apart (messages ++ [message])

end Mailboxes

namespace Faulty

variable (mail : Faulty Mailboxes) {name user : String} (apart : user ≠ name)

include apart

theorem inbox?_createInbox_other :
    (MailStore.createInbox mail name).2.inner.inbox? user = mail.inner.inbox? user := by
  rw [createInbox_eq]
  split
  · rfl
  · exact mail.inner.inbox?_set_other apart (mail.inner.messages name)

theorem inbox?_append_other (message : ByteArray) :
    (MailStore.append mail name message).2.inner.inbox? user = mail.inner.inbox? user := by
  rw [append_eq]
  split
  · rfl
  · exact mail.inner.inbox?_append_other apart message

end Faulty

namespace Delivery

/-- Whatever comes of storing a message, only the inbox of its user can be another. -/
theorem inbox?_store_other (mail : Faulty Mailboxes) {name user : String} (apart : user ≠ name)
    (message : ByteArray) :
    (store mail name message).value.2.inner.inbox? user = mail.inner.inbox? user := by
  rw [store, Traced.value_bind]
  simp only [MailStore.askHasInbox, Traced.value_ask]
  cases MailStore.hasInbox mail name with
  | error cause => rfl
  | ok found =>
      cases found with
      | true => exact mail.inbox?_append_other apart message
      | false =>
          have made := mail.inbox?_createInbox_other apart
          simp only [MailStore.askCreateInbox, Traced.value_bind, Traced.value_ask]
          generalize MailStore.createInbox mail name = creation at made ⊢
          obtain ⟨result, created⟩ := creation
          rw [← made]
          cases result with
          | error cause => rfl
          | ok done => exact created.inbox?_append_other apart message

theorem inbox?_deliver_other {σ : Type} [Registry σ] (domains : LocalDomains σ)
    (resolver : Resolver) (mail : Faulty Mailboxes) {virtualHosting : Bool}
    {recipient : Recipient} {user : String} (apart : user ≠ username virtualHosting recipient)
    (message : ByteArray) :
    (deliver domains resolver mail virtualHosting recipient message).value.2.inner.inbox? user =
      mail.inner.inbox? user := by
  by_cases accepted : (domains.accepts resolver recipient.domain).value = .ok true
  · rw [deliver_of_accepted domains resolver mail virtualHosting recipient message accepted]
    exact inbox?_store_other mail apart message
  · obtain ⟨_, same, _⟩ :=
      deliver_of_not_accepted domains resolver mail virtualHosting recipient message accepted
    rw [same]

end Delivery

/-! ## Requests -/

def Request.inboxOf? (request : Request) : Option String :=
  match request with
  | .mail (.createInbox user) => some user
  | _ => request.posting?.map Prod.fst

theorem Request.inboxOf?_of_parcel {request : Request} {parcel : Parcel}
    (carried : request.parcel? = some parcel) : request.inboxOf? = some parcel.user := by
  have posting : request.posting? = some (parcel.user, parcel.message) := by
    simp only [posting?, carried]
  unfold inboxOf?
  split
  · cases carried
  · rw [posting]
    rfl

/--
A request lets a recipient be if it changes no inbox at all, or delivers with
virtual hosting to another recipient whose domain has no at sign.
-/
def Request.LetsBe (request : Request) (recipient : Recipient) : Prop :=
  request.inboxOf? = none ∨
    ∃ parcel, request.parcel? = some parcel ∧ parcel.virtualHosting = true ∧
      '@' ∉ parcel.recipient.domain.toList ∧ parcel.recipient ≠ recipient

theorem Request.LetsBe.inboxOf?_ne {request : Request} {recipient : Recipient}
    (plain : '@' ∉ recipient.domain.toList) (letsBe : request.LetsBe recipient) :
    request.inboxOf? ≠ some (Delivery.username true recipient) := by
  rcases letsBe with nobody | ⟨parcel, carried, hosting, plainOther, different⟩
  · rw [nobody]
    exact nofun
  · rw [inboxOf?_of_parcel carried]
    intro same
    refine different ((Recipient.render_inj plainOther plain).mp ?_)
    have user := Option.some.inj same
    rwa [Parcel.user, hosting] at user

namespace Session

/-- Only a request about mail changes an inbox. -/
theorem boxes_turn (session : Session) (request : Request) :
    (∃ asked, request = .mail asked) ∨ (session.turn request).session.boxes = session.boxes := by
  have step := session.step_turn request
  generalize (session.turn request).session = next at step ⊢
  cases step with
  | mail asked mail => exact Or.inl ⟨asked, rfl⟩
  | _ => exact Or.inr rfl

/-- A turn changes the inbox of one user at most. -/
theorem inbox?_turn (session : Session) {request : Request} {user : String}
    (untouched : request.inboxOf? ≠ some user) :
    (session.turn request).session.boxes.inbox? user = session.boxes.inbox? user := by
  cases carried : request.parcel? with
  | some parcel =>
      rw [Request.inboxOf?_of_parcel carried] at untouched
      have apart : user ≠ parcel.user := fun same => untouched (congrArg some same.symm)
      obtain ⟨_, kept, _⟩ := session.turn_of_parcel carried
      rw [kept]
      exact Delivery.inbox?_deliver_other session.domains session.resolver session.mail apart
        parcel.message
  | none =>
      rcases session.boxes_turn request with ⟨asked, rfl⟩ | same
      · cases asked with
        | createInbox name =>
            have apart : user ≠ name := fun same => untouched (congrArg some same.symm)
            exact session.mail.inbox?_createInbox_other apart
        | append name message =>
            have apart : user ≠ name := fun same => untouched (congrArg some same.symm)
            exact session.mail.inbox?_append_other apart message
        | deliver virtualHosting recipient message => cases carried
        | deliverTo virtualHosting address message =>
            simp only [turn, answer, answerMail]
            cases parsed : Recipient.parse address with
            | error cause => rfl
            | ok recipient => simp [Request.parcel?, parsed, Except.toOption] at carried
        | _ => rfl
      · rw [same]

theorem inbox?_after (session : Session) {requests : List Request} {user : String}
    (untouched : ∀ request ∈ requests, request.inboxOf? ≠ some user) :
    (session.after requests).boxes.inbox? user = session.boxes.inbox? user := by
  induction requests generalizing session with
  | nil => rfl
  | cons request rest ih =>
      obtain ⟨here, there⟩ := List.forall_mem_cons.mp untouched
      rw [after, ih (session.turn request).session there, session.inbox?_turn here]

/--
With virtual hosting two recipients whose domain has no at sign, as those that
are read from texts, are different users.  So wherever a run has come to, the
requests that let a recipient be leave its inbox as it is, both whether it is
there and what is in it, whatever is asked besides and whatever fails.
-/
theorem virtual_hosts_apart (session : Session) {recipient : Recipient}
    (plain : '@' ∉ recipient.domain.toList) :
    (∀ text other, Recipient.parse text = .ok other → '@' ∉ other.domain.toList) ∧
    (∀ other : Recipient, '@' ∉ other.domain.toList →
      (Delivery.username true other = Delivery.username true recipient ↔ other = recipient)) ∧
    ∀ before requests, (∀ request ∈ requests, request.LetsBe recipient) →
      ((session.after before).after requests).boxes.inbox? (Delivery.username true recipient) =
        (session.after before).boxes.inbox? (Delivery.username true recipient) := by
  refine ⟨?_, ?_, ?_⟩
  · intro text other parsed
    exact (Recipient.parse_eq_ok_iff.mp parsed).2.1
  · intro other plainOther
    exact Recipient.render_inj plainOther plain
  · intro before requests letBe
    exact inbox?_after _ fun request member => (letBe request member).inboxOf?_ne plain

/-- The whole address of another user is a local part here, and its message cannot be stored. -/
def mailForOthers : List Request :=
  [.fault [.append] (.only "gen@nyble.dev@nyble.dev"),
    .mail (.deliver true ⟨"gen@nyble.dev", "nyble.dev"⟩ "one".toUTF8),
    .mail (.deliverTo true "<devon@nyble.dev>" "two".toUTF8)]

theorem virtual_hosts_apart_nested :
    let gen : Recipient := ⟨"gen", "nyble.dev"⟩
    let nested : Recipient := ⟨"gen@nyble.dev", "nyble.dev"⟩
    let greeting : List Request := [.mail (.deliver true gen "hello".toUTF8)]
    '@' ∉ gen.domain.toList ∧ Recipient.parse "<gen@nyble.dev@nyble.dev>" = .ok nested ∧
      '@' ∉ nested.domain.toList ∧
      Delivery.username true nested ≠ Delivery.username true gen ∧
      (∀ request ∈ mailForOthers, request.LetsBe gen) ∧
      ((nybleSession.after greeting).after mailForOthers).boxes.inbox? "gen@nyble.dev" =
        some ["hello".toUTF8] := by
  intro gen nested greeting
  have plain : '@' ∉ gen.domain.toList := by decide
  have parsed : Recipient.parse "<gen@nyble.dev@nyble.dev>" = .ok nested := by rfl
  obtain ⟨read, apart, kept⟩ := virtual_hosts_apart nybleSession plain
  have plainNested := read _ nested parsed
  have different : nested ≠ gen := by decide
  have letBe : ∀ request ∈ mailForOthers, request.LetsBe gen := by
    rw [mailForOthers, List.forall_mem_cons, List.forall_mem_cons, List.forall_mem_singleton]
    refine ⟨Or.inl rfl, Or.inr ⟨⟨true, nested, "one".toUTF8⟩, rfl, rfl, plainNested, different⟩,
      Or.inr ⟨⟨true, ⟨"devon", "nyble.dev"⟩, "two".toUTF8⟩, rfl, rfl, ?_, ?_⟩⟩ <;> decide
  have greeted : (nybleSession.after greeting).boxes.inbox? "gen@nyble.dev" =
      some ["hello".toUTF8] := by rfl
  refine ⟨plain, parsed, plainNested, ?_, letBe, ?_⟩
  · exact fun same => different ((apart nested plainNested).mp same)
  · exact (kept greeting mailForOthers letBe).trans greeted

/-- With an at sign in the domain two recipients can be one user. -/
example : Delivery.username true ⟨"gen@nyble.dev", "nove.dev"⟩ =
    Delivery.username true ⟨"gen", "nyble.dev@nove.dev"⟩ := by decide

end Session

end MailHost
