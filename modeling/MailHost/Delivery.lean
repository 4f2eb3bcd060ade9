import MailHost.LocalDomains

/-!
# Local delivery

Mail for a domain of the host goes into the inbox of its recipient; other mail
is refused.  The reply tells what became of it.
-/

namespace MailHost.Delivery

variable {σ μ : Type} [Registry σ] [MailStore μ]

/--
The user that a recipient stands for.  With virtual hosting users go by their
whole address, otherwise by the part before the at sign.
-/
def username (virtualHosting : Bool) (recipient : Recipient) : String :=
  if virtualHosting then recipient.render else recipient.localPart

/-- Put a message into the inbox of a user, which is made if need be. -/
def store (boxes : μ) (user : String) (message : ByteArray) :
    Traced (Except MailboxError Unit × μ) := do
  match ← MailStore.askHasInbox boxes user with
  | .error e => return (.error e, boxes)
  | .ok true => MailStore.askAppend boxes user message
  | .ok false =>
      match ← MailStore.askCreateInbox boxes user with
      | (.error e, created) => return (.error e, created)
      | (.ok (), created) => MailStore.askAppend created user message

def received : Reply := .ofMessage .accepted "2.6.0 Message received"

/-- The reply to a message for a domain of another host. -/
def notPermitted (recipient : Recipient) : Reply :=
  .ofMessage .rejected ("5.7.1 Relaying to " ++ recipient.render ++ " not permitted")

def notChecked (recipient : Recipient) : Reply :=
  .ofMessage .deferred ("4.3.0 Temporary error checking domain of " ++ recipient.render)

def notStored (recipient : Recipient) : Reply :=
  .ofMessage .deferred ("Temporary error deliver message to " ++ recipient.render)

def deliver (domains : LocalDomains σ) (resolver : Resolver) (boxes : μ)
    (virtualHosting : Bool) (recipient : Recipient) (message : ByteArray) :
    Traced (Reply × μ) := do
  match ← domains.accepts resolver recipient.domain with
  | .error e =>
      Traced.tell (.domainNotChecked recipient e)
      return (notChecked recipient, boxes)
  | .ok false =>
      Traced.tell (.relayRefused recipient)
      return (notPermitted recipient, boxes)
  | .ok true =>
      let user := username virtualHosting recipient
      match ← store boxes user message with
      | (.ok (), stored) => return (received, stored)
      | (.error e, stored) =>
          Traced.tell (.notDelivered recipient user e)
          return (notStored recipient, stored)

end MailHost.Delivery
