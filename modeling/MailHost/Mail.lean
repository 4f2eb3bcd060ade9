/-!
# Mail

Whom mail is for, what is said to those who bring it, and where it is put.
-/

namespace MailHost

/-!
## Recipients

A recipient is written `local@domain`, also between angle brackets.  The last
at sign divides it.  The domain is kept as it is written, since domains are
compared with regard to case.
-/

structure Recipient where
  localPart : String
  domain : String
  deriving DecidableEq, Repr

inductive RecipientError where
  | noAtSign
  | emptyLocalPart
  | emptyDomain
  deriving DecidableEq, Repr

def RecipientError.message : RecipientError → String
  | .noAtSign => "no @ in the address"
  | .emptyLocalPart => "the local part is empty"
  | .emptyDomain => "the domain is empty"

namespace Recipient

def render (recipient : Recipient) : String :=
  recipient.localPart ++ "@" ++ recipient.domain

/-- Drop an angle bracket at the start and one at the end, if both are there. -/
def withoutBrackets (text : List Char) : List Char :=
  match text with
  | '<' :: inner => if inner.getLast? = some '>' then inner.dropLast else text
  | _ => text

def cutAtLastSign? : List Char → Option (List Char × List Char)
  | [] => none
  | c :: rest =>
      match cutAtLastSign? rest with
      | some (before, after) => some (c :: before, after)
      | none => if c = '@' then some ([], rest) else none

def parseChars (text : List Char) : Except RecipientError Recipient :=
  match cutAtLastSign? (withoutBrackets text) with
  | none => .error .noAtSign
  | some ([], _) => .error .emptyLocalPart
  | some (_ :: _, []) => .error .emptyDomain
  | some (c :: before, d :: after) => .ok ⟨String.ofList (c :: before), String.ofList (d :: after)⟩

def parse (text : String) : Except RecipientError Recipient :=
  parseChars text.toList

end Recipient

/-!
## Replies

A reply has a code of three digits and any number of lines.  A hyphen after
the code says that another line follows; the last line has a space there.  A
reply without messages is written as one empty line.
-/

inductive ReplyCode where
  | accepted
  | deferred
  | rejected
  deriving DecidableEq, Repr

namespace ReplyCode

def number : ReplyCode → Nat
  | .accepted => 250
  | .deferred => 451
  | .rejected => 550

/-- Whether the message was taken. -/
def isPositive (code : ReplyCode) : Bool := code.number / 100 = 2

/-- Whether it is worth trying again later. -/
def isTransient (code : ReplyCode) : Bool := code.number / 100 = 4

/-- Whether trying again is of no use. -/
def isPermanent (code : ReplyCode) : Bool := code.number / 100 = 5

end ReplyCode

structure Reply where
  code : ReplyCode
  messages : List String
  deriving DecidableEq, Repr

namespace Reply

def ofCode (code : ReplyCode) : Reply := ⟨code, []⟩

def ofMessage (code : ReplyCode) (message : String) : Reply := ⟨code, [message]⟩

def push (reply : Reply) (message : String) : Reply :=
  { reply with messages := reply.messages ++ [message] }

/-- The written form of the last line. -/
def lastLine (code : ReplyCode) (message : String) : String :=
  toString code.number ++ " " ++ message ++ "\r\n"

/-- The written form of a line that another follows. -/
def innerLine (code : ReplyCode) (message : String) : String :=
  toString code.number ++ "-" ++ message ++ "\r\n"

/--
Write the messages from the last to the first, each line going before the text
written so far.
-/
def prepend (code : ReplyCode) (written : String) : List String → String
  | [] => written
  | message :: earlier => prepend code (innerLine code message ++ written) earlier

def render (reply : Reply) : String :=
  match reply.messages.reverse with
  | [] => lastLine reply.code ""
  | last :: earlier => prepend reply.code (lastLine reply.code last) earlier

end Reply

/-!
## Mailboxes

Each user has at most one inbox, and mail is put at its end.
-/

inductive MailboxError where
  | noSuchInbox (user : String)
  | refused (reason : String)
  | notWritten
  deriving DecidableEq, Repr

def MailboxError.message : MailboxError → String
  | .noSuchInbox user => "there is no inbox for '" ++ user ++ "'"
  | .refused reason => "the mailbox store refused the message: " ++ reason
  | .notWritten => "failed to write to the mailbox store"

/-- A type whose values keep the mail of users. -/
class MailStore (μ : Type) where
  hasInbox : μ → String → Except MailboxError Bool
  createInbox : μ → String → Except MailboxError Unit × μ
  append : μ → String → ByteArray → Except MailboxError Unit × μ

/-- Inboxes in memory; each holds its messages oldest first. -/
structure Mailboxes where
  inbox? : String → Option (List ByteArray)

namespace Mailboxes

def empty : Mailboxes := ⟨fun _ => none⟩

def messages (boxes : Mailboxes) (user : String) : List ByteArray :=
  (boxes.inbox? user).getD []

def set (boxes : Mailboxes) (user : String) (messages : List ByteArray) : Mailboxes :=
  ⟨fun other => if other = user then some messages else boxes.inbox? other⟩

@[simp]
theorem messages_set_same (boxes : Mailboxes) (user : String) (messages : List ByteArray) :
    (boxes.set user messages).messages user = messages := by
  simp [Mailboxes.messages, set]

theorem messages_set_other (boxes : Mailboxes) (messages : List ByteArray) {user other : String}
    (different : other ≠ user) :
    (boxes.set user messages).messages other = boxes.messages other := by
  simp [Mailboxes.messages, set, different]

def createInbox (boxes : Mailboxes) (user : String) : Except MailboxError Unit × Mailboxes :=
  (.ok (), boxes.set user (boxes.messages user))

def append (boxes : Mailboxes) (user : String) (message : ByteArray) :
    Except MailboxError Unit × Mailboxes :=
  match boxes.inbox? user with
  | none => (.error (.noSuchInbox user), boxes)
  | some messages => (.ok (), boxes.set user (messages ++ [message]))

instance : MailStore Mailboxes where
  hasInbox boxes user := .ok (boxes.inbox? user).isSome
  createInbox := createInbox
  append := append

end Mailboxes

end MailHost
