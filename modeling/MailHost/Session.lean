import MailHost.Delivery
import MailHost.Faults

/-!
# Sessions

A session is a host with everything around it, and answers one request after the
other.  A request that fails leaves the session ready for the next.
-/

namespace MailHost

/-!
## Requests

What a session can be asked: about the domains of the host and its registry,
about names and addresses, about mail, and about the files and faults it runs
with.
-/

inductive DomainsRequest where
  | configure (options : Options)
  | configureFrom (outline : String)
  | accepts (domain : String)
  | listing
  | defaultDomain
  | setAutodetect (on : Bool)
  | setAutodetectIp (on : Bool)

inductive RegistryRequest where
  | add (domain : String)
  | contains (domain : String)
  | list

inductive HostsRequest where
  | register (host : String) (record : HostRecord)
  | registerHost (host : String) (address : Address) (mailExchanger : String)
  | drop (host : String)
  | setLocalHost (address : Option Address)

inductive LookupRequest where
  | addresses (host : String)
  | firstAddress (host : String)
  | hostName (address : Address)
  | localAddress
  | localHostName
  | mailExchangers (host : String)
  | textRecords (host : String)

inductive MailRequest where
  | deliver (virtualHosting : Bool) (recipient : Recipient) (message : ByteArray)
  | deliverTo (virtualHosting : Bool) (address : String) (message : ByteArray)
  | hasInbox (user : String)
  | createInbox (user : String)
  | append (user : String) (message : ByteArray)
  | messages (user : String)

inductive FilesRequest where
  | write (path : String) (contents : ByteArray)
  | read (path : String)
  | remove (path : String)

inductive Request where
  | domains (request : DomainsRequest)
  | registry (request : RegistryRequest)
  | hosts (request : HostsRequest)
  | lookup (request : LookupRequest)
  | variable (name : String)
  | mail (request : MailRequest)
  | files (request : FilesRequest)
  | fault (targets : List Target) (rule : FaultRule)

/-!
## Answers

What a session answers: a value of one of a few kinds, or what went wrong.
-/

inductive Failure where
  | domains (cause : DomainsError)
  | registry (cause : RegistryError)
  | lookup (cause : LookupError)
  | mailbox (cause : MailboxError)
  | recipient (cause : RecipientError)
  | options (cause : OptionsError)
  | outline (cause : OutlineError)
  | aborted
  deriving DecidableEq

inductive Answer where
  | done
  | flag (value : Bool)
  | text (value : String)
  | optionalText (value : Option String)
  | texts (values : List String)
  | address (value : Address)
  | addresses (values : List Address)
  | contents (value : Option ByteArray)
  | messages (values : List ByteArray)
  | delivered (reply : Reply) (user : String)
  | failed (cause : Failure)

namespace Answer

def ofExcept {ε α : Type} (failure : ε → Failure) (success : α → Answer) :
    Except ε α → Answer
  | .ok value => success value
  | .error e => .failed (failure e)

end Answer

/-!
## Storage

The files a session works on and its registry, which is in memory or is one of
the files.
-/

inductive Keeping where
  | memory (registry : MemoryRegistry)
  | file (path : String)

/-- Files, and a registry that may be one of them. -/
structure Storage where
  keeping : Keeping
  tree : FileTree

namespace Storage

def list (storage : Storage) : Except RegistryError (List String) :=
  match storage.keeping with
  | .memory registry => Registry.list registry
  | .file path => Registry.list (FileRegistry.mk path storage.tree)

def contains (storage : Storage) (domain : String) : Except RegistryError Bool :=
  match storage.keeping with
  | .memory registry => Registry.contains registry domain
  | .file path => Registry.contains (FileRegistry.mk path storage.tree) domain

def add (storage : Storage) (domain : String) : Except RegistryError Unit × Storage :=
  match storage.keeping with
  | .memory registry =>
      let (result, added) := Registry.add registry domain
      (result, { storage with keeping := .memory added })
  | .file path =>
      let (result, added) := Registry.add (FileRegistry.mk path storage.tree) domain
      (result, { storage with tree := added.tree })

instance : Registry Storage where
  list := list
  contains := contains
  add := add

end Storage

/-! ## Sessions -/

/-- A host, what it works with, and the faults that are in force. -/
structure Session where
  storage : Storage
  policy : Policy
  hosts : HostTable
  environment : Environment
  boxes : Mailboxes
  faults : Faults

namespace Session

def start (storage : Storage) (environment : Environment) : Session where
  storage := storage
  policy := {}
  hosts := .initial
  environment := environment
  boxes := .empty
  faults := .none

/-- The resolver as the host sees it. -/
def resolver (session : Session) : Resolver :=
  session.faults.resolver session.hosts.resolver

def registry (session : Session) : Faulty Storage :=
  ⟨session.faults, session.storage⟩

def domains (session : Session) : LocalDomains (Faulty Storage) :=
  ⟨session.registry, session.policy⟩

def mail (session : Session) : Faulty Mailboxes :=
  ⟨session.faults, session.boxes⟩

def withDomains (session : Session) (domains : LocalDomains (Faulty Storage)) : Session :=
  { session with storage := domains.store.inner, policy := domains.policy }

def withRegistry (session : Session) (registry : Faulty Storage) : Session :=
  { session with storage := registry.inner }

def withMail (session : Session) (mail : Faulty Mailboxes) : Session :=
  { session with boxes := mail.inner }

/-! ## Answering -/

def configure (session : Session) (options : Options) : Traced (Answer × Session) := do
  let (result, domains) ←
    session.domains.configure session.resolver session.environment options
  return (.ofExcept .domains (fun _ => .done) result, session.withDomains domains)

def answerDomains (session : Session) : DomainsRequest → Traced (Answer × Session)
  | .configure options => session.configure options
  | .configureFrom text =>
      match Outline.parse text with
      | .aborted => return (.failed .aborted, session)
      | .failed e => return (.failed (.outline e), session)
      | .value outline =>
          match Options.ofOutline outline with
          | .error e => return (.failed (.options e), session)
          | .ok options => session.configure options
  | .accepts domain => do
      let result ← session.domains.accepts session.resolver domain
      return (.ofExcept .domains .flag result, session)
  | .listing => do
      let result ← session.domains.listing session.resolver
      return (.ofExcept .domains .texts result, session)
  | .defaultDomain =>
      return (.ofExcept .domains .text session.domains.defaultDomain, session)
  | .setAutodetect on => do
      let domains ← session.domains.setAutodetect on
      return (.done, session.withDomains domains)
  | .setAutodetectIp on => do
      let domains ← session.domains.setAutodetectIp on
      return (.done, session.withDomains domains)

def answerRegistry (session : Session) : RegistryRequest → Traced (Answer × Session)
  | .add domain => do
      let (result, registry) ← Registry.askAdd session.registry domain
      return (.ofExcept .registry (fun _ => .done) result, session.withRegistry registry)
  | .contains domain => do
      let result ← Registry.askContains session.registry domain
      return (.ofExcept .registry .flag result, session)
  | .list => do
      let result ← Registry.askList session.registry
      return (.ofExcept .registry .texts result, session)

def changeHosts (hosts : HostTable) : HostsRequest → HostTable
  | .register host record => hosts.register host record
  | .registerHost host address mailExchanger => hosts.registerHost host address mailExchanger
  | .drop host => hosts.drop host
  | .setLocalHost address => hosts.setLocalHost address

def answerLookup (session : Session) : LookupRequest → Traced Answer
  | .addresses host =>
      return .ofExcept .lookup .addresses (← session.resolver.askAddresses host)
  | .firstAddress host =>
      return .ofExcept .lookup .address (← session.resolver.firstAddress host)
  | .hostName address =>
      return .ofExcept .lookup .text (← session.resolver.askHostName address)
  | .localAddress =>
      return .ofExcept .lookup .address (← session.resolver.askLocalAddress)
  | .localHostName =>
      return .ofExcept .lookup .text (← session.resolver.localHostName)
  | .mailExchangers host =>
      return .ofExcept .lookup .texts (← session.resolver.askMailExchangers host)
  | .textRecords host =>
      return .ofExcept .lookup .texts (← session.resolver.askTextRecords host)

def deliver (session : Session) (virtualHosting : Bool) (recipient : Recipient)
    (message : ByteArray) : Traced (Answer × Session) := do
  let (reply, mail) ←
    Delivery.deliver session.domains session.resolver session.mail virtualHosting recipient
      message
  return (.delivered reply (Delivery.username virtualHosting recipient), session.withMail mail)

def answerMail (session : Session) : MailRequest → Traced (Answer × Session)
  | .deliver virtualHosting recipient message =>
      session.deliver virtualHosting recipient message
  | .deliverTo virtualHosting address message =>
      match Recipient.parse address with
      | .error e => return (.failed (.recipient e), session)
      | .ok recipient => session.deliver virtualHosting recipient message
  | .hasInbox user => do
      let result ← MailStore.askHasInbox session.mail user
      return (.ofExcept .mailbox .flag result, session)
  | .createInbox user => do
      let (result, mail) ← MailStore.askCreateInbox session.mail user
      return (.ofExcept .mailbox (fun _ => .done) result, session.withMail mail)
  | .append user message => do
      let (result, mail) ← MailStore.askAppend session.mail user message
      return (.ofExcept .mailbox (fun _ => .done) result, session.withMail mail)
  | .messages user => return (.messages (session.boxes.messages user), session)

def answerFiles (session : Session) : FilesRequest → Answer × Session
  | .write path contents =>
      (.done, { session with
        storage := { session.storage with tree := session.storage.tree.write path contents } })
  | .read path => (.contents (session.storage.tree.read path).toOption, session)
  | .remove path =>
      (.done, { session with
        storage := { session.storage with tree := session.storage.tree.remove path } })

def answer (session : Session) : Request → Traced (Answer × Session)
  | .domains request => session.answerDomains request
  | .registry request => session.answerRegistry request
  | .hosts request => return (.done, { session with hosts := changeHosts session.hosts request })
  | .lookup request => return (← session.answerLookup request, session)
  | .variable name => return (.optionalText (← session.environment.askVar name), session)
  | .mail request => session.answerMail request
  | .files request => return session.answerFiles request
  | .fault targets rule =>
      return (.done, { session with faults := session.faults.set targets rule })

/-! ## Runs -/

/-- One request, how it was answered, and the session afterwards. -/
structure Turn where
  request : Request
  answer : Answer
  calls : List Call
  events : List Event
  session : Session

def turn (session : Session) (request : Request) : Turn :=
  let answered := session.answer request
  { request
    answer := answered.value.1
    calls := answered.calls
    events := answered.events
    session := answered.value.2 }

def run (session : Session) : List Request → List Turn
  | [] => []
  | request :: rest => session.turn request :: run (session.turn request).session rest

def after (session : Session) : List Request → Session
  | [] => session
  | request :: rest => after (session.turn request).session rest

end Session

end MailHost
