import MailHost.Mail
import MailHost.Registry
import MailHost.Resolver

/-!
# Calls and events

What a host asks of what it works with, what can go wrong then, and what it
tells its log.
-/

namespace MailHost

inductive DomainsError where
  | notConfigured
  | registry (cause : RegistryError)
  | resolution (cause : LookupError)
  deriving DecidableEq, Repr

def DomainsError.message : DomainsError → String
  | .notConfigured => "null default domain, the domain list might not be configured yet"
  | .registry cause => "the domain store rejected the operation: " ++ cause.message
  | .resolution cause => "failed to resolve: " ++ cause.message

/-!
## Calls

What is asked of the registry, the resolver, the environment and the mail
store.  A call that fails is a call all the same.
-/

/-- What a call asks for, without what it asks about. -/
inductive Target where
  | registryList
  | registryContains
  | registryAdd
  | addresses
  | hostName
  | localAddress
  | mailExchangers
  | textRecords
  | variable
  | hasInbox
  | createInbox
  | append
  deriving DecidableEq, Repr

inductive Call where
  | registryList
  | registryContains (domain : String)
  | registryAdd (domain : String)
  | addresses (host : String)
  | hostName (address : Address)
  | localAddress
  | mailExchangers (host : String)
  | textRecords (host : String)
  | variable (name : String)
  | hasInbox (user : String)
  | createInbox (user : String)
  | append (user : String)
  deriving DecidableEq, Repr

namespace Call

def target : Call → Target
  | .registryList => .registryList
  | .registryContains _ => .registryContains
  | .registryAdd _ => .registryAdd
  | .addresses _ => .addresses
  | .hostName _ => .hostName
  | .localAddress => .localAddress
  | .mailExchangers _ => .mailExchangers
  | .textRecords _ => .textRecords
  | .variable _ => .variable
  | .hasInbox _ => .hasInbox
  | .createInbox _ => .createInbox
  | .append _ => .append

def subject? : Call → Option String
  | .registryList => none
  | .registryContains domain => some domain
  | .registryAdd domain => some domain
  | .addresses host => some host
  | .hostName address => some address.render
  | .localAddress => none
  | .mailExchangers host => some host
  | .textRecords host => some host
  | .variable name => some name
  | .hasInbox user => some user
  | .createInbox user => some user
  | .append user => some user

end Call

/-!
## Events

What the host tells its log.  An event has a level, a message and fields; its
fields are flags and texts.
-/

inductive Level where
  | error
  | warn
  | info
  | debug
  deriving DecidableEq, Repr

def Level.name : Level → String
  | .error => "ERROR"
  | .warn => "WARN"
  | .info => "INFO"
  | .debug => "DEBUG"

inductive FieldValue where
  | flag (value : Bool)
  | text (value : String)
  deriving DecidableEq, Repr

inductive Event where
  | autodetectSet (on : Bool)
  | autodetectIpSet (on : Bool)
  | defaultNotCreated (domain : String) (cause : DomainsError)
  | hostNameNotFound (cause : LookupError)
  | environmentDomain (domain : String)
  | localHost (name : String)
  | addressesNotFound (domain : String) (cause : LookupError)
  | handlingMail (domain : String)
  | relayRefused (recipient : Recipient)
  | domainNotChecked (recipient : Recipient) (cause : DomainsError)
  | notDelivered (recipient : Recipient) (user : String) (cause : MailboxError)
  deriving DecidableEq, Repr

namespace Event

def level : Event → Level
  | .autodetectSet _ => .info
  | .autodetectIpSet _ => .info
  | .defaultNotCreated _ _ => .error
  | .hostNameNotFound _ => .warn
  | .environmentDomain _ => .info
  | .localHost _ => .info
  | .addressesNotFound _ _ => .error
  | .handlingMail _ => .debug
  | .relayRefused _ => .info
  | .domainNotChecked _ _ => .error
  | .notDelivered _ _ _ => .error

def message : Event → String
  | .autodetectSet _ => "set autodetect"
  | .autodetectIpSet _ => "set autodetect IP"
  | .defaultNotCreated _ _ => "an error occurred while creating the default domain"
  | .hostNameNotFound _ => "unable to retrieve hostname"
  | .environmentDomain _ => "adding environment defined domain"
  | .localHost _ => "local host is"
  | .addressesNotFound _ _ => "cannot get IP address(es)"
  | .handlingMail _ => "handling mail for"
  | .relayRefused _ => "refusing mail for a domain that isn't local"
  | .domainNotChecked _ _ => "could not check the domain list"
  | .notDelivered _ _ _ => "unexpected error handling DATA stream"

def fields : Event → List (String × FieldValue)
  | .autodetectSet on => [("autodetect", .flag on)]
  | .autodetectIpSet on => [("autodetect_ip", .flag on)]
  | .defaultNotCreated domain cause =>
      [("domain", .text domain), ("error", .text cause.message)]
  | .hostNameNotFound cause => [("error", .text cause.message)]
  | .environmentDomain domain => [("domain", .text domain)]
  | .localHost name => [("hostname", .text name)]
  | .addressesNotFound domain cause =>
      [("domain", .text domain), ("error", .text cause.message)]
  | .handlingMail domain => [("domain", .text domain)]
  | .relayRefused recipient => [("recipient", .text recipient.render)]
  | .domainNotChecked recipient cause =>
      [("recipient", .text recipient.render), ("error", .text cause.message)]
  | .notDelivered recipient user cause =>
      [("recipient", .text recipient.render), ("user", .text user), ("error", .text cause.message)]

end Event

end MailHost
