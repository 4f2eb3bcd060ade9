import MailHost.Traced

/-!
# The domains of a host

A host accepts mail for the domains in its registry, for the name of the
machine, and for the addresses of all of these.  The last two are looked up anew
for each question, and a lookup that fails adds nothing.  A question changes
nothing, so its answer is all it gives.
-/

namespace MailHost

/-- What was decided about the domains of a host, apart from the registry. -/
structure Policy where
  autodetect : Bool := true
  autodetectIp : Bool := true
  defaultDomain : Option String := none
  deriving DecidableEq, Repr

/-- The domains of a host: those registered by name, and what was decided. -/
structure LocalDomains (σ : Type) where
  store : σ
  policy : Policy

namespace LocalDomains

variable {σ : Type} [Registry σ]

/-- A host that was not configured yet. -/
def ofStore (store : σ) : LocalDomains σ := ⟨store, {}⟩

/-- The name of the machine, unless it is not wanted or says nothing. -/
def detectedNames (policy : Policy) (resolver : Resolver) : Traced (List String) :=
  if policy.autodetect then do
    let found ← resolver.localHostName
    let name := found.toOption.getD localhost
    Traced.tell (.localHost name)
    return if name = localhost then [] else [Text.lower name]
  else return []

/-- Put the texts of addresses after others, leaving out those already there. -/
def addNew (found : List String) : List Address → List String
  | [] => found
  | address :: rest =>
      if found.contains address.render then addNew found rest
      else addNew (found ++ [address.render]) rest

def addressesOf (resolver : Resolver) : List String → List String → Traced (List String)
  | found, [] => return found
  | found, name :: rest => do
      match ← resolver.askAddresses name with
      | .ok addresses => addressesOf resolver (addNew found addresses) rest
      | .error e =>
          Traced.tell (.addressesNotFound name e)
          addressesOf resolver found rest

def detectedAddresses (policy : Policy) (resolver : Resolver) (names : List String) :
    Traced (List String) :=
  if policy.autodetectIp then addressesOf resolver [] names else return []

def listing (domains : LocalDomains σ) (resolver : Resolver) :
    Traced (Except DomainsError (List String)) := do
  match ← Registry.askList domains.store with
  | .error e => return .error (.registry e)
  | .ok registered =>
      let detected ← detectedNames domains.policy resolver
      let addresses ← detectedAddresses domains.policy resolver (registered ++ detected)
      let all := registered ++ detected ++ addresses
      Traced.tellAll (all.map .handlingMail)
      return .ok all

/-- Whether the host accepts mail for a domain; case counts. -/
def accepts (domains : LocalDomains σ) (resolver : Resolver) (domain : String) :
    Traced (Except DomainsError Bool) := do
  match ← Registry.askContains domains.store domain with
  | .error e => return .error (.registry e)
  | .ok true => return .ok true
  | .ok false =>
      match ← domains.listing resolver with
      | .error e => return .error e
      | .ok all => return .ok (all.contains domain)

/-- The domain for mail that names none. -/
def defaultDomain (domains : LocalDomains σ) : Except DomainsError String :=
  match domains.policy.defaultDomain with
  | some domain => .ok domain
  | none => .error .notConfigured

def setAutodetect (domains : LocalDomains σ) (on : Bool) : Traced (LocalDomains σ) := do
  Traced.tell (.autodetectSet on)
  return { domains with policy := { domains.policy with autodetect := on } }

def setAutodetectIp (domains : LocalDomains σ) (on : Bool) : Traced (LocalDomains σ) := do
  Traced.tell (.autodetectIpSet on)
  return { domains with policy := { domains.policy with autodetectIp := on } }

/-!
## Configuring a host

Configuring sets the flags, then the default domain, then registers the domain
of the environment and the configured domains.  Trouble with the default
domain is told and otherwise passed over; a domain that cannot be registered
ends the configuration, and what was done before stays.
-/

def domainVariable : String := "DOMAIN"

def register (domains : LocalDomains σ) (domain : String) :
    Traced (Except DomainsError Unit × LocalDomains σ) := do
  let (result, store) ← Registry.askAdd domains.store domain
  return (result.mapError .registry, { domains with store })

def withDefault (domains : LocalDomains σ) (domain : String) : LocalDomains σ :=
  { domains with policy := { domains.policy with defaultDomain := some domain } }

/-- Make a domain the default once mail for it is accepted, registering it if need be. -/
def adoptDefault (domains : LocalDomains σ) (resolver : Resolver) (domain : String) :
    Traced (Except DomainsError Unit × LocalDomains σ) := do
  match ← domains.accepts resolver domain with
  | .error e => return (.error e, domains)
  | .ok true => return (.ok (), domains.withDefault domain)
  | .ok false =>
      match ← domains.register domain with
      | (.error e, registered) => return (.error e, registered)
      | (.ok (), registered) => return (.ok (), registered.withDefault domain)

/-- Make a domain the default, telling of trouble instead of stopping. -/
def tryDefault (domains : LocalDomains σ) (resolver : Resolver) (domain : String) :
    Traced (Bool × LocalDomains σ) := do
  match ← domains.adoptDefault resolver domain with
  | (.ok (), adopted) => return (true, adopted)
  | (.error e, adopted) =>
      Traced.tell (.defaultNotCreated domain e)
      return (false, adopted)

/--
Choose the default domain.  Where the configured one says no more than that it
is this machine, the name of the machine is tried in its place.
-/
def chooseDefault (domains : LocalDomains σ) (resolver : Resolver) (configured : String) :
    Traced (LocalDomains σ) := do
  match ← domains.tryDefault resolver configured with
  | (false, kept) => return kept
  | (true, adopted) =>
      if configured = localhost then
        match ← resolver.localHostName with
        | .error e =>
            Traced.tell (.hostNameNotFound e)
            return adopted
        | .ok name =>
            let (_, renamed) ← adopted.tryDefault resolver (Text.lower name)
            return renamed
      else return adopted

/-- Register the domain of the environment as it is written, if there is one. -/
def registerEnvironment (domains : LocalDomains σ) (environment : Environment) :
    Traced (Except DomainsError Unit × LocalDomains σ) := do
  match ← environment.askVar domainVariable with
  | none => return (.ok (), domains)
  | some domain =>
      if domain.isEmpty then return (.ok (), domains)
      else
        Traced.tell (.environmentDomain domain)
        domains.register domain

/--
Register domains in lower case, up to the first that cannot be.  One that is
registered as it is written is passed over.
-/
def registerNames (domains : LocalDomains σ) :
    List String → Traced (Except DomainsError Unit × LocalDomains σ)
  | [] => return (.ok (), domains)
  | name :: rest => do
      match ← Registry.askContains domains.store name with
      | .error e => return (.error (.registry e), domains)
      | .ok true => registerNames domains rest
      | .ok false =>
          match ← domains.register (Text.lower name) with
          | (.error e, registered) => return (.error e, registered)
          | (.ok (), registered) => registerNames registered rest

def configure (domains : LocalDomains σ) (resolver : Resolver) (environment : Environment)
    (options : Options) : Traced (Except DomainsError Unit × LocalDomains σ) := do
  let flagged ← domains.setAutodetect options.autodetect
  let flagged ← flagged.setAutodetectIp options.autodetectIp
  let chosen ← flagged.chooseDefault resolver options.defaultDomain
  match ← chosen.registerEnvironment environment with
  | (.error e, registered) => return (.error e, registered)
  | (.ok (), registered) => registered.registerNames options.domainNames

end LocalDomains

end MailHost
