import MailHost.Address.Printer

/-!
# Resolvers

A resolver answers questions about names and addresses.  Asking it changes
nothing, so it is no more than its answers.  A host table is the resolver of a
host that knows what it has been told.
-/

namespace MailHost

inductive LookupError where
  | unknownHost (host : String)
  | unmappedAddress (address : Address)
  | noLocalAddress
  | resolutionFailed
  | startFailed
  deriving DecidableEq, Repr

structure Resolver where
  /-- The addresses of a host, in the order they were found. -/
  addresses : String → Except LookupError (List Address)
  /-- The name of the host with an address. -/
  hostName : Address → Except LookupError String
  /-- The address of the machine. -/
  localAddress : Except LookupError Address
  /-- The mail exchangers of a host, the preferred one first. -/
  mailExchangers : String → Except LookupError (List String)
  /-- The text records of a host. -/
  textRecords : String → Except LookupError (List String)

/-! ## Texts of lookup errors -/

namespace LookupError

def message : LookupError → String
  | .unknownHost host => "unknown host '" ++ host ++ "'"
  | .unmappedAddress address => "no hostname is known for " ++ address.render
  | .noLocalAddress => "the local host has no address"
  | .resolutionFailed => "failed to resolve domain name"
  | .startFailed => "failed to start the resolver"

/-- Whether what was looked up does not exist, as opposed to the lookup going wrong. -/
def isUnknownHost : LookupError → Bool
  | .unknownHost _ => true
  | .unmappedAddress _ => true
  | .noLocalAddress => true
  | .resolutionFailed => false
  | .startFailed => false

end LookupError

/-!
## Host tables

A host table is a resolver that knows what it has been told.  Its records stay
in the order their hosts were first entered; a host that is entered again
keeps its place, and one that was dropped comes last when it returns.
-/

structure HostRecord where
  addresses : List Address
  mailExchangers : List String
  texts : List String

/-- The records of hosts, oldest first, and the address of the machine. -/
structure HostTable where
  records : List (String × HostRecord)
  localHost : Option Address

namespace HostTable

def literalRecord (address : Address) : String × HostRecord :=
  (address.render, ⟨[address], [], []⟩)

/-- A table with the unspecified and the loopback address, the machine being at the latter. -/
def initial : HostTable where
  records := [literalRecord .unspecified, literalRecord .loopback]
  localHost := some .loopback

/-- Change the record of a host in place, or put it at the end. -/
def put (host : String) (record : HostRecord) :
    List (String × HostRecord) → List (String × HostRecord)
  | [] => [(host, record)]
  | entry :: rest =>
      if entry.1 = host then (host, record) :: rest else entry :: put host record rest

/-- Enter a record, in place of the one the host may have. -/
def register (table : HostTable) (host : String) (record : HostRecord) : HostTable :=
  { table with records := put host record table.records }

def registerHost (table : HostTable) (host : String) (address : Address)
    (mailExchanger : String) : HostTable :=
  table.register host ⟨[address], [mailExchanger], []⟩

def drop (table : HostTable) (host : String) : HostTable :=
  { table with records := table.records.filter fun entry => entry.1 ≠ host }

/-- Say where the machine is; without an address it cannot be found. -/
def setLocalHost (table : HostTable) (address : Option Address) : HostTable :=
  { table with localHost := address }

def record (table : HostTable) (host : String) : Except LookupError HostRecord :=
  match table.records.find? fun entry => entry.1 = host with
  | some entry => .ok entry.2
  | none => .error (.unknownHost host)

/-- The oldest host whose record has an address. -/
def hostName (table : HostTable) (address : Address) : Except LookupError String :=
  match table.records.find? fun entry => entry.2.addresses.contains address with
  | some entry => .ok entry.1
  | none => .error (.unmappedAddress address)

def resolver (table : HostTable) : Resolver where
  addresses host := (table.record host).map (·.addresses)
  hostName := table.hostName
  localAddress :=
    match table.localHost with
    | some address => .ok address
    | none => .error .noLocalAddress
  mailExchangers host := (table.record host).map (·.mailExchangers)
  textRecords host := (table.record host).map (·.texts)

end HostTable

end MailHost
