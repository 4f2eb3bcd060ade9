import MailHost.Event

/-!
# Faults

Faults make some calls fail that would otherwise reach what they ask.  A call
that fails so leaves everything as it was.  Only some calls can be made to
fail: those to the registry and to the mail store, and the lookups of addresses,
host names and the local address.  A rule for any other target does nothing.
-/

namespace MailHost

inductive FaultRule where
  | never
  | always
  | only (subject : String)
  deriving DecidableEq, Repr

structure Faults where
  rule : Target → FaultRule

namespace Faults

def none : Faults := ⟨fun _ => .never⟩

/-- Set the rule for some targets in place of the ones they had. -/
def set (faults : Faults) (targets : List Target) (rule : FaultRule) : Faults :=
  ⟨fun target => if target ∈ targets then rule else faults.rule target⟩

def hit (faults : Faults) (call : Call) : Bool :=
  match faults.rule call.target with
  | .never => false
  | .always => true
  | .only subject => call.subject? = some subject

@[simp]
theorem hit_none (call : Call) : none.hit call = false := rfl

@[simp]
theorem set_nil (faults : Faults) (rule : FaultRule) : faults.set [] rule = faults := by
  simp [set]

/-- A resolver some of whose lookups fail; those of mail exchangers and text records do not. -/
def resolver (faults : Faults) (inner : Resolver) : Resolver where
  addresses host :=
    if faults.hit (.addresses host) then .error .startFailed else inner.addresses host
  hostName address :=
    if faults.hit (.hostName address) then .error .startFailed else inner.hostName address
  localAddress := if faults.hit .localAddress then .error .startFailed else inner.localAddress
  mailExchangers := inner.mailExchangers
  textRecords := inner.textRecords

end Faults

/-- A registry or mail store some of whose calls fail. -/
structure Faulty (σ : Type) where
  faults : Faults
  inner : σ

namespace Faulty

variable {σ μ : Type}

/-- Give back the result of a call on what is inside. -/
def rewrap {ε α : Type} (faulty : Faulty σ) (result : Except ε α × σ) :
    Except ε α × Faulty σ :=
  (result.1, { faulty with inner := result.2 })

instance [Registry σ] : Registry (Faulty σ) where
  list faulty :=
    if faulty.faults.hit .registryList then .error .unavailable else Registry.list faulty.inner
  contains faulty domain :=
    if faulty.faults.hit (.registryContains domain) then .error .unavailable
    else Registry.contains faulty.inner domain
  add faulty domain :=
    if faulty.faults.hit (.registryAdd domain) then (.error .unavailable, faulty)
    else faulty.rewrap (Registry.add faulty.inner domain)

def injected : MailboxError := .refused "injected"

instance [MailStore μ] : MailStore (Faulty μ) where
  hasInbox faulty user :=
    if faulty.faults.hit (.hasInbox user) then .error injected
    else MailStore.hasInbox faulty.inner user
  createInbox faulty user :=
    if faulty.faults.hit (.createInbox user) then (.error injected, faulty)
    else faulty.rewrap (MailStore.createInbox faulty.inner user)
  append faulty user message :=
    if faulty.faults.hit (.append user) then (.error injected, faulty)
    else faulty.rewrap (MailStore.append faulty.inner user message)

section

variable [Registry σ] [MailStore μ]

theorem list_eq (faulty : Faulty σ) :
    Registry.list faulty =
      if faulty.faults.hit .registryList then .error .unavailable
      else Registry.list faulty.inner := rfl

theorem contains_eq (faulty : Faulty σ) (domain : String) :
    Registry.contains faulty domain =
      if faulty.faults.hit (.registryContains domain) then .error .unavailable
      else Registry.contains faulty.inner domain := rfl

theorem add_eq (faulty : Faulty σ) (domain : String) :
    Registry.add faulty domain =
      if faulty.faults.hit (.registryAdd domain) then (.error .unavailable, faulty)
      else faulty.rewrap (Registry.add faulty.inner domain) := rfl

theorem createInbox_eq (faulty : Faulty μ) (user : String) :
    MailStore.createInbox faulty user =
      if faulty.faults.hit (.createInbox user) then (.error injected, faulty)
      else faulty.rewrap (MailStore.createInbox faulty.inner user) := rfl

theorem append_eq (faulty : Faulty μ) (user : String) (message : ByteArray) :
    MailStore.append faulty user message =
      if faulty.faults.hit (.append user) then (.error injected, faulty)
      else faulty.rewrap (MailStore.append faulty.inner user message) := rfl

end

end Faulty

end MailHost
