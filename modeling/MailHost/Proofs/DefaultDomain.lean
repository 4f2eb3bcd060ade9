import MailHost.Proofs.Listing
import MailHost.Proofs.Registry.Writing

/-!
# The choice of the default domain

A candidate becomes the default domain when the host already lists it or when
it can be registered.  In a registry in memory a domain that is not listed can
be registered just when it is a domain name.  So the choice is determined by
the listing and by the syntax of two candidates: the configured domain and, in
place of `localhost`, the name of the machine.
-/

namespace MailHost.LocalDomains

def holding (domains : LocalDomains MemoryRegistry) (names : List String) :
    LocalDomains MemoryRegistry :=
  { domains with store := ⟨names⟩ }

/-- A candidate is listed or can be registered. -/
def Acceptable (policy : Policy) (resolver : Resolver) (held : List String)
    (candidate : String) : Prop :=
  candidate ∈ tiers policy resolver held ∨ DomainName.isValid candidate = true

instance (policy : Policy) (resolver : Resolver) (held : List String) (candidate : String) :
    Decidable (Acceptable policy resolver held candidate) :=
  inferInstanceAs (Decidable (_ ∨ _))

/-- What is registered to make a candidate the default domain. -/
def registeredFor (policy : Policy) (resolver : Resolver) (held : List String)
    (candidate : String) : List String :=
  if candidate ∈ tiers policy resolver held then []
  else if DomainName.isValid candidate = true then [candidate]
  else []

/-- The candidate to try in place of `localhost`, where the machine has a name. -/
def machineCandidate? (resolver : Resolver) (configured : String) : Option String :=
  if configured = localhost then
    match resolver.machineName with
    | .error _ => none
    | .ok name => some (Text.lower name)
  else none

/-- What is registered for the name of the machine, once the configured domain was tried. -/
def registeredForMachine (policy : Policy) (resolver : Resolver) (held : List String)
    (configured : String) : List String :=
  match machineCandidate? resolver configured with
  | none => []
  | some name => registeredFor policy resolver held name

def heldAfterChoice (policy : Policy) (resolver : Resolver) (held : List String)
    (configured : String) : List String :=
  let first := held ++ registeredFor policy resolver held configured
  first ++ registeredForMachine policy resolver first configured

def defaultAfterChoice (policy : Policy) (resolver : Resolver) (held : List String)
    (configured : String) : Option String :=
  if Acceptable policy resolver held configured then
    match machineCandidate? resolver configured with
    | none => some configured
    | some name =>
        if Acceptable policy resolver
            (held ++ registeredFor policy resolver held configured) name then
          some name
        else some configured
  else policy.defaultDomain

/-! ## What the candidates meet -/

theorem held_subset_tiers (policy : Policy) (resolver : Resolver) (held : List String) :
    held ⊆ tiers policy resolver held := by
  intro domain member
  exact List.mem_append_left _ (List.mem_append_left _ member)

/-- Where the registry contains what it lists, a host accepts what it lists. -/
theorem accepts_of_lawful {σ : Type} [Registry σ] [LawfulRegistry σ] (domains : LocalDomains σ)
    (resolver : Resolver) (domain : String) :
    (domains.accepts resolver domain).value =
      match Registry.list domains.store with
      | .error cause => .error (.registry cause)
      | .ok held => .ok (decide (domain ∈ tiers domains.policy resolver held)) := by
  rw [accepts, Traced.value_bind, Registry.value_askContains, LawfulRegistry.contains_eq]
  cases listed : Registry.list domains.store with
  | error cause => rfl
  | ok held =>
      simp only [Except.map]
      cases known : held.contains domain with
      | true =>
          have found := held_subset_tiers domains.policy resolver held
            (List.contains_iff_mem.mp known)
          simp [found]
      | false =>
          simp only [Traced.value_bind, listing_value, listed, Traced.value_pure,
            List.contains_eq_mem]

theorem accepts_value (domains : LocalDomains MemoryRegistry) (resolver : Resolver)
    (domain : String) :
    (domains.accepts resolver domain).value =
      .ok (decide (domain ∈ tiers domains.policy resolver domains.store.names)) :=
  accepts_of_lawful domains resolver domain

theorem register_value (domains : LocalDomains MemoryRegistry) (domain : String) :
    (domains.register domain).value =
      match refusal? domains.store.names domain with
      | some cause => (.error (.registry cause), domains)
      | none => (.ok (), domains.holding (domains.store.names ++ [domain])) := by
  rw [register, Traced.value_bind, Registry.value_askAdd, MemoryRegistry.add_value]
  cases refusal? domains.store.names domain <;> rfl

theorem registeredFor_of_not_acceptable {policy : Policy} {resolver : Resolver}
    {held : List String} {candidate : String}
    (refused : ¬ Acceptable policy resolver held candidate) :
    registeredFor policy resolver held candidate = [] := by
  rw [Acceptable, not_or] at refused
  rw [registeredFor, if_neg refused.1, if_neg refused.2]

theorem mem_registeredFor_iff {policy : Policy} {resolver : Resolver} {held : List String}
    {candidate domain : String} :
    domain ∈ registeredFor policy resolver held candidate ↔
      domain = candidate ∧ candidate ∉ tiers policy resolver held ∧
        DomainName.isValid candidate = true := by
  rw [registeredFor]
  by_cases listed : candidate ∈ tiers policy resolver held
  · simp [listed]
  · cases valid : DomainName.isValid candidate <;> simp [listed]

theorem machineCandidate?_eq_some {resolver : Resolver} {configured candidate : String}
    (found : machineCandidate? resolver configured = some candidate) :
    ∃ name, resolver.machineName = .ok name ∧ candidate = Text.lower name := by
  rw [machineCandidate?] at found
  split at found
  · cases known : resolver.machineName with
    | error cause => rw [known] at found; cases found
    | ok name =>
        rw [known] at found
        exact ⟨name, rfl, (Option.some.inj found).symm⟩
  · cases found

theorem mem_registeredForMachine_iff {policy : Policy} {resolver : Resolver}
    {held : List String} {configured domain : String} :
    domain ∈ registeredForMachine policy resolver held configured ↔
      machineCandidate? resolver configured = some domain ∧
        domain ∉ tiers policy resolver held ∧ DomainName.isValid domain = true := by
  rw [registeredForMachine]
  cases found : machineCandidate? resolver configured with
  | none => simp
  | some candidate =>
      simp only [mem_registeredFor_iff, Option.some.injEq]
      constructor
      · rintro ⟨rfl, free⟩
        exact ⟨rfl, free⟩
      · rintro ⟨rfl, free⟩
        exact ⟨rfl, free⟩

/-- Trying a candidate registers it where that is needed, and adopts it where it is acceptable. -/
theorem tryDefault_value (domains : LocalDomains MemoryRegistry) (resolver : Resolver)
    (candidate : String) :
    (domains.tryDefault resolver candidate).value =
      (decide (Acceptable domains.policy resolver domains.store.names candidate),
        { store :=
            ⟨domains.store.names ++
              registeredFor domains.policy resolver domains.store.names candidate⟩
          policy := { domains.policy with
            defaultDomain :=
              if Acceptable domains.policy resolver domains.store.names candidate then
                some candidate
              else domains.policy.defaultDomain } }) := by
  rw [tryDefault, Traced.value_bind, adoptDefault, Traced.value_bind, accepts_value]
  by_cases listed : candidate ∈ tiers domains.policy resolver domains.store.names
  · have acceptable : Acceptable domains.policy resolver domains.store.names candidate :=
      Or.inl listed
    rw [registeredFor, if_pos listed, List.append_nil]
    simp only [listed, acceptable, decide_true, if_true]
    rfl
  · have unheld : candidate ∉ domains.store.names :=
      fun member => listed (held_subset_tiers _ _ _ member)
    simp only [listed, decide_false, Traced.value_bind, register_value, refusal?, if_neg unheld]
    cases valid : DomainName.isValid candidate with
    | false =>
        have refused : ¬ Acceptable domains.policy resolver domains.store.names candidate := by
          simp [Acceptable, listed, valid]
        rw [registeredFor_of_not_acceptable refused, List.append_nil]
        simp only [refused, decide_false, if_false]
        rfl
    | true =>
        have acceptable : Acceptable domains.policy resolver domains.store.names candidate :=
          Or.inr valid
        rw [registeredFor, if_neg listed, if_pos valid]
        simp only [acceptable, decide_true, if_true]
        rfl

theorem isValid_localhost : DomainName.isValid localhost = true := by
  decide +kernel

/-- The choice of the default domain registers and chooses as written down above. -/
theorem chooseDefault_value (domains : LocalDomains MemoryRegistry) (resolver : Resolver)
    (configured : String) :
    (domains.chooseDefault resolver configured).value =
      { store := ⟨heldAfterChoice domains.policy resolver domains.store.names configured⟩
        policy := { domains.policy with
          defaultDomain :=
            defaultAfterChoice domains.policy resolver domains.store.names configured } } := by
  rw [chooseDefault, Traced.value_bind, tryDefault_value]
  by_cases acceptable :
      Acceptable domains.policy resolver domains.store.names configured
  · simp only [acceptable, decide_true, if_true, defaultAfterChoice]
    by_cases sentinel : configured = localhost
    · rw [if_pos sentinel, Traced.value_bind, Resolver.localHostName_value]
      cases found : resolver.machineName with
      | error cause =>
          simp [heldAfterChoice, registeredForMachine, machineCandidate?, sentinel, found]
      | ok name =>
          have candidate : machineCandidate? resolver configured = some (Text.lower name) := by
            rw [machineCandidate?, if_pos sentinel, found]
          simp only [Traced.value_bind, tryDefault_value, heldAfterChoice, registeredForMachine,
            candidate]
          rfl
    · have candidate : machineCandidate? resolver configured = none := by
        rw [machineCandidate?, if_neg sentinel]
      simp [heldAfterChoice, registeredForMachine, candidate, sentinel]
  · have ordinary : configured ≠ localhost := by
      intro same
      exact acceptable (Or.inr (by rw [same]; exact isValid_localhost))
    have candidate : machineCandidate? resolver configured = none := by
      rw [machineCandidate?, if_neg ordinary]
    simp [acceptable, defaultAfterChoice, heldAfterChoice, registeredForMachine, candidate]

end MailHost.LocalDomains
