import MailHost.Proofs.Configuration
import MailHost.Proofs.Registry.Simulation

/-!
# Configuring with storage

Storage that is open is configured like a registry in memory with the same
domains.  Storage that is closed is configured only where nothing is demanded.
-/

namespace MailHost.LocalDomains

/-!
## Configuring with a closed registry

A registry that lists nothing and registers nothing leaves little to configure.
The configured default domain is adopted if the host accepts it by the name or
the addresses of the machine, and otherwise trying to register it changes
nothing that a second try would not find.  Every demand is refused.
-/

variable {σ : Type} [Registry σ]

/-! ### Trying a candidate -/

theorem tryDefault_of_refused {domains : LocalDomains σ} {candidate : String}
    (refused : (Registry.add domains.store candidate).1 ≠ .ok ()) (resolver : Resolver) :
    (domains.tryDefault resolver candidate).value =
      match (domains.accepts resolver candidate).value with
      | .error _ => (false, domains)
      | .ok true => (true, domains.withDefault candidate)
      | .ok false =>
          (false, { domains with store := (Registry.add domains.store candidate).2 }) := by
  rw [tryDefault, Traced.value_bind, adoptDefault, Traced.value_bind]
  cases (domains.accepts resolver candidate).value with
  | error cause => rfl
  | ok accepted =>
      cases accepted with
      | true => rfl
      | false =>
          simp only [Traced.value_bind, register, Registry.value_askAdd]
          generalize Registry.add domains.store candidate = added at refused ⊢
          obtain ⟨result, store⟩ := added
          cases result with
          | error cause => rfl
          | ok done => exact absurd rfl refused

/-- Where nothing is registered, the name of the machine is listed if anything is. -/
theorem lower_mem_tiers_of_mem {policy : Policy} {resolver : Resolver} {domain name : String}
    (listed : domain ∈ tiers policy resolver []) (found : resolver.machineName = .ok name) :
    Text.lower name ∈ tiers policy resolver [] := by
  by_cases unnamed : policy.autodetect = false ∨ name = localhost
  · have nothing : nameTier policy resolver = [] := by
      simp only [nameTier, found, if_pos unnamed]
    simp [tiers, nothing, addressTier] at listed
  · have single : nameTier policy resolver = [Text.lower name] := by
      simp only [nameTier, found, if_neg unnamed]
    simp [tiers, single]

variable [LawfulRegistry σ] {Kind : σ → Prop}

theorem accepts_eq_true_iff {domains : LocalDomains σ} {resolver : Resolver} {domain : String} :
    (domains.accepts resolver domain).value = .ok true ↔
      ∃ held, Registry.list domains.store = .ok held ∧
        domain ∈ tiers domains.policy resolver held := by
  rw [accepts_of_lawful]
  cases Registry.list domains.store <;> simp

theorem accepts_eq_false_iff {domains : LocalDomains σ} {resolver : Resolver} {domain : String} :
    (domains.accepts resolver domain).value = .ok false ↔
      ∃ held, Registry.list domains.store = .ok held ∧
        domain ∉ tiers domains.policy resolver held := by
  rw [accepts_of_lawful]
  cases Registry.list domains.store <;> simp

theorem accepts_of_same {domains again : LocalDomains σ} {resolver : Resolver}
    (same : again.store = domains.store)
    (flags : tiers again.policy resolver = tiers domains.policy resolver) (domain : String) :
    (again.accepts resolver domain).value = (domains.accepts resolver domain).value := by
  rw [accepts_of_lawful, accepts_of_lawful, same, flags]

/-- The choice of the default domain registers nothing, and is made by what the host accepts. -/
theorem chooseDefault_of_sealed (sealing : Registry.Sealed Kind) {domains : LocalDomains σ}
    (kind : Kind domains.store) (resolver : Resolver) (configured : String) :
    (domains.chooseDefault resolver configured).value =
      match (domains.accepts resolver configured).value with
      | .error _ => domains
      | .ok true =>
          domains.withDefault ((machineCandidate? resolver configured).getD configured)
      | .ok false => { domains with store := (Registry.add domains.store configured).2 } := by
  rw [chooseDefault, Traced.value_bind, tryDefault_of_refused (sealing.refused kind configured)]
  cases answer : (domains.accepts resolver configured).value with
  | error cause => rfl
  | ok accepted =>
      cases accepted with
      | false => rfl
      | true =>
          simp only
          by_cases sentinel : configured = localhost
          · rw [if_pos sentinel, Traced.value_bind, Resolver.localHostName_value,
              machineCandidate?, if_pos sentinel]
            cases found : resolver.machineName with
            | error cause => rfl
            | ok name =>
                obtain ⟨held, listed, member⟩ := accepts_eq_true_iff.mp answer
                have nothing := sealing.nothing kind listed
                rw [nothing] at listed member
                have renamed : ((domains.withDefault configured).accepts resolver
                    (Text.lower name)).value = .ok true :=
                  accepts_eq_true_iff.mpr ⟨[], listed, lower_mem_tiers_of_mem member found⟩
                have adopted : Kind (domains.withDefault configured).store := kind
                have refused := sealing.refused adopted (Text.lower name)
                simp only [Traced.value_bind, tryDefault_of_refused refused, renamed]
                rfl
          · rw [if_neg sentinel, machineCandidate?, if_neg sentinel]
            rfl

theorem chooseDefault_kept (sealing : Registry.Sealed Kind) {domains : LocalDomains σ}
    (kind : Kind domains.store) (resolver : Resolver) (configured : String) :
    Kind (domains.chooseDefault resolver configured).value.store := by
  rw [chooseDefault_of_sealed sealing kind]
  match (domains.accepts resolver configured).value with
  | .error cause => exact kind
  | .ok true => exact kind
  | .ok false => exact sealing.kept kind configured

/--
A second choice over what the first one left changes nothing there.  Either it
makes the same domain the default, or neither choice makes any.
-/
theorem chooseDefault_again_of_sealed (sealing : Registry.Sealed Kind)
    {domains again : LocalDomains σ} (kind : Kind domains.store) (resolver : Resolver)
    (configured : String)
    (flags : tiers again.policy resolver = tiers domains.policy resolver)
    (same : again.store = (domains.chooseDefault resolver configured).value.store) :
    let done := (domains.chooseDefault resolver configured).value
    let second := (again.chooseDefault resolver configured).value
    second.store = done.store ∧
      (second.policy.defaultDomain = done.policy.defaultDomain ∨
        done.policy.defaultDomain = domains.policy.defaultDomain ∧
          second.policy.defaultDomain = again.policy.defaultDomain) := by
  intro done second
  have againKind : Kind again.store := by
    rw [same]
    exact chooseDefault_kept sealing kind resolver configured
  have first : done = _ := chooseDefault_of_sealed sealing kind resolver configured
  have repeated : second = _ := chooseDefault_of_sealed sealing againKind resolver configured
  have stores : again.store = done.store := same
  match accepted : (domains.accepts resolver configured).value with
  | .error cause =>
      simp only [accepted] at first
      rw [first] at stores ⊢
      simp only [accepts_of_same stores flags, accepted] at repeated
      rw [repeated]
      exact ⟨stores, Or.inr ⟨rfl, rfl⟩⟩
  | .ok true =>
      simp only [accepted] at first
      rw [first] at stores ⊢
      have kept : again.store = domains.store := stores
      simp only [accepts_of_same kept flags, accepted] at repeated
      rw [repeated]
      exact ⟨stores, Or.inl rfl⟩
  | .ok false =>
      simp only [accepted] at first
      rw [first] at stores ⊢
      obtain ⟨held, listed, unlisted⟩ := accepts_eq_false_iff.mp accepted
      rw [sealing.nothing kind listed, ← flags] at unlisted
      match answer : (again.accepts resolver configured).value with
      | .error cause =>
          simp only [answer] at repeated
          rw [repeated]
          exact ⟨stores, Or.inr ⟨rfl, rfl⟩⟩
      | .ok true =>
          obtain ⟨later, found, member⟩ := accepts_eq_true_iff.mp answer
          rw [sealing.nothing againKind found] at member
          exact absurd member unlisted
      | .ok false =>
          simp only [answer] at repeated
          rw [repeated]
          refine ⟨?_, Or.inr ⟨rfl, rfl⟩⟩
          change (Registry.add again.store configured).2 = (Registry.add domains.store configured).2
          rw [stores]
          exact sealing.again kind configured

/-! ### The strict part -/

omit [LawfulRegistry σ] in
theorem registerDemanded_nothing {environment : Environment}
    (unset : environmentDomain? environment = none) (domains : LocalDomains σ) :
    (domains.registerDemanded environment []).value = (.ok (), domains) := by
  rw [registerDemanded, Traced.value_bind, registerEnvironment_value, unset]
  rfl

theorem registerDemanded_of_sealed (sealing : Registry.Sealed Kind) {domains : LocalDomains σ}
    (kind : Kind domains.store) {environment : Environment} {names : List String}
    (fulfilled : (domains.registerDemanded environment names).value.1 = .ok ()) :
    environmentDomain? environment = none ∧ names = [] := by
  have unregistered : ∀ domain, (domains.register domain).value.1 ≠ .ok () := by
    intro domain done
    have refused := sealing.refused kind domain
    change (Registry.add domains.store domain).1.mapError DomainsError.registry = .ok () at done
    cases result : (Registry.add domains.store domain).1 with
    | error cause => rw [result] at done; cases done
    | ok _ => exact refused result
  rw [registerDemanded, Traced.value_bind, registerEnvironment_value] at fulfilled
  cases wanted : environmentDomain? environment with
  | some domain =>
      rw [wanted] at fulfilled
      simp only at fulfilled
      have refused := unregistered domain
      generalize (domains.register domain).value = ending at fulfilled refused
      obtain ⟨result, registered⟩ := ending
      cases result with
      | error cause => cases fulfilled
      | ok _ => exact absurd rfl refused
  | none =>
      refine ⟨rfl, ?_⟩
      rw [wanted] at fulfilled
      cases names with
      | nil => rfl
      | cons name rest =>
          simp only [registerNames, Traced.value_bind, Registry.value_askContains,
            LawfulRegistry.contains_eq] at fulfilled
          cases listed : Registry.list domains.store with
          | error cause => rw [listed] at fulfilled; cases fulfilled
          | ok held =>
              rw [listed, sealing.nothing kind listed] at fulfilled
              have refused := unregistered (Text.lower name)
              simp only [Except.map, List.contains_nil, Traced.value_bind] at fulfilled
              generalize (domains.register (Text.lower name)).value = ending at fulfilled refused
              obtain ⟨result, registered⟩ := ending
              cases result with
              | error cause => cases fulfilled
              | ok _ => exact absurd rfl refused

/-! ### Configuring with storage -/

open Demand

theorem choice_alike {σ τ : Type} [Registry σ] [Registry τ] {Sim : σ → τ → Prop}
    (simulation : Registry.Simulation Sim) {a : LocalDomains σ} {b : LocalDomains τ}
    (related : Related Sim a b) (resolver : Resolver) (options : Options) :
    Traced.Alike (Related Sim) (a.choice resolver options) (b.choice resolver options) := by
  have flagged : Related Sim (a.withFlags options) (b.withFlags options) :=
    ⟨related.store, by rw [withFlags, withFlags, related.policy]⟩
  exact chooseDefault_alike simulation flagged resolver options.defaultDomain

section Open

variable {start : LocalDomains Storage} {memory : MemoryRegistry}

theorem held_choice_of_mirrors (mirrors : start.store.Mirrors memory) (resolver : Resolver)
    (options : Options) :
    Registry.held (start.choice resolver options).value.store =
      heldAfterChoice (start.withFlags options).policy resolver memory.names
        options.defaultDomain := by
  have related : Related Storage.Mirrors start (LocalDomains.mk memory start.policy) :=
    ⟨mirrors, rfl⟩
  have alike := choice_alike Storage.mirrors_simulation related resolver options
  rw [Registry.held_of_list (Storage.list_of_mirrors alike.value.store), choice_value]
  rfl

theorem configure_of_mirrors (mirrors : start.store.Mirrors memory) (resolver : Resolver)
    (environment : Environment) (options : Options) :
    let flags := (start.withFlags options).policy
    let held := heldAfterChoice flags resolver memory.names options.defaultDomain
    let progress := carryOut held (demands environment options.domainNames)
    let configured := (start.configure resolver environment options).value
    configured.1 = verdict progress.refused ∧
      configured.2.store.Mirrors ⟨progress.held⟩ ∧
      configured.2.policy =
        { flags with
          defaultDomain :=
            defaultAfterChoice flags resolver memory.names options.defaultDomain } := by
  intro flags held progress configured
  have related : Related Storage.Mirrors start (LocalDomains.mk memory start.policy) :=
    ⟨mirrors, rfl⟩
  have alike := configure_alike Storage.mirrors_simulation related resolver environment options
  obtain ⟨result, stores, policies⟩ := alike.value
  rw [configure_progress] at result stores policies
  exact ⟨result, stores, policies⟩

end Open

/-- With a closed registry only a configuration that demands nothing succeeds. -/
theorem configure_of_closed {domains : LocalDomains Storage} (closed : domains.store.Closed)
    {resolver : Resolver} {environment : Environment} {options : Options}
    (fine : (domains.configure resolver environment options).value.1 = .ok ()) :
    environmentDomain? environment = none ∧ options.domainNames = [] := by
  have flagged : (domains.withFlags options).store.Closed := closed
  have kept := chooseDefault_kept Storage.closed_sealed flagged resolver options.defaultDomain
  exact registerDemanded_of_sealed Storage.closed_sealed kept fine

theorem configure_nothing {σ : Type} [Registry σ] (domains : LocalDomains σ) (resolver : Resolver)
    {environment : Environment} {options : Options}
    (unset : environmentDomain? environment = none) (unnamed : options.domainNames = []) :
    (domains.configure resolver environment options).value =
      (.ok (), (domains.choice resolver options).value) := by
  rw [configure_value, unnamed, registerDemanded_nothing unset]

end MailHost.LocalDomains
