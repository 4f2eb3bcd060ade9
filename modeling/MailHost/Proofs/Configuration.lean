import MailHost.Proofs.DefaultDomain

/-!
# What configuring does

Configuring sets the flags, chooses the default domain, and then carries out
the demands of the environment and of the configured names on what is held by
then.  It succeeds just when all these demands can be met, and otherwise ends
with the first refusal.
-/

namespace MailHost.LocalDomains

open Demand

variable {σ : Type} [Registry σ]

/-- The domain that the environment asks for; an empty one does not count. -/
def environmentDomain? (environment : Environment) : Option String :=
  match environment.var? domainVariable with
  | none => none
  | some domain => if domain.isEmpty then none else some domain

def demands (environment : Environment) (names : List String) : List Demand :=
  (environmentDomain? environment).toList.map .verbatim ++ names.map .named

def verdict : Option RegistryError → Except DomainsError Unit
  | none => .ok ()
  | some cause => .error (.registry cause)

def withFlags (domains : LocalDomains σ) (options : Options) : LocalDomains σ :=
  { domains with
    policy := { domains.policy with
      autodetect := options.autodetect
      autodetectIp := options.autodetectIp } }

def choice (domains : LocalDomains σ) (resolver : Resolver) (options : Options) :
    Traced (LocalDomains σ) :=
  (domains.withFlags options).chooseDefault resolver options.defaultDomain

/-- The part of configuring that ends with the first refusal. -/
def registerDemanded (domains : LocalDomains σ) (environment : Environment)
    (names : List String) : Traced (Except DomainsError Unit × LocalDomains σ) := do
  match ← domains.registerEnvironment environment with
  | (.error e, registered) => return (.error e, registered)
  | (.ok (), registered) => registered.registerNames names

theorem configure_value (domains : LocalDomains σ) (resolver : Resolver)
    (environment : Environment) (options : Options) :
    (domains.configure resolver environment options).value =
      ((domains.choice resolver options).value.registerDemanded environment
        options.domainNames).value := rfl

/-! ## The strict part -/

theorem contains_eq_mem (registry : MemoryRegistry) (domain : String) :
    Registry.contains registry domain = .ok (decide (domain ∈ registry.names)) := by
  change Except.ok (registry.names.contains domain) = _
  rw [List.contains_eq_mem]

/-- Configured names are demands that the registry carries out one after the other. -/
theorem registerNames_progress (domains : LocalDomains MemoryRegistry) (names : List String) :
    (domains.registerNames names).value =
        (verdict (carryOut domains.store.names (names.map .named)).refused,
          domains.holding (carryOut domains.store.names (names.map .named)).held) ∧
      (domains.registerNames names).calls =
        (carryOut domains.store.names (names.map .named)).asked := by
  induction names generalizing domains with
  | nil => exact ⟨rfl, rfl⟩
  | cons name rest ih =>
      rw [List.map_cons, registerNames, Traced.value_bind, Traced.calls_bind,
        Registry.value_askContains, contains_eq_mem]
      by_cases known : name ∈ domains.store.names
      · have settled : (Demand.named name).addition? domains.store.names = none := by
          rw [addition?, if_pos known]
        obtain ⟨value, calls⟩ := ih domains
        rw [carryOut_passed _ settled, decide_eq_true known]
        exact ⟨value, congrArg (List.cons _) calls⟩
      · have wanted : (Demand.named name).addition? domains.store.names =
            some (Text.lower name) := by
          rw [addition?, if_neg known]
        rw [decide_eq_false known]
        simp only [Traced.value_bind, Traced.calls_bind, register_value]
        cases refusal : refusal? domains.store.names (Text.lower name) with
        | some cause =>
            rw [carryOut_refused _ wanted refusal]
            exact ⟨rfl, rfl⟩
        | none =>
            obtain ⟨value, calls⟩ :=
              ih (domains.holding (domains.store.names ++ [Text.lower name]))
            rw [carryOut_registered _ wanted refusal]
            exact ⟨value, congrArg (fun asked => _ :: _ :: asked) calls⟩

/-- The domain of the environment, if there is one, is registered before anything else. -/
theorem registerEnvironment_value (domains : LocalDomains σ) (environment : Environment) :
    (domains.registerEnvironment environment).value =
      match environmentDomain? environment with
      | none => (.ok (), domains)
      | some domain => (domains.register domain).value := by
  rw [registerEnvironment, Traced.value_bind, Environment.value_askVar, environmentDomain?]
  cases environment.var? domainVariable with
  | none => rfl
  | some domain =>
      simp only
      by_cases empty : domain.isEmpty = true
      · rw [if_pos empty, if_pos empty]
        rfl
      · rw [if_neg empty, if_neg empty]
        rfl

theorem registerEnvironment_calls (domains : LocalDomains σ) (environment : Environment) :
    (domains.registerEnvironment environment).calls =
      .variable domainVariable ::
        (environmentDomain? environment).toList.map .registryAdd := by
  rw [registerEnvironment, Traced.calls_bind, Environment.value_askVar, environmentDomain?]
  cases environment.var? domainVariable with
  | none => rfl
  | some domain =>
      simp only
      by_cases empty : domain.isEmpty = true
      · rw [if_pos empty, if_pos empty]
        rfl
      · rw [if_neg empty, if_neg empty]
        rfl

/-- The strict part carries out the demands of the environment and of the names. -/
theorem registerDemanded_progress (domains : LocalDomains MemoryRegistry)
    (environment : Environment) (names : List String) :
    (domains.registerDemanded environment names).value =
        (verdict (carryOut domains.store.names (demands environment names)).refused,
          domains.holding (carryOut domains.store.names (demands environment names)).held) ∧
      (domains.registerDemanded environment names).calls =
        .variable domainVariable ::
          (carryOut domains.store.names (demands environment names)).asked := by
  rw [registerDemanded, Traced.value_bind, Traced.calls_bind, registerEnvironment_value,
    registerEnvironment_calls, demands]
  cases environmentDomain? environment with
  | none =>
      obtain ⟨value, calls⟩ := registerNames_progress domains names
      exact ⟨value, congrArg (List.cons _) calls⟩
  | some domain =>
      simp only [register_value, Option.toList_some, List.map_cons, List.map_nil,
        List.cons_append, List.nil_append]
      cases refusal : refusal? domains.store.names domain with
      | some cause =>
          rw [carryOut_refused _ rfl refusal]
          exact ⟨rfl, rfl⟩
      | none =>
          obtain ⟨value, calls⟩ :=
            registerNames_progress (domains.holding (domains.store.names ++ [domain])) names
          rw [carryOut_registered _ rfl refusal]
          exact ⟨value, congrArg (fun asked => _ :: _ :: asked) calls⟩

/-! ## The whole of configuring -/

theorem choice_value (domains : LocalDomains MemoryRegistry) (resolver : Resolver)
    (options : Options) :
    (domains.choice resolver options).value =
      { store :=
          ⟨heldAfterChoice (domains.withFlags options).policy resolver domains.store.names
            options.defaultDomain⟩
        policy := { (domains.withFlags options).policy with
          defaultDomain :=
            defaultAfterChoice (domains.withFlags options).policy resolver domains.store.names
              options.defaultDomain } } :=
  chooseDefault_value (domains.withFlags options) resolver options.defaultDomain

/-- The value of configuring: the choice, then the demands on what is held after it. -/
theorem configure_progress (domains : LocalDomains MemoryRegistry) (resolver : Resolver)
    (environment : Environment) (options : Options) :
    let flags := (domains.withFlags options).policy
    let start := heldAfterChoice flags resolver domains.store.names options.defaultDomain
    let progress := carryOut start (demands environment options.domainNames)
    (domains.configure resolver environment options).value =
      (verdict progress.refused,
        { store := ⟨progress.held⟩
          policy := { flags with
            defaultDomain :=
              defaultAfterChoice flags resolver domains.store.names options.defaultDomain } }) := by
  intro flags start progress
  rw [configure_value, choice_value]
  exact (registerDemanded_progress _ environment options.domainNames).1

theorem verdict_eq_ok_iff {refused : Option RegistryError} :
    verdict refused = .ok () ↔ refused = none := by
  cases refused <;> simp [verdict]

theorem registeredFor_cases (policy : Policy) (resolver : Resolver) (held : List String)
    (candidate : String) :
    registeredFor policy resolver held candidate = [] ∨
      registeredFor policy resolver held candidate = [candidate] := by
  rw [registeredFor]
  split
  · exact Or.inl rfl
  · split
    · exact Or.inr rfl
    · exact Or.inl rfl

theorem registeredForMachine_cases (policy : Policy) (resolver : Resolver) (held : List String)
    (configured : String) :
    registeredForMachine policy resolver held configured = [] ∨
      ∃ name, resolver.machineName = .ok name ∧
        registeredForMachine policy resolver held configured = [Text.lower name] := by
  rw [registeredForMachine]
  cases found : machineCandidate? resolver configured with
  | none => exact Or.inl rfl
  | some candidate =>
      obtain ⟨name, known, rfl⟩ := machineCandidate?_eq_some found
      exact (registeredFor_cases policy resolver held (Text.lower name)).imp id
        fun single => ⟨name, known, single⟩

/--
Configuring a host with a registry in memory registers at most the configured
default domain and at most the name of the machine, then whatever its demands
add up to the first that is refused.  It succeeds just when all demands can be
met, it makes no call after the one that is refused, and it takes nothing out.
The flags are those asked for, and the default domain is the one chosen first.
-/
theorem configure_meets_demands (domains : LocalDomains MemoryRegistry) (resolver : Resolver)
    (environment : Environment) (options : Options) :
    let configured := domains.configure resolver environment options
    let chosen := domains.choice resolver options
    let flags := (domains.withFlags options).policy
    let old := domains.store.names
    let first := registeredFor flags resolver old options.defaultDomain
    let second := registeredForMachine flags resolver (old ++ first) options.defaultDomain
    let start := old ++ first ++ second
    let demanded := demands environment options.domainNames
    chosen.value.store.names = start ∧
    (first = [] ∨ first = [options.defaultDomain]) ∧
    (second = [] ∨
      ∃ name, resolver.machineName = .ok name ∧ second = [Text.lower name]) ∧
    (configured.value.1 = .ok () ↔ ∃ asked added, Met start demanded asked added) ∧
    (∃ asked added refused, Stopped start demanded asked added refused ∧
      configured.value.1 = verdict refused ∧
      configured.value.2.store.names = start ++ added ∧
      configured.calls = chosen.calls ++ .variable domainVariable :: asked) ∧
    configured.value.2.policy =
      { autodetect := options.autodetect
        autodetectIp := options.autodetectIp
        defaultDomain := defaultAfterChoice flags resolver old options.defaultDomain } ∧
    old <+: configured.value.2.store.names := by
  intro configured chosen flags old first second start demanded
  have chosenValue := choice_value domains resolver options
  have startEq : chosen.value.store.names = start := by
    simp only [chosen, chosenValue]
    rfl
  obtain ⟨value, calls⟩ := registerDemanded_progress chosen.value environment options.domainNames
  rw [startEq] at value calls
  obtain ⟨added, heldEq, stopped⟩ := carryOut_stopped start demanded
  have result : configured.value.1 = verdict (carryOut start demanded).refused :=
    congrArg Prod.fst value
  have names : configured.value.2.store.names = start ++ added := by
    have same : configured.value.2.store.names = (carryOut start demanded).held :=
      congrArg (fun pair => pair.2.store.names) value
    rw [same, heldEq]
  refine ⟨startEq, registeredFor_cases flags resolver old options.defaultDomain,
    registeredForMachine_cases flags resolver (old ++ first) options.defaultDomain, ?_,
    ⟨_, added, _, stopped, result, names, congrArg (chosen.calls ++ ·) calls⟩, ?_, ?_⟩
  · rw [result, verdict_eq_ok_iff, refused_eq_none_iff]
  · have same : configured.value.2.policy = chosen.value.policy :=
      congrArg (fun pair => pair.2.policy) value
    rw [same]
    simp only [chosen, chosenValue]
    rfl
  · rw [names]
    simp only [start, List.append_assoc]
    exact List.prefix_append old _

/-- The capitals in the name of the machine and in a configured domain are gone afterwards. -/
example :
    ((ofStore MemoryRegistry.empty).configure capitalHost .empty
        { autodetect := false, domainNames := ["Nyble.Dev"] }).value =
      (.ok (),
        { store := ⟨["localhost", "mailhost", "nyble.dev"]⟩
          policy :=
            { autodetect := false, autodetectIp := true, defaultDomain := "mailhost" } }) := by
  rfl

end MailHost.LocalDomains
