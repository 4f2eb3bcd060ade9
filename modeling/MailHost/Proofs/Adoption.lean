import MailHost.Proofs.Acceptance
import MailHost.Proofs.Registry.Growth

/-!
# What a configuration adopts

A configuration reaches the registry by additions only, and what it makes of
the default domain is settled before anything is demanded of the registry.
Which domain that is depends on what registry and resolver answer at that
moment, and any of these answers may be an error.
-/

namespace MailHost

namespace LocalDomains

variable {σ : Type} [Registry σ] (domains : LocalDomains σ) (resolver : Resolver)

omit [Registry σ] in
theorem defaultDomain_eq_ok_iff {domain : String} :
    domains.defaultDomain = .ok domain ↔ domains.policy.defaultDomain = some domain := by
  unfold defaultDomain
  cases domains.policy.defaultDomain <;> simp

omit [Registry σ] in
theorem defaultDomain_eq_error_iff :
    domains.defaultDomain = .error .notConfigured ↔ domains.policy.defaultDomain = none := by
  unfold defaultDomain
  cases domains.policy.defaultDomain <;> simp

/-! ## Additions to the registry of a host -/

/-- A host after domains were added to its registry, and nothing else was done. -/
structure Added (before after : LocalDomains σ) : Prop where
  store : Registry.Reached before.store after.store
  policy : after.policy = before.policy

theorem Added.refl : Added domains domains :=
  ⟨.refl, rfl⟩

variable {domains} in
theorem Added.trans {middle after : LocalDomains σ} (first : Added domains middle)
    (second : Added middle after) : Added domains after :=
  ⟨first.store.trans second.store, second.policy.trans first.policy⟩

theorem register_added (domain : String) :
    Added domains (domains.register domain).value.2 :=
  ⟨.add .refl domain, rfl⟩

theorem registerEnvironment_added (environment : Environment) :
    Added domains (domains.registerEnvironment environment).value.2 := by
  rw [registerEnvironment_value]
  cases environmentDomain? environment with
  | none => exact .refl domains
  | some domain => exact domains.register_added domain

theorem registerNames_added (names : List String) :
    Added domains (domains.registerNames names).value.2 := by
  induction names generalizing domains with
  | nil => exact .refl domains
  | cons name rest ih =>
      rw [registerNames, Traced.value_bind]
      cases (Registry.askContains domains.store name).value with
      | error cause => exact .refl domains
      | ok known =>
          cases known with
          | true => exact ih domains
          | false =>
              have registered := domains.register_added (Text.lower name)
              simp only [Traced.value_bind]
              generalize (domains.register (Text.lower name)).value = ending at registered ⊢
              obtain ⟨result, after⟩ := ending
              cases result with
              | error cause => exact registered
              | ok done => exact registered.trans (ih after)

theorem registerDemanded_added (environment : Environment) (names : List String) :
    Added domains (domains.registerDemanded environment names).value.2 := by
  have registered := domains.registerEnvironment_added environment
  rw [registerDemanded, Traced.value_bind]
  generalize (domains.registerEnvironment environment).value = ending at registered ⊢
  obtain ⟨result, after⟩ := ending
  cases result with
  | error cause => exact registered
  | ok done => exact registered.trans (after.registerNames_added names)

/-! ## One candidate -/

/--
The registry contains the candidate, or the listing has it, or it can be
registered.  Each question counts only if it is answered.
-/
def Adoptable (candidate : String) : Prop :=
  Registry.contains domains.store candidate = .ok true ∨
    Registry.contains domains.store candidate = .ok false ∧
      ∃ all, (domains.listing resolver).value = .ok all ∧
        (candidate ∈ all ∨ (Registry.add domains.store candidate).1 = .ok ())

def adopts (candidate : String) : Bool :=
  match (domains.accepts resolver candidate).value with
  | .error _ => false
  | .ok true => true
  | .ok false => (Registry.add domains.store candidate).1.isOk

/-- The host after a candidate was tried, but for its default domain. -/
def tried (candidate : String) : LocalDomains σ :=
  match (domains.accepts resolver candidate).value with
  | .ok false => { domains with store := (Registry.add domains.store candidate).2 }
  | _ => domains

variable (candidate : String)

theorem adoptable_iff_accepts :
    domains.Adoptable resolver candidate ↔
      (domains.accepts resolver candidate).value = .ok true ∨
        (domains.accepts resolver candidate).value = .ok false ∧
          (Registry.add domains.store candidate).1 = .ok () := by
  rw [accepts_true_iff, accepts_false_iff, Adoptable]
  constructor
  · rintro (known | ⟨unknown, all, found, member | added⟩)
    · exact Or.inl (Or.inl known)
    · exact Or.inl (Or.inr ⟨unknown, all, found, member⟩)
    · by_cases member : candidate ∈ all
      · exact Or.inl (Or.inr ⟨unknown, all, found, member⟩)
      · exact Or.inr ⟨⟨unknown, all, found, member⟩, added⟩
  · rintro ((known | ⟨unknown, all, found, member⟩) | ⟨⟨unknown, all, found, _⟩, added⟩)
    · exact Or.inl known
    · exact Or.inr ⟨unknown, all, found, Or.inl member⟩
    · exact Or.inr ⟨unknown, all, found, Or.inr added⟩

theorem adopts_eq_true_iff :
    domains.adopts resolver candidate = true ↔ domains.Adoptable resolver candidate := by
  rw [adoptable_iff_accepts, adopts]
  cases (domains.accepts resolver candidate).value with
  | error cause => simp
  | ok accepted =>
      cases accepted with
      | true => simp
      | false =>
          cases (Registry.add domains.store candidate).1 <;> simp [Except.isOk, Except.toBool]

instance : Decidable (domains.Adoptable resolver candidate) :=
  decidable_of_iff (domains.adopts resolver candidate = true)
    (domains.adopts_eq_true_iff resolver candidate)

theorem tried_added : Added domains (domains.tried resolver candidate) := by
  unfold tried
  split
  · exact ⟨.add .refl candidate, rfl⟩
  · exact .refl domains

/-- Making a domain the default has no say in what comes of another candidate. -/
theorem adoptable_withDefault (domain : String) :
    (domains.withDefault domain).Adoptable resolver candidate ↔
      domains.Adoptable resolver candidate :=
  Iff.rfl

theorem tried_withDefault (domain : String) :
    (domains.withDefault domain).tried resolver candidate =
      (domains.tried resolver candidate).withDefault domain := by
  have same : ((domains.withDefault domain).accepts resolver candidate).value =
      (domains.accepts resolver candidate).value := rfl
  rw [tried, tried, same]
  split <;> rfl

/-- Whatever the registry does, a candidate is made the default just where it is adoptable. -/
theorem tryDefault_outcome :
    (domains.tryDefault resolver candidate).value =
      if domains.Adoptable resolver candidate then
        (true, (domains.tried resolver candidate).withDefault candidate)
      else (false, domains.tried resolver candidate) := by
  have test := domains.adoptable_iff_accepts resolver candidate
  rw [tryDefault, Traced.value_bind, adoptDefault, Traced.value_bind, tried]
  cases answer : (domains.accepts resolver candidate).value with
  | error cause =>
      rw [answer] at test
      rw [if_neg (by simp [test])]
      rfl
  | ok accepted =>
      rw [answer] at test
      cases accepted with
      | true =>
          rw [if_pos (test.mpr (Or.inl rfl))]
          rfl
      | false =>
          simp only [Traced.value_bind, register, Registry.value_askAdd]
          generalize Registry.add domains.store candidate = added at test ⊢
          obtain ⟨result, store⟩ := added
          cases result with
          | error cause =>
              rw [if_neg (by simp [test])]
              rfl
          | ok done =>
              rw [if_pos (test.mpr (Or.inr ⟨rfl, rfl⟩))]
              rfl

/-! ## The configured domain and the name of the machine -/

/--
The domain that is made the default where some domain is configured: that one,
or in place of `localhost` the name of the machine.
-/
def adoption? (configured : String) : Option String :=
  if domains.Adoptable resolver configured then
    match machineCandidate? resolver configured with
    | none => some configured
    | some name =>
        if (domains.tried resolver configured).Adoptable resolver name then some name
        else some configured
  else none

theorem adoption?_eq_none_iff {configured : String} :
    domains.adoption? resolver configured = none ↔
      ¬ domains.Adoptable resolver configured := by
  unfold adoption?
  split
  · rename_i adoptable
    cases machineCandidate? resolver configured with
    | none => simp [adoptable]
    | some name =>
        simp only
        split <;> simp [adoptable]
  · rename_i refused
    simp [refused]

/-- The host after all candidates were tried, but for its default domain. -/
def triedAll (configured : String) : LocalDomains σ :=
  if domains.Adoptable resolver configured then
    match machineCandidate? resolver configured with
    | none => domains.tried resolver configured
    | some name => (domains.tried resolver configured).tried resolver name
  else domains.tried resolver configured

theorem triedAll_added (configured : String) :
    Added domains (domains.triedAll resolver configured) := by
  have first := domains.tried_added resolver configured
  unfold triedAll
  split
  · cases machineCandidate? resolver configured with
    | none => exact first
    | some name =>
        exact first.trans ((domains.tried resolver configured).tried_added resolver name)
  · exact first

def withAdopted : Option String → LocalDomains σ
  | some domain => domains.withDefault domain
  | none => domains

omit [Registry σ] in
theorem withAdopted_store (adopted : Option String) :
    (domains.withAdopted adopted).store = domains.store := by
  cases adopted <;> rfl

omit [Registry σ] in
theorem withAdopted_policy (adopted : Option String) :
    (domains.withAdopted adopted).policy =
      { domains.policy with
        defaultDomain := adopted.or domains.policy.defaultDomain } := by
  cases adopted <;> rfl

/-- Choosing tries the candidates and makes the adopted one the default. -/
theorem chooseDefault_outcome (configured : String) :
    (domains.chooseDefault resolver configured).value =
      (domains.triedAll resolver configured).withAdopted
        (domains.adoption? resolver configured) := by
  rw [chooseDefault, Traced.value_bind, tryDefault_outcome, adoption?, triedAll]
  by_cases adoptable : domains.Adoptable resolver configured
  · rw [if_pos adoptable, if_pos adoptable, if_pos adoptable]
    simp only
    by_cases sentinel : configured = localhost
    · rw [if_pos sentinel, machineCandidate?, if_pos sentinel, Traced.value_bind,
        Resolver.localHostName_value]
      cases resolver.machineName with
      | error cause => rfl
      | ok name =>
          have same := (domains.tried resolver configured).adoptable_withDefault resolver
            (Text.lower name) configured
          simp only [Traced.value_bind, tryDefault_outcome, tried_withDefault]
          by_cases renamed :
              (domains.tried resolver configured).Adoptable resolver (Text.lower name)
          · rw [if_pos (same.mpr renamed), if_pos renamed]
            rfl
          · rw [if_neg fun adopted => renamed (same.mp adopted), if_neg renamed]
            rfl
    · rw [if_neg sentinel, machineCandidate?, if_neg sentinel]
      rfl
  · rw [if_neg adoptable, if_neg adoptable, if_neg adoptable]
    rfl

/-! ## Whole configurations -/

theorem configure_added (environment : Environment) (options : Options) :
    Added (domains.choice resolver options).value
      (domains.configure resolver environment options).value.2 := by
  rw [configure_value]
  exact registerDemanded_added _ environment options.domainNames

theorem choice_outcome (options : Options) :
    (domains.choice resolver options).value =
      ((domains.withFlags options).triedAll resolver options.defaultDomain).withAdopted
        ((domains.withFlags options).adoption? resolver options.defaultDomain) :=
  (domains.withFlags options).chooseDefault_outcome resolver options.defaultDomain

theorem configure_reached (environment : Environment) (options : Options) :
    Registry.Reached domains.store
      (domains.configure resolver environment options).value.2.store := by
  have tried := (domains.withFlags options).triedAll_added resolver options.defaultDomain
  have demanded := (domains.configure_added resolver environment options).store
  rw [choice_outcome, withAdopted_store] at demanded
  exact tried.store.trans demanded

/-- What is demanded of the registry afterwards, met or not, leaves the policy alone. -/
theorem configure_policy (environment : Environment) (options : Options) :
    (domains.configure resolver environment options).value.2.policy =
      { domains.policy with
        autodetect := options.autodetect
        autodetectIp := options.autodetectIp
        defaultDomain :=
          ((domains.withFlags options).adoption? resolver options.defaultDomain).or
            domains.policy.defaultDomain } := by
  rw [(domains.configure_added resolver environment options).policy, choice_outcome,
    withAdopted_policy,
    ((domains.withFlags options).triedAll_added resolver options.defaultDomain).policy]
  rfl

end LocalDomains

end MailHost
