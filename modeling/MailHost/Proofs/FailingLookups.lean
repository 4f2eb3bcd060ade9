import MailHost.Proofs.StorageConfiguration

/-!
# Configuring while lookups fail

What a host does that knows less than it might.
-/

namespace MailHost

/-!
## Resolvers that know less

An impaired resolver gives the same answers as another one or none.  A host
that asks it lists no domain it would not list otherwise, and the same holds
for a host with fewer registered domains or with fewer flags on.
-/

/-- Each lookup of `failing` has the answer of `working` or fails. -/
structure Resolver.Impaired (working failing : Resolver) : Prop where
  addresses : ∀ host, failing.addresses host = working.addresses host ∨
    ∃ cause, failing.addresses host = .error cause
  hostName : ∀ address, failing.hostName address = working.hostName address ∨
    ∃ cause, failing.hostName address = .error cause
  localAddress : failing.localAddress = working.localAddress ∨
    ∃ cause, failing.localAddress = .error cause

namespace Resolver.Impaired

theorem refl (resolver : Resolver) : Impaired resolver resolver where
  addresses _ := Or.inl rfl
  hostName _ := Or.inl rfl
  localAddress := Or.inl rfl

/-- Faults impair a resolver, whatever lookups they make fail. -/
theorem of_faults (faults : Faults) (resolver : Resolver) :
    Impaired resolver (faults.resolver resolver) where
  addresses host := by
    by_cases hit : faults.hit (.addresses host) = true
    · exact Or.inr ⟨.startFailed, if_pos hit⟩
    · exact Or.inl (if_neg hit)
  hostName address := by
    by_cases hit : faults.hit (.hostName address) = true
    · exact Or.inr ⟨.startFailed, if_pos hit⟩
    · exact Or.inl (if_neg hit)
  localAddress := by
    by_cases hit : faults.hit .localAddress = true
    · exact Or.inr ⟨.startFailed, if_pos hit⟩
    · exact Or.inl (if_neg hit)

variable {working failing : Resolver}

theorem machineName (impaired : Impaired working failing) :
    failing.machineName = working.machineName ∨ ∃ cause, failing.machineName = .error cause := by
  rw [Resolver.machineName, Resolver.machineName]
  rcases impaired.localAddress with same | ⟨cause, lost⟩
  · rw [same]
    cases working.localAddress with
    | error cause => exact Or.inl rfl
    | ok address => exact impaired.hostName address
  · rw [lost]
    exact Or.inr ⟨cause, rfl⟩

theorem addressTexts_subset (impaired : Impaired working failing) (host : String) :
    failing.addressTexts host ⊆ working.addressTexts host := by
  rw [Resolver.addressTexts, Resolver.addressTexts]
  rcases impaired.addresses host with same | ⟨cause, lost⟩
  · rw [same]
    exact List.Subset.refl _
  · rw [lost]
    exact List.nil_subset _

end Resolver.Impaired

/-- Each flag that is on in the first policy is on in the second. -/
structure Policy.Within (narrow wide : Policy) : Prop where
  autodetect : narrow.autodetect = true → wide.autodetect = true
  autodetectIp : narrow.autodetectIp = true → wide.autodetectIp = true

theorem Policy.Within.refl (policy : Policy) : policy.Within policy :=
  ⟨id, id⟩

namespace LocalDomains

variable {working failing : Resolver} {narrow wide : Policy}

theorem nameTier_subset (impaired : working.Impaired failing) (flags : narrow.Within wide) :
    nameTier narrow failing ⊆ nameTier wide working := by
  rw [nameTier, nameTier]
  rcases impaired.machineName with same | ⟨cause, lost⟩
  · rw [same]
    cases working.machineName with
    | error cause => exact List.Subset.refl _
    | ok name =>
        simp only
        cases wanted : narrow.autodetect with
        | false =>
            rw [if_pos (Or.inl rfl)]
            exact List.nil_subset _
        | true =>
            rw [flags.autodetect wanted]
            exact List.Subset.refl _
  · rw [lost]
    exact List.nil_subset _

theorem addressTier_subset (impaired : working.Impaired failing) (flags : narrow.Within wide)
    {fewer hosts : List String} (within : fewer ⊆ hosts) :
    addressTier narrow failing fewer ⊆ addressTier wide working hosts := by
  rw [addressTier, addressTier]
  cases wanted : narrow.autodetectIp with
  | false =>
      rw [if_pos rfl]
      exact List.nil_subset _
  | true =>
      rw [flags.autodetectIp wanted, if_neg Bool.noConfusion, if_neg Bool.noConfusion]
      intro text member
      rw [List.mem_eraseDups] at member ⊢
      obtain ⟨host, known, found⟩ := List.mem_flatMap.mp member
      exact List.mem_flatMap.mpr ⟨host, within known, impaired.addressTexts_subset host found⟩

/-- Fewer registered domains, fewer answers and fewer flags do not make a listing longer. -/
theorem tiers_subset (impaired : working.Impaired failing) (flags : narrow.Within wide)
    {fewer held : List String} (within : fewer ⊆ held) :
    tiers narrow failing fewer ⊆ tiers wide working held := by
  have named : fewer ++ nameTier narrow failing ⊆ held ++ nameTier wide working :=
    List.append_subset.mpr
      ⟨List.subset_append_of_subset_left _ within,
        List.subset_append_of_subset_right _ (nameTier_subset impaired flags)⟩
  rw [tiers, tiers]
  exact List.append_subset.mpr
    ⟨List.subset_append_of_subset_left _ named,
      List.subset_append_of_subset_right _ (addressTier_subset impaired flags named)⟩

end LocalDomains

/-!
## Configuring while lookups fail

A host that cannot look itself up may register its default domain where it
would otherwise have found it listed.  The domain then stands in the way of a
demand that asks for it: the environment asks for its domain without looking,
and a configured name is looked for as it is written but registered in lower
case.  Nothing else makes a configuration fail for want of answers.
-/

namespace Demand

/-! ### Two registries carrying out the same names -/

/--
One registry next to another, with some names to come.  What only the first
holds is a name in lower case, and what only the second holds is in the way of
no name it does not hold as written.
-/
structure Drift (first second : List String) (names : List String) : Prop where
  lowered : ∀ domain ∈ first, domain ∉ second →
    DomainName.isValid domain = true ∧ Text.lower domain = domain
  clear : ∀ domain ∈ second, domain ∉ first →
    ∀ name ∈ names, Text.lower name = domain → name ∈ second

namespace Drift

variable {first second : List String} {name : String} {rest : List String}

theorem passed (drift : Drift first second (name :: rest)) : Drift first second rest where
  lowered := drift.lowered
  clear domain member missing other later :=
    drift.clear domain member missing other (List.mem_cons_of_mem name later)

/-- The first registry gets a name in lower case; the second holds the name as it is written. -/
theorem first_registered (drift : Drift first second rest) {domain : String}
    (valid : DomainName.isValid domain = true) (small : Text.lower domain = domain) :
    Drift (first ++ [domain]) second rest where
  lowered other member missing := by
    rcases List.mem_append.mp member with old | new
    · exact drift.lowered other old missing
    · rw [List.mem_singleton.mp new]
      exact ⟨valid, small⟩
  clear other member missing :=
    drift.clear other member fun old => missing (List.mem_append_left _ old)

/-- The second registry gets a domain that the first one holds. -/
theorem second_registered (drift : Drift first second rest) {domain : String}
    (known : domain ∈ first) : Drift first (second ++ [domain]) rest where
  lowered other member missing :=
    drift.lowered other member fun old => missing (List.mem_append_left _ old)
  clear other member missing later laterMember same := by
    rcases List.mem_append.mp member with old | new
    · exact List.mem_append_left _ (drift.clear other old missing later laterMember same)
    · rw [List.mem_singleton.mp new] at missing
      exact absurd known missing

theorem both_registered (drift : Drift first second rest) (domain : String) :
    Drift (first ++ [domain]) (second ++ [domain]) rest where
  lowered other member missing := by
    rcases List.mem_append.mp member with old | new
    · exact drift.lowered other old fun held => missing (List.mem_append_left _ held)
    · exact absurd (List.mem_append_right _ new) missing
  clear other member missing later laterMember same := by
    rcases List.mem_append.mp member with old | new
    · exact List.mem_append_left _
        (drift.clear other old (fun held => missing (List.mem_append_left _ held)) later
          laterMember same)
    · exact absurd (List.mem_append_right _ new) missing

end Drift

/-- If the first registry carries out the names, so does the second. -/
theorem fulfilled_of_drift {first second names : List String} (drift : Drift first second names)
    (fine : (carryOut first (names.map .named)).refused = none) :
    (carryOut second (names.map .named)).refused = none := by
  induction names generalizing first second with
  | nil => rfl
  | cons name rest ih =>
      rw [List.map_cons] at fine ⊢
      by_cases listed : name ∈ first
      · rw [fulfilled_named_of_mem listed] at fine
        by_cases known : name ∈ second
        · rw [fulfilled_named_of_mem known]
          exact ih drift.passed fine
        · obtain ⟨valid, small⟩ := drift.lowered name listed known
          rw [fulfilled_named_of_not_mem known, small]
          exact ⟨refusal?_eq_none_iff.mpr ⟨valid, known⟩,
            ih (drift.passed.second_registered listed) fine⟩
      · rw [fulfilled_named_of_not_mem listed] at fine
        obtain ⟨accepted, fine⟩ := fine
        obtain ⟨valid, missing⟩ := refusal?_eq_none_iff.mp accepted
        by_cases known : name ∈ second
        · rw [fulfilled_named_of_mem known]
          exact ih (drift.passed.first_registered valid (Text.lower_lower_of_isValid valid)) fine
        · have free : Text.lower name ∉ second := fun held =>
            known (drift.clear _ held missing name (List.mem_cons_self ..) rfl)
          rw [fulfilled_named_of_not_mem known]
          exact ⟨refusal?_eq_none_iff.mpr ⟨valid, free⟩,
            ih (drift.passed.both_registered (Text.lower name)) fine⟩

/-- Where no name is refused, one that is held in lower case is held as it is written. -/
theorem mem_of_lower_mem {held names : List String}
    (fine : (carryOut held (names.map .named)).refused = none) {name : String}
    (member : name ∈ names) (lowered : Text.lower name ∈ held) : name ∈ held := by
  induction names generalizing held with
  | nil => cases member
  | cons first rest ih =>
      rw [List.map_cons] at fine
      by_cases known : first ∈ held
      · rw [fulfilled_named_of_mem known] at fine
        rcases List.mem_cons.mp member with rfl | later
        · exact known
        · exact ih fine later lowered
      · rw [fulfilled_named_of_not_mem known] at fine
        obtain ⟨accepted, fine⟩ := fine
        obtain ⟨valid, missing⟩ := refusal?_eq_none_iff.mp accepted
        rcases List.mem_cons.mp member with rfl | later
        · exact absurd lowered missing
        · rcases List.mem_append.mp (ih fine later (List.mem_append_left _ lowered)) with
            old | new
          · exact old
          · -- The name is one that was just registered, so it is in lower case already.
            have same := List.mem_singleton.mp new
            rw [same, Text.lower_lower_of_isValid valid] at lowered
            exact absurd lowered missing

end Demand

namespace LocalDomains

open Demand

/-! ### Two registries meeting the same demands -/

theorem fulfilled_iff_of_lowered {first second : List String}
    (lowered : ∀ domain ∈ first, domain ∉ second →
      DomainName.isValid domain = true ∧ Text.lower domain = domain)
    {environment : Environment} {names : List String}
    (fine : (carryOut first (demands environment names)).refused = none) :
    (carryOut second (demands environment names)).refused = none ↔
      ∀ domain ∈ second, domain ∉ first →
        environmentDomain? environment ≠ some domain ∧
          ∀ name ∈ names, Text.lower name = domain →
            name ∈ second ∨ environmentDomain? environment = some name := by
  rw [demands] at fine ⊢
  cases wanted : environmentDomain? environment with
  | none =>
      rw [wanted] at fine
      constructor
      · intro fulfilled domain member _
        refine ⟨(Option.some_ne_none domain).symm, ?_⟩
        rintro name asked rfl
        exact Or.inl (mem_of_lower_mem fulfilled asked member)
      · intro clear
        refine fulfilled_of_drift ⟨lowered, ?_⟩ fine
        intro domain member missing name asked same
        exact ((clear domain member missing).2 name asked same).resolve_right
          (Option.some_ne_none name).symm
  | some special =>
      rw [wanted] at fine
      obtain ⟨accepted, fine⟩ := fulfilled_verbatim_iff.mp fine
      obtain ⟨valid, unlisted⟩ := refusal?_eq_none_iff.mp accepted
      constructor
      · intro fulfilled domain member _
        obtain ⟨free, fulfilled⟩ := fulfilled_verbatim_iff.mp fulfilled
        constructor
        · intro same
          rw [← Option.some.inj same] at member
          exact (refusal?_eq_none_iff.mp free).2 member
        · rintro name asked rfl
          have known := mem_of_lower_mem fulfilled asked (List.mem_append_left _ member)
          rcases List.mem_append.mp known with old | new
          · exact Or.inl old
          · exact Or.inr (congrArg some (List.mem_singleton.mp new).symm)
      · intro clear
        have free : special ∉ second := fun held => (clear special held unlisted).1 rfl
        refine fulfilled_verbatim_iff.mpr ⟨refusal?_eq_none_iff.mpr ⟨valid, free⟩, ?_⟩
        have apart : Drift first second [] :=
          ⟨lowered, fun _ _ _ _ asked _ => absurd asked List.not_mem_nil⟩
        refine fulfilled_of_drift ⟨(apart.both_registered special).lowered, ?_⟩ fine
        intro domain member missing name asked same
        have old : domain ∈ second := by
          rcases List.mem_append.mp member with old | new
          · exact old
          · exact absurd (List.mem_append_right _ new) missing
        have unheld : domain ∉ first := fun held => missing (List.mem_append_left _ held)
        rcases (clear domain old unheld).2 name asked same with known | added
        · exact List.mem_append_left _ known
        · rw [Option.some.inj added]
          exact List.mem_append_right _ (List.mem_singleton_self name)

/-! ### The choice with fewer answers -/

/-- What is registered with more answers and not with fewer is the name of the machine. -/
theorem lowered_of_impaired {working failing : Resolver} (impaired : working.Impaired failing)
    (policy : Policy) (held : List String) (configured : String) :
    ∀ domain ∈ heldAfterChoice policy working held configured,
      domain ∉ heldAfterChoice policy failing held configured →
        DomainName.isValid domain = true ∧ Text.lower domain = domain := by
  intro domain member missing
  simp only [heldAfterChoice, List.mem_append, not_or] at member missing
  rcases member with (old | first) | second
  · exact absurd old missing.1.1
  · obtain ⟨rfl, unlisted, valid⟩ := mem_registeredFor_iff.mp first
    have stillUnlisted : domain ∉ tiers policy failing held := fun listed =>
      unlisted (tiers_subset impaired (.refl policy) (List.Subset.refl held) listed)
    exact absurd (mem_registeredFor_iff.mpr ⟨rfl, stillUnlisted, valid⟩) missing.1.2
  · obtain ⟨found, _, valid⟩ := mem_registeredForMachine_iff.mp second
    obtain ⟨name, _, rfl⟩ := machineCandidate?_eq_some found
    exact ⟨valid, Text.lower_lower_of_isValid valid⟩

/-! ### Configuring with fewer answers -/

/--
Suppose a configuration succeeds while all lookups work.  While some of them
fail it still succeeds, unless a domain was registered for want of answers that
is in the way of a demand: the domain of the environment itself, or the
lower-case form of a configured name that is neither held nor registered for
the environment as it is written.
-/
theorem configure_ok_iff_of_impaired {start : LocalDomains Storage}
    (appends : Registry.Appends start.store) {working failing : Resolver}
    (impaired : working.Impaired failing) {environment : Environment} {options : Options}
    (fine : (start.configure working environment options).value.1 = .ok ()) :
    let found := Registry.held (start.choice working options).value.store
    let left := Registry.held (start.choice failing options).value.store
    (start.configure failing environment options).value.1 = .ok () ↔
      ∀ domain ∈ left, domain ∉ found →
        environmentDomain? environment ≠ some domain ∧
          ∀ name ∈ options.domainNames, Text.lower name = domain →
            name ∈ left ∨ environmentDomain? environment = some name := by
  intro found left
  rcases Storage.mirrors_or_closed appends with ⟨memory, mirrors⟩ | closed
  · have result : ∀ resolver, (start.configure resolver environment options).value.1 = _ :=
      fun resolver => (configure_of_mirrors mirrors resolver environment options).1
    rw [result, verdict_eq_ok_iff] at fine ⊢
    simp only [found, left, held_choice_of_mirrors mirrors]
    exact fulfilled_iff_of_lowered
      (lowered_of_impaired impaired _ memory.names options.defaultDomain) fine
  · obtain ⟨unset, unnamed⟩ := configure_of_closed closed fine
    have succeeds : (start.configure failing environment options).value.1 = .ok () := by
      rw [configure_nothing start failing unset unnamed]
    have flagged : (start.withFlags options).store.Closed := closed
    have empty : left = [] := Storage.closed_sealed.held_eq_nil
      (chooseDefault_kept Storage.closed_sealed flagged failing options.defaultDomain)
    refine iff_of_true succeeds ?_
    rw [empty]
    exact nofun

def mailhostTable : HostTable :=
  (HostTable.initial.registerHost "mailhost" (.v4 10 0 0 5) "mailhost").setLocalHost
    (some (.v4 10 0 0 5))

def lostMachine : Resolver :=
  (Faults.none.set [.localAddress] .always).resolver mailhostTable.resolver

theorem configure_ok_iff_of_lost_machine :
    let start := ofStore Storage.blank
    let options : Options := { defaultDomain := "mailhost", domainNames := ["mailhost"] }
    let found := Registry.held (start.choice mailhostTable.resolver options).value.store
    let left := Registry.held (start.choice lostMachine options).value.store
    Registry.Appends start.store ∧ mailhostTable.resolver.Impaired lostMachine ∧
      (start.configure mailhostTable.resolver .empty options).value.1 = .ok () ∧
      ((start.configure lostMachine .empty options).value.1 = .ok () ↔
        ∀ domain ∈ left, domain ∉ found →
          environmentDomain? .empty ≠ some domain ∧
            ∀ name ∈ options.domainNames, Text.lower name = domain →
              name ∈ left ∨ environmentDomain? .empty = some name) :=
  ⟨Storage.appends_memory .empty (.empty []), .of_faults _ _, rfl,
    configure_ok_iff_of_impaired (Storage.appends_memory .empty (.empty [])) (.of_faults _ _) rfl⟩

/--
The domain of the environment is the name of the machine.  The host would list
it, and so would not register it as its default domain, if it found itself.
-/
theorem configure_refused_of_lost_machine :
    let start := ofStore Storage.blank
    let environment := Environment.empty.set domainVariable "mailhost".toUTF8
    let options : Options := { defaultDomain := "mailhost" }
    (start.configure mailhostTable.resolver environment options).value.1 = .ok () ∧
      (start.configure lostMachine environment options).value.1 =
        .error (.registry (.duplicate "mailhost")) :=
  ⟨rfl, rfl⟩

end LocalDomains

end MailHost
