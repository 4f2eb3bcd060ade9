import MailHost.Faults
import MailHost.LocalDomains

/-!
# The listing as three tiers

The listing of a host is the registered domains, then the name of the machine,
then the addresses of all of these.  The tiers are written down here without
the loop that collects addresses, and the listing is shown to be their
concatenation whatever lookups fail.  Only the registry can make it fail.
-/

namespace MailHost

def Resolver.machineName (resolver : Resolver) : Except LookupError String :=
  match resolver.localAddress with
  | .error cause => .error cause
  | .ok address => resolver.hostName address

@[simp]
theorem Resolver.localHostName_value (resolver : Resolver) :
    resolver.localHostName.value = resolver.machineName := by
  unfold Resolver.localHostName Resolver.machineName
  rw [Traced.value_bind, Resolver.value_askLocalAddress]
  cases resolver.localAddress <;> rfl

/-- The texts of the addresses of a host; a lookup that fails gives none. -/
def Resolver.addressTexts (resolver : Resolver) (host : String) : List String :=
  match resolver.addresses host with
  | .error _ => []
  | .ok addresses => addresses.map Address.render

namespace LocalDomains

variable {σ : Type} [Registry σ]

/-! ## The tiers -/

/--
The name of the machine in lower case.  There is none where it is not wanted,
where it is not found, and where it was found to be just `localhost`.
-/
def nameTier (policy : Policy) (resolver : Resolver) : List String :=
  match resolver.machineName with
  | .error _ => []
  | .ok name =>
      if policy.autodetect = false ∨ name = localhost then [] else [Text.lower name]

/-- The texts of the addresses of some hosts where these are wanted, each where it comes first. -/
def addressTier (policy : Policy) (resolver : Resolver) (hosts : List String) : List String :=
  if policy.autodetectIp = false then []
  else (hosts.flatMap resolver.addressTexts).eraseDups

def tiers (policy : Policy) (resolver : Resolver) (registered : List String) : List String :=
  registered ++ nameTier policy resolver ++
    addressTier policy resolver (registered ++ nameTier policy resolver)

/-! ## The listing -/

theorem detectedNames_value (policy : Policy) (resolver : Resolver) :
    (detectedNames policy resolver).value = nameTier policy resolver := by
  unfold detectedNames nameTier
  cases wanted : policy.autodetect with
  | false => cases resolver.machineName <;> simp
  | true =>
      simp only [if_true, Traced.value_bind, Resolver.localHostName_value, Traced.value_pure]
      cases resolver.machineName with
      | error cause => simp [Except.toOption]
      | ok name => by_cases plain : name = localhost <;> simp [Except.toOption, plain]

/-- What was seen so far, without repetitions, is what the addresses are added to. -/
theorem addNew_eraseDups (seen : List String) (addresses : List Address) :
    addNew seen.eraseDups addresses = (seen ++ addresses.map Address.render).eraseDups := by
  induction addresses generalizing seen with
  | nil => simp [addNew]
  | cons address rest ih =>
      have regrouped : seen ++ (address :: rest).map Address.render =
          (seen ++ [address.render]) ++ rest.map Address.render := by simp
      rw [addNew, regrouped, ← ih, List.eraseDups_append]
      by_cases known : address.render ∈ seen
      · have found : seen.eraseDups.contains address.render = true := by
          simpa [List.mem_eraseDups] using known
        rw [if_pos found]
        simp [List.removeAll, known]
      · have notFound : ¬ seen.eraseDups.contains address.render = true := by
          simpa [List.mem_eraseDups] using known
        rw [if_neg notFound]
        simp [List.removeAll, known, List.eraseDups_cons]

/-- The loop over the hosts keeps the texts of all addresses seen, each where it came first. -/
theorem addressesOf_value (resolver : Resolver) (seen hosts : List String) :
    (addressesOf resolver seen.eraseDups hosts).value =
      (seen ++ hosts.flatMap resolver.addressTexts).eraseDups := by
  induction hosts generalizing seen with
  | nil => simp [addressesOf]
  | cons host rest ih =>
      rw [addressesOf, Traced.value_bind, Resolver.value_askAddresses, List.flatMap_cons,
        ← List.append_assoc, ← ih, Resolver.addressTexts]
      cases resolver.addresses host with
      | error cause => simp
      | ok addresses => simp [addNew_eraseDups]

theorem detectedAddresses_value (policy : Policy) (resolver : Resolver) (hosts : List String) :
    (detectedAddresses policy resolver hosts).value = addressTier policy resolver hosts := by
  unfold detectedAddresses addressTier
  cases policy.autodetectIp with
  | false => simp
  | true => simpa using addressesOf_value resolver [] hosts

theorem listing_value (domains : LocalDomains σ) (resolver : Resolver) :
    (domains.listing resolver).value =
      match Registry.list domains.store with
      | .error cause => .error (.registry cause)
      | .ok registered => .ok (tiers domains.policy resolver registered) := by
  rw [listing, Traced.value_bind, Registry.value_askList]
  cases Registry.list domains.store with
  | error cause => rfl
  | ok registered =>
      simp [detectedNames_value, detectedAddresses_value, tiers]

/-! ## Failing lookups -/

theorem addressTexts_faults (faults : Faults) (resolver : Resolver) (host : String) :
    (faults.resolver resolver).addressTexts host =
      if faults.hit (.addresses host) then [] else resolver.addressTexts host := by
  simp only [Resolver.addressTexts, Faults.resolver]
  cases faults.hit (.addresses host) <;> rfl

/-- Hosts whose lookups are made to fail might as well not be looked up. -/
theorem addressTier_faults (policy : Policy) (faults : Faults) (resolver : Resolver)
    (hosts : List String) :
    addressTier policy (faults.resolver resolver) hosts =
      addressTier policy resolver (hosts.filter fun host => !faults.hit (.addresses host)) := by
  have same : hosts.flatMap (faults.resolver resolver).addressTexts =
      (hosts.filter fun host => !faults.hit (.addresses host)).flatMap resolver.addressTexts := by
    induction hosts with
    | nil => rfl
    | cons host rest ih =>
        rw [List.flatMap_cons, ih, addressTexts_faults, List.filter_cons]
        cases faults.hit (.addresses host) <;> simp
  rw [addressTier, addressTier, same]

/--
Whatever lookups fail, the listing has the registered domains, then the name of
the machine, then the addresses of those whose lookup does not fail.  It fails
only where the registry does, and then with the error of the registry.
-/
theorem listing_eq_tiers (domains : LocalDomains σ) (faults : Faults) (resolver : Resolver) :
    let found := (domains.listing (faults.resolver resolver)).value
    let named := nameTier domains.policy (faults.resolver resolver)
    (∀ failure, found = .error failure ↔
      ∃ cause, Registry.list domains.store = .error cause ∧ failure = .registry cause) ∧
    (∀ all, found = .ok all ↔
      ∃ registered, Registry.list domains.store = .ok registered ∧
        all = registered ++ named ++
          addressTier domains.policy resolver
            ((registered ++ named).filter fun host => !faults.hit (.addresses host))) := by
  intro found named
  have value : found = _ := listing_value domains (faults.resolver resolver)
  cases held : Registry.list domains.store with
  | error cause =>
      rw [held] at value
      constructor
      · intro failure
        simp [value, eq_comm]
      · intro all
        simp [value]
  | ok registered =>
      rw [held] at value
      constructor
      · intro failure
        simp [value]
      · intro all
        simp [value, tiers, addressTier_faults, named, eq_comm]

def capitalHost : Resolver :=
  ((HostTable.initial.registerHost "MAILHOST" (.v4 10 0 0 5) "mailhost").setLocalHost
    (some (.v4 10 0 0 5))).resolver

/-- The name of the machine is listed in lower case; what is registered is listed as it is. -/
example :
    ((ofStore (MemoryRegistry.mk ["Nyble.Dev"])).listing capitalHost).value =
      .ok ["Nyble.Dev", "mailhost"] := by
  rfl

end LocalDomains

end MailHost
