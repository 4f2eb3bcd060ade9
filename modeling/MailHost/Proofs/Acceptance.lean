import MailHost.Proofs.FailingLookups

/-!
# Which domains are accepted

A host accepts mail for what it lists, and the more is registered, the more it
accepts.
-/

namespace MailHost

/-!
## Membership and the listing

Whether a host accepts mail for a domain is asked of the registry first, and of
the listing only if the registry does not contain the domain.  Both ways say
the same as long as the registry contains what it lists, and faults cannot
change that: a call that they let through is answered as it would be without
them.  What cannot be answered is the fault of the registry alone.
-/

namespace Faulty

variable {σ : Type} [Registry σ] {faulty : Faulty σ}

theorem list_inner {names : List String} (listed : Registry.list faulty = .ok names) :
    Registry.list faulty.inner = .ok names := by
  rw [list_eq] at listed
  split at listed
  · cases listed
  · exact listed

theorem contains_inner {domain : String} {known : Bool}
    (contained : Registry.contains faulty domain = .ok known) :
    Registry.contains faulty.inner domain = .ok known := by
  rw [contains_eq] at contained
  split at contained
  · cases contained
  · exact contained

/-- A registry whose calls are let through contains what it lists. -/
theorem contained_eq_mem [LawfulRegistry σ] {domain : String} {known : Bool}
    {names : List String} (contained : Registry.contains faulty domain = .ok known)
    (listed : Registry.list faulty = .ok names) : known = decide (domain ∈ names) := by
  have inside := contains_inner contained
  rw [LawfulRegistry.contains_eq, list_inner listed] at inside
  rw [← Except.ok.inj inside]
  exact List.contains_eq_mem ..

end Faulty

namespace LocalDomains

variable {σ : Type} [Registry σ]

/-- A listing that was found has what the registry lists at its start. -/
theorem registered_of_listing {domains : LocalDomains σ} {resolver : Resolver}
    {all : List String} (found : (domains.listing resolver).value = .ok all) :
    ∃ registered, Registry.list domains.store = .ok registered ∧
      all = tiers domains.policy resolver registered := by
  rw [listing_value] at found
  cases listed : Registry.list domains.store with
  | error cause => rw [listed] at found; cases found
  | ok registered =>
      rw [listed] at found
      exact ⟨registered, rfl, (Except.ok.inj found).symm⟩

theorem listing_eq_error_iff {domains : LocalDomains σ} {resolver : Resolver}
    {failure : DomainsError} :
    (domains.listing resolver).value = .error failure ↔
      ∃ cause, failure = .registry cause ∧ Registry.list domains.store = .error cause := by
  rw [listing_value]
  cases Registry.list domains.store with
  | error cause => simp [eq_comm]
  | ok registered => simp

theorem accepts_of_contained {domains : LocalDomains σ} {domain : String}
    (contained : Registry.contains domains.store domain = .ok true) (resolver : Resolver) :
    (domains.accepts resolver domain).value = .ok true := by
  rw [accepts, Traced.value_bind, Registry.value_askContains, contained]
  rfl

/-- What the registry does not contain is looked for in the listing. -/
theorem accepts_of_not_contained {domains : LocalDomains σ} {domain : String}
    (contained : Registry.contains domains.store domain = .ok false) (resolver : Resolver) :
    (domains.accepts resolver domain).value =
      (domains.listing resolver).value.map (·.contains domain) := by
  rw [accepts, Traced.value_bind, Registry.value_askContains, contained]
  simp only [Traced.value_bind]
  cases (domains.listing resolver).value <;> rfl

theorem accepts_eq_error_iff {domains : LocalDomains σ} {resolver : Resolver} {domain : String}
    {failure : DomainsError} :
    (domains.accepts resolver domain).value = .error failure ↔
      ∃ cause, failure = .registry cause ∧
        (Registry.contains domains.store domain = .error cause ∨
          Registry.contains domains.store domain = .ok false ∧
            Registry.list domains.store = .error cause) := by
  match contained : Registry.contains domains.store domain with
  | .error cause =>
      rw [accepts, Traced.value_bind, Registry.value_askContains, contained]
      simp [eq_comm]
  | .ok true => simp [accepts_of_contained contained]
  | .ok false =>
      have listing : (domains.accepts resolver domain).value = .error failure ↔
          (domains.listing resolver).value = .error failure := by
        rw [accepts_of_not_contained contained]
        cases (domains.listing resolver).value <;> simp [Except.map]
      rw [listing, listing_eq_error_iff]
      simp

end LocalDomains

namespace Session

open LocalDomains

/--
In any state of a session, whatever lookups fail, the host accepts mail for
just the domains it lists, case counting, as long as the registry can be asked
for both.  The question fails only where the registry does, and then with the
error of the registry.
-/
theorem accepts_iff_mem_listing (session : Session) (domain : String) :
    let contained := Registry.contains session.registry domain
    let listed := (session.domains.listing session.resolver).value
    let accepted := (session.domains.accepts session.resolver domain).value
    (∀ known all, contained = .ok known → listed = .ok all →
      accepted = .ok (decide (domain ∈ all))) ∧
    (∀ failure, accepted = .error failure ↔
      ∃ cause, failure = .registry cause ∧
        (contained = .error cause ∨
          contained = .ok false ∧ Registry.list session.registry = .error cause)) := by
  intro contained listed accepted
  refine ⟨?_, fun failure => accepts_eq_error_iff⟩
  intro known all asked found
  obtain ⟨registered, held, whole⟩ := registered_of_listing found
  have knownEq := Faulty.contained_eq_mem asked held
  cases known with
  | true =>
      have member : domain ∈ registered := of_decide_eq_true knownEq.symm
      have also : domain ∈ all := by
        rw [whole]
        exact held_subset_tiers _ _ _ member
      rw [decide_eq_true also]
      exact accepts_of_contained asked session.resolver
  | false =>
      have missed : accepted = listed.map (·.contains domain) :=
        accepts_of_not_contained asked session.resolver
      rw [missed, found, Except.map, List.contains_eq_mem]

/-- A registry file edited by hand, with the lookup of one host made to fail. -/
def editedByHand : Session :=
  (Session.start
      ⟨.file "domains.list",
        (FileTree.empty []).write "domains.list" "# local\n  nyble.dev".toUTF8⟩
      .empty).after
    [.fault [.addresses] (.only "nyble.dev")]

theorem accepts_iff_mem_listing_edited_by_hand :
    let accepted := (editedByHand.domains.accepts editedByHand.resolver "127.0.0.1").value
    Registry.contains editedByHand.registry "127.0.0.1" = .ok false ∧
      (editedByHand.domains.listing editedByHand.resolver).value =
        .ok ["nyble.dev", "127.0.0.1", "127.0.0.1"] ∧
      accepted = .ok (decide ("127.0.0.1" ∈ ["nyble.dev", "127.0.0.1", "127.0.0.1"])) ∧
      (∀ failure, accepted = .error failure ↔
        ∃ cause, failure = .registry cause ∧
          (Registry.contains editedByHand.registry "127.0.0.1" = .error cause ∨
            Registry.contains editedByHand.registry "127.0.0.1" = .ok false ∧
              Registry.list editedByHand.registry = .error cause)) := by
  have contained : Registry.contains editedByHand.registry "127.0.0.1" = .ok false := by rfl
  have listed : (editedByHand.domains.listing editedByHand.resolver).value =
      .ok ["nyble.dev", "127.0.0.1", "127.0.0.1"] := by rfl
  obtain ⟨agree, fails⟩ := accepts_iff_mem_listing editedByHand "127.0.0.1"
  exact ⟨contained, listed, agree _ _ contained listed, fails⟩

end Session

/-!
## Acceptance grows

A host accepts mail for every domain for which another one does, if it has all
registered domains of the other and all its flags on.  The addresses are listed
without repetitions, so which host an address is listed for depends on the
order of the registered domains, but whether it is listed does not.
-/

/-- A registry that answers what another one answers, and holds what that one holds. -/
structure Registry.Outgrown {σ : Type} [Registry σ] (before after : σ) : Prop where
  contains : ∀ {domain known}, Registry.contains before domain = .ok known →
    ∃ now, Registry.contains after domain = .ok now ∧ (known = true → now = true)
  list : ∀ {names}, Registry.list before = .ok names →
    ∃ more, Registry.list after = .ok more ∧ names ⊆ more

theorem MemoryRegistry.outgrown_of_subset {before after : MemoryRegistry}
    (within : before.names ⊆ after.names) : Registry.Outgrown before after := by
  constructor
  · intro domain known asked
    cases asked
    refine ⟨after.names.contains domain, rfl, ?_⟩
    intro member
    exact List.contains_iff_mem.mpr (within (List.contains_iff_mem.mp member))
  · intro names listed
    cases listed
    exact ⟨after.names, rfl, within⟩

namespace LocalDomains

section

variable {σ : Type} [Registry σ] {domains : LocalDomains σ} {resolver : Resolver}
  {domain : String}

/-! ### What an answer says -/

theorem accepts_true_iff :
    (domains.accepts resolver domain).value = .ok true ↔
      Registry.contains domains.store domain = .ok true ∨
        Registry.contains domains.store domain = .ok false ∧
          ∃ all, (domains.listing resolver).value = .ok all ∧ domain ∈ all := by
  cases contained : Registry.contains domains.store domain with
  | error cause =>
      rw [accepts, Traced.value_bind, Registry.value_askContains, contained]
      simp
  | ok known =>
      cases known with
      | true => simp [accepts_of_contained contained]
      | false =>
          rw [accepts_of_not_contained contained]
          cases (domains.listing resolver).value <;> simp [Except.map]

theorem accepts_false_iff :
    (domains.accepts resolver domain).value = .ok false ↔
      Registry.contains domains.store domain = .ok false ∧
        ∃ all, (domains.listing resolver).value = .ok all ∧ domain ∉ all := by
  cases contained : Registry.contains domains.store domain with
  | error cause =>
      rw [accepts, Traced.value_bind, Registry.value_askContains, contained]
      simp
  | ok known =>
      cases known with
      | true => simp [accepts_of_contained contained]
      | false =>
          rw [accepts_of_not_contained contained]
          cases (domains.listing resolver).value <;> simp [Except.map]

/-! ### Two hosts -/

/-- What is listed stays listed when the registry grows and flags are turned on. -/
theorem listed_of_outgrown {few many : LocalDomains σ}
    (outgrown : Registry.Outgrown few.store many.store)
    (flags : few.policy.Within many.policy) {all : List String}
    (found : (few.listing resolver).value = .ok all) :
    ∃ more, (many.listing resolver).value = .ok more ∧ all ⊆ more := by
  obtain ⟨names, listed, whole⟩ := registered_of_listing found
  obtain ⟨held, again, within⟩ := outgrown.list listed
  refine ⟨tiers many.policy resolver held, ?_, ?_⟩
  · rw [listing_value, again]
  · rw [whole]
    exact tiers_subset (.refl resolver) flags within

theorem accepts_of_outgrown {few many : LocalDomains σ}
    (outgrown : Registry.Outgrown few.store many.store)
    (flags : few.policy.Within many.policy)
    (accepted : (few.accepts resolver domain).value = .ok true) :
    (many.accepts resolver domain).value = .ok true := by
  rw [accepts_true_iff] at accepted ⊢
  rcases accepted with contained | ⟨unknown, all, found, member⟩
  · obtain ⟨now, answered, still⟩ := outgrown.contains contained
    rw [still rfl] at answered
    exact Or.inl answered
  · obtain ⟨now, answered, _⟩ := outgrown.contains unknown
    cases now with
    | true => exact Or.inl answered
    | false =>
        obtain ⟨more, listed, within⟩ := listed_of_outgrown outgrown flags found
        exact Or.inr ⟨answered, more, listed, within member⟩

end

end LocalDomains

/-! ### Adding one domain after the other -/

/-- The registry after some domains were added, those that are refused left out. -/
def MemoryRegistry.addAll (registry : MemoryRegistry) : List String → MemoryRegistry
  | [] => registry
  | domain :: rest => addAll (Registry.add registry domain).2 rest

theorem MemoryRegistry.mem_add_iff (registry : MemoryRegistry) (added domain : String) :
    domain ∈ (Registry.add registry added).2.names ↔
      domain ∈ registry.names ∨ domain = added ∧ DomainName.isValid domain = true := by
  rw [add_value, refusal?]
  cases valid : DomainName.isValid added with
  | false =>
      have refused : ¬ (domain = added ∧ DomainName.isValid domain = true) := by
        rintro ⟨rfl, name⟩
        rw [valid] at name
        cases name
      simp [refused]
  | true =>
      by_cases known : added ∈ registry.names
      · have held : domain = added → domain ∈ registry.names := fun same => same ▸ known
        simp only [Bool.true_eq_false, if_false, known, if_true]
        exact ⟨Or.inl, fun either => either.elim id fun named => held named.1⟩
      · have named : domain = added → DomainName.isValid domain = true := fun same => same ▸ valid
        simp only [Bool.true_eq_false, if_false, known, List.mem_append, List.mem_singleton]
        exact or_congr_right ⟨fun same => ⟨same, named same⟩, And.left⟩

/-- In what order domains are added, and how often, does not count for which ones are held. -/
theorem MemoryRegistry.mem_addAll_iff (registry : MemoryRegistry) (added : List String)
    (domain : String) :
    domain ∈ (registry.addAll added).names ↔
      domain ∈ registry.names ∨ domain ∈ added ∧ DomainName.isValid domain = true := by
  induction added generalizing registry with
  | nil => simp [addAll]
  | cons first rest ih =>
      rw [addAll, ih, mem_add_iff, List.mem_cons, or_assoc, or_and_right]

theorem MemoryRegistry.addAll_subset (registry : MemoryRegistry) {few many : List String}
    (within : few ⊆ many) : (registry.addAll few).names ⊆ (registry.addAll many).names := by
  intro domain member
  rw [mem_addAll_iff] at member ⊢
  exact member.imp id fun added => ⟨within added.1, added.2⟩

namespace LocalDomains

/-! ### Hosts with a registry in memory -/

def inMemory (policy : Policy) (names : List String) : LocalDomains MemoryRegistry :=
  ⟨⟨names⟩, policy⟩

/--
Whatever lookups fail, a host accepts mail for every domain for which a host
does that has no domains and no flags which it lacks.  So only the set of the
registered domains counts.  What is accepted after some domains were added is
accepted after more of them were, in whatever order.
-/
theorem acceptance_grows (resolver : Resolver) {narrow wide : Policy}
    (flags : narrow.Within wide) (domain : String) :
    (∀ few many : List String, few ⊆ many →
      ((inMemory narrow few).accepts resolver domain).value = .ok true →
        ((inMemory wide many).accepts resolver domain).value = .ok true) ∧
    (∀ held other : List String, (∀ name, name ∈ held ↔ name ∈ other) →
      ((inMemory wide held).accepts resolver domain).value =
        ((inMemory wide other).accepts resolver domain).value) ∧
    (∀ (registry : MemoryRegistry) (few many : List String), few ⊆ many →
      ((inMemory narrow (registry.addAll few).names).accepts resolver domain).value = .ok true →
        ((inMemory wide (registry.addAll many).names).accepts resolver domain).value =
          .ok true) := by
  have grows : ∀ {first second : Policy}, first.Within second → ∀ {few many : List String},
      few ⊆ many → ((inMemory first few).accepts resolver domain).value = .ok true →
        ((inMemory second many).accepts resolver domain).value = .ok true := by
    intro first second flags few many within accepted
    exact accepts_of_outgrown (MemoryRegistry.outgrown_of_subset within) flags accepted
  refine ⟨fun few many => grows flags, ?_, ?_⟩
  · intro held other same
    have there : held ⊆ other := fun name member => (same name).mp member
    have back : other ⊆ held := fun name member => (same name).mpr member
    rw [accepts_value, accepts_value]
    refine congrArg Except.ok (decide_eq_decide.mpr ⟨?_, ?_⟩)
    · intro listed
      exact tiers_subset (.refl resolver) (.refl wide) there listed
    · intro listed
      exact tiers_subset (.refl resolver) (.refl wide) back listed
  · intro registry few many within
    exact grows flags (registry.addAll_subset within)

def sharedAddress : HostTable :=
  (HostTable.initial.registerHost "nyble.dev" (.v4 10 0 0 7) "nyble.dev").registerHost
    "nove.dev" (.v4 10 0 0 7) "nove.dev"

theorem acceptance_grows_shared_address :
    let resolver := (Faults.none.set [.localAddress] .always).resolver sharedAddress.resolver
    let narrow : Policy := { autodetect := false }
    let few := ["nyble.dev"]
    let many := ["nove.dev", "nyble.dev"]
    let repeated := ["nyble.dev", "nove.dev", "nyble.dev"]
    let shared := fun policy names =>
      ((inMemory policy names).accepts resolver "10.0.0.7").value
    narrow.Within {} ∧ few ⊆ many ∧ (∀ name, name ∈ many ↔ name ∈ repeated) ∧
      shared narrow few = .ok true ∧ shared {} many = .ok true ∧
      shared {} many = shared {} repeated ∧
      shared narrow (MemoryRegistry.empty.addAll few).names = .ok true ∧
      shared {} (MemoryRegistry.empty.addAll many).names = .ok true := by
  intro resolver narrow few many repeated shared
  have flags : narrow.Within {} := ⟨nofun, id⟩
  have within : few ⊆ many := List.subset_cons_self ..
  have same : ∀ name, name ∈ many ↔ name ∈ repeated := by
    intro name
    simp only [many, repeated, List.mem_cons, List.not_mem_nil, or_false]
    constructor
    · exact Or.inr
    · exact fun either => either.elim Or.inr id
  have accepted : shared narrow few = .ok true := by rfl
  have added : shared narrow (MemoryRegistry.empty.addAll few).names = .ok true := by rfl
  obtain ⟨grows, unordered, adding⟩ := acceptance_grows resolver flags "10.0.0.7"
  exact ⟨flags, within, same, accepted, grows few many within accepted,
    unordered many repeated same, added, adding .empty few many within added⟩

end LocalDomains

end MailHost
