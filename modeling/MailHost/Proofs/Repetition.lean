import MailHost.Proofs.FailingLookups

/-!
# Configuring again

What a successful configuration registered is still there when the same
options are applied again, so the default domain is found and nothing is added.
The demands are another matter: a name that was registered in lower case is
not found as it is written, and the domain of the environment is not looked
for at all.
-/

namespace MailHost

namespace Demand

/-! ## Demands carried out again -/

theorem held_subset_carryOut (held : List String) (demands : List Demand) :
    held ⊆ (carryOut held demands).held := by
  obtain ⟨added, grown, _⟩ := carryOut_stopped held demands
  rw [grown]
  exact List.subset_append_left held added

/-- Each name is held as it is written or in lower case. -/
def Settled (held names : List String) : Prop :=
  ∀ name ∈ names, name ∈ held ∨ Text.lower name ∈ held

theorem settled_of_fulfilled {held names : List String}
    (fine : (carryOut held (names.map .named)).refused = none) :
    Settled (carryOut held (names.map .named)).held names := by
  intro name member
  rw [mem_carryOut_names_iff fine, mem_carryOut_names_iff fine]
  by_cases known : name ∈ held
  · exact Or.inl (Or.inl known)
  · exact Or.inr (Or.inr ⟨name, member, known, rfl⟩)

theorem refused_of_mem {held : List String} {demand : Demand} {domain : String}
    (rest : List Demand) (wanted : demand.addition? held = some domain)
    (known : domain ∈ held) :
    (carryOut held (demand :: rest)).held = held ∧
      (carryOut held (demand :: rest)).refused ≠ none := by
  cases refusal : refusal? held domain with
  | none => exact absurd known (refusal?_eq_none_iff.mp refusal).2
  | some cause =>
      rw [carryOut_refused rest wanted refusal]
      exact ⟨rfl, nofun⟩

/-- Settled names add nothing, and are fulfilled when all are held as they are written. -/
theorem carryOut_of_settled {held names : List String} (settled : Settled held names) :
    (carryOut held (names.map .named)).held = held ∧
      ((carryOut held (names.map .named)).refused = none ↔ ∀ name ∈ names, name ∈ held) := by
  induction names with
  | nil => exact ⟨rfl, iff_of_true rfl nofun⟩
  | cons name rest ih =>
      obtain ⟨same, fulfilled⟩ := ih fun other member =>
        settled other (List.mem_cons_of_mem name member)
      rw [List.map_cons]
      by_cases known : name ∈ held
      · have passed : (Demand.named name).addition? held = none := if_pos known
        rw [carryOut_passed _ passed, List.forall_mem_cons]
        exact ⟨same, fulfilled.trans ⟨fun all => ⟨known, all⟩, And.right⟩⟩
      · have wanted : (Demand.named name).addition? held = some (Text.lower name) := if_neg known
        have lowered := (settled name (List.mem_cons_self ..)).resolve_left known
        obtain ⟨kept, refused⟩ := refused_of_mem (rest.map .named) wanted lowered
        refine ⟨kept, iff_of_false refused ?_⟩
        intro all
        exact known (all name (List.mem_cons_self ..))

end Demand

namespace LocalDomains

open Demand

/-- What carrying out all demands leaves holds each name, and the domain of the environment. -/
theorem demands_settled {held : List String} {environment : Environment} {names : List String}
    (fine : (carryOut held (demands environment names)).refused = none) :
    Settled (carryOut held (demands environment names)).held names ∧
      ∀ domain, environmentDomain? environment = some domain →
        domain ∈ (carryOut held (demands environment names)).held := by
  rw [demands] at fine ⊢
  cases wanted : environmentDomain? environment with
  | none =>
      rw [wanted] at fine
      refine ⟨settled_of_fulfilled fine, ?_⟩
      intro domain named
      cases named
  | some special =>
      rw [wanted] at fine
      obtain ⟨accepted, fine⟩ := fulfilled_verbatim_iff.mp fine
      have asked : (Demand.verbatim special).addition? held = some special := rfl
      have grown : (carryOut held (.verbatim special :: names.map .named)).held =
          (carryOut (held ++ [special]) (names.map .named)).held := by
        rw [carryOut_registered (names.map .named) asked accepted]
        rfl
      rw [Option.toList_some, List.map_singleton, List.singleton_append, grown]
      refine ⟨settled_of_fulfilled fine, ?_⟩
      intro domain same
      rw [← Option.some.inj same]
      exact held_subset_carryOut _ _ (List.mem_append_right _ (List.mem_singleton_self _))

theorem demands_again {later : List String} {environment : Environment} {names : List String}
    (settled : Settled later names)
    (known : ∀ domain, environmentDomain? environment = some domain → domain ∈ later) :
    (carryOut later (demands environment names)).held = later ∧
      (environmentDomain? environment = none →
        ((carryOut later (demands environment names)).refused = none ↔
          ∀ name ∈ names, name ∈ later)) := by
  rw [demands]
  cases wanted : environmentDomain? environment with
  | none =>
      obtain ⟨same, fulfilled⟩ := carryOut_of_settled settled
      exact ⟨same, fun _ => fulfilled⟩
  | some special =>
      have asked : (Demand.verbatim special).addition? later = some special := rfl
      obtain ⟨kept, _⟩ := refused_of_mem (names.map .named) asked (known special wanted)
      exact ⟨kept, fun unset => absurd unset (Option.some_ne_none special)⟩

/-! ## The default domain chosen again -/

section Choice

variable {first second : Policy} {resolver : Resolver} {held later : List String}
  {configured : String}

theorem registeredFor_again {candidate : String} (within : held ⊆ later)
    (registered : registeredFor first resolver held candidate ⊆ later) :
    registeredFor first resolver later candidate = [] := by
  apply List.eq_nil_iff_forall_not_mem.mpr
  intro domain member
  obtain ⟨rfl, unlisted, valid⟩ := mem_registeredFor_iff.mp member
  by_cases listed : domain ∈ tiers first resolver held
  · exact unlisted (tiers_subset (.refl resolver) (.refl first) within listed)
  · have added := registered (mem_registeredFor_iff.mpr ⟨rfl, listed, valid⟩)
    exact unlisted (held_subset_tiers first resolver later added)

/-- What is held after a choice and more makes the same choice without registering anything. -/
theorem heldAfterChoice_again
    (within : heldAfterChoice first resolver held configured ⊆ later) :
    heldAfterChoice first resolver later configured = later := by
  rw [heldAfterChoice] at within
  obtain ⟨start, machine⟩ := List.append_subset.mp within
  obtain ⟨old, configuredFor⟩ := List.append_subset.mp start
  have nothing := registeredFor_again old configuredFor
  have nothingMore : registeredForMachine first resolver later configured = [] := by
    rw [registeredForMachine] at machine ⊢
    cases found : machineCandidate? resolver configured with
    | none => rfl
    | some name =>
        rw [found] at machine
        exact registeredFor_again start machine
  simp only [heldAfterChoice, nothing, List.append_nil, nothingMore]

theorem Acceptable.again {candidate : String}
    (acceptable : Acceptable first resolver held candidate) (within : held ⊆ later)
    (flags : tiers second resolver = tiers first resolver) :
    Acceptable second resolver later candidate := by
  rw [Acceptable, flags]
  exact acceptable.imp (fun listed => tiers_subset (.refl resolver) (.refl first) within listed) id

/-- A candidate that became acceptable is no domain name, and was found among later domains. -/
theorem listed_of_acceptable {candidate : String}
    (refused : ¬ Acceptable first resolver held candidate)
    (acceptable : Acceptable second resolver later candidate) :
    DomainName.isValid candidate = false ∧ candidate ∉ tiers first resolver held ∧
      candidate ∈ tiers second resolver later := by
  rw [Acceptable, not_or, Bool.not_eq_true] at refused
  refine ⟨refused.2, refused.1, acceptable.resolve_right ?_⟩
  rw [refused.2]
  exact Bool.false_ne_true

/--
The second choice makes the same domain the default, or neither choice makes
any, or the second finds one that only later domains led to.
-/
theorem defaultAfterChoice_again
    (within : heldAfterChoice first resolver held configured ⊆ later)
    (flags : tiers second resolver = tiers first resolver) :
    let before := defaultAfterChoice first resolver held configured
    let after := defaultAfterChoice second resolver later configured
    after = before ∨
      before = first.defaultDomain ∧ after = second.defaultDomain ∨
      ∃ candidate, after = some candidate ∧ DomainName.isValid candidate = false ∧
        candidate ∉ tiers first resolver held ∧ candidate ∈ tiers second resolver later := by
  intro before after
  have start : held ++ registeredFor first resolver held configured ⊆ later :=
    (List.append_subset.mp within).1
  have old : held ⊆ later := (List.append_subset.mp start).1
  have quiet : registeredFor second resolver later configured = [] := by
    rw [registeredFor, flags]
    exact registeredFor_again old (List.append_subset.mp start).2
  by_cases acceptable : Acceptable first resolver held configured
  · have again : Acceptable second resolver later configured := acceptable.again old flags
    simp only [before, after, defaultAfterChoice, if_pos acceptable, if_pos again, quiet,
      List.append_nil]
    cases machineCandidate? resolver configured with
    | none => exact Or.inl rfl
    | some name =>
        by_cases named : Acceptable first resolver
            (held ++ registeredFor first resolver held configured) name
        · have renamed : Acceptable second resolver later name := named.again start flags
          exact Or.inl (by simp only [if_pos named, if_pos renamed])
        · by_cases found : Acceptable second resolver later name
          · obtain ⟨invalid, missing, listed⟩ := listed_of_acceptable named found
            have unlisted : name ∉ tiers first resolver held := fun early =>
              missing
                (tiers_subset (.refl resolver) (.refl first) (List.subset_append_left ..) early)
            simp only [if_pos found]
            exact Or.inr (Or.inr ⟨name, rfl, invalid, unlisted, listed⟩)
          · exact Or.inl (by simp only [if_neg named, if_neg found])
  · by_cases found : Acceptable second resolver later configured
    · have ordinary : configured ≠ localhost := by
        rintro rfl
        exact acceptable (Or.inr isValid_localhost)
      have unnamed : machineCandidate? resolver configured = none := if_neg ordinary
      simp only [after, defaultAfterChoice, if_pos found, unnamed]
      exact Or.inr (Or.inr ⟨configured, rfl, listed_of_acceptable acceptable found⟩)
    · have keptBefore : before = first.defaultDomain := if_neg acceptable
      have keptAfter : after = second.defaultDomain := if_neg found
      exact Or.inr (Or.inl ⟨keptBefore, keptAfter⟩)

end Choice

/-! ## The whole of configuring again -/

/--
Apply options a second time to what a first time left, on the same host or on
another one with that registry.  The second time changes no entry.  Each
configured name is held as it is written or in lower case, and where the
environment names no domain the second time succeeds just when each is held as
it is written.  It makes the same domain the default, unless neither time
made any, or the second found one that is no domain name and that the host did
not accept before the first.
-/
theorem configure_again {start again done : LocalDomains Storage}
    (appends : Registry.Appends start.store) {resolver : Resolver}
    {environment : Environment} {options : Options}
    (once : (start.configure resolver environment options).value = (.ok (), done))
    (same : again.store = done.store) :
    let repeated := (again.configure resolver environment options).value
    Registry.list repeated.2.store = Registry.list done.store ∧
      (∀ name ∈ options.domainNames, Registry.contains done.store name = .ok true ∨
        Registry.contains done.store (Text.lower name) = .ok true) ∧
      (environmentDomain? environment = none →
        (repeated.1 = .ok () ↔
          ∀ name ∈ options.domainNames, Registry.contains done.store name = .ok true)) ∧
      (repeated.2.policy.defaultDomain = done.policy.defaultDomain ∨
        done.policy.defaultDomain = start.policy.defaultDomain ∧
            repeated.2.policy.defaultDomain = again.policy.defaultDomain ∨
        ∃ candidate, repeated.2.policy.defaultDomain = some candidate ∧
          DomainName.isValid candidate = false ∧
          ((start.withFlags options).accepts resolver candidate).value = .ok false ∧
          (done.accepts resolver candidate).value = .ok true) := by
  intro repeated
  have flags : tiers (again.withFlags options).policy resolver =
      tiers (start.withFlags options).policy resolver := rfl
  rcases Storage.mirrors_or_closed appends with ⟨memory, mirrors⟩ | closed
  · let held := heldAfterChoice (start.withFlags options).policy resolver memory.names
      options.defaultDomain
    let later := (carryOut held (demands environment options.domainNames)).held
    obtain ⟨fine, doneStore, donePolicy⟩ :=
      configure_of_mirrors mirrors resolver environment options
    rw [once] at fine doneStore donePolicy
    have againStore : again.store.Mirrors ⟨later⟩ := by
      rw [same]
      exact doneStore
    obtain ⟨result, stores, policy⟩ :=
      configure_of_mirrors againStore resolver environment options
    have within : held ⊆ later := held_subset_carryOut held _
    have quiet : heldAfterChoice (again.withFlags options).policy resolver later
        options.defaultDomain = later := heldAfterChoice_again within
    obtain ⟨settled, special⟩ := demands_settled (verdict_eq_ok_iff.mp fine.symm)
    obtain ⟨kept, fulfilledAgain⟩ := demands_again settled special
    rw [quiet] at result stores
    rw [kept] at stores
    have doneNames := Storage.list_of_mirrors doneStore
    have listed : ∀ name, Registry.contains done.store name = .ok true ↔ name ∈ later := by
      intro name
      rw [LawfulRegistry.contains_eq, doneNames]
      simp [Except.map, later, held]
    refine ⟨(Storage.list_of_mirrors stores).trans doneNames.symm, ?_, ?_, ?_⟩
    · simp only [listed]
      exact settled
    · intro unset
      simp only [listed]
      rw [result, verdict_eq_ok_iff]
      exact fulfilledAgain unset
    · rw [policy, donePolicy]
      refine (defaultAfterChoice_again within flags).imp id (Or.imp id ?_)
      rintro ⟨candidate, chosen, unnamed, missing, found⟩
      have before : ((start.withFlags options).accepts resolver candidate).value = .ok false :=
        accepts_eq_false_iff.mpr ⟨memory.names, Storage.list_of_mirrors mirrors, missing⟩
      refine ⟨candidate, chosen, unnamed, before,
        accepts_eq_true_iff.mpr ⟨later, doneNames, ?_⟩⟩
      rw [donePolicy]
      exact found
  · have fine : (start.configure resolver environment options).value.1 = .ok () := by rw [once]
    obtain ⟨unset, unnamed⟩ := configure_of_closed closed fine
    have first : done = (start.choice resolver options).value := by
      rw [configure_nothing start resolver unset unnamed] at once
      exact (congrArg Prod.snd once).symm
    have second : repeated = (.ok (), (again.choice resolver options).value) :=
      configure_nothing again resolver unset unnamed
    have flagged : (start.withFlags options).store.Closed := closed
    have carried : (again.withFlags options).store =
        ((start.withFlags options).chooseDefault resolver options.defaultDomain).value.store := by
      change again.store = (start.choice resolver options).value.store
      rw [same, first]
    obtain ⟨stores, chosen⟩ := chooseDefault_again_of_sealed Storage.closed_sealed flagged resolver
      options.defaultDomain flags carried
    rw [second, first, unnamed]
    exact ⟨congrArg Registry.list stores, nofun, fun _ => iff_of_true rfl nofun,
      chosen.imp id Or.inl⟩

theorem configure_again_lowercase :
    let start := ofStore Storage.blank
    let options : Options := { defaultDomain := "genbyte.dev", domainNames := ["nyble.dev"] }
    let done := (start.configure HostTable.initial.resolver .empty options).value.2
    let repeated := (done.configure HostTable.initial.resolver .empty options).value
    Registry.Appends start.store ∧
      (start.configure HostTable.initial.resolver .empty options).value = (.ok (), done) ∧
      Registry.list repeated.2.store = Registry.list done.store ∧
      (∀ name ∈ options.domainNames, Registry.contains done.store name = .ok true ∨
        Registry.contains done.store (Text.lower name) = .ok true) ∧
      (environmentDomain? .empty = none →
        (repeated.1 = .ok () ↔
          ∀ name ∈ options.domainNames, Registry.contains done.store name = .ok true)) ∧
      (repeated.2.policy.defaultDomain = done.policy.defaultDomain ∨
        done.policy.defaultDomain = start.policy.defaultDomain ∧
            repeated.2.policy.defaultDomain = done.policy.defaultDomain ∨
        ∃ candidate, repeated.2.policy.defaultDomain = some candidate ∧
          DomainName.isValid candidate = false ∧
          ((start.withFlags options).accepts HostTable.initial.resolver candidate).value =
            .ok false ∧
          (done.accepts HostTable.initial.resolver candidate).value = .ok true) :=
  ⟨Storage.appends_memory .empty (.empty []), rfl,
    configure_again (Storage.appends_memory .empty (.empty [])) rfl rfl⟩

abbrev Configured := Except DomainsError Unit × LocalDomains Storage

def configureTwice (store : Storage) (resolver : Resolver) (environment : Environment)
    (options : Options) : Configured × Configured :=
  let first := ((ofStore store).configure resolver environment options).value
  (first, (first.2.configure resolver environment options).value)

/-- The host `nyble.dev` has the loopback address of the other kind. -/
def nybleTable : HostTable :=
  HostTable.initial.registerHost "nyble.dev" (.v6 0 0 0 0 0 0 0 1) "nyble.dev"

def plainOptions : Options :=
  { autodetect := false, autodetectIp := false, defaultDomain := "genbyte.dev" }

def capitalTwice : Configured × Configured :=
  configureTwice Storage.blank nybleTable.resolver .empty
    { plainOptions with domainNames := ["Nyble.Dev"] }

def environmentTwice : Configured × Configured :=
  configureTwice Storage.blank nybleTable.resolver
    (Environment.empty.set domainVariable "nyble.dev".toUTF8) plainOptions

def addressTwice : Configured × Configured :=
  configureTwice Storage.blank nybleTable.resolver .empty
    { autodetect := false, defaultDomain := "::1", domainNames := ["nyble.dev"] }

def unfinishedTwice : Configured × Configured :=
  configureTwice
    ⟨.file "domains.list", (FileTree.empty []).write "domains.list" "nove.dev".toUTF8⟩
    nybleTable.resolver .empty plainOptions

/--
Four ways in which a second time differs from a successful first one.  A name
with a capital is registered in lower case and then not found.  The domain of
the environment is not looked for.  An address becomes the default domain once
the host that has it is registered.  A file whose last line is not finished has
the first new domain on that line.
-/
theorem configure_again_differs :
    (capitalTwice.1.1 = .ok () ∧
        capitalTwice.2.1 = .error (.registry (.duplicate "nyble.dev"))) ∧
      (environmentTwice.1.1 = .ok () ∧
        environmentTwice.2.1 = .error (.registry (.duplicate "nyble.dev"))) ∧
      (addressTwice.1.1 = .ok () ∧ addressTwice.1.2.policy.defaultDomain = none ∧
        addressTwice.2.2.policy.defaultDomain = some "::1") ∧
      unfinishedTwice.1.1 = .ok () ∧
        Registry.held unfinishedTwice.1.2.store = ["nove.devgenbyte.dev"] ∧
        Registry.held unfinishedTwice.2.2.store = ["nove.devgenbyte.dev", "genbyte.dev"] := by
  refine ⟨⟨rfl, rfl⟩, ⟨rfl, rfl⟩, ⟨rfl, ?_, ?_⟩, rfl, ?_, ?_⟩
  all_goals decide +kernel

end LocalDomains

end MailHost
