import MailHost.Proofs.StorageConfiguration

/-!
# Configured names in lower case

Configured names are registered in lower case, one after the other, but a name
that is registered as it is written is passed over.  What a successful
configuration adds for its names is therefore the lower-case forms of just
those that were not registered as they are written before the first of them was
looked at.  A name that only an earlier one brought in is in lower case itself.
-/

namespace MailHost

/-- The registry contains a name as it is written, but not in lower case. -/
def Registry.OnlyAsWritten {σ : Type} [Registry σ] (store : σ) (name : String) : Prop :=
  Registry.contains store name = .ok true ∧
    Registry.contains store (Text.lower name) = .ok false

namespace Demand

/-- A name is held in lower case in the end, unless all that could bring that in was passed over. -/
theorem lower_mem_carryOut_iff {held names : List String}
    (fine : (carryOut held (names.map .named)).refused = none) {name : String}
    (configured : name ∈ names) :
    Text.lower name ∈ (carryOut held (names.map .named)).held ↔
      ∃ other ∈ names, Text.lower other = Text.lower name ∧
        ¬ (other ∈ held ∧ Text.lower other ∉ held) := by
  rw [mem_carryOut_names_iff fine]
  constructor
  · rintro (old | ⟨other, member, missing, same⟩)
    -- A name held in lower case already was not passed over.
    · exact ⟨name, configured, rfl, fun passed => passed.2 old⟩
    · exact ⟨other, member, same, fun passed => missing passed.1⟩
  · rintro ⟨other, member, same, tried⟩
    by_cases old : Text.lower name ∈ held
    · exact Or.inl old
    · refine Or.inr ⟨other, member, ?_, same⟩
      intro written
      exact tried ⟨written, by rwa [same]⟩

end Demand

namespace LocalDomains

open Demand

/--
The host before its configured names are looked at.  The default domain was
chosen by then, and the domain of the environment was tried.
-/
def beforeNames {σ : Type} [Registry σ] (domains : LocalDomains σ) (resolver : Resolver)
    (environment : Environment) (options : Options) : LocalDomains σ :=
  ((domains.choice resolver options).value.registerEnvironment environment).value.2

/-- A configuration that succeeds ends with its configured names. -/
theorem registerNames_of_configured {σ : Type} [Registry σ] {start done : LocalDomains σ}
    {resolver : Resolver} {environment : Environment} {options : Options}
    (once : (start.configure resolver environment options).value = (.ok (), done)) :
    ((start.beforeNames resolver environment options).registerNames options.domainNames).value =
      (.ok (), done) := by
  rw [configure_value, registerDemanded, Traced.value_bind] at once
  rw [beforeNames]
  generalize ((start.choice resolver options).value.registerEnvironment environment).value =
    ending at once ⊢
  obtain ⟨result, ready⟩ := ending
  cases result with
  | error cause => cases once
  | ok _ => exact once

/-! ## What is held before the names -/

theorem mem_heldAfterChoice {policy : Policy} {resolver : Resolver} {held : List String}
    {configured domain : String}
    (member : domain ∈ heldAfterChoice policy resolver held configured) :
    domain ∈ held ∨ domain = configured ∨ Text.lower domain = domain := by
  rw [heldAfterChoice, List.mem_append, List.mem_append, mem_registeredFor_iff,
    mem_registeredForMachine_iff] at member
  rcases member with (old | ⟨same, _⟩) | ⟨found, _, valid⟩
  · exact Or.inl old
  · exact Or.inr (Or.inl same)
  · obtain ⟨name, _, rfl⟩ := machineCandidate?_eq_some found
    exact Or.inr (Or.inr (Text.lower_lower_of_isValid valid))

theorem mem_registerEnvironment {domains : LocalDomains MemoryRegistry}
    {environment : Environment} {name : String}
    (member : name ∈ (domains.registerEnvironment environment).value.2.store.names) :
    name ∈ domains.store.names ∨ environmentDomain? environment = some name := by
  rw [registerEnvironment_value] at member
  cases wanted : environmentDomain? environment with
  | none =>
      rw [wanted] at member
      exact Or.inl member
  | some domain =>
      simp only [wanted, register_value] at member
      cases refusal : refusal? domains.store.names domain with
      | some cause =>
          rw [refusal] at member
          exact Or.inl member
      | none =>
          rw [refusal] at member
          refine (List.mem_append.mp member).imp id ?_
          intro new
          rw [List.mem_singleton.mp new]

section Mirrored

variable {start domains : LocalDomains Storage} {memory : MemoryRegistry}

/-- What is held before the names and not in lower case was there or was asked for by name. -/
theorem beforeNames_of_mirrors (mirrors : start.store.Mirrors memory) (resolver : Resolver)
    (environment : Environment) (options : Options) :
    ∃ ready, (start.beforeNames resolver environment options).store.Mirrors ⟨ready⟩ ∧
      ∀ name ∈ ready, name ∈ memory.names ∨ name = options.defaultDomain ∨
        environmentDomain? environment = some name ∨ Text.lower name = name := by
  have related : Related Storage.Mirrors start (LocalDomains.mk memory start.policy) :=
    ⟨mirrors, rfl⟩
  have chosen := (choice_alike Storage.mirrors_simulation related resolver options).value
  have alike := registerEnvironment_alike Storage.mirrors_simulation chosen environment
  refine ⟨_, alike.value.2.store, ?_⟩
  intro name member
  rcases mem_registerEnvironment member with held | asked
  · rw [choice_value] at held
    rcases mem_heldAfterChoice held with old | configured | small
    · exact Or.inl old
    · exact Or.inr (Or.inl configured)
    · exact Or.inr (Or.inr (Or.inr small))
  · exact Or.inr (Or.inr (Or.inl asked))

theorem registerNames_of_mirrors (mirrors : domains.store.Mirrors memory)
    (names : List String) :
    let progress := carryOut memory.names (names.map .named)
    let registered := (domains.registerNames names).value
    registered.1 = verdict progress.refused ∧ registered.2.store.Mirrors ⟨progress.held⟩ := by
  intro progress registered
  have related : Related Storage.Mirrors domains (LocalDomains.mk memory domains.policy) :=
    ⟨mirrors, rfl⟩
  have alike := registerNames_alike Storage.mirrors_simulation related names
  obtain ⟨result, stores, _⟩ := alike.value
  rw [(registerNames_progress _ names).1] at result stores
  exact ⟨result, stores⟩

theorem contains_iff_of_mirrors {store : Storage} (mirrors : store.Mirrors memory)
    {domain : String} :
    Registry.contains store domain = .ok true ↔ domain ∈ memory.names := by
  rw [LawfulRegistry.contains_eq, Storage.list_of_mirrors mirrors]
  simp [Except.map]

theorem onlyAsWritten_iff_of_mirrors {store : Storage} (mirrors : store.Mirrors memory)
    {name : String} :
    Registry.OnlyAsWritten store name ↔
      name ∈ memory.names ∧ Text.lower name ∉ memory.names := by
  rw [Registry.OnlyAsWritten, LawfulRegistry.contains_eq, LawfulRegistry.contains_eq,
    Storage.list_of_mirrors mirrors]
  simp [Except.map]

end Mirrored

/--
A successful configuration leaves a configured name registered in lower case,
unless it found the name registered as it is written only.  Then the name is
passed over and stays, and its lower-case form is registered just if another
configured name with that form was not passed over.  A name can be found so only
if it was registered before the configuration, or is its default domain or the
domain of the environment.
-/
theorem configured_names_lowered {start done : LocalDomains Storage}
    (appends : Registry.Appends start.store) {resolver : Resolver}
    {environment : Environment} {options : Options}
    (once : (start.configure resolver environment options).value = (.ok (), done)) :
    let ready := (start.beforeNames resolver environment options).store
    ∀ name ∈ options.domainNames,
      (Registry.contains done.store (Text.lower name) = .ok true ↔
        ∃ other ∈ options.domainNames, Text.lower other = Text.lower name ∧
          ¬ Registry.OnlyAsWritten ready other) ∧
      (Registry.OnlyAsWritten ready name →
        Registry.contains done.store name = .ok true ∧
          (Registry.contains start.store name = .ok true ∨ name = options.defaultDomain ∨
            environmentDomain? environment = some name)) := by
  intro ready name configured
  rcases Storage.mirrors_or_closed appends with ⟨memory, mirrors⟩ | closed
  · obtain ⟨held, readyStore, sources⟩ :=
      beforeNames_of_mirrors mirrors resolver environment options
    obtain ⟨result, stores⟩ := registerNames_of_mirrors readyStore options.domainNames
    rw [registerNames_of_configured once] at result stores
    have fine := verdict_eq_ok_iff.mp result.symm
    simp only [ready, contains_iff_of_mirrors stores, contains_iff_of_mirrors mirrors,
      onlyAsWritten_iff_of_mirrors readyStore]
    refine ⟨lower_mem_carryOut_iff fine configured, ?_⟩
    rintro ⟨written, unlowered⟩
    refine ⟨(mem_carryOut_names_iff fine).mpr (Or.inl written), ?_⟩
    rcases sources name written with old | asked | special | small
    · exact Or.inl old
    · exact Or.inr (Or.inl asked)
    · exact Or.inr (Or.inr special)
    -- What the machine's name brought in is in lower case, so it is not passed over.
    · rw [small] at unlowered
      exact absurd written unlowered
  -- A registry that takes nothing refuses every name, so no name was configured.
  · have fine : (start.configure resolver environment options).value.1 = .ok () := by rw [once]
    rw [(configure_of_closed closed fine).2] at configured
    cases configured

/-- Options whose default domain has a capital and is a configured name, along with others. -/
def capitalOptions : Options :=
  { autodetect := false, autodetectIp := false, defaultDomain := "Genbyte.Dev"
    domainNames := ["Nove.Dev", "Genbyte.Dev", "NYBLE.dev", "NOVE.dev", "nyble.dev"] }

theorem configured_names_lowered_passed_over :
    let start := ofStore (Storage.mk (.memory ⟨["Nove.Dev"]⟩) (.empty []))
    let done := (start.configure HostTable.initial.resolver .empty capitalOptions).value.2
    let ready := (start.beforeNames HostTable.initial.resolver .empty capitalOptions).store
    Registry.Appends start.store ∧
      (start.configure HostTable.initial.resolver .empty capitalOptions).value = (.ok (), done) ∧
      Registry.OnlyAsWritten ready "Nove.Dev" ∧
      Registry.contains done.store (Text.lower "Nove.Dev") = .ok true ∧
      Registry.OnlyAsWritten ready "Genbyte.Dev" ∧
      Registry.contains done.store "Genbyte.Dev" = .ok true := by
  intro start done ready
  have appends : Registry.Appends start.store := Storage.appends_memory ⟨["Nove.Dev"]⟩ (.empty [])
  have once : (start.configure HostTable.initial.resolver .empty capitalOptions).value =
      (.ok (), done) := Prod.ext rfl rfl
  have first : Registry.OnlyAsWritten ready "Nove.Dev" := ⟨rfl, rfl⟩
  have second : Registry.OnlyAsWritten ready "Genbyte.Dev" := ⟨rfl, rfl⟩
  have third : ¬ Registry.OnlyAsWritten ready "NOVE.dev" := fun written => by
    cases written.1
  have lowered := configured_names_lowered appends once
  have brought := (lowered "Nove.Dev" (by decide)).1
  have kept := (lowered "Genbyte.Dev" (by decide)).2
  have same : Text.lower "NOVE.dev" = Text.lower "Nove.Dev" := by decide +kernel
  exact ⟨appends, once, first, brought.mpr ⟨"NOVE.dev", by decide, same, third⟩, second,
    (kept second).1⟩

def oneName (name : String) : Options :=
  { autodetect := false, autodetectIp := false, defaultDomain := "genbyte.dev"
    domainNames := [name] }

def configureInMemory (names : List String) (environment : Environment) (options : Options) :
    Except DomainsError Unit × LocalDomains Storage :=
  ((ofStore (Storage.mk (.memory ⟨names⟩) (.empty []))).configure HostTable.initial.resolver
    environment options).value

def configureInFile (text : String) (options : Options) :
    Except DomainsError Unit × LocalDomains Storage :=
  let tree := (FileTree.empty []).write "domains.list" text.toUTF8
  ((ofStore ⟨.file "domains.list", tree⟩).configure HostTable.initial.resolver .empty
    options).value

/--
Four successful configurations after which `nove.dev`, the lower-case form of
the configured name, is not registered.  The name with its capitals was
registered before, is the default domain or is the domain of the environment;
or the name was put on the last line of a file, which was not finished.
-/
theorem configured_name_not_lowered :
    let earlier := configureInMemory ["Nove.Dev"] .empty (oneName "Nove.Dev")
    let asDefault :=
      configureInMemory [] .empty { oneName "Nove.Dev" with defaultDomain := "Nove.Dev" }
    let special := configureInMemory []
      (Environment.empty.set domainVariable "Nove.Dev".toUTF8) (oneName "Nove.Dev")
    let unfinished := configureInFile "genbyte.dev" (oneName "nove.dev")
    (earlier.1 = .ok () ∧ Registry.contains earlier.2.store "nove.dev" = .ok false) ∧
      (asDefault.1 = .ok () ∧ Registry.contains asDefault.2.store "nove.dev" = .ok false) ∧
      (special.1 = .ok () ∧ Registry.contains special.2.store "nove.dev" = .ok false) ∧
      unfinished.1 = .ok () ∧ Registry.contains unfinished.2.store "nove.dev" = .ok false :=
  ⟨⟨rfl, rfl⟩, ⟨rfl, rfl⟩, ⟨rfl, rfl⟩, rfl, rfl⟩

end LocalDomains

end MailHost
