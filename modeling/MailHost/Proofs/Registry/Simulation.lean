import MailHost.Proofs.Registry.Writing
import MailHost.Session

/-!
# Registries that answer alike

Two registries answer alike when they list and contain the same domains and the
same addition has the same result, after which they still answer alike. A
registry in a file answers like one in memory, or it registers nothing at all.
-/

namespace MailHost

/-!
## Hosts whose registries answer alike

Two registries answer alike when they list and contain the same domains and
the same addition has the same result, after which they still answer alike.
Hosts with such registries and the same policy cannot be told apart: they make
the same calls and tell the same events.
-/

namespace Traced

variable {α β γ δ : Type}

/-- Related values that took the same calls and told the same events. -/
structure Alike (Rel : α → β → Prop) (first : Traced α) (second : Traced β) : Prop where
  value : Rel first.value second.value
  calls : first.calls = second.calls
  events : first.events = second.events

namespace Alike

variable {Rel : α → β → Prop} {Next : γ → δ → Prop}

theorem pure {a : α} {b : β} (related : Rel a b) :
    Alike Rel (Pure.pure a : Traced α) (Pure.pure b : Traced β) :=
  ⟨related, rfl, rfl⟩

theorem bind {first : Traced α} {second : Traced β} {f : α → Traced γ} {g : β → Traced δ}
    (start : Alike Rel first second) (next : ∀ a b, Rel a b → Alike Next (f a) (g b)) :
    Alike Next (first >>= f) (second >>= g) := by
  have rest := next first.value second.value start.value
  refine ⟨rest.value, ?_, ?_⟩
  · rw [calls_bind, calls_bind, start.calls, rest.calls]
  · rw [events_bind, events_bind, start.events, rest.events]

theorem bind_same (first : Traced α) {f : α → Traced γ} {g : α → Traced δ}
    (next : ∀ a, Alike Next (f a) (g a)) : Alike Next (first >>= f) (first >>= g) :=
  have same : Alike Eq first first := ⟨rfl, rfl, rfl⟩
  same.bind fun a _ equal => equal ▸ next a

end Alike

end Traced

/-- Related registries answer alike, and stay related when something is added to both. -/
structure Registry.Simulation {σ τ : Type} [Registry σ] [Registry τ] (Sim : σ → τ → Prop) :
    Prop where
  list : ∀ {s t}, Sim s t → Registry.list s = Registry.list t
  contains : ∀ {s t}, Sim s t → ∀ domain, Registry.contains s domain = Registry.contains t domain
  result : ∀ {s t}, Sim s t → ∀ domain, (Registry.add s domain).1 = (Registry.add t domain).1
  added : ∀ {s t}, Sim s t → ∀ domain, Sim (Registry.add s domain).2 (Registry.add t domain).2

namespace LocalDomains

open Traced (Alike)

variable {σ τ : Type} [Registry σ] [Registry τ]

/-- Hosts with related registries and the same policy. -/
structure Related (Sim : σ → τ → Prop) (a : LocalDomains σ) (b : LocalDomains τ) : Prop where
  store : Sim a.store b.store
  policy : a.policy = b.policy

def SameEnd {ρ : Type} (Sim : σ → τ → Prop) (x : ρ × LocalDomains σ) (y : ρ × LocalDomains τ) :
    Prop :=
  x.1 = y.1 ∧ Related Sim x.2 y.2

variable {Sim : σ → τ → Prop} {a : LocalDomains σ} {b : LocalDomains τ}

/-! ### Questions -/

theorem listing_related (simulation : Registry.Simulation Sim) (related : Related Sim a b)
    (resolver : Resolver) : a.listing resolver = b.listing resolver := by
  have asked : Registry.askList a.store = Registry.askList b.store :=
    congrArg (Traced.ask .registryList) (simulation.list related.store)
  rw [listing, listing, asked, related.policy]

theorem accepts_related (simulation : Registry.Simulation Sim) (related : Related Sim a b)
    (resolver : Resolver) (domain : String) :
    a.accepts resolver domain = b.accepts resolver domain := by
  have asked : Registry.askContains a.store domain = Registry.askContains b.store domain :=
    congrArg (Traced.ask (.registryContains domain)) (simulation.contains related.store domain)
  rw [accepts, accepts, asked, listing_related simulation related]

/-! ### The default domain -/

omit [Registry σ] [Registry τ] in
theorem Related.withDefault (related : Related Sim a b) (domain : String) :
    Related Sim (a.withDefault domain) (b.withDefault domain) :=
  ⟨related.store, by rw [LocalDomains.withDefault, LocalDomains.withDefault, related.policy]⟩

theorem register_alike (simulation : Registry.Simulation Sim) (related : Related Sim a b)
    (domain : String) : Alike (SameEnd Sim) (a.register domain) (b.register domain) := by
  refine ⟨⟨?_, simulation.added related.store domain, related.policy⟩, rfl, rfl⟩
  exact congrArg (Except.mapError DomainsError.registry) (simulation.result related.store domain)

theorem adoptDefault_alike (simulation : Registry.Simulation Sim) (related : Related Sim a b)
    (resolver : Resolver) (domain : String) :
    Alike (SameEnd Sim) (a.adoptDefault resolver domain) (b.adoptDefault resolver domain) := by
  rw [adoptDefault, adoptDefault, accepts_related simulation related]
  refine .bind_same _ fun answer => ?_
  match answer with
  | .error cause => exact .pure ⟨rfl, related⟩
  | .ok true => exact .pure ⟨rfl, related.withDefault domain⟩
  | .ok false =>
      refine (register_alike simulation related domain).bind ?_
      rintro ⟨result, left⟩ ⟨_, right⟩ ⟨rfl, registered⟩
      match result with
      | .error cause => exact .pure ⟨rfl, registered⟩
      | .ok () => exact .pure ⟨rfl, registered.withDefault domain⟩

theorem tryDefault_alike (simulation : Registry.Simulation Sim) (related : Related Sim a b)
    (resolver : Resolver) (domain : String) :
    Alike (SameEnd Sim) (a.tryDefault resolver domain) (b.tryDefault resolver domain) := by
  refine (adoptDefault_alike simulation related resolver domain).bind ?_
  rintro ⟨result, left⟩ ⟨_, right⟩ ⟨rfl, adopted⟩
  match result with
  | .ok () => exact .pure ⟨rfl, adopted⟩
  | .error cause =>
      refine .bind_same _ fun _ => ?_
      exact .pure ⟨rfl, adopted⟩

theorem chooseDefault_alike (simulation : Registry.Simulation Sim) (related : Related Sim a b)
    (resolver : Resolver) (configured : String) :
    Alike (Related Sim) (a.chooseDefault resolver configured)
      (b.chooseDefault resolver configured) := by
  refine (tryDefault_alike simulation related resolver configured).bind ?_
  rintro ⟨adopted, left⟩ ⟨_, right⟩ ⟨rfl, tried⟩
  match adopted with
  | false => exact .pure tried
  | true =>
      simp only
      by_cases sentinel : configured = localhost
      · rw [if_pos sentinel, if_pos sentinel]
        refine .bind_same _ fun found => ?_
        match found with
        | .error cause =>
            refine .bind_same _ fun _ => ?_
            exact .pure tried
        | .ok name =>
            refine (tryDefault_alike simulation tried resolver (Text.lower name)).bind ?_
            rintro ⟨_, left⟩ ⟨_, right⟩ ⟨_, renamed⟩
            exact .pure renamed
      · rw [if_neg sentinel, if_neg sentinel]
        exact .pure tried

/-! ### The strict part -/

theorem registerEnvironment_alike (simulation : Registry.Simulation Sim)
    (related : Related Sim a b) (environment : Environment) :
    Alike (SameEnd Sim) (a.registerEnvironment environment)
      (b.registerEnvironment environment) := by
  refine .bind_same _ fun asked => ?_
  match asked with
  | none => exact .pure ⟨rfl, related⟩
  | some domain =>
      simp only
      by_cases empty : domain.isEmpty = true
      · rw [if_pos empty, if_pos empty]
        exact .pure ⟨rfl, related⟩
      · rw [if_neg empty, if_neg empty]
        refine .bind_same _ fun _ => ?_
        exact register_alike simulation related domain

theorem registerNames_alike (simulation : Registry.Simulation Sim) (related : Related Sim a b)
    (names : List String) :
    Alike (SameEnd Sim) (a.registerNames names) (b.registerNames names) := by
  induction names generalizing a b with
  | nil => exact .pure ⟨rfl, related⟩
  | cons name rest ih =>
      have asked : Registry.askContains a.store name = Registry.askContains b.store name :=
        congrArg (Traced.ask (.registryContains name)) (simulation.contains related.store name)
      rw [registerNames, registerNames, asked]
      refine .bind_same _ fun known => ?_
      match known with
      | .error cause => exact .pure ⟨rfl, related⟩
      | .ok true => exact ih related
      | .ok false =>
          refine (register_alike simulation related (Text.lower name)).bind ?_
          rintro ⟨result, left⟩ ⟨_, right⟩ ⟨rfl, registered⟩
          match result with
          | .error cause => exact .pure ⟨rfl, registered⟩
          | .ok () => exact ih registered

/-! ### The whole of configuring -/

omit [Registry σ] [Registry τ] in
theorem setAutodetect_alike (related : Related Sim a b) (on : Bool) :
    Alike (Related Sim) (a.setAutodetect on) (b.setAutodetect on) := by
  refine .bind_same _ fun _ => ?_
  exact .pure ⟨related.store, by rw [related.policy]⟩

omit [Registry σ] [Registry τ] in
theorem setAutodetectIp_alike (related : Related Sim a b) (on : Bool) :
    Alike (Related Sim) (a.setAutodetectIp on) (b.setAutodetectIp on) := by
  refine .bind_same _ fun _ => ?_
  exact .pure ⟨related.store, by rw [related.policy]⟩

/-- Hosts that cannot be told apart are configured alike, and cannot be told apart afterwards. -/
theorem configure_alike (simulation : Registry.Simulation Sim) (related : Related Sim a b)
    (resolver : Resolver) (environment : Environment) (options : Options) :
    Alike (SameEnd Sim) (a.configure resolver environment options)
      (b.configure resolver environment options) := by
  refine (setAutodetect_alike related options.autodetect).bind ?_
  intro left right flagged
  refine (setAutodetectIp_alike flagged options.autodetectIp).bind ?_
  intro left right flagged
  refine (chooseDefault_alike simulation flagged resolver options.defaultDomain).bind ?_
  intro left right chosen
  refine (registerEnvironment_alike simulation chosen environment).bind ?_
  rintro ⟨result, left⟩ ⟨_, right⟩ ⟨rfl, registered⟩
  match result with
  | .error cause => exact .pure ⟨rfl, registered⟩
  | .ok () => exact registerNames_alike simulation registered options.domainNames

end LocalDomains

/-!
## Open and closed registries

A registry that appends is one of two kinds.  An open one answers like a
registry in memory with the same domains, now and after every addition.  A
closed one lists nothing and registers nothing, and an addition that failed
once leaves it as it is when it fails again.
-/

/-- Registries of a kind that lists nothing and registers nothing. -/
structure Registry.Sealed {σ : Type} [Registry σ] (Kind : σ → Prop) : Prop where
  nothing : ∀ {store}, Kind store → ∀ {names}, Registry.list store = .ok names → names = []
  refused : ∀ {store}, Kind store → ∀ domain, (Registry.add store domain).1 ≠ .ok ()
  kept : ∀ {store}, Kind store → ∀ domain, Kind (Registry.add store domain).2
  again : ∀ {store}, Kind store → ∀ domain,
    (Registry.add (Registry.add store domain).2 domain).2 = (Registry.add store domain).2

theorem Registry.Sealed.held_eq_nil {σ : Type} [Registry σ] {Kind : σ → Prop}
    (sealing : Registry.Sealed Kind) {store : σ} (kind : Kind store) :
    Registry.held store = [] := by
  cases listed : Registry.list store with
  | error cause => rw [held, listed]; rfl
  | ok names => rw [held_of_list listed, sealing.nothing kind listed]

namespace FileRegistry

/-! ### Open files -/

/-- The file lists some domains, can be written and appends what is registered. -/
structure Mirrors (registry : FileRegistry) (memory : MemoryRegistry) : Prop where
  listed : registry.list = .ok memory.names
  writable : registry.Writable
  appends : Registry.Appends registry

theorem add_of_mirrors {registry : FileRegistry} {memory : MemoryRegistry}
    (mirrors : registry.Mirrors memory) (domain : String) :
    (Registry.add registry domain).1 = (Registry.add memory domain).1 ∧
      (Registry.add registry domain).2.Mirrors (Registry.add memory domain).2 := by
  have added := add_of_list mirrors.listed domain
  rw [MemoryRegistry.add_value]
  cases refusal : refusal? memory.names domain with
  | some cause =>
      simp only [refusal] at added
      rw [added]
      exact ⟨rfl, mirrors⟩
  | none =>
      simp only [refusal] at added
      obtain ⟨after, appended, read⟩ := appendLine_of_writable mirrors.writable domain
      rw [appended] at added
      have listedAfter : after.list = .ok (memory.names ++ [domain]) := by
        have grown := mirrors.appends domain (congrArg Prod.fst added)
        rw [added] at grown
        change after.list = registry.list.map _ at grown
        rw [grown, mirrors.listed]
        rfl
      rw [added]
      exact ⟨rfl, listedAfter, (prepared_of_read read).2,
        appends_of_finished (finished_of_appendLine appended listedAfter)⟩

/-! ### Closed files -/

/-- The file cannot be written, or cannot be read as text. -/
def Closed (registry : FileRegistry) : Prop :=
  ¬ registry.Writable ∨ ∃ cause, registry.list = .error cause

theorem mirrors_or_closed {registry : FileRegistry} (appends : Registry.Appends registry) :
    (∃ memory, registry.Mirrors memory) ∨ registry.Closed := by
  cases listed : registry.list with
  | error cause => exact Or.inr (Or.inr ⟨cause, listed⟩)
  | ok names =>
      by_cases writable : registry.Writable
      · exact Or.inl ⟨⟨names⟩, listed, writable, appends⟩
      · exact Or.inr (Or.inl writable)

theorem closed_prepared {registry : FileRegistry} (shut : ¬ registry.Writable) :
    registry.prepared.Closed :=
  Or.inl fun opened => shut (writable_prepared_iff.mp opened)

/-- Adding to a closed file leaves it as it is, or makes what directories it can. -/
theorem add_of_closed {registry : FileRegistry} (closed : registry.Closed) (domain : String) :
    (Registry.add registry domain).1 ≠ .ok () ∧
      ((Registry.add registry domain).2 = registry ∨
        (Registry.add registry domain).2 = registry.prepared ∧ ¬ registry.Writable) := by
  have ending := registry.ending_add domain
  generalize Registry.add registry domain = ended at ending ⊢
  obtain ⟨result, after⟩ := ended
  cases ending with
  | shut valid listed new shut => exact ⟨nofun, Or.inr ⟨rfl, shut⟩⟩
  | done valid listed new opened appended =>
      rcases closed with shut | ⟨cause, unreadable⟩
      · exact absurd opened shut
      · cases listed.symm.trans unreadable
  | _ => exact ⟨nofun, Or.inl rfl⟩

theorem closed_sealed : Registry.Sealed Closed where
  nothing closed names listed := by
    rcases closed with shut | ⟨cause, unreadable⟩
    · exact (missing_of_not_writable shut listed).2
    · cases unreadable.symm.trans listed
  refused closed domain := (add_of_closed closed domain).1
  kept closed domain := by
    rcases (add_of_closed closed domain).2 with same | ⟨made, shut⟩
    · rw [same]
      exact closed
    · rw [made]
      exact closed_prepared shut
  again closed domain := by
    rcases (add_of_closed closed domain).2 with same | ⟨made, shut⟩
    · rw [same, same]
    · rw [made]
      rcases (add_of_closed (closed_prepared shut) domain).2 with still | ⟨more, _⟩
      · exact still
      · rw [more, prepared_prepared]

end FileRegistry

namespace Storage

/-! ### Either kind of storage -/

def ofFile (registry : FileRegistry) : Storage :=
  ⟨.file registry.path, registry.tree⟩

theorem add_ofFile (registry : FileRegistry) (domain : String) :
    Registry.add (ofFile registry) domain =
      ((Registry.add registry domain).1, ofFile (Registry.add registry domain).2) := by
  change ((Registry.add registry domain).1,
    Storage.mk (.file registry.path) (Registry.add registry domain).2.tree) = _
  rw [ofFile, FileRegistry.add_path]

theorem appends_ofFile_iff {registry : FileRegistry} :
    Registry.Appends (ofFile registry) ↔ Registry.Appends registry := by
  have same : ∀ domain, Registry.add (ofFile registry) domain = _ := add_ofFile registry
  simp only [Registry.Appends, same]
  exact Iff.rfl

def blank : Storage :=
  ⟨.memory .empty, .empty []⟩

theorem appends_memory (registry : MemoryRegistry) (tree : FileTree) :
    Registry.Appends (Storage.mk (.memory registry) tree) :=
  registry.appends

/-- The storage answers like a registry in memory. -/
def Mirrors (storage : Storage) (memory : MemoryRegistry) : Prop :=
  storage.keeping = .memory memory ∨
    ∃ registry, storage = ofFile registry ∧ registry.Mirrors memory

def Closed (storage : Storage) : Prop :=
  ∃ registry, storage = ofFile registry ∧ registry.Closed

instance : LawfulRegistry Storage where
  contains_eq store domain := by
    obtain ⟨keeping, tree⟩ := store
    cases keeping with
    | memory registry => exact LawfulRegistry.contains_eq registry domain
    | file path => exact LawfulRegistry.contains_eq (FileRegistry.mk path tree) domain

/-- Storage that appends is open or closed. -/
theorem mirrors_or_closed {storage : Storage} (appends : Registry.Appends storage) :
    (∃ memory, storage.Mirrors memory) ∨ storage.Closed := by
  obtain ⟨keeping, tree⟩ := storage
  cases keeping with
  | memory memory => exact Or.inl ⟨memory, Or.inl rfl⟩
  | file path =>
      have whole : Storage.mk (.file path) tree = ofFile ⟨path, tree⟩ := rfl
      rw [whole] at appends ⊢
      rcases FileRegistry.mirrors_or_closed (appends_ofFile_iff.mp appends) with
        ⟨memory, mirrors⟩ | closed
      · exact Or.inl ⟨memory, Or.inr ⟨_, rfl, mirrors⟩⟩
      · exact Or.inr ⟨_, rfl, closed⟩

theorem list_of_mirrors {storage : Storage} {memory : MemoryRegistry}
    (mirrors : storage.Mirrors memory) : Registry.list storage = .ok memory.names := by
  rcases mirrors with inMemory | ⟨registry, rfl, mirrors⟩
  · obtain ⟨_, tree⟩ := storage
    cases inMemory
    rfl
  · exact mirrors.listed

theorem add_of_mirrors {storage : Storage} {memory : MemoryRegistry}
    (mirrors : storage.Mirrors memory) (domain : String) :
    (Registry.add storage domain).1 = (Registry.add memory domain).1 ∧
      (Registry.add storage domain).2.Mirrors (Registry.add memory domain).2 := by
  rcases mirrors with inMemory | ⟨registry, rfl, mirrors⟩
  · obtain ⟨_, tree⟩ := storage
    cases inMemory
    exact ⟨rfl, Or.inl rfl⟩
  · rw [add_ofFile]
    obtain ⟨same, mirrored⟩ := FileRegistry.add_of_mirrors mirrors domain
    exact ⟨same, Or.inr ⟨_, rfl, mirrored⟩⟩

theorem mirrors_simulation : Registry.Simulation Mirrors where
  list mirrors := list_of_mirrors mirrors
  contains mirrors domain := by
    rw [LawfulRegistry.contains_eq, list_of_mirrors mirrors]
    rfl
  result mirrors domain := (add_of_mirrors mirrors domain).1
  added mirrors domain := (add_of_mirrors mirrors domain).2

theorem closed_sealed : Registry.Sealed Closed where
  nothing := by
    rintro _ ⟨registry, rfl, closed⟩ names listed
    exact FileRegistry.closed_sealed.nothing closed listed
  refused := by
    rintro _ ⟨registry, rfl, closed⟩ domain
    exact FileRegistry.closed_sealed.refused closed domain
  kept := by
    rintro _ ⟨registry, rfl, closed⟩ domain
    rw [add_ofFile]
    exact ⟨_, rfl, FileRegistry.closed_sealed.kept closed domain⟩
  again := by
    rintro _ ⟨registry, rfl, closed⟩ domain
    rw [add_ofFile, add_ofFile, FileRegistry.closed_sealed.again closed domain]

end Storage

end MailHost
