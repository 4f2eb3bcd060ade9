import MailHost.Proofs.Registry.Simulation

/-!
# How registries grow

What a registry comes to by additions, in memory and in a file that nobody else
writes.
-/

namespace MailHost

/-!
## How a registry in memory grows

Additions are the only way from one registry to another.  Where the registry is
in memory, what it comes to by additions is what it held with new domains behind
it: domain names, none of which was there before or comes twice.  An addition
that is made to fail adds nothing.
-/

/-! ### Additions -/

namespace Registry

variable {σ : Type} [Registry σ]

/-- What a registry comes to when domains are added to it in turn, whatever comes of each. -/
inductive Reached (start : σ) : σ → Prop where
  | refl : Reached start start
  | add {store : σ} (reached : Reached start store) (domain : String) :
      Reached start (Registry.add store domain).2

theorem Reached.trans {start middle later : σ} (first : Reached start middle)
    (second : Reached middle later) : Reached start later := by
  induction second with
  | refl => exact first
  | add reached domain ih => exact ih.add domain

end Registry

/-! ### New domains -/

/-- Some domain names, each once, none of which is among the domains already held. -/
structure Newcomers (held added : List String) : Prop where
  distinct : added.Nodup
  missing : ∀ domain ∈ added, domain ∉ held
  valid : ∀ domain ∈ added, DomainName.isValid domain = true

namespace Newcomers

variable {held added more : List String}

theorem none : Newcomers held [] where
  distinct := List.nodup_nil
  missing _ member := absurd member List.not_mem_nil
  valid _ member := absurd member List.not_mem_nil

theorem single {domain : String} (accepted : refusal? held domain = Option.none) :
    Newcomers held [domain] := by
  obtain ⟨valid, missing⟩ := refusal?_eq_none_iff.mp accepted
  constructor
  · exact List.nodup_cons.mpr ⟨List.not_mem_nil, List.nodup_nil⟩
  · intro other member
    rwa [List.mem_singleton.mp member]
  · intro other member
    rwa [List.mem_singleton.mp member]

/-- Newcomers to what the first newcomers left are newcomers with them. -/
theorem append (first : Newcomers held added) (second : Newcomers (held ++ added) more) :
    Newcomers held (added ++ more) := by
  have apart : ∀ domain ∈ more, domain ∉ held ∧ domain ∉ added := by
    intro domain member
    have missing := second.missing domain member
    rwa [List.mem_append, not_or] at missing
  constructor
  · refine List.nodup_append.mpr ⟨first.distinct, second.distinct, ?_⟩
    rintro domain early _ late rfl
    exact (apart domain late).2 early
  · intro domain member
    rcases List.mem_append.mp member with early | late
    · exact first.missing domain early
    · exact (apart domain late).1
  · intro domain member
    rcases List.mem_append.mp member with early | late
    · exact first.valid domain early
    · exact second.valid domain late

end Newcomers

/-! ### Registries in memory -/

namespace Storage

def Holds (storage : Storage) (names : List String) : Prop :=
  storage.keeping = .memory ⟨names⟩

variable {storage : Storage} {names : List String}

theorem list_of_holds (holds : storage.Holds names) : Registry.list storage = .ok names :=
  list_of_mirrors (Or.inl holds)

theorem contains_of_holds (holds : storage.Holds names) (domain : String) :
    Registry.contains storage domain = .ok (names.contains domain) := by
  rw [LawfulRegistry.contains_eq, list_of_holds holds]
  rfl

/-- An addition puts at most one newcomer behind what is held, and one that succeeds its domain. -/
theorem add_of_holds (holds : storage.Holds names) (domain : String) :
    ∃ added, Newcomers names added ∧ (Registry.add storage domain).2.Holds (names ++ added) ∧
      ((Registry.add storage domain).1 = .ok () → added = [domain]) := by
  obtain ⟨keeping, tree⟩ := storage
  cases holds
  have made : Registry.add (Storage.mk (.memory ⟨names⟩) tree) domain =
      ((Registry.add (MemoryRegistry.mk names) domain).1,
        Storage.mk (.memory (Registry.add (MemoryRegistry.mk names) domain).2) tree) := rfl
  rw [made, MemoryRegistry.add_value]
  cases refusal : refusal? names domain with
  | some cause =>
      refine ⟨[], .none, ?_, nofun⟩
      rw [List.append_nil]
      rfl
  | none => exact ⟨[domain], .single refusal, rfl, fun _ => rfl⟩

end Storage

namespace Faulty

theorem add_faults {σ : Type} [Registry σ] (registry : Faulty σ) (domain : String) :
    (Registry.add registry domain).2.faults = registry.faults := by
  rw [add_eq]
  split <;> rfl

theorem faults_of_reached {σ : Type} [Registry σ] {registry later : Faulty σ}
    (reached : Registry.Reached registry later) : later.faults = registry.faults := by
  induction reached with
  | refl => rfl
  | add reached domain ih => exact (add_faults _ domain).trans ih

variable {registry later : Faulty Storage} {names : List String}

theorem add_of_holds (holds : registry.inner.Holds names) (domain : String) :
    ∃ added, Newcomers names added ∧
      (Registry.add registry domain).2.inner.Holds (names ++ added) ∧
      ((Registry.add registry domain).1 = .ok () → added = [domain]) := by
  rw [add_eq]
  split
  · refine ⟨[], .none, ?_, nofun⟩
    rwa [List.append_nil]
  · exact Storage.add_of_holds holds domain

/-- Whatever is added to a registry in memory, some of it failing, only newcomers come behind it. -/
theorem holds_of_reached (reached : Registry.Reached registry later)
    (holds : registry.inner.Holds names) :
    ∃ added, Newcomers names added ∧ later.inner.Holds (names ++ added) := by
  induction reached with
  | refl => exact ⟨[], .none, by rwa [List.append_nil]⟩
  | add reached domain ih =>
      obtain ⟨added, newcomers, held⟩ := ih
      obtain ⟨more, others, grown, _⟩ := add_of_holds held domain
      rw [List.append_assoc] at grown
      exact ⟨added ++ more, newcomers.append others, grown⟩

end Faulty

/-!
## Files that spell a registry in memory

A registry file that is not there yet lists nothing.  The first domain makes
it, and every domain after that is one more line, so that the file has the
domains of a registry in memory, in order and each on a finished line, as long
as nobody else writes it.
-/

/-- Some domains, each on a finished line. -/
def spelling (names : List String) : String :=
  String.join (names.map (· ++ "\n"))

theorem spelling_concat (names : List String) (domain : String) :
    spelling (names ++ [domain]) = spelling names ++ (domain ++ "\n") := by
  simp [spelling, String.join_append]

namespace FileRegistry

/--
The file can be made: once the directories above it are there, the path leads
to a place where nothing is.  That nothing is found at first does not suffice,
since a step `..` below a directory still to be made may lead back to a file.
-/
def Creatable (registry : FileRegistry) : Prop :=
  (registry.tree.makeParents registry.path).1 = .ok () ∧
    ∃ place, registry.prepared.tree.locate registry.path = .ok place ∧
      registry.prepared.tree.node? place = none

theorem writable_of_creatable {registry : FileRegistry} (creatable : registry.Creatable) :
    registry.Writable := by
  obtain ⟨made, place, found, free⟩ := creatable
  refine ⟨made, place, found, ?_⟩
  rw [free]
  exact nofun

theorem read_prepared_of_creatable {registry : FileRegistry} (creatable : registry.Creatable) :
    registry.prepared.tree.read registry.path = .error .missing := by
  obtain ⟨_, place, found, free⟩ := creatable
  simp only [FileTree.read, found, free]

/--
The file has just the given domains on its lines.  If it is not there, none
are given, and it does not come into view once the directories above it are
made.
-/
def Spells (registry : FileRegistry) (names : List String) : Prop :=
  (registry.tree.read registry.path = .error .missing ∧ names = [] ∧
      registry.prepared.tree.read registry.path = .error .missing) ∨
    registry.tree.read registry.path = .ok (spelling names).toUTF8

/-- One more line spells one more domain. -/
theorem spells_of_appendLine {registry after : FileRegistry} {names : List String}
    {domain : String} (spells : registry.Spells names)
    (appended : registry.appendLine domain = (.ok (), after)) :
    after.tree.read after.path = .ok (spelling (names ++ [domain])).toUTF8 := by
  have read := read_of_appendLine appended
  have grown : (spelling (names ++ [domain])).toUTF8 =
      (spelling names).toUTF8 ++ (domain ++ "\n").toUTF8 := by
    rw [spelling_concat]
    exact String.toByteArray_append
  rcases spells with ⟨_, rfl, absent⟩ | present
  · rw [read, absent, grown]
    rfl
  · rw [read, (prepared_of_read present).1, present, grown]
    rfl

/-- A file that can be made appends: its first line is its only entry. -/
theorem appends_of_creatable {registry : FileRegistry}
    (missing : registry.tree.read registry.path = .error .missing)
    (creatable : registry.Creatable) : Registry.Appends registry := by
  refine appends_of_appendLine (list_of_missing missing) ?_
  intro domain after valid appended
  have spells : registry.Spells [] :=
    Or.inl ⟨missing, rfl, read_prepared_of_creatable creatable⟩
  have read := spells_of_appendLine spells appended
  have readText := FileTree.readText_eq_ok_iff.mpr ⟨_, read, fromUTF8?_toUTF8 _⟩
  have spelled : (spelling ([] ++ [domain])).toList = [] ++ (domain.toList ++ ['\n']) := by
    simp [spelling, String.join]
  rw [list_of_readText readText, spelled, registryEntries_append_line (Or.inl rfl) valid]
  exact congrArg (fun name => Except.ok [name]) String.ofList_toList

/-- The file answers like a registry in memory, and spells its domains. -/
structure Transcribes (registry : FileRegistry) (memory : MemoryRegistry) : Prop where
  mirrors : registry.Mirrors memory
  spells : registry.Spells memory.names

theorem transcribes_empty {registry : FileRegistry}
    (missing : registry.tree.read registry.path = .error .missing)
    (creatable : registry.Creatable) : registry.Transcribes .empty where
  mirrors :=
    { listed := list_of_missing missing
      writable := writable_of_creatable creatable
      appends := appends_of_creatable missing creatable }
  spells := Or.inl ⟨missing, rfl, read_prepared_of_creatable creatable⟩

theorem add_of_transcribes {registry : FileRegistry} {memory : MemoryRegistry}
    (transcribes : registry.Transcribes memory) (domain : String) :
    (Registry.add registry domain).1 = (Registry.add memory domain).1 ∧
      (Registry.add registry domain).2.Transcribes (Registry.add memory domain).2 := by
  obtain ⟨mirrors, spells⟩ := transcribes
  obtain ⟨same, mirrored⟩ := add_of_mirrors mirrors domain
  refine ⟨same, mirrored, ?_⟩
  rw [add_of_list mirrors.listed, MemoryRegistry.add_value]
  cases refusal : refusal? memory.names domain with
  | some cause => exact spells
  | none =>
      obtain ⟨after, appended, _⟩ := appendLine_of_writable mirrors.writable domain
      simp only [appended]
      exact Or.inr (spells_of_appendLine spells appended)

end FileRegistry

namespace Storage

/-- The first keeps a file at a path that transcribes what the second has in memory. -/
def Transcribes (path : String) (onFile inMemory : Storage) : Prop :=
  ∃ registry memory tree, onFile = ofFile registry ∧ registry.path = path ∧
    inMemory = ⟨.memory memory, tree⟩ ∧ registry.Transcribes memory

theorem transcribes_simulation (path : String) : Registry.Simulation (Transcribes path) where
  list := by
    rintro _ _ ⟨registry, memory, tree, rfl, _, rfl, transcribes⟩
    exact transcribes.mirrors.listed
  contains := by
    rintro _ _ ⟨registry, memory, tree, rfl, _, rfl, transcribes⟩ domain
    rw [LawfulRegistry.contains_eq, LawfulRegistry.contains_eq]
    exact congrArg (Except.map _) transcribes.mirrors.listed
  result := by
    rintro _ _ ⟨registry, memory, tree, rfl, _, rfl, transcribes⟩ domain
    rw [add_ofFile]
    exact (FileRegistry.add_of_transcribes transcribes domain).1
  added := by
    rintro _ _ ⟨registry, memory, tree, rfl, rfl, rfl, transcribes⟩ domain
    rw [add_ofFile]
    exact ⟨_, _, tree, rfl, FileRegistry.add_path registry domain, rfl,
      (FileRegistry.add_of_transcribes transcribes domain).2⟩

end Storage

end MailHost
