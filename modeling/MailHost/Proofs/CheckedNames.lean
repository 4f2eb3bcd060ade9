import MailHost.Proofs.ConfiguredNames

/-!
# Checked names

A registry refuses as malformed what is no domain name, and nothing else.  A
configured name is checked in lower case, which comes to a check of the name as
it is written unless it has a Kelvin sign.
-/

namespace MailHost

open DomainName (isValid spelledOut)

/-! ## Registries that check names -/

/-- Registries that refuse as malformed what is no domain name, and nothing else. -/
class CheckedRegistry (σ : Type) [Registry σ] : Prop where
  add_invalid_iff : ∀ (store : σ) (domain malformed : String),
    (Registry.add store domain).1 = .error (.invalidDomain malformed) ↔
      isValid domain = false ∧ domain = malformed
  contains_ne_invalid : ∀ (store : σ) (domain malformed : String),
    Registry.contains store domain ≠ .error (.invalidDomain malformed)

theorem CheckedRegistry.isValid_of_add {σ : Type} [Registry σ] [CheckedRegistry σ] {store : σ}
    {domain : String} (added : (Registry.add store domain).1 = .ok ()) :
    isValid domain = true := by
  cases valid : isValid domain with
  | true => rfl
  | false =>
      rw [(add_invalid_iff store domain domain).mpr ⟨valid, rfl⟩] at added
      cases added

theorem refusal?_invalid_iff (held : List String) {domain malformed : String} :
    refusal? held domain = some (.invalidDomain malformed) ↔
      isValid domain = false ∧ domain = malformed := by
  rw [refusal?]
  cases isValid domain with
  | false => simp
  | true => by_cases known : domain ∈ held <;> simp [known]

instance : CheckedRegistry MemoryRegistry where
  add_invalid_iff registry domain malformed := by
    rw [MemoryRegistry.add_value, ← refusal?_invalid_iff registry.names]
    cases refusal? registry.names domain <;> simp
  contains_ne_invalid _ _ _ := by rintro ⟨⟩

theorem FileRegistry.Ending.invalid_iff {registry after : FileRegistry} {domain malformed : String}
    {result : Except RegistryError Unit} (ending : Ending registry domain result after) :
    result = .error (.invalidDomain malformed) ↔ isValid domain = false ∧ domain = malformed := by
  cases ending with
  | invalid invalid => simp [invalid]
  | unread valid unread => simp [valid]
  | duplicate valid listed known => simp [valid]
  | shut valid listed new shut => simp [valid]
  | done valid listed new opened appended => simp [valid]

instance : CheckedRegistry FileRegistry where
  add_invalid_iff registry domain _ := (registry.ending_add domain).invalid_iff
  contains_ne_invalid registry domain malformed := by
    change registry.contains domain ≠ _
    rw [FileRegistry.contains]
    cases listed : registry.list with
    | error cause => simp [FileRegistry.list_eq_error listed]
    | ok names => simp

instance : CheckedRegistry Storage where
  add_invalid_iff storage domain malformed := by
    obtain ⟨keeping, tree⟩ := storage
    cases keeping with
    | memory registry => exact CheckedRegistry.add_invalid_iff registry domain malformed
    | file path =>
        exact CheckedRegistry.add_invalid_iff (FileRegistry.mk path tree) domain malformed
  contains_ne_invalid storage domain malformed := by
    obtain ⟨keeping, tree⟩ := storage
    cases keeping with
    | memory registry => exact CheckedRegistry.contains_ne_invalid registry domain malformed
    | file path =>
        exact CheckedRegistry.contains_ne_invalid (FileRegistry.mk path tree) domain malformed

/-! ## Names in their turn -/

namespace LocalDomains

variable {σ : Type} [Registry σ]

theorem registerNames_cons (domains : LocalDomains σ) (name : String) (rest : List String) :
    (domains.registerNames (name :: rest)).value =
      match Registry.contains domains.store name with
      | .error cause => (.error (.registry cause), domains)
      | .ok true => (domains.registerNames rest).value
      | .ok false =>
          match Registry.add domains.store (Text.lower name) with
          | (.error cause, store) => (.error (.registry cause), { domains with store })
          | (.ok (), store) => (LocalDomains.registerNames { domains with store } rest).value := by
  rw [registerNames, Traced.value_bind, Registry.value_askContains]
  cases Registry.contains domains.store name with
  | error cause => rfl
  | ok known =>
      cases known with
      | true => rfl
      | false =>
          simp only [register, Traced.value_bind, Registry.value_askAdd]
          generalize Registry.add domains.store (Text.lower name) = ending
          obtain ⟨result, store⟩ := ending
          cases result <;> rfl

/-- When names are registered, each is passed over in its turn or added in lower case. -/
theorem registerNames_turn {domains done : LocalDomains σ} {before after : List String}
    {name : String}
    (registered : (domains.registerNames (before ++ name :: after)).value = (.ok (), done)) :
    ∃ reached, (domains.registerNames before).value = (.ok (), reached) ∧
      (Registry.contains reached.store name = .ok true ∨
        (Registry.add reached.store (Text.lower name)).1 = .ok ()) := by
  induction before generalizing domains with
  | nil =>
      refine ⟨domains, rfl, ?_⟩
      rw [List.nil_append, registerNames_cons] at registered
      split at registered
      · cases registered
      · rename_i known
        exact Or.inl known
      · split at registered
        · cases registered
        · rename_i added
          exact Or.inr (by rw [added])
  | cons first before ih =>
      rw [List.cons_append, registerNames_cons] at registered
      rw [registerNames_cons]
      split at registered
      · cases registered
      · exact ih registered
      · split at registered
        · cases registered
        · exact ih registered

variable [CheckedRegistry σ]

/-- A name that is refused as malformed is so in lower case. -/
theorem registerNames_invalid {domains : LocalDomains σ} {names : List String}
    {malformed : String} (refused :
      (domains.registerNames names).value.1 = .error (.registry (.invalidDomain malformed))) :
    ∃ name ∈ names, isValid (Text.lower name) = false ∧ Text.lower name = malformed := by
  induction names generalizing domains with
  | nil => cases refused
  | cons name rest ih =>
      have later : ∀ {domains : LocalDomains σ},
          (domains.registerNames rest).value.1 = .error (.registry (.invalidDomain malformed)) →
          ∃ other ∈ name :: rest,
            isValid (Text.lower other) = false ∧ Text.lower other = malformed := by
        intro domains refused
        obtain ⟨other, member, invalid⟩ := ih refused
        exact ⟨other, List.mem_cons_of_mem name member, invalid⟩
      rw [registerNames_cons] at refused
      split at refused
      · rename_i unanswered
        cases refused
        exact absurd unanswered (CheckedRegistry.contains_ne_invalid _ _ _)
      · exact later refused
      · split at refused
        · rename_i added
          cases refused
          have failed := congrArg Prod.fst added
          exact ⟨name, List.mem_cons_self .., (CheckedRegistry.add_invalid_iff _ _ _).mp failed⟩
        · exact later refused

/-- What a configuration refuses as malformed is the environment's domain or a configured name. -/
theorem configure_invalid {start : LocalDomains σ} {resolver : Resolver}
    {environment : Environment} {options : Options} {malformed : String}
    (refused : (start.configure resolver environment options).value.1 =
      .error (.registry (.invalidDomain malformed))) :
    environmentDomain? environment = some malformed ∧ isValid malformed = false ∨
      ∃ name ∈ options.domainNames,
        isValid (Text.lower name) = false ∧ Text.lower name = malformed := by
  rw [configure_value, registerDemanded, Traced.value_bind, registerEnvironment_value] at refused
  cases wanted : environmentDomain? environment with
  | none =>
      rw [wanted] at refused
      exact Or.inr (registerNames_invalid refused)
  | some domain =>
      simp only [wanted, register, Traced.value_bind, Registry.value_askAdd] at refused
      generalize added : Registry.add (start.choice resolver options).value.store domain = ending
        at refused
      obtain ⟨result, store⟩ := ending
      cases result with
      | ok _ => exact Or.inr (registerNames_invalid refused)
      | error cause =>
          cases refused
          obtain ⟨invalid, rfl⟩ :=
            (CheckedRegistry.add_invalid_iff _ _ _).mp (congrArg Prod.fst added)
          exact Or.inl ⟨rfl, invalid⟩

/--
A name is valid just if its lower-case form is and it has no Kelvin sign, which
counts as a letter only in lower case.  So a configuration registers a name that
is not valid as it is written only if the name has that sign, unless it passes
it over as registered, and it refuses no configured name that is valid.
-/
theorem name_validity_ignores_case (start : LocalDomains Storage) (resolver : Resolver)
    (environment : Environment) (options : Options) (name : String) :
    (isValid name = true ↔
      isValid (Text.lower name) = true ∧ Text.kelvinSign ∉ name.toList) ∧
    isValid (Text.lower name) = isValid (spelledOut name) ∧
    (∀ done before after,
      (start.configure resolver environment options).value = (.ok (), done) →
      options.domainNames = before ++ name :: after →
      ∃ reached,
        ((start.beforeNames resolver environment options).registerNames before).value =
          (.ok (), reached) ∧
        (Registry.contains reached.store name = .ok true ∨
          isValid name = true ∨ Text.kelvinSign ∈ name.toList)) ∧
    ∀ malformed,
      (start.configure resolver environment options).value.1 =
        .error (.registry (.invalidDomain malformed)) →
      environmentDomain? environment = some malformed ∧ isValid malformed = false ∨
        ∃ other ∈ options.domainNames, isValid other = false ∧ Text.lower other = malformed := by
  refine ⟨DomainName.isValid_iff_lower name, DomainName.isValid_lower name, ?_, ?_⟩
  · intro done before after configured split
    have registered := registerNames_of_configured configured
    rw [split] at registered
    obtain ⟨reached, earlier, turn⟩ := registerNames_turn registered
    refine ⟨reached, earlier, turn.imp_right fun added => ?_⟩
    have small := CheckedRegistry.isValid_of_add added
    by_cases sign : Text.kelvinSign ∈ name.toList
    · exact Or.inr sign
    · exact Or.inl ((DomainName.isValid_iff_lower name).mpr ⟨small, sign⟩)
  · intro malformed refused
    refine (configure_invalid refused).imp_right ?_
    rintro ⟨other, member, invalid, same⟩
    refine ⟨other, member, ?_, same⟩
    rw [← Bool.not_eq_true]
    intro valid
    rw [((DomainName.isValid_iff_lower other).mp valid).1] at invalid
    cases invalid

/-- The first name is registered as it is written, and the others are not. -/
def mixedNames : Options :=
  { autodetect := false, autodetectIp := false, defaultDomain := "genbyte.dev"
    domainNames := ["nove dev", "Nyble.Dev", "\u212aelvin.Dev"] }

theorem name_validity_ignores_case_mixed :
    let start := ofStore (Storage.mk (.memory ⟨["nove dev"]⟩) (.empty []))
    let fresh := ofStore (Storage.mk (.memory ⟨[]⟩) (.empty []))
    let resolver := HostTable.initial.resolver
    let done := (start.configure resolver .empty mixedNames).value.2
    (start.configure resolver .empty mixedNames).value = (.ok (), done) ∧
      mixedNames.domainNames = ["nove dev"] ++ "Nyble.Dev" :: ["\u212aelvin.Dev"] ∧
      (∃ reached,
        ((start.beforeNames resolver .empty mixedNames).registerNames ["nove dev"]).value =
          (.ok (), reached) ∧
        (Registry.contains reached.store "Nyble.Dev" = .ok true ∨
          isValid "Nyble.Dev" = true ∨ Text.kelvinSign ∈ "Nyble.Dev".toList)) ∧
      (fresh.configure resolver .empty mixedNames).value.1 =
        .error (.registry (.invalidDomain "nove dev")) ∧
      (environmentDomain? .empty = some "nove dev" ∧ isValid "nove dev" = false ∨
        ∃ other ∈ mixedNames.domainNames,
          isValid other = false ∧ Text.lower other = "nove dev") := by
  intro start fresh resolver done
  have configured : (start.configure resolver .empty mixedNames).value = (.ok (), done) :=
    Prod.ext rfl rfl
  have refused : (fresh.configure resolver .empty mixedNames).value.1 =
      .error (.registry (.invalidDomain "nove dev")) := rfl
  have registers :=
    (name_validity_ignores_case start resolver .empty mixedNames "Nyble.Dev").2.2.1
  have refuses := (name_validity_ignores_case fresh resolver .empty mixedNames "nove dev").2.2.2
  exact ⟨configured, rfl, registers done _ _ configured rfl, refused, refuses _ refused⟩

/-- A name with a Kelvin sign is not valid, but its lower-case form is, and is registered. -/
theorem kelvin_sign_becomes_letter :
    let name := "\u212aelvin.dev"
    let once := configureInMemory [] .empty (oneName name)
    isValid name = false ∧ isValid (Text.lower name) = true ∧
      once.1 = .ok () ∧ Registry.contains once.2.store "kelvin.dev" = .ok true :=
  ⟨rfl, rfl, rfl, rfl⟩

end LocalDomains

end MailHost
