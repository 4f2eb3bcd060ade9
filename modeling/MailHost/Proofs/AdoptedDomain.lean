import MailHost.Proofs.DefaultDomainHistory

/-!
# Mail for the default domain

A domain that is made the default is contained in the registry or listed once
it was tried.  A registry in memory only grows after that, and what a host
accepts it goes on accepting while the registry grows and nothing else about it
changes.  So mail for the default domain is accepted until the flags, the hosts
or the faults change, also where the domain was found and not registered.
-/

namespace MailHost

namespace Faulty

variable {before after : Faulty Storage} {few many : List String}

theorem contains_eq_ok_iff (holds : before.inner.Holds few) {domain : String} {known : Bool} :
    Registry.contains before domain = .ok known ↔
      before.faults.hit (.registryContains domain) = false ∧ few.contains domain = known := by
  rw [contains_eq, Storage.contains_of_holds holds]
  cases before.faults.hit (.registryContains domain) <;> simp

theorem list_eq_ok_iff (holds : before.inner.Holds few) {names : List String} :
    Registry.list before = .ok names ↔
      before.faults.hit .registryList = false ∧ few = names := by
  rw [list_eq, Storage.list_of_holds holds]
  cases before.faults.hit .registryList <;> simp

/-- The same faults let the same calls through to a registry in memory that holds more. -/
theorem outgrown_of_holds (faults : after.faults = before.faults)
    (start : before.inner.Holds few) (later : after.inner.Holds many) (within : few ⊆ many) :
    Registry.Outgrown before after := by
  constructor
  · intro domain known asked
    obtain ⟨through, rfl⟩ := (contains_eq_ok_iff start).mp asked
    rw [← faults] at through
    refine ⟨_, (contains_eq_ok_iff later).mpr ⟨through, rfl⟩, ?_⟩
    intro member
    exact List.contains_iff_mem.mpr (within (List.contains_iff_mem.mp member))
  · intro names asked
    obtain ⟨through, rfl⟩ := (list_eq_ok_iff start).mp asked
    rw [← faults] at through
    exact ⟨many, (list_eq_ok_iff later).mpr ⟨through, rfl⟩, within⟩

theorem outgrown_of_reached (reached : Registry.Reached before after)
    (holds : before.inner.Holds few) : Registry.Outgrown before after := by
  obtain ⟨added, _, held⟩ := holds_of_reached reached holds
  exact outgrown_of_holds (faults_of_reached reached) holds held
    (List.subset_append_left few added)

/-- A registry in memory that answered for a domain contains it once it is added. -/
theorem contains_of_add (holds : before.inner.Holds few) {domain : String} {known : Bool}
    (asked : Registry.contains before domain = .ok known)
    (added : (Registry.add before domain).1 = .ok ()) :
    Registry.contains (Registry.add before domain).2 domain = .ok true := by
  obtain ⟨names, _, held, whole⟩ := add_of_holds holds domain
  rw [whole added] at held
  obtain ⟨through, _⟩ := (contains_eq_ok_iff holds).mp asked
  rw [← add_faults before domain] at through
  refine (contains_eq_ok_iff held).mpr ⟨through, List.contains_iff_mem.mpr ?_⟩
  exact List.mem_append_right few (List.mem_singleton_self domain)

end Faulty

namespace LocalDomains

variable {domains after : LocalDomains (Faulty Storage)} {resolver : Resolver}
  {names : List String} {candidate : String}

/-! ## Trying a candidate -/

theorem holds_of_added (holds : domains.store.inner.Holds names) (added : Added domains after) :
    ∃ held, after.store.inner.Holds held := by
  obtain ⟨newcomers, _, held⟩ := Faulty.holds_of_reached added.store holds
  exact ⟨names ++ newcomers, held⟩

/-- What a host accepts it goes on accepting while domains are added to it. -/
theorem accepts_of_added (holds : domains.store.inner.Holds names) (added : Added domains after)
    (accepted : (domains.accepts resolver candidate).value = .ok true) :
    (after.accepts resolver candidate).value = .ok true := by
  refine accepts_of_outgrown (Faulty.outgrown_of_reached added.store holds) ?_ accepted
  rw [added.policy]
  exact .refl _

theorem accepts_of_adoptable (holds : domains.store.inner.Holds names)
    (adoptable : domains.Adoptable resolver candidate) :
    ((domains.tried resolver candidate).accepts resolver candidate).value = .ok true := by
  rcases (domains.adoptable_iff_accepts resolver candidate).mp adoptable with
    accepted | ⟨refused, added⟩
  · rw [tried, accepted]
    exact accepted
  · rw [tried, refused]
    obtain ⟨unknown, _⟩ := accepts_false_iff.mp refused
    exact accepts_of_contained (Faulty.contains_of_add holds unknown added) resolver

/-- Whichever candidate was adopted, the host accepts it after all of them were tried. -/
theorem accepts_triedAll (holds : domains.store.inner.Holds names) {configured : String}
    (adopted : domains.adoption? resolver configured = some candidate) :
    ((domains.triedAll resolver configured).accepts resolver candidate).value = .ok true := by
  unfold adoption? at adopted
  unfold triedAll
  split at adopted
  · rename_i adoptable
    rw [if_pos adoptable]
    have first := accepts_of_adoptable holds adoptable
    cases machine : machineCandidate? resolver configured with
    | none =>
        rw [machine] at adopted
        cases adopted
        exact first
    | some name =>
        rw [machine] at adopted
        simp only at adopted ⊢
        obtain ⟨held, holding⟩ := holds_of_added holds (domains.tried_added resolver configured)
        split at adopted
        · rename_i renamed
          cases adopted
          exact accepts_of_adoptable holding renamed
        · -- the name of the machine was refused, but trying it may have added domains
          rw [← Option.some.inj adopted]
          exact accepts_of_added holding
            ((domains.tried resolver configured).tried_added resolver name) first
  · cases adopted

/-- What a configuration adopted is accepted afterwards, also where a demand was refused. -/
theorem accepts_of_configured (holds : domains.store.inner.Holds names)
    {environment : Environment} {options : Options}
    (adopted : (domains.withFlags options).adoption? resolver options.defaultDomain =
      some candidate) :
    ((domains.configure resolver environment options).value.2.accepts resolver candidate).value =
      .ok true := by
  have flagged : (domains.withFlags options).store.inner.Holds names := holds
  have chosen : ((domains.choice resolver options).value.accepts resolver candidate).value =
      .ok true := by
    rw [choice_outcome, adopted]
    exact accepts_triedAll flagged adopted
  have held : ∃ added, (domains.choice resolver options).value.store.inner.Holds added := by
    rw [choice_outcome, withAdopted_store]
    exact holds_of_added flagged (triedAll_added ..)
  obtain ⟨added, held⟩ := held
  exact accepts_of_added held (domains.configure_added resolver environment options) chosen

end LocalDomains

/-! ## Requests that change neither the policy nor the surroundings -/

/-- Whether a request leaves the flags, the default domain, the hosts and the faults alone. -/
def Request.leavesSettings : Request → Bool
  | .domains (.configure _) => false
  | .domains (.configureFrom _) => false
  | .domains (.setAutodetect _) => false
  | .domains (.setAutodetectIp _) => false
  | .hosts _ => false
  | .fault _ _ => false
  | _ => true

theorem Request.leavesSettings_of_options {request : Request} {options : Options}
    (asked : request.options? = some options) : request.leavesSettings = false := by
  cases request with
  | domains request => cases request <;> first | rfl | cases asked
  | _ => cases asked

namespace Session

/-- The second session has the policy, the hosts and the faults of the first. -/
structure SameSettings (before after : Session) : Prop where
  policy : after.policy = before.policy
  hosts : after.hosts = before.hosts
  faults : after.faults = before.faults

theorem SameSettings.resolver {before after : Session} (same : SameSettings before after) :
    after.resolver = before.resolver := by
  rw [Session.resolver, Session.resolver, same.faults, same.hosts]

theorem sameSettings_turn (session : Session) {request : Request}
    (leaving : request.leavesSettings = true) :
    SameSettings session (session.turn request).session := by
  have step := session.step_turn request
  generalize (session.turn request).session = next at step ⊢
  cases step with
  | configured asked =>
      rw [Request.leavesSettings_of_options asked] at leaving
      cases leaving
  | autodetect on => cases leaving
  | autodetectIp on => cases leaving
  | hosts change => cases leaving
  | fault targets rule => cases leaving
  | _ => exact ⟨rfl, rfl, rfl⟩

theorem sameSettings_after (session : Session) {requests : List Request}
    (leaving : ∀ request ∈ requests, request.leavesSettings = true) :
    SameSettings session (session.after requests) := by
  induction requests generalizing session with
  | nil => exact ⟨rfl, rfl, rfl⟩
  | cons request rest ih =>
      obtain ⟨here, there⟩ := List.forall_mem_cons.mp leaving
      have first := session.sameSettings_turn here
      have later := ih (session.turn request).session there
      exact ⟨later.policy.trans first.policy, later.hosts.trans first.hosts,
        later.faults.trans first.faults⟩

theorem domains_of_options (session : Session) {request : Request} {options : Options}
    (asked : request.options? = some options) :
    (session.turn request).session.domains =
      (session.domains.configure session.resolver session.environment options).value.2 := by
  have reached := session.domains.configure_reached session.resolver session.environment options
  have faults : session.faults = _ := (Faulty.faults_of_reached reached).symm
  simp only [turn, session.answer_of_options asked]
  rw [domains, registry]
  change LocalDomains.mk (Faulty.mk session.faults _) _ = _
  rw [faults]
  rfl

theorem resolver_of_options (session : Session) {request : Request} {options : Options}
    (asked : request.options? = some options) :
    (session.turn request).session.resolver = session.resolver := by
  simp only [turn, session.answer_of_options asked]
  rfl

/-- With the same settings a session with a registry in memory refuses nothing it accepted. -/
theorem accepts_after (session : Session) {names : List String}
    (holds : session.storage.Holds names) {requests : List Request}
    (leaving : ∀ request ∈ requests, request.leavesSettings = true) {domain : String}
    (accepted : (session.domains.accepts session.resolver domain).value = .ok true) :
    let now := session.after requests
    (now.domains.accepts now.resolver domain).value = .ok true := by
  intro now
  have same : SameSettings session now := session.sameSettings_after leaving
  obtain ⟨added, _, held, _⟩ := session.holds_after holds requests
  have outgrown : Registry.Outgrown session.registry now.registry :=
    Faulty.outgrown_of_holds same.faults holds held (List.subset_append_left names added)
  have flags : session.policy.Within now.policy := by
    rw [same.policy]
    exact .refl _
  rw [same.resolver]
  exact LocalDomains.accepts_of_outgrown outgrown flags accepted

/--
A domain that a configuration makes the default is one for which mail is
accepted, right afterwards and after any later requests that leave the
settings alone, whether or not the configuration succeeded and whatever fails
in the meantime as it failed then.  A configuration that adopts no domain leaves
the default as it was.
-/
theorem mail_for_default_accepted (session : Session) {names : List String}
    (holds : session.storage.Holds names) {request : Request} {options : Options}
    (asked : request.options? = some options) :
    let configured := (session.turn request).session
    ((Occasion.mk session options).adopted? = none →
      configured.policy.defaultDomain = session.policy.defaultDomain) ∧
    (∀ domain, (Occasion.mk session options).adopted? = some domain →
      ∀ later : List Request, (∀ next ∈ later, next.leavesSettings = true) →
        let now := configured.after later
        now.domains.defaultDomain = .ok domain ∧
          (now.domains.accepts now.resolver domain).value = .ok true) := by
  intro configured
  have settled : configured.policy.defaultDomain =
      Occasion.nextDefault session.policy.defaultDomain ⟨session, options⟩ :=
    session.default_of_options asked
  constructor
  · intro nothing
    rw [settled, Occasion.nextDefault, nothing]
    rfl
  · intro domain adopted later leaving now
    have accepted : (configured.domains.accepts configured.resolver domain).value = .ok true := by
      rw [session.domains_of_options asked, session.resolver_of_options asked]
      exact LocalDomains.accepts_of_configured holds adopted
    obtain ⟨added, _, held, _⟩ := session.holds_turn holds request
    refine ⟨?_, configured.accepts_after held leaving accepted⟩
    have same : now.policy.defaultDomain = some domain := by
      rw [(configured.sameSettings_after leaving).policy, settled, Occasion.nextDefault, adopted]
      rfl
    exact now.domains.defaultDomain_eq_ok_iff.mpr same

/-- A machine with a name that is no domain name. -/
def misnamedMachine : Session :=
  (Session.start ⟨.memory ⟨["nyble.dev"]⟩, .empty []⟩ .empty).after
    [.hosts (.registerHost "mail_host" (.v4 10 0 0 9) "mail_host"),
      .hosts (.setLocalHost (some (.v4 10 0 0 9)))]

/-- Options that make that name the default, and end with another one of the kind. -/
def machineOptions : Options :=
  { defaultDomain := "mail_host", domainNames := ["bad_name"] }

def addedThenMailed : List Request :=
  [.registry (.add "nove.dev"),
    .mail (.deliver true ⟨"gen", "nyble.dev"⟩ "hello".toUTF8)]

theorem mail_for_default_accepted_misnamed :
    let request : Request := .domains (.configure machineOptions)
    let now := (misnamedMachine.turn request).session.after addedThenMailed
    misnamedMachine.storage.Holds ["nyble.dev"] ∧ request.options? = some machineOptions ∧
      (Occasion.mk misnamedMachine machineOptions).adopted? = some "mail_host" ∧
      (∀ next ∈ addedThenMailed, next.leavesSettings = true) ∧
      now.domains.defaultDomain = .ok "mail_host" ∧
      (now.domains.accepts now.resolver "mail_host").value = .ok true := by
  have holds : misnamedMachine.storage.Holds ["nyble.dev"] := by rfl
  have adopted : (Occasion.mk misnamedMachine machineOptions).adopted? = some "mail_host" := by
    decide +kernel
  have leaving : ∀ next ∈ addedThenMailed, next.leavesSettings = true := by
    rw [addedThenMailed, List.forall_mem_cons, List.forall_mem_singleton]
    exact ⟨rfl, rfl⟩
  have asked : Request.options? (.domains (.configure machineOptions)) = some machineOptions := rfl
  obtain ⟨_, accepted⟩ := mail_for_default_accepted misnamedMachine holds asked
  exact ⟨holds, rfl, adopted, leaving, accepted _ adopted _ leaving⟩

end Session

end MailHost
