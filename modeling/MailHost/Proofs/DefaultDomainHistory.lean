import MailHost.Proofs.RegisteredDomains

/-!
# The default domain over a run

Only a configuration changes the default domain.  So the default domain of a
session is what its configurations adopted, one after the other, each by what
the registry and the resolver answered at that moment.
-/

namespace MailHost

/-! ## Configurations of a session -/

/-- Options that are applied, and the session that they meet. -/
structure Occasion where
  session : Session
  options : Options

namespace Occasion

/-- The host once its flags are set, which is the first thing to happen. -/
def host (occasion : Occasion) : LocalDomains (Faulty Storage) :=
  occasion.session.domains.withFlags occasion.options

/-- The domain that the configuration makes the default, if it makes any. -/
def adopted? (occasion : Occasion) : Option String :=
  occasion.host.adoption? occasion.session.resolver occasion.options.defaultDomain

/-- The default domain after the configuration, where there was some default before. -/
def nextDefault (previous : Option String) (occasion : Occasion) : Option String :=
  occasion.adopted?.or previous

theorem foldl_nextDefault_eq_none_iff (previous : Option String) (occasions : List Occasion) :
    occasions.foldl nextDefault previous = none ↔
      previous = none ∧ ∀ occasion ∈ occasions, occasion.adopted? = none := by
  induction occasions generalizing previous with
  | nil => simp
  | cons occasion rest ih =>
      rw [List.foldl_cons, ih, List.forall_mem_cons, nextDefault, Option.or_eq_none_iff]
      constructor
      · rintro ⟨⟨here, before⟩, later⟩
        exact ⟨before, here, later⟩
      · rintro ⟨before, here, later⟩
        exact ⟨⟨here, before⟩, later⟩

end Occasion

namespace Session

/-- Whatever is answered, the default domain is settled by what is adopted. -/
theorem default_of_options (session : Session) {request : Request} {options : Options}
    (asked : request.options? = some options) :
    (session.turn request).session.policy.defaultDomain =
      Occasion.nextDefault session.policy.defaultDomain ⟨session, options⟩ := by
  have configured := session.domains.configure_policy session.resolver session.environment options
  simp only [turn, session.answer_of_options asked]
  exact congrArg Policy.defaultDomain configured

/-- Other requests leave the default domain alone. -/
theorem default_of_no_options (session : Session) {request : Request}
    (unasked : request.options? = none) :
    (session.turn request).session.policy.defaultDomain = session.policy.defaultDomain := by
  have step := session.step_turn request
  generalize (session.turn request).session = next at step ⊢
  cases step with
  | configured asked =>
      rw [unasked] at asked
      cases asked
  | _ => rfl

def occasions (session : Session) : List Request → List Occasion
  | [] => []
  | request :: rest =>
      (request.options?.map (Occasion.mk session)).toList ++
        occasions (session.turn request).session rest

theorem default_after (session : Session) (requests : List Request) :
    (session.after requests).policy.defaultDomain =
      (session.occasions requests).foldl Occasion.nextDefault session.policy.defaultDomain := by
  induction requests generalizing session with
  | nil => rfl
  | cons request rest ih =>
      rw [after, occasions, ih, List.foldl_append]
      cases asked : request.options? with
      | none => rw [session.default_of_no_options asked]; rfl
      | some options => rw [session.default_of_options asked]; rfl

/--
The default domain of a session is what its configurations adopted, one after
the other, starting from none, whatever else was asked and whatever failed.  A
configuration adopts its configured domain if that can be the default then, or
in place of `localhost` the name of the machine if that can be.  It does so
whether or not it succeeds in the end, and no other request changes the default
domain.  There is none just if no configured domain could be adopted.
-/
theorem default_domain_is_adopted (storage : Storage) (environment : Environment)
    (requests : List Request) :
    let start := Session.start storage environment
    let done := start.after requests
    done.policy.defaultDomain = (start.occasions requests).foldl Occasion.nextDefault none ∧
      (∀ request options, request.options? = some options →
        (done.turn request).session.policy.defaultDomain =
          Occasion.nextDefault done.policy.defaultDomain ⟨done, options⟩) ∧
      (∀ request, request.options? = none →
        (done.turn request).session.policy.defaultDomain = done.policy.defaultDomain) ∧
      (done.domains.defaultDomain = .error .notConfigured ↔
        ∀ occasion ∈ start.occasions requests,
          ¬ occasion.host.Adoptable occasion.session.resolver occasion.options.defaultDomain) := by
  intro start done
  have folded : done.policy.defaultDomain = _ := start.default_after requests
  refine ⟨folded, fun request options => done.default_of_options,
    fun request => done.default_of_no_options, ?_⟩
  have unset : done.domains.policy.defaultDomain = _ := folded
  rw [LocalDomains.defaultDomain_eq_error_iff, unset, Occasion.foldl_nextDefault_eq_none_iff]
  simp only [Occasion.adopted?, LocalDomains.adoption?_eq_none_iff]
  constructor
  · rintro ⟨_, refused⟩
    exact refused
  · intro refused
    exact ⟨rfl, refused⟩

/-- The name of the machine becomes the default domain; then a candidate cannot be looked for. -/
def adoptedThenLost : List Request :=
  [.hosts (.registerHost "MAILHOST" (.v4 10 0 0 5) "mailhost"),
    .hosts (.setLocalHost (some (.v4 10 0 0 5))),
    .domains (.configure {}),
    .fault [.registryContains] (.only "genbyte.dev"),
    .domains (.configure { defaultDomain := "genbyte.dev" })]

def misnamed : Options :=
  { defaultDomain := "nyble.dev", domainNames := ["nove.dev", "bad_name"] }

theorem default_domain_is_adopted_misnamed :
    let done := (Session.start Storage.blank .empty).after adoptedThenLost
    let configuring : Request := .domains (.configure misnamed)
    let flagging : Request := .domains (.setAutodetect false)
    configuring.options? = some misnamed ∧
      (done.domains.configure done.resolver done.environment misnamed).value.1.isOk = false ∧
      (done.turn configuring).session.policy.defaultDomain = some "nyble.dev" ∧
      flagging.options? = none ∧
      (done.turn flagging).session.policy.defaultDomain = some "mailhost" := by
  obtain ⟨folded, settled, kept, _⟩ :=
    default_domain_is_adopted Storage.blank .empty adoptedThenLost
  refine ⟨rfl, ?_, ?_, rfl, ?_⟩
  · decide +kernel
  · rw [settled _ misnamed rfl]
    decide +kernel
  · rw [kept _ rfl, folded]
    decide +kernel

end Session

/-!
## A default domain that was chosen before

Options that leave the default domain open name `localhost` for it.  Applying
them takes no look at the default domain there is.  It tries `localhost` and
then the name of the machine, so what was chosen before stays only where
`localhost` cannot be adopted or where the choice is made once more.
-/

theorem LocalDomains.machineCandidate?_localhost_eq_some_iff {resolver : Resolver}
    {candidate : String} :
    machineCandidate? resolver localhost = some candidate ↔
      ∃ name, resolver.machineName = .ok name ∧ Text.lower name = candidate := by
  rw [machineCandidate?, if_pos rfl]
  cases resolver.machineName <;> simp

namespace Occasion

/--
What it takes for options that leave the default domain open to keep the one
that was chosen: `localhost` cannot be adopted, or the machine has the chosen
name and that can be adopted next.
-/
def Keeps (occasion : Occasion) (chosen : String) : Prop :=
  ¬ occasion.host.Adoptable occasion.session.resolver localhost ∨
    (∃ name, occasion.session.resolver.machineName = .ok name ∧ Text.lower name = chosen) ∧
      (occasion.host.tried occasion.session.resolver localhost).Adoptable
        occasion.session.resolver chosen

variable {occasion : Occasion} {chosen : String}

/-- Options that leave the default domain open adopt nothing, `localhost` or the machine's name. -/
theorem adopted?_of_leftOpen (leftOpen : occasion.options.defaultDomain = localhost) :
    occasion.adopted? = none ∨ occasion.adopted? = some localhost ∨
      ∃ name, occasion.session.resolver.machineName = .ok name ∧
        occasion.adopted? = some (Text.lower name) := by
  rw [adopted?, leftOpen, LocalDomains.adoption?]
  by_cases adoptable : occasion.host.Adoptable occasion.session.resolver localhost
  · rw [if_pos adoptable]
    cases found : LocalDomains.machineCandidate? occasion.session.resolver localhost with
    | none => exact Or.inr (Or.inl rfl)
    | some candidate =>
        obtain ⟨name, named, rfl⟩ := LocalDomains.machineCandidate?_eq_some found
        simp only
        split
        · exact Or.inr (Or.inr ⟨name, named, rfl⟩)
        · exact Or.inr (Or.inl rfl)
  · exact Or.inl (if_neg adoptable)

theorem nextDefault_eq_iff_keeps (leftOpen : occasion.options.defaultDomain = localhost)
    (explicit : chosen ≠ localhost) :
    nextDefault (some chosen) occasion = some chosen ↔ occasion.Keeps chosen := by
  rw [nextDefault, adopted?, leftOpen, LocalDomains.adoption?, Keeps,
    ← LocalDomains.machineCandidate?_localhost_eq_some_iff]
  by_cases adoptable : occasion.host.Adoptable occasion.session.resolver localhost
  · have lost : some localhost ≠ some chosen := fun same => explicit (Option.some.inj same).symm
    rw [if_pos adoptable]
    -- The chosen domain is overwritten by now; only the machine's name can bring it back.
    cases found : LocalDomains.machineCandidate? occasion.session.resolver localhost with
    | none => simp [adoptable, lost]
    | some name =>
        by_cases same : name = chosen
        · subst same
          by_cases named : (occasion.host.tried occasion.session.resolver localhost).Adoptable
              occasion.session.resolver name
          · simp [named]
          · simp [adoptable, named, lost]
        · simp only
          split <;> simp [adoptable, same, lost]
  · rw [if_neg adoptable]
    exact iff_of_true rfl (Or.inl adoptable)

theorem foldl_nextDefault_of_keeps {occasions : List Occasion} (explicit : chosen ≠ localhost)
    (keeping : ∀ occasion ∈ occasions,
      occasion.options.defaultDomain = localhost ∧ occasion.Keeps chosen) :
    occasions.foldl nextDefault (some chosen) = some chosen := by
  induction occasions with
  | nil => rfl
  | cons occasion rest ih =>
      obtain ⟨⟨leftOpen, keeps⟩, later⟩ := List.forall_mem_cons.mp keeping
      rw [List.foldl_cons, (nextDefault_eq_iff_keeps leftOpen explicit).mpr keeps]
      exact ih later

end Occasion

namespace Session

/--
In any state of a session with a chosen default domain other than `localhost`,
options that leave the default domain open keep it just if `localhost` cannot be
adopted then, or the machine has the chosen name and that can be adopted.
Otherwise the default domain becomes `localhost` or the name of the machine.  So
the chosen one stays through later requests if each configuration among them
leaves the default domain open and keeps it.
-/
theorem chosen_default_kept_iff (session : Session) {chosen : String}
    (standing : session.policy.defaultDomain = some chosen) (explicit : chosen ≠ localhost) :
    (∀ request options, request.options? = some options → options.defaultDomain = localhost →
      let next := (session.turn request).session.policy.defaultDomain
      (next = some chosen ↔ (Occasion.mk session options).Keeps chosen) ∧
        (next = some chosen ∨ next = some localhost ∨
          ∃ name, session.resolver.machineName = .ok name ∧ next = some (Text.lower name))) ∧
    (∀ later, (∀ occasion ∈ session.occasions later,
        occasion.options.defaultDomain = localhost ∧ occasion.Keeps chosen) →
      (session.after later).policy.defaultDomain = some chosen) := by
  constructor
  · intro request options asked leftOpen next
    have settled : next = Occasion.nextDefault (some chosen) ⟨session, options⟩ := by
      rw [← standing]
      exact session.default_of_options asked
    have unnamed : (Occasion.mk session options).options.defaultDomain = localhost := leftOpen
    rw [settled]
    refine ⟨Occasion.nextDefault_eq_iff_keeps unnamed explicit, ?_⟩
    rcases Occasion.adopted?_of_leftOpen unnamed with nothing | sentinel | ⟨name, named, machine⟩
    · exact Or.inl (by rw [Occasion.nextDefault, nothing]; rfl)
    · exact Or.inr (Or.inl (by rw [Occasion.nextDefault, sentinel]; rfl))
    · exact Or.inr (Or.inr ⟨name, named, by rw [Occasion.nextDefault, machine]; rfl⟩)
  · intro later keeping
    rw [session.default_after later, standing]
    exact Occasion.foldl_nextDefault_of_keeps explicit keeping

def silent : Request :=
  .domains (.configure {})

def chosenNameless : Session :=
  (Session.start Storage.blank .empty).after
    [.hosts (.setLocalHost none), .domains (.configure { defaultDomain := "nyble.dev" })]

def chosenNamed : Session :=
  (Session.start Storage.blank .empty).after
    [.hosts (.registerHost "MAILHOST" (.v4 10 0 0 5) "mailhost"),
      .hosts (.setLocalHost (some (.v4 10 0 0 5))),
      .domains (.configure { defaultDomain := "nyble.dev" })]

/-- The same as without a name, but no domain can be registered any more. -/
def chosenThenShut : Session :=
  chosenNameless.after [.fault [.registryAdd] .always]

theorem chosen_default_kept_iff_shut :
    let later : List Request := [silent, .domains (.setAutodetect false), silent]
    chosenThenShut.policy.defaultDomain = some "nyble.dev" ∧ "nyble.dev" ≠ localhost ∧
      silent.options? = some {} ∧ ({} : Options).defaultDomain = localhost ∧
      (chosenThenShut.turn silent).session.policy.defaultDomain = some "nyble.dev" ∧
      (∀ occasion ∈ chosenThenShut.occasions later,
        occasion.options.defaultDomain = localhost ∧ occasion.Keeps "nyble.dev") ∧
      (chosenThenShut.after later).policy.defaultDomain = some "nyble.dev" := by
  intro later
  have standing : chosenThenShut.policy.defaultDomain = some "nyble.dev" := by decide +kernel
  have explicit : "nyble.dev" ≠ localhost := by decide
  have first : (Occasion.mk chosenThenShut {}).Keeps "nyble.dev" := Or.inl (by decide +kernel)
  have second : (Occasion.mk (chosenThenShut.after (later.take 2)) {}).Keeps "nyble.dev" :=
    Or.inl (by decide +kernel)
  have keeping : ∀ occasion ∈ chosenThenShut.occasions later,
      occasion.options.defaultDomain = localhost ∧ occasion.Keeps "nyble.dev" := by
    have listed : chosenThenShut.occasions later =
        [Occasion.mk chosenThenShut {}, Occasion.mk (chosenThenShut.after (later.take 2)) {}] := rfl
    rw [listed, List.forall_mem_cons, List.forall_mem_singleton]
    exact ⟨⟨rfl, first⟩, rfl, second⟩
  obtain ⟨once, onward⟩ := chosen_default_kept_iff chosenThenShut standing explicit
  exact ⟨standing, explicit, rfl, rfl, (once silent {} rfl rfl).1.mpr first, keeping,
    onward later keeping⟩

/-- Options that leave it open put `localhost` or the machine's name in the place of the default. -/
theorem chosen_default_lost :
    (chosenNameless.policy.defaultDomain = some "nyble.dev" ∧
        (chosenNameless.turn silent).session.policy.defaultDomain = some "localhost") ∧
      chosenNamed.policy.defaultDomain = some "nyble.dev" ∧
        (chosenNamed.turn silent).session.policy.defaultDomain = some "mailhost" := by
  decide +kernel

end Session

end MailHost
