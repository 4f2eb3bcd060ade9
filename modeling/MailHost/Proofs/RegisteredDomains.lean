import MailHost.Proofs.Adoption

/-!
# Registered domains over a run

What one request can change in a session, and what becomes of the registered
domains over a run.
-/

namespace MailHost

/-!
## What a request can change

A request changes one part of a session at most: the domains, the host table,
the inboxes, the files, or the faults.  Every property of runs follows from
these few steps.
-/

/-- The options that a request applies, if it is to configure the host and they can be read. -/
def Request.options? : Request → Option Options
  | .domains (.configure options) => some options
  | .domains (.configureFrom text) =>
      match Outline.parse text with
      | .value outline => (Options.ofOutline outline).toOption
      | _ => none
  | _ => none

namespace Session

/-- What the session may be after a request.  The files and the inboxes may come to be any. -/
inductive Step (session : Session) : Request → Session → Prop where
  | configured {request : Request} {options : Options} (asked : request.options? = some options) :
      Step session request (session.withDomains
        (session.domains.configure session.resolver session.environment options).value.2)
  | autodetect (on : Bool) :
      Step session (.domains (.setAutodetect on))
        { session with policy := { session.policy with autodetect := on } }
  | autodetectIp (on : Bool) :
      Step session (.domains (.setAutodetectIp on))
        { session with policy := { session.policy with autodetectIp := on } }
  | added (domain : String) :
      Step session (.registry (.add domain))
        (session.withRegistry (Registry.add session.registry domain).2)
  | hosts (change : HostsRequest) :
      Step session (.hosts change) { session with hosts := changeHosts session.hosts change }
  | mail (request : MailRequest) (mail : Faulty Mailboxes) :
      Step session (.mail request) (session.withMail mail)
  | files (request : FilesRequest) (tree : FileTree) :
      Step session (.files request) { session with storage := { session.storage with tree } }
  | fault (targets : List Target) (rule : FaultRule) :
      Step session (.fault targets rule)
        { session with faults := session.faults.set targets rule }
  | kept {request : Request} (unasked : request.options? = none) : Step session request session

theorem answer_of_options (session : Session) {request : Request} {options : Options}
    (asked : request.options? = some options) :
    session.answer request = session.configure options := by
  cases request with
  | domains request =>
      cases request with
      | configure given =>
          cases asked
          rfl
      | configureFrom text =>
          rw [Request.options?] at asked
          rw [answer, answerDomains]
          cases parsed : Outline.parse text with
          | value outline =>
              rw [parsed] at asked
              simp only at asked ⊢
              cases read : Options.ofOutline outline with
              | error cause => rw [read] at asked; cases asked
              | ok given =>
                  rw [read] at asked
                  cases asked
                  rfl
          | failed cause => rw [parsed] at asked; cases asked
          | aborted => rw [parsed] at asked; cases asked
      | _ => cases asked
  | _ => cases asked

/-- A configuration that cannot be read changes nothing. -/
theorem turn_of_unread (session : Session) {text : String}
    (unread : (Request.domains (.configureFrom text)).options? = none) :
    (session.turn (.domains (.configureFrom text))).session = session := by
  rw [Request.options?] at unread
  simp only [turn, answer, answerDomains]
  cases parsed : Outline.parse text with
  | value outline =>
      rw [parsed] at unread
      simp only at unread ⊢
      cases read : Options.ofOutline outline with
      | error cause => rfl
      | ok options => rw [read] at unread; cases unread
  | failed cause => rfl
  | aborted => rfl

/-- A request about mail changes the inboxes at most. -/
theorem turn_mail (session : Session) (request : MailRequest) :
    ∃ mail, (session.turn (.mail request)).session = session.withMail mail := by
  cases request with
  | deliver virtualHosting recipient message => exact ⟨_, rfl⟩
  | deliverTo virtualHosting address message =>
      simp only [turn, answer, answerMail]
      cases Recipient.parse address with
      | error cause => exact ⟨session.mail, rfl⟩
      | ok recipient => exact ⟨_, rfl⟩
  | createInbox user => exact ⟨_, rfl⟩
  | append user message => exact ⟨_, rfl⟩
  | _ => exact ⟨session.mail, rfl⟩

/-- A turn is one of these steps. -/
theorem step_turn (session : Session) (request : Request) :
    Step session request (session.turn request).session := by
  cases asked : request.options? with
  | some options =>
      simp only [turn, session.answer_of_options asked]
      exact .configured asked
  | none =>
      cases request with
      | domains request =>
          cases request with
          | configure options => cases asked
          | configureFrom text =>
              rw [session.turn_of_unread asked]
              exact .kept asked
          | setAutodetect on => exact .autodetect on
          | setAutodetectIp on => exact .autodetectIp on
          | _ => exact .kept asked
      | registry request =>
          cases request with
          | add domain => exact .added domain
          | _ => exact .kept asked
      | hosts change => exact .hosts change
      | mail request =>
          obtain ⟨mail, after⟩ := session.turn_mail request
          rw [after]
          exact .mail request mail
      | files request =>
          cases request with
          | read path => exact .kept asked
          | _ => exact .files _ _
      | fault targets rule => exact .fault targets rule
      | _ => exact .kept asked

end Session

/-!
## Registered domains over a run

Only a request to configure or to add reaches the registry, and it does so by
additions.  So in a session with a registry in memory the registered domains
are those given at the start with newcomers behind them.
-/

/-! ### Requests that register -/

def Request.registers : Request → Bool
  | .domains (.configure _) => true
  | .domains (.configureFrom _) => true
  | .registry (.add _) => true
  | _ => false

theorem Request.registers_of_options {request : Request} {options : Options}
    (asked : request.options? = some options) : request.registers = true := by
  cases request with
  | domains request => cases request <;> first | rfl | cases asked
  | _ => cases asked

namespace Session

variable {names : List String}

/-- A request puts newcomers behind the registered domains, if it may register any. -/
theorem holds_turn (session : Session) (holds : session.storage.Holds names)
    (request : Request) :
    ∃ added, Newcomers names added ∧
      (session.turn request).session.storage.Holds (names ++ added) ∧
      (request.registers = false → added = []) := by
  have step := session.step_turn request
  generalize (session.turn request).session = next at step ⊢
  cases step with
  | configured asked =>
      obtain ⟨added, newcomers, held⟩ := Faulty.holds_of_reached
        (session.domains.configure_reached session.resolver session.environment _) holds
      refine ⟨added, newcomers, held, ?_⟩
      intro leaving
      rw [Request.registers_of_options asked] at leaving
      cases leaving
  | added domain =>
      have started : session.registry.inner.Holds names := holds
      obtain ⟨added, newcomers, held, _⟩ := Faulty.add_of_holds started domain
      exact ⟨added, newcomers, held, nofun⟩
  | _ =>
      -- also a change of the files, as a registry in memory is none of them
      refine ⟨[], .none, ?_, fun _ => rfl⟩
      rw [List.append_nil]
      exact holds

theorem holds_after (session : Session) (holds : session.storage.Holds names)
    (requests : List Request) :
    ∃ added, Newcomers names added ∧
      (session.after requests).storage.Holds (names ++ added) ∧
      ((∀ request ∈ requests, request.registers = false) → added = []) := by
  induction requests generalizing session names with
  | nil => exact ⟨[], .none, by rwa [List.append_nil], fun _ => rfl⟩
  | cons request rest ih =>
      obtain ⟨first, newcomers, held, still⟩ := session.holds_turn holds request
      obtain ⟨later, others, grown, quiet⟩ := ih (session.turn request).session held
      rw [List.append_assoc] at grown
      refine ⟨first ++ later, newcomers.append others, grown, ?_⟩
      intro leaving
      obtain ⟨here, there⟩ := List.forall_mem_cons.mp leaving
      rw [still here, quiet there]
      rfl

/--
The registered domains of a session with a registry in memory are those given
at the start and new ones behind them, whatever was asked and whatever failed.
The new ones are domain names, none is among those given, and none comes twice.
Later requests only put more behind them, and put none there unless some
request is to configure or to add.
-/
theorem registered_domains_grow (given : List String) (tree : FileTree)
    (environment : Environment) (requests : List Request) :
    let done := (Session.start ⟨.memory ⟨given⟩, tree⟩ environment).after requests
    ∃ added, Registry.list done.storage = .ok (given ++ added) ∧ added.Nodup ∧
      (∀ domain ∈ added, domain ∉ given ∧ DomainName.isValid domain = true) ∧
      ∀ later, ∃ more,
        Registry.list (done.after later).storage = .ok (given ++ added ++ more) ∧
          ((∀ request ∈ later, request.registers = false) → more = []) := by
  intro done
  have started : (Session.start ⟨.memory ⟨given⟩, tree⟩ environment).storage.Holds given := rfl
  obtain ⟨added, newcomers, held, _⟩ := holds_after _ started requests
  refine ⟨added, Storage.list_of_holds held, newcomers.distinct, ?_, ?_⟩
  · intro domain member
    exact ⟨newcomers.missing domain member, newcomers.valid domain member⟩
  · intro later
    obtain ⟨more, _, grown, quiet⟩ := done.holds_after held later
    exact ⟨more, Storage.list_of_holds grown, quiet⟩

def addedThenShut : List Request :=
  [.registry (.add "nyble.dev"),
    .registry (.add "nyble.dev"),
    .fault [.registryAdd] .always,
    .domains (.configure { autodetect := false, domainNames := ["nove.dev"] })]

def mailThenQuestion : List Request :=
  [.mail (.deliver false ⟨"gen", "nyble.dev"⟩ "hello".toUTF8),
    .domains (.accepts "nove.dev")]

theorem registered_domains_grow_shut :
    let given := ["Nyble.Dev", "::1", "Nyble.Dev"]
    let done := (Session.start ⟨.memory ⟨given⟩, .empty []⟩ .empty).after addedThenShut
    (∀ request ∈ mailThenQuestion, request.registers = false) ∧
      Registry.list done.storage = .ok (given ++ ["nyble.dev"]) ∧
      Registry.list (done.after mailThenQuestion).storage = .ok (given ++ ["nyble.dev"]) := by
  intro given done
  have leaving : ∀ request ∈ mailThenQuestion, request.registers = false := by
    rw [mailThenQuestion, List.forall_mem_cons, List.forall_mem_singleton]
    exact ⟨rfl, rfl⟩
  have listed : Registry.list done.storage = .ok (given ++ ["nyble.dev"]) := by rfl
  obtain ⟨added, grown, _, _, onward⟩ :=
    registered_domains_grow given (.empty []) .empty addedThenShut
  obtain ⟨more, later, quiet⟩ := onward mailThenQuestion
  rw [quiet leaving, List.append_nil] at later
  exact ⟨leaving, listed, later.trans (grown.symm.trans listed)⟩

end Session

end MailHost
