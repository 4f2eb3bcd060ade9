import MailHost.Proofs.Registry.Growth

/-!
# Sessions that cannot be told apart

Two sessions whose registries answer alike, and that agree in everything else,
give the same answers and stay so, whatever they are asked that is not about
files.  So a session with a registry file that nobody else writes is a session
with a registry in memory whose domains survive it.
-/

namespace MailHost

structure Faulty.Related {σ τ : Type} (Sim : σ → τ → Prop) (a : Faulty σ) (b : Faulty τ) :
    Prop where
  faults : a.faults = b.faults
  inner : Sim a.inner b.inner

theorem Faulty.related_simulation {σ τ : Type} [Registry σ] [Registry τ] {Sim : σ → τ → Prop}
    (simulation : Registry.Simulation Sim) : Registry.Simulation (Faulty.Related Sim) where
  list := by
    rintro ⟨faults, a⟩ ⟨_, b⟩ ⟨rfl, inner⟩
    rw [list_eq, list_eq, simulation.list inner]
  contains := by
    rintro ⟨faults, a⟩ ⟨_, b⟩ ⟨rfl, inner⟩ domain
    rw [contains_eq, contains_eq, simulation.contains inner]
  result := by
    rintro ⟨faults, a⟩ ⟨_, b⟩ ⟨rfl, inner⟩ domain
    rw [add_eq, add_eq]
    split
    · rfl
    · exact simulation.result inner domain
  added := by
    rintro ⟨faults, a⟩ ⟨_, b⟩ ⟨rfl, inner⟩ domain
    rw [add_eq, add_eq]
    split
    · exact ⟨rfl, inner⟩
    · exact ⟨rfl, simulation.added inner domain⟩

theorem Delivery.deliver_related {σ τ μ : Type} [Registry σ] [Registry τ] [MailStore μ]
    {Sim : σ → τ → Prop} (simulation : Registry.Simulation Sim) {a : LocalDomains σ}
    {b : LocalDomains τ} (related : LocalDomains.Related Sim a b) (resolver : Resolver)
    (boxes : μ) (virtualHosting : Bool) (recipient : Recipient) (message : ByteArray) :
    deliver a resolver boxes virtualHosting recipient message =
      deliver b resolver boxes virtualHosting recipient message := by
  rw [deliver, deliver, LocalDomains.accepts_related simulation related]

namespace Session

open Traced (Alike)

/-- Sessions with related storage that agree in everything else. -/
structure Related (Sim : Storage → Storage → Prop) (a b : Session) : Prop where
  storage : Sim a.storage b.storage
  policy : a.policy = b.policy
  hosts : a.hosts = b.hosts
  environment : a.environment = b.environment
  boxes : a.boxes = b.boxes
  faults : a.faults = b.faults

def SameAnswer (Sim : Storage → Storage → Prop) (x y : Answer × Session) : Prop :=
  x.1 = y.1 ∧ Related Sim x.2 y.2

variable {Sim : Storage → Storage → Prop} {a b : Session}

namespace Related

theorem registry (related : Related Sim a b) : Faulty.Related Sim a.registry b.registry :=
  ⟨related.faults, related.storage⟩

theorem domains (related : Related Sim a b) :
    LocalDomains.Related (Faulty.Related Sim) a.domains b.domains :=
  ⟨related.registry, related.policy⟩

theorem resolver (related : Related Sim a b) : a.resolver = b.resolver := by
  rw [Session.resolver, Session.resolver, related.faults, related.hosts]

theorem mail (related : Related Sim a b) : a.mail = b.mail := by
  rw [Session.mail, Session.mail, related.faults, related.boxes]

theorem withDomains (related : Related Sim a b) {x y : LocalDomains (Faulty Storage)}
    (after : LocalDomains.Related (Faulty.Related Sim) x y) :
    Related Sim (a.withDomains x) (b.withDomains y) :=
  { related with storage := after.store.inner, policy := after.policy }

theorem withRegistry (related : Related Sim a b) {x y : Faulty Storage}
    (after : Faulty.Related Sim x y) : Related Sim (a.withRegistry x) (b.withRegistry y) :=
  { related with storage := after.inner }

theorem withMail (related : Related Sim a b) (mail : Faulty Mailboxes) :
    Related Sim (a.withMail mail) (b.withMail mail) :=
  { related with boxes := rfl }

end Related

/-! ## Answers -/

theorem configure_alike (simulation : Registry.Simulation Sim) (related : Related Sim a b)
    (options : Options) : Alike (SameAnswer Sim) (a.configure options) (b.configure options) := by
  rw [configure, configure, related.resolver, related.environment]
  refine (LocalDomains.configure_alike (Faulty.related_simulation simulation) related.domains
    b.resolver b.environment options).bind ?_
  rintro ⟨result, left⟩ ⟨_, right⟩ ⟨rfl, configured⟩
  exact .pure ⟨rfl, related.withDomains configured⟩

theorem answerDomains_alike (simulation : Registry.Simulation Sim) (related : Related Sim a b)
    (request : DomainsRequest) :
    Alike (SameAnswer Sim) (a.answerDomains request) (b.answerDomains request) := by
  have lifted := Faulty.related_simulation simulation
  cases request with
  | configure options => exact configure_alike simulation related options
  | configureFrom text =>
      rw [answerDomains, answerDomains]
      match Outline.parse text with
      | .aborted => exact .pure ⟨rfl, related⟩
      | .failed cause => exact .pure ⟨rfl, related⟩
      | .value outline =>
          simp only
          match Options.ofOutline outline with
          | .error cause => exact .pure ⟨rfl, related⟩
          | .ok options => exact configure_alike simulation related options
  | accepts domain =>
      rw [answerDomains, answerDomains, related.resolver,
        LocalDomains.accepts_related lifted related.domains]
      refine .bind_same _ fun result => ?_
      exact .pure ⟨rfl, related⟩
  | listing =>
      rw [answerDomains, answerDomains, related.resolver,
        LocalDomains.listing_related lifted related.domains]
      refine .bind_same _ fun result => ?_
      exact .pure ⟨rfl, related⟩
  | defaultDomain =>
      have same : a.domains.defaultDomain = b.domains.defaultDomain := by
        rw [LocalDomains.defaultDomain, LocalDomains.defaultDomain, related.domains.policy]
      rw [answerDomains, answerDomains, same]
      exact .pure ⟨rfl, related⟩
  | setAutodetect on =>
      refine (LocalDomains.setAutodetect_alike related.domains on).bind ?_
      intro left right flagged
      exact .pure ⟨rfl, related.withDomains flagged⟩
  | setAutodetectIp on =>
      refine (LocalDomains.setAutodetectIp_alike related.domains on).bind ?_
      intro left right flagged
      exact .pure ⟨rfl, related.withDomains flagged⟩

theorem answerRegistry_alike (simulation : Registry.Simulation Sim) (related : Related Sim a b)
    (request : RegistryRequest) :
    Alike (SameAnswer Sim) (a.answerRegistry request) (b.answerRegistry request) := by
  have lifted := Faulty.related_simulation simulation
  cases request with
  | add domain =>
      refine ⟨⟨?_, related.withRegistry (lifted.added related.registry domain)⟩, rfl, rfl⟩
      exact congrArg (Answer.ofExcept Failure.registry fun _ => .done)
        (lifted.result related.registry domain)
  | contains domain =>
      refine ⟨⟨?_, related⟩, rfl, rfl⟩
      exact congrArg (Answer.ofExcept Failure.registry Answer.flag)
        (lifted.contains related.registry domain)
  | list =>
      refine ⟨⟨?_, related⟩, rfl, rfl⟩
      exact congrArg (Answer.ofExcept Failure.registry Answer.texts)
        (lifted.list related.registry)

theorem answerMail_alike (simulation : Registry.Simulation Sim) (related : Related Sim a b)
    (request : MailRequest) :
    Alike (SameAnswer Sim) (a.answerMail request) (b.answerMail request) := by
  have delivered : ∀ virtualHosting recipient message,
      Alike (SameAnswer Sim) (a.deliver virtualHosting recipient message)
        (b.deliver virtualHosting recipient message) := by
    intro virtualHosting recipient message
    rw [deliver, deliver, related.resolver, related.mail,
      Delivery.deliver_related (Faulty.related_simulation simulation) related.domains]
    refine .bind_same _ fun outcome => ?_
    exact .pure ⟨rfl, related.withMail outcome.2⟩
  cases request with
  | deliver virtualHosting recipient message => exact delivered virtualHosting recipient message
  | deliverTo virtualHosting address message =>
      rw [answerMail, answerMail]
      cases Recipient.parse address with
      | error cause => exact .pure ⟨rfl, related⟩
      | ok recipient => exact delivered virtualHosting recipient message
  | hasInbox user =>
      rw [answerMail, answerMail, related.mail]
      refine .bind_same _ fun result => ?_
      exact .pure ⟨rfl, related⟩
  | createInbox user =>
      rw [answerMail, answerMail, related.mail]
      refine .bind_same _ fun outcome => ?_
      exact .pure ⟨rfl, related.withMail outcome.2⟩
  | append user message =>
      rw [answerMail, answerMail, related.mail]
      refine .bind_same _ fun outcome => ?_
      exact .pure ⟨rfl, related.withMail outcome.2⟩
  | messages user =>
      rw [answerMail, answerMail, related.boxes]
      exact .pure ⟨rfl, related⟩

theorem answerLookup_related (related : Related Sim a b) (request : LookupRequest) :
    a.answerLookup request = b.answerLookup request := by
  cases request <;> simp only [answerLookup, related.resolver]

/-- Whether a request leaves files alone, but for what the registry does with its own. -/
def leavesFiles : Request → Bool
  | .files _ => false
  | _ => true

theorem answer_alike (simulation : Registry.Simulation Sim) (related : Related Sim a b)
    {request : Request} (apart : leavesFiles request = true) :
    Alike (SameAnswer Sim) (a.answer request) (b.answer request) := by
  cases request with
  | domains request => exact answerDomains_alike simulation related request
  | registry request => exact answerRegistry_alike simulation related request
  | hosts request =>
      refine .pure ⟨rfl, { related with hosts := ?_ }⟩
      exact congrArg (changeHosts · request) related.hosts
  | lookup request =>
      rw [answer, answer, answerLookup_related related]
      refine .bind_same _ fun found => ?_
      exact .pure ⟨rfl, related⟩
  | «variable» name =>
      rw [answer, answer, related.environment]
      refine .bind_same _ fun found => ?_
      exact .pure ⟨rfl, related⟩
  | mail request => exact answerMail_alike simulation related request
  | files request => cases apart
  | fault targets rule =>
      refine .pure ⟨rfl, { related with faults := ?_ }⟩
      exact congrArg (Faults.set · targets rule) related.faults

/-! ## Runs -/

/-- What a turn shows of itself and of what was decided by then. -/
structure Sight where
  answer : Answer
  calls : List Call
  events : List Event
  policy : Policy

def Turn.sight (turn : Turn) : Sight :=
  ⟨turn.answer, turn.calls, turn.events, turn.session.policy⟩

theorem turn_alike (simulation : Registry.Simulation Sim) (related : Related Sim a b)
    {request : Request} (apart : leavesFiles request = true) :
    (a.turn request).sight = (b.turn request).sight ∧
      Related Sim (a.turn request).session (b.turn request).session := by
  obtain ⟨⟨same, after⟩, calls, events⟩ := answer_alike simulation related apart
  refine ⟨?_, after⟩
  simp only [Turn.sight, turn, same, calls, events, after.policy]

theorem run_alike (simulation : Registry.Simulation Sim) (related : Related Sim a b)
    {requests : List Request} (apart : requests.all leavesFiles = true) :
    (a.run requests).map Turn.sight = (b.run requests).map Turn.sight ∧
      Related Sim (a.after requests) (b.after requests) := by
  induction requests generalizing a b with
  | nil => exact ⟨rfl, related⟩
  | cons request rest ih =>
      rw [List.all_cons, Bool.and_eq_true] at apart
      obtain ⟨seen, next⟩ := turn_alike simulation related apart.1
      obtain ⟨later, last⟩ := ih next apart.2
      refine ⟨?_, last⟩
      rw [run, run, List.map_cons, List.map_cons, seen, later]

/--
A session with a registry file that is not there yet, that can be made and
that nobody else writes, shows the same at each step as one that is alike but
for keeping its registry in memory.  After each step the file is not there, or
has the domains of the registry in memory, in order and each on a finished line.
-/
theorem file_refines_memory (session : Session) (registry : FileRegistry) (tree : FileTree)
    (missing : registry.tree.read registry.path = .error .missing)
    (creatable : registry.Creatable) (requests : List Request)
    (apart : requests.all leavesFiles = true) :
    let onFile : Session := { session with storage := .ofFile registry }
    let inMemory : Session := { session with storage := ⟨.memory .empty, tree⟩ }
    (onFile.run requests).map Turn.sight = (inMemory.run requests).map Turn.sight ∧
      ∃ names, (inMemory.after requests).storage.keeping = .memory ⟨names⟩ ∧
        ((onFile.after requests).storage.tree.read registry.path = .error .missing ∧
            names = [] ∨
          (onFile.after requests).storage.tree.read registry.path =
            .ok (spelling names).toUTF8) := by
  intro onFile inMemory
  have related : Related (Storage.Transcribes registry.path) onFile inMemory :=
    { storage := ⟨registry, .empty, tree, rfl, rfl, rfl,
        FileRegistry.transcribes_empty missing creatable⟩
      policy := rfl
      hosts := rfl
      environment := rfl
      boxes := rfl
      faults := rfl }
  obtain ⟨seen, last⟩ := run_alike (Storage.transcribes_simulation registry.path) related apart
  refine ⟨seen, ?_⟩
  obtain ⟨after, memory, _, fileEq, samePath, memoryEq, transcribes⟩ := last.storage
  refine ⟨memory.names, by rw [memoryEq], ?_⟩
  rw [fileEq, ← samePath]
  exact transcribes.spells.imp (fun absent => ⟨absent.1, absent.2.1⟩) id

def nestedFile : FileRegistry :=
  ⟨"etc/domains.list", .empty []⟩

def firstRequests : List Request :=
  [.domains (.configure { defaultDomain := "genbyte.dev", domainNames := ["Nyble.Dev"] }),
    .domains (.accepts "nyble.dev"),
    .mail (.deliver false ⟨"gen", "nyble.dev"⟩ "hello".toUTF8),
    .registry (.add "nove.dev"),
    .registry (.add "nove.dev"),
    .registry .list]

/-- Both registries end up with the same three domains, the file with each on a line of its own. -/
theorem file_refines_memory_nested :
    let start := Session.start Storage.blank .empty
    let onFile : Session := { start with storage := .ofFile nestedFile }
    nestedFile.tree.read nestedFile.path = .error .missing ∧ nestedFile.Creatable ∧
      firstRequests.all leavesFiles = true ∧
      (onFile.run firstRequests).map Turn.sight = (start.run firstRequests).map Turn.sight ∧
      (start.after firstRequests).storage.keeping =
        .memory ⟨["genbyte.dev", "nyble.dev", "nove.dev"]⟩ ∧
      (onFile.after firstRequests).storage.tree.read "etc/domains.list" =
        .ok "genbyte.dev\nnyble.dev\nnove.dev\n".toUTF8 := by
  have missing : nestedFile.tree.read nestedFile.path = .error .missing := by rfl
  have creatable : nestedFile.Creatable :=
    ⟨by rfl, ["etc", "domains.list"], by rfl, by rfl⟩
  have apart : firstRequests.all leavesFiles = true := by rfl
  have inMemory : ((Session.start Storage.blank .empty).after firstRequests).storage.keeping =
      .memory ⟨["genbyte.dev", "nyble.dev", "nove.dev"]⟩ := by rfl
  obtain ⟨seen, names, held, kept⟩ :=
    file_refines_memory (Session.start Storage.blank .empty) nestedFile (.empty []) missing
      creatable firstRequests apart
  have same : names = ["genbyte.dev", "nyble.dev", "nove.dev"] := by
    have keepings := held.symm.trans inMemory
    cases keepings
    rfl
  refine ⟨missing, creatable, apart, seen, inMemory, ?_⟩
  rcases kept with ⟨_, empty⟩ | spelled
  · rw [same] at empty
    cases empty
  · rwa [same] at spelled

end Session

end MailHost
