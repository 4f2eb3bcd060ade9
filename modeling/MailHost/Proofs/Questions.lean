import MailHost.Proofs.Listing
import MailHost.Session

/-!
# The calls of a question

A question about the domains of a host makes its calls in a fixed order: the
registry first, then the machine for its own name, then one lookup for the
addresses of each domain.  A lookup that fails does not keep the later ones from
being made.
-/

namespace MailHost

def Resolver.machineCalls (resolver : Resolver) : List Call :=
  match resolver.localAddress with
  | .error _ => [.localAddress]
  | .ok address => [.localAddress, .hostName address]

theorem Resolver.localHostName_calls (resolver : Resolver) :
    resolver.localHostName.calls = resolver.machineCalls := by
  rw [localHostName, Traced.calls_bind, value_askLocalAddress, machineCalls]
  cases resolver.localAddress <;> rfl

namespace LocalDomains

variable {σ : Type} [Registry σ]

def nameCalls (policy : Policy) (resolver : Resolver) : List Call :=
  if policy.autodetect then resolver.machineCalls else []

def addressCalls (policy : Policy) (hosts : List String) : List Call :=
  if policy.autodetectIp then hosts.map .addresses else []

theorem detectedNames_calls (policy : Policy) (resolver : Resolver) :
    (detectedNames policy resolver).calls = nameCalls policy resolver := by
  unfold detectedNames nameCalls
  cases policy.autodetect with
  | false => rfl
  | true => simp [Resolver.localHostName_calls]

/-- Each host is looked up once, whatever comes of it. -/
theorem addressesOf_calls (resolver : Resolver) (found hosts : List String) :
    (addressesOf resolver found hosts).calls = hosts.map .addresses := by
  induction hosts generalizing found with
  | nil => rfl
  | cons host rest ih =>
      rw [addressesOf, Traced.calls_bind, Resolver.value_askAddresses, List.map_cons]
      cases resolver.addresses host with
      | ok addresses => exact congrArg (List.cons _) (ih (addNew found addresses))
      | error cause =>
          simp only [Traced.calls_bind, Traced.calls_tell, List.nil_append]
          exact congrArg (List.cons _) (ih found)

theorem detectedAddresses_calls (policy : Policy) (resolver : Resolver) (hosts : List String) :
    (detectedAddresses policy resolver hosts).calls = addressCalls policy hosts := by
  unfold detectedAddresses addressCalls
  cases policy.autodetectIp with
  | false => rfl
  | true => exact addressesOf_calls resolver [] hosts

theorem listing_calls (domains : LocalDomains σ) (resolver : Resolver) :
    (domains.listing resolver).calls =
      .registryList ::
        match Registry.list domains.store with
        | .error _ => []
        | .ok registered =>
            nameCalls domains.policy resolver ++
              addressCalls domains.policy (registered ++ nameTier domains.policy resolver) := by
  rw [listing, Traced.calls_bind, Registry.value_askList]
  cases Registry.list domains.store with
  | error cause => rfl
  | ok registered =>
      simp [Registry.askList, detectedNames_calls, detectedNames_value, detectedAddresses_calls]

/-- The registry is asked first, and what it contains is looked for no further. -/
theorem accepts_calls (domains : LocalDomains σ) (resolver : Resolver) (domain : String) :
    (domains.accepts resolver domain).calls =
      .registryContains domain ::
        match Registry.contains domains.store domain with
        | .ok false => (domains.listing resolver).calls
        | _ => [] := by
  rw [accepts, Traced.calls_bind, Registry.value_askContains]
  match Registry.contains domains.store domain with
  | .error cause => rfl
  | .ok true => rfl
  | .ok false =>
      simp only [Traced.calls_bind]
      cases (domains.listing resolver).value <;> simp [Registry.askContains]

end LocalDomains

/-!
## Questions in a session

The calls of a question are planned before it is asked: what the registry and
the machine answer decides which ones there are, and no answer to a lookup of
addresses does.  Whatever fails, a session makes just these calls, and it is the
same session afterwards, so that one question after the other can be asked.
-/

inductive Question where
  | listing
  | accepts (domain : String)
  | defaultDomain

namespace Question

def request : Question → Request
  | .listing => .domains .listing
  | .accepts domain => .domains (.accepts domain)
  | .defaultDomain => .domains .defaultDomain

section

variable {σ : Type} [Registry σ]

/--
The calls for a listing: the registry, the machine for its name, and then each
domain found by these two for its addresses.
-/
def listingPlan (domains : LocalDomains σ) (resolver : Resolver) : List Call :=
  .registryList ::
    match Registry.list domains.store with
    | .error _ => []
    | .ok registered =>
        LocalDomains.nameCalls domains.policy resolver ++
          LocalDomains.addressCalls domains.policy
            (registered ++ LocalDomains.nameTier domains.policy resolver)

def plan (domains : LocalDomains σ) (resolver : Resolver) : Question → List Call
  | .listing => listingPlan domains resolver
  | .accepts domain =>
      .registryContains domain ::
        match Registry.contains domains.store domain with
        | .ok false => listingPlan domains resolver
        | _ => []
  | .defaultDomain => []

/-- What questions call: neither is anything registered, nor is the environment or mail asked. -/
def targets : List Target :=
  [.registryList, .registryContains, .localAddress, .hostName, .addresses]

theorem targets_of_mem_nameCalls {policy : Policy} {resolver : Resolver} {call : Call}
    (member : call ∈ LocalDomains.nameCalls policy resolver) : call.target ∈ targets := by
  rw [LocalDomains.nameCalls, Resolver.machineCalls] at member
  split at member
  · split at member
    · rw [List.mem_singleton.mp member]
      decide
    · rcases List.mem_cons.mp member with rfl | named
      · decide
      · rw [List.mem_singleton.mp named]
        change Target.hostName ∈ targets
        decide
  · cases member

theorem targets_of_mem_addressCalls {policy : Policy} {hosts : List String} {call : Call}
    (member : call ∈ LocalDomains.addressCalls policy hosts) : call.target ∈ targets := by
  rw [LocalDomains.addressCalls] at member
  split at member
  · obtain ⟨host, _, rfl⟩ := List.mem_map.mp member
    change Target.addresses ∈ targets
    decide
  · cases member

theorem targets_of_mem_listingPlan {domains : LocalDomains σ} {resolver : Resolver} {call : Call}
    (member : call ∈ listingPlan domains resolver) : call.target ∈ targets := by
  rw [listingPlan] at member
  rcases List.mem_cons.mp member with rfl | later
  · decide
  · cases listed : Registry.list domains.store with
    | error cause =>
        rw [listed] at later
        cases later
    | ok registered =>
        rw [listed] at later
        rcases List.mem_append.mp later with named | looked
        · exact targets_of_mem_nameCalls named
        · exact targets_of_mem_addressCalls looked

theorem targets_of_mem_plan {domains : LocalDomains σ} {resolver : Resolver} {call : Call}
    (question : Question) (member : call ∈ question.plan domains resolver) :
    call.target ∈ targets := by
  cases question with
  | listing => exact targets_of_mem_listingPlan member
  | accepts domain =>
      rw [plan] at member
      rcases List.mem_cons.mp member with rfl | later
      · change Target.registryContains ∈ targets
        decide
      · split at later
        · exact targets_of_mem_listingPlan later
        · cases later
  | defaultDomain => cases member

end

end Question

namespace LocalDomains

variable {σ : Type} [Registry σ] (domains : LocalDomains σ) (resolver : Resolver)

theorem listing_calls_eq_plan :
    (domains.listing resolver).calls = Question.listing.plan domains resolver :=
  domains.listing_calls resolver

theorem accepts_calls_eq_plan (domain : String) :
    (domains.accepts resolver domain).calls = (Question.accepts domain).plan domains resolver := by
  rw [accepts_calls, listing_calls_eq_plan]
  rfl

end LocalDomains

namespace Session

variable (session : Session)

/-! ### One question -/

theorem calls_turn_question (question : Question) :
    (session.turn question.request).calls = question.plan session.domains session.resolver := by
  cases question with
  | listing =>
      have asked := session.domains.listing_calls_eq_plan session.resolver
      rw [← asked]
      exact List.append_nil _
  | accepts domain =>
      have asked := session.domains.accepts_calls_eq_plan session.resolver domain
      rw [← asked]
      exact List.append_nil _
  | defaultDomain => rfl

theorem session_turn_question (question : Question) :
    (session.turn question.request).session = session := by
  cases question <;> rfl

/-! ### One question after the other -/

theorem after_questions (questions : List Question) :
    session.after (questions.map Question.request) = session := by
  induction questions with
  | nil => rfl
  | cons question rest ih =>
      rw [List.map_cons, after, session.session_turn_question question]
      exact ih

theorem calls_run_questions (questions : List Question) :
    (session.run (questions.map Question.request)).map Turn.calls =
      questions.map fun question => question.plan session.domains session.resolver := by
  induction questions with
  | nil => rfl
  | cons question rest ih =>
      rw [List.map_cons, run, session.session_turn_question question, List.map_cons, ih,
        session.calls_turn_question question, List.map_cons]

/--
Whatever a resolver answers, and whatever fails, the questions make the calls
that are planned for them, in order and no others, and none of these changes
anything or asks for the environment or for mail.  Questions asked one after the
other each make the calls planned at the start, and leave the session as it was.
-/
theorem questions_follow_plan (resolver : Resolver) (domain : String)
    (questions : List Question) :
    (session.domains.listing resolver).calls =
        Question.listing.plan session.domains resolver ∧
      (session.domains.accepts resolver domain).calls =
        (Question.accepts domain).plan session.domains resolver ∧
      (∀ question : Question,
        (question.plan session.domains resolver).map Call.target ⊆ Question.targets) ∧
      (session.run (questions.map Question.request)).map Turn.calls =
        questions.map (fun question => question.plan session.domains session.resolver) ∧
      session.after (questions.map Question.request) = session := by
  refine ⟨session.domains.listing_calls_eq_plan resolver,
    session.domains.accepts_calls_eq_plan resolver domain, ?_,
    session.calls_run_questions questions, session.after_questions questions⟩
  intro question target member
  obtain ⟨call, planned, rfl⟩ := List.mem_map.mp member
  exact Question.targets_of_mem_plan question planned

end Session

end MailHost
