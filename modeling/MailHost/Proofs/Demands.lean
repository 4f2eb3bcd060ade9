import MailHost.LocalDomains
import MailHost.Proofs.LetterCase

/-!
# Demands on a registry

What the strict part of configuring asks of a registry is a row of demands: the
domain of the environment as it is written, then each configured name in lower
case unless it is registered as it is written.  Demands are carried out in
order up to the first that is refused.  `Met` says what it takes for all of
them to be met, and `Stopped` adds the two ways in which a row of demands ends.
-/

namespace MailHost

def refusal? (held : List String) (domain : String) : Option RegistryError :=
  if DomainName.isValid domain = false then some (.invalidDomain domain)
  else if domain ∈ held then some (.duplicate domain)
  else none

theorem refusal?_eq_none_iff {held : List String} {domain : String} :
    refusal? held domain = none ↔ DomainName.isValid domain = true ∧ domain ∉ held := by
  rw [refusal?]
  cases valid : DomainName.isValid domain <;> by_cases known : domain ∈ held <;> simp [known]

theorem MemoryRegistry.add_value (registry : MemoryRegistry) (domain : String) :
    Registry.add registry domain =
      match refusal? registry.names domain with
      | some cause => (.error cause, registry)
      | none => (.ok (), ⟨registry.names ++ [domain]⟩) := by
  change registry.add domain = _
  rw [MemoryRegistry.add, refusal?]
  cases valid : DomainName.isValid domain with
  | false => rfl
  | true => by_cases known : domain ∈ registry.names <;> simp [known]

/-- What is asked of a registry while configuring. -/
inductive Demand where
  | verbatim (domain : String)
  | named (name : String)

namespace Demand

/-- The domain to register for a demand, if one is to be registered at all. -/
def addition? (held : List String) : Demand → Option String
  | .verbatim domain => some domain
  | .named name => if name ∈ held then none else some (Text.lower name)

/-- What is looked up before anything is registered. -/
def questions : Demand → List Call
  | .verbatim _ => []
  | .named name => [.registryContains name]

/-! ## Carrying out -/

structure Progress where
  asked : List Call
  held : List String
  refused : Option RegistryError

def Progress.preceded (progress : Progress) (calls : List Call) : Progress :=
  { progress with asked := calls ++ progress.asked }

/-- Carry out demands on a registry that holds some domains, up to the first refused one. -/
def carryOut (held : List String) : List Demand → Progress
  | [] => ⟨[], held, none⟩
  | demand :: rest =>
      match demand.addition? held with
      | none => (carryOut held rest).preceded demand.questions
      | some domain =>
          match refusal? held domain with
          | some cause => ⟨demand.questions ++ [.registryAdd domain], held, some cause⟩
          | none =>
              (carryOut (held ++ [domain]) rest).preceded
                (demand.questions ++ [.registryAdd domain])

theorem carryOut_passed {held : List String} {demand : Demand} (rest : List Demand)
    (settled : demand.addition? held = none) :
    carryOut held (demand :: rest) = (carryOut held rest).preceded demand.questions := by
  rw [carryOut, settled]

theorem carryOut_refused {held : List String} {demand : Demand} {domain : String}
    {cause : RegistryError} (rest : List Demand) (wanted : demand.addition? held = some domain)
    (refusal : refusal? held domain = some cause) :
    carryOut held (demand :: rest) =
      ⟨demand.questions ++ [.registryAdd domain], held, some cause⟩ := by
  rw [carryOut, wanted]
  simp only [refusal]

theorem carryOut_registered {held : List String} {demand : Demand} {domain : String}
    (rest : List Demand) (wanted : demand.addition? held = some domain)
    (accepted : refusal? held domain = none) :
    carryOut held (demand :: rest) =
      (carryOut (held ++ [domain]) rest).preceded
        (demand.questions ++ [.registryAdd domain]) := by
  rw [carryOut, wanted]
  simp only [accepted]

/-! ## Meeting demands -/

/--
All demands are met, from what is held at the start, with some calls and some
newly registered domains.
-/
inductive Met : List String → List Demand → List Call → List String → Prop where
  | done {held : List String} : Met held [] [] []
  | passed {held : List String} {demand : Demand} {rest : List Demand} {asked : List Call}
      {added : List String} (settled : demand.addition? held = none)
      (later : Met held rest asked added) :
      Met held (demand :: rest) (demand.questions ++ asked) added
  | registered {held : List String} {demand : Demand} {rest : List Demand} {asked : List Call}
      {added : List String} {domain : String} (wanted : demand.addition? held = some domain)
      (accepted : refusal? held domain = none)
      (later : Met (held ++ [domain]) rest asked added) :
      Met held (demand :: rest) (demand.questions ++ .registryAdd domain :: asked)
        (domain :: added)

/-- How a row of demands ends: all are met, or those before the first refused one are. -/
inductive Stopped (held : List String) (demands : List Demand) :
    List Call → List String → Option RegistryError → Prop where
  | met {asked : List Call} {added : List String} (all : Met held demands asked added) :
      Stopped held demands asked added none
  | refused {before rest : List Demand} {next : Demand} {asked : List Call}
      {added : List String} {domain : String} {cause : RegistryError}
      (split : demands = before ++ next :: rest) (earlier : Met held before asked added)
      (wanted : next.addition? (held ++ added) = some domain)
      (refusal : refusal? (held ++ added) domain = some cause) :
      Stopped held demands (asked ++ next.questions ++ [.registryAdd domain]) added (some cause)

namespace Stopped

variable {held : List String} {demand : Demand} {rest : List Demand} {asked : List Call}
  {added : List String} {refusal : Option RegistryError}

theorem passed (settled : demand.addition? held = none)
    (later : Stopped held rest asked added refusal) :
    Stopped held (demand :: rest) (demand.questions ++ asked) added refusal := by
  cases later with
  | met all => exact .met (.passed settled all)
  | @refused before after next asked _ domain cause split earlier wanted refusal =>
      have whole : Stopped held (demand :: rest)
          (demand.questions ++ asked ++ next.questions ++ [.registryAdd domain]) added
          (some cause) :=
        .refused (by rw [split]; rfl) (.passed settled earlier) wanted refusal
      simpa only [List.append_assoc] using whole

theorem registered {domain : String} (wanted : demand.addition? held = some domain)
    (accepted : refusal? held domain = none)
    (later : Stopped (held ++ [domain]) rest asked added refusal) :
    Stopped held (demand :: rest) (demand.questions ++ .registryAdd domain :: asked)
      (domain :: added) refusal := by
  cases later with
  | met all => exact .met (.registered wanted accepted all)
  | @refused before after next asked _ other cause split earlier reached refusal =>
      rw [List.append_assoc, List.singleton_append] at reached refusal
      have whole : Stopped held (demand :: rest)
          (demand.questions ++ .registryAdd domain :: asked ++ next.questions ++
            [.registryAdd other])
          (domain :: added) (some cause) :=
        .refused (by rw [split]; rfl) (.registered wanted accepted earlier) reached refusal
      simpa only [List.append_assoc, List.cons_append] using whole

end Stopped

/-- Carrying out demands ends in one of the two ways, and holds what was registered. -/
theorem carryOut_stopped (held : List String) (demands : List Demand) :
    ∃ added, (carryOut held demands).held = held ++ added ∧
      Stopped held demands (carryOut held demands).asked added
        (carryOut held demands).refused := by
  induction demands generalizing held with
  | nil => exact ⟨[], (List.append_nil held).symm, .met .done⟩
  | cons demand rest ih =>
      cases wanted : demand.addition? held with
      | none =>
          obtain ⟨added, heldEq, stopped⟩ := ih held
          rw [carryOut_passed rest wanted]
          exact ⟨added, heldEq, stopped.passed wanted⟩
      | some domain =>
          cases verdict : refusal? held domain with
          | some cause =>
              rw [carryOut_refused rest wanted verdict]
              refine ⟨[], (List.append_nil held).symm, ?_⟩
              exact .refused (List.nil_append _).symm .done (by rwa [List.append_nil])
                (by rwa [List.append_nil])
          | none =>
              obtain ⟨added, heldEq, stopped⟩ := ih (held ++ [domain])
              rw [carryOut_registered rest wanted verdict]
              refine ⟨domain :: added, ?_, ?_⟩
              · simpa only [Progress.preceded, List.append_assoc, List.singleton_append] using
                  heldEq
              · simpa only [Progress.preceded, List.append_assoc, List.singleton_append] using
                  stopped.registered wanted verdict

/-- Demands that can all be met are carried out without a refusal. -/
theorem carryOut_of_met {held : List String} {demands : List Demand} {asked : List Call}
    {added : List String} (met : Met held demands asked added) :
    carryOut held demands = ⟨asked, held ++ added, none⟩ := by
  induction met with
  | done => rw [carryOut, List.append_nil]
  | passed settled later ih => rw [carryOut_passed _ settled, ih]; rfl
  | registered wanted accepted later ih =>
      rw [carryOut_registered _ wanted accepted, ih]
      simp only [Progress.preceded, List.append_assoc, List.singleton_append]

theorem refused_eq_none_iff {held : List String} {demands : List Demand} :
    (carryOut held demands).refused = none ↔ ∃ asked added, Met held demands asked added := by
  constructor
  · intro fulfilled
    obtain ⟨added, _, stopped⟩ := carryOut_stopped held demands
    rw [fulfilled] at stopped
    generalize (carryOut held demands).asked = asked at stopped
    cases stopped with
    | met all => exact ⟨asked, added, all⟩
  · rintro ⟨asked, added, met⟩
    rw [carryOut_of_met met]

/-! ## Demands without a refusal -/

theorem fulfilled_verbatim_iff {held : List String} {domain : String} {rest : List Demand} :
    (carryOut held (.verbatim domain :: rest)).refused = none ↔
      refusal? held domain = none ∧ (carryOut (held ++ [domain]) rest).refused = none := by
  have wanted : (Demand.verbatim domain).addition? held = some domain := rfl
  cases refusal : refusal? held domain with
  | some cause => simp [carryOut_refused rest wanted refusal]
  | none => simp [carryOut_registered rest wanted refusal, Progress.preceded]

theorem fulfilled_named_of_mem {held : List String} {name : String} {rest : List Demand}
    (known : name ∈ held) :
    (carryOut held (.named name :: rest)).refused = none ↔
      (carryOut held rest).refused = none := by
  have settled : (Demand.named name).addition? held = none := if_pos known
  rw [carryOut_passed rest settled]
  exact Iff.rfl

theorem fulfilled_named_of_not_mem {held : List String} {name : String} {rest : List Demand}
    (unknown : name ∉ held) :
    (carryOut held (.named name :: rest)).refused = none ↔
      refusal? held (Text.lower name) = none ∧
        (carryOut (held ++ [Text.lower name]) rest).refused = none := by
  have wanted : (Demand.named name).addition? held = some (Text.lower name) := if_neg unknown
  cases refusal : refusal? held (Text.lower name) with
  | some cause => simp [carryOut_refused rest wanted refusal]
  | none => simp [carryOut_registered rest wanted refusal, Progress.preceded]

/-- Carrying out names adds the lower-case forms of those that were not held at the start. -/
theorem mem_carryOut_names_iff {held names : List String}
    (fine : (carryOut held (names.map .named)).refused = none) {domain : String} :
    domain ∈ (carryOut held (names.map .named)).held ↔
      domain ∈ held ∨ ∃ name ∈ names, name ∉ held ∧ Text.lower name = domain := by
  induction names generalizing held with
  | nil => simp [carryOut]
  | cons name rest ih =>
      rw [List.map_cons] at fine ⊢
      by_cases known : name ∈ held
      · have settled : (Demand.named name).addition? held = none := if_pos known
        rw [fulfilled_named_of_mem known] at fine
        rw [carryOut_passed _ settled]
        refine (ih fine).trans (or_congr_right ?_)
        simp [known]
      · have wanted : (Demand.named name).addition? held = some (Text.lower name) := if_neg known
        obtain ⟨accepted, fine⟩ := (fulfilled_named_of_not_mem known).mp fine
        have small := Text.lower_lower_of_isValid (refusal?_eq_none_iff.mp accepted).1
        rw [carryOut_registered _ wanted accepted]
        refine (ih fine).trans ?_
        constructor
        · rintro (added | ⟨other, member, missing, same⟩)
          · rcases List.mem_append.mp added with old | new
            · exact Or.inl old
            · exact Or.inr ⟨name, List.mem_cons_self .., known, (List.mem_singleton.mp new).symm⟩
          · have absent : other ∉ held := fun old => missing (List.mem_append_left _ old)
            exact Or.inr ⟨other, List.mem_cons_of_mem name member, absent, same⟩
        · rintro (old | ⟨other, member, missing, rfl⟩)
          · exact Or.inl (List.mem_append_left _ old)
          · have added := List.mem_append_right held (List.mem_singleton_self (Text.lower name))
            rcases List.mem_cons.mp member with rfl | later
            · exact Or.inl added
            · by_cases brought : other = Text.lower name
              · -- it will be passed over, and is its own lower-case form
                rw [brought, small]
                exact Or.inl added
              · refine Or.inr ⟨other, later, ?_, rfl⟩
                rw [List.mem_append, not_or, List.mem_singleton]
                exact ⟨missing, brought⟩

end Demand

end MailHost
